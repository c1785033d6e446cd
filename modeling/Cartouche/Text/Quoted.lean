import Cartouche.Text.Hidden

/-!
Texts quoted in messages: every character can be told apart, since what shows nothing of its own
is written by its code point.
-/
namespace Cartouche.Text

def shownChar (c : Char) : List Char :=
  if c = '\x00' then ['\\', '0']
  else if c = '\t' then ['\\', 't']
  else if c = '\r' then ['\\', 'r']
  else if c = '\n' then ['\\', 'n']
  else if c = '\\' then ['\\', '\\']
  else if c = '"' then ['\\', '"']
  else if isHidden c then '\\' :: 'u' :: '\x7b' :: Nat.toDigits 16 c.toNat ++ ['\x7d']
  else [c]

def quoted (text : String) : String :=
  .ofList ('"' :: text.toList.flatMap shownChar ++ ['"'])

end Cartouche.Text
