import Cartouche.Text.Alphanumeric
import Cartouche.Text.Blank
import Cartouche.Text.Lowercase

/-!
Slugs: texts made fit for ids. Letters and numbers are kept in lower case, and whatever stands
between two of them becomes one dash.
-/
namespace Cartouche.Text

/-- Adds a character to a slug that is held with its last character first. -/
def slugStep (out : List Char) (c : Char) : List Char :=
  if isAlphanumeric c then (lower c).reverse ++ out
  else if out.head? = some '-' then out
  else '-' :: out

def slugChars (text : List Char) : List Char :=
  (((trim text).foldl slugStep []).dropWhile (· == '-')).reverse.dropWhile (· == '-')

def slug (text : String) : String :=
  .ofList (slugChars text.toList)

end Cartouche.Text
