import Cartouche.Decimal.Form
import Cartouche.Json.Text

/-!
JSON to be written: a tree whose numbers already have their text. Objects keep the order of their
fields. Two layouts: one line without spaces, and one item a line.
-/
namespace Cartouche
open Decimal

inductive Json where
  | null
  | bool (b : Bool)
  | number (digits : String)
  | text (s : String)
  | list (items : List Json)
  | object (fields : List (String × Json))

namespace Json

/-- 64-bit numbers: the fewest digits that read back, positional from `10 ^ -5` to below
`10 ^ 16`; JSON has no text for what is not finite. -/
def form64 : Form where
  positional := some (-5, 15)
  pointZero := true
  signedZero := true
  tieUp := false
  nan := "null"
  infinite := fun _ => "null"

/-- 32-bit numbers are positional from `10 ^ -6` to below `10 ^ 13`. -/
def form32 : Form :=
  { form64 with positional := some (-6, 12) }

def ofFloat (x : Float) : Json :=
  .number (form64.write x)

def ofFloat32 (x : Float32) : Json :=
  .number (form32.write x)

def ofNat (n : Nat) : Json :=
  .number (.ofList (digitsOf n))

def ofInt (i : Int) : Json :=
  .number (.ofList (if i < 0 then '-' :: digitsOf i.natAbs else digitsOf i.natAbs))

mutual
/-- One line without spaces. -/
def compact : Json → List Char
  | .null => "null".toList
  | .bool b => (if b then "true" else "false").toList
  | .number digits => digits.toList
  | .text s => quote s.toList
  | .list items => '[' :: compactItems items ++ [']']
  | .object fields => '{' :: compactFields fields ++ ['}']

def compactItems : List Json → List Char
  | [] => []
  | [item] => item.compact
  | item :: rest => item.compact ++ ',' :: compactItems rest

def compactFields : List (String × Json) → List Char
  | [] => []
  | [(key, value)] => quote key.toList ++ ':' :: value.compact
  | (key, value) :: rest => quote key.toList ++ ':' :: value.compact ++ ',' :: compactFields rest
end

def newline (depth : Nat) : List Char :=
  '\n' :: List.replicate (2 * depth) ' '

mutual
/-- One item a line, each level two spaces further in; what is empty stays on its line. -/
def pretty (depth : Nat) : Json → List Char
  | .list items =>
    if items.isEmpty then ['[', ']']
    else '[' :: prettyItems (depth + 1) items ++ newline depth ++ [']']
  | .object fields =>
    if fields.isEmpty then ['{', '}']
    else '{' :: prettyFields (depth + 1) fields ++ newline depth ++ ['}']
  | other => other.compact

def prettyItems (depth : Nat) : List Json → List Char
  | [] => []
  | [item] => newline depth ++ item.pretty depth
  | item :: rest => newline depth ++ item.pretty depth ++ ',' :: prettyItems depth rest

def prettyFields (depth : Nat) : List (String × Json) → List Char
  | [] => []
  | [(key, value)] => newline depth ++ quote key.toList ++ ':' :: ' ' :: value.pretty depth
  | (key, value) :: rest =>
    newline depth ++ quote key.toList ++ ':' :: ' ' :: value.pretty depth ++
      ',' :: prettyFields depth rest
end

def line (json : Json) : String :=
  .ofList json.compact

def lines (json : Json) : String :=
  .ofList (json.pretty 0)

/-- A field that is left out where there is nothing to write. -/
def optionalField (key : String) (value : Option Json) : List (String × Json) :=
  match value with
  | some json => [(key, json)]
  | none => []

end Json

end Cartouche
