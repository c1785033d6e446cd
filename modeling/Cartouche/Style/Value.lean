import Cartouche.Data.Coercion

/-! Values of style properties: numbers stay numbers, all else is text. -/
namespace Cartouche
open Decimal Text

inductive StyleValue where
  | number (n : Float)
  | text (s : String)

/-- Zeros at the end of a fraction go, and the point with them; zero has no sign. -/
def canonicalFixed (text : List Char) : List Char :=
  let short := if '.' ∈ text then dropTrailing '.' (dropTrailing '0' text) else text
  if short = ['-', '0'] then ['0'] else short

/-- A number with at most the given places. -/
def fixedText (places : Nat) (n : Float) : String :=
  .ofList (canonicalFixed ((decode n).fixed places))

namespace StyleValue

def toFloat? : StyleValue → Option Float
  | .number n => some n
  | .text s => read? (trim s.toList)

/-- As a legend shows it: numbers have at most two places. -/
def legendText : StyleValue → String
  | .number n => fixedText 2 n
  | .text s => s

def display : StyleValue → String
  | .number n => numberText n
  | .text s => s

def toJson : StyleValue → Json
  | .number n => numberJson n
  | .text s => .text s

/-- The style a data value gives; null gives none. -/
def ofValue? : Value → Option StyleValue
  | .null => none
  | .number n => some (.number n)
  | v => some (.text v.display)

end StyleValue

end Cartouche
