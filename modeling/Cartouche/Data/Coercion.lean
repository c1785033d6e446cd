import Cartouche.Data.Value
import Cartouche.Decimal.Literal
import Cartouche.Text.Blank

/-! Values read as text, as a number or as a truth value, where a defined value has all three. -/
namespace Cartouche
open Decimal Text

/-- A number in surrounding blanks, if it is finite. -/
def finiteNumber? (s : String) : Option Float :=
  match (read? (trim s.toList) : Option Float) with
  | some x => if x.isFinite then some x else none
  | none => none

namespace Value

/-- What does not read as a number is zero. -/
def toNumber : Value → Float
  | .number n => if n.isNaN then 0 else n
  | .bool b => if b then 1 else 0
  | .text s => (finiteNumber? s).getD 0
  | _ => 0

/-- A few words read as truth values; any other text is true unless it is empty. -/
def toBool : Value → Bool
  | .null => false
  | .bool b => b
  | .number n => !(n == 0) && !n.isNaN
  | .text s =>
    let word := trimmed s
    if word = "true" ∨ word = "yes" ∨ word = "1" then true
    else if word = "false" ∨ word = "no" ∨ word = "0" then false
    else s != ""
  | .list _ => true
  | .object _ => true

end Value

/-- What a value can be read as. -/
inductive Target where
  | text
  | number
  | truth

/-- Undefined and null stay what they are. -/
def coerce (value : Option Value) (target : Target) : Option Value :=
  value.map fun v =>
    if v.isNull then .null
    else match target with
      | .text => .text v.display
      | .number => .number v.toNumber
      | .truth => .bool v.toBool

def isTruthy (value : Option Value) : Bool :=
  value.any Value.toBool

end Cartouche
