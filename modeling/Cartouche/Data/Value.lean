import Cartouche.Json.Basic
import Cartouche.Table

/-! Data values: trees of texts, numbers and truth values, as read from the sources. -/
namespace Cartouche
open Decimal

inductive Value where
  | null
  | bool (b : Bool)
  | number (n : Float)
  | text (s : String)
  | list (items : List Value)
  | object (fields : List (String × Value))

/-- Numbers in labels: the fewest digits that read back, always positional, zero without a sign. -/
def labelForm : Form where
  positional := none
  pointZero := false
  signedZero := false
  tieUp := true
  nan := "NaN"
  infinite := infiniteWord

def numberText (n : Float) : String :=
  labelForm.write n

/-- The greatest integer up to which every integer is a number of its own. -/
def greatestExactInteger : Nat :=
  9007199254740991

/-- Integral numbers are written as integers, so that they come back unchanged. -/
def numberJson (n : Float) : Json :=
  match (decode n).toInt? with
  | some i => if i.natAbs ≤ greatestExactInteger then .ofInt i else .ofFloat n
  | none => .ofFloat n

namespace Value

def typeName : Value → String
  | .null => "null"
  | .bool _ => "boolean"
  | .number _ => "number"
  | .text _ => "string"
  | .list _ => "array"
  | .object _ => "object"

def isNull : Value → Bool
  | .null => true
  | _ => false

def number? : Value → Option Float
  | .number n => some n
  | _ => none

def text? : Value → Option String
  | .text s => some s
  | _ => none

mutual
def toJson : Value → Json
  | .null => .null
  | .bool b => .bool b
  | .number n => numberJson n
  | .text s => .text s
  | .list items => .list (itemsJson items)
  | .object fields => .object (fieldsJson fields)

def itemsJson : List Value → List Json
  | [] => []
  | item :: rest => item.toJson :: itemsJson rest

def fieldsJson : List (String × Value) → List (String × Json)
  | [] => []
  | (key, value) :: rest => (key, value.toJson) :: fieldsJson rest
end

/-- Values as text: texts as they are, compound values as JSON. -/
def display : Value → String
  | .null => "null"
  | .bool b => if b then "true" else "false"
  | .number n => numberText n
  | .text s => s
  | v => v.toJson.line

end Value

end Cartouche
