import Cartouche.Json.Fault
import Cartouche.Decimal.Literal

/-!
What a text says, as far as it can be read. A text that breaks off keeps everything before the
break, so that a reader who takes the parts in order meets the first fault of either kind first.
Two things are found only by those who look at a leaf: a number that fits no number type, and a
text with half a surrogate pair.
-/
namespace Cartouche.Json
open Decimal

inductive Number where
  | integer (i : Int)
  | decimal (x : Float)

def Number.value {α : Type} [Floating α] : Number → α
  | .integer i => Literal.value ⟨i < 0, i.natAbs, 0⟩
  | .decimal x => (decode x).convert

def Number.toFloat : Number → Float
  | .integer i => (Number.integer i).value
  | .decimal x => x

/-- A place where the text breaks off, as it shows to who reads it and to who skips it. -/
structure Break where
  seen : SyntaxFault
  skipped : SyntaxFault

def Break.same (fault : SyntaxFault) : Break :=
  ⟨fault, fault⟩

inductive Node where
  | null
  | bool (b : Bool)
  /-- A number as it stands, and as a number of one given type. -/
  | number (general : Except Fault Number) (real : Except Fault Float)
  | text (content : Except Fault String)
  /-- The items before the end or before the break. -/
  | list (items : List Node) (ending : Option Break)
  | object (fields : List (Except Fault String × Node)) (ending : Option Break)
  | broken (place : Break)

/-- What a node is, for a message; a reader who asks meets the fault of a leaf. -/
def Node.found : Node → Except Fault Found
  | .null => .ok .null
  | .bool b => .ok (.bool b)
  | .number general _ => general.map fun
    | .integer i => .integer i
    | .decimal x => .decimal x
  | .text content => content.map .text
  | .list _ _ => .ok .list
  | .object _ _ => .ok .object
  | .broken place => .error (.syntactic place.seen)

end Cartouche.Json
