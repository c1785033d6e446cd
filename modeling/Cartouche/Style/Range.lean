import Cartouche.Style.Color
import Cartouche.Style.Value
import Cartouche.Text.Quoted

/-!
Scale ranges and the positions between their ends. The rules hold for every number type, so they
can be read in exact arithmetic as well as in the numbers of the machine.
-/
namespace Cartouche
open Text

/-- One end of a range of colours, with the text that it was written as. -/
structure ColorStop where
  color : Rgb
  text : String
deriving DecidableEq

/-- What a scale runs between. -/
inductive ScaleRange (α : Type) where
  | numeric (first last : α)
  | color (first last : ColorStop)

def ColorStop.parse? (text : String) : Option ColorStop :=
  (Rgb.parse? text).map fun color => ⟨color, trimmed text⟩

/-- Two finite numbers, or else two colours. -/
def ScaleRange.parse? (first last : String) : Option (ScaleRange Float) :=
  match finiteNumber? first, finiteNumber? last with
  | some a, some b => some (.numeric a b)
  | _, _ =>
    match ColorStop.parse? first, ColorStop.parse? last with
    | some a, some b => some (.color a b)
    | _, _ => none

section Interpolation
variable {α : Type} [Add α] [Sub α] [Mul α] [Div α] [OfNat α 0] [OfNat α 1] [LT α] [LE α]
  [DecidableLT α] [DecidableLE α]

omit [Add α] [Mul α] [OfNat α 1] [LE α] [DecidableLE α] in
/-- Where a number lies on the way from one end of a domain to the other; outside it counts as
the nearer end, and a domain of one point has no way at all. -/
def position (low high x : α) : α :=
  if low < high then (clamp low high x - low) / (high - low) else 0

omit [Div α] [LT α] [DecidableLT α] in
/-- The number at a position between two ends, which are themselves met exactly. -/
def interpolate (first last t : α) : α :=
  if t ≤ 0 then first else if 1 ≤ t then last else first + t * (last - first)

omit [Div α] in
/-- The colour at a position between two ends, which keep the text that they were written as. -/
def interpolateColor [Blending α] (first last : ColorStop) (t : α) : String :=
  if t ≤ 0 then first.text
  else if 1 ≤ t then last.text
  else (first.color.mix last.color t).toHex

/-- What a scale gives: a number, or the text of a colour. -/
inductive Interpolated (α : Type) where
  | number (x : α)
  | color (text : String)

omit [Div α] in
def ScaleRange.at [Blending α] (range : ScaleRange α) (t : α) : Interpolated α :=
  match range with
  | .numeric first last => .number (interpolate first last t)
  | .color first last => .color (interpolateColor first last t)

end Interpolation

def Interpolated.style : Interpolated Float → StyleValue
  | .number x => .number x
  | .color text => .text text

end Cartouche
