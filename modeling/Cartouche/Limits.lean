/-!
The larger and the smaller of two numbers, and numbers kept between limits, for every number type.
A value that compares with nothing, not even with itself, never wins over one that does; between
equals the first wins.
-/
namespace Cartouche

variable {α : Type} [LT α] [LE α] [DecidableLT α] [DecidableLE α]

def larger (a b : α) : α :=
  if a < b then b else if a ≤ a then a else b

def smaller (a b : α) : α :=
  if b < a then b else if a ≤ a then a else b

omit [LE α] [DecidableLE α] in
/-- The limit that is passed, or the number itself. -/
def clamp (low high x : α) : α :=
  let raised := if x < low then low else x
  if high < raised then high else raised

/-- Finite numbers alone differ from themselves by zero. -/
def isFinite [Sub α] [OfNat α 0] (x : α) : Bool :=
  decide (x - x ≤ 0) && decide (0 ≤ x - x)

end Cartouche
