import Cartouche.Decimal.Shortest
import Cartouche.Table
import Cartouche.Text.Blank

/-!
Ids that no two elements share. A request gets what it asks for while that is free, and otherwise
a number behind it; a blank request gets the name of the template with a counter.
-/
namespace Cartouche
open Decimal Text

/-- The ids handed out, each with the number up to which its suffixes are known to be taken, and
how many requests asked for nothing. -/
structure IdTable where
  counter : Nat
  taken : Table Nat

namespace IdTable

def empty : IdTable := ⟨0, []⟩

def suffixed (base : String) (n : Nat) : String :=
  base ++ "-" ++ .ofList (digitsOf n)

/-- The first number from `n` on whose suffix is free; one more try than there are ids finds it. -/
def firstFree (taken : Table Nat) (base : String) : Nat → Nat → Nat
  | 0, n => n
  | tries + 1, n =>
    if (taken.get? (suffixed base n)).isSome then firstFree taken base tries (n + 1) else n

/-- The request without blanks around it, or the counter's next id in its place. -/
def base (name : String) (ids : IdTable) (requested : Option String) : String × IdTable :=
  let wanted := trimmed (requested.getD "")
  if wanted.isEmpty then
    (suffixed name (ids.counter + 1), { ids with counter := ids.counter + 1 })
  else (wanted, ids)

def allocate (name : String) (ids : IdTable) (requested : Option String) : String × IdTable :=
  let (base, ids) := ids.base name requested
  match ids.taken.get? base with
  | none => (base, { ids with taken := ids.taken.put base 1 })
  | some uses =>
    let n := firstFree ids.taken base (ids.taken.length + 1) (uses + 1)
    let id := suffixed base n
    (id, { ids with taken := (ids.taken.put base n).put id 1 })

end IdTable

end Cartouche
