import Cartouche.Data.Path
import Cartouche.Proofs.Outcome

/-! What a lookup answers, by the outcome of its two steps: reading the path and following it. -/
namespace Cartouche
open Decimal Text

variable {path : String} {steps : List String} {record v : Value} {e : PathError} {l l' : Lookup}

theorem evaluatePath_of_malformed (h : pathSteps path = .error e) (record : Value)
    (l : Lookup) : evaluatePath path record l = .error e := by
  rw [evaluatePath, h, error_bind]

theorem evaluatePath_of_reached (h : pathSteps path = .ok steps)
    (hv : followSteps path steps record = .ok v) (l : Lookup) :
    evaluatePath path record l = .ok (some v) := by
  rw [evaluatePath, h, ok_bind, hv]

theorem evaluatePath_of_stopped (h : pathSteps path = .ok steps)
    (he : followSteps path steps record = .error e) (l : Lookup) :
    evaluatePath path record l = if l.safe then .ok l.default else .error e := by
  rw [evaluatePath, h, ok_bind, he]

/-- What a strict lookup finds, any other lookup finds as well. -/
theorem follows_evaluatePath_of_strict (hl : l.safe = false) (l' : Lookup) (path : String)
    (record : Value) :
    Follows (fun _ => True) (evaluatePath path record l) (evaluatePath path record l') := by
  cases hs : pathSteps path with
  | error e =>
    rw [evaluatePath_of_malformed hs]
    trivial
  | ok steps =>
    cases hv : followSteps path steps record with
    | ok v =>
      rw [evaluatePath_of_reached hs hv, evaluatePath_of_reached hs hv]
      exact Follows.pure _ _
    | error e =>
      rw [evaluatePath_of_stopped hs hv, hl]
      trivial

theorem validatePath_eq_ok_iff :
    validatePath path = .ok () ↔ ∃ steps, pathSteps path = .ok steps := by
  rw [validatePath, map_eq_ok_iff]
  constructor
  · rintro ⟨steps, h, _⟩
    exact ⟨steps, h⟩
  · rintro ⟨steps, h⟩
    exact ⟨steps, h, rfl⟩

/-- Errors of a path itself, found before any record is read. -/
def PathError.IsMalformed : PathError → Prop
  | .emptyPath => True
  | .emptySegment _ => True
  | _ => False

theorem not_isMalformed_stepError (path step : String) (v : Value) :
    ¬ (v.stepError path step).IsMalformed := by
  cases v <;> exact id

theorem not_isMalformed_of_followSteps (h : followSteps path steps v = .error e) :
    ¬ e.IsMalformed := by
  induction steps generalizing v with
  | nil => cases h
  | cons step steps ih =>
    rw [followSteps] at h
    split at h
    · exact ih h
    · obtain rfl : v.stepError path step = e := Except.error.inj h
      exact not_isMalformed_stepError path step v

/-- A checked path can only fail on the way through a record, and safe lookups do not even then. -/
theorem follows_evaluatePath_of_valid (h : validatePath path = .ok ()) (record : Value)
    (l : Lookup) : Follows (fun e => ¬ e.IsMalformed ∧ l.safe = false)
      (evaluatePath path record l) (evaluatePath path record l) := by
  obtain ⟨steps, hs⟩ := validatePath_eq_ok_iff.mp h
  cases hv : followSteps path steps record with
  | ok v =>
    rw [evaluatePath_of_reached hs hv]
    exact Follows.pure _ _
  | error e =>
    rw [evaluatePath_of_stopped hs hv]
    cases hl : l.safe with
    | false => exact ⟨not_isMalformed_of_followSteps hv, rfl⟩
    | true => exact Follows.pure _ _

theorem splitDots_ne_nil (text : List Char) : splitDots text ≠ [] := by
  cases text with
  | nil => simp [splitDots]
  | cons c rest =>
    rw [splitDots]
    split
    · simp
    · split <;> simp

/-- A path that can be read has a first step. -/
theorem exists_cons_of_pathSteps (h : pathSteps path = .ok steps) :
    ∃ first rest, steps = first :: rest := by
  unfold pathSteps at h
  dsimp only at h
  split at h
  · cases h
  · split at h
    · cases h
    · cases h
      cases hparts : splitDots (trim path.toList) with
      | nil => exact absurd hparts (splitDots_ne_nil _)
      | cons part parts => exact ⟨_, _, rfl⟩

/-- What a safe lookup makes of the child that its first step selects. -/
def Lookup.reached (l : Lookup) (path : String) (rest : List String) : Option Value → Option Value
  | none => l.default
  | some child =>
    match followSteps path rest child with
    | .ok v => some v
    | .error _ => l.default

theorem evaluatePath_cons {first : String} {rest : List String}
    (h : pathSteps path = .ok (first :: rest)) (hsafe : l.safe = true) (record : Value) :
    evaluatePath path record l = .ok (l.reached path rest (record.child? first)) := by
  cases hc : record.child? first with
  | none =>
    have hv : followSteps path (first :: rest) record = .error (record.stepError path first) := by
      rw [followSteps, hc]
    rw [evaluatePath_of_stopped h hv, if_pos hsafe]
    rfl
  | some child =>
    have hsteps : followSteps path (first :: rest) record = followSteps path rest child := by
      rw [followSteps, hc]
    unfold Lookup.reached
    cases hv : followSteps path rest child with
    | ok v => simp only [evaluatePath_of_reached h (hsteps.trans hv), hv]
    | error e => simp only [evaluatePath_of_stopped h (hsteps.trans hv), hv, if_pos hsafe]

/-- A safe lookup refuses every record with one error, or else answers every record by the child
that its first step selects. -/
theorem evaluatePath_cases (hsafe : l.safe = true) (path : String) :
    (∃ e, ∀ record, evaluatePath path record l = .error e) ∨
      ∃ first rest, pathSteps path = .ok (first :: rest) ∧
        ∀ record, evaluatePath path record l = .ok (l.reached path rest (record.child? first)) := by
  cases hs : pathSteps path with
  | error e => exact Or.inl ⟨e, fun record => evaluatePath_of_malformed hs record l⟩
  | ok steps =>
    obtain ⟨first, rest, rfl⟩ := exists_cons_of_pathSteps hs
    exact Or.inr ⟨first, rest, rfl, evaluatePath_cons hs hsafe⟩

/-- Below a value without children nothing is found. -/
theorem Lookup.reached_of_leaf (l : Lookup) (path : String) {first : String} {rest : List String}
    (h : v.child? first = none) : l.reached path (first :: rest) (some v) = l.default := by
  rw [reached, followSteps, h]

end Cartouche
