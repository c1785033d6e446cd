import Cartouche.Proofs.PathTexts

/-!
Walks through a record. A step selects a child of the value that is reached so far, by its key or by
its place; a strict lookup returns what all steps lead to, or reports the first step that selects
nothing by the value it stands on. A safe lookup takes the same walk, and answers with its default
where the strict one reports a step.
-/
namespace Cartouche
open Decimal Text

/-- The digits of a place, perhaps behind zeros and a plus sign. -/
def NamesPlace (step : String) (i : Nat) : Prop :=
  ∃ sign ∈ [[], ['+']], ∃ zeros, step.toList = sign ++ List.replicate zeros '0' ++ digitsOf i

/-- What a step selects. Of fields with one key, which no record has, the first would count. -/
inductive Selects : Value → String → Value → Prop
  | key {before after : List (String × Value)} {step : String} {child : Value}
      (first : step ∉ Table.keys before) :
      Selects (.object (before ++ (step, child) :: after)) step child
  | place {items : List Value} {step : String} {i : Nat} {child : Value}
      (named : NamesPlace step i) (item : items[i]? = some child) : Selects (.list items) step child

/-- What steps lead to, one after the other. -/
inductive Leads : Value → List String → Value → Prop
  | arrived (v : Value) : Leads v [] v
  | step {v child target : Value} {step : String} {steps : List String}
      (first : Selects v step child) (rest : Leads child steps target) :
      Leads v (step :: steps) target

/-- The error for a step that selects nothing, by the value it was to be taken from. -/
inductive Reports (path step : String) : Value → PathError → Prop
  | object (fields : List (String × Value)) :
      Reports path step (.object fields) (.missingKey path step)
  | list (items : List Value) :
      Reports path step (.list items) (.indexOutOfRange path step items.length)
  | null : Reports path step .null (.nullSegment path step)
  | bool (b : Bool) : Reports path step (.bool b) (.notTraversable path step "boolean")
  | number (n : Float) : Reports path step (.number n) (.notTraversable path step "number")
  | text (s : String) : Reports path step (.text s) (.notTraversable path step "string")

/-! Places as texts. -/

/-- A text of digits alone, read as the number that they denote. -/
def unsigned (text : List Char) : Option Nat :=
  if text.isEmpty || !text.all Char.isDigit then none else some (natOfDigits text)

theorem natural?_plus (text : List Char) : natural? ('+' :: text) = unsigned text := rfl

theorem natural?_of_no_plus {text : List Char} (h : text.head? ≠ some '+') :
    natural? text = unsigned text := by
  unfold natural?
  split
  · exact absurd rfl h
  · rfl

theorem unsigned_eq_some_iff {text : List Char} {i : Nat} :
    unsigned text = some i ↔ ∃ zeros, text = List.replicate zeros '0' ++ digitsOf i := by
  unfold unsigned
  constructor
  · intro h
    split at h
    · cases h
    next hdigits =>
    cases h
    simp only [Bool.or_eq_true, List.isEmpty_iff, Bool.not_eq_true', not_or, Bool.not_eq_false,
      List.all_eq_true] at hdigits
    exact exists_zeros_of_digits hdigits.1 hdigits.2
  · rintro ⟨zeros, rfl⟩
    have hne : List.replicate zeros '0' ++ digitsOf i ≠ [] := by simp [digitsOf]
    have hdigits : ∀ c ∈ List.replicate zeros '0' ++ digitsOf i, c.isDigit :=
      fun _ h => isDigit_behind_zeros h
    rw [if_neg, natOfDigits_zeros]
    simp only [Bool.or_eq_true, List.isEmpty_iff, Bool.not_eq_true', not_or, Bool.not_eq_false,
      List.all_eq_true]
    exact ⟨hne, hdigits⟩

theorem natural?_eq_some_iff {step : String} {i : Nat} :
    natural? step.toList = some i ↔ NamesPlace step i := by
  constructor
  · intro h
    by_cases hplus : step.toList.head? = some '+'
    · obtain ⟨rest, htext⟩ := List.head?_eq_some_iff.mp hplus
      rw [htext, natural?_plus, unsigned_eq_some_iff] at h
      obtain ⟨zeros, rfl⟩ := h
      exact ⟨['+'], by simp, zeros, by rw [htext]; rfl⟩
    · rw [natural?_of_no_plus hplus, unsigned_eq_some_iff] at h
      obtain ⟨zeros, htext⟩ := h
      exact ⟨[], by simp, zeros, by rw [htext]; rfl⟩
  · rintro ⟨sign, hsign, zeros, htext⟩
    rw [htext, List.append_assoc]
    rcases List.mem_pair.mp hsign with rfl | rfl
    · have hplus : (List.replicate zeros '0' ++ digitsOf i).head? ≠ some '+' := by
        intro h
        exact absurd (isDigit_behind_zeros (List.mem_of_mem_head? h)) (by decide)
      rw [List.nil_append, natural?_of_no_plus hplus, unsigned_eq_some_iff]
      exact ⟨zeros, rfl⟩
    · rw [List.singleton_append, natural?_plus, unsigned_eq_some_iff]
      exact ⟨zeros, rfl⟩

/-! One step, and all of them. -/

section Walk
variable {path step : String} {steps : List String} {v child target : Value} {e : PathError}

theorem get?_eq_some_iff {fields : List (String × Value)} : Table.get? fields step = some child ↔
    ∃ before after, fields = before ++ (step, child) :: after ∧ step ∉ Table.keys before := by
  rw [Table.get?, List.lookup_eq_some_iff]
  refine exists_congr fun before => exists_congr fun after => and_congr_right fun _ => ?_
  simp only [Table.keys, List.mem_map, not_exists, not_and, bne_iff_ne, ne_eq]
  exact forall₂_congr fun _ _ => by rw [eq_comm]

theorem child?_eq_some_iff : v.child? step = some child ↔ Selects v step child := by
  constructor
  · intro h
    cases v with
    | object fields =>
      obtain ⟨before, after, rfl, hfirst⟩ := get?_eq_some_iff.mp h
      exact .key hfirst
    | list items =>
      obtain ⟨i, hi, hitem⟩ := Option.bind_eq_some_iff.mp h
      exact .place (natural?_eq_some_iff.mp hi) hitem
    | null | bool | number | text => cases h
  · intro h
    cases h with
    | key hfirst => exact get?_eq_some_iff.mpr ⟨_, _, rfl, hfirst⟩
    | place hi hitem =>
      exact Option.bind_eq_some_iff.mpr ⟨_, natural?_eq_some_iff.mpr hi, hitem⟩

theorem child?_eq_none_iff : v.child? step = none ↔ ∀ child, ¬ Selects v step child := by
  simp only [← child?_eq_some_iff, Option.eq_none_iff_forall_ne_some, ne_eq]

theorem reports_iff : Reports path step v e ↔ e = v.stepError path step := by
  constructor
  · rintro (_ | _ | _ | _ | _ | _) <;> rfl
  · rintro rfl
    cases v <;> constructor

theorem Reports.segment?_eq (h : Reports path step v e) : e.segment? = some step := by
  cases h <;> rfl

theorem followSteps_eq_ok_iff : followSteps path steps v = .ok target ↔ Leads v steps target := by
  induction steps generalizing v with
  | nil =>
    constructor
    · intro h
      obtain rfl : v = target := Except.ok.inj h
      exact .arrived v
    · intro h
      cases h
      rfl
  | cons step steps ih =>
    rw [followSteps]
    cases hchild : v.child? step with
    | none =>
      constructor
      · intro h
        cases h
      · intro h
        cases h with
        | step first _ => exact absurd first (child?_eq_none_iff.mp hchild _)
    | some child =>
      constructor
      · exact fun h => .step (child?_eq_some_iff.mp hchild) (ih.mp h)
      · intro h
        cases h with
        | step first rest =>
          cases hchild.symm.trans (child?_eq_some_iff.mpr first)
          exact ih.mpr rest

/-- The walk stops at a step: those before it lead to a value that it selects nothing from, and the
error names it. -/
def Stops (path : String) (v : Value) (steps : List String) (e : PathError) : Prop :=
  ∃ before step behind reached, steps = before ++ step :: behind ∧ Leads v before reached ∧
    (∀ child, ¬ Selects reached step child) ∧ Reports path step reached e ∧ e.segment? = some step

theorem stops_nil : ¬ Stops path v [] e := by
  rintro ⟨before, step, behind, _, h, _⟩
  cases before <;> cases h

/-- A step that selects nothing is the one that stops the walk. -/
theorem stops_cons_of_none (h : ∀ child, ¬ Selects v step child) :
    Stops path v (step :: steps) e ↔ Reports path step v e := by
  constructor
  · rintro ⟨before, other, behind, reached, hsteps, hbefore, _, hreport, _⟩
    cases hbefore with
    | arrived =>
      obtain ⟨rfl, _⟩ := List.cons.inj hsteps
      exact hreport
    | step first _ =>
      obtain ⟨rfl, _⟩ := List.cons.inj hsteps
      exact absurd first (h _)
  · intro hreport
    exact ⟨[], step, steps, v, rfl, .arrived v, h, hreport, hreport.segment?_eq⟩

/-- Behind a step that selects a child the walk stops where it does from the child. -/
theorem stops_cons_of_selects (h : Selects v step child) :
    Stops path v (step :: steps) e ↔ Stops path child steps e := by
  constructor
  · rintro ⟨before, other, behind, reached, hsteps, hbefore, hnone, hreport⟩
    cases hbefore with
    | arrived =>
      obtain ⟨rfl, _⟩ := List.cons.inj hsteps
      exact absurd h (hnone _)
    | step first rest =>
      obtain ⟨rfl, rfl⟩ := List.cons.inj hsteps
      cases (child?_eq_some_iff.mpr first).symm.trans (child?_eq_some_iff.mpr h)
      exact ⟨_, other, behind, reached, rfl, rest, hnone, hreport⟩
  · rintro ⟨before, other, behind, reached, rfl, hbefore, hnone⟩
    exact ⟨step :: before, other, behind, reached, rfl, .step h hbefore, hnone⟩

theorem followSteps_eq_error_iff :
    followSteps path steps v = .error e ↔ Stops path v steps e := by
  induction steps generalizing v with
  | nil =>
    constructor
    · intro h
      cases h
    · exact fun h => absurd h stops_nil
  | cons step steps ih =>
    rw [followSteps]
    cases hchild : v.child? step with
    | none =>
      rw [stops_cons_of_none (child?_eq_none_iff.mp hchild), reports_iff, Except.error.injEq,
        eq_comm]
    | some child =>
      rw [stops_cons_of_selects (child?_eq_some_iff.mp hchild)]
      exact ih

end Walk

variable {path : String} {steps : List String} {record v : Value} {e : PathError} {l : Lookup}

/-- A strict lookup is the walk along the steps. -/
theorem evaluatePath_strict (h : pathSteps path = .ok steps) (hl : l.safe = false)
    (record : Value) : evaluatePath path record l = (followSteps path steps record).map some := by
  cases hv : followSteps path steps record with
  | ok v => exact evaluatePath_of_reached h hv l
  | error e =>
    rw [evaluatePath_of_stopped h hv, hl]
    rfl

/-- A strict lookup of steps joined by dots, with any blanks around them, finds what step after step
leads to; where some step selects nothing it reports the first such step, by the value before it. -/
theorem strict_lookup_walks (path : String) (steps : List String) (record : Value) (l : Lookup)
    (h : IsPath path steps) (hl : l.safe = false) :
    (∀ found, evaluatePath path record l = .ok found ↔
      ∃ v, Leads record steps v ∧ some v = found) ∧
    ∀ e, evaluatePath path record l = .error e ↔ Stops path record steps e := by
  rw [evaluatePath_strict (pathSteps_of_isPath h) hl]
  constructor
  · intro found
    rw [map_eq_ok_iff]
    simp only [followSteps_eq_ok_iff]
  · intro e
    rw [map_eq_error_iff]
    exact followSteps_eq_error_iff

/-- A row whose key is made of digits. -/
def secondRow : Value :=
  .object [("007", .null)]

def rows : Value :=
  .list [.object [("7", .text "Ada")], secondRow]

def ledger : Value :=
  .object [("rows", rows)]

/-- Places may have zeros and a plus sign before them, keys are taken as they are written; a null at
the end is found, and stops a walk that goes on. -/
theorem ledger_walks : IsPath " rows.\t+01 .007 " ["rows", "+01", "007"] ∧
    Leads ledger ["rows", "+01", "007"] .null ∧
    evaluatePath " rows.\t+01 .007 " ledger .strict = .ok (some .null) ∧
    IsPath "rows. 02" ["rows", "02"] ∧
    evaluatePath "rows. 02" ledger .strict = .error (.indexOutOfRange "rows. 02" "02" 2) ∧
    IsPath "rows.1.007.x.y" ["rows", "1", "007", "x", "y"] ∧
    evaluatePath "rows.1.007.x.y" ledger .strict = .error (.nullSegment "rows.1.007.x.y" "x") := by
  have hspaced : IsPath " rows.\t+01 .007 " ["rows", "+01", "007"] :=
    isPath_of_pathSteps (by decide)
  have hshort : IsPath "rows. 02" ["rows", "02"] := isPath_of_pathSteps (by decide)
  have hlong : IsPath "rows.1.007.x.y" ["rows", "1", "007", "x", "y"] :=
    isPath_of_pathSteps (by decide)
  have hrows : Selects ledger "rows" rows := child?_eq_some_iff.mp rfl
  have hsigned : Selects rows "+01" secondRow := .place (i := 1) ⟨['+'], by simp, 1, rfl⟩ rfl
  have hplain : Selects rows "1" secondRow := .place (i := 1) ⟨[], by simp, 0, rfl⟩ rfl
  have hkey : Selects secondRow "007" .null := child?_eq_some_iff.mp rfl
  have hnull : Leads ledger ["rows", "+01", "007"] .null :=
    .step hrows (.step hsigned (.step hkey (.arrived _)))
  refine ⟨hspaced, hnull, ?_, hshort, ?_, hlong, ?_⟩
  · exact ((strict_lookup_walks _ _ ledger .strict hspaced rfl).1 _).mpr ⟨.null, hnull, rfl⟩
  · exact ((strict_lookup_walks _ _ ledger .strict hshort rfl).2 _).mpr ⟨["rows"], "02", [], rows,
      rfl, .step hrows (.arrived _), child?_eq_none_iff.mp rfl, .list _, rfl⟩
  · exact ((strict_lookup_walks _ _ ledger .strict hlong rfl).2 _).mpr
      ⟨["rows", "1", "007"], "x", ["y"], .null, rfl,
        .step hrows (.step hplain (.step hkey (.arrived _))), child?_eq_none_iff.mp rfl, .null, rfl⟩

/-! Lookups with a default. -/

theorem evaluatePath_of_leads (h : IsPath path steps) (hv : Leads record steps v) (l : Lookup) :
    evaluatePath path record l = .ok (some v) :=
  evaluatePath_of_reached (pathSteps_of_isPath h) (followSteps_eq_ok_iff.mpr hv) l

theorem evaluatePath_of_stops (h : IsPath path steps) (he : Stops path record steps e)
    (l : Lookup) : evaluatePath path record l = if l.safe then .ok l.default else .error e :=
  evaluatePath_of_stopped (pathSteps_of_isPath h) (followSteps_eq_error_iff.mpr he) l

/-- Steps lead somewhere, or one of them stops the walk. -/
theorem leads_or_stops (path : String) (record : Value) (steps : List String) :
    (∃ v, Leads record steps v) ∨ ∃ e, Stops path record steps e := by
  cases hv : followSteps path steps record with
  | ok v => exact Or.inl ⟨v, followSteps_eq_ok_iff.mp hv⟩
  | error e => exact Or.inr ⟨e, followSteps_eq_error_iff.mp hv⟩

theorem validatePath_iff_isPath : validatePath path = .ok () ↔ ∃ steps, IsPath path steps := by
  rw [validatePath_eq_ok_iff]
  exact exists_congr fun _ => pathSteps_eq_ok_iff

/-- What is refused is empty or has an empty step. -/
theorem malformed_of_pathSteps (h : pathSteps path = .error e) :
    e = .emptyPath ∨ e = .emptySegment (trimmed path) := by
  rw [pathSteps_eq] at h
  split at h
  · exact Or.inl (Except.error.inj h).symm
  split at h
  · exact Or.inr (Except.error.inj h).symm
  · cases h

/-- A path that is refused is so by every lookup, with one error and for every record. Of any other
path a safe lookup always has an answer: what the strict one finds, be it null, and its default
where the strict one fails. -/
theorem safe_lookups_follow_strict (path : String) (default unused : Option Value) :
    (validatePath path = .ok () ↔ ∃ steps, IsPath path steps) ∧
    (∀ e, validatePath path = .error e → (e = .emptyPath ∨ e = .emptySegment (trimmed path)) ∧
      ∀ record, evaluatePath path record ⟨true, default⟩ = .error e ∧
        evaluatePath path record ⟨false, unused⟩ = .error e) ∧
    (validatePath path = .ok () → ∀ record,
      (∃ found, evaluatePath path record ⟨true, default⟩ = .ok found) ∧
      (∀ found, evaluatePath path record ⟨false, unused⟩ = .ok found →
        evaluatePath path record ⟨true, default⟩ = .ok found) ∧
      ∀ e, evaluatePath path record ⟨false, unused⟩ = .error e →
        evaluatePath path record ⟨true, default⟩ = .ok default) := by
  refine ⟨validatePath_iff_isPath, ?_, ?_⟩
  · intro e h
    have hsteps := map_eq_error_iff.mp h
    refine ⟨malformed_of_pathSteps hsteps, fun record => ?_⟩
    exact ⟨evaluatePath_of_malformed hsteps record _, evaluatePath_of_malformed hsteps record _⟩
  · intro h record
    obtain ⟨steps, hpath⟩ := validatePath_iff_isPath.mp h
    rcases leads_or_stops path record steps with ⟨v, hv⟩ | ⟨e, he⟩
    · rw [evaluatePath_of_leads hpath hv, evaluatePath_of_leads hpath hv]
      exact ⟨⟨_, rfl⟩, fun _ => id, nofun⟩
    · rw [evaluatePath_of_stops hpath he, evaluatePath_of_stops hpath he]
      exact ⟨⟨_, rfl⟩, nofun, fun _ _ => rfl⟩

/-- A null that stands at the end is found whatever the default, and one on the way gives it. -/
theorem ledger_with_default :
    evaluatePath "rows.1.007" ledger ⟨true, some (.text "n/a")⟩ = .ok (some .null) ∧
    evaluatePath "rows.1.007.x" ledger ⟨true, some (.text "n/a")⟩ = .ok (some (.text "n/a")) ∧
    evaluatePath "rows. .7" ledger ⟨true, some (.text "n/a")⟩ =
      .error (.emptySegment "rows. .7") := by
  obtain ⟨_, _, hfound⟩ := safe_lookups_follow_strict "rows.1.007" (some (.text "n/a")) none
  obtain ⟨_, _, hstopped⟩ := safe_lookups_follow_strict "rows.1.007.x" (some (.text "n/a")) none
  obtain ⟨_, hrefused, _⟩ := safe_lookups_follow_strict "rows. .7" (some (.text "n/a")) none
  refine ⟨?_, ?_, ?_⟩
  · exact (hfound (by decide) ledger).2.1 _ rfl
  · exact (hstopped (by decide) ledger).2.2 (.nullSegment "rows.1.007.x" "x") rfl
  · exact ((hrefused _ (by decide)).2 ledger).1

end Cartouche
