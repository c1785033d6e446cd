import Cartouche.Proofs.Paths
import Cartouche.Proofs.Trimming
import Mathlib.Data.List.Forall2

/-!
How paths are written: one or more steps joined by dots, with any blanks around each. Every other
text is refused, by an error of its own when nothing is left of it, whatever the record.
-/
namespace Cartouche
open Decimal Text

/-- A step that a path can name. -/
structure IsStep (step : String) : Prop where
  nonempty : step ≠ ""
  noDot : '.' ∉ step.toList
  trimmed : IsTrimmed step.toList

/-- Steps joined by dots, each between blanks. -/
def Dotted (path : String) (steps : List String) : Prop :=
  ∃ parts, List.Forall₂ (fun part step => Padded part step.toList) parts steps ∧
    path.toList = List.intercalate ['.'] parts

/-- The text of a path along one or more steps. -/
structure IsPath (path : String) (steps : List String) : Prop where
  nonempty : steps ≠ []
  proper : ∀ step ∈ steps, IsStep step
  dotted : Dotted path steps

section Splitting
variable {text part a b : List Char} {parts : List (List Char)} {c : Char}

theorem splitDots_of_no_dot (h : '.' ∉ part) : splitDots part = [part] := by
  induction part with
  | nil => rfl
  | cons c rest ih =>
    simp only [List.mem_cons, not_or] at h
    rw [splitDots, if_neg (Ne.symm h.1), ih h.2]

theorem splitDots_append (h : '.' ∉ part) (rest : List Char) :
    splitDots (part ++ '.' :: rest) = part :: splitDots rest := by
  induction part with
  | nil => rw [List.nil_append, splitDots, if_pos rfl]
  | cons c part ih =>
    simp only [List.mem_cons, not_or] at h
    rw [List.cons_append, splitDots, if_neg (Ne.symm h.1), ih h.2]

theorem splitDots_intercalate (hne : parts ≠ []) (h : ∀ part ∈ parts, '.' ∉ part) :
    splitDots (List.intercalate ['.'] parts) = parts := by
  induction parts with
  | nil => exact absurd rfl hne
  | cons part rest ih =>
    obtain ⟨hpart, hrest⟩ := List.forall_mem_cons.mp h
    cases rest with
    | nil => rw [List.intercalate_singleton, splitDots_of_no_dot hpart]
    | cons next rest =>
      rw [List.intercalate_cons_cons, List.append_assoc, List.singleton_append,
        splitDots_append hpart, ih (List.cons_ne_nil _ _) hrest]

/-- A character that is no dot belongs to the first part. -/
theorem splitDots_cons (h : c ≠ '.') (text : List Char) :
    ∃ part parts, splitDots text = part :: parts ∧
      splitDots (c :: text) = (c :: part) :: parts := by
  obtain ⟨part, parts, htext⟩ := List.exists_cons_of_ne_nil (splitDots_ne_nil text)
  exact ⟨part, parts, htext, by rw [splitDots, if_neg h, htext]⟩

theorem intercalate_splitDots (text : List Char) :
    List.intercalate ['.'] (splitDots text) = text := by
  induction text with
  | nil => rfl
  | cons c rest ih =>
    by_cases hc : c = '.'
    · obtain ⟨part, parts, hrest⟩ := List.exists_cons_of_ne_nil (splitDots_ne_nil rest)
      rw [splitDots, if_pos hc, hrest, List.intercalate_cons_cons, ← hrest, ih, hc]
      rfl
    · obtain ⟨part, parts, hrest, hsplit⟩ := splitDots_cons hc rest
      rw [hrest] at ih
      rw [hsplit, ← ih]
      cases parts with
      | nil => rw [List.intercalate_singleton, List.intercalate_singleton]
      | cons next parts => simp only [List.intercalate_cons_cons, List.cons_append]

theorem no_dot_of_mem_splitDots (h : part ∈ splitDots text) : '.' ∉ part := by
  induction text generalizing part with
  | nil =>
    rw [List.mem_singleton.mp h]
    exact List.not_mem_nil
  | cons c rest ih =>
    by_cases hc : c = '.'
    · rw [splitDots, if_pos hc] at h
      rcases List.mem_cons.mp h with rfl | h
      · exact List.not_mem_nil
      · exact ih h
    · obtain ⟨first, parts, hrest, hsplit⟩ := splitDots_cons hc rest
      rw [hsplit] at h
      rw [hrest] at ih
      rcases List.mem_cons.mp h with rfl | h
      · simpa [Ne.symm hc] using ih List.mem_cons_self
      · exact ih (List.mem_cons_of_mem _ h)

/-! Blanks around a text are blanks around its first and its last part, so that steps are trimmed
with the path. -/

theorem ne_dot_of_isBlank (h : isBlank c) : c ≠ '.' := by
  rintro rfl
  exact absurd h (by decide)

theorem map_trim_splitDots_before (h : ∀ c ∈ b, isBlank c) (text : List Char) :
    (splitDots (b ++ text)).map trim = (splitDots text).map trim := by
  induction b with
  | nil => rfl
  | cons c rest ih =>
    obtain ⟨hc, hrest⟩ := List.forall_mem_cons.mp h
    obtain ⟨part, parts, htext, hsplit⟩ := splitDots_cons (ne_dot_of_isBlank hc) (rest ++ text)
    have hpadded : Padded (c :: part) part := ⟨[c], [], by simpa using hc, by simp, by simp⟩
    rw [List.cons_append, hsplit, List.map_cons, hpadded.trim_eq, ← List.map_cons, ← htext,
      ih hrest]

/-- Blanks at the end become part of the last part. -/
theorem splitDots_append_blanks (h : ∀ c ∈ a, isBlank c) (text : List Char) :
    List.Forall₂ (fun longer part => ∃ after, (∀ c ∈ after, isBlank c) ∧ longer = part ++ after)
      (splitDots (text ++ a)) (splitDots text) := by
  have hsame : ∀ part : List Char, ∃ after, (∀ c ∈ after, isBlank c) ∧ part = part ++ after :=
    fun part => ⟨[], by simp, by simp⟩
  induction text with
  | nil =>
    have hno : '.' ∉ a := fun hm => ne_dot_of_isBlank (h _ hm) rfl
    rw [List.nil_append, splitDots_of_no_dot hno]
    exact .cons ⟨a, h, rfl⟩ .nil
  | cons c rest ih =>
    rw [List.cons_append]
    by_cases hc : c = '.'
    · rw [splitDots, splitDots, if_pos hc, if_pos hc]
      exact .cons (hsame []) ih
    · obtain ⟨part, parts, hrest, hsplit⟩ := splitDots_cons hc rest
      obtain ⟨part', parts', hrest', hsplit'⟩ := splitDots_cons hc (rest ++ a)
      rw [hrest, hrest'] at ih
      obtain ⟨⟨after, hafter, rfl⟩, htail⟩ := List.forall₂_cons.mp ih
      rw [hsplit, hsplit']
      exact .cons ⟨after, hafter, rfl⟩ htail

theorem map_trim_splitDots_after (h : ∀ c ∈ a, isBlank c) (text : List Char) :
    (splitDots (text ++ a)).map trim = (splitDots text).map trim := by
  rw [← List.forall₂_eq_eq_eq, List.forall₂_map_left_iff, List.forall₂_map_right_iff]
  refine (splitDots_append_blanks h text).imp ?_
  rintro longer part ⟨after, hafter, rfl⟩
  exact Padded.trim_eq ⟨[], after, by simp, hafter, rfl⟩

theorem map_trim_splitDots (h : Padded a b) :
    (splitDots a).map trim = (splitDots b).map trim := by
  obtain ⟨before, after, hbefore, hafter, rfl⟩ := h
  rw [map_trim_splitDots_after hafter, map_trim_splitDots_before hbefore]

end Splitting

variable {path step : String} {steps : List String} {part : List Char} {e : PathError}

/-- The steps of a path are its parts between dots, each trimmed. -/
theorem pathSteps_eq (path : String) : pathSteps path =
    if trim path.toList = [] then .error .emptyPath
    else if [] ∈ (splitDots path.toList).map trim then .error (.emptySegment (trimmed path))
    else .ok ((splitDots path.toList).map fun part => .ofList (trim part)) := by
  unfold pathSteps
  dsimp only
  rw [← map_trim_splitDots (padded_trim path.toList)]
  simp only [List.isEmpty_iff, List.any_eq_true, exists_eq_right, List.map_map]
  rfl

theorem empty_mem_map_trim (h : trim path.toList = []) :
    [] ∈ (splitDots path.toList).map trim := by
  rw [map_trim_splitDots (padded_trim path.toList), h]
  exact List.mem_singleton_self _

theorem IsStep.of_padded (h : IsStep step) (hp : Padded part step.toList) :
    '.' ∉ part ∧ trim part = step.toList := by
  refine ⟨?_, h.trimmed.trim_padded hp⟩
  obtain ⟨before, after, hbefore, hafter, rfl⟩ := hp
  simp only [List.mem_append, not_or]
  exact ⟨⟨fun hm => ne_dot_of_isBlank (hbefore _ hm) rfl, h.noDot⟩,
    fun hm => ne_dot_of_isBlank (hafter _ hm) rfl⟩

/-- Each part of a path text names a step, and has no dot. -/
theorem forall₂_parts {parts : List (List Char)} (hproper : ∀ step ∈ steps, IsStep step)
    (h : List.Forall₂ (fun part step => Padded part step.toList) parts steps) :
    (∀ part ∈ parts, '.' ∉ part) ∧
      List.Forall₂ (fun part step => trim part = step.toList) parts steps := by
  rw [← List.forall₂_and_left]
  induction h with
  | nil => exact .nil
  | cons hp _ ih =>
    obtain ⟨hstep, hrest⟩ := List.forall_mem_cons.mp hproper
    exact .cons (hstep.of_padded hp) (ih hrest)

/-- The steps of a path text are the trimmed parts of it. -/
theorem IsPath.map_trim (h : IsPath path steps) :
    (splitDots path.toList).map trim = steps.map String.toList := by
  obtain ⟨parts, hparts, hpath⟩ := h.dotted
  obtain ⟨hdots, htrim⟩ := forall₂_parts h.proper hparts
  have hne : parts ≠ [] := by
    rintro rfl
    exact h.nonempty (List.forall₂_nil_left_iff.mp hparts)
  rw [hpath, splitDots_intercalate hne hdots, ← List.forall₂_eq_eq_eq,
    List.forall₂_map_left_iff, List.forall₂_map_right_iff]
  exact htrim

theorem pathSteps_of_isPath (h : IsPath path steps) : pathSteps path = .ok steps := by
  have hproper : [] ∉ (splitDots path.toList).map trim := by
    rw [h.map_trim, List.mem_map]
    rintro ⟨step, hs, hempty⟩
    exact (h.proper step hs).nonempty (String.toList_eq_nil_iff.mp hempty)
  have hsteps : (splitDots path.toList).map (fun part => String.ofList (trim part)) = steps := by
    calc (splitDots path.toList).map (fun part => String.ofList (trim part))
      _ = ((splitDots path.toList).map trim).map String.ofList := by rw [List.map_map]; rfl
      _ = steps := by rw [h.map_trim, List.map_map]; simp [Function.comp_def]
  rw [pathSteps_eq, if_neg (fun hnil => hproper (empty_mem_map_trim hnil)), if_neg hproper, hsteps]

theorem isPath_of_pathSteps (h : pathSteps path = .ok steps) : IsPath path steps := by
  rw [pathSteps_eq] at h
  split at h
  · cases h
  split at h
  · cases h
  next hproper =>
  cases h
  constructor
  · simpa using splitDots_ne_nil path.toList
  · intro step hs
    obtain ⟨part, hp, rfl⟩ := List.mem_map.mp hs
    constructor
    · intro hempty
      have hnil : trim part = [] := by
        rw [← String.toList_ofList (l := trim part), hempty, String.toList_empty]
      exact hproper (hnil ▸ List.mem_map_of_mem hp)
    · rw [String.toList_ofList]
      intro hm
      exact no_dot_of_mem_splitDots hp ((padded_trim part).mem hm)
    · rw [String.toList_ofList]
      exact isTrimmed_trim part
  · refine ⟨splitDots path.toList, ?_, (intercalate_splitDots _).symm⟩
    rw [List.forall₂_map_right_iff, List.forall₂_same]
    intro part _
    rw [String.toList_ofList]
    exact padded_trim part

/-- The paths that can be read are the texts of one or more proper steps. -/
theorem pathSteps_eq_ok_iff : pathSteps path = .ok steps ↔ IsPath path steps :=
  ⟨isPath_of_pathSteps, pathSteps_of_isPath⟩

end Cartouche
