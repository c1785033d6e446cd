import Cartouche.Proofs.Slugs
import Mathlib.Data.List.Chain

/-!
The form of slugs. The runs of letters that a slug is made of are told from the text alone, by what
stands around them; the dashes of a slug stand between two of them and nowhere else.
-/
namespace Cartouche.Text

/-- Runs that cannot be made longer: the characters in front of a run and behind it are not
alphanumeric. -/
inductive MaximalRuns : List Char → List (List Char) → Prop
  | none {gap : List Char} (hgap : ∀ c ∈ gap, isAlphanumeric c = false) : MaximalRuns gap []
  | run {gap word rest : List Char} {words : List (List Char)}
      (hgap : ∀ c ∈ gap, isAlphanumeric c = false) (hne : word ≠ [])
      (hword : ∀ c ∈ word, isAlphanumeric c) (hend : ∀ c ∈ rest.head?, isAlphanumeric c = false)
      (hrest : MaximalRuns rest words) : MaximalRuns (gap ++ (word ++ rest)) (word :: words)

variable {text before after word : List Char} {words : List (List Char)} {c : Char}

theorem MaximalRuns.letterRuns_eq (h : MaximalRuns text words) : letterRuns text = words := by
  induction h with
  | none hgap =>
    have hnil := letterRuns_separators_append hgap []
    rwa [List.append_nil] at hnil
  | run hgap hne hword hend _ ih =>
    rw [letterRuns_separators_append hgap, letterRuns_word hne hword hend, ih]

/-- A separator in front of a text belongs to its first gap. -/
theorem MaximalRuns.cons_separator (hc : isAlphanumeric c = false) (h : MaximalRuns text words) :
    MaximalRuns (c :: text) words := by
  cases h with
  | none hgap => exact .none (List.forall_mem_cons.mpr ⟨hc, hgap⟩)
  | @run gap _ _ _ hgap hne hword hend hrest =>
    rw [← List.cons_append]
    exact .run (List.forall_mem_cons.mpr ⟨hc, hgap⟩) hne hword hend hrest

/-- Every text has its runs, and so does what is left of it behind the run that it begins with. -/
theorem maximalRuns_letterRuns (text : List Char) : MaximalRuns text (letterRuns text) ∧
    MaximalRuns (text.dropWhile isAlphanumeric) (letterRuns (text.dropWhile isAlphanumeric)) := by
  induction text with
  | nil => exact ⟨.none (by simp), .none (by simp)⟩
  | cons c text ih =>
    obtain ⟨htext, hbehind⟩ := ih
    by_cases hc : isAlphanumeric c
    · rw [letterRuns_letter hc, List.dropWhile_cons_of_pos hc]
      refine ⟨?_, hbehind⟩
      have hsplit : c :: text = [] ++
          (c :: text.takeWhile isAlphanumeric ++ text.dropWhile isAlphanumeric) := by
        rw [List.nil_append, List.cons_append, List.takeWhile_append_dropWhile]
      rw [hsplit]
      exact .run (by simp) (List.cons_ne_nil _ _)
        (List.forall_mem_cons.mpr ⟨hc, fun _ => List.mem_takeWhile_imp⟩)
        (fun _ => of_mem_head?_dropWhile) hbehind
    · have hruns := htext.cons_separator (Bool.eq_false_iff.mpr hc)
      rw [← letterRuns_separator (Bool.eq_false_iff.mpr hc)] at hruns
      rw [List.dropWhile_cons_of_neg hc]
      exact ⟨hruns, hruns⟩

theorem existsUnique_maximalRuns (text : List Char) : ∃! words, MaximalRuns text words :=
  ⟨letterRuns text, (maximalRuns_letterRuns text).1, fun _ h => h.letterRuns_eq.symm⟩

/-! Dashes. -/

/-- What stands between dashes: at least one character, and no dash. -/
def IsSlugWord (word : List Char) : Prop :=
  word ≠ [] ∧ '-' ∉ word

theorem isSlugWord_lowered (h : word ∈ letterRuns text) : IsSlugWord (lowered word) := by
  refine ⟨lowered_ne_nil (ne_nil_of_mem_letterRuns h), ?_⟩
  intro hdash
  obtain ⟨c, hc, hdash⟩ := List.mem_flatMap.mp hdash
  exact dash_not_mem_lower (mem_flatten_letterRuns.mp (List.mem_flatten_of_mem h hc)).2 hdash

theorem joined_eq_nil_iff (h : ∀ word ∈ words, IsSlugWord word) :
    joined words = [] ↔ words = [] := by
  cases words with
  | nil => simp [joined]
  | cons first words =>
    have hne := (h first List.mem_cons_self).1
    cases words with
    | nil => simpa [joined] using hne
    | cons second words => simp [joined_cons_cons]

theorem head?_joined_ne_dash (h : ∀ word ∈ words, IsSlugWord word) :
    (joined words).head? ≠ some '-' := by
  cases words with
  | nil => simp [joined]
  | cons first words =>
    obtain ⟨hne, hdash⟩ := h first List.mem_cons_self
    have hfirst : first.head? ≠ some '-' := fun hc => hdash (List.mem_of_head? hc)
    cases words with
    | nil => simpa [joined] using hfirst
    | cons second words => rwa [joined_cons_cons, List.head?_append_of_ne_nil _ hne]

theorem getLast?_joined_ne_dash (h : ∀ word ∈ words, IsSlugWord word) :
    (joined words).getLast? ≠ some '-' := by
  induction words with
  | nil => simp [joined]
  | cons first words ih =>
    obtain ⟨⟨_, hdash⟩, hwords⟩ := List.forall_mem_cons.mp h
    cases words with
    | nil =>
      have hfirst : first.getLast? ≠ some '-' := fun hc => hdash (List.mem_of_getLast? hc)
      simpa [joined] using hfirst
    | cons second words =>
      have hne := (joined_eq_nil_iff hwords).not.mpr (List.cons_ne_nil _ _)
      rw [joined_cons_cons, List.getLast?_append_cons, List.getLast?_cons_of_ne_nil hne]
      exact ih hwords

/-- Of two neighbours in a slug one is no dash. -/
theorem isChain_joined (h : ∀ word ∈ words, IsSlugWord word) :
    (joined words).IsChain fun c d => c ≠ '-' ∨ d ≠ '-' := by
  have hplain : ∀ word : List Char, '-' ∉ word → word.IsChain fun c d => c ≠ '-' ∨ d ≠ '-' := by
    intro word hdash
    refine List.isChain_iff_forall_rel_of_append_cons_cons.mpr fun c d _ _ hword => Or.inl ?_
    rintro rfl
    exact hdash (by simp [hword])
  induction words with
  | nil => exact .nil
  | cons first words ih =>
    obtain ⟨⟨_, hdash⟩, hwords⟩ := List.forall_mem_cons.mp h
    cases words with
    | nil => simpa [joined] using hplain first hdash
    | cons second words =>
      rw [joined_cons_cons]
      refine List.isChain_append.mpr ⟨hplain first hdash, List.isChain_cons.mpr ⟨?_, ih hwords⟩, ?_⟩
      · rintro c hc
        refine Or.inr ?_
        rintro rfl
        exact head?_joined_ne_dash hwords hc
      · rintro c hc d -
        refine Or.inl ?_
        rintro rfl
        exact hdash (List.mem_of_getLast? hc)

theorem not_dashes_infix_joined (h : ∀ word ∈ words, IsSlugWord word) :
    ¬ ['-', '-'] <:+: joined words := by
  rintro ⟨before, after, htext⟩
  rw [List.append_assoc] at htext
  have hpair := List.isChain_iff_forall_rel_of_append_cons_cons.mp (isChain_joined h) htext.symm
  exact hpair.elim (fun hne => hne rfl) fun hne => hne rfl

theorem letterRuns_eq_nil_iff : letterRuns text = [] ↔ ∀ c ∈ text, isAlphanumeric c = false := by
  constructor
  · intro h c hc
    by_contra halpha
    have hmem := mem_flatten_letterRuns.mpr ⟨hc, (Bool.not_eq_false _).mp halpha⟩
    rw [h] at hmem
    cases hmem
  · exact fun h => MaximalRuns.letterRuns_eq (.none h)

/-- Separators at the ends of a text are in none of its runs. -/
theorem letterRuns_between (hbefore : ∀ c ∈ before, isAlphanumeric c = false)
    (hafter : ∀ c ∈ after, isAlphanumeric c = false) :
    letterRuns (before ++ text ++ after) = letterRuns text := by
  rw [(letterRuns_append_separators hafter _).1, letterRuns_separators_append hbefore]

/-- Every text has exactly one row of maximal runs, and its slug is that row in lower case, joined
by dashes: none of them first or last, no two of them together, and nothing at all where the text
has no alphanumeric character. What is added at the ends without such a character is lost. -/
theorem slug_joins_runs (text : String) :
    (∃! runs, MaximalRuns text.toList runs) ∧
    (∀ runs, MaximalRuns text.toList runs → slug text = .ofList (joined (runs.map lowered))) ∧
    (slug text).toList.head? ≠ some '-' ∧ (slug text).toList.getLast? ≠ some '-' ∧
    ¬ ['-', '-'] <:+: (slug text).toList ∧
    (slug text = "" ↔ ∀ c ∈ text.toList, isAlphanumeric c = false) ∧
    ∀ before after : String,
      (∀ c ∈ before.toList ++ after.toList, isBlank c ∨ isAlphanumeric c = false) →
      slug (before ++ text ++ after) = slug text := by
  have hwords : ∀ word ∈ (letterRuns text.toList).map lowered, IsSlugWord word := by
    intro word hword
    obtain ⟨run, hrun, rfl⟩ := List.mem_map.mp hword
    exact isSlugWord_lowered hrun
  have hslug : slug text = .ofList (joined ((letterRuns text.toList).map lowered)) := by
    rw [slug, slugChars_eq]
  refine ⟨existsUnique_maximalRuns _, ?_, ?_, ?_, ?_, ?_, ?_⟩
  · intro runs hruns
    rw [hslug, hruns.letterRuns_eq]
  · rw [hslug, String.toList_ofList]
    exact head?_joined_ne_dash hwords
  · rw [hslug, String.toList_ofList]
    exact getLast?_joined_ne_dash hwords
  · rw [hslug, String.toList_ofList]
    exact not_dashes_infix_joined hwords
  · rw [hslug, String.ofList_eq_empty_iff, joined_eq_nil_iff hwords, List.map_eq_nil_iff,
      letterRuns_eq_nil_iff]
  · intro before after hends
    have hsep : ∀ c ∈ before.toList ++ after.toList, isAlphanumeric c = false := fun c hc =>
      (hends c hc).elim isAlphanumeric_of_isBlank id
    obtain ⟨hbefore, hafter⟩ := List.forall_mem_append.mp hsep
    rw [hslug, slug, slugChars_eq, String.toList_append, String.toList_append,
      letterRuns_between hbefore hafter]

/-- Blanks and dashes around two words are lost, and those between them are one dash. -/
theorem dashed_name_slug : slug "Ann -- Bo" = "ann-bo" ∧
    slug ("\t- " ++ "Ann -- Bo" ++ " -\n") = "ann-bo" := by
  have hslug : slug "Ann -- Bo" = "ann-bo" := by decide +kernel
  have hmarks : ("\t- ".toList ++ " -\n".toList).all fun c => c == '-' || isBlank c := by decide
  obtain ⟨_, _, _, _, _, _, hends⟩ := slug_joins_runs "Ann -- Bo"
  refine ⟨hslug, (hends _ _ fun c hc => ?_).trans hslug⟩
  rcases (Bool.or_eq_true _ _).mp (List.all_eq_true.mp hmarks c hc) with hdash | hblank
  · exact Or.inr (eq_of_beq hdash ▸ not_isAlphanumeric_dash)
  · exact Or.inl hblank

end Cartouche.Text
