import Cartouche.Proofs.LetterCase
import Cartouche.Proofs.Trimming
import Cartouche.Text.Slug

/-!
A slug is made of the words of its text, in lower case and joined by single dashes. Making a slug of
a slug changes it exactly where the text has a dotted I, whose form ends in a mark that is itself
taken for a separator.
-/
namespace Cartouche.Text

/-- The maximal runs of alphanumeric characters. -/
def letterRuns (text : List Char) : List (List Char) :=
  (text.splitOnP fun c => !isAlphanumeric c).filter fun run => !run.isEmpty

/-- Characters in lower case, one by one. -/
def lowered (text : List Char) : List Char :=
  text.flatMap lower

def joined (words : List (List Char)) : List Char :=
  List.intercalate ['-'] words

variable {text before after out word : List Char} {words : List (List Char)} {c d : Char}

/-! Runs. -/

theorem letterRuns_separator (h : isAlphanumeric c = false) (text : List Char) :
    letterRuns (c :: text) = letterRuns text := by
  simp [letterRuns, List.splitOnP_cons_eq_if_modifyHead, h]

/-- What is split off first is the run that the text begins with. -/
theorem exists_splitOnP (text : List Char) : ∃ others,
    (text.splitOnP fun c => !isAlphanumeric c) = text.takeWhile isAlphanumeric :: others ∧
    others.filter (fun run => !run.isEmpty) = letterRuns (text.dropWhile isAlphanumeric) := by
  induction text with
  | nil => exact ⟨[], by simp [letterRuns]⟩
  | cons c text ih =>
    by_cases hc : isAlphanumeric c
    · obtain ⟨others, hsplit, hothers⟩ := ih
      refine ⟨others, ?_⟩
      simp [List.splitOnP_cons_eq_if_modifyHead, hc, hsplit, hothers]
    · refine ⟨text.splitOnP fun c => !isAlphanumeric c, ?_⟩
      rw [Bool.not_eq_true] at hc
      simp [List.splitOnP_cons_eq_if_modifyHead, hc, letterRuns_separator hc]
      rfl

theorem letterRuns_letter (h : isAlphanumeric c) (text : List Char) :
    letterRuns (c :: text) =
      (c :: text.takeWhile isAlphanumeric) :: letterRuns (text.dropWhile isAlphanumeric) := by
  obtain ⟨others, hsplit, hothers⟩ := exists_splitOnP text
  rw [← hothers]
  simp [letterRuns, List.splitOnP_cons_eq_if_modifyHead, h, hsplit]

theorem letterRuns_separators_append (h : ∀ c ∈ before, isAlphanumeric c = false)
    (text : List Char) : letterRuns (before ++ text) = letterRuns text := by
  induction before with
  | nil => rfl
  | cons c before ih =>
    obtain ⟨hc, hbefore⟩ := List.forall_mem_cons.mp h
    exact (letterRuns_separator hc _).trans (ih hbefore)

/-- Separators behind a text neither lengthen its runs nor add one. -/
theorem letterRuns_append_separators (h : ∀ c ∈ after, isAlphanumeric c = false)
    (text : List Char) : letterRuns (text ++ after) = letterRuns text ∧
      (text ++ after).takeWhile isAlphanumeric = text.takeWhile isAlphanumeric ∧
      letterRuns ((text ++ after).dropWhile isAlphanumeric) =
        letterRuns (text.dropWhile isAlphanumeric) := by
  induction text with
  | nil =>
    have hruns : letterRuns after = [] := by
      have hnil := letterRuns_separators_append h []
      rwa [List.append_nil] at hnil
    have hfirst : ∀ c ∈ after.head?, isAlphanumeric c = false :=
      fun c hc => h c (List.mem_of_mem_head? hc)
    refine ⟨hruns, ?_, ?_⟩
    · cases after with
      | nil => rfl
      | cons c after => simp [hfirst c rfl]
    · rw [List.nil_append, dropWhile_eq_self hfirst, hruns]
      rfl
  | cons c text ih =>
    obtain ⟨hruns, htake, hdrop⟩ := ih
    rw [List.cons_append]
    by_cases hc : isAlphanumeric c
    · simp [letterRuns_letter hc, hc, htake, hdrop]
    · rw [Bool.not_eq_true] at hc
      simp [letterRuns_separator hc, hc, hruns]

theorem letterRuns_trim (text : List Char) : letterRuns (trim text) = letterRuns text := by
  obtain ⟨before, after, hbefore, hafter, htext⟩ := padded_trim text
  have hrest := (letterRuns_append_separators
    (fun c hc => isAlphanumeric_of_isBlank (hafter c hc)) (trim text)).1
  have hall := letterRuns_separators_append
    (fun c hc => isAlphanumeric_of_isBlank (hbefore c hc)) (trim text ++ after)
  rw [← List.append_assoc, ← htext] at hall
  exact (hall.trans hrest).symm

/-- Runs hold the alphanumeric characters of the text and no others. -/
theorem flatten_letterRuns (text : List Char) :
    (letterRuns text).flatten = text.filter isAlphanumeric ∧
      text.takeWhile isAlphanumeric ++ (letterRuns (text.dropWhile isAlphanumeric)).flatten =
        text.filter isAlphanumeric := by
  induction text with
  | nil => exact ⟨rfl, rfl⟩
  | cons c text ih =>
    obtain ⟨hruns, hfirst⟩ := ih
    by_cases hc : isAlphanumeric c
    · simp [letterRuns_letter hc, hc, hfirst]
    · rw [Bool.not_eq_true] at hc
      simp [letterRuns_separator hc, hc, hruns]

theorem mem_flatten_letterRuns : c ∈ (letterRuns text).flatten ↔ c ∈ text ∧ isAlphanumeric c := by
  rw [(flatten_letterRuns text).1, List.mem_filter]

theorem ne_nil_of_mem_letterRuns (h : word ∈ letterRuns text) : word ≠ [] := by
  simpa using (List.mem_filter.mp h).2

theorem joined_cons_cons (first second : List Char) (words : List (List Char)) :
    joined (first :: second :: words) = first ++ '-' :: joined (second :: words) := by
  rw [joined, List.intercalate_cons_cons, List.append_assoc]
  rfl

/-- A dash inside the first word ends it. -/
theorem joined_append_dash (first second : List Char) (words : List (List Char)) :
    joined ((first ++ '-' :: second) :: words) = joined (first :: second :: words) := by
  rw [joined_cons_cons]
  cases words with
  | nil => simp [joined]
  | cons third words => simp [joined_cons_cons]

theorem mem_joined (h : c ∈ joined words) : c = '-' ∨ c ∈ words.flatten := by
  induction words with
  | nil => cases h
  | cons first words ih =>
    cases words with
    | nil => exact Or.inr (by simpa [joined] using h)
    | cons second words =>
      rw [joined_cons_cons, List.mem_append, List.mem_cons] at h
      obtain h | h | h := h
      · exact Or.inr (List.mem_append_left _ h)
      · exact Or.inl h
      · exact (ih h).imp_right (List.mem_append_right _)

theorem mem_joined_of_mem (h : c ∈ words.flatten) : c ∈ joined words := by
  induction words with
  | nil => cases h
  | cons first words ih =>
    cases words with
    | nil => simpa [joined] using h
    | cons second words =>
      rw [joined_cons_cons, List.mem_append, List.mem_cons]
      obtain h | h := List.mem_append.mp h
      · exact Or.inl h
      · exact Or.inr (Or.inr (ih h))

theorem letterRuns_word (hne : word ≠ []) (h : ∀ c ∈ word, isAlphanumeric c)
    (hafter : ∀ c ∈ after.head?, isAlphanumeric c = false) :
    letterRuns (word ++ after) = word :: letterRuns after := by
  obtain ⟨c, word, rfl⟩ := List.exists_cons_of_ne_nil hne
  obtain ⟨hc, hword⟩ := List.forall_mem_cons.mp h
  have htake : after.takeWhile isAlphanumeric = [] := by
    cases after with
    | nil => rfl
    | cons d after => simp [hafter d rfl]
  rw [List.cons_append, letterRuns_letter hc, List.takeWhile_append_of_pos hword,
    List.dropWhile_append_of_pos hword, dropWhile_eq_self hafter, htake, List.append_nil]

/-- Words that are joined by dashes come back as the runs of what they make. -/
theorem letterRuns_joined (h : ∀ word ∈ words, word ≠ [] ∧ ∀ c ∈ word, isAlphanumeric c) :
    letterRuns (joined words) = words := by
  induction words with
  | nil => rfl
  | cons first words ih =>
    obtain ⟨⟨hne, hfirst⟩, hwords⟩ := List.forall_mem_cons.mp h
    cases words with
    | nil =>
      have hword : letterRuns (first ++ []) = first :: letterRuns [] :=
        letterRuns_word hne hfirst (by simp)
      rw [joined, List.intercalate_singleton, ← List.append_nil first, hword, List.append_nil]
      rfl
    | cons second words =>
      rw [joined_cons_cons, letterRuns_word hne hfirst (by simp [not_isAlphanumeric_dash]),
        letterRuns_separator not_isAlphanumeric_dash, ih hwords]

/-! The loop. -/

/-- A slug that is held with its last character first, read off without dashes at its ends. -/
def finished (out : List Char) : List Char :=
  (out.dropWhile (· == '-')).reverse.dropWhile (· == '-')

/-- The same with the dashes behind. -/
def opened (out : List Char) : List Char :=
  out.reverse.dropWhile (· == '-')

/-- A slug so far of which the last character is no dash. -/
def EndsInWord (out : List Char) : Prop :=
  ∃ d rest, out = d :: rest ∧ d ≠ '-'

theorem dash_not_mem_lower (h : isAlphanumeric c) : '-' ∉ lower c := by
  intro hdash
  obtain ⟨halpha, _⟩ | ⟨_, hmark⟩ := mem_lower h hdash
  · rw [not_isAlphanumeric_dash] at halpha
    cases halpha
  · exact absurd hmark (by decide)

theorem endsInWord_letter (h : isAlphanumeric c) (out : List Char) :
    EndsInWord ((lower c).reverse ++ out) := by
  obtain ⟨d, rest, hrest⟩ : ∃ d rest, (lower c).reverse = d :: rest :=
    List.exists_cons_of_ne_nil (by simpa using lower_ne_nil c)
  refine ⟨d, rest ++ out, by rw [hrest, List.cons_append], ?_⟩
  rintro rfl
  apply dash_not_mem_lower h
  rw [← List.mem_reverse, hrest]
  exact List.mem_cons_self

/-- Dashes at the beginning are cut off once there is anything else. -/
theorem opened_append (h : EndsInWord out) (more : List Char) :
    opened (more ++ out) = opened out ++ more.reverse := by
  obtain ⟨d, rest, rfl, hd⟩ := h
  have hother : ¬ ∀ c ∈ (d :: rest).reverse, (c == '-') = true := by
    intro hall
    exact hd (by simpa using hall d (by simp))
  rw [opened, opened, List.reverse_append, List.dropWhile_append, if_neg]
  simpa using hother

theorem opened_first (h : isAlphanumeric c) (hout : out = [] ∨ out = ['-']) :
    opened ((lower c).reverse ++ out) = lower c := by
  have hlower : (lower c).dropWhile (· == '-') = lower c := by
    apply dropWhile_eq_self
    intro d hd
    have hmem := List.mem_of_mem_head? hd
    simp only [beq_eq_false_iff_ne]
    rintro rfl
    exact dash_not_mem_lower h hmem
  obtain rfl | rfl := hout <;> simp [opened, hlower]

theorem finished_of_endsInWord (h : EndsInWord out) : finished out = opened out := by
  obtain ⟨d, rest, rfl, hd⟩ := h
  simp [finished, opened, hd]

theorem slugStep_letter (h : isAlphanumeric c) (out : List Char) :
    slugStep out c = (lower c).reverse ++ out :=
  if_pos h

theorem slugStep_separator (h : isAlphanumeric c = false) (out : List Char) :
    slugStep out c = if out.head? = some '-' then out else '-' :: out := by
  simp [slugStep, h]

/-- What the loop adds to a slug so far: behind a word the rest of that word and the words after it,
behind a dash new words, and at the beginning all words. -/
theorem finished_foldl (text out : List Char) :
    (EndsInWord out →
      finished (text.foldl slugStep out) = joined ((opened out ++
        lowered (text.takeWhile isAlphanumeric)) ::
          (letterRuns (text.dropWhile isAlphanumeric)).map lowered) ∧
      finished (text.foldl slugStep ('-' :: out)) =
        joined (opened out :: (letterRuns text).map lowered)) ∧
    (out = [] ∨ out = ['-'] →
      finished (text.foldl slugStep out) = joined ((letterRuns text).map lowered)) := by
  induction text generalizing out with
  | nil =>
    refine ⟨?_, ?_⟩
    · intro h
      have hfinished := finished_of_endsInWord h
      have hdash : finished ('-' :: out) = finished out := by simp [finished]
      simp [joined, lowered, letterRuns, hfinished, hdash]
    · rintro (rfl | rfl) <;> rfl
  | cons c text ih =>
    simp only [List.foldl_cons]
    by_cases hc : isAlphanumeric c
    · have hends := endsInWord_letter hc
      simp only [slugStep_letter hc, ((ih _).1 (hends _)).1, letterRuns_letter hc,
        List.takeWhile_cons_of_pos hc, List.dropWhile_cons_of_pos hc, List.map_cons]
      refine ⟨fun h => ⟨?_, ?_⟩, fun hout => ?_⟩
      · simp [opened_append h, lowered]
      · have hopened : opened ((lower c).reverse ++ '-' :: out) = opened out ++ '-' :: lower c := by
          rw [List.append_cons, opened_append h]
          simp
        rw [hopened, ← joined_append_dash]
        simp [lowered]
      · rw [opened_first hc hout]
        rfl
    · rw [Bool.not_eq_true] at hc
      have hdash : slugStep ('-' :: out) c = '-' :: out := by simp [slugStep_separator hc]
      simp only [hdash, letterRuns_separator hc]
      refine ⟨fun h => ⟨?_, ((ih out).1 h).2⟩, fun hout => ?_⟩
      · obtain ⟨d, rest, rfl, hd⟩ := h
        have hstep : slugStep (d :: rest) c = '-' :: d :: rest := by
          simp [slugStep_separator hc, hd]
        simp [hstep, hc, ((ih (d :: rest)).1 ⟨d, rest, rfl, hd⟩).2, letterRuns_separator hc,
          lowered]
      · have hstep : slugStep out c = ['-'] := by
          obtain rfl | rfl := hout <;> simp [slugStep_separator hc]
        rw [hstep]
        exact (ih ['-']).2 (Or.inr rfl)

/-- A slug is made of the words of the text, in lower case and joined by single dashes. -/
theorem slugChars_eq (text : List Char) :
    slugChars text = joined ((letterRuns text).map lowered) := by
  rw [← letterRuns_trim]
  exact (finished_foldl (trim text) []).2 (Or.inl rfl)

/-! Slugs of slugs. -/

theorem lowered_ne_nil (h : word ≠ []) : lowered word ≠ [] := by
  obtain ⟨c, word, rfl⟩ := List.exists_cons_of_ne_nil h
  simp [lowered, lower_ne_nil]

/-- In words without a dotted I all forms are alphanumeric and forms of their own. -/
theorem mem_lowered (hword : word ∈ letterRuns text) (hdotted : dottedI ∉ text)
    (hd : d ∈ lowered word) : isAlphanumeric d ∧ lower d = [d] := by
  obtain ⟨c, hc, hd⟩ := List.mem_flatMap.mp hd
  obtain ⟨htext, halpha⟩ := mem_flatten_letterRuns.mp (List.mem_flatten_of_mem hword hc)
  obtain ⟨hform, hlower, _⟩ | ⟨rfl, _⟩ := mem_lower halpha hd
  · exact ⟨hform, hlower⟩
  · exact absurd htext hdotted

theorem lowered_of_forall (h : ∀ c ∈ text, lower c = [c]) : lowered text = text := by
  induction text with
  | nil => rfl
  | cons c text ih =>
    obtain ⟨hc, htext⟩ := List.forall_mem_cons.mp h
    have hrest := ih htext
    simp only [lowered] at hrest
    simp [lowered, hc, hrest]

theorem slugChars_slugChars (h : dottedI ∉ text) :
    slugChars (slugChars text) = slugChars text := by
  have hforms : ∀ word ∈ (letterRuns text).map lowered,
      word ≠ [] ∧ ∀ c ∈ word, isAlphanumeric c := by
    intro form hform
    obtain ⟨word, hword, rfl⟩ := List.mem_map.mp hform
    exact ⟨lowered_ne_nil (ne_nil_of_mem_letterRuns hword), fun c hc => (mem_lowered hword h hc).1⟩
  rw [slugChars_eq, slugChars_eq text, letterRuns_joined hforms, List.map_map]
  congr 1
  apply List.map_congr_left
  intro word hword
  exact lowered_of_forall fun c hc => (mem_lowered hword h hc).2

/-- What a slug has besides dashes comes from the letters of the text. -/
theorem mem_slugChars (h : d ∈ slugChars text) :
    d = '-' ∨ ∃ c ∈ text, isAlphanumeric c ∧ d ∈ lower c := by
  rw [slugChars_eq] at h
  refine (mem_joined h).imp_right fun h => ?_
  rw [← List.flatMap_def] at h
  obtain ⟨word, hword, hd⟩ := List.mem_flatMap.mp h
  obtain ⟨c, hc, hd⟩ := List.mem_flatMap.mp hd
  obtain ⟨htext, halpha⟩ := mem_flatten_letterRuns.mp (List.mem_flatten_of_mem hword hc)
  exact ⟨c, htext, halpha, hd⟩

theorem mem_slugChars_of_mem (hc : c ∈ text) (h : isAlphanumeric c) (hd : d ∈ lower c) :
    d ∈ slugChars text := by
  obtain ⟨word, hword, hcword⟩ :=
    List.mem_flatten.mp (mem_flatten_letterRuns.mpr ⟨hc, h⟩)
  rw [slugChars_eq]
  apply mem_joined_of_mem
  rw [← List.flatMap_def]
  exact List.mem_flatMap.mpr ⟨word, hword, List.mem_flatMap.mpr ⟨c, hcword, hd⟩⟩

theorem dottedI_not_mem_slugChars (text : List Char) : dottedI ∉ slugChars text := by
  intro h
  obtain h | ⟨c, _, halpha, hd⟩ := mem_slugChars h
  · exact absurd h (by decide)
  · obtain ⟨_, _, hne⟩ | ⟨_, hmark⟩ := mem_lower halpha hd
    · exact hne rfl
    · exact absurd hmark (by decide)

/-- The mark of a dotted I is in the slug of its text, and in the slug of no slug. -/
theorem dotAbove_mem_slugChars_iff : dotAbove ∈ slugChars text ↔ dottedI ∈ text := by
  constructor
  · intro h
    obtain h | ⟨c, hc, halpha, hd⟩ := mem_slugChars h
    · exact absurd h (by decide)
    · obtain ⟨hmark, _⟩ | ⟨rfl, _⟩ := mem_lower halpha hd
      · rw [not_isAlphanumeric_dotAbove] at hmark
        cases hmark
      · exact hc
  · intro h
    exact mem_slugChars_of_mem h isAlphanumeric_dottedI (by decide)

theorem slugChars_slugChars_iff : slugChars (slugChars text) = slugChars text ↔ dottedI ∉ text := by
  refine ⟨?_, slugChars_slugChars⟩
  intro h hdotted
  have hmark := dotAbove_mem_slugChars_iff.mpr hdotted
  rw [← h, dotAbove_mem_slugChars_iff] at hmark
  exact dottedI_not_mem_slugChars text hmark

theorem slug_slug_iff {x : String} : slug (slug x) = slug x ↔ dottedI ∉ x.toList := by
  rw [slug, slug, String.toList_ofList, String.ofList_inj]
  exact slugChars_slugChars_iff

end Cartouche.Text
