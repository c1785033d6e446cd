import Cartouche.Proofs.Digits
import Cartouche.Text.Blank
import Mathlib.Data.List.TakeWhile

/-! Trimming leaves a text without blanks at its ends, and leaves such a text as it is. -/
namespace Cartouche.Text
open Decimal

/-- No blank stands first, and none stands last. -/
structure IsTrimmed (text : List Char) : Prop where
  first : ∀ c ∈ text.head?, isBlank c = false
  last : ∀ c ∈ text.getLast?, isBlank c = false

variable {text a b : List Char}

theorem dropWhile_eq_self {p : Char → Bool} (h : ∀ c ∈ text.head?, p c = false) :
    text.dropWhile p = text := by
  cases text with
  | nil => rfl
  | cons c rest =>
    apply List.dropWhile_cons_of_neg
    simp [h c rfl]

theorem of_mem_head?_dropWhile {p : Char → Bool} {c : Char} (h : c ∈ (text.dropWhile p).head?) :
    p c = false := by
  have hnot := List.head?_dropWhile_not p text
  rw [Option.mem_def.mp h] at hnot
  exact hnot

theorem trimEnd_prefix (text : List Char) : trimEnd text <+: text := by
  rw [trimEnd, ← List.reverse_suffix, List.reverse_reverse]
  exact List.dropWhile_suffix isBlank

theorem isTrimmed_trim (text : List Char) : IsTrimmed (trim text) where
  first := by
    intro c hc
    obtain ⟨rest, hrest⟩ := trimEnd_prefix (trimStart text)
    have hfirst : c ∈ (trimStart text).head? := by
      rw [← hrest, List.head?_append]
      rw [trim, Option.mem_def] at hc
      rw [hc]
      rfl
    exact of_mem_head?_dropWhile hfirst
  last := by
    intro c hc
    rw [trim, trimEnd, List.getLast?_reverse] at hc
    exact of_mem_head?_dropWhile hc

theorem IsTrimmed.trim_eq (h : IsTrimmed text) : trim text = text := by
  have hstart : trimStart text = text := dropWhile_eq_self h.first
  have hend : text.reverse.dropWhile isBlank = text.reverse := by
    apply dropWhile_eq_self
    intro c hc
    rw [List.head?_reverse] at hc
    exact h.last c hc
  rw [trim, hstart, trimEnd, hend, List.reverse_reverse]

/-- A text with blanks before and after it. -/
def Padded (padded text : List Char) : Prop :=
  ∃ before after, (∀ c ∈ before, isBlank c) ∧ (∀ c ∈ after, isBlank c) ∧
    padded = before ++ text ++ after

theorem padded_trim (text : List Char) : Padded text (trim text) := by
  refine ⟨text.takeWhile isBlank, ((trimStart text).reverse.takeWhile isBlank).reverse, ?_, ?_, ?_⟩
  · intro c hc
    exact List.mem_takeWhile_imp hc
  · intro c hc
    exact List.mem_takeWhile_imp (List.mem_reverse.mp hc)
  · have hend : trim text ++ ((trimStart text).reverse.takeWhile isBlank).reverse =
        trimStart text := by
      rw [trim, trimEnd, ← List.reverse_append, List.takeWhile_append_dropWhile,
        List.reverse_reverse]
    rw [List.append_assoc, hend]
    exact List.takeWhile_append_dropWhile.symm

theorem Padded.mem {c : Char} (h : Padded a b) (hc : c ∈ b) : c ∈ a := by
  obtain ⟨before, after, _, _, rfl⟩ := h
  exact List.mem_append_left _ (List.mem_append_right _ hc)

/-- Of a text between blanks trimming leaves the text. -/
theorem IsTrimmed.trim_padded (hb : IsTrimmed b) (h : Padded a b) : trim a = b := by
  obtain ⟨before, after, hbefore, hafter, rfl⟩ := h
  have hstart : trimStart (before ++ b ++ after) = trimStart (b ++ after) := by
    rw [List.append_assoc]
    exact List.dropWhile_append_of_pos hbefore
  rw [trim, hstart]
  cases b with
  | nil =>
    have hnil : trimStart ([] ++ after) = [] := List.dropWhile_eq_nil_iff.mpr hafter
    rw [hnil]
    rfl
  | cons c rest =>
    have hfirst : trimStart (c :: rest ++ after) = c :: rest ++ after := dropWhile_eq_self hb.first
    have hreverse : ∀ c ∈ after.reverse, isBlank c = true :=
      fun c hc => hafter c (List.mem_reverse.mp hc)
    have hlast : (c :: rest).reverse.dropWhile isBlank = (c :: rest).reverse := by
      apply dropWhile_eq_self
      intro x hx
      rw [List.head?_reverse] at hx
      exact hb.last x hx
    rw [hfirst, trimEnd, List.reverse_append, List.dropWhile_append_of_pos hreverse, hlast,
      List.reverse_reverse]

theorem Padded.trim_eq (h : Padded a b) : trim a = trim b := by
  obtain ⟨before, after, hbefore, hafter, rfl⟩ := h
  obtain ⟨before', after', hbefore', hafter', hb⟩ := padded_trim b
  apply (isTrimmed_trim b).trim_padded
  refine ⟨before ++ before', after' ++ after, ?_, ?_, ?_⟩
  · simpa [or_imp, forall_and] using ⟨hbefore, hbefore'⟩
  · simpa [or_imp, forall_and] using ⟨hafter', hafter⟩
  · calc before ++ b ++ after = before ++ (before' ++ trim b ++ after') ++ after := by rw [← hb]
      _ = before ++ before' ++ trim b ++ (after' ++ after) := by simp only [List.append_assoc]

theorem isTrimmed_singleton {c : Char} (h : isBlank c = false) : IsTrimmed [c] where
  first := by
    intro x hx
    cases hx
    exact h
  last := by
    intro x hx
    cases hx
    exact h

theorem IsTrimmed.append (ha : IsTrimmed a) (hb : IsTrimmed b) (hna : a ≠ []) (hnb : b ≠ []) :
    IsTrimmed (a ++ b) where
  first := by
    intro c hc
    cases a with
    | nil => exact absurd rfl hna
    | cons x a => exact ha.first c hc
  last := by
    intro c hc
    rw [List.getLast?_append] at hc
    cases hl : b.getLast? with
    | none => exact absurd (List.getLast?_eq_none_iff.mp hl) hnb
    | some x =>
      rw [hl] at hc
      exact hb.last c (hl.trans hc)

/-- Nothing is left of a text only where all of it is blank. -/
theorem trim_ne_nil {c : Char} (hc : c ∈ text) (hblank : isBlank c = false) :
    trim text ≠ [] := by
  intro h
  rw [trim, trimEnd, List.reverse_eq_nil_iff, List.dropWhile_eq_nil_iff] at h
  have hsplit := List.takeWhile_append_dropWhile (p := isBlank) (l := text)
  rw [← hsplit, List.mem_append] at hc
  have hb : isBlank c = true := by
    rcases hc with hc | hc
    · exact List.mem_takeWhile_imp hc
    · exact h c (List.mem_reverse.mpr hc)
  rw [hblank] at hb
  cases hb

theorem isBlank_of_isDigit {c : Char} (h : c.isDigit) : isBlank c = false := by
  have ⟨low, high⟩ := range_of_isDigit h
  simp only [isBlank, blanks, CharSet.contains, List.any_cons, List.any_nil, Bool.or_eq_false_iff,
    Bool.and_eq_false_iff, decide_eq_false_iff_not, and_true]
  omega

theorem isTrimmed_digitsOf (n : Nat) : IsTrimmed (digitsOf n) where
  first := fun _ h => isBlank_of_isDigit (isDigit_of_mem_digitsOf (List.mem_of_mem_head? h))
  last := fun _ h => isBlank_of_isDigit (isDigit_of_mem_digitsOf (List.mem_of_mem_getLast? h))

theorem trimmed_eq_self_iff (s : String) : trimmed s = s ↔ IsTrimmed s.toList := by
  constructor
  · intro h
    have hl := congrArg String.toList h
    rw [trimmed, String.toList_ofList] at hl
    rw [← hl]
    exact isTrimmed_trim _
  · intro h
    rw [trimmed, h.trim_eq, String.ofList_toList]

end Cartouche.Text
