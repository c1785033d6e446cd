import Cartouche.Markup.Tree

/-!
Escaped text. The replacements of single characters amount to one pass, in which every character
becomes an entity or stays; reading the entities back from the left gives the text again, also where
the text itself has entities.
-/
namespace Cartouche

/-- The entity of a character, or the character. -/
def escapeChar (c : Char) : List Char :=
  if c = '&' then "&amp;".toList
  else if c = '<' then "&lt;".toList
  else if c = '>' then "&gt;".toList
  else if c = '"' then "&quot;".toList
  else if c = '\'' then "&apos;".toList
  else [c]

/-- Text with the five entities read as the characters they stand for. -/
def unescape : List Char → List Char
  | '&' :: 'a' :: 'm' :: 'p' :: ';' :: rest => '&' :: unescape rest
  | '&' :: 'l' :: 't' :: ';' :: rest => '<' :: unescape rest
  | '&' :: 'g' :: 't' :: ';' :: rest => '>' :: unescape rest
  | '&' :: 'q' :: 'u' :: 'o' :: 't' :: ';' :: rest => '"' :: unescape rest
  | '&' :: 'a' :: 'p' :: 'o' :: 's' :: ';' :: rest => '\'' :: unescape rest
  | c :: rest => c :: unescape rest
  | [] => []

/-- A character that is not replaced stays as it is. -/
theorem escapeChar_of_plain {c : Char} (hamp : c ≠ '&') (hlt : c ≠ '<') (hgt : c ≠ '>')
    (hquot : c ≠ '"') (hapos : c ≠ '\'') : escapeChar c = [c] := by
  rw [escapeChar, if_neg hamp, if_neg hlt, if_neg hgt, if_neg hquot, if_neg hapos]

/-- What can be said of the characters that are replaced and of any other can be said of all. -/
theorem escapable_cases {P : Char → Prop} (hamp : P '&') (hlt : P '<') (hgt : P '>') (hquot : P '"')
    (hapos : P '\'') (hplain : ∀ c, c ≠ '&' → c ≠ '<' → c ≠ '>' → c ≠ '"' → c ≠ '\'' → P c)
    (c : Char) : P c := by
  by_cases h₁ : c = '&'
  · exact h₁ ▸ hamp
  by_cases h₂ : c = '<'
  · exact h₂ ▸ hlt
  by_cases h₃ : c = '>'
  · exact h₃ ▸ hgt
  by_cases h₄ : c = '"'
  · exact h₄ ▸ hquot
  by_cases h₅ : c = '\''
  · exact h₅ ▸ hapos
  exact hplain c h₁ h₂ h₃ h₄ h₅

theorem replaceChar_of_ne {c d : Char} (h : d ≠ c) (entity : String) :
    replaceChar c entity [d] = [d] := by
  rw [replaceChar, List.flatMap_singleton, if_neg h]

theorem escapeMarkup_singleton (c : Char) : escapeMarkup [c] = escapeChar c := by
  induction c using escapable_cases with
  | hplain c hamp hlt hgt hquot hapos =>
    rw [escapeChar_of_plain hamp hlt hgt hquot hapos, escapeMarkup, replaceChar_of_ne hamp,
      replaceChar_of_ne hlt, replaceChar_of_ne hgt, replaceChar_of_ne hquot,
      replaceChar_of_ne hapos]
  | _ => decide

/-- No replacement touches an entity that an earlier one has put in. -/
theorem escapeMarkup_eq_flatMap (text : List Char) :
    escapeMarkup text = text.flatMap escapeChar := by
  induction text with
  | nil => rfl
  | cons c rest ih =>
    rw [List.flatMap_cons, ← ih, ← escapeMarkup_singleton]
    simp only [escapeMarkup, replaceChar, ← List.flatMap_append, List.singleton_append]

/-- Escaped text neither opens a tag nor ends a value in quotes. -/
theorem not_mem_escapeMarkup {text : List Char} {c : Char} (h : c ∈ escapeMarkup text) :
    c ≠ '<' ∧ c ≠ '>' ∧ c ≠ '"' ∧ c ≠ '\'' := by
  have hall : ∀ d, (escapeChar d).all fun c => c ≠ '<' ∧ c ≠ '>' ∧ c ≠ '"' ∧ c ≠ '\'' := by
    intro d
    induction d using escapable_cases with
    | hplain d hamp hlt hgt hquot hapos =>
      rw [escapeChar_of_plain hamp hlt hgt hquot hapos]
      simp [hlt, hgt, hquot, hapos]
    | _ => decide
  rw [escapeMarkup_eq_flatMap, List.mem_flatMap] at h
  obtain ⟨d, _, hd⟩ := h
  exact of_decide_eq_true (List.all_eq_true.mp (hall d) c hd)

theorem unescape_cons {c : Char} (h : c ≠ '&') (rest : List Char) :
    unescape (c :: rest) = c :: unescape rest := by
  rw [unescape]
  all_goals
    intro _ hc
    exact absurd hc h

theorem unescape_escapeChar (c : Char) (rest : List Char) :
    unescape (escapeChar c ++ rest) = c :: unescape rest := by
  induction c using escapable_cases with
  | hplain c hamp hlt hgt hquot hapos =>
    rw [escapeChar_of_plain hamp hlt hgt hquot hapos]
    exact unescape_cons hamp rest
  | _ => rfl

/-- Escaping is undone, whatever the text. -/
theorem unescape_escapeMarkup (text : List Char) : unescape (escapeMarkup text) = text := by
  rw [escapeMarkup_eq_flatMap]
  induction text with
  | nil => rfl
  | cons c rest ih =>
    rw [List.flatMap_cons, unescape_escapeChar, ih]

example : escapeMarkup "<&lt;".toList = "&lt;&amp;lt;".toList := by
  decide

def entities : List (List Char) :=
  ["&amp;".toList, "&lt;".toList, "&gt;".toList, "&quot;".toList, "&apos;".toList]

/-- What is put in for a character has no ampersand, or it is an entity and begins with its only
one. -/
theorem ampersand_of_escapeChar (c : Char) : '&' ∉ (escapeChar c).tail ∧
    ('&' ∈ escapeChar c → escapeChar c ∈ entities) := by
  induction c using escapable_cases with
  | hplain c hamp hlt hgt hquot hapos =>
    rw [escapeChar_of_plain hamp hlt hgt hquot hapos]
    exact ⟨by simp, fun h => absurd (List.mem_singleton.mp h).symm hamp⟩
  | _ => decide

theorem escapeChar_split {c : Char} {before after : List Char}
    (h : escapeChar c = before ++ '&' :: after) : before = [] ∧ escapeChar c ∈ entities := by
  obtain ⟨htail, hentity⟩ := ampersand_of_escapeChar c
  refine ⟨?_, hentity (by simp [h])⟩
  cases before with
  | nil => rfl
  | cons d before => exact absurd (by simp [h]) htail

/-- Wherever escaped text has an ampersand, an entity begins. -/
theorem exists_entity {text before after : List Char}
    (h : escapeMarkup text = before ++ '&' :: after) :
    ∃ entity ∈ entities, entity <+: '&' :: after := by
  rw [escapeMarkup_eq_flatMap] at h
  induction text generalizing before with
  | nil => simp at h
  | cons c text ih =>
    rw [List.flatMap_cons] at h
    rcases List.append_eq_append_iff.mp h with ⟨behind, _, hrest⟩ | ⟨started, hchar, hrest⟩
    · exact ih hrest
    · cases started with
      | nil => exact @ih [] hrest.symm
      | cons d started =>
        -- The ampersand is in what the first character became.
        obtain ⟨rfl, hafter⟩ := List.cons.inj hrest
        obtain ⟨rfl, hentity⟩ := escapeChar_split hchar
        refine ⟨escapeChar c, hentity, ?_⟩
        rw [hchar, hafter]
        exact List.prefix_append ('&' :: started) _

/-- The five replacements in turn are one replacement of each character by itself. So text can be
escaped piece by piece; what comes out has none of the other four characters, and no ampersand but
those of entities; and reading the entities gives the text back, no two texts having one form. -/
theorem escapeMarkup_one_pass (text : List Char) :
    escapeMarkup text = text.flatMap escapeChar ∧
    (∀ more, escapeMarkup (text ++ more) = escapeMarkup text ++ escapeMarkup more) ∧
    (∀ c ∈ escapeMarkup text, c ≠ '<' ∧ c ≠ '>' ∧ c ≠ '"' ∧ c ≠ '\'') ∧
    (∀ before after, escapeMarkup text = before ++ '&' :: after →
      ∃ entity ∈ entities, entity <+: '&' :: after) ∧
    unescape (escapeMarkup text) = text ∧ Function.Injective escapeMarkup := by
  refine ⟨escapeMarkup_eq_flatMap text, ?_, fun _ => not_mem_escapeMarkup, fun _ _ => exists_entity,
    unescape_escapeMarkup text, Function.LeftInverse.injective unescape_escapeMarkup⟩
  intro more
  simp only [escapeMarkup_eq_flatMap, List.flatMap_append]

/-- The ampersand of an entity in a text becomes an entity itself, and that one alone is read
back. -/
theorem entity_escaped_again : escapeMarkup "1 &lt; 2".toList = "1 ".toList ++ "&amp;lt; 2".toList ∧
    (∃ entity ∈ entities, entity <+: "&amp;lt; 2".toList) ∧
    unescape ("1 ".toList ++ "&amp;lt; 2".toList) = "1 &lt; 2".toList := by
  obtain ⟨_, _, _, hentity, hback, _⟩ := escapeMarkup_one_pass "1 &lt; 2".toList
  have htext : escapeMarkup "1 &lt; 2".toList = "1 ".toList ++ "&amp;lt; 2".toList := by decide
  rw [htext] at hback
  exact ⟨htext, hentity _ _ htext, hback⟩

end Cartouche
