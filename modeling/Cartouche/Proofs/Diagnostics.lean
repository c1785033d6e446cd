import Cartouche.Proofs.Expansion
import Cartouche.Proofs.Paths

/-! Diagnostics are of two sorts, which their texts keep apart: notes, and reports of lookups that
failed. -/
namespace Cartouche
open Decimal Text

/-- A diagnostic that reports no failed lookup. -/
inductive Diagnostic.IsNote (d : Diagnostic) : Prop where
  | shape (word : String) (property : d.property = some "shape")
      (message : d.message = shapeNote word)
  | ends (property : d.property = none) (message : d.message = endNote)

/-- How the texts of errors begin. -/
def PathError.opening : PathError → List Char
  | .emptyPath => ['e', 'm']
  | .emptySegment _ => ['e', 'm']
  | .nullSegment _ _ => ['`']
  | .notTraversable _ _ _ => ['c', 'a']
  | .missingKey _ _ => ['n', 'o']
  | .indexOutOfRange _ _ _ => ['i', 'n']

theorem opening_append {o : List Char} {s : String} (h : o <+: s.toList) (t : String) :
    o <+: (s ++ t).toList := by
  rw [String.toList_append]
  exact h.trans (List.prefix_append _ _)

theorem opening_message (e : PathError) : e.opening <+: e.message.toList := by
  cases e with
  | emptyPath => decide
  | emptySegment path =>
    have h : ['e', 'm'] <+: "empty segment in path `".toList := by decide
    exact opening_append (opening_append h path) _
  | nullSegment path segment =>
    have h : ['`'] <+: "`".toList := by decide
    exact opening_append (opening_append (opening_append (opening_append h segment) _) path) _
  | notTraversable path segment found =>
    have h : ['c', 'a'] <+: "cannot read `".toList := by decide
    exact opening_append (opening_append (opening_append (opening_append (opening_append
      (opening_append h segment) _) found) _) path) _
  | missingKey path segment =>
    have h : ['n', 'o'] <+: "no field `".toList := by decide
    exact opening_append (opening_append (opening_append (opening_append h segment) _) path) _
  | indexOutOfRange path segment length =>
    have h : ['i', 'n'] <+: "index ".toList := by decide
    exact opening_append (opening_append (opening_append (opening_append (opening_append
      (opening_append h segment) _) _) _) path) _

theorem opening_shapeNote (word : String) : ['u'] <+: (shapeNote word).toList :=
  opening_append (opening_append (by decide) word) _

/-- Texts that open differently are different. -/
theorem ne_of_opening {s t : String} {o o' : List Char} (hs : o <+: s.toList)
    (ht : o' <+: t.toList) (h : ¬ o <+: o' ∧ ¬ o' <+: o) : s ≠ t := by
  intro he
  rw [← he] at ht
  rcases List.prefix_or_prefix_of_prefix hs ht with hp | hp
  · exact h.1 hp
  · exact h.2 hp

theorem message_ne_shapeNote (e : PathError) (word : String) : e.message ≠ shapeNote word := by
  apply ne_of_opening (opening_message e) (opening_shapeNote word)
  cases e <;> simp [PathError.opening]

theorem message_ne_endNote (e : PathError) : e.message ≠ endNote := by
  have hnote : ['e', 'd'] <+: endNote.toList := by decide
  apply ne_of_opening (opening_message e) hnote
  cases e <;> simp [PathError.opening]

/-- An error of a path itself has a text that no other error has. -/
theorem not_isMalformed_of_message_eq {e e' : PathError} (h : e.message = e'.message)
    (he : ¬ e.IsMalformed) : ¬ e'.IsMalformed := by
  intro he'
  apply ne_of_opening (opening_message e) (opening_message e') _ h
  cases e <;> cases e' <;> simp_all [PathError.opening, PathError.IsMalformed]

/-- A note reads like no error, whatever words it quotes. -/
theorem Diagnostic.IsNote.message_ne {d : Diagnostic} (h : d.IsNote) (e : PathError) :
    d.message ≠ e.message := by
  intro he
  cases h with
  | shape word _ hm => exact message_ne_shapeNote e word (he.symm.trans hm)
  | ends _ hm => exact message_ne_endNote e (he.symm.trans hm)

/-- What is reported of a record's events: a note, or a failure among them. -/
theorem Template.isNote_or_failure {t : Template} {record : Value} {event : Event}
    (h : event ∈ t.events record) {i : Nat} {d : Diagnostic}
    (hd : event.diagnostic? t.id i = some d) :
    d.IsNote ∨ ∃ f, event = .failure f ∧ d.message = f.cause.message := by
  cases event with
  | draft draft => cases hd
  | failure f =>
    cases hd
    exact Or.inr ⟨f, rfl, rfl⟩
  | note property message =>
    cases hd
    left
    rcases note_of_mem_events h with ⟨rfl, word, rfl⟩ | ⟨rfl, rfl⟩
    · exact Diagnostic.IsNote.shape word rfl rfl
    · exact Diagnostic.IsNote.ends rfl rfl

end Cartouche
