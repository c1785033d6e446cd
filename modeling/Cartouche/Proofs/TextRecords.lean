import Cartouche.Proofs.Alike
import Cartouche.Proofs.NumberTexts

/-!
Records of typed fields and records of texts. A number and the text it is shown as are read alike
by everything that a template does with a field, so that it makes no difference whether a source
types its numbers.
-/
namespace Cartouche
open Text

/-- Two values, one of them possibly a number of which the other is the text. -/
inductive Retyped : Value → Value → Prop
  | same (v : Value) : Retyped v v
  | number {n : Float} (finite : n.isFinite) :
      Retyped (.number n) (.text (Value.number n).display)

/-- The same keys in the same order, with retyped values. -/
abbrev FieldsRetyped : List (String × Value) → List (String × Value) → Prop :=
  List.Forall₂ fun field field' => field.1 = field'.1 ∧ Retyped field.2 field'.2

/-- Two records, one of which may have texts for numbers of the other. -/
inductive RecordRetyped : Value → Value → Prop
  | object {fields fields' : List (String × Value)} (h : FieldsRetyped fields fields') :
      RecordRetyped (.object fields) (.object fields')

/-- The text of a finite number, in its place. -/
def Value.asText : Value → Value
  | .number n => if n.isFinite then .text (Value.number n).display else .number n
  | v => v

theorem retyped_asText (v : Value) : Retyped v v.asText := by
  cases v with
  | number n =>
    by_cases hfinite : n.isFinite
    · have htext : (Value.number n).asText = .text (Value.number n).display := if_pos hfinite
      rw [htext]
      exact .number hfinite
    · have hkept : (Value.number n).asText = .number n := if_neg hfinite
      rw [hkept]
      exact .same _
  | _ => exact .same _

/-- Texts for all finite numbers of the fields. -/
def asTexts (fields : List (String × Value)) : List (String × Value) :=
  fields.map fun field => (field.1, field.2.asText)

theorem recordRetyped_asTexts (fields : List (String × Value)) :
    RecordRetyped (.object fields) (.object (asTexts fields)) := by
  have hfields : FieldsRetyped fields (asTexts fields) := by
    rw [FieldsRetyped, asTexts, List.forall₂_map_right_iff, List.forall₂_same]
    exact fun field _ => ⟨rfl, retyped_asText field.2⟩
  exact .object hfields

/-- The numbers that fields of a record hold. -/
def Value.heldNumbers : Value → List Float
  | .object fields => fields.filterMap fun field => field.2.number?
  | _ => []

/-- Style values are shown with the same text. -/
def SameDisplay (a b : StyleValue) : Prop :=
  a.display = b.display

theorem sameDisplay_refl (a : StyleValue) : SameDisplay a a :=
  rfl

/-- A number and its text are read alike. -/
theorem alike_number_text {n : Float} (hfinite : n.isFinite) (h : ReadsBack n) :
    Alike SameDisplay (some (.number n)) (some (.text (numberText n))) := by
  have hinput : ∀ v : Value, inputNumber (some v) = v.toNumber := fun _ => rfl
  have hnumber := toNumber_numberText hfinite h
  rw [← hinput, ← hinput] at hnumber
  have htruth : (Value.number n).toBool = (Value.text (numberText n)).toBool := by
    rw [toBool_number hfinite, toBool_numberText h]
  have hshown : SameDisplay (.number n) (.text (numberText n)) := rfl
  constructor
  · rfl
  · rw [isTruthy, isTruthy, Option.any_some, Option.any_some, htruth]
  · exact hnumber.scaled
  · exact hnumber.graded
  · exact .some hshown

theorem get?_retyped {fields fields' : List (String × Value)} (h : FieldsRetyped fields fields')
    (key : String) : Option.Rel Retyped (Table.get? fields key) (Table.get? fields' key) := by
  induction h with
  | nil => exact .none
  | @cons field field' rest rest' hfield _ ih =>
    obtain ⟨k, v⟩ := field
    obtain ⟨_, v'⟩ := field'
    obtain ⟨rfl, hv⟩ := hfield
    have hv : Retyped v v' := hv
    rw [Table.get?_cons, Table.get?_cons]
    split
    · exact .some hv
    · exact ih

variable {record record' : Value}

theorem child?_retyped (h : RecordRetyped record record') (step : String) :
    Option.Rel Retyped (record.child? step) (record'.child? step) := by
  cases h with
  | object h => exact get?_retyped h step

theorem mem_heldNumbers {n : Float} {step : String} (h : RecordRetyped record record')
    (hn : record.child? step = some (.number n)) : n ∈ record.heldNumbers := by
  cases h with
  | object h =>
    have hmem := Table.mem_of_get?_eq_some hn
    exact List.mem_filterMap.mpr ⟨_, hmem, rfl⟩

/-- A safe lookup answers the same for both records, or a number for one and its text for the
other. -/
theorem evaluatePath_retyped (h : RecordRetyped record record') {l : Lookup} (hsafe : l.safe = true)
    (path : String) :
    evaluatePath path record l = evaluatePath path record' l ∨
      ∃ n ∈ record.heldNumbers, n.isFinite ∧ evaluatePath path record l = .ok (some (.number n)) ∧
        evaluatePath path record' l = .ok (some (.text (numberText n))) := by
  rcases evaluatePath_cases hsafe path with ⟨e, hfails⟩ | ⟨first, rest, _, hanswers⟩
  · left
    rw [hfails, hfails]
  · rw [hanswers, hanswers]
    have hchild := child?_retyped h first
    generalize hc : record.child? first = child, hc' : record'.child? first = child' at hchild
    cases hchild with
    | none => exact Or.inl rfl
    | some hv =>
      cases hv with
      | same => exact Or.inl rfl
      | @number n hfinite =>
        cases rest with
        | nil => exact Or.inr ⟨n, mem_heldNumbers h hc, hfinite, rfl, rfl⟩
        | cons next rest =>
          -- Neither a number nor a text has anything below it.
          left
          rw [l.reached_of_leaf path rfl, l.reached_of_leaf path rfl]

namespace Template

theorem readsAlike_retyped {t : Template} (hsafe : t.lookup.safe = true)
    (h : RecordRetyped record record')
    (hread : ∀ n ∈ record.heldNumbers, n.isFinite → ReadsBack n) :
    t.ReadsAlike SameDisplay record record' := by
  apply ReadsAlike.of_lookups sameDisplay_refl
  intro path
  rcases evaluatePath_retyped h hsafe path with hsame | ⟨n, hn, hfinite, hnumber, htext⟩
  · exact Or.inl hsame
  · have halike := alike_number_text hfinite (hread n hn hfinite)
    have hshown : SameText (some (.number n)) (some (.text (numberText n))) := rfl
    exact Or.inr ⟨_, _, hnumber, htext, halike, fun _ => hshown⟩

/-- Safe templates make no difference between numbers and their texts, as far as the texts of the
numbers read back. -/
theorem expand_retyped (t : Template) (sources : Table (List Value)) (records records' : List Value)
    (hs : sources.get? t.source = some records) (hsafe : t.lookup.safe = true)
    (h : List.Forall₂ RecordRetyped records records')
    (hread : ∀ record ∈ records, ∀ n ∈ record.heldNumbers, n.isFinite → ReadsBack n) :
    Parallel (Expansion.Alike SameDisplay) (t.expand sources)
      (t.expand (sources.put t.source records')) := by
  have hrecords : List.Forall₂ (t.ReadsAlike SameDisplay) records records' := by
    clear hs
    induction h with
    | nil => exact .nil
    | cons hr _ ih =>
      have hfirst := readsAlike_retyped hsafe hr (hread _ List.mem_cons_self)
      exact .cons hfirst (ih fun record hrecord => hread record (List.mem_cons_of_mem _ hrecord))
  exact expand_alike sameDisplay_refl hs hrecords

/-- All readers of a number: a filter, texts, an id, a whole token and each kind of mapping. -/
def stock : Template where
  id := "s"
  source := "rows"
  filter := some ⟨"kept", false⟩
  nodes := [⟨none, "${level}", some "of ${top}", none, [
    ("stroke", .literal "${level}"),
    ("fill", .mapped (.category ⟨"fill", "level", [("0", .text "red")], .style (.text "blue")⟩)),
    ("width", .mapped (.threshold ⟨"width", "level", [⟨1, .number 2⟩, ⟨0, .number 1⟩]⟩)),
    ("size", .mapped (.scale ⟨"size", "level", 0, 10, .numeric 4 8⟩))]⟩]
  edges := [⟨none, "${level}", "${top}", none, none, []⟩]
  lookup := .lenient
  onError := .abort

def stocked : List (List (String × Value)) :=
  [[("kept", .number 1), ("level", .number (-0.0)), ("top", .number 2.5)],
    [("kept", .text "yes"), ("level", .number 2.5), ("top", .null)],
    [("kept", .number 0), ("level", .number 5)]]

theorem stock_retyped :
    stock.lookup.safe = true ∧
    (∀ record ∈ stocked.map Value.object, ∀ n ∈ record.heldNumbers, n.isFinite → ReadsBack n) ∧
    Parallel (Expansion.Alike SameDisplay) (stock.expand [("rows", stocked.map .object)])
      (stock.expand [("rows", stocked.map fun fields => .object (asTexts fields))]) ∧
    (stock.expand [("rows", stocked.map .object)]).toOption.map (fun out =>
      out.elements.map fun e => (e.id, e.style.map fun entry => entry.2.display)) =
        some [("s-0", ["0", "red", "1", "4"]), ("s-0-2-5", []),
          ("s-2-5", ["2.5", "blue", "2", "5"])] := by
  have hread : ∀ record ∈ stocked.map Value.object, ∀ n ∈ record.heldNumbers, n.isFinite →
      ReadsBack n := by
    decide +kernel
  have hretyped : List.Forall₂ RecordRetyped (stocked.map .object)
      (stocked.map fun fields => .object (asTexts fields)) := by
    rw [List.forall₂_map_left_iff, List.forall₂_map_right_iff, List.forall₂_same]
    exact fun fields _ => recordRetyped_asTexts fields
  refine ⟨rfl, hread, ?_, by decide +kernel⟩
  exact expand_retyped stock [("rows", stocked.map .object)] _ _ rfl rfl hretyped hread

end Template

end Cartouche
