import Cartouche.Proofs.Alike

/-!
A field that is null and a field that is missing. A safe lookup without a default tells the two
apart only where its path ends at the field, and of what reads its answer only two things do: a
category mapping, for which null is a text, and a label that gives a node its id.
-/
namespace Cartouche
open Text

/-- The record without the given field, if that is null. -/
def Value.withoutNull (key : String) : Value → Value
  | .object fields =>
    if (Table.get? fields key).any Value.isNull then .object (fields.filter (·.1 ≠ key))
    else .object fields
  | v => v

theorem get?_filter_ne (fields : Table Value) (key other : String) :
    Table.get? (fields.filter (·.1 ≠ key)) other =
      if other = key then none else Table.get? fields other := by
  induction fields with
  | nil => simp [Table.get?_nil]
  | cons field rest ih =>
    obtain ⟨k, v⟩ := field
    by_cases hk : k = key
    · by_cases ho : other = key
      · simp_all
      · have hne : k ≠ other := fun he => ho (he.symm.trans hk)
        simp_all [Table.get?_cons]
    · by_cases ho : k = other
      · have hne : other ≠ key := fun he => hk (ho.trans he)
        simp_all [Table.get?_cons]
      · simp_all [Table.get?_cons]

/-- A child other than a null field of the given name stays as it is. -/
theorem child?_withoutNull (key first : String) (record : Value) :
    (record.withoutNull key).child? first = record.child? first ∨
      first = key ∧ record.child? first = some .null ∧
        (record.withoutNull key).child? first = none := by
  cases record with
  | object fields =>
    by_cases hnull : (Table.get? fields key).any Value.isNull
    · have hkept : (Value.object fields).withoutNull key = .object (fields.filter (·.1 ≠ key)) :=
        if_pos hnull
      have hget := get?_filter_ne fields key first
      rw [hkept]
      by_cases hf : first = key
      · right
        rw [if_pos hf] at hget
        refine ⟨hf, ?_, hget⟩
        cases hv : Table.get? fields key with
        | none => simp [hv] at hnull
        | some v =>
          rw [hv, Option.any_some] at hnull
          cases v with
          | null => exact (congrArg (Table.get? fields) hf).trans hv
          | _ => cases hnull
      · left
        rw [if_neg hf] at hget
        exact hget
    · left
      have hkept : (Value.object fields).withoutNull key = .object fields := if_neg hnull
      rw [hkept]
  | _ => exact Or.inl rfl

variable {l : Lookup}

/-- Only a path that is the field itself finds null in one record and nothing in the other. -/
theorem evaluatePath_withoutNull (hsafe : l.safe = true) (hdefault : l.default = none)
    (key path : String) (record : Value) :
    evaluatePath path record l = evaluatePath path (record.withoutNull key) l ∨
      pathSteps path = .ok [key] ∧ evaluatePath path record l = .ok (some .null) ∧
        evaluatePath path (record.withoutNull key) l = .ok none := by
  rcases evaluatePath_cases hsafe path with ⟨e, hfails⟩ | ⟨first, rest, hs, hanswers⟩
  · left
    rw [hfails, hfails]
  · rw [hanswers, hanswers]
    rcases child?_withoutNull key first record with hsame | ⟨rfl, hnull, hnone⟩
    · left
      rw [hsame]
    · rw [hnull, hnone]
      cases rest with
      | nil => exact Or.inr ⟨hs, rfl, congrArg Except.ok hdefault⟩
      | cons next rest =>
        left
        rw [l.reached_of_leaf path rfl]
        rfl

/-- Null and undefined are read alike, but for their texts. -/
theorem alike_null_none : Alike Eq (some .null) none where
  inserted := rfl
  truthy := rfl
  scaled := fun _ => rfl
  graded := fun _ => rfl
  style := .none

theorem Element.Alike.eq {e e' : Element} (h : e.Alike Eq e') : e = e' := by
  have hstyle : List.Forall₂ Eq e.style e'.style := h.style.imp fun _ _ he => Prod.ext he.1 he.2
  rw [List.forall₂_eq_eq_eq] at hstyle
  cases e
  cases e'
  simp only [Element.mk.injEq]
  exact ⟨h.id, h.body, hstyle, h.template⟩

theorem Expansion.Alike.eq {out out' : Expansion} (h : out.Alike Eq out') : out = out' := by
  have helements : List.Forall₂ Eq out.elements out'.elements :=
    h.elements.imp fun _ _ => Element.Alike.eq
  rw [List.forall₂_eq_eq_eq] at helements
  cases out
  cases out'
  simp only [Expansion.mk.injEq]
  exact ⟨helements, h.diagnostics⟩

namespace Template

/-- Fields that are null can be left out of all records where nothing reads the text of null. -/
theorem expand_without_nulls (t : Template) (key : String) (sources : Table (List Value))
    (records : List Value) (hs : sources.get? t.source = some records)
    (hsafe : t.lookup.safe = true) (hdefault : t.lookup.default = none)
    (hcategory : ∀ m, StyleMapping.category m ∈ t.mappings → pathSteps m.field ≠ .ok [key])
    (hlabel : ∀ b ∈ t.nodes, b.id = none → ∀ path ∈ (tokenPaths b.label).head?,
      pathSteps path ≠ .ok [key]) :
    t.expand (sources.put t.source (records.map (Value.withoutNull key))) = t.expand sources := by
  have hrefl : ∀ a : StyleValue, a = a := fun _ => rfl
  have hshows : ∀ path, t.Shows path → pathSteps path ≠ .ok [key] := by
    rintro path (⟨m, hm, rfl⟩ | ⟨b, hb, hid, hpath⟩)
    · exact hcategory m hm
    · exact hlabel b hb hid path hpath
  have hreads : ∀ record, t.ReadsAlike Eq record (record.withoutNull key) := by
    intro record
    apply ReadsAlike.of_lookups hrefl
    intro path
    rcases evaluatePath_withoutNull hsafe hdefault key path record with hsame | ⟨hkey, hnull, hnone⟩
    · exact Or.inl hsame
    · have hshown : t.Shows path → SameText (some .null) none :=
        fun h => absurd hkey (hshows path h)
      exact Or.inr ⟨_, _, hnull, hnone, alike_null_none, hshown⟩
  have hrecords : List.Forall₂ (t.ReadsAlike Eq) records (records.map (Value.withoutNull key)) := by
    rw [List.forall₂_map_right_iff, List.forall₂_same]
    exact fun record _ => hreads record
  exact ((expand_alike hrefl hs hrecords).eq fun _ _ h => h.eq).symm

/-- Everyone whose score counts as false, with a category for the name and a threshold for the
score. -/
def survey : Template where
  id := "s"
  source := "people"
  filter := some ⟨"score", true⟩
  nodes := [⟨none, "${name}", some "${score}", none, [
    ("stroke", .literal "${score}"),
    ("fill", .mapped (.category ⟨"fill", "name", [("Ann", .text "red")], .omitted⟩)),
    ("width", .mapped (.threshold ⟨"width", "score", [⟨1, .number 2⟩, ⟨0, .number 1⟩]⟩))]⟩]
  edges := [⟨none, "${score}", "${name}", none, none, []⟩]
  lookup := .lenient
  onError := .abort

def surveyed : List Value :=
  [.object [("score", .null), ("name", .text "Ann")],
    .object [("name", .text "Bo"), ("score", .number 0)]]

theorem survey_without_nulls :
    survey.lookup.safe = true ∧ survey.lookup.default = none ∧
    pathSteps "name" ≠ .ok ["score"] ∧
    survey.expand [("people", surveyed.map (Value.withoutNull "score"))] =
      survey.expand [("people", surveyed)] ∧
    surveyed.map (Value.withoutNull "score") =
      [.object [("name", .text "Ann")], .object [("name", .text "Bo"), ("score", .number 0)]] ∧
    (survey.expand [("people", surveyed)]).toOption.map (fun out => out.elements.map Element.id) =
      some ["s-ann", "s-bo", "s-0-bo"] := by
  have hname : pathSteps "name" ≠ .ok ["score"] := by decide
  refine ⟨rfl, rfl, hname, ?_, rfl, by decide +kernel⟩
  apply expand_without_nulls survey "score" [("people", surveyed)] surveyed rfl rfl rfl
  · intro m hm
    have hm : m.field = "name" := by
      have hmappings : survey.mappings = [
        .category ⟨"fill", "name", [("Ann", .text "red")], .omitted⟩,
        .threshold ⟨"width", "score", [⟨1, .number 2⟩, ⟨0, .number 1⟩]⟩] := rfl
      rw [hmappings] at hm
      simp at hm
      rw [hm]
    rw [hm]
    exact hname
  · intro b hb _ path hpath
    cases List.mem_singleton.mp hb
    cases hpath
    exact hname

end Template

end Cartouche
