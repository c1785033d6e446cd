import Cartouche.Proofs.Outcome
import Cartouche.Template.Expansion

/-! The parts of an expansion: what one blueprint gives, what one record gives, and what becomes of
the events of all records. -/
namespace Cartouche
open Decimal Text

/-- The note of a word that names no shape. -/
def shapeNote (word : String) : String :=
  "unknown shape `" ++ word ++ "`, using rectangle"

/-- The note of an edge that lacks an end. -/
def endNote : String :=
  "edge endpoint expanded to empty text; skipped"

/-- The event of an element's last part: its draft, or the failure that stands in its way. -/
def Event.ofDraft : Except Failure Draft → Event
  | .ok d => .draft d
  | .error f => .failure f

namespace Template
variable {t : Template} {record : Value} {event : Event} {f : Failure}

/-- Reading a shape leaves no event, or the note of a word that names none. -/
theorem readShape_notes (token : Option String) :
    (readShape token).2 = [] ∨
      ∃ word, (readShape token).2 = [.note (some "shape") (shapeNote word)] := by
  cases token with
  | none => exact Or.inl rfl
  | some word =>
    cases hs : NodeShape.ofToken? word with
    | some shape => simp [readShape, hs]
    | none =>
      by_cases hb : (trimmed word).isEmpty
      · simp [readShape, hs, hb]
      · right
        refine ⟨word, ?_⟩
        simp only [readShape, hs, hb]
        rfl

/-- What is looked up for a node after its texts. -/
def nodeDraft (t : Template) (record : Value) (b : NodeBlueprint) (label : String)
    (subtitle token : Option String) : Except Failure Draft := do
  let style ← t.style record b.style
  let requested ← t.requestedId record b
  return { requested, body := .node label subtitle (readShape token).1, style }

theorem nodeEvents_of_error {b : NodeBlueprint} (h : t.nodeTexts record b = .error f) :
    t.nodeEvents record b = [.failure f] := by
  simp only [nodeEvents, h]

theorem nodeEvents_of_ok {b : NodeBlueprint} {label : String} {subtitle token : Option String}
    (h : t.nodeTexts record b = .ok (label, subtitle, token)) :
    t.nodeEvents record b =
      (readShape token).2 ++ [Event.ofDraft (t.nodeDraft record b label subtitle token)] := by
  unfold nodeEvents nodeDraft
  rw [h]
  dsimp only
  split
  · next hd => rw [hd, Event.ofDraft]
  · next hd => rw [hd, Event.ofDraft]

theorem edgeEvents_of_error {b : EdgeBlueprint} (h : t.edgeDraft record b = .error f) :
    t.edgeEvents record b = [.failure f] := by
  simp only [edgeEvents, h]

theorem edgeEvents_of_none {b : EdgeBlueprint} (h : t.edgeDraft record b = .ok none) :
    t.edgeEvents record b = [.note none endNote] := by
  rw [edgeEvents, h]
  rfl

theorem edgeEvents_of_some {b : EdgeBlueprint} {d : Draft}
    (h : t.edgeDraft record b = .ok (some d)) : t.edgeEvents record b = [.draft d] := by
  simp only [edgeEvents, h]

/-- A record that the filter cannot judge gives one failure, and one that it drops gives nothing;
the events of any other are those of the blueprints. -/
theorem mem_events : event ∈ t.events record ↔
    (∃ f, t.keeps record = .error f ∧ event = .failure f) ∨
    t.keeps record = .ok true ∧ ((∃ b ∈ t.nodes, event ∈ t.nodeEvents record b) ∨
      ∃ b ∈ t.edges, event ∈ t.edgeEvents record b) := by
  unfold events
  cases hk : t.keeps record with
  | error f => simp
  | ok kept => cases kept <;> simp

theorem mem_allEvents {records : List Value} {i : Nat} :
    (i, event) ∈ t.allEvents records ↔
      ∃ record, records[i]? = some record ∧ event ∈ t.events record := by
  simp only [allEvents, List.mem_flatMap, List.mem_map, Prod.mk.injEq, Prod.exists,
    List.mem_zipIdx_iff_getElem?]
  constructor
  · rintro ⟨record, j, hj, e, he, rfl, rfl⟩
    exact ⟨record, hj, he⟩
  · rintro ⟨record, hr, he⟩
    exact ⟨record, i, hr, event, he, rfl, rfl⟩

/-- The place of a record matters only where it is asked for. -/
theorem filterMap_allEvents {β : Type} (t : Template) (records : List Value)
    (g : Event → Option β) : ((t.allEvents records).filterMap fun (_, event) => g event) =
      records.flatMap fun record => (t.events record).filterMap g := by
  have hfst := List.flatMap_map Prod.fst (fun record => (t.events record).filterMap g)
    records.zipIdx
  rw [List.zipIdx_map_fst] at hfst
  rw [hfst, allEvents, List.filterMap_flatMap]
  simp only [List.filterMap_map, Function.comp_def]

theorem note_of_mem_nodeEvents {b : NodeBlueprint} {property : Option String} {message : String}
    (h : .note property message ∈ t.nodeEvents record b) :
    property = some "shape" ∧ ∃ word, message = shapeNote word := by
  cases hx : t.nodeTexts record b with
  | error f => simp [nodeEvents_of_error hx] at h
  | ok texts =>
    obtain ⟨label, subtitle, token⟩ := texts
    rw [nodeEvents_of_ok hx, List.mem_append] at h
    rcases h with h | h
    · rcases readShape_notes token with hn | ⟨word, hn⟩
      · simp [hn] at h
      · rw [hn] at h
        cases List.mem_singleton.mp h
        exact ⟨rfl, word, rfl⟩
    · cases hd : t.nodeDraft record b label subtitle token <;> simp [hd, Event.ofDraft] at h

theorem note_of_mem_edgeEvents {b : EdgeBlueprint} {property : Option String} {message : String}
    (h : .note property message ∈ t.edgeEvents record b) :
    property = none ∧ message = endNote := by
  cases hx : t.edgeDraft record b with
  | error f => simp [edgeEvents_of_error hx] at h
  | ok draft =>
    cases draft with
    | none =>
      rw [edgeEvents_of_none hx] at h
      cases List.mem_singleton.mp h
      exact ⟨rfl, rfl⟩
    | some d => simp [edgeEvents_of_some hx] at h

/-- There are two kinds of notes. -/
theorem note_of_mem_events {property : Option String} {message : String}
    (h : .note property message ∈ t.events record) :
    (property = some "shape" ∧ ∃ word, message = shapeNote word) ∨
      property = none ∧ message = endNote := by
  rcases mem_events.mp h with ⟨f, _, hf⟩ | ⟨_, ⟨b, _, hb⟩ | ⟨b, _, hb⟩⟩
  · cases hf
  · exact Or.inl (note_of_mem_nodeEvents hb)
  · exact Or.inr (note_of_mem_edgeEvents hb)

variable {sources : Table (List Value)} {out : Expansion} {e : TemplateError}

theorem expand_of_validate_error (h : t.validate = .error e) : t.expand sources = .error e := by
  rw [expand, h, error_bind]

theorem expand_of_missing (hv : t.validate = .ok ()) (hs : sources.get? t.source = none) :
    t.expand sources = .error (.missingSource t.id t.source) := by
  rw [expand, hv, ok_bind, hs]
  rfl

theorem expand_of_failure {records : List Value} (hv : t.validate = .ok ())
    (hs : sources.get? t.source = some records)
    (hf : t.failure? (t.allEvents records) = some e) : t.expand sources = .error e := by
  rw [expand, hv, ok_bind, hs]
  dsimp only
  rw [hf]
  rfl

theorem expand_of_no_failure {records : List Value} (hv : t.validate = .ok ())
    (hs : sources.get? t.source = some records)
    (hf : t.failure? (t.allEvents records) = none) :
    t.expand sources = .ok (t.expansion (t.allEvents records)) := by
  rw [expand, hv, ok_bind, hs]
  dsimp only
  rw [hf]
  rfl

theorem expand_eq_ok_iff : t.expand sources = .ok out ↔
    t.validate = .ok () ∧ ∃ records, sources.get? t.source = some records ∧
      t.failure? (t.allEvents records) = none ∧ t.expansion (t.allEvents records) = out := by
  cases hv : t.validate with
  | error e => simp [expand_of_validate_error hv]
  | ok u =>
    cases hs : sources.get? t.source with
    | none => simp [expand_of_missing hv hs]
    | some records =>
      cases hf : t.failure? (t.allEvents records) with
      | some e => simp [expand_of_failure hv hs hf, hf]
      | none => simp [expand_of_no_failure hv hs hf, hf]

/-- A template fails in its check, in its source, or at the first failure where these abort. -/
theorem expand_eq_error_iff : t.expand sources = .error e ↔
    t.validate = .error e ∨
    t.validate = .ok () ∧ (sources.get? t.source = none ∧ .missingSource t.id t.source = e ∨
      ∃ records, sources.get? t.source = some records ∧
        t.failure? (t.allEvents records) = some e) := by
  cases hv : t.validate with
  | error e => simp [expand_of_validate_error hv]
  | ok u =>
    cases hs : sources.get? t.source with
    | none => simp [expand_of_missing hv hs]
    | some records =>
      cases hf : t.failure? (t.allEvents records) with
      | some e => simp [expand_of_failure hv hs hf, hf]
      | none => simp [expand_of_no_failure hv hs hf, hf]

theorem failure?_of_skip (h : t.onError = .skip) (events : List (Nat × Event)) :
    t.failure? events = none := by
  rw [failure?, h]

theorem failure?_eq_none_of_abort (h : t.onError = .abort) {events : List (Nat × Event)} :
    t.failure? events = none ↔ ∀ i f, (i, Event.failure f) ∉ events := by
  rw [failure?, h, List.findSome?_eq_none_iff]
  constructor
  · intro hnone i f hm
    cases hnone (i, .failure f) hm
  · rintro hnone ⟨i, event⟩ hm
    cases event with
    | failure f => exact absurd hm (hnone i f)
    | _ => rfl

/-- Where failures abort, the first one is reported, and nothing before it failed. -/
theorem failure?_eq_some_iff {events : List (Nat × Event)} : t.failure? events = some e ↔
    t.onError = .abort ∧ ∃ before i f after, events = before ++ (i, .failure f) :: after ∧
      (∀ j g, (j, Event.failure g) ∉ before) ∧ .record t.id i f.property f.cause = e := by
  cases h : t.onError with
  | skip => simp [failure?_of_skip h]
  | abort =>
    rw [failure?, h, List.findSome?_eq_some_iff]
    constructor
    · rintro ⟨before, ⟨i, event⟩, after, rfl, he, hnone⟩
      cases event with
      | failure f =>
        refine ⟨rfl, before, i, f, after, rfl, ?_, Option.some.inj he⟩
        intro j g hm
        cases hnone _ hm
      | _ => cases he
    · rintro ⟨_, before, i, f, after, rfl, hnone, rfl⟩
      refine ⟨before, (i, .failure f), after, rfl, rfl, ?_⟩
      rintro ⟨j, event⟩ hm
      cases event with
      | failure g => exact absurd hm (hnone j g)
      | _ => rfl

theorem mem_of_failure?_eq_some {events : List (Nat × Event)} (h : t.failure? events = some e) :
    t.onError = .abort ∧ ∃ i f, (i, Event.failure f) ∈ events ∧
      .record t.id i f.property f.cause = e := by
  obtain ⟨hp, before, i, f, after, rfl, _, he⟩ := failure?_eq_some_iff.mp h
  exact ⟨hp, i, f, List.mem_append_right _ List.mem_cons_self, he⟩

end Template

end Cartouche
