import Cartouche.Proofs.Ids
import Cartouche.Proofs.Validation
import Mathlib.Data.List.Forall2

/-!
Two runs of a template over records that are read alike. Every reader of a value is listed once:
texts, filters, mappings, styles, and the ids that labels give. Where no lookup in one record is
told apart by its readers from the same lookup in the other, the runs give the same elements and
diagnostics, up to a relation between style values.
-/
namespace Cartouche
open Decimal Text

variable {S : StyleValue → StyleValue → Prop} {v v' : Option Value}

/-- Two values that no reader of values tells apart, unless it asks for their texts as they are;
as styles they are related. -/
structure Alike (S : StyleValue → StyleValue → Prop) (v v' : Option Value) : Prop where
  inserted : insertedText v = insertedText v'
  truthy : isTruthy v = isTruthy v'
  scaled : ∀ m : ScaleMapping Float, m.resolve v = m.resolve v'
  graded : ∀ m : ThresholdMapping, m.resolve v = m.resolve v'
  style : Option.Rel S (v.bind StyleValue.ofValue?) (v'.bind StyleValue.ofValue?)

/-- Two values with the same text, or with none at all. -/
def SameText (v v' : Option Value) : Prop :=
  v.map Value.display = v'.map Value.display

theorem Option.Rel.refl_of {α : Type} {R : α → α → Prop} (h : ∀ a, R a a) (x : Option α) :
    Option.Rel R x x := by
  cases x with
  | none => exact .none
  | some a => exact .some (h a)

theorem Alike.refl (hS : ∀ a, S a a) (v : Option Value) : Alike S v v where
  inserted := rfl
  truthy := rfl
  scaled := fun _ => rfl
  graded := fun _ => rfl
  style := Option.Rel.refl_of hS _

/-- The same properties, with related values. -/
abbrev StylesAlike (S : StyleValue → StyleValue → Prop) :
    Table StyleValue → Table StyleValue → Prop :=
  List.Forall₂ fun entry entry' => entry.1 = entry'.1 ∧ S entry.2 entry'.2

structure Draft.Alike (S : StyleValue → StyleValue → Prop) (d d' : Draft) : Prop where
  requested : d.requested = d'.requested
  body : d.body = d'.body
  style : StylesAlike S d.style d'.style

/-- Events that differ in style values at most. -/
inductive Event.Alike (S : StyleValue → StyleValue → Prop) : Event → Event → Prop
  | draft {d d' : Draft} (h : d.Alike S d') : Event.Alike S (.draft d) (.draft d')
  | note (property : Option String) (message : String) :
      Event.Alike S (.note property message) (.note property message)
  | failure (f : Failure) : Event.Alike S (.failure f) (.failure f)

/-- Elements that differ in style values at most. -/
structure Element.Alike (S : StyleValue → StyleValue → Prop) (e e' : Element) : Prop where
  id : e.id = e'.id
  body : e.body = e'.body
  style : StylesAlike S e.style e'.style
  template : e.template = e'.template

structure Expansion.Alike (S : StyleValue → StyleValue → Prop) (out out' : Expansion) : Prop where
  elements : List.Forall₂ (Element.Alike S) out.elements out'.elements
  diagnostics : out.diagnostics = out'.diagnostics

theorem Event.alike_ofDraft {x y : Except Failure Draft} (h : Parallel (Draft.Alike S) x y) :
    (Event.ofDraft x).Alike S (Event.ofDraft y) := by
  cases h with
  | error f => exact .failure f
  | ok h => exact .draft h

theorem stylesAlike_refl (hS : ∀ a, S a a) (style : Table StyleValue) :
    StylesAlike S style style :=
  List.forall₂_same.mpr fun entry _ => ⟨rfl, hS entry.2⟩

theorem Event.Alike.refl (hS : ∀ a, S a a) (event : Event) : event.Alike S event := by
  cases event with
  | draft d => exact .draft ⟨rfl, rfl, stylesAlike_refl hS _⟩
  | note property message => exact .note property message
  | failure f => exact .failure f

namespace Template
variable {t : Template} {record record' : Value}

/-- The paths whose text counts even where it is that of null: the fields of category mappings, and
the first path of a label that gives the node its id. -/
def Shows (t : Template) (path : String) : Prop :=
  (∃ m, StyleMapping.category m ∈ t.mappings ∧ m.field = path) ∨
    ∃ b ∈ t.nodes, b.id = none ∧ (tokenPaths b.label).head? = some path

/-- No lookup of the template tells two records apart. -/
structure ReadsAlike (S : StyleValue → StyleValue → Prop) (t : Template) (record record' : Value) :
    Prop where
  lookup : ∀ path, Parallel (Cartouche.Alike S) (evaluatePath path record t.lookup)
    (evaluatePath path record' t.lookup)
  shown : ∀ path, t.Shows path → Parallel SameText (evaluatePath path record t.lookup)
    (evaluatePath path record' t.lookup)

/-- An id that comes from a label reads the value through its text alone. -/
theorem labelId?_eq (t : Template) (record : Value) (label : String) :
    t.labelId? record label =
      ((tokenPaths label).head?.bind fun path =>
        ((evaluatePath path record t.lookup).map fun v => v.map Value.display).toOption.join).bind
          fun shown => if (slug shown).isEmpty then none else some (t.id ++ "-" ++ slug shown) := by
  unfold labelId?
  cases hpath : (tokenPaths label).head? with
  | none => simp
  | some path =>
    cases hv : evaluatePath path record t.lookup with
    | error e => simp [hv, Except.map, Except.toOption]
    | ok v => cases v <;> simp [hv, Except.map, Except.toOption]

namespace ReadsAlike

/-- Every lookup gives both records the same answer, or two answers that are read alike. -/
theorem of_lookups (hS : ∀ a, S a a)
    (h : ∀ path, evaluatePath path record t.lookup = evaluatePath path record' t.lookup ∨
      ∃ v v', evaluatePath path record t.lookup = .ok v ∧
        evaluatePath path record' t.lookup = .ok v' ∧ Cartouche.Alike S v v' ∧
        (t.Shows path → SameText v v')) :
    t.ReadsAlike S record record' where
  lookup := by
    intro path
    rcases h path with hsame | ⟨v, v', hv, hv', halike, _⟩
    · rw [hsame]
      exact .refl (.refl hS) _
    · rw [hv, hv']
      exact .ok halike
  shown := by
    intro path hshows
    rcases h path with hsame | ⟨v, v', hv, hv', _, hshown⟩
    · rw [hsame]
      exact .refl (R := SameText) (fun _ => rfl) _
    · rw [hv, hv']
      exact .ok (hshown hshows)

theorem tryExpandText (h : t.ReadsAlike S record record') (text : String) :
    tryExpandText record t.lookup text = tryExpandText record' t.lookup text := by
  have hpart : Part.text record t.lookup = Part.text record' t.lookup := by
    funext part
    cases part with
    | char c => rfl
    | token path => exact (h.lookup path).map_eq fun _ _ ha => ha.inserted
  rw [Cartouche.tryExpandText, Cartouche.tryExpandText, hpart]

theorem text (h : t.ReadsAlike S record record') (property text : String) :
    t.text record property text = t.text record' property text :=
  congrArg (Failure.at property) (h.tryExpandText text)

theorem optionalText (h : t.ReadsAlike S record record') (property : String)
    (text : Option String) :
    t.optionalText record property text = t.optionalText record' property text := by
  cases text with
  | none => rfl
  | some text => exact congrArg (Except.map some) (h.text property text)

/-- The filter keeps both records or neither. -/
theorem keeps (h : t.ReadsAlike S record record') : t.keeps record = t.keeps record' := by
  unfold Template.keeps
  cases t.filter with
  | none => rfl
  | some filter =>
    have hvalue := (h.lookup filter.path).mapError fun cause => (⟨"filter", cause⟩ : Failure)
    exact hvalue.map_eq fun v v' ha => by rw [ha.truthy]

theorem requestedId (h : t.ReadsAlike S record record') {b : NodeBlueprint} (hb : b ∈ t.nodes) :
    t.requestedId record b = t.requestedId record' b := by
  unfold Template.requestedId
  cases hid : b.id with
  | some text => exact congrArg (Except.map some) (h.text "id" text)
  | none =>
    dsimp only
    rw [labelId?_eq, labelId?_eq]
    cases hpath : (tokenPaths b.label).head? with
    | none => rfl
    | some path =>
      have hshown := (h.shown path (Or.inr ⟨b, hb, hid, hpath⟩)).map_eq fun _ _ hs => hs
      rw [Option.bind_some, Option.bind_some, hshown]

theorem tryExpandValue (hS : ∀ a, S a a) (h : t.ReadsAlike S record record') (text : String) :
    Parallel (Cartouche.Alike S) (tryExpandValue record t.lookup text)
      (tryExpandValue record' t.lookup text) := by
  unfold Cartouche.tryExpandValue
  cases wholeToken? text with
  | some path => exact h.lookup path
  | none =>
    dsimp only
    rw [h.tryExpandText text]
    exact .refl (.refl hS) _

/-- Bindings give related values; of the mappings only categories ask for the text of null. -/
theorem bindingValue (hS : ∀ a, S a a) (h : t.ReadsAlike S record record')
    {binding : StyleBinding}
    (hb : ∀ m, binding = .mapped (.category m) → StyleMapping.category m ∈ t.mappings)
    (property : String) :
    Parallel (Option.Rel S) (t.bindingValue record property binding)
      (t.bindingValue record' property binding) := by
  cases binding with
  | literal text =>
    have hvalue := (h.tryExpandValue hS text).mapError fun cause => (⟨property, cause⟩ : Failure)
    exact hvalue.map fun _ _ ha => ha.style
  | constant value => exact .ok (.some (hS value))
  | mapped m =>
    have hresolve : Parallel (fun v v' => m.resolve v = m.resolve v')
        (evaluatePath m.field record t.lookup) (evaluatePath m.field record' t.lookup) := by
      cases m with
      | category m =>
        apply (h.shown m.field (Or.inl ⟨m, hb m rfl, rfl⟩)).imp
        intro v v' hs
        have hs : v.map Value.display = v'.map Value.display := hs
        simp only [StyleMapping.resolve, CategoryMapping.resolve, hs]
      | scale m => exact (h.lookup m.field).imp fun _ _ ha => congrArg some (ha.scaled m)
      | threshold m => exact (h.lookup m.field).imp fun _ _ ha => congrArg some (ha.graded m)
    apply (hresolve.mapError fun cause => (⟨property, cause⟩ : Failure)).map
    intro v v' he
    rw [he]
    exact Option.Rel.refl_of hS _

/-- The same properties are set, to related values. -/
theorem style (hS : ∀ a, S a a) (h : t.ReadsAlike S record record') {style : Table StyleBinding}
    (hs : ∀ entry ∈ style, ∀ m, entry.2 = .mapped (.category m) →
      StyleMapping.category m ∈ t.mappings) :
    Parallel (StylesAlike S) (t.style record style) (t.style record' style) := by
  induction style with
  | nil => exact .ok .nil
  | cons entry rest ih =>
    obtain ⟨property, binding⟩ := entry
    rw [Template.style, Template.style]
    apply (h.bindingValue hS (hs _ List.mem_cons_self) property).bind
    intro value value' hvalue
    apply (ih fun e he => hs e (List.mem_cons_of_mem _ he)).bind
    intro others others' hothers
    cases hvalue with
    | none => exact .ok hothers
    | some hvalue => exact .ok (.cons ⟨rfl, hvalue⟩ hothers)

theorem nodeTexts (h : t.ReadsAlike S record record') (b : NodeBlueprint) :
    t.nodeTexts record b = t.nodeTexts record' b := by
  simp only [Template.nodeTexts, h.text, h.optionalText]

theorem nodeDraft (hS : ∀ a, S a a) (h : t.ReadsAlike S record record') {b : NodeBlueprint}
    (hb : b ∈ t.nodes) (label : String) (subtitle word : Option String) :
    Parallel (Draft.Alike S) (t.nodeDraft record b label subtitle word)
      (t.nodeDraft record' b label subtitle word) := by
  have hmapped : ∀ entry ∈ b.style, ∀ m, entry.2 = .mapped (.category m) →
      StyleMapping.category m ∈ t.mappings := by
    rintro ⟨property, _⟩ he m rfl
    exact mem_mappings (List.mem_append_left _ (List.mem_map_of_mem hb)) he
  have hstyle := h.style hS hmapped
  apply hstyle.bind
  intro style style' hstyle
  rw [h.requestedId hb]
  apply (Parallel.refl (R := Eq) (fun _ => rfl) (t.requestedId record' b)).bind
  rintro requested _ rfl
  exact .ok ⟨rfl, rfl, hstyle⟩

theorem nodeEvents (hS : ∀ a, S a a) (h : t.ReadsAlike S record record') {b : NodeBlueprint}
    (hb : b ∈ t.nodes) :
    List.Forall₂ (Event.Alike S) (t.nodeEvents record b) (t.nodeEvents record' b) := by
  have htexts := h.nodeTexts b
  cases hx : t.nodeTexts record b with
  | error f =>
    rw [nodeEvents_of_error hx, nodeEvents_of_error (htexts ▸ hx)]
    exact .cons (.failure f) .nil
  | ok texts =>
    obtain ⟨label, subtitle, word⟩ := texts
    rw [nodeEvents_of_ok hx, nodeEvents_of_ok (htexts ▸ hx)]
    apply List.rel_append
    · exact List.forall₂_same.mpr fun event _ => .refl hS event
    · refine .cons ?_ .nil
      exact Event.alike_ofDraft (h.nodeDraft hS hb label subtitle word)

theorem edgeDraft (hS : ∀ a, S a a) (h : t.ReadsAlike S record record') {b : EdgeBlueprint}
    (hb : b ∈ t.edges) :
    Parallel (Option.Rel (Draft.Alike S)) (t.edgeDraft record b) (t.edgeDraft record' b) := by
  have hsame : ∀ {α : Type} (x : Except Failure α), Parallel Eq x x :=
    fun x => .refl (fun _ => rfl) x
  have hmapped : ∀ entry ∈ b.style, ∀ m, entry.2 = .mapped (.category m) →
      StyleMapping.category m ∈ t.mappings := by
    rintro ⟨property, _⟩ he m rfl
    exact mem_mappings (List.mem_append_right _ (List.mem_map_of_mem hb)) he
  have hstyle := h.style hS hmapped
  unfold Template.edgeDraft
  simp only [h.text, h.optionalText]
  apply (hsame _).bind
  rintro source _ rfl
  apply (hsame _).bind
  rintro target _ rfl
  split
  · exact .ok .none
  · apply (hsame _).bind
    rintro label _ rfl
    apply (hsame _).bind
    rintro kind _ rfl
    apply hstyle.bind
    intro style style' hstyle
    cases b.id with
    | none => exact .ok (.some ⟨rfl, rfl, hstyle⟩)
    | some text =>
      apply (hsame _).bind
      rintro requested _ rfl
      exact .ok (.some ⟨rfl, rfl, hstyle⟩)

theorem edgeEvents (hS : ∀ a, S a a) (h : t.ReadsAlike S record record') {b : EdgeBlueprint}
    (hb : b ∈ t.edges) :
    List.Forall₂ (Event.Alike S) (t.edgeEvents record b) (t.edgeEvents record' b) := by
  have hdraft := h.edgeDraft hS hb
  unfold Template.edgeEvents
  generalize t.edgeDraft record b = x, t.edgeDraft record' b = y at hdraft
  cases hdraft with
  | error f => exact .cons (.failure f) .nil
  | ok hd =>
    cases hd with
    | none => exact .cons (.note _ _) .nil
    | some hd => exact .cons (.draft hd) .nil

/-- Records that are read alike have the same events, style values apart. -/
theorem events (hS : ∀ a, S a a) (h : t.ReadsAlike S record record') :
    List.Forall₂ (Event.Alike S) (t.events record) (t.events record') := by
  unfold Template.events
  rw [h.keeps]
  cases t.keeps record' with
  | error f => exact .cons (.failure f) .nil
  | ok kept =>
    cases kept with
    | false => exact .nil
    | true =>
      have hnodes : List.Forall₂ (fun b b' => b = b' ∧ b ∈ t.nodes) t.nodes t.nodes :=
        List.forall₂_same.mpr fun b hb => ⟨rfl, hb⟩
      have hedges : List.Forall₂ (fun b b' => b = b' ∧ b ∈ t.edges) t.edges t.edges :=
        List.forall₂_same.mpr fun b hb => ⟨rfl, hb⟩
      apply List.rel_append
      · apply List.rel_flatMap hnodes
        rintro b _ ⟨rfl, hb⟩
        exact h.nodeEvents hS hb
      · apply List.rel_flatMap hedges
        rintro b _ ⟨rfl, hb⟩
        exact h.edgeEvents hS hb

end ReadsAlike

/-- The same event of the same record, style values apart. -/
def EventAtAlike (S : StyleValue → StyleValue → Prop) (p p' : Nat × Event) : Prop :=
  p.1 = p'.1 ∧ p.2.Alike S p'.2

theorem forall₂_zipIdx {α : Type} {R : α → α → Prop} {xs ys : List α} (h : List.Forall₂ R xs ys)
    (n : Nat) : List.Forall₂ (fun p q => R p.1 q.1 ∧ p.2 = q.2) (xs.zipIdx n) (ys.zipIdx n) := by
  induction h generalizing n with
  | nil => exact .nil
  | cons h _ ih => exact .cons ⟨h, rfl⟩ (ih (n + 1))

variable {records records' : List Value}

theorem allEvents_alike (hS : ∀ a, S a a)
    (h : List.Forall₂ (t.ReadsAlike S) records records') :
    List.Forall₂ (EventAtAlike S) (t.allEvents records) (t.allEvents records') := by
  apply List.rel_flatMap (forall₂_zipIdx h 0)
  rintro ⟨record, i⟩ ⟨record', _⟩ ⟨hr, rfl⟩
  apply List.rel_map ?_ (hr.events hS)
  intro event event' he
  exact ⟨rfl, he⟩

variable {events events' : List (Nat × Event)}

theorem failure?_alike (h : List.Forall₂ (EventAtAlike S) events events') :
    t.failure? events = t.failure? events' := by
  unfold failure?
  cases t.onError with
  | skip => rfl
  | abort =>
    induction h with
    | nil => rfl
    | @cons p p' _ _ hp _ ih =>
      obtain ⟨i, event⟩ := p
      obtain ⟨j, event'⟩ := p'
      obtain ⟨rfl, he⟩ := hp
      cases he with
      | failure f => rfl
      | draft hd => exact ih
      | note property message => exact ih

theorem diagnostics_alike (h : List.Forall₂ (EventAtAlike S) events events') :
    (t.expansion events).diagnostics = (t.expansion events').diagnostics := by
  have hmap : List.Forall₂ Eq (t.expansion events).diagnostics
      (t.expansion events').diagnostics := by
    apply List.rel_filterMap ?_ h
    rintro ⟨i, event⟩ ⟨_, event'⟩ ⟨rfl, he⟩
    cases he with
    | draft hd => exact .none
    | note property message => exact .some rfl
    | failure f => exact .some rfl
  rwa [List.forall₂_eq_eq_eq] at hmap

end Template

/-- Ids follow the requests, which are the same. -/
theorem assignIds_alike (template : String) (ids : IdTable) {ds ds' : List Draft}
    (h : List.Forall₂ (Draft.Alike S) ds ds') :
    List.Forall₂ (Element.Alike S) (assignIds template ids ds) (assignIds template ids ds') := by
  induction h generalizing ids with
  | nil => exact .nil
  | cons hd _ ih =>
    rw [assignIds_cons, assignIds_cons, hd.requested]
    exact .cons ⟨rfl, hd.body, hd.style, rfl⟩ (ih _)

theorem nodeIds_alike {es es' : List Element} (h : List.Forall₂ (Element.Alike S) es es') :
    nodeIds es = nodeIds es' := by
  induction h with
  | nil => rfl
  | @cons e e' es es' he _ ih =>
    have hnode : e.isNode = e'.isNode := congrArg Body.isNode he.body
    unfold nodeIds at ih ⊢
    rw [List.filter_cons, List.filter_cons, hnode]
    cases e'.isNode with
    | false => exact ih
    | true => exact congrArg₂ List.cons he.id ih

theorem linkEdges_alike (template : String) {es es' : List Element}
    (h : List.Forall₂ (Element.Alike S) es es') :
    List.Forall₂ (Element.Alike S) (linkEdges template es) (linkEdges template es') := by
  unfold linkEdges
  rw [nodeIds_alike h]
  apply List.rel_map ?_ h
  intro e e' he
  exact ⟨he.id, congrArg (Body.link template (nodeIds es')) he.body, he.style, he.template⟩

namespace Template
variable {t : Template} {records records' : List Value}

/-- A template that reads the records of two sources alike expands them alike. -/
theorem expand_alike (hS : ∀ a, S a a) {sources : Table (List Value)}
    (hs : sources.get? t.source = some records)
    (h : List.Forall₂ (t.ReadsAlike S) records records') :
    Parallel (Expansion.Alike S) (t.expand sources)
      (t.expand (sources.put t.source records')) := by
  have hs' : (sources.put t.source records').get? t.source = some records' := by
    simp [Table.get?_put]
  have hevents := allEvents_alike hS h
  cases hv : t.validate with
  | error e =>
    rw [expand_of_validate_error hv, expand_of_validate_error hv]
    exact .error e
  | ok u =>
    have hfailure := failure?_alike (t := t) hevents
    cases hf : t.failure? (t.allEvents records) with
    | some e =>
      rw [expand_of_failure hv hs hf, expand_of_failure hv hs' (hfailure ▸ hf)]
      exact .error e
    | none =>
      rw [expand_of_no_failure hv hs hf, expand_of_no_failure hv hs' (hfailure ▸ hf)]
      refine .ok ⟨?_, diagnostics_alike hevents⟩
      apply linkEdges_alike
      apply assignIds_alike
      apply List.rel_filterMap ?_ hevents
      rintro ⟨i, event⟩ ⟨_, event'⟩ ⟨rfl, he⟩
      cases he with
      | draft hd => exact .some hd
      | note property message => exact .none
      | failure f => exact .none

end Template

end Cartouche
