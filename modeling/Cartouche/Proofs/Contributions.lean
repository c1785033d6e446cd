import Cartouche.Proofs.Linking

/-!
What one record adds to an expansion that leaves failures out. Each of its blueprints gives one
element or one diagnostic, and all of it but the ids is decided by the template and that record
alone, the texts that ends of edges are linked from included; the expansion is what the records add,
one after the other.
-/
namespace Cartouche
open Decimal Text

/-- A body without the ends of an edge, which linking can still change. -/
inductive Content where
  | node (label : String) (subtitle : Option String) (shape : NodeShape)
  | edge (label : Option String) (kind : EdgeKind)

def Body.content : Body → Content
  | .node label subtitle shape => .node label subtitle shape
  | .edge _ _ label kind => .edge label kind

/-- All of an element but its id and its ends. -/
structure Face where
  content : Content
  style : Table StyleValue
  template : String

def Element.face (e : Element) : Face :=
  ⟨e.body.content, e.style, e.template⟩

def Draft.face (template : String) (d : Draft) : Face :=
  ⟨d.body.content, d.style, template⟩

/-- What a diagnostic says of a record, wherever the record stands. -/
structure Remark where
  property : Option String
  message : String

def Remark.diagnostic (template : String) (record : Nat) (r : Remark) : Diagnostic :=
  ⟨template, record, r.property, r.message⟩

def Failure.remark (f : Failure) : Remark :=
  ⟨some f.property, f.cause.message⟩

def Event.remark? : Event → Option Remark
  | .draft _ => none
  | .note property message => some ⟨property, message⟩
  | .failure f => some f.remark

/-- What is added to an expansion; the ends of each element are those before they are linked. -/
structure Contribution where
  faces : List Face
  ends : List (List String)
  remarks : List Remark

namespace Contribution

def join (parts : List Contribution) : Contribution :=
  ⟨parts.flatMap faces, parts.flatMap ends, parts.flatMap remarks⟩

def ofEvents (template : String) (events : List Event) : Contribution :=
  ⟨events.filterMap fun event => event.draft?.map (Draft.face template),
    events.filterMap fun event => event.draft?.map (·.body.ends), events.filterMap Event.remark?⟩

theorem ofEvents_append (template : String) (xs ys : List Event) :
    ofEvents template (xs ++ ys) = join [ofEvents template xs, ofEvents template ys] := by
  simp [ofEvents, join]

theorem join_append (ps qs : List Contribution) : join (ps ++ qs) = join [join ps, join qs] := by
  simp [join]

theorem ofEvents_flatMap {α : Type} (template : String) (xs : List α) (f : α → List Event) :
    ofEvents template (xs.flatMap f) = join (xs.map fun x => ofEvents template (f x)) := by
  simp only [ofEvents, join, List.filterMap_flatMap, List.flatMap_map]

end Contribution

/-- The remark on a word that is not blank and names no shape. -/
def shapeRemarks : Option String → List Remark
  | none => []
  | some word =>
    if NodeShape.ofToken? word = none ∧ trimmed word ≠ "" then [⟨some "shape", shapeNote word⟩]
    else []

namespace Template

/-- The template with the opposite filter. -/
def negated (t : Template) : Template :=
  { t with filter := t.filter.map fun f => { f with negate := !f.negate } }

section Outcomes
variable (t : Template) (record : Value)

/-- Whether a record passes the filter. -/
def Retains : Prop :=
  ∀ filter ∈ t.filter, ∃ value, evaluatePath filter.path record t.lookup = .ok value ∧
    isTruthy value ≠ filter.negate

/-- What a node blueprint gives for a record: one node, or one report of the first lookup that
fails. Once the texts are there, a word that names no shape is remarked on in either case. -/
inductive NodeYields (b : NodeBlueprint) : Contribution → Prop where
  | node {label : String} {subtitle word requested : Option String} {style : Table StyleValue}
      (htexts : t.nodeTexts record b = .ok (label, subtitle, word))
      (hstyle : t.style record b.style = .ok style)
      (hid : t.requestedId record b = .ok requested) :
      NodeYields b ⟨[⟨.node label subtitle ((word.bind NodeShape.ofToken?).getD .rectangle),
        style, t.id⟩], [[]], shapeRemarks word⟩
  | badText {f : Failure} (htexts : t.nodeTexts record b = .error f) :
      NodeYields b ⟨[], [], [f.remark]⟩
  | badStyle {label : String} {subtitle word : Option String} {f : Failure}
      (htexts : t.nodeTexts record b = .ok (label, subtitle, word))
      (hstyle : t.style record b.style = .error f) :
      NodeYields b ⟨[], [], shapeRemarks word ++ [f.remark]⟩
  | badId {label : String} {subtitle word : Option String} {style : Table StyleValue} {f : Failure}
      (htexts : t.nodeTexts record b = .ok (label, subtitle, word))
      (hstyle : t.style record b.style = .ok style)
      (hid : t.requestedId record b = .error f) :
      NodeYields b ⟨[], [], shapeRemarks word ++ [f.remark]⟩

/-- What an edge blueprint gives for a record: one edge, or one diagnostic, which reports the first
lookup that fails or notes that an end is blank. -/
inductive EdgeYields (b : EdgeBlueprint) : Contribution → Prop where
  | edge {source target : String} {label kind : Option String} {style : Table StyleValue}
      (hsource : t.text record "from" b.source = .ok source)
      (htarget : t.text record "to" b.target = .ok target)
      (hends : trimmed source ≠ "" ∧ trimmed target ≠ "")
      (hlabel : t.optionalText record "label" b.label = .ok label)
      (hkind : t.optionalText record "kind" b.kind = .ok kind)
      (hstyle : t.style record b.style = .ok style)
      (hid : ∀ text ∈ b.id, ∃ requested, t.text record "id" text = .ok requested) :
      EdgeYields b ⟨[⟨.edge (label.filter (!·.isEmpty)) ((kind.bind EdgeKind.ofToken?).getD .solid),
        style, t.id⟩], [[source, target]], []⟩
  | blankEnd {source target : String}
      (hsource : t.text record "from" b.source = .ok source)
      (htarget : t.text record "to" b.target = .ok target)
      (hends : trimmed source = "" ∨ trimmed target = "") :
      EdgeYields b ⟨[], [], [⟨none, endNote⟩]⟩
  | failure {f : Failure} (hdraft : t.edgeDraft record b = .error f) :
      EdgeYields b ⟨[], [], [f.remark]⟩

/-- What a record gives: nothing if the filter drops it, one diagnostic if the filter cannot be
looked up, and otherwise what its blueprints give, nodes first, in declared order. -/
inductive Yields : Contribution → Prop where
  | dropped {filter : Filter} {value : Option Value} (hfilter : t.filter = some filter)
      (hvalue : evaluatePath filter.path record t.lookup = .ok value)
      (htruth : isTruthy value = filter.negate) : Yields ⟨[], [], []⟩
  | unjudged {filter : Filter} {cause : PathError} (hfilter : t.filter = some filter)
      (hvalue : evaluatePath filter.path record t.lookup = .error cause) :
      Yields ⟨[], [], [⟨some "filter", cause.message⟩]⟩
  | retained {nodes edges : List Contribution} (hpasses : t.Retains record)
      (hnodes : List.Forall₂ (t.NodeYields record) t.nodes nodes)
      (hedges : List.Forall₂ (t.EdgeYields record) t.edges edges) :
      Yields (.join (nodes ++ edges))

/-- What a record gives, which no other record has a part in. -/
def contribution : Contribution :=
  .ofEvents t.id (t.events record)

end Outcomes

variable {t : Template} {record : Value}

theorem readShape_fst (word : Option String) :
    (readShape word).1 = (word.bind NodeShape.ofToken?).getD .rectangle := by
  cases word with
  | none => rfl
  | some word =>
    cases hs : NodeShape.ofToken? word with
    | some shape => simp [readShape, hs]
    | none =>
      by_cases hb : (trimmed word).isEmpty <;> simp [readShape, hs, hb]

theorem remarks_readShape (word : Option String) :
    (readShape word).2.filterMap Event.remark? = shapeRemarks word := by
  cases word with
  | none => rfl
  | some word =>
    cases hs : NodeShape.ofToken? word with
    | some shape => simp [readShape, shapeRemarks, hs]
    | none =>
      by_cases hb : trimmed word = ""
      · simp [readShape, shapeRemarks, hs, hb]
      · simp [readShape, shapeRemarks, hs, hb, Event.remark?]
        rfl

/-- The word for a shape leaves remarks at most. -/
theorem ofEvents_readShape (template : String) (word : Option String) :
    Contribution.ofEvents template (readShape word).2 = ⟨[], [], shapeRemarks word⟩ := by
  rw [← remarks_readShape]
  rcases readShape_notes word with h | ⟨token, h⟩ <;> rw [h] <;> rfl

/-- The last part of an element behind its remarks. -/
theorem ofEvents_ofDraft (template : String) (word : Option String) (r : Except Failure Draft) :
    Contribution.ofEvents template ((readShape word).2 ++ [Event.ofDraft r]) =
      match r with
      | .ok d => ⟨[d.face template], [d.body.ends], shapeRemarks word⟩
      | .error f => ⟨[], [], shapeRemarks word ++ [f.remark]⟩ := by
  rw [Contribution.ofEvents_append, ofEvents_readShape]
  cases r <;> simp [Contribution.join, Contribution.ofEvents, Event.ofDraft, Event.draft?,
    Event.remark?]

theorem nodeYields_ofEvents (t : Template) (record : Value) (b : NodeBlueprint) :
    t.NodeYields record b (.ofEvents t.id (t.nodeEvents record b)) := by
  cases htexts : t.nodeTexts record b with
  | error f =>
    rw [nodeEvents_of_error htexts]
    exact .badText htexts
  | ok texts =>
    obtain ⟨label, subtitle, word⟩ := texts
    rw [nodeEvents_of_ok htexts, ofEvents_ofDraft, nodeDraft]
    cases hstyle : t.style record b.style with
    | error f => exact .badStyle htexts hstyle
    | ok style =>
      cases hid : t.requestedId record b with
      | error f => exact .badId htexts hstyle hid
      | ok requested =>
        have h := NodeYields.node htexts hstyle hid
        rw [← readShape_fst] at h
        exact h

theorem edgeYields_ofEvents (t : Template) (record : Value) (b : EdgeBlueprint) :
    t.EdgeYields record b (.ofEvents t.id (t.edgeEvents record b)) := by
  cases hdraft : t.edgeDraft record b with
  | error f =>
    rw [edgeEvents_of_error hdraft]
    exact .failure hdraft
  | ok draft =>
    obtain ⟨source, hsource, h⟩ := bind_eq_ok_iff.mp hdraft
    obtain ⟨target, htarget, h⟩ := bind_eq_ok_iff.mp h
    split at h
    · next hends =>
      cases h
      rw [edgeEvents_of_none hdraft]
      exact .blankEnd hsource htarget (by simpa using hends)
    · next hends =>
      obtain ⟨label, hlabel, h⟩ := bind_eq_ok_iff.mp h
      obtain ⟨kind, hkind, h⟩ := bind_eq_ok_iff.mp h
      obtain ⟨style, hstyle, h⟩ := bind_eq_ok_iff.mp h
      have hends : trimmed source ≠ "" ∧ trimmed target ≠ "" := by simpa using hends
      cases hid : b.id with
      | none =>
        rw [hid] at h
        cases h
        rw [edgeEvents_of_some hdraft]
        exact .edge hsource htarget hends hlabel hkind hstyle (by simp [hid])
      | some text =>
        rw [hid] at h
        obtain ⟨requested, hrequested, h⟩ := bind_eq_ok_iff.mp h
        cases h
        rw [edgeEvents_of_some hdraft]
        exact .edge hsource htarget hends hlabel hkind hstyle (by simp [hid, hrequested])

/-- All that the filter can make of a record. -/
theorem keeps_cases (t : Template) (record : Value) :
    (∃ filter value, t.filter = some filter ∧
      evaluatePath filter.path record t.lookup = .ok value ∧ isTruthy value = filter.negate ∧
      t.keeps record = .ok false) ∨
    (∃ filter cause, t.filter = some filter ∧
      evaluatePath filter.path record t.lookup = .error cause ∧
      t.keeps record = .error ⟨"filter", cause⟩) ∨
    (t.Retains record ∧ t.keeps record = .ok true) := by
  unfold keeps Retains
  cases hfilter : t.filter with
  | none => simp
  | some filter =>
    cases hvalue : evaluatePath filter.path record t.lookup with
    | error cause => simp [hvalue, Failure.at, Except.mapError, Except.map]
    | ok value =>
      by_cases htruth : isTruthy value = filter.negate <;>
        simp [hvalue, htruth, Failure.at, Except.mapError, Except.map]

theorem contribution_of_keeps (h : t.keeps record = .ok true) :
    t.contribution record = .join
      (t.nodes.map (fun b => .ofEvents t.id (t.nodeEvents record b)) ++
        t.edges.map fun b => .ofEvents t.id (t.edgeEvents record b)) := by
  rw [contribution, events, h]
  dsimp only
  rw [Contribution.ofEvents_append, Contribution.ofEvents_flatMap, Contribution.ofEvents_flatMap,
    Contribution.join_append]

/-- A record gives what its filter and its blueprints say. -/
theorem yields_contribution (t : Template) (record : Value) :
    t.Yields record (t.contribution record) := by
  rcases keeps_cases t record with ⟨filter, value, hfilter, hvalue, htruth, hkeeps⟩ |
    ⟨filter, cause, hfilter, hvalue, hkeeps⟩ | ⟨hpasses, hkeeps⟩
  · have h : t.contribution record = ⟨[], [], []⟩ := by rw [contribution, events, hkeeps]; rfl
    rw [h]
    exact .dropped hfilter hvalue htruth
  · have h : t.contribution record = ⟨[], [], [⟨some "filter", cause.message⟩]⟩ := by
      rw [contribution, events, hkeeps]
      rfl
    rw [h]
    exact .unjudged hfilter hvalue
  · rw [contribution_of_keeps hkeeps]
    refine .retained hpasses ?_ ?_
    · rw [List.forall₂_map_right_iff, List.forall₂_same]
      exact fun b _ => nodeYields_ofEvents t record b
    · rw [List.forall₂_map_right_iff, List.forall₂_same]
      exact fun b _ => edgeYields_ofEvents t record b

/-- The records that a filter retains and those that its opposite retains share none and leave out
none, as far as the value can be looked up. -/
theorem retains_negated_iff {filter : Filter} (hfilter : t.filter = some filter)
    {value : Option Value} (hvalue : evaluatePath filter.path record t.lookup = .ok value) :
    t.negated.Retains record ↔ ¬ t.Retains record := by
  have hlookup : t.negated.lookup = t.lookup := rfl
  simp [Retains, negated, hfilter, hvalue]

end Template

theorem content_link (template : String) (nodes : List String) (body : Body) :
    (body.link template nodes).content = body.content := by
  cases body <;> rfl

theorem map_face_linkEdges (template : String) (elements : List Element) :
    (linkEdges template elements).map Element.face = elements.map Element.face := by
  simp [linkEdges, Function.comp_def, Element.face, content_link]

/-- Ids make no difference to anything else. -/
theorem map_face_assignIds (template : String) (ids : IdTable) (drafts : List Draft) :
    (assignIds template ids drafts).map Element.face = drafts.map (Draft.face template) := by
  induction drafts generalizing ids with
  | nil => rfl
  | cons d rest ih =>
    rw [assignIds_cons, List.map_cons, List.map_cons, ih]
    rfl

theorem map_ends_linkEdges (template : String) (elements : List Element) :
    (linkEdges template elements).map (·.body.ends) =
      (elements.map (·.body.ends)).map (List.map (linkEnd template (nodeIds elements))) := by
  simp [linkEdges, Function.comp_def, ends_link]

theorem map_ends_assignIds (template : String) (ids : IdTable) (drafts : List Draft) :
    (assignIds template ids drafts).map (·.body.ends) = drafts.map (·.body.ends) := by
  induction drafts generalizing ids with
  | nil => rfl
  | cons d rest ih => rw [assignIds_cons, List.map_cons, List.map_cons, ih]

theorem diagnostic?_eq_map (template : String) (i : Nat) (event : Event) :
    event.diagnostic? template i = event.remark?.map (Remark.diagnostic template i) := by
  cases event <;> rfl

namespace Template
variable {t : Template} {records : List Value}

theorem map_face_expansion (t : Template) (records : List Value) :
    (t.expansion (t.allEvents records)).elements.map Element.face =
      records.flatMap fun record => (t.contribution record).faces := by
  rw [expansion, map_face_linkEdges, map_face_assignIds, filterMap_allEvents, List.map_flatMap]
  simp only [List.map_filterMap]
  rfl

/-- Each end is linked from the text that its record gives, by the nodes of the whole expansion. -/
theorem map_ends_expansion (t : Template) (records : List Value) :
    (t.expansion (t.allEvents records)).elements.map (·.body.ends) =
      records.flatMap fun record => (t.contribution record).ends.map
        (List.map (linkEnd t.id (nodeIds (t.expansion (t.allEvents records)).elements))) := by
  rw [expansion, nodeIds_linkEdges, map_ends_linkEdges, map_ends_assignIds, filterMap_allEvents,
    ← List.map_flatMap]
  congr 1
  rw [List.map_flatMap]
  simp only [List.map_filterMap]
  rfl

theorem diagnostics_expansion (t : Template) (records : List Value) :
    (t.expansion (t.allEvents records)).diagnostics =
      records.zipIdx.flatMap fun (record, i) =>
        (t.contribution record).remarks.map (Remark.diagnostic t.id i) := by
  rw [expansion]
  dsimp only
  rw [allEvents, List.filterMap_flatMap]
  simp only [List.filterMap_map, Function.comp_def, diagnostic?_eq_map, contribution,
    Contribution.ofEvents, List.map_filterMap]

/-- A checked template that skips failures expands to what its records give, one after the other.
What a record gives depends on the template and that record alone, ids apart; so do the texts that
ends are linked from, and only which of them name nodes is up to all records. The opposite filter
retains the other records, as far as its value can be looked up. -/
theorem expand_contributions (t : Template) (sources : Table (List Value)) (records : List Value)
    (hskip : t.onError = .skip) (hvalid : t.validate = .ok ())
    (hs : sources.get? t.source = some records) :
    ∃ out, t.expand sources = .ok out ∧
      (out.elements.map Element.face =
        records.flatMap fun record => (t.contribution record).faces) ∧
      (out.diagnostics = records.zipIdx.flatMap fun (record, i) =>
        (t.contribution record).remarks.map (Remark.diagnostic t.id i)) ∧
      (out.elements.map (·.body.ends) = records.flatMap fun record =>
        (t.contribution record).ends.map (List.map (linkEnd t.id (nodeIds out.elements)))) ∧
      (∀ record, t.Yields record (t.contribution record)) ∧
      ∀ filter ∈ t.filter, ∀ record value,
        evaluatePath filter.path record t.lookup = .ok value →
          (t.negated.Retains record ↔ ¬ t.Retains record) := by
  refine ⟨_, expand_of_no_failure hvalid hs (failure?_of_skip hskip _),
    map_face_expansion t records, diagnostics_expansion t records, map_ends_expansion t records,
    yields_contribution t, ?_⟩
  intro filter hfilter record value hvalue
  exact retains_negated_iff hfilter hvalue

/-- Active people, each below the one they name. -/
def roster : Template where
  id := "r"
  source := "people"
  filter := some ⟨"active", false⟩
  nodes := [⟨none, "${name}", none, some "${shape}", []⟩]
  edges := [⟨none, "${boss}", "${name}", none, none, []⟩]
  lookup := .strict
  onError := .skip

/-- One with an unknown shape and a blank end, one who is not active, one of whom that is not said,
one without a superior, and one below the first. -/
def rosterPeople : List Value :=
  [.object [("active", .bool true), ("name", .text "Ann"), ("shape", .text "blob"),
      ("boss", .text "")],
    .object [("active", .bool false), ("name", .text "Bo")],
    .object [("name", .text "Cy")],
    .object [("active", .bool true), ("name", .text "Di"), ("shape", .text "circle")],
    .object [("active", .bool true), ("name", .text "Eve"), ("shape", .text "circle"),
      ("boss", .text "Ann")]]

theorem roster_contributions : ∃ out, roster.expand [("people", rosterPeople)] = .ok out ∧
    out.elements.map Element.face =
      rosterPeople.flatMap (fun record => (roster.contribution record).faces) ∧
    out.elements.map (·.body.ends) = rosterPeople.flatMap (fun record =>
      (roster.contribution record).ends.map (List.map (linkEnd "r" (nodeIds out.elements)))) ∧
    rosterPeople.map (fun record => ((roster.contribution record).faces.length,
      (roster.contribution record).ends, (roster.contribution record).remarks.map
        Remark.property)) =
      [(1, [[]], [some "shape", none]), (0, [], []), (0, [], [some "filter"]),
        (1, [[]], [some "from"]), (2, [[], ["Ann", "Eve"]], [])] := by
  obtain ⟨out, hout, hfaces, _, hends, _⟩ :=
    expand_contributions roster [("people", rosterPeople)] rosterPeople rfl rfl rfl
  exact ⟨out, hout, hfaces, hends, by decide +kernel⟩

end Template

end Cartouche
