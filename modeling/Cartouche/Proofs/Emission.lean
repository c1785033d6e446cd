import Cartouche.Proofs.Ids

/-! Where elements come from: each has the record and the blueprint it was made from, and its id
was handed out over the ids of the elements before it, and over no others. -/
namespace Cartouche
open Decimal Text

/-- The record and the blueprint that an element is made from. -/
inductive Origin where
  | node (record : Value) (blueprint : NodeBlueprint)
  | edge (record : Value) (blueprint : EdgeBlueprint)

def Origin.record : Origin → Value
  | .node record _ => record
  | .edge record _ => record

/-- How the properties of the element get their values. -/
def Origin.style : Origin → Table StyleBinding
  | .node _ b => b.style
  | .edge _ b => b.style

structure Emission where
  origin : Origin
  element : Element

namespace Template
variable (t : Template)

/-- The blueprints that a record is put through, nodes first. -/
def origins (record : Value) : List Origin :=
  match t.keeps record with
  | .ok true => t.nodes.map (.node record) ++ t.edges.map (.edge record)
  | _ => []

/-- What a node asks for and shows, all of its lookups made. -/
def fullNodeDraft (record : Value) (b : NodeBlueprint) : Except Failure Draft := do
  let (label, subtitle, token) ← t.nodeTexts record b
  t.nodeDraft record b label subtitle token

/-- A failed lookup leaves no draft, and neither does a missing end. -/
def draft? : Origin → Option Draft
  | .node record b => (t.fullNodeDraft record b).toOption
  | .edge record b => (t.edgeDraft record b).toOption.join

/-- The drafts of all records with their origins. -/
def drafted (records : List Value) : List (Origin × Draft) :=
  (records.flatMap t.origins).filterMap fun o => (t.draft? o).map (o, ·)

/-- The elements of an expansion with their origins. -/
def emissions (records : List Value) : List Emission :=
  List.zipWith Emission.mk ((t.drafted records).map Prod.fst)
    (t.expansion (t.allEvents records)).elements

variable {t : Template} {record : Value} {d : Draft}

theorem draft_readShape (token : Option String) :
    (readShape token).2.filterMap Event.draft? = [] := by
  rcases readShape_notes token with hn | ⟨word, hn⟩
  · rw [hn]
    rfl
  · rw [hn]
    rfl

theorem draft_ofDraft (r : Except Failure Draft) : (Event.ofDraft r).draft? = r.toOption := by
  cases r <;> rfl

theorem drafts_nodeEvents (t : Template) (record : Value) (b : NodeBlueprint) :
    (t.nodeEvents record b).filterMap Event.draft? = (t.draft? (.node record b)).toList := by
  rw [draft?, fullNodeDraft]
  cases hx : t.nodeTexts record b with
  | error f =>
    rw [nodeEvents_of_error hx]
    rfl
  | ok texts =>
    obtain ⟨label, subtitle, token⟩ := texts
    rw [nodeEvents_of_ok hx, List.filterMap_append, draft_readShape, List.nil_append, ok_bind]
    rw [List.filterMap_cons, draft_ofDraft]
    dsimp only
    cases t.nodeDraft record b label subtitle token <;> rfl

theorem drafts_edgeEvents (t : Template) (record : Value) (b : EdgeBlueprint) :
    (t.edgeEvents record b).filterMap Event.draft? = (t.draft? (.edge record b)).toList := by
  rw [draft?]
  cases hx : t.edgeDraft record b with
  | error f =>
    rw [edgeEvents_of_error hx]
    rfl
  | ok draft =>
    cases draft with
    | none =>
      rw [edgeEvents_of_none hx]
      rfl
    | some d =>
      rw [edgeEvents_of_some hx]
      rfl

theorem drafts_events (t : Template) (record : Value) :
    (t.events record).filterMap Event.draft? = (t.origins record).filterMap t.draft? := by
  unfold events origins
  cases hk : t.keeps record with
  | error f => rfl
  | ok kept =>
    cases kept with
    | false => rfl
    | true =>
      dsimp only
      rw [List.filterMap_append, List.filterMap_append, List.filterMap_flatMap,
        List.filterMap_flatMap, List.filterMap_map, List.filterMap_map]
      simp only [drafts_nodeEvents, drafts_edgeEvents]
      rw [List.filterMap_eq_flatMap_toList, List.filterMap_eq_flatMap_toList]
      rfl

theorem map_snd_drafted (t : Template) (records : List Value) :
    (t.drafted records).map Prod.snd =
      (t.allEvents records).filterMap fun (_, event) => event.draft? := by
  have hsnd : (t.drafted records).map Prod.snd =
      (records.flatMap t.origins).filterMap t.draft? := by
    rw [drafted, List.map_filterMap]
    congr 1
    funext o
    cases t.draft? o <;> rfl
  rw [hsnd, filterMap_allEvents, List.filterMap_flatMap]
  simp only [drafts_events]

end Template

section Assignment
attribute [local irreducible] IdTable.allocate

theorem length_assignIds (template : String) (ids : IdTable) (drafts : List Draft) :
    (assignIds template ids drafts).length = drafts.length := by
  induction drafts generalizing ids with
  | nil => rfl
  | cons d rest ih => rw [assignIds_cons, List.length_cons, ih, List.length_cons]

/-- Each element has the draft of its origin, and an id handed out over those before it, of whose
requests the blank ones are counted. -/
theorem zip_assignIds_cases (template : String) (link : Body → Body)
    {ids : IdTable} {l : List (Origin × Draft)} {before after : List Emission} {m : Emission}
    (h : List.zipWith Emission.mk (l.map Prod.fst)
      ((assignIds template ids (l.map Prod.snd)).map fun e => { e with body := link e.body }) =
        before ++ m :: after) :
    ∃ (ids' : IdTable) (d : Draft), (m.origin, d) ∈ l ∧
      (∀ k, k ∈ ids'.taken.keys ↔
        (k ∈ before.map fun m => m.element.id) ∨ k ∈ ids.taken.keys) ∧
      ids'.counter = ids.counter +
        (l.take before.length).countP (fun od => IdTable.isBlankRequest od.2.requested) ∧
      m.element =
        ⟨(ids'.allocate template d.requested).1, link d.body, d.style, template⟩ := by
  induction before generalizing ids l with
  | nil =>
    cases l with
    | nil => cases h
    | cons od rest =>
      rw [List.map_cons, List.map_cons, assignIds_cons, List.map_cons, List.zipWith_cons_cons,
        List.nil_append] at h
      obtain ⟨rfl, _⟩ := List.cons.inj h
      refine ⟨ids, od.2, List.mem_cons_self, ?_, rfl, rfl⟩
      intro k
      simp
  | cons b before ih =>
    cases l with
    | nil => cases h
    | cons od rest =>
      rw [List.map_cons, List.map_cons, assignIds_cons, List.map_cons, List.zipWith_cons_cons,
        List.cons_append] at h
      obtain ⟨hb, htail⟩ := List.cons.inj h
      have hid : b.element.id = (ids.allocate template od.2.requested).1 := by rw [← hb]
      obtain ⟨ids', d, hd, hkeys, hcounter, hm⟩ := ih htail
      refine ⟨ids', d, List.mem_cons_of_mem _ hd, ?_, ?_, hm⟩
      · intro k
        rw [hkeys, IdTable.mem_keys_allocate, List.map_cons, List.mem_cons, hid]
        tauto
      · rw [hcounter, IdTable.counter_allocate, List.length_cons, List.take_succ_cons,
          List.countP_cons, Nat.add_assoc, Nat.add_comm (ite _ _ _)]

end Assignment

@[simp] theorem isNode_link (template : String) (nodes : List String) (body : Body) :
    (body.link template nodes).isNode = body.isNode := by
  cases body <;> rfl

/-- Linking changes no node and no id. -/
@[simp] theorem nodeIds_linkEdges (template : String) (elements : List Element) :
    nodeIds (linkEdges template elements) = nodeIds elements := by
  simp only [nodeIds, linkEdges, List.filter_map, List.map_map, Function.comp_def, Element.isNode,
    isNode_link]
  rfl

namespace Template
variable {t : Template} {records : List Value} {record : Value} {d : Draft}

/-- The emissions are the elements of the expansion, in their order. -/
theorem map_element_emissions (t : Template) (records : List Value) :
    (t.emissions records).map Emission.element =
      (t.expansion (t.allEvents records)).elements := by
  have hlen : (t.expansion (t.allEvents records)).elements.length =
      ((t.drafted records).map Prod.fst).length := by
    rw [expansion, ← map_snd_drafted]
    simp only [linkEdges, List.length_map, length_assignIds]
  rw [emissions, List.map_zipWith]
  rw [← List.map_uncurry_zip_eq_zipWith]
  exact List.map_snd_zip (Nat.le_of_eq hlen)

theorem mem_drafted {o : Origin} {d : Draft} : (o, d) ∈ t.drafted records ↔
    (∃ record ∈ records, o ∈ t.origins record) ∧ t.draft? o = some d := by
  simp only [drafted, List.mem_filterMap, List.mem_flatMap, Option.map_eq_some_iff]
  constructor
  · rintro ⟨o', ho, d', hd, he⟩
    cases he
    exact ⟨ho, hd⟩
  · rintro ⟨ho, hd⟩
    exact ⟨o, ho, d, hd, rfl⟩

/-- Whether an element leaves its id to the counter. -/
def leavesToCounter (t : Template) (o : Origin) : Bool :=
  (t.draft? o).any fun d => IdTable.isBlankRequest d.requested

/-- The number that the counter of the ids gives next, behind the elements so far. -/
def nextNumber (t : Template) (before : List Emission) : Nat :=
  before.countP (fun m => t.leavesToCounter m.origin) + 1

theorem map_origin_emissions (t : Template) (records : List Value) :
    (t.emissions records).map Emission.origin = (t.drafted records).map Prod.fst := by
  have hlen : ((t.drafted records).map Prod.fst).length =
      (t.expansion (t.allEvents records)).elements.length := by
    rw [expansion, ← map_snd_drafted]
    simp only [linkEdges, List.length_map, length_assignIds]
  rw [emissions, List.map_zipWith, ← List.map_uncurry_zip_eq_zipWith]
  exact List.map_fst_zip (Nat.le_of_eq hlen)

/-- The drafts behind the first elements are blank where these leave their ids to the counter. -/
theorem countP_take_drafted {before after : List Emission}
    (h : t.emissions records = before ++ after) :
    ((t.drafted records).take before.length).countP
      (fun od => IdTable.isBlankRequest od.2.requested) =
        before.countP fun m => t.leavesToCounter m.origin := by
  have horigins : ((t.drafted records).take before.length).map Prod.fst =
      before.map Emission.origin := by
    rw [List.map_take, ← map_origin_emissions, h, List.map_append, List.take_left' (by simp)]
  have hblank : ∀ od ∈ (t.drafted records).take before.length,
      IdTable.isBlankRequest od.2.requested = t.leavesToCounter od.1 := by
    intro od hod
    rw [leavesToCounter, (mem_drafted.mp (List.mem_of_mem_take hod)).2, Option.any_some]
  rw [List.countP_congr fun od hod => by rw [hblank od hod]]
  have hcount := congrArg (List.countP t.leavesToCounter) horigins
  rwa [List.countP_map, List.countP_map] at hcount

/-- Each element has the draft of its origin, and an id handed out over the ids before it, while
the counter is behind the blank requests before it. -/
theorem emission_cases {before after : List Emission} {m : Emission}
    (h : t.emissions records = before ++ m :: after) :
    ∃ (ids : IdTable) (d : Draft), (m.origin, d) ∈ t.drafted records ∧
      (∀ k, k ∈ ids.taken.keys ↔ k ∈ before.map fun m => m.element.id) ∧
      ids.counter + 1 = t.nextNumber before ∧
      m.element = ⟨(ids.allocate t.id d.requested).1,
        d.body.link t.id (nodeIds (t.expansion (t.allEvents records)).elements), d.style,
        t.id⟩ := by
  have hnext : ((t.drafted records).take before.length).countP
      (fun od => IdTable.isBlankRequest od.2.requested) + 1 = t.nextNumber before := by
    rw [countP_take_drafted h, nextNumber]
  have hdrafts := map_snd_drafted t records
  rw [emissions, expansion, ← hdrafts] at h
  rw [expansion, ← hdrafts, nodeIds_linkEdges]
  obtain ⟨ids, d, hd, hkeys, hcounter, hm⟩ := zip_assignIds_cases t.id _ h
  refine ⟨ids, d, hd, ?_, ?_, hm⟩
  · intro k
    rw [hkeys]
    exact or_iff_left List.not_mem_nil
  · rw [hcounter, ← hnext]
    exact congrArg (· + 1) (Nat.zero_add _)

theorem mem_origins {record : Value} {o : Origin} (h : o ∈ t.origins record) :
    (∃ b ∈ t.nodes, o = .node record b) ∨ ∃ b ∈ t.edges, o = .edge record b := by
  unfold origins at h
  split at h
  · simp only [List.mem_append, List.mem_map] at h
    rcases h with ⟨b, hb, rfl⟩ | ⟨b, hb, rfl⟩
    · exact Or.inl ⟨b, hb, rfl⟩
    · exact Or.inr ⟨b, hb, rfl⟩
  · cases h

theorem draft?_node_eq_some_iff {b : NodeBlueprint} :
    t.draft? (.node record b) = some d ↔ t.fullNodeDraft record b = .ok d := by
  rw [draft?]
  cases t.fullNodeDraft record b <;> simp [Except.toOption]

theorem draft?_edge_eq_some_iff {b : EdgeBlueprint} :
    t.draft? (.edge record b) = some d ↔ t.edgeDraft record b = .ok (some d) := by
  rw [draft?]
  cases t.edgeDraft record b <;> simp [Except.toOption]

/-- What the draft of a node is made of. -/
theorem parts_of_node {b : NodeBlueprint} (h : t.draft? (.node record b) = some d) :
    t.style record b.style = .ok d.style ∧ t.requestedId record b = .ok d.requested ∧
      d.body.isNode := by
  obtain ⟨⟨label, subtitle, token⟩, _, h⟩ := bind_eq_ok_iff.mp (draft?_node_eq_some_iff.mp h)
  obtain ⟨style, hs, h⟩ := bind_eq_ok_iff.mp h
  obtain ⟨requested, hr, h⟩ := bind_eq_ok_iff.mp h
  cases h
  exact ⟨hs, hr, rfl⟩

/-- What the draft of an edge is made of. -/
theorem parts_of_edge {b : EdgeBlueprint} (h : t.draft? (.edge record b) = some d) :
    t.style record b.style = .ok d.style ∧
      ∃ source target label kind, t.text record "from" b.source = .ok source ∧
        t.text record "to" b.target = .ok target ∧ d.body = .edge source target label kind := by
  obtain ⟨source, hs, h⟩ := bind_eq_ok_iff.mp (draft?_edge_eq_some_iff.mp h)
  obtain ⟨target, ht, h⟩ := bind_eq_ok_iff.mp h
  split at h
  · cases h
  · obtain ⟨label, _, h⟩ := bind_eq_ok_iff.mp h
    obtain ⟨kind, _, h⟩ := bind_eq_ok_iff.mp h
    obtain ⟨style, hstyle, h⟩ := bind_eq_ok_iff.mp h
    -- The id that is asked for is given or made up, and counts for neither end.
    have hd : d.style = style ∧ ∃ label kind, d.body = .edge source target label kind := by
      cases hid : b.id with
      | none =>
        rw [hid] at h
        cases h
        exact ⟨rfl, _, _, rfl⟩
      | some text =>
        rw [hid] at h
        obtain ⟨requested, _, h⟩ := bind_eq_ok_iff.mp h
        cases h
        exact ⟨rfl, _, _, rfl⟩
    obtain ⟨rfl, label, kind, hbody⟩ := hd
    exact ⟨hstyle, source, target, label, kind, hs, ht, hbody⟩

/-- An element has the style of the blueprint it comes from. -/
theorem style_of_draft? {o : Origin} (h : t.draft? o = some d) :
    t.style o.record o.style = .ok d.style := by
  cases o with
  | node record b => exact (parts_of_node h).1
  | edge record b => exact (parts_of_edge h).1

/-- No two emissions share an id. -/
theorem nodup_id_emissions (t : Template) (records : List Value) :
    ((t.emissions records).map fun m => m.element.id).Nodup := by
  have hids : ((t.emissions records).map fun m => m.element.id) =
      ((t.emissions records).map Emission.element).map Element.id := by
    rw [List.map_map]
    rfl
  rw [hids, map_element_emissions, expansion, map_id_linkEdges]
  exact nodup_id_assignIds _ _ _

end Template

end Cartouche
