import Cartouche.Proofs.Emission

/-! Which node the end of an edge is tied to. Ends are compared with ids as texts, so that an end
reaches a node derived from its text only where such a node was granted the derived id. -/
namespace Cartouche
open Decimal Text

theorem trimmed_derivedId_ne_empty (template v : String) :
    trimmed (derivedId template v) ≠ "" := by
  intro h
  have hdash : '-' ∈ (derivedId template v).toList := by
    simp [derivedId]
  have hl := congrArg String.toList h
  rw [trimmed, String.toList_ofList] at hl
  exact trim_ne_nil hdash (by decide) hl

/-- The id of some node among the elements, before or behind whatever refers to it. -/
def IsNodeId (elements : List Element) (id : String) : Prop :=
  ∃ e ∈ elements, e.isNode ∧ e.id = id

theorem mem_nodeIds_iff {elements : List Element} {id : String} :
    id ∈ nodeIds elements ↔ IsNodeId elements id := by
  simp only [nodeIds, List.mem_map, List.mem_filter, IsNodeId, and_assoc]

def Body.ends : Body → List String
  | .node _ _ _ => []
  | .edge source target _ _ => [source, target]

theorem ends_link (template : String) (nodes : List String) (body : Body) :
    (body.link template nodes).ends = body.ends.map (linkEnd template nodes) := by
  cases body <;> rfl

namespace Template
variable (t : Template)

/-- The value of the first field that a label reads. -/
def labelValue? (record : Value) (label : String) : Option Value := do
  let path ← (tokenPaths label).head?
  (evaluatePath path record t.lookup).toOption.join

/-- A node whose label first reads a value with the slug of the given text. -/
def DerivedFrom (v : String) : Origin → Prop
  | .node record b => ∃ value ∈ t.labelValue? record b.label, slug value.display = slug v
  | .edge _ _ => False

instance (v : String) : (o : Origin) → Decidable (t.DerivedFrom v o)
  | .node record b =>
    inferInstanceAs (Decidable (∃ value ∈ t.labelValue? record b.label,
      slug value.display = slug v))
  | .edge _ _ => inferInstanceAs (Decidable False)

/-- What the ends of an edge are expanded to. -/
def endTexts : Origin → List (Option String)
  | .node _ _ => []
  | .edge record b => [(t.text record "from" b.source).toOption,
    (t.text record "to" b.target).toOption]

/-- One end of an edge is expanded to `v`, and is `w` after all ends are linked. -/
def EndReads (v w : String) (m : Emission) : Prop :=
  (some v, w) ∈ (t.endTexts m.origin).zip m.element.body.ends

instance (v w : String) (m : Emission) : Decidable (t.EndReads v w m) :=
  inferInstanceAs (Decidable (_ ∈ _))

/-- What the end of an edge stands for: a node derived from its text, where there is one, and
otherwise the text itself; but never a node derived from something else. -/
structure LinksRight (ms : List Emission) (v w : String) : Prop where
  reached : (∃ m ∈ ms, t.DerivedFrom v m.origin) →
    ∃ m ∈ ms, t.DerivedFrom v m.origin ∧ m.element.id = w
  kept : (∀ m ∈ ms, ¬ t.DerivedFrom v m.origin) → w = v
  only : ∀ m ∈ ms, m.element.isNode → m.element.id = w → t.DerivedFrom v m.origin

/-- A node derived from the text found the derived id free, and without blanks around it; or there
is no such node, and no node at all with the derived id. -/
def OwnsDerivedId (ms : List Emission) (v : String) : Prop :=
  (∃ before m after, ms = before ++ m :: after ∧ t.DerivedFrom v m.origin ∧
    trimmed (derivedId t.id v) = derivedId t.id v ∧
    ∀ m' ∈ before, m'.element.id ≠ derivedId t.id v) ∨
  (∀ m ∈ ms, ¬ t.DerivedFrom v m.origin) ∧
    ∀ m ∈ ms, m.element.isNode → m.element.id ≠ derivedId t.id v

variable {t : Template} {records : List Value} {v w : String} {m : Emission}

theorem requestedId_of_derivedFrom {record : Value} {b : NodeBlueprint} (hid : b.id = none)
    (h : t.DerivedFrom v (.node record b)) (hslug : slug v ≠ "") :
    t.requestedId record b = .ok (some (derivedId t.id v)) := by
  obtain ⟨value, hvalue, hs⟩ := h
  rw [requestedId, hid]
  unfold labelValue? at hvalue
  obtain ⟨path, hpath, hvalue⟩ := Option.bind_eq_some_iff.mp hvalue
  simp [labelId?, hpath, hvalue, hs, hslug, derivedId]

theorem mem_nodeIds {id : String} : id ∈ nodeIds (t.expansion (t.allEvents records)).elements ↔
    ∃ m ∈ t.emissions records, m.element.isNode ∧ m.element.id = id := by
  rw [← map_element_emissions, mem_nodeIds_iff, IsNodeId]
  simp only [List.mem_map, exists_exists_and_eq_and]

theorem eq_of_id_eq {m' : Emission} (hm : m ∈ t.emissions records) (hm' : m' ∈ t.emissions records)
    (h : m.element.id = m'.element.id) : m = m' :=
  List.inj_on_of_nodup_map (nodup_id_emissions t records) hm hm' h

theorem isNode_of_origin {record : Value} {b : NodeBlueprint} (hm : m ∈ t.emissions records)
    (ho : m.origin = .node record b) : m.element.isNode := by
  obtain ⟨before, after, hsplit⟩ := List.append_of_mem hm
  obtain ⟨ids, d, hd, _, _, he⟩ := emission_cases hsplit
  have hdraft := (mem_drafted.mp hd).2
  rw [ho] at hdraft
  rw [he, Element.isNode, isNode_link]
  exact (parts_of_node hdraft).2.2

theorem isNode_of_derivedFrom (hm : m ∈ t.emissions records) (h : t.DerivedFrom v m.origin) :
    m.element.isNode := by
  cases ho : m.origin with
  | edge record b =>
    rw [ho] at h
    exact h.elim
  | node record b => exact isNode_of_origin hm ho

/-- A node derived from a text has the derived id exactly where that id was still free. -/
theorem id_eq_derivedId_iff {before after : List Emission} (hno : ∀ b ∈ t.nodes, b.id = none)
    (hm : t.emissions records = before ++ m :: after) (h : t.DerivedFrom v m.origin)
    (hslug : slug v ≠ "") : m.element.id = derivedId t.id v ↔
      trimmed (derivedId t.id v) = derivedId t.id v ∧
        ∀ m' ∈ before, m'.element.id ≠ derivedId t.id v := by
  obtain ⟨ids, d, hd, hkeys, _, he⟩ := emission_cases hm
  obtain ⟨⟨record, _, ho⟩, hdraft⟩ := mem_drafted.mp hd
  rcases mem_origins ho with ⟨b, hb, ho⟩ | ⟨b, _, ho⟩
  · rw [ho] at hdraft h
    have hreq := (parts_of_node hdraft).2.1
    rw [requestedId_of_derivedFrom (hno b hb) h hslug] at hreq
    rw [he, ← Except.ok.inj hreq,
      IdTable.allocate_eq_iff (trimmed_derivedId_ne_empty t.id v), hkeys]
    simp
  · rw [ho] at h
    exact h.elim

/-- The ends of an edge are the texts that its blueprint gives, each linked. -/
theorem ends_of_edge {record : Value} {b : EdgeBlueprint} (hm : m ∈ t.emissions records)
    (ho : m.origin = .edge record b) :
    ∃ source target, t.text record "from" b.source = .ok source ∧
      t.text record "to" b.target = .ok target ∧ m.element.body.ends = [source, target].map
        (linkEnd t.id (nodeIds (t.expansion (t.allEvents records)).elements)) := by
  obtain ⟨before, after, hsplit⟩ := List.append_of_mem hm
  obtain ⟨ids, d, hd, _, _, he⟩ := emission_cases hsplit
  have hdraft := (mem_drafted.mp hd).2
  rw [ho] at hdraft
  obtain ⟨_, source, target, label, kind, hs, ht, hbody⟩ := parts_of_edge hdraft
  refine ⟨source, target, hs, ht, ?_⟩
  rw [he, hbody]
  rfl

/-- The ends of every edge were expanded to texts, and each is linked by its text alone. -/
theorem ends_of_mem_emissions (hm : m ∈ t.emissions records) :
    ∃ texts : List String, t.endTexts m.origin = texts.map some ∧ m.element.body.ends =
      texts.map (linkEnd t.id (nodeIds (t.expansion (t.allEvents records)).elements)) := by
  cases ho : m.origin with
  | node record b =>
    refine ⟨[], rfl, ?_⟩
    have hnode := isNode_of_origin hm ho
    rw [Element.isNode] at hnode
    cases hb : m.element.body with
    | node label subtitle shape => rfl
    | edge source target label kind =>
      rw [hb] at hnode
      cases hnode
  | edge record b =>
    obtain ⟨source, target, hs, ht, hends⟩ := ends_of_edge hm ho
    refine ⟨[source, target], ?_, hends⟩
    rw [endTexts, hs, ht]
    rfl

theorem eq_linkEnd_of_endReads (hm : m ∈ t.emissions records) (h : t.EndReads v w m) :
    w = linkEnd t.id (nodeIds (t.expansion (t.allEvents records)).elements) v := by
  obtain ⟨texts, htexts, hends⟩ := ends_of_mem_emissions hm
  rw [EndReads, htexts, hends, List.zip_map', List.mem_map] at h
  obtain ⟨x, _, hx⟩ := h
  cases hx
  rfl

theorem ownsDerivedId_of_linksRight (hno : ∀ b ∈ t.nodes, b.id = none) (hslug : slug v ≠ "")
    (hv : v ∉ nodeIds (t.expansion (t.allEvents records)).elements)
    (hw : w = linkEnd t.id (nodeIds (t.expansion (t.allEvents records)).elements) v)
    (h : t.LinksRight (t.emissions records) v w) : t.OwnsDerivedId (t.emissions records) v := by
  rw [linkEnd, if_neg hv] at hw
  by_cases hder : ∃ n ∈ t.emissions records, t.DerivedFrom v n.origin
  · left
    obtain ⟨n, hn, hd, hid⟩ := h.reached hder
    have hnode := isNode_of_derivedFrom hn hd
    -- The end is the id of a node, and so it cannot have stayed as it was.
    have hwd : w = derivedId t.id v := by
      split at hw
      · exact hw
      · exact absurd (mem_nodeIds.mpr ⟨n, hn, hnode, hid.trans hw⟩) hv
    obtain ⟨before, after, hsplit⟩ := List.append_of_mem hn
    obtain ⟨ht, hfree⟩ := (id_eq_derivedId_iff hno hsplit hd hslug).mp (hid.trans hwd)
    exact ⟨before, n, after, hsplit, hd, ht, hfree⟩
  · right
    have hnone : ∀ n ∈ t.emissions records, ¬ t.DerivedFrom v n.origin := by
      intro n hn hd
      exact hder ⟨n, hn, hd⟩
    refine ⟨hnone, ?_⟩
    intro n hn hnode hid
    rw [if_pos (mem_nodeIds.mpr ⟨n, hn, hnode, hid⟩)] at hw
    exact hnone n hn (h.only n hn hnode (hid.trans hw.symm))

theorem linksRight_of_ownsDerivedId (hno : ∀ b ∈ t.nodes, b.id = none) (hslug : slug v ≠ "")
    (hv : v ∉ nodeIds (t.expansion (t.allEvents records)).elements)
    (hw : w = linkEnd t.id (nodeIds (t.expansion (t.allEvents records)).elements) v)
    (h : t.OwnsDerivedId (t.emissions records) v) : t.LinksRight (t.emissions records) v w := by
  rw [linkEnd, if_neg hv] at hw
  rcases h with ⟨before, n, after, hsplit, hd, ht, hfree⟩ | ⟨hnone, hfree⟩
  · have hn : n ∈ t.emissions records := by
      rw [hsplit]
      exact List.mem_append_right _ List.mem_cons_self
    have hid := (id_eq_derivedId_iff hno hsplit hd hslug).mpr ⟨ht, hfree⟩
    rw [if_pos (mem_nodeIds.mpr ⟨n, hn, isNode_of_derivedFrom hn hd, hid⟩)] at hw
    refine ⟨fun _ => ⟨n, hn, hd, hid.trans hw.symm⟩, fun hnone => absurd hd (hnone n hn), ?_⟩
    intro k hk _ hkid
    rw [eq_of_id_eq hk hn (hkid.trans (hw.trans hid.symm))]
    exact hd
  · have hnode : derivedId t.id v ∉ nodeIds (t.expansion (t.allEvents records)).elements := by
      intro hmem
      obtain ⟨n, hn, hnode, hid⟩ := mem_nodeIds.mp hmem
      exact hfree n hn hnode hid
    rw [if_neg hnode] at hw
    refine ⟨?_, fun _ => hw, ?_⟩
    · rintro ⟨n, hn, hd⟩
      exact absurd hd (hnone n hn)
    · intro k hk hknode hkid
      exact absurd (mem_nodeIds.mpr ⟨k, hk, hknode, hkid.trans hw⟩) hv

/-- Where ids come from labels, an end whose text names no node is linked as it should be exactly
where the derived id of its text went to a node derived from it, or to no node if there is none. -/
theorem linksRight_iff_ownsDerivedId (t : Template) (sources : Table (List Value))
    (records : List Value) (out : Expansion) (m : Emission) (v w : String)
    (hno : ∀ b ∈ t.nodes, b.id = none) (hs : sources.get? t.source = some records)
    (h : t.expand sources = .ok out) (hm : m ∈ t.emissions records) (hend : t.EndReads v w m)
    (hslug : slug v ≠ "") (hv : v ∉ nodeIds out.elements) :
    out.elements = (t.emissions records).map Emission.element ∧
      (t.LinksRight (t.emissions records) v w ↔ t.OwnsDerivedId (t.emissions records) v) := by
  obtain ⟨_, records', hs', _, rfl⟩ := expand_eq_ok_iff.mp h
  obtain rfl : records' = records := Option.some.inj (hs'.symm.trans hs)
  have hw := eq_linkEnd_of_endReads hm hend
  exact ⟨(map_element_emissions t _).symm, ownsDerivedId_of_linksRight hno hslug hv hw,
    linksRight_of_ownsDerivedId hno hslug hv hw⟩

/-- A chart of people, each below the one they name. -/
def chart : Template where
  id := "t"
  source := "people"
  filter := none
  nodes := [⟨none, "${name}", none, none, []⟩]
  edges := [⟨none, "${boss}", "${name}", none, none, []⟩]
  lookup := .lenient
  onError := .skip

def person (name boss : String) : Value :=
  .object [("name", .text name), ("boss", .text boss)]

/-- The end that names Ann is linked to Ann. -/
theorem chart_linksRight : ∃ m ∈ chart.emissions [person "Ann" "", person "Bo" "Ann"],
    chart.EndReads "Ann" "t-ann" m ∧
    chart.LinksRight (chart.emissions [person "Ann" "", person "Bo" "Ann"]) "Ann" "t-ann" := by
  have hread : ∃ m ∈ chart.emissions [person "Ann" "", person "Bo" "Ann"],
      chart.EndReads "Ann" "t-ann" m := by
    decide +kernel
  obtain ⟨m, hm, hend⟩ := hread
  refine ⟨m, hm, hend, ?_⟩
  refine (linksRight_iff_ownsDerivedId chart [("people", [person "Ann" "", person "Bo" "Ann"])]
    [person "Ann" "", person "Bo" "Ann"] _ m "Ann" "t-ann" ?_ rfl rfl hm hend
    (by decide +kernel) (by decide +kernel)).2.mpr ?_
  · simp [chart]
  · left
    refine ⟨[], _, _, rfl, ⟨.text "Ann", rfl, rfl⟩, by decide +kernel, ?_⟩
    simp

/-- The suffix of the second Ann makes the id that is derived from the third name. -/
def namesakes : List Value :=
  [person "Ann" "", person "Ann" "", person "Ann 2" "", person "Bo" "Ann 2"]

/-- The end that names the third person is linked to the second. -/
theorem chart_mislinks_namesakes : ∃ out m, chart.expand [("people", namesakes)] = .ok out ∧
    m ∈ chart.emissions namesakes ∧ chart.EndReads "Ann 2" "t-ann-2" m ∧
    slug "Ann 2" ≠ "" ∧ "Ann 2" ∉ nodeIds out.elements ∧
    (∃ n ∈ chart.emissions namesakes,
      chart.DerivedFrom "Ann 2" n.origin ∧ n.element.id = "t-ann-2-2") ∧
    (∃ n ∈ chart.emissions namesakes,
      ¬ chart.DerivedFrom "Ann 2" n.origin ∧ n.element.isNode ∧ n.element.id = "t-ann-2") ∧
    ¬ chart.LinksRight (chart.emissions namesakes) "Ann 2" "t-ann-2" := by
  have hread : ∃ m ∈ chart.emissions namesakes, chart.EndReads "Ann 2" "t-ann-2" m := by
    decide +kernel
  have hother : ∃ n ∈ chart.emissions namesakes,
      ¬ chart.DerivedFrom "Ann 2" n.origin ∧ n.element.isNode ∧ n.element.id = "t-ann-2" := by
    decide +kernel
  obtain ⟨m, hm, hend⟩ := hread
  refine ⟨_, m, rfl, hm, hend, by decide +kernel, by decide +kernel, by decide +kernel, hother, ?_⟩
  intro h
  obtain ⟨n, hn, hd, hnode, hid⟩ := hother
  exact hd (h.only n hn hnode hid)

end Template

end Cartouche
