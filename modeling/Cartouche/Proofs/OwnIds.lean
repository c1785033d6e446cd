import Cartouche.Proofs.LinkPass
import Cartouche.Proofs.NodeIds

/-!
Edges with an end in the very words of a node's id. The blanks around an id are taken away before
it is handed out, but those around an end are not, so that such an end can pass its node by.
-/
namespace Cartouche
open Decimal Text

/-- An end is linked to its own text without blanks around it where there are none, or where that is
also the id derived from it, and nothing goes by the text as it stands. -/
theorem linkEnd_eq_trimmed_iff {template v : String} {elements : List Element}
    (h : IsNodeId elements (trimmed v)) : linkEnd template (nodeIds elements) v = trimmed v ↔
      trimmed v = v ∨ ¬ IsNodeId elements v ∧ derivedId template v = trimmed v := by
  -- Where no node goes by the text itself, it must have blanks around it.
  have hblanks : ¬ IsNodeId elements v → trimmed v ≠ v := by
    rintro hv hself
    rw [hself] at h
    exact hv h
  have hlinked := endLinked_linkEnd template elements v
  generalize linkEnd template (nodeIds elements) v = w at hlinked ⊢
  cases hlinked with
  | named hv =>
    constructor
    · exact fun hself => Or.inl hself.symm
    · rintro (hself | ⟨hnot, _⟩)
      · exact hself.symm
      · exact absurd hv hnot
  | derived hv _ => simp only [hblanks hv, hv, not_false_eq_true, true_and, false_or]
  | external hv hd =>
    have hderived : derivedId template v ≠ trimmed v := by
      intro hself
      rw [hself] at hd
      exact hd h
    simp only [(hblanks hv).symm, hblanks hv, hderived, and_false, or_false]

namespace Template
variable {t : Template} {records : List Value} {record : Value} {n m : Emission}
  {b : NodeBlueprint} {c : EdgeBlueprint} {e v w id : String}

/-- The texts of a blueprint's ends, each with what the end of the edge is in the result. -/
def writtenEnds (c : EdgeBlueprint) (m : Emission) : List (String × String) :=
  [c.source, c.target].zip m.element.body.ends

theorem text_eq_ok_iff {property : String} :
    t.text record property e = .ok v ↔ tryExpandText record t.lookup e = .ok v := by
  rw [Template.text, Failure.at, mapError_eq_ok_iff]

theorem ownId?_eq_some_iff (hid : b.id = some e) : t.ownId? record b = some id ↔
    ∃ v, tryExpandText record t.lookup e = .ok v ∧ trimmed v ≠ "" ∧ id = trimmed v := by
  have hown : t.ownId? record b = (t.text record "id" e).toOption.bind fun v =>
      if trimmed v = "" then none else some (trimmed v) := by
    rw [ownId?, hid]
    rfl
  rw [hown, Option.bind_eq_some_iff]
  constructor
  · rintro ⟨v, hv, hid⟩
    split at hid
    · cases hid
    · next hsome =>
      refine ⟨v, text_eq_ok_iff.mp (toOption_eq_some_iff.mp hv), hsome, ?_⟩
      exact (Option.some.inj hid).symm
  · rintro ⟨v, hv, hsome, rfl⟩
    exact ⟨v, toOption_eq_some_iff.mpr (text_eq_ok_iff.mpr hv), if_neg hsome⟩

/-- An end is what its text expands to, linked. -/
theorem linkEnd_of_mem_writtenEnds (hm : m ∈ t.emissions records)
    (hmo : m.origin = .edge record c) (hend : (e, w) ∈ writtenEnds c m) :
    ∃ v, tryExpandText record t.lookup e = .ok v ∧
      w = linkEnd t.id (nodeIds (t.expansion (t.allEvents records)).elements) v := by
  obtain ⟨source, target, hsource, htarget, hends⟩ := ends_of_edge hm hmo
  rw [writtenEnds, hends] at hend
  simp only [List.map_cons, List.map_nil, List.zip_cons_cons, List.zip_nil_right, List.mem_cons,
    List.not_mem_nil, or_false, Prod.mk.injEq] at hend
  rcases hend with ⟨rfl, rfl⟩ | ⟨rfl, rfl⟩
  · exact ⟨source, text_eq_ok_iff.mp hsource, rfl⟩
  · exact ⟨target, text_eq_ok_iff.mp htarget, rfl⟩

/-- A node that was granted its own id, and an edge of the same record with an end in the words of
that id: the end names the node exactly where the words expand to a text without blanks around it,
or where no node goes by that text and the id is also the one derived from it. -/
theorem end_names_own_id_iff (t : Template) (sources : Table (List Value)) (records : List Value)
    (out : Expansion) (n m : Emission) (record : Value) (b : NodeBlueprint) (c : EdgeBlueprint)
    (e w : String) (hs : sources.get? t.source = some records) (h : t.expand sources = .ok out)
    (hn : n ∈ t.emissions records) (hno : n.origin = .node record b) (hid : b.id = some e)
    (hm : m ∈ t.emissions records) (hmo : m.origin = .edge record c)
    (hend : (e, w) ∈ writtenEnds c m) (hgranted : t.ownId? record b = some n.element.id) :
    out.elements = (t.emissions records).map Emission.element ∧
      ∃ v, tryExpandText record t.lookup e = .ok v ∧ n.element.id = trimmed v ∧
        (w = n.element.id ↔
          n.element.id = v ∨ v ∉ nodeIds out.elements ∧ derivedId t.id v = n.element.id) := by
  obtain ⟨_, records', hs', _, rfl⟩ := expand_eq_ok_iff.mp h
  obtain rfl : records' = records := Option.some.inj (hs'.symm.trans hs)
  refine ⟨(map_element_emissions t _).symm, ?_⟩
  obtain ⟨v, hv, _, hnid⟩ := (ownId?_eq_some_iff hid).mp hgranted
  obtain ⟨v', hv', hw⟩ := linkEnd_of_mem_writtenEnds hm hmo hend
  obtain rfl : v' = v := Except.ok.inj (hv'.symm.trans hv)
  refine ⟨v', hv, hnid, ?_⟩
  -- The node itself is among those that the end is compared with.
  have hmem : trimmed v' ∈ nodeIds (t.expansion (t.allEvents records')).elements :=
    mem_nodeIds.mpr ⟨n, hn, isNode_of_origin hn hno, hnid⟩
  rw [hw, hnid, mem_nodeIds_iff]
  exact linkEnd_eq_trimmed_iff (mem_nodeIds_iff.mp hmem)

/-- A coat has a name for its id. -/
def coat : NodeBlueprint :=
  ⟨some "${name}", "${name}", none, none, []⟩

/-- The edge from a coat to a hook names the coat by its id. -/
def strap : EdgeBlueprint :=
  ⟨none, "${name}", "hook", none, none, []⟩

def wardrobe : Template where
  id := "t"
  source := "people"
  filter := none
  nodes := [coat]
  edges := [strap]
  lookup := .lenient
  onError := .skip

def owner (name : String) : Value :=
  .object [("name", .text name)]

/-- One name has blanks around it, and the other has none. -/
def owners : List Value :=
  [owner " Ann ", owner "Bo"]

theorem wardrobe_end_names_own_id : ∃ out n m w, wardrobe.expand [("people", owners)] = .ok out ∧
    n ∈ wardrobe.emissions owners ∧ n.origin = .node (owner "Bo") coat ∧
    m ∈ wardrobe.emissions owners ∧ m.origin = .edge (owner "Bo") strap ∧
    ("${name}", w) ∈ writtenEnds strap m ∧ n.element.id = "Bo" ∧ w = n.element.id := by
  have hnode : ∃ n ∈ wardrobe.emissions owners, n.origin = .node (owner "Bo") coat ∧
      n.element.id = "Bo" :=
    ⟨(wardrobe.emissions owners).get ⟨2, by decide +kernel⟩, List.get_mem _ _, rfl,
      by decide +kernel⟩
  have hedge : ∃ m ∈ wardrobe.emissions owners, m.origin = .edge (owner "Bo") strap ∧
      ("${name}", "Bo") ∈ writtenEnds strap m :=
    ⟨(wardrobe.emissions owners).get ⟨3, by decide +kernel⟩, List.get_mem _ _, rfl,
      by decide +kernel⟩
  have hown : wardrobe.ownId? (owner "Bo") coat = some "Bo" := by
    decide +kernel
  have hname : tryExpandText (owner "Bo") wardrobe.lookup "${name}" = .ok "Bo" := rfl
  obtain ⟨n, hn, hno, hnid⟩ := hnode
  obtain ⟨m, hm, hmo, hend⟩ := hedge
  obtain ⟨_, v, hv, _, hiff⟩ := end_names_own_id_iff wardrobe [("people", owners)] owners _ n m
    (owner "Bo") coat strap "${name}" "Bo" rfl rfl hn hno rfl hm hmo hend (by rw [hown, hnid])
  obtain rfl : "Bo" = v := Except.ok.inj (hname.symm.trans hv)
  exact ⟨_, n, m, "Bo", rfl, hn, hno, hm, hmo, hend, hnid, hiff.mpr (Or.inl hnid)⟩

/-- The edge from the other coat names no node: its end has kept the blanks that the id lost. -/
theorem wardrobe_end_misses_own_id : ∃ out n m w,
    wardrobe.expand [("people", owners)] = .ok out ∧
    n ∈ wardrobe.emissions owners ∧ n.origin = .node (owner " Ann ") coat ∧
    m ∈ wardrobe.emissions owners ∧ m.origin = .edge (owner " Ann ") strap ∧
    ("${name}", w) ∈ writtenEnds strap m ∧
    wardrobe.ownId? (owner " Ann ") coat = some n.element.id ∧
    w ≠ n.element.id ∧ w ∉ nodeIds out.elements := by
  have hnode : ∃ n ∈ wardrobe.emissions owners, n.origin = .node (owner " Ann ") coat ∧
      wardrobe.ownId? (owner " Ann ") coat = some n.element.id ∧ " Ann " ≠ n.element.id :=
    ⟨(wardrobe.emissions owners).get ⟨0, by decide +kernel⟩, List.get_mem _ _, rfl,
      by decide +kernel, by decide +kernel⟩
  have hedge : ∃ m ∈ wardrobe.emissions owners, m.origin = .edge (owner " Ann ") strap ∧
      ("${name}", " Ann ") ∈ writtenEnds strap m :=
    ⟨(wardrobe.emissions owners).get ⟨1, by decide +kernel⟩, List.get_mem _ _, rfl,
      by decide +kernel⟩
  have hout : ∃ out, wardrobe.expand [("people", owners)] = .ok out ∧
      " Ann " ∉ nodeIds out.elements := by
    decide +kernel
  obtain ⟨n, hn, hno, hown, hne⟩ := hnode
  obtain ⟨m, hm, hmo, hend⟩ := hedge
  obtain ⟨out, hout, hnone⟩ := hout
  exact ⟨out, n, m, " Ann ", hout, hn, hno, hm, hmo, hend, hown, hne, hnone⟩

end Template

end Cartouche
