import Cartouche.Proofs.Contributions
import Cartouche.Proofs.Linking

/-!
How an expansion that leaves failures out depends on its list of records. A record that gives no
element has asked for no id, so that the elements are the same without it; and records added behind
the others move none of their elements and ids, and cut no end off from the node that it names.
-/
namespace Cartouche
open Decimal Text

/-- The same element, ends apart; and an end that names a node goes on to name one. -/
structure Element.KeptIn (nodes nodes' : List String) (e e' : Element) : Prop where
  id : e'.id = e.id
  face : e'.face = e.face
  ends : List.Forall₂ (fun w w' => w ∈ nodes → w' ∈ nodes') e.body.ends e'.body.ends

namespace Template

/-- Whether a record gives an element. -/
def emits (t : Template) (record : Value) : Bool :=
  (t.origins record).any fun o => (t.draft? o).isSome

/-- The elements before their ends are linked. -/
def unlinked (t : Template) (records : List Value) : List Element :=
  assignIds t.id .empty ((t.drafted records).map Prod.snd)

variable {t : Template} {records : List Value} {record : Value} {o : Origin}

theorem record_of_mem_origins (h : o ∈ t.origins record) : o.record = record := by
  rcases mem_origins h with ⟨b, _, rfl⟩ | ⟨b, _, rfl⟩ <;> rfl

theorem elements_expansion (t : Template) (records : List Value) :
    (t.expansion (t.allEvents records)).elements = linkEdges t.id (t.unlinked records) := by
  rw [expansion, unlinked, map_snd_drafted]

/-- The records that give an element are those that some element of the run comes from. -/
theorem emits_iff (h : record ∈ records) :
    t.emits record ↔ ∃ m ∈ t.emissions records, m.origin.record = record := by
  have horigin : ∀ o, (∃ m ∈ t.emissions records, m.origin = o) ↔
      ∃ d, (o, d) ∈ t.drafted records := by
    intro o
    rw [← List.mem_map, map_origin_emissions, List.mem_map]
    constructor
    · rintro ⟨⟨_, d⟩, hd, rfl⟩
      exact ⟨d, hd⟩
    · rintro ⟨d, hd⟩
      exact ⟨(o, d), hd, rfl⟩
  rw [emits, List.any_eq_true]
  constructor
  · rintro ⟨o, ho, hd⟩
    obtain ⟨d, hd⟩ := Option.isSome_iff_exists.mp hd
    obtain ⟨m, hm, rfl⟩ := (horigin o).mpr ⟨d, mem_drafted.mpr ⟨⟨record, h, ho⟩, hd⟩⟩
    exact ⟨m, hm, record_of_mem_origins ho⟩
  · rintro ⟨m, hm, rfl⟩
    obtain ⟨d, hd⟩ := (horigin m.origin).mp ⟨m, hm, rfl⟩
    obtain ⟨⟨record, _, ho⟩, hd⟩ := mem_drafted.mp hd
    rw [record_of_mem_origins ho]
    exact ⟨m.origin, ho, Option.isSome_iff_exists.mpr ⟨d, hd⟩⟩

/-- Records without an element leave nothing behind that would count for later ones. -/
theorem drafted_filter_emits (t : Template) (records : List Value) :
    t.drafted (records.filter t.emits) = t.drafted records := by
  unfold drafted
  rw [List.filterMap_flatMap, List.filterMap_flatMap]
  induction records with
  | nil => rfl
  | cons record rest ih =>
    cases he : t.emits record with
    | true => rw [List.filter_cons_of_pos he, List.flatMap_cons, List.flatMap_cons, ih]
    | false =>
      have hnone : (t.origins record).filterMap (fun o => (t.draft? o).map (o, ·)) = [] := by
        rw [List.filterMap_eq_nil_iff]
        intro o ho
        rw [Option.map_eq_none_iff, ← Option.not_isSome_iff_eq_none]
        exact List.any_eq_false.mp he o ho
      rw [List.filter_cons_of_neg (by simp [he]), List.flatMap_cons, hnone, ih, List.nil_append]

theorem expand_of_skip (hskip : t.onError = .skip) {sources : Table (List Value)}
    (hs : sources.get? t.source = some records) :
    t.expand sources = t.validate.map fun _ => t.expansion (t.allEvents records) := by
  cases hv : t.validate with
  | error e => exact expand_of_validate_error hv
  | ok u => exact expand_of_no_failure hv hs (failure?_of_skip hskip _)

/-- A template that skips failures gives the same elements, ids and links included, over the records
alone that gave some. -/
theorem expand_emitting_records (t : Template) (sources : Table (List Value))
    (records : List Value) (hskip : t.onError = .skip)
    (hs : sources.get? t.source = some records) :
    (t.expand (sources.put t.source (records.filter t.emits))).map Expansion.elements =
      (t.expand sources).map Expansion.elements ∧
    ∀ out, t.expand sources = .ok out →
      out.elements = (t.emissions records).map Emission.element ∧
      ∀ record ∈ records, t.emits record ↔ ∃ m ∈ t.emissions records, m.origin.record = record := by
  have hs' : (sources.put t.source (records.filter t.emits)).get? t.source =
      some (records.filter t.emits) := by
    simp [Table.get?_put]
  constructor
  · rw [expand_of_skip hskip hs, expand_of_skip hskip hs']
    cases t.validate with
    | error e => rfl
    | ok u =>
      simp only [Except.map]
      rw [elements_expansion, elements_expansion, unlinked, unlinked, drafted_filter_emits]
  · intro out hout
    obtain ⟨_, records', hr, _, rfl⟩ := expand_eq_ok_iff.mp hout
    obtain rfl : records' = records := Option.some.inj (hr.symm.trans hs)
    exact ⟨(map_element_emissions t _).symm, fun record h => emits_iff h⟩

/-- An active person, below another one. -/
def member (name boss : String) : Value :=
  .object [("active", .bool true), ("name", .text name), ("shape", .text ""), ("boss", .text boss)]

/-- One of whom it is not said whether they are active, and one without a name, among others. -/
def visits : List Value :=
  [.object [("name", .text "Cy")], member "" "Ann",
    .object [("active", .bool true), ("boss", .text "Ann")], member "Ann" "", member "Ann" "Ann"]

theorem visits_emitting : ∃ out out', roster.expand [("people", visits)] = .ok out ∧
    roster.expand [("people", visits.filter roster.emits)] = .ok out' ∧
    out'.elements = out.elements ∧
    out.elements.map Element.id = ["r-1", "r-ann", "r-ann-2", "r-ann-ann"] ∧
    (visits.filter roster.emits).length = 3 := by
  have h := (expand_emitting_records roster [("people", visits)] visits rfl rfl).1
  exact ⟨_, _, rfl, rfl, Except.ok.inj h, by decide +kernel, by decide +kernel⟩

end Template

/-! Records behind the others. -/

theorem nodeIds_append (xs ys : List Element) : nodeIds (xs ++ ys) = nodeIds xs ++ nodeIds ys := by
  simp [nodeIds]

/-- With more nodes an end can be tied to another one, but not to none. -/
theorem linkEnd_mem_of_subset {template v : String} {nodes nodes' : List String}
    (hsub : nodes ⊆ nodes') (h : linkEnd template nodes v ∈ nodes) :
    linkEnd template nodes' v ∈ nodes' := by
  by_cases hv : v ∈ nodes'
  · rwa [linkEnd, if_pos hv]
  · have hv' : v ∉ nodes := fun hm => hv (hsub hm)
    rw [linkEnd, if_neg hv'] at h
    by_cases hd : derivedId template v ∈ nodes
    · have hd' := hsub hd
      rwa [linkEnd, if_neg hv, if_pos hd']
    · rw [if_neg hd] at h
      exact absurd h hv'

theorem keptIn_link {template : String} {nodes nodes' : List String} (hsub : nodes ⊆ nodes')
    (e : Element) : Element.KeptIn nodes nodes' { e with body := e.body.link template nodes }
      { e with body := e.body.link template nodes' } := by
  constructor
  · rfl
  · simp [Element.face, content_link]
  · rw [ends_link, ends_link, List.forall₂_map_left_iff, List.forall₂_map_right_iff,
      List.forall₂_same]
    intro v _ h
    exact linkEnd_mem_of_subset hsub h

/-- Linking a longer list of elements keeps those it begins with. -/
theorem keptIn_linkEdges (template : String) (xs ys : List Element) :
    ∃ kept added, linkEdges template (xs ++ ys) = kept ++ added ∧
      List.Forall₂ (Element.KeptIn (nodeIds xs) (nodeIds (xs ++ ys))) (linkEdges template xs)
        kept := by
  unfold linkEdges
  refine ⟨_, _, List.map_append, ?_⟩
  rw [List.forall₂_map_left_iff, List.forall₂_map_right_iff, List.forall₂_same]
  intro e _
  apply keptIn_link
  rw [nodeIds_append]
  exact List.subset_append_left _ _

namespace Template
variable {t : Template}

theorem unlinked_append (t : Template) (records more : List Value) :
    ∃ later, t.unlinked (records ++ more) = t.unlinked records ++ later := by
  have hdrafted : t.drafted (records ++ more) = t.drafted records ++ t.drafted more := by
    simp [drafted]
  rw [unlinked, hdrafted, List.map_append, assignIds_append]
  exact ⟨_, rfl⟩

theorem diagnostics_prefix (t : Template) (records more : List Value) :
    (t.expansion (t.allEvents records)).diagnostics <+:
      (t.expansion (t.allEvents (records ++ more))).diagnostics := by
  simp only [diagnostics_expansion, List.zipIdx_append, List.flatMap_append]
  exact List.prefix_append _ _

/-- Records added behind the others leave the elements and diagnostics of those in their place, with
the same ids; and an end that names a node goes on to name one. -/
theorem expand_more_records (t : Template) (sources : Table (List Value))
    (records more : List Value) (out : Expansion) (hskip : t.onError = .skip)
    (hs : sources.get? t.source = some records) (h : t.expand sources = .ok out) :
    ∃ out' kept added, t.expand (sources.put t.source (records ++ more)) = .ok out' ∧
      out'.elements = kept ++ added ∧
      List.Forall₂ (Element.KeptIn (nodeIds out.elements) (nodeIds out'.elements))
        out.elements kept ∧
      out.diagnostics <+: out'.diagnostics := by
  obtain ⟨hvalid, records', hr, _, rfl⟩ := expand_eq_ok_iff.mp h
  obtain rfl : records' = records := Option.some.inj (hr.symm.trans hs)
  have hs' : (sources.put t.source (records' ++ more)).get? t.source = some (records' ++ more) := by
    simp [Table.get?_put]
  obtain ⟨later, hlater⟩ := unlinked_append t records' more
  obtain ⟨kept, added, hlink, hkept⟩ := keptIn_linkEdges t.id (t.unlinked records') later
  refine ⟨_, kept, added, expand_of_no_failure hvalid hs' (failure?_of_skip hskip _), ?_, ?_,
    diagnostics_prefix t records' more⟩
  · rw [elements_expansion, hlater, hlink]
  · rw [elements_expansion, elements_expansion, nodeIds_linkEdges, nodeIds_linkEdges, hlater]
    exact hkept

theorem roster_with_newcomer : ∃ out out' kept added,
    roster.expand [("people", [member "Ann" "", member "Bo" "Ann"])] = .ok out ∧
    roster.expand [("people", [member "Ann" "", member "Bo" "Ann", member "Ann" "Bo"])] =
      .ok out' ∧
    out'.elements = kept ++ added ∧
    List.Forall₂ (Element.KeptIn (nodeIds out.elements) (nodeIds out'.elements))
      out.elements kept ∧
    out.diagnostics <+: out'.diagnostics ∧
    out.elements.map Element.id = ["r-ann", "r-bo", "r-ann-bo"] ∧
    out'.elements.map Element.id = ["r-ann", "r-bo", "r-ann-bo", "r-ann-2", "r-bo-ann"] := by
  obtain ⟨out', kept, added, hout', h⟩ := expand_more_records roster
    [("people", [member "Ann" "", member "Bo" "Ann"])] [member "Ann" "", member "Bo" "Ann"]
    [member "Ann" "Bo"] _ rfl rfl rfl
  refine ⟨_, out', kept, added, rfl, hout', h.1, h.2.1, h.2.2, by decide +kernel, ?_⟩
  cases hout'
  decide +kernel

end Template

end Cartouche
