import Cartouche.Proofs.Linking
import Mathlib.Data.List.Forall2

/-!
What linking does to a list of elements, whatever their ids: every end is settled by the ids of the
nodes in the whole list alone, so that neither the order of the elements nor the ids of edges count,
and an end that has been settled once stays as it is.
-/
namespace Cartouche
open Text

/-- What an end becomes: itself, if it names a node; else the id derived from it, if that names
one; and else itself, as it may name something outside. -/
inductive EndLinked (template : String) (elements : List Element) (v : String) : String → Prop
  | named (h : IsNodeId elements v) : EndLinked template elements v v
  | derived (h : ¬ IsNodeId elements v) (hd : IsNodeId elements (derivedId template v)) :
      EndLinked template elements v (derivedId template v)
  | external (h : ¬ IsNodeId elements v) (hd : ¬ IsNodeId elements (derivedId template v)) :
      EndLinked template elements v v

/-- Of an edge only the ends change, and of a node nothing does. -/
inductive BodyLinked (template : String) (elements : List Element) : Body → Body → Prop
  | node (label : String) (subtitle : Option String) (shape : NodeShape) :
      BodyLinked template elements (.node label subtitle shape) (.node label subtitle shape)
  | edge {source target source' target' : String} (label : Option String) (kind : EdgeKind)
      (hs : EndLinked template elements source source')
      (ht : EndLinked template elements target target') :
      BodyLinked template elements (.edge source target label kind)
        (.edge source' target' label kind)

structure Element.Linked (template : String) (elements : List Element) (e e' : Element) : Prop where
  id : e'.id = e.id
  body : BodyLinked template elements e.body e'.body
  style : e'.style = e.style
  template : e'.template = e.template

/-- Gives an edge another id, and leaves a node its own. -/
def Element.renameEdge (rename : String → String) (e : Element) : Element :=
  if e.isNode then e else { e with id := rename e.id }

variable {template : String} {elements other : List Element} {v w w' : String}

theorem endLinked_linkEnd (template : String) (elements : List Element) (v : String) :
    EndLinked template elements v (linkEnd template (nodeIds elements) v) := by
  unfold linkEnd
  by_cases hv : v ∈ nodeIds elements
  · rw [if_pos hv]
    exact .named (mem_nodeIds_iff.mp hv)
  · have hv' : ¬ IsNodeId elements v := fun h => hv (mem_nodeIds_iff.mpr h)
    rw [if_neg hv]
    by_cases hd : derivedId template v ∈ nodeIds elements
    · rw [if_pos hd]
      exact .derived hv' (mem_nodeIds_iff.mp hd)
    · rw [if_neg hd]
      exact .external hv' fun h => hd (mem_nodeIds_iff.mpr h)

/-- The three cases exclude one another. -/
theorem EndLinked.unique (h : EndLinked template elements v w)
    (h' : EndLinked template elements v w') : w = w' := by
  cases h <;> cases h' <;> first | rfl | contradiction

/-- An end that has been linked names a node, or still names none by any of its two ids. -/
theorem EndLinked.again (h : EndLinked template elements v w) :
    EndLinked template elements w w := by
  cases h with
  | named h => exact .named h
  | derived _ hd => exact .named hd
  | external h hd => exact .external h hd

theorem BodyLinked.unique {body body₁ body₂ : Body} (h₁ : BodyLinked template elements body body₁)
    (h₂ : BodyLinked template elements body body₂) : body₁ = body₂ := by
  cases h₁ with
  | node =>
    cases h₂
    rfl
  | edge label kind hs ht =>
    cases h₂ with
    | edge _ _ hs' ht' => rw [hs.unique hs', ht.unique ht']

theorem Element.Linked.unique {e e₁ e₂ : Element} (h₁ : e.Linked template elements e₁)
    (h₂ : e.Linked template elements e₂) : e₁ = e₂ := by
  obtain ⟨id₁, body₁, style₁, template₁⟩ := e₁
  obtain ⟨id₂, body₂, style₂, template₂⟩ := e₂
  obtain rfl : id₁ = id₂ := h₁.id.trans h₂.id.symm
  obtain rfl : body₁ = body₂ := h₁.body.unique h₂.body
  obtain rfl : style₁ = style₂ := h₁.style.trans h₂.style.symm
  obtain rfl : template₁ = template₂ := h₁.template.trans h₂.template.symm
  rfl

theorem linked_linkEdges (template : String) (elements : List Element) :
    List.Forall₂ (Element.Linked template elements) elements (linkEdges template elements) := by
  rw [linkEdges, List.forall₂_map_right_iff, List.forall₂_same]
  intro e _
  refine ⟨rfl, ?_, rfl, rfl⟩
  cases hb : e.body with
  | node label subtitle shape => exact .node label subtitle shape
  | edge source target label kind =>
    exact .edge label kind (endLinked_linkEnd _ _ _) (endLinked_linkEnd _ _ _)

theorem forall₂_linked_iff {out : List Element} :
    List.Forall₂ (Element.Linked template elements) elements out ↔
      out = linkEdges template elements := by
  constructor
  · intro h
    have hunique : Relator.RightUnique (Element.Linked template elements) :=
      fun _ _ _ => Element.Linked.unique
    exact hunique.forall₂ h (linked_linkEdges template elements)
  · rintro rfl
    exact linked_linkEdges template elements

/-- Of the elements around it only the ids of the nodes count for an end. -/
theorem linkEnd_congr (h : ∀ id, IsNodeId elements id ↔ IsNodeId other id) (template v : String) :
    linkEnd template (nodeIds elements) v = linkEnd template (nodeIds other) v := by
  have hmem : ∀ id, id ∈ nodeIds elements ↔ id ∈ nodeIds other := by
    simpa only [mem_nodeIds_iff] using h
  simp only [linkEnd, hmem]

theorem linkEnd_linkEnd (template : String) (elements : List Element) (v : String) :
    linkEnd template (nodeIds elements) (linkEnd template (nodeIds elements) v) =
      linkEnd template (nodeIds elements) v :=
  (endLinked_linkEnd _ _ _).unique (endLinked_linkEnd _ _ _).again

theorem link_congr (h : ∀ id, IsNodeId elements id ↔ IsNodeId other id) (template : String)
    (body : Body) :
    body.link template (nodeIds elements) = body.link template (nodeIds other) := by
  cases body with
  | node => rfl
  | edge => simp only [Body.link, linkEnd_congr h]

theorem linkEdges_linkEdges (template : String) (elements : List Element) :
    linkEdges template (linkEdges template elements) = linkEdges template elements := by
  have hbody : ∀ body : Body, (body.link template (nodeIds elements)).link template
      (nodeIds elements) = body.link template (nodeIds elements) := by
    intro body
    cases body with
    | node => rfl
    | edge => simp only [Body.link, linkEnd_linkEnd]
  rw [linkEdges, nodeIds_linkEdges]
  simp only [linkEdges, List.map_map, Function.comp_def, hbody]

theorem isNode_renameEdge (rename : String → String) (e : Element) :
    (e.renameEdge rename).isNode = e.isNode := by
  unfold Element.renameEdge
  split <;> rfl

theorem renameEdge_of_isNode (rename : String → String) {e : Element} (h : e.isNode) :
    e.renameEdge rename = e :=
  if_pos h

theorem isNodeId_map_renameEdge (rename : String → String) (elements : List Element) (id : String) :
    IsNodeId (elements.map (Element.renameEdge rename)) id ↔ IsNodeId elements id := by
  unfold IsNodeId
  constructor
  · rintro ⟨_, hmem, hn, hid⟩
    obtain ⟨e, he, rfl⟩ := List.mem_map.mp hmem
    rw [isNode_renameEdge] at hn
    rw [renameEdge_of_isNode rename hn] at hid
    exact ⟨e, he, hn, hid⟩
  · rintro ⟨e, he, hn, hid⟩
    refine ⟨e, List.mem_map.mpr ⟨e, he, ?_⟩, hn, hid⟩
    exact renameEdge_of_isNode rename hn

theorem linkEdges_map_renameEdge (template : String) (rename : String → String)
    (elements : List Element) :
    linkEdges template (elements.map (Element.renameEdge rename)) =
      (linkEdges template elements).map (Element.renameEdge rename) := by
  simp only [linkEdges, List.map_map, Function.comp_def,
    link_congr (isNodeId_map_renameEdge rename elements)]
  apply List.map_congr_left
  rintro ⟨id, body, style, from_⟩ _
  cases body <;> rfl

/-- Each element keeps its own outcome where the elements are put into another order. -/
theorem zip_linkEdges_perm (template : String) (h : elements.Perm other) :
    (elements.zip (linkEdges template elements)).Perm (other.zip (linkEdges template other)) := by
  have hids : ∀ id, IsNodeId elements id ↔ IsNodeId other id := by
    intro id
    simp only [IsNodeId, h.mem_iff]
  simp only [linkEdges, link_congr hids, ← List.map_prod_left_eq_zip]
  exact h.map _

/-- Linking settles every element as it should be settled, and in no other way. The ids of edges
have no part in it, nor has the order of the elements, and a second time it changes nothing. -/
theorem linkEdges_settles (template : String) (elements : List Element) :
    (∀ out, List.Forall₂ (Element.Linked template elements) elements out ↔
      out = linkEdges template elements) ∧
    (∀ rename : String → String, linkEdges template (elements.map (Element.renameEdge rename)) =
      (linkEdges template elements).map (Element.renameEdge rename)) ∧
    (∀ other, elements.Perm other → (elements.zip (linkEdges template elements)).Perm
      (other.zip (linkEdges template other))) ∧
    linkEdges template (linkEdges template elements) = linkEdges template elements :=
  ⟨fun _ => forall₂_linked_iff, fun rename => linkEdges_map_renameEdge template rename elements,
    fun _ => zip_linkEdges_perm template, linkEdges_linkEdges template elements⟩

/-- A node between two edges, the first of which has the id that one of its own ends could be taken
for. -/
def figures : List Element := [
  ⟨"t-bo", .edge "Ann" "Bo" none .solid, [], "t"⟩,
  ⟨"t-ann", .node "Ann" none .circle, [], "t"⟩,
  ⟨"t-1", .edge "t-ann" "***" none .solid, [], "t"⟩]

theorem figures_settled : List.Forall₂ (Element.Linked "t" figures) figures
      (linkEdges "t" figures) ∧
    (linkEdges "t" figures).map (fun e => e.body.ends) =
      [["t-ann", "Bo"], [], ["t-ann", "***"]] ∧
    (figures.zip (linkEdges "t" figures)).Perm
      (figures.reverse.zip (linkEdges "t" figures.reverse)) := by
  obtain ⟨hlinked, _, hperm, _⟩ := linkEdges_settles "t" figures
  exact ⟨(hlinked _).mpr rfl, by decide +kernel, hperm _ (List.reverse_perm figures).symm⟩

end Cartouche
