import Cartouche.Proofs.Compiled

/-!
Legends that are asked for a style binding as it is written. Mappings keep the property as it is
written and trim the field; a legend trims both. So a further legend finds the first of the written
bindings with its property and field unless blanks stand around the property.
-/
namespace Cartouche
open Text

/-- The first binding of a property to a field, blanks around the field making no difference. -/
def DocumentDecl.binding? (d : DocumentDecl) (property field : String) : Option Binding :=
  d.bindings.find? fun b => b.property == property && trimmed b.decl.field == trimmed field

variable {palette : Palette}

/-- Mappings keep the property and trim the field. -/
theorem Makes.property_field {b : Binding} {m : StyleMapping} (h : Makes palette b m) :
    m.property = b.property ∧ m.field = trimmed b.decl.field := by
  obtain ⟨hproperty, hfield⟩ := parts_of_mapping h
  exact ⟨hproperty, checkField_eq_ok hfield⟩

/-- The mapping that is found for a property and a trimmed field is made of the first binding. -/
theorem findMapping_related {decl : DocumentDecl} {doc : Document}
    (h : decl.compile palette = .ok doc) (property field : String) :
    Option.Rel (Makes palette) (decl.binding? property field)
      (findMapping doc.templates property (trimmed field)) := by
  refine find?_related (Document.makes_mappings h) fun b m hm => ?_
  rw [hm.property_field.1, hm.property_field.2]

/-! Both searches are for the property as it is asked for. -/

theorem property_of_findMapping {templates : List Template} {property field : String}
    {m : StyleMapping} (h : findMapping templates property field = some m) :
    m.property = property := by
  have hfound := List.find?_some h
  simp only [Bool.and_eq_true, beq_iff_eq] at hfound
  exact hfound.1

theorem DocumentDecl.property_of_binding? {d : DocumentDecl} {property field : String} {b : Binding}
    (h : d.binding? property field = some b) : b.property = property := by
  have hfound := List.find?_some h
  simp only [Bool.and_eq_true, beq_iff_eq] at hfound
  exact hfound.1

/-! A further legend. -/

variable {decl : DocumentDecl} {doc : Document} {b : Binding} {extra : LegendDecl}
  {before after : List LegendDecl} {request : LegendRequest} {templates : List Template}

theorem bind_eq_ok_iff_of_no_position (hposition : extra.position = none) :
    extra.bind templates = .ok request ↔
      findMapping templates (trimmed extra.property) (trimmed extra.field) =
          some request.mapping ∧
        request.options = ⟨extra.steps, none, extra.title, extra.width, extra.height⟩ := by
  unfold LegendDecl.bind
  dsimp only
  rw [hposition]
  split
  · next hnone =>
    rw [hnone]
    exact iff_of_false nofun nofun
  · next m hsome =>
    rw [hsome]
    constructor
    · intro h
      cases h
      exact ⟨rfl, rfl⟩
    · rintro ⟨hmapping, hoptions⟩
      obtain ⟨mapping, options⟩ := request
      cases hmapping
      cases hoptions
      rfl

/-- Legends are bound one by one, so a further one leaves the others at their places. -/
theorem mapM_insert_iff {ε α β : Type} {f : α → Except ε β} {xs zs : List α} {x : α} {ys : List β}
    {y : β} (h : (xs ++ zs).mapM f = .ok ys) :
    (xs ++ x :: zs).mapM f = .ok (ys.take xs.length ++ y :: ys.drop xs.length) ↔ f x = .ok y := by
  have hrelated := (mapM_eq_ok_iff.mp h).flip
  have hbefore := List.forall₂_take_append ys xs zs hrelated
  have hafter := List.forall₂_drop_append ys xs zs hrelated
  rw [mapM_eq_ok_iff]
  constructor
  · intro hall
    have hdrop := List.forall₂_drop_append _ xs (x :: zs) hall.flip
    rw [List.drop_left' hbefore.length_eq] at hdrop
    cases hdrop with
    | cons hx _ => exact hx
  · intro hx
    exact List.rel_append hbefore.flip (.cons hx hafter.flip)

theorem compile_insert_iff (h : decl.compile palette = .ok doc)
    (hlegends : decl.legends = before ++ after) :
    { decl with legends := before ++ extra :: after }.compile palette = .ok
        { doc with legends :=
          doc.legends.take before.length ++ request :: doc.legends.drop before.length } ↔
      extra.bind doc.templates = .ok request := by
  obtain ⟨hsources, htemplates, hbound⟩ := Document.compile_eq_ok_iff.mp h
  rw [hlegends] at hbound
  rw [Document.compile_eq_ok_iff]
  dsimp only
  rw [mapM_insert_iff hbound]
  simp only [hsources, htemplates, true_and]

/-- A further legend for the property and the field of a written binding is bound to the first such
binding, and the others stay as they are, if and only if no blanks stand around the property. -/
theorem further_legend_bound_iff (h : decl.compile palette = .ok doc) (hb : b ∈ decl.bindings)
    (hlegends : decl.legends = before ++ after) (hproperty : extra.property = b.property)
    (hfield : extra.field = b.decl.field) (hposition : extra.position = none) :
    (∃ first request, decl.binding? b.property b.decl.field = some first ∧
      Makes palette first request.mapping ∧
      { decl with legends := before ++ extra :: after }.compile palette = .ok
        { doc with legends :=
          doc.legends.take before.length ++ request :: doc.legends.drop before.length }) ↔
    trimmed b.property = b.property := by
  have hrelated := findMapping_related h b.property b.decl.field
  simp only [compile_insert_iff h hlegends, bind_eq_ok_iff_of_no_position hposition, hproperty,
    hfield]
  constructor
  · rintro ⟨first, request, hfirst, hmakes, hfound, -⟩
    calc trimmed b.property = request.mapping.property := (property_of_findMapping hfound).symm
      _ = first.property := hmakes.property_field.1
      _ = b.property := DocumentDecl.property_of_binding? hfirst
  · intro hp
    rw [hp]
    cases hfirst : decl.binding? b.property b.decl.field with
    | none =>
      have hnone := List.find?_eq_none.mp hfirst b hb
      simp at hnone
    | some first =>
      rw [hfirst] at hrelated
      cases hfound : findMapping doc.templates b.property (trimmed b.decl.field) with
      | none =>
        rw [hfound] at hrelated
        cases hrelated
      | some m =>
        rw [hfound] at hrelated
        cases hrelated with
        | some hmakes => exact ⟨first, ⟨m, _⟩, rfl, hmakes, rfl, rfl⟩

/-- Houses filled by kind, under a property as it is written. -/
def village (property : String) : DocumentDecl where
  sources := .named [("houses", [.object [("kind", .text "hub")]])]
  templates := [⟨"t", "houses", none, true, none, .skip, [⟨none, "${kind}", none, none,
    [(property,
      .mapping (.category ⟨"kind", .table [("hub", some (.text "black"))], none, true⟩))]⟩],
    []⟩]
  legends := []

def houseKinds (property : String) : Binding :=
  ⟨property, .category ⟨"kind", .table [("hub", some (.text "black"))], none, true⟩⟩

def kindLegend (property : String) : LegendDecl :=
  ⟨property, "kind", none, none, none, none, none⟩

theorem village_binds_legend : ∃ doc, (village "fill").compile .tableau = .ok doc ∧
    houseKinds "fill" ∈ (village "fill").bindings ∧
    ∃ first request, (village "fill").binding? "fill" "kind" = some first ∧
      Makes .tableau first request.mapping ∧
      { village "fill" with legends := [kindLegend "fill"] }.compile .tableau =
        .ok { doc with legends := request :: doc.legends } := by
  obtain ⟨doc, hdoc⟩ : ∃ doc, (village "fill").compile .tableau = .ok doc := ⟨_, rfl⟩
  have hb : houseKinds "fill" ∈ (village "fill").bindings := List.mem_cons_self
  have hlegends : (village "fill").legends = [] ++ [] := rfl
  exact ⟨doc, hdoc, hb, (further_legend_bound_iff hdoc hb hlegends rfl rfl rfl).mpr rfl⟩

/-- The legend asks for the property without the blank, which no mapping has. -/
theorem padded_village_refuses_legend : (∃ doc, (village " fill").compile .tableau = .ok doc) ∧
    houseKinds " fill" ∈ (village " fill").bindings ∧
    { village " fill" with legends := [kindLegend " fill"] }.compile .tableau =
      .error (.unknownLegendMapping "fill" "kind") :=
  ⟨⟨_, rfl⟩, List.mem_cons_self, rfl⟩

end Cartouche
