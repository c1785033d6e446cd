import Cartouche.Proofs.Lookups
import Cartouche.Proofs.Paths

/-!
What checking a template establishes: every path that an expansion can look up is a proper one. The
texts that are checked are listed blueprint by blueprint, and an expansion reaches no others.
-/
namespace Cartouche
open Decimal Text

/-- A path that has proper steps. -/
def ValidPath (path : String) : Prop :=
  validatePath path = .ok ()

theorem mem_optionalText {name text : String} {o : Option String} (h : text ∈ o) :
    ⟨name, text⟩ ∈ optionalText name o := by
  obtain rfl : o = some text := h
  exact List.mem_singleton_self _

theorem mem_namedTexts {style : Table StyleBinding} {property text : String}
    (h : (property, .literal text) ∈ style) (name : String → String) :
    ⟨name property, text⟩ ∈ namedTexts style name :=
  List.mem_filterMap.mpr ⟨_, h, rfl⟩

namespace Template
variable {t : Template} {e : TemplateError}

theorem checkPath_eq_ok_iff {name path : String} :
    t.checkPath name path = .ok () ↔ ValidPath path := by
  unfold checkPath ValidPath
  cases validatePath path with
  | ok u => exact iff_of_true rfl rfl
  | error cause => simp

theorem path_of_checkPath_eq_error {name path : String} (h : t.checkPath name path = .error e) :
    ∃ cause, e = .path t.id name cause := by
  unfold checkPath at h
  split at h
  · cases h
  · next cause _ =>
    cases h
    exact ⟨cause, rfl⟩

/-- The checks pass when every text has proper paths only, and so has the filter. -/
theorem validate_eq_ok_iff : t.validate = .ok () ↔
    (∀ named ∈ t.texts, TextIn ValidPath named.text) ∧ ∀ f ∈ t.filter, ValidPath f.path := by
  rw [validate, bind_eq_ok_iff]
  constructor
  · rintro ⟨_, htexts, hfilter⟩
    constructor
    · intro named hn path hp
      exact checkPath_eq_ok_iff.mp (forM_eq_ok_iff.mp (forM_eq_ok_iff.mp htexts named hn) path hp)
    · intro f hf
      rw [Option.mem_def] at hf
      rw [hf] at hfilter
      exact checkPath_eq_ok_iff.mp hfilter
  · rintro ⟨htexts, hfilter⟩
    refine ⟨(), forM_eq_ok_iff.mpr ?_, ?_⟩
    · intro named hn
      exact forM_eq_ok_iff.mpr fun path hp => checkPath_eq_ok_iff.mpr (htexts named hn path hp)
    · cases hf : t.filter with
      | none => rfl
      | some f => exact checkPath_eq_ok_iff.mpr (hfilter f hf)

/-- The check refuses a template for a path, and for nothing else. -/
theorem path_of_validate_eq_error (h : t.validate = .error e) :
    ∃ name cause, e = .path t.id name cause := by
  unfold validate at h
  cases htexts : t.texts.forM fun named =>
      (tokenPaths named.text).forM (t.checkPath named.name) with
  | error e' =>
    rw [htexts, error_bind] at h
    cases h
    obtain ⟨named, _, hn⟩ := exists_mem_of_forM_eq_error htexts
    obtain ⟨path, _, hp⟩ := exists_mem_of_forM_eq_error hn
    exact ⟨named.name, path_of_checkPath_eq_error hp⟩
  | ok u =>
    rw [htexts, ok_bind] at h
    split at h
    · exact ⟨"filter", path_of_checkPath_eq_error h⟩
    · cases h

theorem mem_texts_of_node {b : NodeBlueprint} (hb : b ∈ t.nodes) :
    ∃ i, ∀ named ∈ b.texts i, named ∈ t.texts := by
  obtain ⟨i, hi⟩ := List.getElem?_of_mem hb
  refine ⟨i, fun named hn => List.mem_append_left _ ?_⟩
  exact List.mem_flatMap.mpr ⟨(b, i), List.mem_zipIdx_iff_getElem?.mpr hi, hn⟩

theorem mem_texts_of_edge {b : EdgeBlueprint} (hb : b ∈ t.edges) :
    ∃ i, ∀ named ∈ b.texts i, named ∈ t.texts := by
  obtain ⟨i, hi⟩ := List.getElem?_of_mem hb
  refine ⟨i, fun named hn => List.mem_append_right _ ?_⟩
  exact List.mem_flatMap.mpr ⟨(b, i), List.mem_zipIdx_iff_getElem?.mpr hi, hn⟩

theorem mem_mappings {style : Table StyleBinding}
    (hs : style ∈ t.nodes.map NodeBlueprint.style ++ t.edges.map EdgeBlueprint.style)
    {property : String} {m : StyleMapping} (h : (property, .mapped m) ∈ style) :
    m ∈ t.mappings :=
  List.mem_flatMap.mpr ⟨style, hs, List.mem_filterMap.mpr ⟨_, h, rfl⟩⟩

/-- Literal texts of a style are checked with the template, fields when a mapping is made. -/
theorem style_in {style : Table StyleBinding} {name : String → String}
    (htexts : ∀ named ∈ namedTexts style name, TextIn ValidPath named.text)
    (hfields : ∀ property m, (property, StyleBinding.mapped m) ∈ style → ValidPath m.field) :
    ∀ entry ∈ style, entry.2.In ValidPath := by
  rintro ⟨property, binding⟩ he
  cases binding with
  | literal text => exact htexts _ (mem_namedTexts he name)
  | constant value => trivial
  | mapped m => exact hfields property m he

theorem node_in {b : NodeBlueprint} {i : Nat}
    (htexts : ∀ named ∈ b.texts i, TextIn ValidPath named.text)
    (hfields : ∀ property m, (property, StyleBinding.mapped m) ∈ b.style → ValidPath m.field) :
    b.In ValidPath := by
  simp only [NodeBlueprint.texts, List.mem_append, List.mem_singleton] at htexts
  constructor
  · intro text ht
    exact htexts ⟨_, text⟩ (Or.inl (Or.inl (Or.inl (Or.inl (mem_optionalText ht)))))
  · exact htexts ⟨_, b.label⟩ (Or.inl (Or.inl (Or.inl (Or.inr rfl))))
  · intro text ht
    exact htexts ⟨_, text⟩ (Or.inl (Or.inl (Or.inr (mem_optionalText ht))))
  · intro text ht
    exact htexts ⟨_, text⟩ (Or.inl (Or.inr (mem_optionalText ht)))
  · exact style_in (fun named hn => htexts named (Or.inr hn)) hfields

theorem edge_in {b : EdgeBlueprint} {i : Nat}
    (htexts : ∀ named ∈ b.texts i, TextIn ValidPath named.text)
    (hfields : ∀ property m, (property, StyleBinding.mapped m) ∈ b.style → ValidPath m.field) :
    b.In ValidPath := by
  simp only [EdgeBlueprint.texts, List.mem_append, List.mem_cons, List.not_mem_nil,
    or_false] at htexts
  constructor
  · intro text ht
    exact htexts ⟨_, text⟩ (Or.inl (Or.inl (Or.inl (Or.inl (mem_optionalText ht)))))
  · exact htexts ⟨_, b.source⟩ (Or.inl (Or.inl (Or.inl (Or.inr (Or.inl rfl)))))
  · exact htexts ⟨_, b.target⟩ (Or.inl (Or.inl (Or.inl (Or.inr (Or.inr rfl)))))
  · intro text ht
    exact htexts ⟨_, text⟩ (Or.inl (Or.inl (Or.inr (mem_optionalText ht))))
  · intro text ht
    exact htexts ⟨_, text⟩ (Or.inl (Or.inr (mem_optionalText ht)))
  · exact style_in (fun named hn => htexts named (Or.inr hn)) hfields

/-- A template that was checked, and whose mappings were, looks up proper paths only. -/
theorem in_validPath (hv : t.validate = .ok ()) (hm : ∀ m ∈ t.mappings, ValidPath m.field) :
    t.In ValidPath := by
  obtain ⟨htexts, hfilter⟩ := validate_eq_ok_iff.mp hv
  constructor
  · intro b hb
    obtain ⟨i, hi⟩ := mem_texts_of_node hb
    apply node_in fun named hn => htexts named (hi named hn)
    intro property m he
    exact hm m (mem_mappings (List.mem_append_left _ (List.mem_map_of_mem hb)) he)
  · intro b hb
    obtain ⟨i, hi⟩ := mem_texts_of_edge hb
    apply edge_in fun named hn => htexts named (hi named hn)
    intro property m he
    exact hm m (mem_mappings (List.mem_append_right _ (List.mem_map_of_mem hb)) he)
  · exact hfilter

end Template

end Cartouche
