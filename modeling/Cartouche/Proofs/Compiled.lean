import Cartouche.Diagram
import Cartouche.Proofs.Diagnostics
import Cartouche.Proofs.Ids
import Cartouche.Proofs.Mappings
import Cartouche.Proofs.Validation

/-!
Documents that compile hold checked templates only: their expansion can fail for a source that is
not declared, or for a record where lookups are strict and failures abort, and for nothing else.
-/
namespace Cartouche
open Decimal Text

theorem validPath_of_checkField {field checked : String} (h : checkField field = .ok checked) :
    ValidPath checked := by
  unfold checkField at h
  dsimp only at h
  split at h
  · cases h
  · split at h
    · next hv =>
      cases h
      exact hv
    · cases h

/-- The path of the record's field, as it is written. -/
def MappingDecl.field : MappingDecl → String
  | .category d => d.field
  | .scale d => d.field
  | .threshold d => d.field

/-- A mapping has the property that it is made for and the checked field, of whatever kind it is. -/
theorem parts_of_mapping {palette : Palette} {property : String} {decl : MappingDecl}
    {m : StyleMapping} (h : decl.compile palette property = .ok m) :
    m.property = property ∧ checkField decl.field = .ok m.field := by
  unfold MappingDecl.compile at h
  cases decl with
  | category d =>
    obtain ⟨c, hc, rfl⟩ := map_eq_ok_iff.mp h
    obtain ⟨checked, hfield, rfl⟩ := CategoryMapping.make_eq_ok_iff.mp hc
    exact ⟨rfl, hfield⟩
  | scale d =>
    dsimp only at h
    split at h
    · cases h
    · obtain ⟨s, hs, rfl⟩ := map_eq_ok_iff.mp h
      obtain ⟨checked, hfield, -, -, -, rfl⟩ := ScaleMapping.make_eq_ok_iff.mp hs
      exact ⟨rfl, hfield⟩
  | threshold d =>
    obtain ⟨s, hs, rfl⟩ := map_eq_ok_iff.mp h
    obtain ⟨checked, hfield, -, -, rfl⟩ := ThresholdMapping.make_eq_ok_iff.mp hs
    exact ⟨rfl, hfield⟩

theorem validPath_of_mapping {palette : Palette} {property : String} {decl : MappingDecl}
    {m : StyleMapping} (h : decl.compile palette property = .ok m) : ValidPath m.field :=
  validPath_of_checkField (parts_of_mapping h).2

/-! The written bindings, in the order in which mappings are searched, and the mappings that are
made of them one by one. -/

def StyleDecl.mapping? : StyleDecl → Option MappingDecl
  | .literal _ => none
  | .mapping decl => some decl

/-- A mapping as it is written, under its property. -/
structure Binding where
  property : String
  decl : MappingDecl

def styleBindings (style : Table StyleDecl) : List Binding :=
  style.filterMap fun (property, decl) => decl.mapping?.map (⟨property, ·⟩)

def TemplateDecl.bindings (d : TemplateDecl) : List Binding :=
  (d.nodes.map NodeDecl.style ++ d.edges.map EdgeDecl.style).flatMap styleBindings

def DocumentDecl.bindings (d : DocumentDecl) : List Binding :=
  d.templates.flatMap TemplateDecl.bindings

/-- A mapping is made of a binding. -/
def Makes (palette : Palette) (b : Binding) (m : StyleMapping) : Prop :=
  b.decl.compile palette b.property = .ok m

theorem makes_styleBindings {palette : Palette} {template : String} {decls : Table StyleDecl}
    {style : Table StyleBinding} (h : compileStyle palette template decls = .ok style) :
    List.Forall₂ (Makes palette) (styleBindings decls)
      (style.filterMap fun (_, binding) => binding.mapping?) := by
  refine List.rel_filterMap ?_ (mapM_eq_ok_iff.mp h)
  rintro ⟨property, decl⟩ ⟨name, binding⟩ h
  obtain ⟨made, hmade, h⟩ := bind_eq_ok_iff.mp h
  cases h
  unfold StyleDecl.compile at hmade
  split at hmade
  · cases hmade
    exact .none
  · cases hmade
    exact .none
  · split at hmade
    · next hm =>
      cases hmade
      exact .some hm
    · cases hmade

/-- The blueprints of a template are made of the written ones, one by one. -/
theorem styles_of_compile {palette : Palette} {decl : TemplateDecl} {t : Template}
    (h : decl.compile palette = .ok t) :
    List.Forall₂ (fun n b => compileStyle palette decl.id n.style = .ok b.style)
        decl.nodes t.nodes ∧
      List.Forall₂ (fun e b => compileStyle palette decl.id e.style = .ok b.style)
        decl.edges t.edges := by
  obtain ⟨filter, -, h⟩ := bind_eq_ok_iff.mp h
  obtain ⟨nodes, hnodes, h⟩ := bind_eq_ok_iff.mp h
  obtain ⟨edges, hedges, h⟩ := bind_eq_ok_iff.mp h
  obtain ⟨-, -, h⟩ := bind_eq_ok_iff.mp h
  cases h
  constructor
  · refine (mapM_eq_ok_iff.mp hnodes).imp ?_
    intro n b hb
    obtain ⟨style, hs, hb⟩ := bind_eq_ok_iff.mp hb
    cases hb
    exact hs
  · refine (mapM_eq_ok_iff.mp hedges).imp ?_
    intro n b hb
    obtain ⟨style, hs, hb⟩ := bind_eq_ok_iff.mp hb
    cases hb
    exact hs

theorem makes_bindings {palette : Palette} {decl : TemplateDecl} {t : Template}
    (h : decl.compile palette = .ok t) : List.Forall₂ (Makes palette) decl.bindings t.mappings := by
  obtain ⟨hnodes, hedges⟩ := styles_of_compile h
  have hnodes : List.Forall₂ (fun d s => compileStyle palette decl.id d = .ok s)
      (decl.nodes.map NodeDecl.style) (t.nodes.map NodeBlueprint.style) :=
    List.forall₂_map_left_iff.mpr (List.forall₂_map_right_iff.mpr hnodes)
  have hedges : List.Forall₂ (fun d s => compileStyle palette decl.id d = .ok s)
      (decl.edges.map EdgeDecl.style) (t.edges.map EdgeBlueprint.style) :=
    List.forall₂_map_left_iff.mpr (List.forall₂_map_right_iff.mpr hedges)
  exact List.rel_flatMap (List.rel_append hnodes hedges) fun _ _ => makes_styleBindings

namespace Template
variable {t : Template}

/-- Compiling a template checks all of it. -/
theorem checked_of_compile {palette : Palette} {decl : TemplateDecl}
    (h : decl.compile palette = .ok t) :
    t.validate = .ok () ∧ ∀ m ∈ t.mappings, ValidPath m.field := by
  constructor
  · obtain ⟨filter, _, h⟩ := bind_eq_ok_iff.mp h
    obtain ⟨nodes, _, h⟩ := bind_eq_ok_iff.mp h
    obtain ⟨edges, _, h⟩ := bind_eq_ok_iff.mp h
    obtain ⟨_, hv, h⟩ := bind_eq_ok_iff.mp h
    cases h
    exact hv
  · intro m hm
    obtain ⟨b, -, hb⟩ := exists_related_right (makes_bindings h) hm
    exact validPath_of_mapping hb

variable {sources : Table (List Value)} {records : List Value} {out : Expansion} {e : TemplateError}

/-- In a checked template only strict lookups fail, and never for their path. -/
theorem failure_of_mem_allEvents (ht : t.In ValidPath) {i : Nat} {f : Failure}
    (h : (i, .failure f) ∈ t.allEvents records) :
    ¬ f.cause.IsMalformed ∧ t.lookup.safe = false := by
  obtain ⟨record, _, hf⟩ := mem_allEvents.mp h
  have hfollow : LookupsFollow (fun e => ¬ e.IsMalformed ∧ t.lookup.safe = false) ValidPath
      t.lookup t.lookup :=
    fun path record hp => follows_evaluatePath_of_valid hp record t.lookup
  exact (events_follow (p := .skip) hfollow ht record).failure f hf

/-- How a checked template can fail. -/
theorem expand_error_of_checked (hv : t.validate = .ok ()) (ht : t.In ValidPath)
    (h : t.expand sources = .error e) :
    (sources.get? t.source = none ∧ e = .missingSource t.id t.source) ∨
      ∃ i property cause, e = .record t.id i property cause ∧ ¬ cause.IsMalformed ∧
        t.lookup.safe = false ∧ t.onError = .abort := by
  rcases expand_eq_error_iff.mp h with hve | ⟨_, ⟨hs, he⟩ | ⟨records, _, hf⟩⟩
  · rw [hv] at hve
    cases hve
  · exact Or.inl ⟨hs, he.symm⟩
  · obtain ⟨hp, i, f, hm, he⟩ := mem_of_failure?_eq_some hf
    obtain ⟨hcause, hstrict⟩ := failure_of_mem_allEvents ht hm
    exact Or.inr ⟨i, f.property, f.cause, he.symm, hcause, hstrict, hp⟩

/-- What the diagnostics of a checked template are. -/
theorem diagnostic_of_checked (ht : t.In ValidPath) {d : Diagnostic}
    (h : d ∈ (t.expansion (t.allEvents records)).diagnostics) :
    d.IsNote ∨ ∃ cause : PathError, d.message = cause.message ∧ ¬ cause.IsMalformed ∧
      t.lookup.safe = false := by
  obtain ⟨⟨i, event⟩, hm, hd⟩ := List.mem_filterMap.mp h
  obtain ⟨record, _, he⟩ := mem_allEvents.mp hm
  rcases isNote_or_failure he hd with hn | ⟨f, rfl, hf⟩
  · exact Or.inl hn
  · exact Or.inr ⟨f.cause, hf, failure_of_mem_allEvents ht hm⟩

/-- With safe lookups and a source a checked template expands, and has notes at most. -/
theorem expand_of_safe (hv : t.validate = .ok ()) (ht : t.In ValidPath) (hl : t.lookup.safe)
    (hs : sources.get? t.source = some records) :
    ∃ out, t.expand sources = .ok out ∧ ∀ d ∈ out.diagnostics, d.IsNote := by
  have hnone : t.failure? (t.allEvents records) = none := by
    cases hf : t.failure? (t.allEvents records) with
    | none => rfl
    | some e =>
      obtain ⟨_, i, f, hm, _⟩ := mem_of_failure?_eq_some hf
      have hstrict := (failure_of_mem_allEvents ht hm).2
      rw [hl] at hstrict
      cases hstrict
  refine ⟨_, expand_of_no_failure hv hs hnone, ?_⟩
  intro d hd
  rcases diagnostic_of_checked ht hd with hn | ⟨_, _, _, hstrict⟩
  · exact hn
  · rw [hl] at hstrict
    cases hstrict

end Template

/-! A document's templates and sources are those of its declaration. -/

theorem compiled_of_compileTemplates {palette : Palette} {made templates : List Template}
    {decls : List TemplateDecl} (h : compileTemplates palette made decls = .ok templates) :
    ∃ added, templates = made ++ added ∧
      List.Forall₂ (fun d t => d.compile palette = .ok t) decls added := by
  induction decls generalizing made with
  | nil =>
    cases h
    exact ⟨[], (List.append_nil _).symm, .nil⟩
  | cons d rest ih =>
    unfold compileTemplates at h
    split at h
    · cases h
    · split at h
      · next t hd =>
        obtain ⟨added, rfl, hrest⟩ := ih h
        exact ⟨t :: added, List.append_assoc _ _ _, .cons hd hrest⟩
      · cases h

/-- The names under which sources are declared. -/
def SourcesDecl.names : SourcesDecl → List String
  | .named sources => sources.map Prod.fst
  | .listed sources => sources.map SourceDecl.name

theorem Table.mem_keys_foldl_put {α : Type} (entries : List (String × α)) (t : Table α)
    (key : String) : key ∈ (entries.foldl (fun t e => t.put e.1 e.2) t).keys ↔
      key ∈ t.keys ∨ key ∈ entries.map Prod.fst := by
  induction entries generalizing t with
  | nil => simp
  | cons e rest ih =>
    rw [List.foldl_cons, ih, Table.mem_keys_put]
    simp only [List.map_cons, List.mem_cons]
    tauto

theorem mem_keys_of_listed {decls : List SourceDecl} {t table : Table (List Value)}
    (h : decls.foldlM (fun t d => if (t.get? d.name).isSome then .error (.duplicateSource d.name)
      else .ok (t.put d.name d.records)) t = (.ok table : Except DocumentError _)) (key : String) :
    key ∈ table.keys ↔ key ∈ t.keys ∨ key ∈ decls.map SourceDecl.name := by
  induction decls generalizing t with
  | nil =>
    cases h
    simp
  | cons d rest ih =>
    rw [List.foldlM_cons] at h
    obtain ⟨t', ht', h⟩ := bind_eq_ok_iff.mp h
    split at ht'
    · cases ht'
    · cases ht'
      rw [ih h, Table.mem_keys_put]
      simp only [List.map_cons, List.mem_cons]
      tauto

/-- A compiled document has the sources that are declared. -/
theorem SourcesDecl.get?_eq_none_iff {decl : SourcesDecl} {table : Table (List Value)}
    (h : decl.compile = .ok table) (name : String) :
    table.get? name = none ↔ name ∉ decl.names := by
  rw [Table.get?_eq_none_iff, not_iff_not]
  cases decl with
  | named sources =>
    cases h
    rw [Table.ofList, Table.mem_keys_foldl_put]
    simp [Table.keys, names]
  | listed sources =>
    rw [mem_keys_of_listed h]
    simp [Table.keys, names]

/-- The diagnostics of all templates are those of one of them. -/
theorem diagnostic_of_expandAll {sources : Table (List Value)} {templates : List Template}
    {out : Expansion} (h : expandAll sources templates = .ok out) {d : Diagnostic}
    (hd : d ∈ out.diagnostics) :
    ∃ t ∈ templates, ∃ own, t.expand sources = .ok own ∧ d ∈ own.diagnostics := by
  induction templates generalizing out with
  | nil =>
    cases h
    cases hd
  | cons t rest ih =>
    obtain ⟨first, hfirst, h⟩ := bind_eq_ok_iff.mp h
    obtain ⟨others, hothers, h⟩ := bind_eq_ok_iff.mp h
    cases h
    rcases List.mem_append.mp hd with hd | hd
    · exact ⟨t, List.mem_cons_self, first, hfirst, hd⟩
    · obtain ⟨t', ht', own, hown, hd⟩ := ih hothers hd
      exact ⟨t', List.mem_cons_of_mem _ ht', own, hown, hd⟩

theorem error_of_expandAll {sources : Table (List Value)} {templates : List Template}
    {e : TemplateError} (h : expandAll sources templates = .error e) :
    ∃ t ∈ templates, t.expand sources = .error e := by
  induction templates with
  | nil => cases h
  | cons t rest ih =>
    unfold expandAll at h
    cases hfirst : t.expand sources with
    | error e' =>
      rw [hfirst, error_bind] at h
      exact ⟨t, List.mem_cons_self, hfirst.trans h⟩
    | ok first =>
      rw [hfirst, ok_bind] at h
      cases hothers : expandAll sources rest with
      | error e' =>
        rw [hothers, error_bind] at h
        obtain ⟨t', ht', he⟩ := ih (hothers.trans h)
        exact ⟨t', List.mem_cons_of_mem _ ht', he⟩
      | ok others =>
        rw [hothers, ok_bind] at h
        cases h

namespace Document
variable {palette : Palette} {decl : DocumentDecl} {doc : Document}

/-- Sources, templates and legends compile one after the other. -/
theorem compile_eq_ok_iff : decl.compile palette = .ok doc ↔
    decl.sources.compile = .ok doc.sources ∧
      compileTemplates palette [] decl.templates = .ok doc.templates ∧
      decl.legends.mapM (LegendDecl.bind doc.templates) = .ok doc.legends := by
  rw [DocumentDecl.compile]
  constructor
  · intro h
    obtain ⟨sources, hs, h⟩ := bind_eq_ok_iff.mp h
    obtain ⟨templates, ht, h⟩ := bind_eq_ok_iff.mp h
    obtain ⟨legends, hl, h⟩ := bind_eq_ok_iff.mp h
    cases h
    exact ⟨hs, ht, hl⟩
  · rintro ⟨hs, ht, hl⟩
    rw [hs, ok_bind, ht, ok_bind, hl]
    rfl

/-- The templates of a document are made of the declared ones, one by one. -/
theorem compiled_templates (h : decl.compile palette = .ok doc) :
    List.Forall₂ (fun d t => d.compile palette = .ok t) decl.templates doc.templates := by
  obtain ⟨added, htemplates, hadded⟩ :=
    compiled_of_compileTemplates (compile_eq_ok_iff.mp h).2.1
  rwa [htemplates, List.nil_append]

theorem makes_mappings (h : decl.compile palette = .ok doc) :
    List.Forall₂ (Makes palette) decl.bindings (doc.templates.flatMap Template.mappings) :=
  List.rel_flatMap (compiled_templates h) fun _ _ => makes_bindings

theorem checked_of_mem (h : decl.compile palette = .ok doc) {t : Template}
    (ht : t ∈ doc.templates) : t.validate = .ok () ∧ t.In ValidPath := by
  obtain ⟨d, -, hd⟩ := exists_related_right (compiled_templates h) ht
  obtain ⟨hv, hm⟩ := Template.checked_of_compile hd
  exact ⟨hv, Template.in_validPath hv hm⟩

/-- What may come of expanding a document with declared sources. -/
structure ExpandsSafely (decl : SourcesDecl) (doc : Document) (metrics : Metrics Float32) :
    Prop where
  /-- It fails for a source that nobody declared or for a record of a strict template that aborts,
  and never for a malformed path. -/
  error : ∀ e, doc.expand metrics = .error e →
    (∃ t ∈ doc.templates, t.source ∉ decl.names ∧ e = .missingSource t.id t.source) ∨
    ∃ t ∈ doc.templates, ∃ i property cause, e = .record t.id i property cause ∧
      ¬ cause.IsMalformed ∧ t.lookup.safe = false ∧ t.onError = .abort
  /-- No diagnostic is about a malformed path either. -/
  diagnostic : ∀ diagram, doc.expand metrics = .ok diagram → ∀ d ∈ diagram.diagnostics,
    ∀ cause : PathError, d.message = cause.message → ¬ cause.IsMalformed
  /-- A template with safe lookups and a source always expands, and has notes at most. -/
  safe : ∀ t ∈ doc.templates, t.lookup.safe → ∀ records,
    doc.sources.get? t.source = some records →
      ∃ out, t.expand doc.sources = .ok out ∧ ∀ d ∈ out.diagnostics, d.IsNote

/-- Every document that compiles expands safely, under any layout. -/
theorem expandsSafely_of_compiled (palette : Palette) (decl : DocumentDecl) (doc : Document)
    (metrics : Metrics Float32) (h : decl.compile palette = .ok doc) :
    ExpandsSafely decl.sources doc metrics := by
  constructor
  · intro e he
    have hall : expandAll doc.sources doc.templates = .error e := by
      cases hx : expandAll doc.sources doc.templates with
      | error e' =>
        rw [Document.expand, hx, error_bind] at he
        cases he
        rfl
      | ok out =>
        rw [Document.expand, hx, ok_bind] at he
        cases he
    obtain ⟨t, ht, he⟩ := error_of_expandAll hall
    obtain ⟨hv, hin⟩ := checked_of_mem h ht
    rcases Template.expand_error_of_checked hv hin he with ⟨hs, he⟩ | hr
    · have hname := (SourcesDecl.get?_eq_none_iff (compile_eq_ok_iff.mp h).1 t.source).mp hs
      exact Or.inl ⟨t, ht, hname, he⟩
    · exact Or.inr ⟨t, ht, hr⟩
  · intro diagram hd d hm cause hc
    obtain ⟨out, hout, hd⟩ := bind_eq_ok_iff.mp hd
    cases hd
    obtain ⟨t, ht, own, hown, hm⟩ := diagnostic_of_expandAll hout hm
    obtain ⟨_, records, _, _, rfl⟩ := Template.expand_eq_ok_iff.mp hown
    rcases Template.diagnostic_of_checked (checked_of_mem h ht).2 hm with hn | ⟨e, he, hp, _⟩
    · exact absurd hc (hn.message_ne cause)
    · exact not_isMalformed_of_message_eq (he.symm.trans hc) hp
  · intro t ht hl records hs
    obtain ⟨hv, hin⟩ := checked_of_mem h ht
    exact Template.expand_of_safe hv hin hl hs

/-- Badges for all, and strict cards that abort for the person without a role. -/
def staff : DocumentDecl where
  sources := .named [("people", [.object [("name", .text "Ann"), ("role", .text "lead")],
    .object [("name", .text "Bo")]])]
  templates := [
    ⟨"badges", "people", none, true, none, .skip, [⟨none, "${name}", none, some "blob",
      [("fill", .mapping (.category ⟨"role", .keys [.text "lead"], none, false⟩))]⟩], []⟩,
    ⟨"cards", "people", some "name", false, none, .abort, [⟨none, "${role}", none, none, []⟩],
      [⟨none, "${name}", "${role}", none, none, []⟩]⟩]
  legends := []

theorem staff_expandsSafely : ∃ doc, staff.compile .tableau = .ok doc ∧
    doc.expand .standard = .error (.record "cards" 1 "label" (.missingKey "role" "role")) ∧
    ExpandsSafely staff.sources doc .standard := by
  refine ⟨_, rfl, rfl, ?_⟩
  exact expandsSafely_of_compiled .tableau staff _ .standard rfl

end Document

end Cartouche
