import Cartouche.Document.Compilation
import Cartouche.Proofs.Outcome
import Cartouche.Proofs.Trimming
import Mathlib.Data.List.Forall2
import Mathlib.Logic.Relation

/-!
Documents that are spelled in different ways. Sources may be listed or keyed, categories may be
given by their keys or with styles left open, a key may be a number or its text, and a filter may
stand in braces. None of this makes a difference to the document that is compiled.
-/
namespace Cartouche
open Decimal Text

/-- Sources under their names, or the same ones in a list. -/
inductive SourcesDecl.Respelled : SourcesDecl → SourcesDecl → Prop
  | same (decl : SourcesDecl) : Respelled decl decl
  | listed {sources : Table (List Value)} (h : sources.keys.Nodup) :
      Respelled (.named sources) (.listed (sources.map fun (name, records) => ⟨name, records⟩))

/-- A number as a key, or its text. -/
inductive Scalar.Respelled : Scalar → Scalar → Prop
  | same (key : Scalar) : Respelled key key
  | number (n : Float) : Respelled (.number n) (.text (numberText n))

/-- Keys that are spelled in other ways, or keys whose styles are left open. -/
inductive CategoriesDecl.Respelled : CategoriesDecl → CategoriesDecl → Prop
  | same (decl : CategoriesDecl) : Respelled decl decl
  | keys {keys keys' : List Scalar} (h : List.Forall₂ Scalar.Respelled keys keys') :
      Respelled (.keys keys) (.keys keys')
  | unstyled {keys : List Scalar} (h : (keys.map Scalar.toText).Nodup) :
      Respelled (.keys keys) (.table (keys.map fun key => (key.toText, none)))

/-- A path as a filter, or the same path in braces. -/
inductive FilterRespelled : Option String → Option String → Prop
  | same (filter : Option String) : FilterRespelled filter filter
  | braces {path : String} (hblank : trimmed path ≠ "")
      (hnegated : ¬ ['!'] <+: trim path.toList) (hbraces : ¬ ['$', '\x7b'] <+: trim path.toList) :
      FilterRespelled (some path) (some ("$\x7b" ++ path ++ "\x7d"))

inductive MappingDecl.Respelled : MappingDecl → MappingDecl → Prop
  | same (decl : MappingDecl) : Respelled decl decl
  | category (decl : CategoryDecl) {categories : CategoriesDecl}
      (h : decl.categories.Respelled categories) :
      Respelled (.category decl) (.category { decl with categories })

inductive StyleDecl.Respelled : StyleDecl → StyleDecl → Prop
  | same (decl : StyleDecl) : Respelled decl decl
  | mapping {decl decl' : MappingDecl} (h : decl.Respelled decl') :
      Respelled (.mapping decl) (.mapping decl')

/-- The same properties in the same order, their declarations spelled in other ways. -/
def StylesRespelled : Table StyleDecl → Table StyleDecl → Prop :=
  List.Forall₂ fun e e' => e.1 = e'.1 ∧ e.2.Respelled e'.2

inductive NodeDecl.Respelled : NodeDecl → NodeDecl → Prop
  | style (decl : NodeDecl) {style : Table StyleDecl} (h : StylesRespelled decl.style style) :
      Respelled decl { decl with style }

inductive EdgeDecl.Respelled : EdgeDecl → EdgeDecl → Prop
  | style (decl : EdgeDecl) {style : Table StyleDecl} (h : StylesRespelled decl.style style) :
      Respelled decl { decl with style }

inductive TemplateDecl.Respelled : TemplateDecl → TemplateDecl → Prop
  | parts (decl : TemplateDecl) {filter : Option String} {nodes : List NodeDecl}
      {edges : List EdgeDecl} (hfilter : FilterRespelled decl.filter filter)
      (hnodes : List.Forall₂ NodeDecl.Respelled decl.nodes nodes)
      (hedges : List.Forall₂ EdgeDecl.Respelled decl.edges edges) :
      Respelled decl { decl with filter, nodes, edges }

/-- Other spellings at any number of places of a document. -/
inductive DocumentDecl.Respelled : DocumentDecl → DocumentDecl → Prop
  | parts (decl : DocumentDecl) {sources : SourcesDecl} {templates : List TemplateDecl}
      (hsources : decl.sources.Respelled sources)
      (htemplates : List.Forall₂ TemplateDecl.Respelled decl.templates templates) :
      Respelled decl { decl with sources, templates }

/-! Sources. -/

/-- Each source of a list with names of their own finds its name free. -/
theorem foldlM_listed {sources t : Table (List Value)} (h : (t.keys ++ sources.keys).Nodup) :
    (sources.map fun (name, records) => (⟨name, records⟩ : SourceDecl)).foldlM
      (fun t d => if (t.get? d.name).isSome then .error (.duplicateSource d.name)
        else .ok (t.put d.name d.records)) t =
      (.ok (sources.foldl (fun t e => t.put e.1 e.2) t) : Except DocumentError _) := by
  induction sources generalizing t with
  | nil => rfl
  | cons e rest ih =>
    obtain ⟨name, records⟩ := e
    have hkeys : t.keys ++ Table.keys ((name, records) :: rest) =
        t.keys ++ [name] ++ Table.keys rest :=
      List.append_cons ..
    rw [hkeys] at h
    have hnew : name ∉ t.keys := fun hm =>
      (List.nodup_append.mp (List.nodup_append.mp h).1).2.2 name hm name List.mem_cons_self rfl
    have hfree : (t.get? name).isSome = false := by
      rw [(Table.get?_eq_none_iff t name).mpr hnew]
      rfl
    have hput : (t.put name records).keys = t.keys ++ [name] := by
      rw [Table.keys_put, if_neg hnew]
    rw [List.map_cons, List.foldlM_cons, hfree, List.foldl_cons]
    exact ih (by rwa [hput])

theorem SourcesDecl.Respelled.compile_eq {decl decl' : SourcesDecl} (h : decl.Respelled decl') :
    decl.compile = decl'.compile := by
  cases h with
  | same => rfl
  | listed h => exact (foldlM_listed (t := []) h).symm

/-! Categories. -/

theorem Scalar.Respelled.toText_eq {key key' : Scalar} (h : key.Respelled key') :
    key.toText = key'.toText := by
  cases h <;> rfl

theorem CategoriesDecl.Respelled.entries_eq {decl decl' : CategoriesDecl}
    (h : decl.Respelled decl') (palette : Palette) :
    MappingDecl.entries palette decl = MappingDecl.entries palette decl' := by
  -- The colours are counted over keys or over entries, which stand at the same places.
  have hkeys : ∀ keys : List Scalar, MappingDecl.entries palette (.keys keys) =
      Table.ofList ((keys.map Scalar.toText).zipIdx.map fun (key, i) =>
        (key, .text (palette.color i))) := by
    intro keys
    rw [MappingDecl.entries, List.zipIdx_map, List.map_map]
    rfl
  cases h with
  | same => rfl
  | @keys keys keys' h =>
    have htexts : keys.map Scalar.toText = keys'.map Scalar.toText := by
      rw [← List.forall₂_eq_eq_eq, List.forall₂_map_left_iff, List.forall₂_map_right_iff]
      exact h.imp fun _ _ => Scalar.Respelled.toText_eq
    rw [hkeys, hkeys, htexts]
  | @unstyled keys h =>
    rw [hkeys, MappingDecl.entries, List.zipIdx_map, List.zipIdx_map, List.map_map, List.map_map]
    rfl

theorem MappingDecl.Respelled.compile_eq {decl decl' : MappingDecl} (h : decl.Respelled decl')
    (palette : Palette) (property : String) :
    decl.compile palette property = decl'.compile palette property := by
  cases h with
  | same => rfl
  | category d h =>
    rw [MappingDecl.compile, MappingDecl.compile, h.entries_eq palette]
    rfl

/-! Filters. -/

/-- Whether a filter begins with an exclamation mark, and what it says behind it. -/
def Filter.polarity : List Char → Bool × List Char
  | '!' :: rest => (true, trimStart rest)
  | text => (false, text)

theorem Filter.polarity_of_plain {text : List Char} (h : ¬ ['!'] <+: text) :
    polarity text = (false, text) := by
  unfold polarity
  split
  · next rest => exact absurd ⟨rest, rfl⟩ h
  · rfl

theorem Filter.parse_eq (text : String) : Filter.parse text = (do
    let path : String := .ofList (match insideBraces? (polarity (trim text.toList)).2 with
      | some inside => trim inside
      | none => (polarity (trim text.toList)).2)
    validatePath path
    return { path, negate := (polarity (trim text.toList)).1 }) := rfl

/-- Without an exclamation mark a filter is its path, which braces may stand around. -/
theorem Filter.parse_of_plain {text : String} (h : ¬ ['!'] <+: trim text.toList) :
    Filter.parse text = (do
      let path : String := .ofList (match insideBraces? (trim text.toList) with
        | some inside => trim inside
        | none => trim text.toList)
      validatePath path
      return { path, negate := false }) := by
  rw [parse_eq, polarity_of_plain h]

/-- Braces around a path are taken off together with the blanks in them. -/
theorem Filter.parse_braces {path : String} (hnegated : ¬ ['!'] <+: trim path.toList)
    (hbraces : ¬ ['$', '\x7b'] <+: trim path.toList) :
    Filter.parse ("$\x7b" ++ path ++ "\x7d") = Filter.parse path := by
  have htrim : trim ("$\x7b" ++ path ++ "\x7d").toList =
      '$' :: '\x7b' :: (path.toList ++ ['\x7d']) := by
    have htext : ("$\x7b" ++ path ++ "\x7d").toList =
        '$' :: '\x7b' :: (path.toList ++ ['\x7d']) := by
      simp
    rw [htext]
    apply IsTrimmed.trim_eq
    constructor
    · intro c hc
      obtain rfl : '$' = c := by simpa using hc
      decide
    · intro c hc
      obtain rfl : '\x7d' = c := by simpa [List.getLast?_cons] using hc
      decide
  have hinside : insideBraces? ('$' :: '\x7b' :: (path.toList ++ ['\x7d'])) =
      some path.toList := by
    simp [insideBraces?]
  have hplain : insideBraces? (trim path.toList) = none := by
    unfold insideBraces?
    split
    · next rest h => exact absurd (h ▸ ⟨rest, rfl⟩) hbraces
    · rfl
  have hmark : ¬ ['!'] <+: trim ("$\x7b" ++ path ++ "\x7d").toList := by
    rw [htrim]
    rintro ⟨rest, h⟩
    cases h
  rw [Filter.parse_of_plain hmark, Filter.parse_of_plain hnegated, htrim, hinside, hplain]

theorem FilterRespelled.compileFilter_eq {decl decl' : TemplateDecl} (hid : decl.id = decl'.id)
    (h : FilterRespelled decl.filter decl'.filter) : decl.compileFilter = decl'.compileFilter := by
  unfold TemplateDecl.compileFilter
  rw [hid]
  generalize decl.filter = filter at h
  generalize decl'.filter = filter' at h
  cases h with
  | same => rfl
  | @braces path hblank hnegated hbraces =>
    have hbraced : trimmed ("$\x7b" ++ path ++ "\x7d") ≠ "" := by
      intro he
      have hl := congrArg String.toList he
      rw [trimmed, String.toList_ofList] at hl
      exact trim_ne_nil (c := '$') (by simp) (by decide) hl
    dsimp only
    rw [if_neg (by simpa using hblank), if_neg (by simpa using hbraced),
      Filter.parse_braces hnegated hbraces]

/-! Whole documents. -/

theorem StyleDecl.Respelled.compile_eq {decl decl' : StyleDecl} (h : decl.Respelled decl')
    (palette : Palette) (template property : String) :
    decl.compile palette template property = decl'.compile palette template property := by
  cases h with
  | same => rfl
  | mapping h => rw [StyleDecl.compile, StyleDecl.compile, h.compile_eq]

theorem StylesRespelled.compileStyle_eq {style style' : Table StyleDecl}
    (h : StylesRespelled style style') (palette : Palette) (template : String) :
    compileStyle palette template style = compileStyle palette template style' := by
  apply mapM_eq_of_forall₂
  apply h.imp
  rintro ⟨property, decl⟩ ⟨_, decl'⟩ ⟨rfl, hdecl⟩
  dsimp only
  rw [hdecl.compile_eq]

theorem TemplateDecl.Respelled.id_eq {decl decl' : TemplateDecl} (h : decl.Respelled decl') :
    decl.id = decl'.id := by
  cases h
  rfl

theorem TemplateDecl.Respelled.compile_eq {decl decl' : TemplateDecl} (h : decl.Respelled decl')
    (palette : Palette) : decl.compile palette = decl'.compile palette := by
  cases h with
  | parts hfilter hnodes hedges =>
    refine bind_eq_bind (FilterRespelled.compileFilter_eq rfl hfilter) fun filter =>
      bind_eq_bind (mapM_eq_of_forall₂ (hnodes.imp ?_)) fun nodes =>
      bind_eq_bind (mapM_eq_of_forall₂ (hedges.imp ?_)) fun edges => rfl
    · rintro n _ ⟨hstyle⟩
      exact bind_eq_bind (hstyle.compileStyle_eq palette decl.id) fun _ => rfl
    · rintro e _ ⟨hstyle⟩
      exact bind_eq_bind (hstyle.compileStyle_eq palette decl.id) fun _ => rfl

theorem compileTemplates_eq {decls decls' : List TemplateDecl}
    (h : List.Forall₂ TemplateDecl.Respelled decls decls') (palette : Palette)
    (made : List Template) :
    compileTemplates palette made decls = compileTemplates palette made decls' := by
  induction h generalizing made with
  | nil => rfl
  | cons h _ ih =>
    rw [compileTemplates, compileTemplates, h.id_eq, h.compile_eq]
    simp only [ih]

theorem DocumentDecl.Respelled.compile_eq {decl decl' : DocumentDecl} (h : decl.Respelled decl')
    (palette : Palette) : decl.compile palette = decl'.compile palette := by
  cases h with
  | parts hsources htemplates =>
    exact bind_eq_bind hsources.compile_eq fun sources =>
      bind_eq_bind (compileTemplates_eq htemplates palette []) fun templates => rfl

/-- Documents that differ in the spelling of their sources, categories, keys and filters compile to
the same document, or fail with the same error, whatever the palette. -/
theorem compile_of_respelled (palette : Palette) (decl decl' : DocumentDecl)
    (h : Relation.EqvGen DocumentDecl.Respelled decl decl') :
    decl.compile palette = decl'.compile palette := by
  induction h with
  | rel _ _ h => exact h.compile_eq palette
  | refl => rfl
  | symm _ _ _ ih => exact ih.symm
  | trans _ _ _ _ _ ih ih' => exact ih.trans ih'

/-- Votes in the colours of their choices. -/
def poll (sources : SourcesDecl) (filter : String) (categories : CategoriesDecl) :
    DocumentDecl where
  sources := sources
  templates := [⟨"t", "votes", some filter, true, none, .skip,
    [⟨none, "${name}", none, none,
      [("fill", .mapping (.category ⟨"choice", categories, none, false⟩))]⟩], []⟩]
  legends := []

/-- Keys and filter are spelled in the other way, and then, backwards, the sources. -/
theorem poll_respelled :
    (poll (.listed [⟨"votes", []⟩]) " valid " (.keys [.number 1, .text "x"])).compile ⟨[], "#888"⟩ =
      (poll (.named [("votes", [])]) "$\x7b valid \x7d" (.table [("1", none), ("x", none)])).compile
        ⟨[], "#888"⟩ ∧
    ((poll (.listed [⟨"votes", []⟩]) " valid " (.keys [.number 1, .text "x"])).compile
      ⟨[], "#888"⟩).toOption.isSome := by
  have hnumber : numberText 1 = "1" := by decide +kernel
  have hsources : SourcesDecl.Respelled (.named [("votes", [])]) (.listed [⟨"votes", []⟩]) :=
    .listed (by decide)
  have hfilter : FilterRespelled (some " valid ") (some "$\x7b valid \x7d") :=
    .braces (by decide +kernel) (by decide +kernel) (by decide +kernel)
  have hkeys : CategoriesDecl.Respelled (.keys [.number 1, .text "x"])
      (.table [("1", none), ("x", none)]) := by
    have h := @CategoriesDecl.Respelled.unstyled [.number 1, .text "x"] (by decide +kernel)
    rw [List.map_cons, List.map_cons, Scalar.toText, hnumber] at h
    exact h
  have hthere : DocumentDecl.Respelled
      (poll (.listed [⟨"votes", []⟩]) " valid " (.keys [.number 1, .text "x"]))
      (poll (.listed [⟨"votes", []⟩]) "$\x7b valid \x7d" (.table [("1", none), ("x", none)])) := by
    refine .parts _ (.same _) (.cons (.parts _ hfilter (.cons (.style _ ?_) .nil) .nil) .nil)
    exact .cons ⟨rfl, .mapping (.category _ hkeys)⟩ .nil
  have hback : DocumentDecl.Respelled
      (poll (.named [("votes", [])]) "$\x7b valid \x7d" (.table [("1", none), ("x", none)]))
      (poll (.listed [⟨"votes", []⟩]) "$\x7b valid \x7d" (.table [("1", none), ("x", none)])) := by
    refine .parts _ hsources (.cons (.parts _ (.same _) (.cons (.style _ ?_) .nil) .nil) .nil)
    exact .cons ⟨rfl, .same _⟩ .nil
  refine ⟨compile_of_respelled ⟨[], "#888"⟩ _ _ (.trans _ _ _ (.rel _ _ hthere) ?_),
    by decide +kernel⟩
  exact .symm _ _ (.rel _ _ hback)

end Cartouche
