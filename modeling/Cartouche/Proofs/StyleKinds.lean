import Cartouche.Proofs.Breakpoints
import Cartouche.Proofs.LegendAgreement
import Cartouche.Proofs.ShortestDigits
import Cartouche.Proofs.TextForms

/-!
Styles as they are shown. A document writes a style property as a number, as a text or as a mapping
to either; what an element shows for it in JSON is told by the writing and by the record. Numbers
stay numbers and texts stay texts on the whole way, whatever a text may look like, and JSON writes
null for the numbers that it has no digits for.
-/
namespace Cartouche
open Decimal Text

/-- A number is shown as itself, or as null if it is not finite. -/
inductive ShowsNumber (n : Float) (json : Json) : Prop
  | finite (isFinite : n.isFinite = true) (isNumber : json.IsNumber n)
  | null (notFinite : n.isFinite = false) (isNull : json.compact = Json.null.compact)

/-- A written style is shown as it is written. -/
inductive Scalar.Shows : Scalar → Json → Prop
  | number {n : Float} {json : Json} (h : ShowsNumber n json) : Shows (.number n) json
  | text (s : String) : Shows (.text s) (.text s)

/-- A node of a document's text is read as what it is. -/
inductive Scalar.Reads : Json.Node → Scalar → Prop
  | number (k : Json.Number) (real : Except Json.Fault Float) :
    Reads (.number (.ok k) real) (.number k.toFloat)
  | text (s : String) : Reads (.text (.ok s)) (.text s)

/-- All categories with their styles, in the order in which they are written. -/
def CategoriesDecl.written (palette : Palette) : CategoriesDecl → List (String × Scalar)
  | .keys names => names.zipIdx.map fun (key, i) => (key.toText, .text (palette.color i))
  | .table styles =>
    styles.zipIdx.map fun ((key, style), i) => (key, style.getD (.text (palette.color i)))

/-- The style chosen for a category: of several the last one that is written, and for an unmatched
category the fallback, unless such categories are left out. -/
inductive CategoryDecl.Chooses (palette : Palette) (d : CategoryDecl) (key : String) :
    Option Scalar → Prop
  | matched {style : Scalar}
    (last : Table.get? (d.categories.written palette).reverse key = some style) :
    Chooses palette d key (some style)
  | unmatched (undeclared : key ∉ (d.categories.written palette).map Prod.fst)
    (kept : d.omitUnmatched = false) :
    Chooses palette d key (some (d.fallback.getD (.text palette.neutral)))
  | omitted (undeclared : key ∉ (d.categories.written palette).map Prod.fst)
    (leavesOut : d.omitUnmatched = true) : Chooses palette d key none

def BreakpointDecl.made (b : BreakpointDecl) : Breakpoint :=
  ⟨b.value, b.style.toStyle⟩

/-- The breakpoint chosen for a number: a right choice among those declared, and of several with one
value the one that comes to be chosen when they are sorted. -/
structure ThresholdDecl.Chooses (d : ThresholdDecl) (x : Float) (b : BreakpointDecl) : Prop where
  mem : b ∈ d.breakpoints
  choice : IsChoice (d.breakpoints.map BreakpointDecl.made) x b.made
  sorted : ∃ m, ThresholdMapping.make "" d.field (d.breakpoints.map BreakpointDecl.made) = .ok m ∧
    m.chosen? x = some b.made

/-- What a property shows that is written in a given way, if it shows anything. Scales show what
they may. -/
inductive StyleDecl.Shows (palette : Palette) (record : Value) (lookup : Lookup) :
    StyleDecl → Option Json → Prop
  | constant {n : Float} {json : Json} (h : ShowsNumber n json) :
    Shows palette record lookup (.literal (.number n)) (some json)
  | tokenNumber {inside : String} {n : Float} {json : Json} (closed : '\x7d' ∉ inside.toList)
    (found : evaluatePath (trimmed inside) record lookup = .ok (some (.number n)))
    (h : ShowsNumber n json) :
    Shows palette record lookup (.literal (.text (Token.text inside))) (some json)
  | tokenText {inside : String} {v : Value} (closed : '\x7d' ∉ inside.toList)
    (found : evaluatePath (trimmed inside) record lookup = .ok (some v))
    (notNull : v.isNull = false) (notNumber : v.number? = none) :
    Shows palette record lookup (.literal (.text (Token.text inside))) (some (.text v.display))
  | tokenUnset {inside : String} {v : Option Value} (closed : '\x7d' ∉ inside.toList)
    (found : evaluatePath (trimmed inside) record lookup = .ok v)
    (unset : v = none ∨ v = some .null) :
    Shows palette record lookup (.literal (.text (Token.text inside))) none
  | template {text expanded : String}
    (mixed : ∀ inside : String, '\x7d' ∉ inside.toList → text ≠ Token.text inside)
    (expands : tryExpandText record lookup text = .ok expanded) :
    Shows palette record lookup (.literal (.text text)) (some (.text expanded))
  | category {d : CategoryDecl} {v : Option Value} {style : Scalar} {json : Json}
    (found : evaluatePath (trimmed d.field) record lookup = .ok v)
    (chosen : d.Chooses palette (categoryOf v) (some style)) (h : style.Shows json) :
    Shows palette record lookup (.mapping (.category d)) (some json)
  | omitted {d : CategoryDecl} {v : Option Value}
    (found : evaluatePath (trimmed d.field) record lookup = .ok v)
    (chosen : d.Chooses palette (categoryOf v) none) :
    Shows palette record lookup (.mapping (.category d)) none
  | threshold {d : ThresholdDecl} {v : Option Value} {b : BreakpointDecl} {json : Json}
    (found : evaluatePath (trimmed d.field) record lookup = .ok v)
    (chosen : d.Chooses (inputNumber v) b) (h : b.style.Shows json) :
    Shows palette record lookup (.mapping (.threshold d)) (some json)
  | scale {d : ScaleDecl} {json : Json} :
    Shows palette record lookup (.mapping (.scale d)) (some json)

/-- The fields that declared properties give, in their order; one that shows nothing is missing. -/
inductive ShowsAll (palette : Palette) (record : Value) (lookup : Lookup) :
    Table StyleDecl → List (String × Json) → Prop
  | nil : ShowsAll palette record lookup [] []
  | shown {property : String} {decl : StyleDecl} {json : Json} {declared : Table StyleDecl}
    {fields : List (String × Json)} (h : decl.Shows palette record lookup (some json))
    (rest : ShowsAll palette record lookup declared fields) :
    ShowsAll palette record lookup ((property, decl) :: declared) ((property, json) :: fields)
  | missing {property : String} {decl : StyleDecl} {declared : Table StyleDecl}
    {fields : List (String × Json)} (h : decl.Shows palette record lookup none)
    (rest : ShowsAll palette record lookup declared fields) :
    ShowsAll palette record lookup ((property, decl) :: declared) fields

/-- The properties declared for a blueprint, where it stands in the written template. -/
inductive Declares (d : TemplateDecl) (t : Template) : Origin → Table StyleDecl → Prop
  | node {record : Value} {n : NodeDecl} {b : NodeBlueprint} (h : (n, b) ∈ d.nodes.zip t.nodes) :
    Declares d t (.node record b) n.style
  | edge {record : Value} {n : EdgeDecl} {b : EdgeBlueprint} (h : (n, b) ∈ d.edges.zip t.edges) :
    Declares d t (.edge record b) n.style

variable {palette : Palette} {record : Value} {lookup : Lookup} {n : Float} {json : Json}

theorem showsNumber_numberJson (n : Float) : ShowsNumber n (numberJson n) := by
  cases hn : n.isFinite with
  | true => exact .finite hn (Json.isNumber_numberJson hn)
  | false => exact .null hn (Json.compact_numberJson_of_not_isFinite hn)

theorem Scalar.shows_toStyle (s : Scalar) : s.Shows s.toStyle.toJson := by
  cases s with
  | number n => exact .number (showsNumber_numberJson n)
  | text s => exact .text s

theorem toOption_mismatch {α : Type} (expected : String) (node : Json.Node) :
    (Json.Reader.mismatch expected node : Except Json.Fault α).toOption = none := by
  unfold Json.Reader.mismatch
  cases node.found <;> rfl

/-- A number of the text is read as a number and a text as a text, and nothing else is read. -/
theorem Scalar.reads_of_reader {site : Json.Site} {node : Json.Node} {s : Scalar}
    (h : Scalar.reader site node = .ok s) : Scalar.Reads node s := by
  obtain ⟨kept, hkeep, h⟩ := bind_eq_ok_iff.mp h
  have hkept : kept.kept = true := by
    unfold Json.Reader.keep at hkeep
    split at hkeep
    · next hs =>
      cases hkeep
      exact hs
    · obtain ⟨_, -, hkeep⟩ := bind_eq_ok_iff.mp hkeep
      cases hkeep
      rfl
  have hgeneral : Json.Reader.isRealText kept = false := by simp [Json.Reader.isRealText, hkept]
  have hmap : ∀ {α : Type} (r : Except Json.Fault α) (f : α → Scalar),
      (r.map f).toOption = r.toOption.map f := by
    intro α r f
    cases r <;> rfl
  split at h
  · next value hvalue =>
    cases h
    simp only [List.findSome?_cons, List.findSome?_nil, Json.Reader.map, Json.Reader.real,
      Json.Reader.string, Json.Reader.textAs, hgeneral, hmap, Bool.false_eq_true,
      if_false] at hvalue
    cases node with
    | number general real =>
      cases general with
      | ok k =>
        cases hvalue
        exact .number k real
      | error fault =>
        simp only [toOption_mismatch, Option.map_none] at hvalue
        cases hvalue
    | text content =>
      cases content with
      | ok text =>
        simp only [toOption_mismatch, Option.map_none] at hvalue
        cases hvalue
        exact .text text
      | error fault =>
        simp only [toOption_mismatch, Option.map_none] at hvalue
        cases hvalue
    | _ => simp [toOption_mismatch] at hvalue
  · cases h

/-! Texts of literals. -/

theorem shows_tokenValue {inside : String} {v : Option Value} (closed : '\x7d' ∉ inside.toList)
    (found : evaluatePath (trimmed inside) record lookup = .ok v) :
    StyleDecl.Shows palette record lookup (.literal (.text (Token.text inside)))
      ((v.bind StyleValue.ofValue?).map StyleValue.toJson) := by
  cases v with
  | none => exact .tokenUnset closed found (Or.inl rfl)
  | some v =>
    cases v with
    | null => exact .tokenUnset closed found (Or.inr rfl)
    | number n => exact .tokenNumber closed found (showsNumber_numberJson n)
    | _ => exact .tokenText closed found rfl rfl

theorem shows_literal {text : String} {v : Option Value}
    (h : tryExpandValue record lookup text = .ok v) :
    StyleDecl.Shows palette record lookup (.literal (.text text))
      ((v.bind StyleValue.ofValue?).map StyleValue.toJson) := by
  unfold tryExpandValue at h
  cases hw : wholeToken? text with
  | some path =>
    rw [hw] at h
    obtain ⟨inside, closed, rfl, rfl⟩ := wholeToken?_eq_some_iff.mp hw
    exact shows_tokenValue closed h
  | none =>
    rw [hw] at h
    obtain ⟨expanded, hexpanded, rfl⟩ := map_eq_ok_iff.mp h
    refine .template ?_ hexpanded
    rintro inside closed rfl
    rw [wholeToken?_eq_some_iff.mpr ⟨inside, closed, rfl, rfl⟩] at hw
    cases hw

/-! Categories. -/

theorem entries_eq (cs : CategoriesDecl) : MappingDecl.entries palette cs =
    Table.ofList ((cs.written palette).map fun e => (e.1, e.2.toStyle)) := by
  cases cs with
  | keys names =>
    rw [MappingDecl.entries, CategoriesDecl.written, List.map_map]
    rfl
  | table styles =>
    rw [MappingDecl.entries, CategoriesDecl.written, List.map_map]
    congr 2
    funext entry
    obtain ⟨⟨key, style⟩, i⟩ := entry
    cases style <;> rfl

theorem get?_entries (palette : Palette) (cs : CategoriesDecl) (key : String) :
    (MappingDecl.entries palette cs).get? key =
      (Table.get? (cs.written palette).reverse key).map Scalar.toStyle := by
  rw [entries_eq, Table.get?_ofList, ← List.map_reverse, Table.get?_map]

/-- What a made mapping resolves a value to is the style that is chosen for its category. -/
theorem exists_chooses (palette : Palette) (d : CategoryDecl) (property field : String)
    (v : Option Value) :
    ∃ style, d.Chooses palette (categoryOf v) style ∧
      CategoryMapping.resolve ⟨property, field, MappingDecl.entries palette d.categories,
        MappingDecl.fallback palette d⟩ v = style.map Scalar.toStyle := by
  have hget := get?_entries palette d.categories (categoryOf v)
  cases hlookup : Table.get? (d.categories.written palette).reverse (categoryOf v) with
  | some style =>
    rw [hlookup] at hget
    exact ⟨some style, .matched hlookup, resolve_of_declared hget⟩
  | none =>
    rw [hlookup] at hget
    have hundeclared : categoryOf v ∉ (d.categories.written palette).map Prod.fst := by
      simpa [Table.keys] using (Table.get?_eq_none_iff _ _).mp hlookup
    unfold CategoryMapping.resolve MappingDecl.fallback
    rw [show (MappingDecl.entries palette d.categories).get? ((v.map Value.display).getD "") =
      none from hget]
    cases homits : d.omitUnmatched with
    | true => exact ⟨none, .omitted hundeclared homits, rfl⟩
    | false =>
      refine ⟨_, .unmatched hundeclared homits, ?_⟩
      cases d.fallback <;> rfl

/-! Thresholds. -/

theorem exists_thresholdChooses (d : ThresholdDecl) {property : String} {m : ThresholdMapping}
    (h : ThresholdMapping.make property d.field (d.breakpoints.map BreakpointDecl.made) = .ok m)
    {x : Float} (hx : x.isNaN = false) :
    ∃ b, d.Chooses x b ∧ m.resolveNumber x = b.style.toStyle := by
  have hm := ThresholdMapping.wellFormed_of_make h
  obtain ⟨checked, hfield, hne, hfinite, rfl⟩ := ThresholdMapping.make_eq_ok_iff.mp h
  obtain ⟨made, hmade⟩ := hm.exists_chosen? x
  have hchoice := (hm.isChoice_of_chosen? hx hmade).perm (List.mergeSort_perm _ _)
  obtain ⟨b, hb, rfl⟩ := List.mem_map.mp hchoice.mem
  refine ⟨b, ⟨hb, hchoice, ⟨"", checked, _⟩, ?_, hmade⟩, ?_⟩
  · exact ThresholdMapping.make_eq_ok_iff.mpr ⟨checked, hfield, hne, hfinite, rfl⟩
  · exact ThresholdMapping.resolveNumber_of_chosen? hmade

/-! One property. -/

theorem shows_mapping {property : String} {decl : MappingDecl} {m : StyleMapping}
    {v : Option Value} (hm : decl.compile palette property = .ok m)
    (hv : evaluatePath m.field record lookup = .ok v) :
    StyleDecl.Shows palette record lookup (.mapping decl)
      ((m.resolve v).map StyleValue.toJson) := by
  have hfield := checkField_eq_ok (parts_of_mapping hm).2
  rw [hfield] at hv
  cases decl with
  | category d =>
    obtain ⟨c, hc, rfl⟩ := map_eq_ok_iff.mp hm
    obtain ⟨checked, -, rfl⟩ := CategoryMapping.make_eq_ok_iff.mp hc
    obtain ⟨style, hchosen, hresolve⟩ := exists_chooses palette d property checked v
    rw [StyleMapping.resolve, hresolve]
    cases style with
    | some style => exact .category hv hchosen style.shows_toStyle
    | none => exact .omitted hv hchosen
  | scale d =>
    unfold MappingDecl.compile at hm
    dsimp only at hm
    split at hm
    · cases hm
    · obtain ⟨s, -, rfl⟩ := map_eq_ok_iff.mp hm
      exact .scale
  | threshold d =>
    obtain ⟨c, hc, rfl⟩ := map_eq_ok_iff.mp hm
    obtain ⟨b, hchosen, hresolve⟩ := exists_thresholdChooses d hc (isNaN_inputNumber v)
    rw [StyleMapping.resolve, ThresholdMapping.resolve, hresolve]
    exact .threshold hv hchosen b.style.shows_toStyle

theorem shows_bindingValue {t : Template} {template property : String} {decl : StyleDecl}
    {binding : StyleBinding} {value : Option StyleValue}
    (hb : decl.compile palette template property = .ok binding)
    (hvalue : t.bindingValue record property binding = .ok value) :
    decl.Shows palette record t.lookup (value.map StyleValue.toJson) := by
  unfold StyleDecl.compile at hb
  split at hb
  · cases hb
    cases hvalue
    exact .constant (showsNumber_numberJson _)
  · cases hb
    obtain ⟨v, hv, rfl⟩ := map_eq_ok_iff.mp hvalue
    exact shows_literal (mapError_eq_ok_iff.mp hv)
  · split at hb
    · next hm =>
      cases hb
      obtain ⟨v, hv, rfl⟩ := map_eq_ok_iff.mp hvalue
      exact shows_mapping hm (mapError_eq_ok_iff.mp hv)
    · cases hb

/-! All properties of a blueprint. -/

theorem showsAll_of_style {t : Template} {template : String} {declared : Table StyleDecl}
    {bindings : Table StyleBinding} {style : Table StyleValue}
    (hb : compileStyle palette template declared = .ok bindings)
    (hs : t.style record bindings = .ok style) : ShowsAll palette record t.lookup declared
      (style.map fun (property, value) => (property, value.toJson)) := by
  rw [compileStyle, mapM_eq_ok_iff] at hb
  induction hb generalizing style with
  | nil =>
    cases hs
    exact .nil
  | @cons entry bound declared bindings hbound _ ih =>
    obtain ⟨property, decl⟩ := entry
    obtain ⟨binding, hbinding, hbound⟩ := bind_eq_ok_iff.mp hbound
    cases hbound
    obtain ⟨value, hvalue, hs⟩ := bind_eq_ok_iff.mp hs
    obtain ⟨others, hothers, hs⟩ := bind_eq_ok_iff.mp hs
    have hshows := shows_bindingValue hbinding hvalue
    cases value with
    | some value =>
      cases hs
      exact .shown hshows (ih hothers)
    | none =>
      cases hs
      exact .missing hshows (ih hothers)

theorem ShowsAll.sublist {declared : Table StyleDecl} {fields : List (String × Json)}
    (h : ShowsAll palette record lookup declared fields) :
    (fields.map Prod.fst).Sublist (declared.map Prod.fst) := by
  induction h with
  | nil => exact .slnil
  | shown h rest ih => exact ih.cons_cons _
  | missing h rest ih => exact ih.cons _

/-- What is declared for the origin of an emission is all that its element has for a style. -/
theorem exists_declares {t : Template} {d : TemplateDecl} (hd : d.compile palette = .ok t)
    {records : List Value} {em : Emission} (hem : em ∈ t.emissions records) :
    ∃ declared, Declares d t em.origin declared ∧
      ShowsAll palette em.origin.record t.lookup declared
        (em.element.style.map fun (property, value) => (property, value.toJson)) := by
  obtain ⟨before, after, hsplit⟩ := List.append_of_mem hem
  obtain ⟨ids, draft, hdraft, -, -, helement⟩ := Template.emission_cases hsplit
  obtain ⟨⟨record, -, horigin⟩, hdraft⟩ := Template.mem_drafted.mp hdraft
  have hstyle := Template.style_of_draft? hdraft
  obtain ⟨hnodes, hedges⟩ := styles_of_compile hd
  rw [helement]
  rcases Template.mem_origins horigin with ⟨b, hb, ho⟩ | ⟨b, hb, ho⟩
  · obtain ⟨n, hn, hcompile⟩ := exists_zip_right hnodes hb
    rw [ho] at hstyle ⊢
    exact ⟨n.style, .node hn, showsAll_of_style hcompile hstyle⟩
  · obtain ⟨n, hn, hcompile⟩ := exists_zip_right hedges hb
    rw [ho] at hstyle ⊢
    exact ⟨n.style, .edge hn, showsAll_of_style hcompile hstyle⟩

theorem style_toJson (e : Element) : ∃ fields, e.toJson = .object fields ∧
    Table.get? fields "style" = some (Element.styleJson e.style) := by
  unfold Element.toJson
  cases e.body with
  | node label subtitle shape =>
    refine ⟨_, rfl, ?_⟩
    cases subtitle <;> rfl
  | edge source target label kind =>
    refine ⟨_, rfl, ?_⟩
    cases label <;> rfl

namespace Document

/-- The style of an element has, in their order, the properties that are declared for its blueprint,
and each one is shown in JSON as its writing tells; and numbers and texts of a document are read as
what they are. -/
theorem styles_shown_as_written (palette : Palette) (decl : DocumentDecl) (doc : Document)
    (h : decl.compile palette = .ok doc) :
    (∀ site node scalar, Scalar.reader site node = .ok scalar → Scalar.Reads node scalar) ∧
    (∀ layout diagram, doc.expand layout = .ok diagram →
      diagram.elements = doc.emissions.map fun (_, em) => em.element) ∧
    ∀ t em, (t, em) ∈ doc.emissions → ∃ d declared fields shown,
      (d, t) ∈ decl.templates.zip doc.templates ∧ Declares d t em.origin declared ∧
      em.element.toJson = .object shown ∧ Table.get? shown "style" = some (.object fields) ∧
      (fields.map Prod.fst).Sublist (declared.map Prod.fst) ∧
      ShowsAll palette em.origin.record t.lookup declared fields := by
  refine ⟨fun _ _ _ => Scalar.reads_of_reader, fun _ _ => elements_expand, ?_⟩
  intro t em hem
  obtain ⟨ht, hem⟩ := mem_emissions.mp hem
  obtain ⟨d, hd, hcompile⟩ := exists_zip_right (compiled_templates h) ht
  obtain ⟨declared, hdeclares, hshows⟩ := exists_declares hcompile hem
  obtain ⟨shown, hjson, hstyle⟩ := style_toJson em.element
  exact ⟨d, declared, _, shown, hd, hdeclares, hjson, hstyle, hshows.sublist, hshows⟩

/-- The styles of a diagram's elements, one a line. -/
def styleLines (elements : List Element) : List String :=
  elements.map fun e => (Element.styleJson e.style).line

/-- Trees with a height and an age, which may be null or missing or a text, and numbers and texts of
digits for styles. -/
def grove : DocumentDecl where
  sources := .named [("trees", [
    .object [("name", .text "Elm"), ("height", .number 12.5), ("age", .text "90"),
      ("kind", .text "old")],
    .object [("name", .text "Ash"), ("height", .null), ("kind", .text "new")]])]
  templates := [⟨"t", "trees", none, true, none, .skip, [⟨none, "${name}", none, none, [
    ("opacity", .literal (.number 0.1)), ("rank", .literal (.text "7")),
    ("radius", .literal (.text "${height}")), ("age", .literal (.text "${ age }")),
    ("width", .mapping (.category ⟨"kind", .table [("old", some (.number 3))], none, true⟩)),
    ("fill", .mapping (.threshold ⟨"age", [⟨50, .text "1"⟩]⟩))]⟩], []⟩]
  legends := []

theorem grove_shown_as_written : ∃ doc, grove.compile .tableau = .ok doc ∧
    styleLines (doc.emissions.map fun (_, em) => em.element) = [
      "\x7b\"opacity\":0.1,\"rank\":\"7\",\"radius\":12.5,\"age\":\"90\"," ++
        "\"width\":3,\"fill\":\"1\"\x7d",
      "\x7b\"opacity\":0.1,\"rank\":\"7\",\"fill\":\"1\"\x7d"] ∧
    ∀ t em, (t, em) ∈ doc.emissions → ∃ d declared fields shown,
      (d, t) ∈ grove.templates.zip doc.templates ∧ Declares d t em.origin declared ∧
      em.element.toJson = .object shown ∧ Table.get? shown "style" = some (.object fields) ∧
      (fields.map Prod.fst).Sublist (declared.map Prod.fst) ∧
      ShowsAll .tableau em.origin.record t.lookup declared fields := by
  refine ⟨_, rfl, by decide +kernel, ?_⟩
  exact (styles_shown_as_written .tableau grove _ rfl).2.2

/-- A depth that no JSON number can write, looked up by a token and written as a constant. -/
def floodText : String :=
  "\x7bsources:\x7bs:[\x7bx:Infinity\x7d]\x7d,templates:[\x7bid:'t',from:'s'," ++
    "nodes:[\x7blabel:'n',style:\x7bw:'${x}',h:NaN\x7d\x7d]\x7d]\x7d"

def flood : DocumentDecl where
  sources := .named [("s", [.object [("x", .number (1 / 0))]])]
  templates := [⟨"t", "s", none, true, none, .skip, [⟨none, "n", none, none, [
    ("w", .literal (.text "${x}")), ("h", .literal (.number (0 / 0)))]⟩], []⟩]
  legends := []

/-- It is no text that the one property shows, and no number that the other does. -/
theorem flood_shows_null :
    ((Diagram.parse .standard floodText).toOption.map fun d => styleLines d.elements) =
      some ["\x7b\"w\":null,\"h\":null\x7d"] ∧
    ∃ doc, flood.compile .tableau = .ok doc ∧ ∃ t em, (t, em) ∈ doc.emissions ∧
      evaluatePath "x" em.origin.record t.lookup = .ok (some (.number (1 / 0))) ∧
      Element.styleJson em.element.style =
        .object [("w", .number "null"), ("h", .number "null")] := by
  refine ⟨by decide +kernel, _, rfl, _, _, List.mem_of_getElem? (i := 0) rfl, rfl, ?_⟩
  rfl

end Document

end Cartouche
