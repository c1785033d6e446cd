import Cartouche.Proofs.Compiled
import Cartouche.Proofs.Records
import Cartouche.Proofs.Thresholds

/-!
Elements and legends show the same. An element gets its style from a mapping and its record, a
legend its rows from the mapping alone; in the row that stands for the record's value the legend
shows the style that the element has.
-/
namespace Cartouche
open Decimal Text

/-- The category of a value is its text, and that of an undefined one is empty. -/
def categoryOf (x : Option Value) : String :=
  (x.map Value.display).getD ""

/-- What an element shows for a property that a mapping decides, as against a legend. -/
structure Agrees (m : StyleMapping) (x : Option Value) (shown : Option StyleValue)
    (legend : Legend) : Prop where
  /-- By thresholds every row has a value, and one row alone stands at the place of the number. -/
  threshold : ∀ c, m = .threshold c → ∃ values i row,
    legend.entries.map LegendEntry.value = values.map some ∧ legend.entries[i]? = some row ∧
      (∀ j, IsPlace values (inputNumber x) j ↔ j = i) ∧
      shown.map StyleValue.legendText = some row.style
  /-- A declared category labels one row alone. -/
  category : ∀ c, m = .category c → categoryOf x ∈ c.entries.keys →
    ∃ row ∈ legend.entries, row.label = categoryOf x ∧
      (∀ other ∈ legend.entries, other.label = categoryOf x → other = row) ∧
      shown.map StyleValue.legendText = some row.style
  /-- Nothing is shown only where unmatched categories are left out. -/
  unset : shown = none →
    ∃ c, m = .category c ∧ categoryOf x ∉ c.entries.keys ∧ c.fallback = .omitted

section Rows
variable {x : Option Value} {shown value : Option StyleValue} {legend : Legend}

theorem Agrees.of_some {m : StyleMapping} (h : Agrees m x value legend)
    (hshown : ∀ s, value = some s → shown = some s) : Agrees m x shown legend := by
  have hmap : ∀ text, value.map StyleValue.legendText = some text →
      shown.map StyleValue.legendText = some text := by
    intro text ht
    obtain ⟨s, hs, rfl⟩ := Option.map_eq_some_iff.mp ht
    rw [hshown s hs]
    rfl
  constructor
  · intro c hc
    obtain ⟨values, i, row, hvalues, hrow, hplace, hstyle⟩ := h.threshold c hc
    exact ⟨values, i, row, hvalues, hrow, hplace, hmap _ hstyle⟩
  · intro c hc hkey
    obtain ⟨row, hrow, hlabel, honly, hstyle⟩ := h.category c hc hkey
    exact ⟨row, hrow, hlabel, honly, hmap _ hstyle⟩
  · intro hnone
    apply h.unset
    cases hv : value with
    | none => rfl
    | some s =>
      rw [hshown s hv] at hnone
      cases hnone

/-- The row of a breakpoint, whatever its label. -/
structure IsRowOf (row : LegendEntry) (b : Breakpoint) : Prop where
  value : row.value = some b.value
  style : row.style = b.style.legendText

theorem forall₂_thresholdEntries (above : Option Float) (bs : List Breakpoint) :
    List.Forall₂ IsRowOf (thresholdEntries above bs) bs := by
  induction bs generalizing above with
  | nil => exact .nil
  | cons b rest ih => exact .cons ⟨rfl, rfl⟩ (ih _)

theorem map_value_thresholdEntries (above : Option Float) (bs : List Breakpoint) :
    (thresholdEntries above bs).map LegendEntry.value =
      (bs.map Breakpoint.value).map some := by
  rw [List.map_map, ← List.forall₂_eq_eq_eq, List.forall₂_map_left_iff, List.forall₂_map_right_iff]
  exact (forall₂_thresholdEntries above bs).imp fun _ _ h => h.value

theorem map_style_thresholdEntries (above : Option Float) (bs : List Breakpoint) :
    (thresholdEntries above bs).map LegendEntry.style =
      (bs.map Breakpoint.style).map StyleValue.legendText := by
  rw [List.map_map, ← List.forall₂_eq_eq_eq, List.forall₂_map_left_iff, List.forall₂_map_right_iff]
  exact (forall₂_thresholdEntries above bs).imp fun _ _ h => h.style

theorem agrees_threshold {c : ThresholdMapping} (hc : c.WellFormed)
    (hl : legend.entries = thresholdEntries none c.breakpoints) :
    Agrees (.threshold c) x (some (c.resolve x)) legend := by
  have hx := isNaN_inputNumber x
  have hne : c.breakpoints.map Breakpoint.value ≠ [] :=
    fun hnil => hc.nonempty (List.map_eq_nil_iff.mp hnil)
  have hstyle : (legend.entries[place (c.breakpoints.map Breakpoint.value)
      (inputNumber x)]?).map LegendEntry.style = some (c.resolve x).legendText := by
    rw [← List.getElem?_map, hl, map_style_thresholdEntries, List.getElem?_map, List.getElem?_map,
      hc.style_at_place]
    rfl
  constructor
  · rintro _ ⟨⟩
    obtain ⟨row, hrow, hs⟩ := Option.map_eq_some_iff.mp hstyle
    refine ⟨_, _, row, ?_, hrow, fun j => hc.descending.isPlace_iff hne hx, ?_⟩
    · rw [hl, map_value_thresholdEntries]
    · rw [hs]
      rfl
  · rintro _ ⟨⟩
  · rintro ⟨⟩

theorem resolve_of_declared {c : CategoryMapping} {style : StyleValue}
    (h : c.entries.get? (categoryOf x) = some style) : c.resolve x = some style := by
  unfold CategoryMapping.resolve
  rw [show c.entries.get? ((x.map Value.display).getD "") = some style from h]

theorem undeclared_of_resolve_eq_none {c : CategoryMapping} (h : c.resolve x = none) :
    categoryOf x ∉ c.entries.keys ∧ c.fallback = .omitted := by
  unfold CategoryMapping.resolve at h
  split at h
  · cases h
  · next hnone =>
    split at h
    · cases h
    · next hf => exact ⟨(Table.get?_eq_none_iff _ _).mp hnone, hf⟩

theorem agrees_category {c : CategoryMapping} (hc : c.entries.keys.Nodup)
    (hl : legend.entries = c.entries.map fun (key, style) => ⟨key, style.legendText, none⟩) :
    Agrees (.category c) x (c.resolve x) legend := by
  constructor
  · rintro _ ⟨⟩
  · rintro _ ⟨⟩ hkey
    cases hs : c.entries.get? (categoryOf x) with
    | none => exact absurd hkey ((Table.get?_eq_none_iff _ _).mp hs)
    | some style =>
      have hmem := Table.mem_of_get?_eq_some hs
      rw [resolve_of_declared hs, hl]
      refine ⟨_, List.mem_map_of_mem hmem, rfl, ?_, rfl⟩
      intro other ho hlabel
      obtain ⟨⟨key, style'⟩, he, rfl⟩ := List.mem_map.mp ho
      have heq := List.inj_on_of_nodup_map hc he hmem hlabel
      cases heq
      rfl
  · intro hnone
    exact ⟨c, rfl, undeclared_of_resolve_eq_none hnone⟩

end Rows

namespace StyleMapping

/-- What every mapping keeps that is made. -/
def WellFormed : StyleMapping → Prop
  | .category m => m.entries.keys.Nodup
  | .scale _ => True
  | .threshold m => m.WellFormed

theorem wellFormed_of_compile {palette : Palette} {decl : MappingDecl} {property : String}
    {m : StyleMapping} (h : decl.compile palette property = .ok m) : m.WellFormed := by
  unfold MappingDecl.compile at h
  cases decl with
  | category d =>
    obtain ⟨c, hc, rfl⟩ := map_eq_ok_iff.mp h
    obtain ⟨_, _, rfl⟩ := CategoryMapping.make_eq_ok_iff.mp hc
    change (MappingDecl.entries palette d.categories).keys.Nodup
    unfold MappingDecl.entries
    split
    · exact Table.nodup_keys_ofList _
    · exact Table.nodup_keys_ofList _
  | scale d =>
    dsimp only at h
    split at h
    · cases h
    · obtain ⟨s, _, rfl⟩ := map_eq_ok_iff.mp h
      trivial
  | threshold d =>
    obtain ⟨c, hc, rfl⟩ := map_eq_ok_iff.mp h
    exact ThresholdMapping.wellFormed_of_make hc

/-- What a mapping gives for a value is what its legend shows, wherever the legend stands. -/
theorem agrees_build {m : StyleMapping} (hm : m.WellFormed) (x : Option Value)
    (metrics : Metrics Float32) (options : LegendOptions Float32) (anchor : Anchor) :
    Agrees m x (m.resolve x) (Legend.build metrics ⟨m, options⟩ anchor) := by
  cases m with
  | category c => exact agrees_category hm rfl
  | scale c =>
    constructor
    · rintro _ ⟨⟩
    · rintro _ ⟨⟩
    · rintro ⟨⟩
  | threshold c => exact agrees_threshold hm rfl

end StyleMapping

namespace Template
variable {t : Template} {records : List Value} {record : Value} {bindings : Table StyleBinding}
  {style : Table StyleValue} {property : String} {binding : StyleBinding} {o : Origin} {d : Draft}

/-- A style has the value of every binding that gives one. -/
theorem get?_of_style (h : t.style record bindings = .ok style)
    (hb : bindings.get? property = some binding) :
    ∃ value, t.bindingValue record property binding = .ok value ∧
      ∀ s, value = some s → style.get? property = some s := by
  induction bindings generalizing style with
  | nil => cases hb
  | cons entry rest ih =>
    obtain ⟨name, first⟩ := entry
    obtain ⟨value, hvalue, h⟩ := bind_eq_ok_iff.mp h
    obtain ⟨others, hothers, h⟩ := bind_eq_ok_iff.mp h
    rw [Table.get?_cons] at hb
    split at hb
    · next hname =>
      subst hname
      cases hb
      refine ⟨value, hvalue, ?_⟩
      rintro s rfl
      cases h
      rw [Table.get?_cons, if_pos rfl]
    · next hname =>
      obtain ⟨own, hown, hget⟩ := ih hothers hb
      refine ⟨own, hown, ?_⟩
      intro s hs
      cases value with
      | none =>
        cases h
        exact hget s hs
      | some v =>
        cases h
        rw [Table.get?_cons, if_neg hname]
        exact hget s hs

/-- What an element shows for a mapped property agrees with every legend of the mapping. -/
theorem agrees_emission {em : Emission} (hem : em ∈ t.emissions records) {m : StyleMapping}
    (hm : m.WellFormed) (hb : em.origin.style.get? property = some (.mapped m)) :
    ∃ x, evaluatePath m.field em.origin.record t.lookup = .ok x ∧
      ∀ metrics options anchor, Agrees m x (em.element.style.get? property)
        (Legend.build metrics ⟨m, options⟩ anchor) := by
  obtain ⟨before, after, hsplit⟩ := List.append_of_mem hem
  obtain ⟨ids, d, hd, _, _, helement⟩ := emission_cases hsplit
  have hstyle := style_of_draft? (mem_drafted.mp hd).2
  obtain ⟨value, hvalue, hget⟩ := get?_of_style hstyle hb
  obtain ⟨x, hx, rfl⟩ := map_eq_ok_iff.mp hvalue
  refine ⟨x, ?_, ?_⟩
  · exact mapError_eq_ok_iff.mp hx
  · intro metrics options anchor
    rw [helement]
    exact (StyleMapping.agrees_build hm x metrics options anchor).of_some hget

/-- A mapping that decides a property of an element is one of its template. -/
theorem mem_mappings_of_emission {em : Emission} (hem : em ∈ t.emissions records)
    {m : StyleMapping} (hb : em.origin.style.get? property = some (.mapped m)) :
    m ∈ t.mappings := by
  obtain ⟨before, after, hsplit⟩ := List.append_of_mem hem
  obtain ⟨_, d, hd, _⟩ := emission_cases hsplit
  obtain ⟨⟨record, _, ho⟩, _⟩ := mem_drafted.mp hd
  refine mem_mappings ?_ (Table.mem_of_get?_eq_some hb)
  rcases mem_origins ho with ⟨b, hb, hor⟩ | ⟨b, hb, hor⟩
  · rw [hor]
    exact List.mem_append_left _ (List.mem_map_of_mem hb)
  · rw [hor]
    exact List.mem_append_right _ (List.mem_map_of_mem hb)

end Template

namespace Document

/-- The elements of all templates with the templates and the origins they come from. -/
def emissions (doc : Document) : List (Template × Emission) :=
  doc.templates.flatMap fun t =>
    (t.emissions ((doc.sources.get? t.source).getD [])).map (t, ·)

theorem elements_expandAll {sources : Table (List Value)} {templates : List Template}
    {out : Expansion} (h : expandAll sources templates = .ok out) :
    out.elements = templates.flatMap fun t =>
      (t.emissions ((sources.get? t.source).getD [])).map Emission.element := by
  induction templates generalizing out with
  | nil =>
    cases h
    rfl
  | cons t rest ih =>
    obtain ⟨first, hfirst, h⟩ := bind_eq_ok_iff.mp h
    obtain ⟨others, hothers, h⟩ := bind_eq_ok_iff.mp h
    cases h
    obtain ⟨_, records, hs, _, rfl⟩ := Template.expand_eq_ok_iff.mp hfirst
    rw [List.flatMap_cons, ← ih hothers, hs, Option.getD_some, Template.map_element_emissions]

/-- The elements of a diagram are those of the emissions. -/
theorem elements_expand {doc : Document} {layout : Metrics Float32} {diagram : Diagram}
    (h : doc.expand layout = .ok diagram) :
    diagram.elements = doc.emissions.map fun (_, em) => em.element := by
  obtain ⟨out, hout, h⟩ := bind_eq_ok_iff.mp h
  cases h
  rw [emissions, List.map_flatMap]
  simp only [List.map_map, Function.comp_def]
  exact elements_expandAll hout

theorem mem_emissions {doc : Document} {t : Template} {em : Emission} :
    (t, em) ∈ doc.emissions ↔
      t ∈ doc.templates ∧ em ∈ t.emissions ((doc.sources.get? t.source).getD []) := by
  rw [emissions, List.mem_flatMap]
  constructor
  · rintro ⟨t', ht, hem⟩
    obtain ⟨em', hem, heq⟩ := List.mem_map.mp hem
    cases heq
    exact ⟨ht, hem⟩
  · rintro ⟨ht, hem⟩
    exact ⟨t, ht, List.mem_map_of_mem hem⟩

/-- Whatever element a compiled document gives, its styles agree with the legends of the mappings
that decide them, under any measures and options and at any anchor. -/
theorem elements_agree_with_legends (palette : Palette) (decl : DocumentDecl) (doc : Document)
    (h : decl.compile palette = .ok doc) :
    (∀ layout diagram, doc.expand layout = .ok diagram →
      diagram.elements = doc.emissions.map fun (_, em) => em.element) ∧
    ∀ t em, (t, em) ∈ doc.emissions → ∀ property m,
      em.origin.style.get? property = some (.mapped m) →
      ∃ x, evaluatePath m.field em.origin.record t.lookup = .ok x ∧
        ∀ metrics options anchor, Agrees m x (em.element.style.get? property)
          (Legend.build metrics ⟨m, options⟩ anchor) := by
  constructor
  · exact fun _ _ => elements_expand
  · intro t em hem property m hb
    obtain ⟨ht, hem⟩ := mem_emissions.mp hem
    have hm := List.mem_flatMap.mpr ⟨t, ht, Template.mem_mappings_of_emission hem hb⟩
    obtain ⟨binding, -, hmakes⟩ := exists_related_right (makes_mappings h) hm
    exact Template.agrees_emission hem (StyleMapping.wellFormed_of_compile hmakes) hb

/-- Stations with a load, which may be a text or be missing, filled by thresholds that are declared
out of order and one of them twice, and outlined by kind. -/
def stations : DocumentDecl where
  sources := .named [("stations", [
    .object [("name", .text "Fell"), ("load", .number 7), ("kind", .text "hub")],
    .object [("name", .text "Moor"), ("load", .text " 12 "), ("kind", .text "halt")],
    .object [("name", .text "Tarn")]])]
  templates := [⟨"line", "stations", none, true, none, .skip, [⟨none, "${name}", none, none, [
    ("fill", .mapping (.threshold
      ⟨"load", [⟨5, .text "amber"⟩, ⟨10, .text "red"⟩, ⟨5, .text "green"⟩]⟩)),
    ("stroke", .mapping (.category
      ⟨"kind", .table [("hub", some (.text "black"))], none, true⟩))]⟩], []⟩]
  legends := []

def loads : List Breakpoint :=
  [⟨10, .text "red"⟩, ⟨5, .text "amber"⟩, ⟨5, .text "green"⟩]

def load : StyleMapping :=
  .threshold ⟨"fill", "load", loads⟩

def line : Template where
  id := "line"
  source := "stations"
  filter := none
  nodes := [⟨none, "${name}", none, none, [("fill", .mapped load),
    ("stroke", .mapped (.category ⟨"stroke", "kind", [("hub", .text "black")], .omitted⟩))]⟩]
  edges := []
  lookup := ⟨true, none⟩
  onError := .skip

def stationsDocument : Document :=
  ⟨stations.sources.compile.toOption.getD [], [line], []⟩

theorem loads_eq : loads = [⟨5, .text "amber"⟩, ⟨10, .text "red"⟩,
    ⟨5, .text "green"⟩].mergeSort Breakpoint.before := by
  have hlower : Breakpoint.before ⟨5, .text "amber"⟩ ⟨10, .text "red"⟩ = false := by decide
  have hhigher : Breakpoint.before ⟨10, .text "red"⟩ ⟨5, .text "green"⟩ = true := by decide
  have hequal : Breakpoint.before ⟨5, .text "amber"⟩ ⟨5, .text "green"⟩ = true := by decide
  simp [List.mergeSort, List.MergeSort.Internal.splitInTwo, hlower, hhigher, hequal, loads]

theorem stations_agree_with_legends : stations.compile .tableau = .ok stationsDocument ∧
    (stationsDocument.emissions.map fun (_, em) => em.element.style) = [
      [("fill", .text "amber"), ("stroke", .text "black")], [("fill", .text "red")],
      [("fill", .text "green")]] ∧
    ∃ em, (line, em) ∈ stationsDocument.emissions ∧
      em.origin.style.get? "fill" = some (.mapped load) ∧
      ∃ x, evaluatePath "load" em.origin.record line.lookup = .ok x ∧
        ∀ metrics options anchor, Agrees load x (em.element.style.get? "fill")
          (Legend.build metrics ⟨load, options⟩ anchor) := by
  have hcompile : stations.compile .tableau = .ok stationsDocument := by
    unfold stationsDocument line load
    rw [loads_eq]
    rfl
  obtain ⟨em, hem, hb⟩ : ∃ em, (line, em) ∈ stationsDocument.emissions ∧
      em.origin.style.get? "fill" = some (.mapped load) :=
    ⟨_, List.mem_of_getElem? (i := 1) rfl, rfl⟩
  refine ⟨hcompile, rfl, em, hem, hb, ?_⟩
  exact (elements_agree_with_legends .tableau stations _ hcompile).2 line em hem "fill" load hb

end Document

end Cartouche
