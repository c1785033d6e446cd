import Cartouche.Data.Reading
import Cartouche.Json5.Reader
import Cartouche.Template.Blueprint

/-!
Documents as they are written: sources, templates and legends, before anything is checked. A text
is read as JSON; one whose syntax is at fault is read once more in the wider format.
-/
namespace Cartouche
open Decimal Json

/-- A number or a text. -/
inductive Scalar where
  | number (n : Float)
  | text (s : String)

structure SourceDecl where
  name : String
  records : List Value

/-- Sources under their names, or in a list. -/
inductive SourcesDecl where
  | named (sources : Table (List Value))
  | listed (sources : List SourceDecl)

/-- Categories by their keys alone, or with their styles. -/
inductive CategoriesDecl where
  | keys (keys : List Scalar)
  | table (styles : Table (Option Scalar))

structure CategoryDecl where
  field : String
  categories : CategoriesDecl
  fallback : Option Scalar
  omitUnmatched : Bool

structure ScaleDecl where
  field : String
  domain : Float × Float
  range : Scalar × Scalar

structure BreakpointDecl where
  value : Float
  style : Scalar

structure ThresholdDecl where
  field : String
  breakpoints : List BreakpointDecl

inductive MappingDecl where
  | category (decl : CategoryDecl)
  | scale (decl : ScaleDecl)
  | threshold (decl : ThresholdDecl)

inductive StyleDecl where
  | literal (value : Scalar)
  | mapping (decl : MappingDecl)

structure NodeDecl where
  id : Option String
  label : String
  subtitle : Option String
  shape : Option String
  style : Table StyleDecl

structure EdgeDecl where
  id : Option String
  source : String
  target : String
  label : Option String
  kind : Option String
  style : Table StyleDecl

structure TemplateDecl where
  id : String
  source : String
  filter : Option String
  safeNavigation : Bool
  defaultValue : Option Value
  onError : ErrorPolicy
  nodes : List NodeDecl
  edges : List EdgeDecl

structure LegendDecl where
  property : String
  field : String
  position : Option String
  title : Option String
  steps : Option Nat
  width : Option Float32
  height : Option Float32

structure DocumentDecl where
  sources : SourcesDecl
  templates : List TemplateDecl
  legends : List LegendDecl

def Scalar.reader : Reader Scalar :=
  .firstOf "Scalar" [Reader.real.map .number, Reader.string.map .text]

def SourceDecl.reader : Reader SourceDecl :=
  .record "struct SourceDecl" ⟨"", []⟩ [
    .of "name" .required .string fun name d => { d with name },
    .of "records" .defaulted (.list Value.reader) fun records d => { d with records }]

def SourcesDecl.reader : Reader SourcesDecl :=
  .firstOf "SourcesDecl" [
    (Reader.table (.list Value.reader)).map .named, (Reader.list SourceDecl.reader).map .listed]

def CategoriesDecl.reader : Reader CategoriesDecl :=
  .firstOf "CategoryDecl" [
    (Reader.list Scalar.reader).map .keys, (Reader.table (.option Scalar.reader)).map .table]

def CategoryDecl.reader : Reader CategoryDecl :=
  .record "struct variant MappingDecl::Category" ⟨"", .keys [], none, false⟩ [
    .of "field" .required .string fun field d => { d with field },
    .of "categories" .required CategoriesDecl.reader fun categories d => { d with categories },
    .of "fallback" .defaulted (.option Scalar.reader) fun fallback d => { d with fallback },
    .of "omitUnmatched" .defaulted .bool fun omitUnmatched d => { d with omitUnmatched }]

def ScaleDecl.reader : Reader ScaleDecl :=
  .record "struct variant MappingDecl::Scale" ⟨"", (0, 0), (.number 0, .number 0)⟩ [
    .of "field" .required .string fun field d => { d with field },
    .of "domain" .required (.pair .real .real) fun domain d => { d with domain },
    .of "range" .required (.pair Scalar.reader Scalar.reader) fun range d => { d with range }]

def BreakpointDecl.reader : Reader BreakpointDecl :=
  .record "struct BreakpointDecl" ⟨0, .number 0⟩ [
    .of "value" .required .real fun value d => { d with value },
    .of "style" .required Scalar.reader fun style d => { d with style }]

def ThresholdDecl.reader : Reader ThresholdDecl :=
  .record "struct variant MappingDecl::Threshold" ⟨"", []⟩ [
    .of "field" .required .string fun field d => { d with field },
    .of "breakpoints" .required (.list BreakpointDecl.reader) fun breakpoints d =>
      { d with breakpoints }]

def MappingDecl.reader : Reader MappingDecl :=
  .tagged "internally tagged enum MappingDecl" "kind" [
    ("category", CategoryDecl.reader.map .category), ("scale", ScaleDecl.reader.map .scale),
    ("threshold", ThresholdDecl.reader.map .threshold)]

def StyleDecl.reader : Reader StyleDecl :=
  .firstOf "StyleBindingDecl" [Scalar.reader.map .literal, MappingDecl.reader.map .mapping]

def NodeDecl.reader : Reader NodeDecl :=
  .record "struct NodeDecl" ⟨none, "", none, none, []⟩ [
    .of "id" .defaulted (.option .string) fun id d => { d with id },
    .of "label" .defaulted .string fun label d => { d with label },
    .of "subtitle" .defaulted (.option .string) fun subtitle d => { d with subtitle },
    .of "shape" .defaulted (.option .string) fun shape d => { d with shape },
    .of "style" .defaulted (.table StyleDecl.reader) fun style d => { d with style }]

def EdgeDecl.reader : Reader EdgeDecl :=
  .record "struct EdgeDecl" ⟨none, "", "", none, none, []⟩ [
    .of "id" .defaulted (.option .string) fun id d => { d with id },
    .of "from" .required .string fun source d => { d with source },
    .of "to" .required .string fun target d => { d with target },
    .of "label" .defaulted (.option .string) fun label d => { d with label },
    .of "kind" .defaulted (.option .string) fun kind d => { d with kind },
    .of "style" .defaulted (.table StyleDecl.reader) fun style d => { d with style }]

def TemplateDecl.reader : Reader TemplateDecl :=
  .record "struct TemplateDecl" ⟨"", "", none, true, none, .skip, [], []⟩ [
    .of "id" .required .string fun id d => { d with id },
    .of "from" .required .string fun source d => { d with source },
    .of "filter" .defaulted (.option .string) fun filter d => { d with filter },
    .of "safeNavigation" .defaulted .bool fun safeNavigation d => { d with safeNavigation },
    .of "defaultValue" .defaulted (.option Value.reader) fun defaultValue d =>
      { d with defaultValue },
    .of "onError" .defaulted (.variant ErrorPolicy.words) fun onError d => { d with onError },
    .of "nodes" .defaulted (.list NodeDecl.reader) fun nodes d => { d with nodes },
    .of "edges" .defaulted (.list EdgeDecl.reader) fun edges d => { d with edges }]

def LegendDecl.reader : Reader LegendDecl :=
  .record "struct LegendDecl" ⟨"", "", none, none, none, none, none⟩ [
    .of "property" .defaulted .string fun property d => { d with property },
    .of "field" .defaulted .string fun field d => { d with field },
    .of "position" .defaulted (.option .string) fun position d => { d with position },
    .of "title" .defaulted (.option .string) fun title d => { d with title },
    .of "steps" .defaulted (.option .count) fun steps d => { d with steps },
    .of "width" .defaulted (.option .real32) fun width d => { d with width },
    .of "height" .defaulted (.option .real32) fun height d => { d with height }]

def DocumentDecl.reader : Reader DocumentDecl :=
  .record "struct DocumentDecl" ⟨.named [], [], []⟩ [
    .of "sources" .defaulted SourcesDecl.reader fun sources d => { d with sources },
    .of "templates" .defaulted (.list TemplateDecl.reader) fun templates d =>
      { d with templates },
    .of "legends" .defaulted (.list LegendDecl.reader) fun legends d => { d with legends }]

/-- Why a text in the wider format cannot be read. -/
inductive Json5Error where
  | grammar
  /-- Well written, but of another shape. -/
  | unfit (fault : Fault)

def Json5Error.message? : Json5Error → Option String
  | .grammar => none
  | .unfit fault => some (fault.message .json5)

/-- A whole text in the wider format. -/
def parseJson5 {α : Type} (r : Reader α) (text : String) : Except Json5Error α :=
  match Json5.read? text.toList with
  | none => .error .grammar
  | some node =>
    match r.run .json5 node none with
    | .ok value => .ok value
    | .error fault => .error (.unfit fault)

/-- Why a text is no document. -/
inductive DocumentFault where
  | json (fault : Fault)
  | json5 (error : Json5Error)

/-- A text that fits is a document, one of the wrong shape is refused for its shape, and any other
is read in the wider format. -/
def DocumentDecl.parse (text : String) : Except DocumentFault DocumentDecl :=
  match reader.parse text with
  | .ok decl => .ok decl
  | .error fault =>
    if fault.isSyntactic then
      match parseJson5 reader text with
      | .ok decl => .ok decl
      | .error error => .error (.json5 error)
    else .error (.json fault)

end Cartouche
