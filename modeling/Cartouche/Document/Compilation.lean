import Cartouche.Document.Declaration
import Cartouche.Legend.Synthesis
import Cartouche.Theme

/-!
Documents that are ready to expand: every mapping is made, every template is checked, and every
legend has found its mapping.
-/
namespace Cartouche
open Decimal Text

/-- Why a document cannot be expanded. -/
inductive DocumentError where
  | template (cause : TemplateError)
  | duplicateSource (name : String)
  | duplicateTemplate (id : String)
  | unknownLegendMapping (property field : String)
  | invalidLegendPosition (token : String)
  | unreadable (fault : DocumentFault)

namespace DocumentError

/-- The text of an error; texts that are not even in the wider format are refused without a reason
of their own. -/
def message? : DocumentError → Option String
  | .template cause => some cause.message
  | .duplicateSource name => some ("duplicate data source `" ++ name ++ "`")
  | .duplicateTemplate id => some ("duplicate template id `" ++ id ++ "`")
  | .unknownLegendMapping property field =>
    some ("legend for " ++ property ++ ":" ++ field ++ " does not match any mapping")
  | .invalidLegendPosition token => some ("unknown legend position `" ++ token ++ "`")
  | .unreadable (.json fault) => some ("invalid document: " ++ fault.message .json)
  | .unreadable (.json5 error) => error.message?.map ("invalid JSON5 document: " ++ ·)

end DocumentError

namespace Scalar

def toText : Scalar → String
  | .number n => numberText n
  | .text s => s

/-- Numbers stay numbers. -/
def toStyle : Scalar → StyleValue
  | .number n => .number n
  | .text s => .text s

end Scalar

namespace MappingDecl
variable (palette : Palette)

/-- Categories with their styles; those without one take the colours of the palette in turn. -/
def entries : CategoriesDecl → Table StyleValue
  | .keys keys =>
    Table.ofList (keys.zipIdx.map fun (key, i) => (key.toText, .text (palette.color i)))
  | .table styles =>
    Table.ofList (styles.zipIdx.map fun ((key, style), i) =>
      (key, (style.map Scalar.toStyle).getD (.text (palette.color i))))

def fallback (d : CategoryDecl) : Fallback :=
  if d.omitUnmatched then .omitted
  else .style ((d.fallback.map Scalar.toStyle).getD (.text palette.neutral))

def compile (property : String) : MappingDecl → Except MappingError StyleMapping
  | .category d =>
    (CategoryMapping.make property d.field (entries palette d.categories) (fallback palette d)).map
      .category
  | .scale d =>
    let (first, last) := (d.range.1.toText, d.range.2.toText)
    match ScaleRange.parse? first last with
    | none => .error (.invalidRange first last)
    | some range => (ScaleMapping.make property d.field d.domain.1 d.domain.2 range).map .scale
  | .threshold d =>
    (ThresholdMapping.make property d.field
      (d.breakpoints.map fun b => ⟨b.value, b.style.toStyle⟩)).map .threshold

end MappingDecl

/-- The binding of one style property in a template. -/
def StyleDecl.compile (palette : Palette) (template property : String) :
    StyleDecl → Except TemplateError StyleBinding
  | .literal (.number n) => .ok (.constant (.number n))
  | .literal (.text s) => .ok (.literal s)
  | .mapping decl =>
    match decl.compile palette property with
    | .ok m => .ok (.mapped m)
    | .error cause => .error (.mapping template property cause)

def compileStyle (palette : Palette) (template : String) (style : Table StyleDecl) :
    Except TemplateError (Table StyleBinding) :=
  style.mapM fun (property, decl) => do
    return (property, ← decl.compile palette template property)

namespace TemplateDecl
variable (palette : Palette)

/-- A blank filter is none. -/
def compileFilter (d : TemplateDecl) : Except TemplateError (Option Filter) :=
  match d.filter with
  | none => .ok none
  | some text =>
    if (trimmed text).isEmpty then .ok none
    else match Filter.parse text with
      | .ok filter => .ok (some filter)
      | .error cause => .error (.path d.id "filter" cause)

def compile (d : TemplateDecl) : Except TemplateError Template := do
  let filter ← d.compileFilter
  let nodes ← d.nodes.mapM fun n => do
    let style ← compileStyle palette d.id n.style
    return { id := n.id, label := n.label, subtitle := n.subtitle, shape := n.shape, style }
  let edges ← d.edges.mapM fun e => do
    let style ← compileStyle palette d.id e.style
    return { id := e.id, source := e.source, target := e.target, label := e.label,
             kind := e.kind, style }
  let template : Template :=
    { id := d.id, source := d.source, filter, nodes, edges
      lookup := ⟨d.safeNavigation, d.defaultValue⟩, onError := d.onError }
  template.validate
  return template

end TemplateDecl

/-- The sources by name; a list must not name one twice. -/
def SourcesDecl.compile : SourcesDecl → Except DocumentError (Table (List Value))
  | .named sources => .ok (Table.ofList sources)
  | .listed sources =>
    sources.foldlM (fun t d =>
      if (t.get? d.name).isSome then .error (.duplicateSource d.name)
      else .ok (t.put d.name d.records)) []

/-- The templates one after the other; an id must not come twice. -/
def compileTemplates (palette : Palette) :
    List Template → List TemplateDecl → Except DocumentError (List Template)
  | made, [] => .ok made
  | made, d :: rest =>
    if made.any (·.id == d.id) then .error (.duplicateTemplate d.id)
    else match d.compile palette with
      | .ok t => compileTemplates palette (made ++ [t]) rest
      | .error cause => .error (.template cause)

/-- The first mapping of the templates with the given property and field. -/
def findMapping (templates : List Template) (property field : String) : Option StyleMapping :=
  (templates.flatMap Template.mappings).find? fun m => m.property == property && m.field == field

/-- A legend with the mapping that it describes. -/
def LegendDecl.bind (templates : List Template) (d : LegendDecl) :
    Except DocumentError LegendRequest :=
  let property := trimmed d.property
  let field := trimmed d.field
  match findMapping templates property field with
  | none => .error (.unknownLegendMapping property field)
  | some mapping =>
    let options : LegendOptions Float32 := ⟨d.steps, none, d.title, d.width, d.height⟩
    match d.position with
    | none => .ok ⟨mapping, options⟩
    | some token =>
      match Anchor.ofToken? token with
      | some anchor => .ok ⟨mapping, { options with position := some anchor }⟩
      | none => .error (.invalidLegendPosition token)

structure Document where
  sources : Table (List Value)
  templates : List Template
  legends : List LegendRequest

def DocumentDecl.compile (palette : Palette) (d : DocumentDecl) :
    Except DocumentError Document := do
  let sources ← d.sources.compile
  let templates ← compileTemplates palette [] d.templates
  let legends ← d.legends.mapM (LegendDecl.bind templates)
  return { sources, templates, legends }

end Cartouche
