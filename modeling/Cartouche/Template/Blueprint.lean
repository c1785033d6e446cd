import Cartouche.Element
import Cartouche.Style.Mapping
import Cartouche.Template.Text

/-!
Templates: blueprints of nodes and edges over the records of one source. A template is checked once,
for every text it can ever look up, before any record is read.
-/
namespace Cartouche
open Decimal Text

/-- How a style property gets its value. -/
inductive StyleBinding where
  /-- Text with tokens; one token alone keeps the value it leads to. -/
  | literal (text : String)
  | constant (value : StyleValue)
  | mapped (mapping : StyleMapping)

/-- Keeps the records whose value is true, or with a negation those whose value is not. -/
structure Filter where
  path : String
  negate : Bool

/-- What stands between an opening brace with its dollar sign and a closing brace at the end. -/
def insideBraces? (text : List Char) : Option (List Char) :=
  match text with
  | '$' :: '\x7b' :: rest =>
    match rest.reverse with
    | '\x7d' :: inside => some inside.reverse
    | _ => none
  | _ => none

namespace Filter

/-- A path, with an exclamation mark before it or with braces around it or with both. -/
def parse (text : String) : Except PathError Filter := do
  let text := trim text.toList
  let (negate, text) := match text with
    | '!' :: rest => (true, trimStart rest)
    | text => (false, text)
  let path : String := .ofList (match insideBraces? text with
    | some inside => trim inside
    | none => text)
  validatePath path
  return { path, negate }

end Filter

structure NodeBlueprint where
  id : Option String
  label : String
  subtitle : Option String
  shape : Option String
  style : Table StyleBinding

structure EdgeBlueprint where
  id : Option String
  source : String
  target : String
  label : Option String
  kind : Option String
  style : Table StyleBinding

/-- What becomes of an element whose lookup fails. -/
inductive ErrorPolicy where
  /-- It is left out, with a note. -/
  | skip
  /-- The whole expansion fails. -/
  | abort
deriving DecidableEq

def ErrorPolicy.words : List (String × ErrorPolicy) := [("skip", .skip), ("abort", .abort)]

def ErrorPolicy.name : ErrorPolicy → String
  | .skip => "skip"
  | .abort => "abort"

structure Template where
  id : String
  source : String
  filter : Option Filter
  nodes : List NodeBlueprint
  edges : List EdgeBlueprint
  lookup : Lookup
  onError : ErrorPolicy

/-- Why a template cannot be made, or cannot be expanded. -/
inductive TemplateError where
  | missingSource (template source : String)
  | mapping (template property : String) (cause : MappingError)
  | path (template field : String) (cause : PathError)
  | record (template : String) (index : Nat) (property : String) (cause : PathError)

def TemplateError.message : TemplateError → String
  | .missingSource template source =>
    "template `" ++ template ++ "` reads from unknown data source `" ++ source ++ "`"
  | .mapping template property cause =>
    "template `" ++ template ++ "`: invalid mapping for `" ++ property ++ "`: " ++ cause.message
  | .path template field cause =>
    "template `" ++ template ++ "`: invalid expression in `" ++ field ++ "`: " ++ cause.message
  | .record template index property cause =>
    "template `" ++ template ++ "`, record " ++ .ofList (digitsOf index) ++ ": `" ++ property ++
      "`: " ++ cause.message

def StyleBinding.mapping? : StyleBinding → Option StyleMapping
  | .mapped m => some m
  | _ => none

/-- A text a template holds, with the name it goes by in messages. -/
structure NamedText where
  name : String
  text : String

def namedTexts (style : Table StyleBinding) (name : String → String) : List NamedText :=
  style.filterMap fun (property, binding) =>
    match binding with
    | .literal text => some ⟨name property, text⟩
    | _ => none

def optionalText (name : String) (text : Option String) : List NamedText :=
  (text.map (⟨name, ·⟩)).toList

/-- The place of a blueprint's property in its template. -/
def fieldName (list : String) (index : Nat) (property : String) : String :=
  list ++ "[" ++ .ofList (digitsOf index) ++ "]." ++ property

def NodeBlueprint.texts (b : NodeBlueprint) (index : Nat) : List NamedText :=
  let name := fieldName "nodes" index
  optionalText (name "id") b.id ++ [⟨name "label", b.label⟩] ++
    optionalText (name "subtitle") b.subtitle ++ optionalText (name "shape") b.shape ++
    namedTexts b.style name

def EdgeBlueprint.texts (b : EdgeBlueprint) (index : Nat) : List NamedText :=
  let name := fieldName "edges" index
  optionalText (name "id") b.id ++ [⟨name "from", b.source⟩, ⟨name "to", b.target⟩] ++
    optionalText (name "label") b.label ++ optionalText (name "kind") b.kind ++
    namedTexts b.style name

namespace Template
variable (t : Template)

/-- Every mapping, nodes first, in declared order. -/
def mappings : List StyleMapping :=
  (t.nodes.map NodeBlueprint.style ++ t.edges.map EdgeBlueprint.style).flatMap fun style =>
    style.filterMap fun (_, binding) => binding.mapping?

/-- Every text whose tokens are looked up, in declared order. -/
def texts : List NamedText :=
  t.nodes.zipIdx.flatMap (fun (b, i) => b.texts i) ++
    t.edges.zipIdx.flatMap (fun (b, i) => b.texts i)

def checkPath (name path : String) : Except TemplateError Unit :=
  match validatePath path with
  | .ok () => .ok ()
  | .error cause => .error (.path t.id name cause)

/-- The first token without a proper path is refused, and then the filter's path. -/
def validate : Except TemplateError Unit := do
  t.texts.forM fun named => (tokenPaths named.text).forM (t.checkPath named.name)
  match t.filter with
  | some filter => t.checkPath "filter" filter.path
  | none => return ()

end Template

end Cartouche
