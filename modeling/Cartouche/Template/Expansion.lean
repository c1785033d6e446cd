import Cartouche.Template.Blueprint
import Cartouche.Template.Ids
import Cartouche.Text.Slug

/-!
Expansion of templates. What a record gives depends on nothing but the template and the record; in
a second step the drafts of all records get their ids in order, and in a third the ends of edges
are tied to the nodes they name.
-/
namespace Cartouche
open Decimal Text

/-- An element before it has an id. -/
structure Draft where
  requested : Option String
  body : Body
  style : Table StyleValue

/-- A lookup that failed, and the property it was for. -/
structure Failure where
  property : String
  cause : PathError

/-- What happens while a record is expanded. -/
inductive Event where
  | draft (draft : Draft)
  | note (property : Option String) (message : String)
  | failure (failure : Failure)

/-- A problem that does not end the expansion. -/
structure Diagnostic where
  template : String
  /-- The place of the record in its source. -/
  record : Nat
  property : Option String
  message : String

structure Expansion where
  elements : List Element
  diagnostics : List Diagnostic

def Diagnostic.toJson (d : Diagnostic) : Json :=
  .object (
    [("template", .text d.template), ("record", .ofNat d.record)] ++
    Json.optionalField "property" (d.property.map .text) ++
    [("message", .text d.message)])

/-- A lookup made for a property. -/
def Failure.at {α : Type} (property : String) (result : Except PathError α) : Except Failure α :=
  result.mapError (⟨property, ·⟩)

/-- The id of the node whose label reads the given value. -/
def derivedId (template value : String) : String :=
  template ++ "-" ++ slug value

namespace Template
variable (t : Template) (record : Value)

def text (property text : String) : Except Failure String :=
  Failure.at property (tryExpandText record t.lookup text)

def optionalText (property : String) : Option String → Except Failure (Option String)
  | none => .ok none
  | some text => (t.text record property text).map some

def bindingValue (property : String) : StyleBinding → Except Failure (Option StyleValue)
  | .literal text =>
    (Failure.at property (tryExpandValue record t.lookup text)).map (·.bind StyleValue.ofValue?)
  | .constant value => .ok (some value)
  | .mapped m =>
    (Failure.at property (evaluatePath m.field record t.lookup)).map m.resolve

/-- The properties that have a value, in declared order. -/
def style : Table StyleBinding → Except Failure (Table StyleValue)
  | [] => .ok []
  | (property, binding) :: rest => do
    let value ← t.bindingValue record property binding
    let others ← style rest
    return match value with
      | some value => (property, value) :: others
      | none => others

/-- The id a node gets from the first value its label reads, if it has one. -/
def labelId? (label : String) : Option String := do
  let path ← (tokenPaths label).head?
  let value ← (evaluatePath path record t.lookup).toOption.join
  let key := slug value.display
  if key.isEmpty then none else some (t.id ++ "-" ++ key)

/-- The shape a word names; any word but a blank one is noted where it names none. -/
def readShape : Option String → NodeShape × List Event
  | none => (.rectangle, [])
  | some token =>
    match NodeShape.ofToken? token with
    | some shape => (shape, [])
    | none =>
      if (trimmed token).isEmpty then (.rectangle, [])
      else (.rectangle,
        [.note (some "shape") ("unknown shape `" ++ token ++ "`, using rectangle")])

/-- What a node asks for: the expansion of its id, or else what its label gives. -/
def requestedId (b : NodeBlueprint) : Except Failure (Option String) :=
  match b.id with
  | some text => (t.text record "id" text).map some
  | none => .ok (t.labelId? record b.label)

/-- The texts of a node: its label, its subtitle and the word for its shape. -/
def nodeTexts (b : NodeBlueprint) :
    Except Failure (String × Option String × Option String) := do
  let label ← t.text record "label" b.label
  let subtitle ← t.optionalText record "subtitle" b.subtitle
  let shape ← t.optionalText record "shape" b.shape
  return (label, subtitle, shape)

def nodeEvents (b : NodeBlueprint) : List Event :=
  match t.nodeTexts record b with
  | .error failure => [.failure failure]
  | .ok (label, subtitle, token) =>
    let (shape, notes) := readShape token
    let draft : Except Failure Draft := do
      let style ← t.style record b.style
      let requested ← t.requestedId record b
      return { requested, body := .node label subtitle shape, style }
    match draft with
    | .error failure => notes ++ [.failure failure]
    | .ok draft => notes ++ [.draft draft]

/-- An edge without two ends is no failure, and has no draft. -/
def edgeDraft (b : EdgeBlueprint) : Except Failure (Option Draft) := do
  let source ← t.text record "from" b.source
  let target ← t.text record "to" b.target
  if (trimmed source).isEmpty || (trimmed target).isEmpty then return none
  let label ← t.optionalText record "label" b.label
  let kind ← t.optionalText record "kind" b.kind
  let style ← t.style record b.style
  let requested ← match b.id with
    | some text => t.text record "id" text
    | none => pure (t.id ++ "-" ++ slug source ++ "-" ++ slug target)
  return some {
    requested
    body := .edge source target (label.filter (!·.isEmpty))
      ((kind.bind EdgeKind.ofToken?).getD .solid)
    style }

def edgeEvents (b : EdgeBlueprint) : List Event :=
  match t.edgeDraft record b with
  | .error failure => [.failure failure]
  | .ok none => [.note none "edge endpoint expanded to empty text; skipped"]
  | .ok (some draft) => [.draft draft]

/-- Whether the filter keeps a record. -/
def keeps : Except Failure Bool :=
  match t.filter with
  | none => .ok true
  | some filter =>
    (Failure.at "filter" (evaluatePath filter.path record t.lookup)).map fun value =>
      isTruthy value != filter.negate

/-- What one record gives, nodes first, in declared order. -/
def events : List Event :=
  match t.keeps record with
  | .error failure => [.failure failure]
  | .ok false => []
  | .ok true => t.nodes.flatMap (t.nodeEvents record) ++ t.edges.flatMap (t.edgeEvents record)

end Template

def Event.draft? : Event → Option Draft
  | .draft d => some d
  | _ => none

/-- Skipped failures and notes are reported alike. -/
def Event.diagnostic? (template : String) (record : Nat) : Event → Option Diagnostic
  | .draft _ => none
  | .note property message => some ⟨template, record, property, message⟩
  | .failure f => some ⟨template, record, some f.property, f.cause.message⟩

def Event.failure? : Event → Option Failure
  | .failure f => some f
  | _ => none

/-- Ids for drafts, from first to last. -/
def assignIds (template : String) : IdTable → List Draft → List Element
  | _, [] => []
  | ids, d :: rest =>
    let (id, ids) := ids.allocate template d.requested
    ⟨id, d.body, d.style, template⟩ :: assignIds template ids rest

def nodeIds (elements : List Element) : List String :=
  (elements.filter Element.isNode).map Element.id

/-- An end that names no node, but whose derived id does, is taken for that node. -/
def linkEnd (template : String) (nodes : List String) (value : String) : String :=
  if value ∈ nodes then value
  else if derivedId template value ∈ nodes then derivedId template value
  else value

def Body.link (template : String) (nodes : List String) : Body → Body
  | .node label subtitle shape => .node label subtitle shape
  | .edge source target label kind =>
    .edge (linkEnd template nodes source) (linkEnd template nodes target) label kind

def linkEdges (template : String) (elements : List Element) : List Element :=
  let nodes := nodeIds elements
  elements.map fun e => { e with body := e.body.link template nodes }

namespace Template
variable (t : Template)

/-- The events of all records, each with the place of its record. -/
def allEvents (records : List Value) : List (Nat × Event) :=
  records.zipIdx.flatMap fun (record, i) => (t.events record).map (i, ·)

/-- The first failure, where failures end the expansion. -/
def failure? (events : List (Nat × Event)) : Option TemplateError :=
  match t.onError with
  | .skip => none
  | .abort => events.findSome? fun (i, event) =>
    event.failure?.map fun f => .record t.id i f.property f.cause

/-- The expansion over records, failures being left out with a diagnostic. -/
def expansion (events : List (Nat × Event)) : Expansion where
  elements := linkEdges t.id (assignIds t.id .empty (events.filterMap fun (_, e) => e.draft?))
  diagnostics := events.filterMap fun (i, e) => e.diagnostic? t.id i

def expand (sources : Table (List Value)) : Except TemplateError Expansion := do
  t.validate
  match sources.get? t.source with
  | none => throw (.missingSource t.id t.source)
  | some records =>
    let events := t.allEvents records
    match t.failure? events with
    | some error => throw error
    | none => return t.expansion events

end Template

/-- Templates one after the other, each with ids of its own. -/
def expandAll (sources : Table (List Value)) : List Template → Except TemplateError Expansion
  | [] => .ok ⟨[], []⟩
  | t :: rest => do
    let first ← t.expand sources
    let others ← expandAll sources rest
    return ⟨first.elements ++ others.elements, first.diagnostics ++ others.diagnostics⟩

end Cartouche
