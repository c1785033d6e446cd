import Cartouche.Config
import Cartouche.Document.Compilation
import Cartouche.Template.Expansion

/-! From the text of a document to its diagram: elements, diagnostics and legends. -/
namespace Cartouche

structure Diagram where
  elements : List Element
  diagnostics : List Diagnostic
  legends : List Legend

namespace Diagram

def toJson (d : Diagram) : Json :=
  .object [("elements", .list (d.elements.map Element.toJson)),
    ("diagnostics", .list (d.diagnostics.map Diagnostic.toJson)),
    ("legends", .list (d.legends.map Legend.toJson))]

end Diagram

/-- All templates are expanded and all legends made. -/
def Document.expand (metrics : Metrics Float32) (d : Document) : Except TemplateError Diagram := do
  let expansion ← expandAll d.sources d.templates
  return {
    elements := expansion.elements
    diagnostics := expansion.diagnostics
    legends := Legend.synthesizeAll metrics d.legends }

/-- The document of a text, checked and ready. -/
def Document.parse (palette : Palette) (text : String) : Except DocumentError Document :=
  match DocumentDecl.parse text with
  | .ok decl => decl.compile palette
  | .error fault => .error (.unreadable fault)

/-- The diagram of a text under given settings. -/
def Diagram.parse (c : Config) (text : String) : Except DocumentError Diagram := do
  let document ← Document.parse c.palette text
  match document.expand c.metrics with
  | .ok diagram => return diagram
  | .error cause => throw (.template cause)

/-- The legends of a diagram as a picture of its own. -/
def Diagram.picture (c : Config) (d : Diagram) : String :=
  .ofList (Legend.picture c.panelOptions c.theme d.legends c.width c.height).write

end Cartouche
