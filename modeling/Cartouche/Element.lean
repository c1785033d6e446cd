import Cartouche.Style.Value

/-! Elements of a diagram: nodes, and edges between them. -/
namespace Cartouche
open Text

inductive NodeShape where
  | rectangle
  | roundRect
  | stadium
  | subroutine
  | cylinder
  | circle
  | doubleCircle
  | diamond
  | hexagon
  | parallelogram
  | trapezoid
  | text
deriving DecidableEq

inductive EdgeKind where
  | solid
  | dotted
  | thick
deriving DecidableEq

/-- Words for shapes and kinds count without blanks around them and in either case. -/
def keyword (token : String) : String :=
  .ofList ((trim token.toList).map Char.toLower)

namespace NodeShape

def name : NodeShape → String
  | .rectangle => "rectangle"
  | .roundRect => "roundRect"
  | .stadium => "stadium"
  | .subroutine => "subroutine"
  | .cylinder => "cylinder"
  | .circle => "circle"
  | .doubleCircle => "doubleCircle"
  | .diamond => "diamond"
  | .hexagon => "hexagon"
  | .parallelogram => "parallelogram"
  | .trapezoid => "trapezoid"
  | .text => "text"

/-- The words a shape goes by. -/
def words : List (String × NodeShape) := [
  ("rect", .rectangle), ("rectangle", .rectangle), ("box", .rectangle), ("round", .roundRect),
  ("rounded", .roundRect), ("roundrect", .roundRect), ("stadium", .stadium), ("pill", .stadium),
  ("subroutine", .subroutine), ("cylinder", .cylinder), ("database", .cylinder),
  ("db", .cylinder), ("circle", .circle), ("doublecircle", .doubleCircle),
  ("diamond", .diamond), ("decision", .diamond), ("hexagon", .hexagon),
  ("parallelogram", .parallelogram), ("trapezoid", .trapezoid), ("text", .text),
  ("none", .text)]

def ofToken? (token : String) : Option NodeShape :=
  words.lookup (keyword token)

end NodeShape

namespace EdgeKind

def name : EdgeKind → String
  | .solid => "solid"
  | .dotted => "dotted"
  | .thick => "thick"

/-- The words and arrows a kind goes by. -/
def words : List (String × EdgeKind) := [
  ("solid", .solid), ("-->", .solid), ("dotted", .dotted), ("dashed", .dotted),
  ("-.->", .dotted), ("thick", .thick), ("==>", .thick)]

def ofToken? (token : String) : Option EdgeKind :=
  words.lookup (keyword token)

end EdgeKind

/-- What an element shows beside its style. -/
inductive Body where
  | node (label : String) (subtitle : Option String) (shape : NodeShape)
  | edge (source target : String) (label : Option String) (kind : EdgeKind)

structure Element where
  id : String
  body : Body
  style : Table StyleValue
  /-- The template the element comes from. -/
  template : String

namespace Body

def isNode : Body → Bool
  | .node _ _ _ => true
  | .edge _ _ _ _ => false

end Body

namespace Element

def isNode (e : Element) : Bool :=
  e.body.isNode

def styleJson (style : Table StyleValue) : Json :=
  .object (style.map fun (property, value) => (property, value.toJson))

def toJson (e : Element) : Json :=
  match e.body with
  | .node label subtitle shape =>
    .object (
      [("type", .text "node"), ("id", .text e.id), ("label", .text label)] ++
      Json.optionalField "subtitle" (subtitle.map .text) ++
      [("shape", .text shape.name), ("style", styleJson e.style), ("template", .text e.template)])
  | .edge source target label kind =>
    .object (
      [("type", .text "edge"), ("id", .text e.id), ("from", .text source), ("to", .text target)] ++
      Json.optionalField "label" (label.map .text) ++
      [("kind", .text kind.name), ("style", styleJson e.style), ("template", .text e.template)])

end Element

end Cartouche
