import Cartouche.Style.Mapping
import Cartouche.Text.Lowercase

/-! Legends: their entries, their places on the canvas and what can be asked of them. -/
namespace Cartouche
open Text

/-- The corners and sides of a canvas. -/
inductive Anchor where
  | topLeft
  | top
  | topRight
  | right
  | bottomRight
  | bottom
  | bottomLeft
  | left
deriving DecidableEq

namespace Anchor

/-- Anchors in the order in which legends without a place of their own take them. -/
def rotation : List Anchor :=
  [.topRight, .bottomRight, .topLeft, .bottomLeft, .top, .right, .bottom, .left]

def words : List (String × Anchor) := [
  ("topleft", .topLeft), ("top", .top), ("topright", .topRight), ("right", .right),
  ("bottomright", .bottomRight), ("bottom", .bottom), ("bottomleft", .bottomLeft),
  ("left", .left)]

/-- Names in data files. -/
def names : List (String × Anchor) := [
  ("topLeft", .topLeft), ("top", .top), ("topRight", .topRight), ("right", .right),
  ("bottomRight", .bottomRight), ("bottom", .bottom), ("bottomLeft", .bottomLeft),
  ("left", .left)]

def name : Anchor → String
  | .topLeft => "topLeft"
  | .top => "top"
  | .topRight => "topRight"
  | .right => "right"
  | .bottomRight => "bottomRight"
  | .bottom => "bottom"
  | .bottomLeft => "bottomLeft"
  | .left => "left"

/-- Dashes, underscores, spaces and the case of letters make no difference. -/
def ofToken? (token : String) : Option Anchor :=
  let key := token.toList.filter fun c => c != '-' && c != '_' && c != ' '
  words.lookup (.ofList (key.flatMap lower))

end Anchor

/-- Whether a legend shows samples of a scale or a list of cases. -/
inductive LegendKind where
  | scale
  | category
deriving DecidableEq

def LegendKind.name : LegendKind → String
  | .scale => "scale"
  | .category => "category"

structure LegendEntry where
  label : String
  style : String
  value : Option Float

/-- A rectangle on the canvas. -/
structure Bounds (α : Type) where
  x : α
  y : α
  width : α
  height : α

/-- What can be asked of a legend; what is left open has a default. -/
structure LegendOptions (α : Type) where
  /-- Samples of a scale. -/
  steps : Option Nat
  position : Option Anchor
  title : Option String
  width : Option α
  height : Option α

def LegendOptions.none {α : Type} : LegendOptions α :=
  ⟨.none, .none, .none, .none, .none⟩

structure Legend where
  kind : LegendKind
  title : String
  property : String
  field : String
  entries : List LegendEntry
  position : Anchor
  bounds : Bounds Float32

/-- Measures by which legends are sized and placed. -/
structure Metrics (α : Type) where
  canvasWidth : α
  canvasHeight : α
  margin : α
  padding : α
  fontSize : α
  titleFontSize : α
  titleGap : α
  rowHeight : α
  swatchSize : α
  swatchGap : α
  /-- The average width of a character as a part of the font size. -/
  charWidthRatio : α
  minWidth : α
  defaultSteps : Nat

def Metrics.standard : Metrics Float32 where
  canvasWidth := 800
  canvasHeight := 600
  margin := 16
  padding := 10
  fontSize := 12
  titleFontSize := 13
  titleGap := 8
  rowHeight := 20
  swatchSize := 14
  swatchGap := 8
  charWidthRatio := 0.6
  minWidth := 80
  defaultSteps := 5

namespace Legend

def entryJson (e : LegendEntry) : Json :=
  .object ([("label", .text e.label), ("style", .text e.style)] ++
    Json.optionalField "value" (e.value.map Json.ofFloat))

def boundsJson (b : Bounds Float32) : Json :=
  .object [("x", .ofFloat32 b.x), ("y", .ofFloat32 b.y), ("width", .ofFloat32 b.width),
    ("height", .ofFloat32 b.height)]

def toJson (l : Legend) : Json :=
  .object [
    ("type", .text l.kind.name), ("title", .text l.title), ("property", .text l.property),
    ("field", .text l.field), ("entries", .list (l.entries.map entryJson)),
    ("position", .text l.position.name), ("bounds", boundsJson l.bounds)]

end Legend

end Cartouche
