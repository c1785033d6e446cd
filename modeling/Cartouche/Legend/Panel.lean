import Cartouche.Legend.Synthesis
import Cartouche.Markup.Tree
import Cartouche.Theme

/-! Legends drawn as panels: a background, a title, and a swatch with a label for every entry. -/
namespace Cartouche
open Decimal Text

structure PanelOptions where
  showBorder : Bool
  /-- The fill of panels, in place of the theme's. -/
  background : Option String
  metrics : Metrics Float32

/-- How the style of an entry is shown. -/
inductive Swatch where
  | color (text : String)
  | opacity (value : Float)
  | strokeWidth (value : Float)
  | plain

/-- Colours are recognised by how they begin, or by being one word. -/
def looksLikeColor (style : String) : Bool :=
  let text := style.toList
  text.head? == some '#' || "rgb".toList.isPrefixOf text || "hsl".toList.isPrefixOf text ||
    (!text.isEmpty && text.all Char.isAlpha)

def opacityProperties : List String :=
  ["opacity", "fillOpacity", "fill-opacity", "strokeOpacity", "stroke-opacity"]

def widthProperties : List String :=
  ["strokeWidth", "stroke-width", "thickness"]

/-- Numbers show as an opacity or a width where the property is one. -/
def Swatch.classify (property style : String) : Swatch :=
  let style := trimmed style
  match (read? style.toList : Option Float) with
  | some number =>
    if property ∈ opacityProperties then .opacity (clamp 0 1 number)
    else if property ∈ widthProperties then .strokeWidth (larger 0 number)
    else .plain
  | none => if looksLikeColor style then .color style else .plain

/-- Coordinates have two places. -/
def coordinate (x : Float32) : String :=
  fixed 2 x

def sizeText {α : Type} [Floating α] (x : α) : String :=
  signedForm.write x

def square (x y size : Float32) (others : List Attribute) : Markup :=
  .leaf "rect" ([⟨"x", coordinate x⟩, ⟨"y", coordinate y⟩, ⟨"width", coordinate size⟩,
    ⟨"height", coordinate size⟩, ⟨"rx", "2"⟩] ++ others)

def Swatch.draw (x y size : Float32) (theme : Theme) : Swatch → Markup
  | .color text => square x y size [⟨"fill", text⟩]
  | .opacity value =>
    square x y size [⟨"fill", theme.swatchColor⟩, ⟨"fill-opacity", sizeText value⟩]
  | .strokeWidth value =>
    let middle := y + size / 2
    .leaf "line" [⟨"x1", coordinate x⟩, ⟨"y1", coordinate middle⟩, ⟨"x2", coordinate (x + size)⟩,
      ⟨"y2", coordinate middle⟩, ⟨"stroke", theme.swatchColor⟩, ⟨"stroke-width", sizeText value⟩]
  | .plain => square x y size [⟨"fill", "none"⟩, ⟨"stroke", theme.swatchColor⟩]

namespace Legend

variable (o : PanelOptions) (theme : Theme)

def background (l : Legend) : Markup :=
  .leaf "rect" ([⟨"x", "0"⟩, ⟨"y", "0"⟩, ⟨"width", coordinate l.bounds.width⟩,
    ⟨"height", coordinate l.bounds.height⟩, ⟨"rx", "4"⟩, ⟨"ry", "4"⟩,
    ⟨"fill", o.background.getD theme.legendBackground⟩] ++
    (if o.showBorder then [⟨"stroke", theme.legendBorder⟩, ⟨"stroke-width", "1"⟩]
      else [⟨"stroke", "none"⟩]))

def titleY : Float32 :=
  o.metrics.padding + o.metrics.titleFontSize

def titleText (l : Legend) : Markup :=
  .text "text" [⟨"x", coordinate o.metrics.padding⟩, ⟨"y", coordinate (titleY o)⟩,
    ⟨"font-family", theme.fontFamily⟩, ⟨"font-size", sizeText o.metrics.titleFontSize⟩,
    ⟨"font-weight", "600"⟩, ⟨"fill", theme.textColor⟩] l.title

/-- The swatch and the label of the entry in the given row. -/
def row (l : Legend) (entry : LegendEntry) (i : Nat) : List Markup :=
  let m := o.metrics
  let top := titleY o + m.titleGap + countOf i * m.rowHeight
  [(Swatch.classify l.property entry.style).draw m.padding
      (top + (m.rowHeight - m.swatchSize) / 2) m.swatchSize theme,
    .text "text" [⟨"x", coordinate (m.padding + m.swatchSize + m.swatchGap)⟩,
      ⟨"y", coordinate (top + m.rowHeight / 2)⟩, ⟨"dominant-baseline", "middle"⟩,
      ⟨"font-family", theme.fontFamily⟩, ⟨"font-size", sizeText m.fontSize⟩,
      ⟨"fill", theme.textColor⟩] entry.label]

/-- One legend at its place. -/
def panel (l : Legend) : Markup :=
  .group "g" [⟨"class", "legend"⟩, ⟨"data-property", l.property⟩,
    ⟨"transform", "translate(" ++ coordinate l.bounds.x ++ "," ++ coordinate l.bounds.y ++ ")"⟩]
    ([l.background o theme, l.titleText o theme] ++
      l.entries.zipIdx.flatMap fun (entry, i) => l.row o theme entry i)

/-- All legends of a diagram in one picture, which is at least one unit wide and high. -/
def picture (legends : List Legend) (width height : Float32) : Markup :=
  let width := sizeText (larger 1 width)
  let height := sizeText (larger 1 height)
  .group "svg" [⟨"xmlns", "http://www.w3.org/2000/svg"⟩, ⟨"width", width⟩, ⟨"height", height⟩,
    ⟨"viewBox", "0 0 " ++ width ++ " " ++ height⟩]
    (.leaf "rect" [⟨"width", "100%"⟩, ⟨"height", "100%"⟩, ⟨"fill", theme.background⟩] ::
      legends.map (·.panel o theme))

end Legend

end Cartouche
