import Cartouche.Legend.Basic
import Cartouche.Limits

/-!
The size of a legend and its place on the canvas. A panel that fits is kept on the canvas, and one
that does not begins at the origin. The rules hold for every number type.
-/
namespace Cartouche

variable {α : Type} [Add α] [Sub α] [Mul α] [Div α] [OfNat α 0] [OfNat α 1] [OfNat α 2]
  [OfScientific α] [LT α] [LE α] [DecidableLT α] [DecidableLE α]

omit [Add α] [Sub α] [Mul α] [Div α] [OfNat α 0] [OfNat α 1] [OfNat α 2] [LT α] [LE α]
  [DecidableLT α] [DecidableLE α] in
/-- A count as a number of another type. -/
def countOf (n : Nat) : α :=
  OfScientific.ofScientific n false 0

omit [Add α] [Sub α] [Div α] [OfNat α 0] [OfNat α 1] [OfNat α 2] [LT α] [LE α] [DecidableLT α]
  [DecidableLE α] in
/-- The width a text is expected to take. -/
def textWidth (m : Metrics α) (fontSize : α) (text : String) : α :=
  countOf text.toList.length * fontSize * m.charWidthRatio

/-- The size of a panel that shows a title and labels. -/
def contentWidth (m : Metrics α) (title : String) (labels : List String) : α :=
  let widest := labels.foldl (fun w label => larger w (textWidth m m.fontSize label)) 0
  let content := larger (textWidth m m.titleFontSize title) (m.swatchSize + m.swatchGap + widest)
  larger 1 (larger (content + 2 * m.padding) m.minWidth)

def contentHeight (m : Metrics α) (rows : Nat) : α :=
  larger 1 (2 * m.padding + m.titleFontSize + m.titleGap + countOf rows * m.rowHeight)

/-- A size that is asked for counts only if it is positive and finite. -/
def chosenSize (asked : Option α) (computed : α) : α :=
  match asked with
  | some size => if isFinite size && decide (0 < size) then size else computed
  | none => computed

/-- Places along one side of the canvas. -/
inductive Alignment where
  | near
  | middle
  | far

def Anchor.horizontal : Anchor → Alignment
  | .topLeft | .left | .bottomLeft => .near
  | .top | .bottom => .middle
  | .topRight | .right | .bottomRight => .far

def Anchor.vertical : Anchor → Alignment
  | .topLeft | .top | .topRight => .near
  | .left | .right => .middle
  | .bottomLeft | .bottom | .bottomRight => .far

/-- Where a panel begins along one side. -/
def offset (canvas size margin : α) (alignment : Alignment) : α :=
  let wanted := match alignment with
    | .near => margin
    | .middle => (canvas - size) / 2
    | .far => canvas - size - margin
  larger 0 (smaller wanted (canvas - size))

def legendBounds (m : Metrics α) (o : LegendOptions α) (anchor : Anchor) (title : String)
    (labels : List String) : Bounds α :=
  let width := chosenSize o.width (contentWidth m title labels)
  let height := chosenSize o.height (contentHeight m labels.length)
  { x := offset m.canvasWidth width m.margin anchor.horizontal
    y := offset m.canvasHeight height m.margin anchor.vertical
    width
    height }

end Cartouche
