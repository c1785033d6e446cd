import Cartouche.Json.Basic

/-! Colours and fonts that a diagram is drawn with where nothing else is asked for. -/
namespace Cartouche

structure Theme where
  fontFamily : String
  textColor : String
  legendBackground : String
  legendBorder : String
  /-- The colour of swatches whose style is no colour. -/
  swatchColor : String
  background : String

namespace Theme

def modern : Theme where
  fontFamily := "Inter, Segoe UI, system-ui, -apple-system, sans-serif"
  textColor := "#1C2430"
  legendBackground := "#FFFFFF"
  legendBorder := "#D7E0F0"
  swatchColor := "#7A8AA6"
  background := "#FFFFFF"

def classic : Theme where
  fontFamily := "\"trebuchet ms\", verdana, arial, sans-serif"
  textColor := "#333333"
  legendBackground := "#FFFFDE"
  legendBorder := "#AAAA33"
  swatchColor := "#9370DB"
  background := "#FFFFFF"

def toJson (t : Theme) : Json :=
  .object [
    ("font_family", .text t.fontFamily), ("text_color", .text t.textColor),
    ("legend_background", .text t.legendBackground), ("legend_border", .text t.legendBorder),
    ("swatch_color", .text t.swatchColor), ("background", .text t.background)]

end Theme

/-- Colours for categories that name none. -/
structure Palette where
  categorical : List String
  /-- The colour of values that no category matches. -/
  neutral : String

namespace Palette

def tableau : Palette where
  categorical := [
    "#4e79a7", "#f28e2b", "#e15759", "#76b7b2", "#59a14f", "#edc948", "#b07aa1", "#ff9da7",
    "#9c755f", "#bab0ac"]
  neutral := "#94a3b8"

def classic : Palette where
  categorical := [
    "#ECECFF", "#ffffde", "#b9b9ff", "#d3d3ff", "#e6e6fa", "#ffe4e1", "#e0ffff", "#f0fff0",
    "#fffacd", "#f5deb3", "#dda0dd", "#c0c0c0"]
  neutral := "#c0c0c0"

/-- The colour of the category at a place; the colours come round again. -/
def color (p : Palette) (i : Nat) : String :=
  p.categorical.getD (i % p.categorical.length) p.neutral

def toJson (p : Palette) : Json :=
  .object [("categorical", .list (p.categorical.map .text)), ("neutral", .text p.neutral)]

end Palette

end Cartouche
