import Cartouche.Json.Shape
import Cartouche.Legend.Panel

/-!
Settings of a diagram: theme, palette, measures and canvas. A settings file says what differs from
the defaults; the canvas that legends are placed on and the one that is drawn are kept the same.
-/
namespace Cartouche
open Decimal Json Text

structure Config where
  theme : Theme
  palette : Palette
  metrics : Metrics Float32
  showBorder : Bool
  /-- The size of the picture that is drawn. -/
  width : Float32
  height : Float32

namespace Config

def standard : Config where
  theme := .modern
  palette := .tableau
  metrics := .standard
  showBorder := true
  width := 800
  height := 600

/-- The canvas of both, the legends and the picture. -/
def withCanvas (width height : Float32) (c : Config) : Config :=
  { c with
    width, height
    metrics := { c.metrics with canvasWidth := width, canvasHeight := height } }

def panelOptions (c : Config) : PanelOptions :=
  ⟨c.showBorder, none, c.metrics⟩

/-- The theme with the palette that goes with it. -/
def withClassicTheme (c : Config) : Config :=
  { c with theme := .classic, palette := .classic }

def metricsJson (m : Metrics Float32) : Json :=
  .object [
    ("canvas_width", .ofFloat32 m.canvasWidth), ("canvas_height", .ofFloat32 m.canvasHeight),
    ("margin", .ofFloat32 m.margin), ("padding", .ofFloat32 m.padding),
    ("font_size", .ofFloat32 m.fontSize), ("title_font_size", .ofFloat32 m.titleFontSize),
    ("title_gap", .ofFloat32 m.titleGap), ("row_height", .ofFloat32 m.rowHeight),
    ("swatch_size", .ofFloat32 m.swatchSize), ("swatch_gap", .ofFloat32 m.swatchGap),
    ("char_width_ratio", .ofFloat32 m.charWidthRatio), ("min_width", .ofFloat32 m.minWidth),
    ("default_steps", .ofNat m.defaultSteps)]

def pictureJson (c : Config) : Json :=
  .object [("width", .ofFloat32 c.width), ("height", .ofFloat32 c.height),
    ("show_border", .bool c.showBorder)]

end Config

/-- A length in a settings file: a number, or a text that may end in pixels. -/
inductive Length where
  | number (x : Float32)
  | text (s : String)

namespace Length

def reader : Reader Length :=
  .firstOf "NumberOrString" [Reader.real32.map .number, Reader.string.map .text]

/-- Drops the unit from the reversed text of a length, as often as it stands there. -/
def dropUnit : List Char → List Char
  | 'x' :: 'p' :: rest => dropUnit rest
  | reversed => reversed

/-- A text that is no number gives no length. -/
def value? : Length → Option Float32
  | .number x => some x
  | .text s => read? (dropUnit (trim s.toList).reverse).reverse

end Length

/-- The part of a settings file about the theme; what it leaves out stays as it is. -/
structure ThemeFile where
  fontFamily : Option String
  textColor : Option String
  legendBackground : Option String
  legendBorder : Option String
  swatchColor : Option String
  background : Option String

structure PaletteFile where
  categorical : Option (List String)
  neutral : Option String

structure LegendFile where
  canvasWidth : Option Length
  canvasHeight : Option Length
  margin : Option Length
  padding : Option Length
  fontSize : Option Length
  titleFontSize : Option Length
  rowHeight : Option Length
  swatchSize : Option Length
  charWidthRatio : Option Float32
  steps : Option Nat
  showBorder : Option Bool

structure ConfigFile where
  theme : Option String
  themeVariables : Option ThemeFile
  palette : Option PaletteFile
  legend : Option LegendFile

namespace ThemeFile

def reader : Reader ThemeFile :=
  .record "struct ThemeVariables" ⟨none, none, none, none, none, none⟩ [
    .of "fontFamily" .optional (.option .string) fun fontFamily f => { f with fontFamily },
    .of "textColor" .optional (.option .string) fun textColor f => { f with textColor },
    .of "legendBackground" .optional (.option .string) fun legendBackground f =>
      { f with legendBackground },
    .of "legendBorder" .optional (.option .string) fun legendBorder f => { f with legendBorder },
    .of "swatchColor" .optional (.option .string) fun swatchColor f => { f with swatchColor },
    .of "background" .optional (.option .string) fun background f => { f with background }]

def apply (f : ThemeFile) (t : Theme) : Theme where
  fontFamily := f.fontFamily.getD t.fontFamily
  textColor := f.textColor.getD t.textColor
  legendBackground := f.legendBackground.getD t.legendBackground
  legendBorder := f.legendBorder.getD t.legendBorder
  swatchColor := f.swatchColor.getD t.swatchColor
  background := f.background.getD t.background

end ThemeFile

namespace PaletteFile

def reader : Reader PaletteFile :=
  .record "struct PaletteConfigFile" ⟨none, none⟩ [
    .of "categorical" .optional (.option (.list .string)) fun categorical f =>
      { f with categorical },
    .of "neutral" .optional (.option .string) fun neutral f => { f with neutral }]

def apply (f : PaletteFile) (p : Palette) : Palette where
  categorical := f.categorical.getD p.categorical
  neutral := f.neutral.getD p.neutral

end PaletteFile

namespace LegendFile

def reader : Reader LegendFile :=
  .record "struct LegendConfigFile"
    ⟨none, none, none, none, none, none, none, none, none, none, none⟩ [
    .of "canvasWidth" .optional (.option Length.reader) fun canvasWidth f =>
      { f with canvasWidth },
    .of "canvasHeight" .optional (.option Length.reader) fun canvasHeight f =>
      { f with canvasHeight },
    .of "margin" .optional (.option Length.reader) fun margin f => { f with margin },
    .of "padding" .optional (.option Length.reader) fun padding f => { f with padding },
    .of "fontSize" .optional (.option Length.reader) fun fontSize f => { f with fontSize },
    .of "titleFontSize" .optional (.option Length.reader) fun titleFontSize f =>
      { f with titleFontSize },
    .of "rowHeight" .optional (.option Length.reader) fun rowHeight f => { f with rowHeight },
    .of "swatchSize" .optional (.option Length.reader) fun swatchSize f => { f with swatchSize },
    .of "charWidthRatio" .optional (.option .real32) fun charWidthRatio f =>
      { f with charWidthRatio },
    .of "steps" .optional (.option .count) fun steps f => { f with steps },
    .of "showBorder" .optional (.option .bool) fun showBorder f => { f with showBorder }]

def length (asked : Option Length) (standard : Float32) : Float32 :=
  (asked.bind Length.value?).getD standard

def apply (f : LegendFile) (m : Metrics Float32) : Metrics Float32 :=
  { m with
    canvasWidth := length f.canvasWidth m.canvasWidth
    canvasHeight := length f.canvasHeight m.canvasHeight
    margin := length f.margin m.margin
    padding := length f.padding m.padding
    fontSize := length f.fontSize m.fontSize
    titleFontSize := length f.titleFontSize m.titleFontSize
    rowHeight := length f.rowHeight m.rowHeight
    swatchSize := length f.swatchSize m.swatchSize
    charWidthRatio := f.charWidthRatio.getD m.charWidthRatio
    defaultSteps := f.steps.getD m.defaultSteps }

end LegendFile

def ConfigFile.reader : Reader ConfigFile :=
  .record "struct ConfigFile" ⟨none, none, none, none⟩ [
    .of "theme" .optional (.option .string) fun theme f => { f with theme },
    .of "themeVariables" .optional (.option ThemeFile.reader) fun themeVariables f =>
      { f with themeVariables },
    .of "palette" .optional (.option PaletteFile.reader) fun palette f => { f with palette },
    .of "legend" .optional (.option LegendFile.reader) fun legend f => { f with legend }]

inductive ConfigError where
  | unreadable (fault : Fault)
  | unknownTheme (name : String)

def ConfigError.message : ConfigError → String
  | .unreadable fault => fault.message .json
  | .unknownTheme name => "unknown theme `" ++ name ++ "`"

namespace Config

def withTheme (name : Option String) (c : Config) : Except ConfigError Config :=
  match name with
  | none => .ok c
  | some name =>
    if name = "modern" then .ok { c with theme := .modern }
    else if name = "classic" ∨ name = "default" then .ok c.withClassicTheme
    else .error (.unknownTheme name)

/-- The settings with what a file says about them. -/
def overlay (f : ConfigFile) (c : Config) : Except ConfigError Config := do
  let c ← c.withTheme f.theme
  let theme := (f.themeVariables.map (·.apply c.theme)).getD c.theme
  let palette := (f.palette.map (·.apply c.palette)).getD c.palette
  let metrics := (f.legend.map (·.apply c.metrics)).getD c.metrics
  let showBorder := (f.legend.bind (·.showBorder)).getD c.showBorder
  return { theme, palette, metrics, showBorder,
           width := metrics.canvasWidth, height := metrics.canvasHeight }

/-- The settings a file asks for. -/
def parse (text : String) : Except ConfigError Config :=
  match ConfigFile.reader.parse text with
  | .ok file => standard.overlay file
  | .error fault => .error (.unreadable fault)

end Config

end Cartouche
