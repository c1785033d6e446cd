import Cartouche.Legend.Panel
import Cartouche.Proofs.NumberTexts
import Cartouche.Proofs.TagScan

/-!
Pictures as texts, place by place: what comes from a theme or from a legend is escaped where it
stands, and numbers stand as they are. A tree, which escapes all that it writes, writes the same
text, since no number and no word of a picture has a character that is replaced.
-/
namespace Cartouche
open Decimal

namespace Swatch
variable (x y size : Float32) (theme : Theme)

/-- A square with what it shows. -/
def svgSquare (shown : List String) : String :=
  .join (["<rect x=\"", coordinate x, "\" y=\"", coordinate y, "\" width=\"", coordinate size,
    "\" height=\"", coordinate size, "\" rx=\"2\" "] ++ shown ++ ["/>"])

def svg : Swatch → String
  | .color text => svgSquare x y size ["fill=\"", escaped text, "\""]
  | .opacity value => svgSquare x y size ["fill=\"", escaped theme.swatchColor,
      "\" fill-opacity=\"", sizeText value, "\""]
  | .strokeWidth value =>
    .join ["<line x1=\"", coordinate x, "\" y1=\"", coordinate (y + size / 2), "\" x2=\"",
      coordinate (x + size), "\" y2=\"", coordinate (y + size / 2), "\" stroke=\"",
      escaped theme.swatchColor, "\" stroke-width=\"", sizeText value, "\"/>"]
  | .plain => svgSquare x y size ["fill=\"none\" stroke=\"", escaped theme.swatchColor, "\""]

end Swatch

namespace Legend
variable (o : PanelOptions) (theme : Theme)

def svgBorder : List String :=
  if o.showBorder then ["stroke=\"", escaped theme.legendBorder, "\" stroke-width=\"1\""]
  else ["stroke=\"none\""]

def svgBackground (l : Legend) : String :=
  .join (["<rect x=\"0\" y=\"0\" width=\"", coordinate l.bounds.width, "\" height=\"",
    coordinate l.bounds.height, "\" rx=\"4\" ry=\"4\" fill=\"",
    escaped (o.background.getD theme.legendBackground), "\" "] ++ svgBorder o theme ++ ["/>"])

def svgTitle (l : Legend) : String :=
  .join ["<text x=\"", coordinate o.metrics.padding, "\" y=\"", coordinate (titleY o),
    "\" font-family=\"", escaped theme.fontFamily, "\" font-size=\"",
    sizeText o.metrics.titleFontSize, "\" font-weight=\"600\" fill=\"", escaped theme.textColor,
    "\">", escaped l.title, "</text>"]

def svgRow (l : Legend) (entry : LegendEntry) (i : Nat) : String :=
  let m := o.metrics
  let top := titleY o + m.titleGap + countOf i * m.rowHeight
  .join [(Swatch.classify l.property entry.style).svg m.padding
      (top + (m.rowHeight - m.swatchSize) / 2) m.swatchSize theme,
    "<text x=\"", coordinate (m.padding + m.swatchSize + m.swatchGap), "\" y=\"",
    coordinate (top + m.rowHeight / 2), "\" dominant-baseline=\"middle\" font-family=\"",
    escaped theme.fontFamily, "\" font-size=\"", sizeText m.fontSize, "\" fill=\"",
    escaped theme.textColor, "\">", escaped entry.label, "</text>"]

def svgPanel (l : Legend) : String :=
  .join (["<g class=\"legend\" data-property=\"", escaped l.property,
    "\" transform=\"translate(", coordinate l.bounds.x, ",", coordinate l.bounds.y, ")\">",
    l.svgBackground o theme, l.svgTitle o theme] ++
    l.entries.zipIdx.map (fun (entry, i) => l.svgRow o theme entry i) ++ ["</g>"])

def svgPicture (legends : List Legend) (width height : Float32) : String :=
  let width := sizeText (larger 1 width)
  let height := sizeText (larger 1 height)
  .join (["<svg xmlns=\"http://www.w3.org/2000/svg\" width=\"", width, "\" height=\"", height,
    "\" viewBox=\"0 0 ", width, " ", height, "\">", "<rect width=\"100%\" height=\"100%\" fill=\"",
    escaped theme.background, "\"/>"] ++ legends.map (·.svgPanel o theme) ++ ["</svg>"])

end Legend

/-! Numbers and words have no character that is replaced. -/

/-- Numbers are written in these, and so are the words for values that no digits can write. -/
def isNumberChar (c : Char) : Bool :=
  c.isAlphanum || c == '.' || c == '-'

section Numbers
variable {α : Type} [Floating α] {c : Char}

theorem isNumberChar_of_isDigit (h : c.isDigit) : isNumberChar c := by
  simp [isNumberChar, Char.isAlphanum, h]

theorem escaped_of_number {s : String} (h : ∀ c ∈ s.toList, isNumberChar c) : escaped s = s := by
  have hplain : ∀ c ∈ s.toList, escapeChar c = [c] := by
    intro c hc
    have hne : ∀ d, isNumberChar d = false → c ≠ d := by
      rintro d hd rfl
      exact absurd (h c hc) (by simp [hd])
    exact escapeChar_of_plain (hne '&' rfl) (hne '<' rfl) (hne '>' rfl) (hne '"' rfl) (hne '\'' rfl)
  rw [escaped, escapeMarkup_eq_flatMap, List.flatMap_congr hplain, List.flatMap_singleton',
    String.ofList_toList]

theorem isNumberChar_of_nan (h : c ∈ "NaN".toList) : isNumberChar c := by
  have hword : "NaN".toList.all isNumberChar := by decide
  exact List.all_eq_true.mp hword c h

theorem isNumberChar_of_infinite (negative : Bool) (h : c ∈ (infiniteWord negative).toList) :
    isNumberChar c := by
  have hword : ∀ negative, (infiniteWord negative).toList.all isNumberChar := by decide
  exact List.all_eq_true.mp (hword negative) c h

theorem isNumberChar_of_signed {negative : Bool} {text : List Char}
    (htext : ∀ c ∈ text, isNumberChar c) (h : c ∈ if negative then '-' :: text else text) :
    isNumberChar c := by
  split at h
  · rcases List.mem_cons.mp h with rfl | h
    · rfl
    · exact htext c h
  · exact htext c h

@[simp] theorem escaped_sizeText (x : α) : escaped (sizeText x) = sizeText x := by
  apply escaped_of_number
  intro c hc
  rw [sizeText, Form.write, String.toList_ofList] at hc
  cases hd : decode x with
  | nan =>
    rw [hd] at hc
    exact isNumberChar_of_nan hc
  | infinite negative =>
    rw [hd] at hc
    exact isNumberChar_of_infinite negative hc
  | finite negative b =>
    rw [hd] at hc
    refine isNumberChar_of_signed (fun c hc => ?_) hc
    rcases mem_magnitude hc with hc | rfl
    · exact isNumberChar_of_isDigit hc
    · rfl

@[simp] theorem escaped_coordinate (x : Float32) : escaped (coordinate x) = coordinate x := by
  apply escaped_of_number
  intro c hc
  rw [coordinate, fixed, String.toList_ofList] at hc
  cases hd : decode x with
  | nan =>
    rw [hd] at hc
    exact isNumberChar_of_nan hc
  | infinite negative =>
    rw [hd] at hc
    exact isNumberChar_of_infinite negative hc
  | finite negative b =>
    rw [hd] at hc
    refine isNumberChar_of_signed (fun c hc => ?_) hc
    rcases List.mem_append.mp hc with hc | hc
    · exact isNumberChar_of_isDigit (isDigit_behind_zeros (List.mem_of_mem_take hc))
    · rcases List.mem_cons.mp hc with rfl | hc
      · rfl
      · exact isNumberChar_of_isDigit (isDigit_behind_zeros (List.mem_of_mem_drop hc))

end Numbers

@[simp] theorem escaped_append (s other : String) :
    escaped (s ++ other) = escaped s ++ escaped other := by
  simp [escaped, escapeMarkup_eq_flatMap]

/-- The words that stand in every picture. -/
@[simp] theorem escaped_words :
    escaped "0" = "0" ∧ escaped "1" = "1" ∧ escaped "2" = "2" ∧ escaped "4" = "4" ∧
      escaped "600" = "600" ∧ escaped "none" = "none" ∧ escaped "middle" = "middle" ∧
      escaped "legend" = "legend" ∧ escaped "100%" = "100%" ∧ escaped "translate(" = "translate(" ∧
      escaped "," = "," ∧ escaped ")" = ")" ∧ escaped "0 0 " = "0 0 " ∧ escaped " " = " " ∧
      escaped "http://www.w3.org/2000/svg" = "http://www.w3.org/2000/svg" := by
  decide

/-! What the trees write. -/

theorem writeAttribute_eq (name value : String) : Markup.writeAttribute ⟨name, value⟩ =
    (String.join [" ", name, "=\"", escaped value, "\""]).toList := by
  simp [Markup.writeAttribute, escaped]

theorem writeAll_eq_flatMap (ms : List Markup) : Markup.writeAll ms = ms.flatMap Markup.write := by
  induction ms with
  | nil => rfl
  | cons m rest ih => rw [Markup.writeAll, ih, List.flatMap_cons]

theorem toList_escaped (s : String) : (escaped s).toList = escapeMarkup s.toList :=
  String.toList_ofList

section Places
attribute [local simp] Markup.write Markup.openTag Markup.closeTag writeAttribute_eq toList_escaped

theorem Swatch.write_draw (x y size : Float32) (theme : Theme) (s : Swatch) :
    (s.draw x y size theme).write = (s.svg x y size theme).toList := by
  cases s <;> simp [draw, square, svg, svgSquare]

namespace Legend
variable (o : PanelOptions) (theme : Theme)

theorem write_background (l : Legend) :
    (l.background o theme).write = (l.svgBackground o theme).toList := by
  cases hborder : o.showBorder <;> simp [background, svgBackground, svgBorder, hborder]

theorem write_title (l : Legend) :
    (l.titleText o theme).write = (l.svgTitle o theme).toList := by
  simp [titleText, svgTitle]

theorem write_row (l : Legend) (entry : LegendEntry) (i : Nat) :
    Markup.writeAll (l.row o theme entry i) = (l.svgRow o theme entry i).toList := by
  simp [row, Markup.writeAll, Swatch.write_draw, svgRow]

theorem write_panel (l : Legend) : (l.panel o theme).write = (l.svgPanel o theme).toList := by
  have hrows : (l.entries.zipIdx.flatMap fun (entry, i) => l.row o theme entry i).flatMap
      Markup.write = (l.entries.zipIdx.map fun (entry, i) => l.svgRow o theme entry i).flatMap
        String.toList := by
    simp only [List.flatMap_assoc, List.flatMap_map, ← writeAll_eq_flatMap, write_row]
  simpa [panel, svgPanel, writeAll_eq_flatMap, write_background, write_title] using hrows

/-- What is written for a picture is what is written for its places, one after the other. -/
theorem write_picture (legends : List Legend) (width height : Float32) :
    (picture o theme legends width height).write =
      (svgPicture o theme legends width height).toList := by
  have hpanels : (legends.map (·.panel o theme)).flatMap Markup.write =
      (legends.map (·.svgPanel o theme)).flatMap String.toList := by
    simp only [List.flatMap_map, write_panel]
  simpa [picture, svgPicture, writeAll_eq_flatMap] using hpanels

end Legend

end Places

end Cartouche
