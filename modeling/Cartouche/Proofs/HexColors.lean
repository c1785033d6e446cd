import Cartouche.Proofs.ColorTexts
import Cartouche.Proofs.DecimalRounding
import Mathlib.Data.String.Basic

/-!
Texts that are colours: a number sign and three or six hexadecimal digits, which the colour read
from them shows again in lower case. Reading by cutting at bytes comes to the same, since a text
that is only digits has one byte for each. A range runs between two of them or between two numbers,
and no text is both.
-/
namespace Cartouche
open Decimal Json Text

/-- The text between two bytes, if neither is outside of the text or inside a character. -/
def slice? (text : String) (start stop : Nat) : Option String :=
  if start ≤ stop ∧ String.Pos.Raw.isValid text ⟨start⟩ ∧ String.Pos.Raw.isValid text ⟨stop⟩ then
    some (String.Pos.Raw.extract text ⟨start⟩ ⟨stop⟩)
  else none

/-- The byte that hexadecimal digits denote, of which there may be any number; a plus sign may stand
in front of them. -/
def hexByte? (text : String) : Option UInt8 :=
  let digits := match text.toList with
    | '+' :: digits => digits
    | digits => digits
  if digits.isEmpty then none
  else (hexOf? digits).bind fun n => if n < 256 then some (.ofNat n) else none

namespace Rgb

/-- The colour that is read by slices, from six digits two at a time and from three digits one at a
time; nothing at all where a slice cannot be made. -/
def ofSlices? (digits : String) : Option (Option Rgb) :=
  if digits.utf8ByteSize = 6 then do
    let red ← slice? digits 0 2
    let green ← slice? digits 2 4
    let blue ← slice? digits 4 6
    return do return ⟨← hexByte? red, ← hexByte? green, ← hexByte? blue⟩
  else if digits.utf8ByteSize = 3 then do
    let red ← slice? digits 0 1
    let green ← slice? digits 1 2
    let blue ← slice? digits 2 3
    return do return ⟨(← hexByte? red) * 17, (← hexByte? green) * 17, (← hexByte? blue) * 17⟩
  else return none

/-- The same behind a number sign, once all digits are known to be such. -/
def parseSlices? (text : String) : Option (Option Rgb) :=
  match trim text.toList with
  | '#' :: digits =>
    if digits.all Char.isHexDigit then ofSlices? (.ofList digits) else some none
  | _ => some none

end Rgb

/-- A number sign and three or six hexadecimal digits. -/
def IsColorText (text : List Char) : Prop :=
  ∃ digits, text = '#' :: digits ∧ (digits.length = 3 ∨ digits.length = 6) ∧
    ∀ d ∈ digits, d.isHexDigit

/-! Digits. -/

/-- What holds of the digits in a row from each of the three first ones holds of every digit. -/
theorem isHexDigit_cases {P : Char → Prop} (hten : ∀ i < 10, P (Char.ofNat (0x30 + i)))
    (hlower : ∀ i < 6, P (Char.ofNat (0x61 + i))) (hupper : ∀ i < 6, P (Char.ofNat (0x41 + i)))
    {d : Char} (h : d.isHexDigit) : P d := by
  have hrow : ∀ first count, (∀ i < count, P (Char.ofNat (first + i))) →
      first ≤ d.toNat → d.toNat < first + count → P d := by
    intro first count hall hlow hhigh
    have hd := hall (d.toNat - first) (by omega)
    rwa [Nat.add_sub_cancel' hlow, Char.ofNat_toNat] at hd
  simp only [Char.isHexDigit, Bool.or_eq_true, Bool.and_eq_true, decide_eq_true_eq, ge_iff_le,
    UInt32.le_iff_toNat_le] at h
  rcases h with (h | ⟨hlow, hhigh⟩) | ⟨hlow, hhigh⟩
  · have ⟨hlow, hhigh⟩ := range_of_isDigit h
    exact hrow _ _ hten hlow (Nat.lt_succ_of_le hhigh)
  · exact hrow _ _ hlower hlow (Nat.lt_succ_of_le hhigh)
  · exact hrow _ _ hupper hlow (Nat.lt_succ_of_le hhigh)

/-- Every digit has a value, whose own digit is it in lower case. -/
theorem exists_hexValue? {d : Char} (h : d.isHexDigit) :
    ∃ v < 16, hexValue? d = some v ∧ hexDigit v = d.toLower :=
  isHexDigit_cases (P := fun d => ∃ v < 16, hexValue? d = some v ∧ hexDigit v = d.toLower)
    (by decide) (by decide) (by decide) h

theorem isHexDigit_of_hexValue? {d : Char} {v : Nat} (h : hexValue? d = some v) : d.isHexDigit := by
  unfold hexValue? at h
  simp only [Char.isHexDigit, Bool.or_eq_true, Bool.and_eq_true, decide_eq_true_eq]
  split at h
  · next hdigit => exact Or.inl (Or.inl hdigit)
  · split at h
    · next hlower => exact Or.inl (Or.inr hlower)
    · split at h
      · next hupper => exact Or.inr hupper
      · cases h

theorem isHexDigit_of_hexOf? {a b : Char} {n : Nat} (h : hexOf? [a, b] = some n) :
    a.isHexDigit ∧ b.isHexDigit := by
  cases ha : hexValue? a with
  | none => simp [hexOf?, ha] at h
  | some v =>
    cases hb : hexValue? b with
    | none => simp [hexOf?, ha, hb] at h
    | some w => exact ⟨isHexDigit_of_hexValue? ha, isHexDigit_of_hexValue? hb⟩

theorem ne_plus_of_isHexDigit {d : Char} (h : d.isHexDigit) : d ≠ '+' := by
  rintro rfl
  cases h

/-- One byte holds a digit. -/
theorem utf8Size_of_isHexDigit {d : Char} (h : d.isHexDigit) : d.utf8Size = 1 :=
  isHexDigit_cases (P := fun d => d.utf8Size = 1) (by decide) (by decide) (by decide) h

theorem utf8Len_of_isHexDigit {digits : List Char} (h : ∀ d ∈ digits, d.isHexDigit) :
    String.utf8Len digits = digits.length := by
  induction digits with
  | nil => rfl
  | cons d digits ih =>
    obtain ⟨hd, hdigits⟩ := List.forall_mem_cons.mp h
    rw [String.utf8Len_cons, ih hdigits, utf8Size_of_isHexDigit hd, List.length_cons]

/-! Slices. -/

theorem isValid_ofList_append (before after : List Char) :
    String.Pos.Raw.isValid (.ofList (before ++ after)) ⟨String.utf8Len before⟩ := by
  rw [String.Pos.Raw.isValid_eq_true_iff, String.Pos.Raw.isValid_iff_exists_append]
  refine ⟨.ofList before, .ofList after, String.ofList_append, ?_⟩
  rw [String.rawEndPos, String.utf8ByteSize_ofList]

/-- Between two characters a text can be cut. -/
theorem slice?_ofList (before part after : List Char) :
    slice? (.ofList (before ++ part ++ after)) (String.utf8Len before)
      (String.utf8Len (before ++ part)) = some (.ofList part) := by
  have hle : String.utf8Len before ≤ String.utf8Len (before ++ part) := by simp
  have hstart := isValid_ofList_append before (part ++ after)
  rw [← List.append_assoc] at hstart
  rw [slice?, if_pos ⟨hle, hstart, isValid_ofList_append (before ++ part) after⟩,
    String.Pos.Raw.extract.eq_1]
  split
  · next hge =>
    obtain rfl : part = [] := by
      rw [← String.utf8Len_eq_zero]
      simpa using hge
    rfl
  · have hfront : String.Pos.Raw.extract.go₁ (before ++ (part ++ after)) 0
        ⟨String.utf8Len before⟩ ⟨String.utf8Len (before ++ part)⟩ =
        String.Pos.Raw.extract.go₂ (part ++ after) ⟨String.utf8Len before⟩
          ⟨String.utf8Len (before ++ part)⟩ :=
      String.Pos.Raw.extract.go₁_append_right before (part ++ after) 0 _ _ rfl
    rw [String.toList_ofList, List.append_assoc, hfront,
      String.Pos.Raw.extract.go₂_append_left part after _ _
        (by rw [String.utf8Len_append, Nat.add_comm])]

/-- In digits every byte is the place of a character. -/
theorem slice?_digits (before part after : List Char)
    (h : ∀ d ∈ before ++ part ++ after, d.isHexDigit) :
    slice? (.ofList (before ++ part ++ after)) before.length (before ++ part).length =
      some (.ofList part) := by
  have hparts := (List.forall_mem_append.mp h).1
  have hslice := slice?_ofList before part after
  rwa [utf8Len_of_isHexDigit (List.forall_mem_append.mp hparts).1,
    utf8Len_of_isHexDigit hparts] at hslice

/-! Channels. -/

namespace Rgb

theorem exists_channel? {high low : Char} (hhigh : high.isHexDigit) (hlow : low.isHexDigit) :
    ∃ n, channel? high low = some n ∧ channelHex n = [high.toLower, low.toLower] := by
  obtain ⟨v, hv, hvalue, hdigit⟩ := exists_hexValue? hhigh
  obtain ⟨w, hw, hvalue', hdigit'⟩ := exists_hexValue? hlow
  have hnat : (UInt8.ofNat (16 * v + w)).toNat = 16 * v + w := by
    rw [UInt8.toNat_ofNat', Nat.mod_eq_of_lt (by omega)]
  refine ⟨UInt8.ofNat (16 * v + w), by simp [channel?, hexOf?, hvalue, hvalue'], ?_⟩
  rw [channelHex, hnat, ← hdigit, ← hdigit']
  congr 2
  · omega
  · congr 1
    omega

theorem isHexDigit_of_channel? {high low : Char} {n : UInt8} (h : channel? high low = some n) :
    high.isHexDigit ∧ low.isHexDigit := by
  obtain ⟨_, hvalue, _⟩ := Option.map_eq_some_iff.mp h
  exact isHexDigit_of_hexOf? hvalue

/-- Two digits never exceed a byte, and a sign is none of them. -/
theorem hexByte?_pair {high low : Char} (hhigh : high.isHexDigit) (hlow : low.isHexDigit) :
    hexByte? (.ofList [high, low]) = channel? high low := by
  obtain ⟨v, hv, hvalue, _⟩ := exists_hexValue? hhigh
  obtain ⟨w, hw, hvalue', _⟩ := exists_hexValue? hlow
  have hlt : 16 * v + w < 256 := by omega
  have hplus := ne_plus_of_isHexDigit hhigh
  simp [hexByte?, hplus, hexOf?, hvalue, hvalue', hlt, channel?]

/-- Seventeen times a digit is the digit twice. -/
theorem hexByte?_single {digit : Char} (h : digit.isHexDigit) :
    (hexByte? (.ofList [digit])).map (· * 17) = channel? digit digit := by
  have table : ∀ v < 16, UInt8.ofNat v * 17 = UInt8.ofNat (16 * v + v) := by decide
  obtain ⟨v, hv, hvalue, _⟩ := exists_hexValue? h
  have hlt : v < 256 := by omega
  have hplus := ne_plus_of_isHexDigit h
  simp [hexByte?, hplus, hexOf?, hvalue, hlt, channel?, table v hv]

/-! Colours. -/

variable {text : String} {color : Rgb} {digits : List Char} {r s g t b u : Char}

/-- The two digits of each channel, which three digits give twice. -/
inductive Channels : List Char → Char → Char → Char → Char → Char → Char → Prop
  | three (r g b : Char) : Channels [r, g, b] r r g g b b
  | six (r s g t b u : Char) : Channels [r, s, g, t, b, u] r s g t b u

theorem exists_channels (h : digits.length = 3 ∨ digits.length = 6) :
    ∃ r s g t b u, Channels digits r s g t b u := by
  rcases digits with
    _ | ⟨r, _ | ⟨s, _ | ⟨g, _ | ⟨t, _ | ⟨b, _ | ⟨u, _ | ⟨d, rest⟩⟩⟩⟩⟩⟩⟩ <;> simp at h
  · exact ⟨_, _, _, _, _, _, .three r s g⟩
  · exact ⟨_, _, _, _, _, _, .six r s g t b u⟩

theorem Channels.length_digits (h : Channels digits r s g t b u) :
    digits.length = 3 ∨ digits.length = 6 := by
  cases h with
  | three => exact Or.inl rfl
  | six => exact Or.inr rfl

theorem Channels.forall_mem_iff {P : Char → Prop} (h : Channels digits r s g t b u) :
    (∀ d ∈ digits, P d) ↔ (P r ∧ P s) ∧ (P g ∧ P t) ∧ P b ∧ P u := by
  cases h with
  | three => simp
  | six => simp [and_assoc]

theorem parse?_of_channels (htext : trim text.toList = '#' :: digits)
    (h : Channels digits r s g t b u) : parse? text = do
      return ⟨← channel? r s, ← channel? g t, ← channel? b u⟩ := by
  cases h <;> simp only [parse?, htext]

theorem exists_channels_of_parse? (h : parse? text = some color) : ∃ digits r s g t b u,
    trim text.toList = '#' :: digits ∧ Channels digits r s g t b u := by
  unfold parse? at h
  split at h
  · next htext => exact ⟨_, _, _, _, _, _, _, htext, .six ..⟩
  · next htext => exact ⟨_, _, _, _, _, _, _, htext, .three ..⟩
  · cases h

theorem isColorText_of_parse? (h : parse? text = some color) : IsColorText (trim text.toList) := by
  obtain ⟨digits, r, s, g, t, b, u, htext, hchannels⟩ := exists_channels_of_parse? h
  rw [parse?_of_channels htext hchannels] at h
  simp only [Option.bind_eq_bind, Option.bind_eq_some_iff] at h
  obtain ⟨_, hred, _, hgreen, _, hblue, _⟩ := h
  exact ⟨digits, htext, hchannels.length_digits, hchannels.forall_mem_iff.mpr
    ⟨isHexDigit_of_channel? hred, isHexDigit_of_channel? hgreen, isHexDigit_of_channel? hblue⟩⟩

/-- Digits are read, and are shown again in lower case, three of them twice each. -/
theorem exists_parse? (htext : trim text.toList = '#' :: digits)
    (hlength : digits.length = 3 ∨ digits.length = 6) (hdigits : ∀ d ∈ digits, d.isHexDigit) :
    ∃ color, parse? text = some color ∧
      (digits.length = 6 → color.toHex.toList = (trim text.toList).map Char.toLower) ∧
      (digits.length = 3 → color.toHex.toList =
        '#' :: digits.flatMap fun d => [d.toLower, d.toLower]) := by
  obtain ⟨r, s, g, t, b, u, h⟩ := exists_channels hlength
  obtain ⟨⟨hr, hs⟩, ⟨hg, ht⟩, hb, hu⟩ := h.forall_mem_iff.mp hdigits
  obtain ⟨red, hred, hreds⟩ := exists_channel? hr hs
  obtain ⟨green, hgreen, hgreens⟩ := exists_channel? hg ht
  obtain ⟨blue, hblue, hblues⟩ := exists_channel? hb hu
  have hshown : (toHex ⟨red, green, blue⟩).toList =
      '#' :: [r, s, g, t, b, u].map Char.toLower := by
    simp [toHex, hreds, hgreens, hblues]
  have hsign : '#'.toLower = '#' := by decide
  refine ⟨⟨red, green, blue⟩, ?_, ?_, ?_⟩
  · rw [parse?_of_channels htext h, hred, hgreen, hblue]
    rfl
  · intro hsix
    cases h with
    | three => cases hsix
    | six => rw [hshown, htext, List.map_cons (a := '#'), hsign]
  · intro hthree
    cases h with
    | three => exact hshown
    | six => cases hthree

theorem isSome_parse?_iff : (parse? text).isSome ↔ IsColorText (trim text.toList) := by
  constructor
  · intro h
    obtain ⟨color, hcolor⟩ := Option.isSome_iff_exists.mp h
    exact isColorText_of_parse? hcolor
  · rintro ⟨digits, htext, hlength, hdigits⟩
    obtain ⟨color, hcolor, _⟩ := exists_parse? htext hlength hdigits
    rw [hcolor, Option.isSome_some]

theorem ofSlices?_six (hdigits : ∀ d ∈ [r, s, g, t, b, u], d.isHexDigit) :
    ofSlices? (.ofList [r, s, g, t, b, u]) =
      some do return ⟨← channel? r s, ← channel? g t, ← channel? b u⟩ := by
  have hsize : (String.ofList [r, s, g, t, b, u]).utf8ByteSize = 6 := by
    rw [String.utf8ByteSize_ofList, utf8Len_of_isHexDigit hdigits]
    rfl
  have hred : slice? (.ofList [r, s, g, t, b, u]) 0 2 = _ :=
    slice?_digits [] [r, s] [g, t, b, u] hdigits
  have hgreen : slice? (.ofList [r, s, g, t, b, u]) 2 4 = _ :=
    slice?_digits [r, s] [g, t] [b, u] hdigits
  have hblue : slice? (.ofList [r, s, g, t, b, u]) 4 6 = _ :=
    slice?_digits [r, s, g, t] [b, u] [] hdigits
  obtain ⟨⟨hr, hs⟩, ⟨hg, ht⟩, hb, hu⟩ := (Channels.six r s g t b u).forall_mem_iff.mp hdigits
  rw [ofSlices?, if_pos hsize, hred, hgreen, hblue, ← hexByte?_pair hr hs, ← hexByte?_pair hg ht,
    ← hexByte?_pair hb hu]
  rfl

theorem ofSlices?_three (hdigits : ∀ d ∈ [r, g, b], d.isHexDigit) :
    ofSlices? (.ofList [r, g, b]) =
      some do return ⟨← channel? r r, ← channel? g g, ← channel? b b⟩ := by
  have hsize : (String.ofList [r, g, b]).utf8ByteSize = 3 := by
    rw [String.utf8ByteSize_ofList, utf8Len_of_isHexDigit hdigits]
    rfl
  have hsix : (String.ofList [r, g, b]).utf8ByteSize ≠ 6 := by omega
  have hred : slice? (.ofList [r, g, b]) 0 1 = _ := slice?_digits [] [r] [g, b] hdigits
  have hgreen : slice? (.ofList [r, g, b]) 1 2 = _ := slice?_digits [r] [g] [b] hdigits
  have hblue : slice? (.ofList [r, g, b]) 2 3 = _ := slice?_digits [r, g] [b] [] hdigits
  obtain ⟨⟨hr, _⟩, ⟨hg, _⟩, hb, _⟩ := (Channels.three r g b).forall_mem_iff.mp hdigits
  rw [ofSlices?, if_neg hsix, if_pos hsize, hred, hgreen, hblue, ← hexByte?_single hr,
    ← hexByte?_single hg, ← hexByte?_single hb]
  simp only [Option.bind_eq_bind, Option.bind_some, Option.bind_map]
  rfl

/-- All slices of digits can be made, and give the colour that the digits are read as. -/
theorem ofSlices?_digits (htext : trim text.toList = '#' :: digits)
    (hdigits : ∀ d ∈ digits, d.isHexDigit) :
    ofSlices? (.ofList digits) = some (parse? text) := by
  by_cases hlength : digits.length = 3 ∨ digits.length = 6
  · obtain ⟨r, s, g, t, b, u, h⟩ := exists_channels hlength
    rw [parse?_of_channels htext h]
    cases h with
    | three => exact ofSlices?_three hdigits
    | six => exact ofSlices?_six hdigits
  · rw [not_or] at hlength
    have hsize : (String.ofList digits).utf8ByteSize = digits.length := by
      rw [String.utf8ByteSize_ofList, utf8Len_of_isHexDigit hdigits]
    rw [ofSlices?, hsize, if_neg hlength.2, if_neg hlength.1]
    cases hparse : parse? text with
    | none => rfl
    | some color =>
      obtain ⟨digits', htext', hlength', _⟩ := isColorText_of_parse? hparse
      obtain rfl : digits = digits' := (List.cons.inj (htext.symm.trans htext')).2
      exact absurd hlength' (not_or.mpr hlength)

/-- Slices never fall outside of a text or inside a character, whatever the text. -/
theorem parseSlices?_eq (text : String) : parseSlices? text = some (parse? text) := by
  unfold parseSlices?
  have hnone (h : ¬ IsColorText (trim text.toList)) : parse? text = none := by
    rwa [← isSome_parse?_iff, Option.isSome_iff_ne_none, not_not] at h
  split
  · next digits htext =>
    split
    · next hall => exact ofSlices?_digits htext (List.all_eq_true.mp hall)
    · next hall =>
      rw [hnone]
      rintro ⟨digits', htext', _, hdigits⟩
      obtain rfl : digits = digits' := (List.cons.inj (htext.symm.trans htext')).2
      exact hall (List.all_eq_true.mpr hdigits)
  · next hother =>
    rw [hnone]
    rintro ⟨digits, htext, _⟩
    exact hother digits htext

end Rgb

/-! Ranges. -/

theorem finiteNumber?_of_isColorText {text : String} (h : IsColorText (trim text.toList)) :
    finiteNumber? text = none := by
  obtain ⟨digits, htext, _⟩ := h
  rw [← Option.not_isSome_iff_eq_none, isSome_finiteNumber?_iff, htext]
  rintro ⟨l, hl, _⟩
  exact not_isDecimal_numberSign digits hl

theorem ScaleRange.parse?_eq_some_iff {first last : String} {range : ScaleRange Float} :
    ScaleRange.parse? first last = some range ↔
      (∃ a b, finiteNumber? first = some a ∧ finiteNumber? last = some b ∧
        range = .numeric a b) ∨
      ∃ a b, Rgb.parse? first = some a ∧ Rgb.parse? last = some b ∧
        range = .color ⟨a, trimmed first⟩ ⟨b, trimmed last⟩ := by
  unfold ScaleRange.parse?
  split
  · next a b ha hb =>
    constructor
    · exact fun h => Or.inl ⟨a, b, ha, hb, (Option.some.inj h).symm⟩
    · rintro (⟨a', b', ha', hb', rfl⟩ | ⟨color, _, hcolor, _⟩)
      · rw [Option.some.inj (ha.symm.trans ha'), Option.some.inj (hb.symm.trans hb')]
      · have hnone := finiteNumber?_of_isColorText (Rgb.isColorText_of_parse? hcolor)
        cases ha.symm.trans hnone
  · next hnumbers =>
    unfold ColorStop.parse?
    constructor
    · intro h
      split at h
      · next a b ha hb =>
        obtain ⟨color, hcolor, rfl⟩ := Option.map_eq_some_iff.mp ha
        obtain ⟨color', hcolor', rfl⟩ := Option.map_eq_some_iff.mp hb
        exact Or.inr ⟨color, color', hcolor, hcolor', (Option.some.inj h).symm⟩
      · cases h
    · rintro (⟨a, b, ha, hb, _⟩ | ⟨a, b, ha, hb, rfl⟩)
      · exact absurd hb (hnumbers a b ha)
      · rw [ha, hb]
        rfl

/-- A text is a colour exactly where, without the blanks around it, it is a number sign and three or
six hexadecimal digits; cutting it at bytes reads the same, and every slice can be made. The colour
shows the text in lower case, three digits twice each, and is read again from what it shows. A text
is a finite number exactly where, without the blanks around it, it writes a decimal that rounds
below the limit of all numbers, and the number is the nearest one. A range runs between two finite
numbers or between two colours, which keep their texts without the blanks around them. -/
theorem colors_read_exactly :
    (∀ text, (Rgb.parse? text).isSome ↔ IsColorText (trim text.toList)) ∧
    (∀ text, Rgb.parseSlices? text = some (Rgb.parse? text)) ∧
    (∀ text color digits, Rgb.parse? text = some color → trim text.toList = '#' :: digits →
      (digits.length = 6 → color.toHex.toList = (trim text.toList).map Char.toLower) ∧
      (digits.length = 3 →
        color.toHex.toList = '#' :: digits.flatMap fun d => [d.toLower, d.toLower])) ∧
    (∀ color : Rgb, Rgb.parse? color.toHex = some color) ∧
    (∀ text, (finiteNumber? text).isSome ↔
      ∃ l, IsDecimal l (trim text.toList) ∧ |nearest l.exact| < limit) ∧
    (∀ text number, finiteNumber? text = some number →
      ∃ l, IsDecimal l (trim text.toList) ∧ rational? number = some (nearest l.exact)) ∧
    ∀ first last range, ScaleRange.parse? first last = some range ↔
      (∃ a b, finiteNumber? first = some a ∧ finiteNumber? last = some b ∧
        range = .numeric a b) ∨
      ∃ a b, Rgb.parse? first = some a ∧ Rgb.parse? last = some b ∧
        range = .color ⟨a, trimmed first⟩ ⟨b, trimmed last⟩ := by
  refine ⟨fun _ => Rgb.isSome_parse?_iff, Rgb.parseSlices?_eq, ?_, Rgb.parse?_toHex,
    fun _ => isSome_finiteNumber?_iff, fun _ _ => exists_nearest_of_finiteNumber?,
    fun _ _ _ => ScaleRange.parse?_eq_some_iff⟩
  intro text color digits hcolor htext
  obtain ⟨digits', htext', hlength, hdigits⟩ := Rgb.isColorText_of_parse? hcolor
  obtain rfl : digits = digits' := (List.cons.inj (htext.symm.trans htext')).2
  obtain ⟨color', hcolor', hsix, hthree⟩ := Rgb.exists_parse? htext hlength hdigits
  obtain rfl : color = color' := Option.some.inj (hcolor.symm.trans hcolor')
  exact ⟨hsix, hthree⟩

/-- An orange in three digits and in six, the range between black and it, and one between numbers of
which the first has a point, a power and blanks around it. -/
theorem orange_read_exactly : Rgb.parse? " #F80\t" = some ⟨255, 136, 0⟩ ∧
    Rgb.toHex ⟨255, 136, 0⟩ = "#ff8800" ∧ Rgb.parse? "#ff8800" = some ⟨255, 136, 0⟩ ∧
    ScaleRange.parse? "#000" " #F80\t" =
      some (.color ⟨⟨0, 0, 0⟩, "#000"⟩ ⟨⟨255, 136, 0⟩, "#F80"⟩) ∧
    (∃ l, IsDecimal l "-.5e1".toList ∧ rational? (-5) = some (nearest l.exact)) ∧
    ScaleRange.parse? " -.5e1\t" "7" = some (.numeric (-5) 7) := by
  obtain ⟨_, _, hshown, hback, _, hnearest, hrange⟩ := colors_read_exactly
  have hshort : Rgb.parse? " #F80\t" = some ⟨255, 136, 0⟩ := by decide
  have hblack : Rgb.parse? "#000" = some ⟨0, 0, 0⟩ := by decide
  have hfirst : finiteNumber? " -.5e1\t" = some (-5) := rfl
  have hlast : finiteNumber? "7" = some 7 := rfl
  obtain ⟨_, htwice⟩ := hshown _ _ ['F', '8', '0'] hshort (by decide)
  have hhex := (String.toList_inj.mp ((htwice rfl).trans (by decide)) :
    Rgb.toHex ⟨255, 136, 0⟩ = "#ff8800")
  refine ⟨hshort, hhex, hhex ▸ hback _, ?_, hnearest _ _ hfirst, ?_⟩
  · exact (hrange _ _ _).mpr (Or.inr ⟨_, _, hblack, hshort, rfl⟩)
  · exact (hrange _ _ _).mpr (Or.inl ⟨_, _, hfirst, hlast, rfl⟩)

end Cartouche
