import Cartouche.Proofs.Trimming
import Cartouche.Style.Range

/-! Colours read back from the texts that are made of them, and from the texts they were read of. -/
namespace Cartouche
open Json Text

def lowerHexDigits : List Char :=
  ['0', '1', '2', '3', '4', '5', '6', '7', '8', '9', 'a', 'b', 'c', 'd', 'e', 'f']

/-- A number sign and six hexadecimal digits in lower case. -/
def IsHexColor (text : String) : Prop :=
  ∃ digits : List Char, text.toList = '#' :: digits ∧ digits.length = 6 ∧
    ∀ d ∈ digits, d ∈ lowerHexDigits

theorem hexDigit_mem_lowerHexDigits : ∀ n < 16, hexDigit n ∈ lowerHexDigits := by
  decide

theorem isBlank_of_mem_lowerHexDigits {d : Char} (hd : d ∈ lowerHexDigits) :
    isBlank d = false := by
  have hall : lowerHexDigits.all (fun d => !isBlank d) = true := by decide
  simpa using List.all_eq_true.mp hall d hd

theorem hexValue?_hexDigit : ∀ n < 16, hexValue? (hexDigit n) = some n := by
  decide

theorem hexOf?_pair {high low : Nat} (hhigh : high < 16) (hlow : low < 16) :
    hexOf? [hexDigit high, hexDigit low] = some (16 * high + low) := by
  simp [hexOf?, hexValue?_hexDigit, hhigh, hlow]

namespace Rgb

theorem channel?_channelHex (c : UInt8) :
    channel? (hexDigit (c.toNat / 16)) (hexDigit (c.toNat % 16)) = some c := by
  have hlt := c.toNat_lt
  rw [channel?, hexOf?_pair (by omega) (by omega), Nat.div_add_mod, Option.map_some,
    UInt8.ofNat_toNat]

theorem isHexColor_toHex (c : Rgb) : IsHexColor c.toHex := by
  have hdigits : ∀ n : UInt8, ∀ d ∈ channelHex n, d ∈ lowerHexDigits := by
    intro n d hd
    have hlt := n.toNat_lt
    simp only [channelHex, List.mem_cons, List.not_mem_nil, or_false] at hd
    rcases hd with rfl | rfl
    · exact hexDigit_mem_lowerHexDigits _ (by omega)
    · exact hexDigit_mem_lowerHexDigits _ (by omega)
  refine ⟨channelHex c.red ++ channelHex c.green ++ channelHex c.blue, String.toList_ofList, rfl,
    ?_⟩
  intro d hd
  simp only [List.mem_append] at hd
  rcases hd with (hd | hd) | hd
  · exact hdigits c.red d hd
  · exact hdigits c.green d hd
  · exact hdigits c.blue d hd

end Rgb

theorem IsHexColor.isTrimmed {text : String} (h : IsHexColor text) : IsTrimmed text.toList := by
  obtain ⟨digits, htext, hlength, hdigits⟩ := h
  rw [htext]
  constructor
  · intro c hc
    obtain rfl : '#' = c := Option.some.inj hc
    decide
  · intro c hc
    have hne : digits ≠ [] := List.ne_nil_of_length_eq_add_one hlength
    rw [List.getLast?_cons_of_ne_nil hne] at hc
    exact isBlank_of_mem_lowerHexDigits (hdigits c (List.mem_of_getLast? hc))

namespace Rgb

/-- A colour is read from its own text. -/
theorem parse?_toHex (c : Rgb) : parse? c.toHex = some c := by
  have htrim := (isHexColor_toHex c).isTrimmed.trim_eq
  have htext : c.toHex.toList =
      '#' :: (channelHex c.red ++ channelHex c.green ++ channelHex c.blue) := String.toList_ofList
  rw [parse?, htrim, htext]
  simp only [channelHex, List.cons_append, List.nil_append, channel?_channelHex]
  rfl

/-- Blanks around a colour make no difference. -/
theorem parse?_trimmed (text : String) : parse? (trimmed text) = parse? text := by
  have htrim : trim (trimmed text).toList = trim text.toList := by
    rw [trimmed, String.toList_ofList, (isTrimmed_trim text.toList).trim_eq]
  rw [parse?, parse?, htrim]

end Rgb

/-- An end of a range keeps the text that it was read from, and is read from it again. -/
theorem ColorStop.parse?_text {text : String} {stop : ColorStop}
    (h : ColorStop.parse? text = some stop) :
    Rgb.parse? stop.text = some stop.color ∧ stop.text = trimmed text := by
  obtain ⟨color, hcolor, rfl⟩ := Option.map_eq_some_iff.mp h
  exact ⟨(Rgb.parse?_trimmed text).trans hcolor, rfl⟩

end Cartouche
