import Cartouche.Decimal.Binary
import Cartouche.Json.Reader
import Cartouche.Limits
import Cartouche.Text.Blank

/-! Colours of three eight-bit channels, and blends of two of them. -/
namespace Cartouche
open Decimal Text

structure Rgb where
  red : UInt8
  green : UInt8
  blue : UInt8
deriving DecidableEq

/-- Numbers that channels are blended in; they round back to the nearest channel, halves up. -/
class Blending (α : Type) where
  ofChannel : UInt8 → α
  toChannel : α → UInt8

instance : Blending Float where
  ofChannel c := c.toFloat
  toChannel x := .ofNat ((decode x).clampRounded 255)

namespace Rgb

/-- The channel of two hexadecimal digits. -/
def channel? (high low : Char) : Option UInt8 :=
  (Json.hexOf? [high, low]).map UInt8.ofNat

/-- A number sign and six hexadecimal digits, or three that count twice each. -/
def parse? (text : String) : Option Rgb :=
  match trim text.toList with
  | ['#', r, s, g, h, b, c] => do
    return ⟨← channel? r s, ← channel? g h, ← channel? b c⟩
  | ['#', r, g, b] => do
    return ⟨← channel? r r, ← channel? g g, ← channel? b b⟩
  | _ => none

def channelHex (c : UInt8) : List Char :=
  [Json.hexDigit (c.toNat / 16), Json.hexDigit (c.toNat % 16)]

def toHex (c : Rgb) : String :=
  .ofList ('#' :: (channelHex c.red ++ channelHex c.green ++ channelHex c.blue))

variable {α : Type} [Blending α] [Add α] [Sub α] [Mul α] [OfNat α 0] [OfNat α 1] [LT α]
  [DecidableLT α]

def mixChannel (a b : UInt8) (t : α) : UInt8 :=
  Blending.toChannel (Blending.ofChannel a + t * (Blending.ofChannel b - Blending.ofChannel a : α))

/-- The blend of two colours, channel by channel; the weight is kept between zero and one. -/
def mix (a b : Rgb) (t : α) : Rgb :=
  let t := clamp 0 1 t
  ⟨mixChannel a.red b.red t, mixChannel a.green b.green t, mixChannel a.blue b.blue t⟩

end Rgb

end Cartouche
