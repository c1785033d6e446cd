import Cartouche.Decimal.Binary

/-!
Decimal literals: an optional sign, digits with an optional point on either side of them, an
optional power of ten; or one of the words for infinity and for no number. Reading takes the exact
decimal first and rounds once.
-/
namespace Cartouche.Decimal

/-- The decimal `±digits * 10 ^ exponent`. -/
structure Literal where
  negative : Bool
  digits : Nat
  exponent : Int
deriving DecidableEq

def natOfDigits (text : List Char) : Nat :=
  text.foldl (fun n c => 10 * n + (c.toNat - '0'.toNat)) 0

/-- Decimals from `10 ^ 400` on exceed every number type and those below `10 ^ -400` fall below
every positive one, so both are answered without computing the power. -/
def Literal.value {α : Type} [Floating α] (l : Literal) : α :=
  let size : Int := (Nat.toDigits 10 l.digits).length + l.exponent
  let magnitude : α :=
    if l.digits = 0 ∨ size < -400 then OfScientific.ofScientific 0 false 0
    else if 400 < size then OfScientific.ofScientific 1 false 400
    else OfScientific.ofScientific l.digits (l.exponent < 0) l.exponent.natAbs
  if l.negative then -magnitude else magnitude

def Literal.ofParts (negative : Bool) (whole fraction : List Char) (exponent : Int) : Literal :=
  ⟨negative, natOfDigits (whole ++ fraction), exponent - fraction.length⟩

/-- What a literal may denote. -/
inductive Reading where
  | decimal (literal : Literal)
  | infinity (negative : Bool)
  | nan
deriving DecidableEq

def Reading.value {α : Type} [Floating α] : Reading → α
  | .decimal l => l.value
  | .infinity negative => (Decoded.infinite negative).convert
  | .nan => Floating.nan

/-- A leading sign, told apart from what follows it. -/
def splitSign : List Char → Bool × List Char
  | '-' :: rest => (true, rest)
  | '+' :: rest => (false, rest)
  | text => (false, text)

/-- Digits after the mark of an exponent; nothing may follow them. -/
def exponent? (text : List Char) : Option Int :=
  let (negative, digits) := splitSign text
  if digits.isEmpty || !digits.all Char.isDigit then none
  else some (if negative then -(natOfDigits digits : Int) else natOfDigits digits)

/-- Unsigned decimals, with at least one digit before or behind the point. -/
def unsigned? (negative : Bool) (text : List Char) : Option Literal :=
  let (whole, rest) := text.span Char.isDigit
  let (fraction, rest) := match rest with
    | '.' :: behind => behind.span Char.isDigit
    | _ => ([], rest)
  if whole.isEmpty && fraction.isEmpty then none
  else match rest with
    | [] => some (.ofParts negative whole fraction 0)
    | c :: behind =>
      if c = 'e' ∨ c = 'E' then (exponent? behind).map (.ofParts negative whole fraction)
      else none

/-- The words count in any mixture of cases. -/
def reading? (text : List Char) : Option Reading :=
  let (negative, rest) := splitSign text
  let word := rest.map Char.toLower
  if word = "inf".toList ∨ word = "infinity".toList then some (.infinity negative)
  else if word = "nan".toList then some .nan
  else (unsigned? negative rest).map .decimal

/-- The number a whole text denotes. -/
def read? {α : Type} [Floating α] (text : List Char) : Option α :=
  (reading? text).map Reading.value

/-- A natural number, which may carry a plus sign. -/
def natural? (text : List Char) : Option Nat :=
  let digits := match text with
    | '+' :: rest => rest
    | _ => text
  if digits.isEmpty || !digits.all Char.isDigit then none else some (natOfDigits digits)

end Cartouche.Decimal
