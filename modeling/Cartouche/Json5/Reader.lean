import Cartouche.Json.Reader
import Cartouche.Json5.Letter

/-!
The wider format: comments, names without quotes as keys, either kind of quote, commas at the end,
and more forms of numbers. A text is read to its end before its shape is looked at, so a node of
this format never breaks off; what its leaves cannot hold is found when they are read.
-/
namespace Cartouche.Json5
open Decimal Json

def isLineEnd (c : Char) : Bool :=
  c == '\n' || c == '\r' || c == '\u2028' || c == '\u2029'

/-- Separators of words, in any script. -/
def spaces : Text.CharSet := [
  (0x20, 0x20), (0xA0, 0xA0), (0x1680, 0x1680), (0x2000, 0x200A), (0x202F, 0x202F),
  (0x205F, 0x205F), (0x3000, 0x3000)]

def isSpace (c : Char) : Bool :=
  c == '\t' || c == '\x0b' || c == '\x0c' || c == '\uFEFF' || isLineEnd c || spaces.contains c

/-- Where the reader stands between two tokens. -/
inductive Between where
  | space
  | lineComment
  /-- In a comment with an end of its own; the text from where it began stays, should it not end. -/
  | comment (start : List Char)

def skipFrom : Between → List Char → List Char
  | .comment start, [] => start
  | _, [] => []
  | .comment _, '*' :: '/' :: rest => skipFrom .space rest
  | .comment start, _ :: rest => skipFrom (.comment start) rest
  | .lineComment, c :: rest => skipFrom (if isLineEnd c then .space else .lineComment) rest
  | .space, '/' :: '/' :: rest => skipFrom .lineComment rest
  | .space, '/' :: '*' :: rest => skipFrom (.comment ('/' :: '*' :: rest)) rest
  | .space, c :: rest => if isSpace c then skipFrom .space rest else c :: rest

/-- Drops white space and comments. -/
def skip (input : List Char) : List Char :=
  skipFrom .space input

/-- Parts of a quoted text or of a name: characters, and code units by their digits. -/
inductive Part where
  /-- The character meant, and how it is spelt behind a backslash, if there is one. -/
  | char (c : Char) (spelling : List Char)
  | unit (digits : List Char)

/-- The letter behind a backslash stands for itself, but for a few controls. -/
def escapedChar (c : Char) : Char :=
  if c = 'b' then '\x08'
  else if c = 'f' then '\x0c'
  else if c = 'n' then '\n'
  else if c = 'r' then '\r'
  else if c = 't' then '\t'
  else if c = 'v' then '\x0b'
  else c

def unitValue (digits : List Char) : Nat :=
  (hexOf? digits).getD 0

/-- The character of a pair of halves: the bits of both, and the bit of the first plane beyond them
set, not added. A pair for an even plane means the character one plane lower. -/
def joinHalves (lead trail : Nat) : Char :=
  let n := (lead - 0xD800) * 0x400 + (trail - 0xDC00)
  Char.ofNat (if n / 0x10000 % 2 = 0 then n + 0x10000 else n)

/-- The text of its parts; the first half of a surrogate pair takes the part after it, whatever
that is, as the digits of the second half. -/
def joinParts : List Part → Except Fault (List Char)
  | [] => .ok []
  | .char c _ :: rest => (joinParts rest).map (c :: ·)
  | .unit digits :: rest =>
    let n := unitValue digits
    if isTrail n then .error (.shape .unexpectedTrailSurrogate)
    else if isLead n then
      match rest with
      | [] => .error (.shape .missingTrailSurrogate)
      | part :: rest =>
        let spelling := match part with
          | .char _ spelling => spelling
          | .unit digits => digits
        match hexOf? spelling with
        | none => .error (.shape .unreadableHex)
        | some m =>
          if isTrail m then (joinParts rest).map (joinHalves n m :: ·)
          else .error (.shape .expectedTrailSurrogate)
    else (joinParts rest).map (Char.ofNat n :: ·)

def text (parts : List Part) : Except Fault String :=
  (joinParts parts).map String.ofList

/-- Four hexadecimal digits. -/
def fourHex? : List Char → Option (List Char × List Char)
  | a :: b :: c :: d :: rest =>
    if (hexOf? [a, b, c, d]).isSome then some ([a, b, c, d], rest) else none
  | _ => none

/-- What a backslash begins inside quotes: a line goes on, or a part. -/
def escape? : List Char → Option (Option Part × List Char)
  | '\r' :: '\n' :: rest => some (none, rest)
  | 'x' :: a :: b :: rest =>
    (hexOf? [a, b]).map fun n => (some (.char (Char.ofNat n) [a, b]), rest)
  | 'u' :: rest => (fourHex? rest).map fun (digits, rest) => (some (.unit digits), rest)
  | c :: rest =>
    if isLineEnd c then some (none, rest)
    else if c = '0' then some (some (.char '\x00' [c]), rest)
    else if c.isDigit ∨ c = 'x' then none
    else some (some (.char (escapedChar c) [c]), rest)
  | [] => none

/-- The parts up to the closing quote, and what follows it. -/
def quotedParts? (fuel : Nat) (quote : Char) (input : List Char) :
    Option (List Part × List Char) :=
  match fuel with
  | 0 => none
  | fuel + 1 =>
    match input with
    | [] => none
    | '\\' :: rest => do
      let (part, rest) ← escape? rest
      let (parts, rest) ← quotedParts? fuel quote rest
      return (part.toList ++ parts, rest)
    | c :: rest =>
      if c = quote then some ([], rest)
      else if isLineEnd c then none
      else (quotedParts? fuel quote rest).map fun (parts, rest) => (.char c [c] :: parts, rest)

/-- One character of a name, or its code unit. -/
def namePart? (allowed : Char → Bool) : List Char → Option (Part × List Char)
  | '\\' :: 'u' :: rest => (fourHex? rest).map fun (digits, rest) => (.unit digits, rest)
  | c :: rest => if allowed c then some (.char c [c], rest) else none
  | [] => none

def nameParts (fuel : Nat) (input : List Char) : List Part × List Char :=
  match fuel with
  | 0 => ([], input)
  | fuel + 1 =>
    match namePart? isNamePart input with
    | some (part, rest) =>
      let (parts, rest) := nameParts fuel rest
      (part :: parts, rest)
    | none => ([], input)

/-- A quoted text, if one stands here. -/
def quoted? (fuel : Nat) (input : List Char) : Option (Except Fault String × List Char) :=
  match input with
  | quote :: rest =>
    if quote = '"' ∨ quote = '\'' then
      (quotedParts? fuel quote rest).map fun (parts, rest) => (text parts, rest)
    else none
  | [] => none

/-- A key: a quoted text or a name. -/
def key? (fuel : Nat) (input : List Char) : Option (Except Fault String × List Char) :=
  (quoted? fuel input).orElse fun _ => do
    let (first, rest) ← namePart? isNameStart input
    let (parts, rest) := nameParts fuel rest
    return (text (first :: parts), rest)

/-- Numerals without their sign. -/
inductive Numeral where
  | infinity
  | nan
  | hex (digits : List Char)
  /-- Digits without a point or an exponent. -/
  | whole (digits : List Char)
  | decimal (whole fraction : List Char) (exponent : Int)

/-- The exponent behind its mark, or nothing taken where no digits follow. -/
def exponentPart (input : List Char) : Option Int × List Char :=
  match input with
  | mark :: behind =>
    if isExponentMark mark then
      let (negative, digits) := splitSign behind
      match digits.span Char.isDigit with
      | ([], _) => (none, input)
      | (digits, rest) =>
        (some (if negative then -(natOfDigits digits : Int) else natOfDigits digits), rest)
    else (none, input)
  | [] => (none, [])

def word? (word : String) (input : List Char) : Option (List Char) :=
  if word.toList.isPrefixOf input then some (input.drop word.length) else none

/-- The digits before a point; a zero stands alone. -/
def wholeDigits (input : List Char) : List Char × List Char :=
  match input with
  | '0' :: rest => (['0'], rest)
  | input => input.span Char.isDigit

def decimalNumeral? (input : List Char) : Option (Numeral × List Char) :=
  let (whole, rest) := wholeDigits input
  match whole.isEmpty, rest with
  | isEmpty, '.' :: behind =>
    let (fraction, rest) := behind.span Char.isDigit
    if isEmpty && fraction.isEmpty then none
    else
      let (exponent, rest) := exponentPart rest
      some (.decimal whole fraction (exponent.getD 0), rest)
  | true, _ => none
  | false, rest =>
    match exponentPart rest with
    | (some exponent, rest) => some (.decimal whole [] exponent, rest)
    | (none, rest) => some (.whole whole, rest)

def hexNumeral? (input : List Char) : Option (Numeral × List Char) :=
  match input with
  | '0' :: x :: rest =>
    if x = 'x' ∨ x = 'X' then
      match rest.span fun c => (hexValue? c).isSome with
      | ([], _) => none
      | (digits, rest) => some (.hex digits, rest)
    else none
  | _ => none

def numeral? (input : List Char) : Option (Numeral × List Char) :=
  match hexNumeral? input with
  | some result => some result
  | none =>
    match decimalNumeral? input with
    | some result => some result
    | none =>
      match word? "Infinity" input with
      | some rest => some (.infinity, rest)
      | none => (word? "NaN" input).map fun rest => (.nan, rest)

/-- Signs in front of a numeral, kept apart because the plus sign has limits of its own. -/
inductive Sign where
  | none
  | plus
  | minus
deriving DecidableEq

def Sign.isNegative (s : Sign) : Bool := s == .minus

def finite (l : Literal) : Except Fault Float :=
  let x : Float := l.value
  if x.isFinite then .ok x else .error (.shape .numberTooLarge)

/-- Hexadecimal digits have a value of at most thirty-two bits. -/
def hexNumber (digits : List Char) : Except Fault Nat :=
  match hexOf? digits with
  | some n => if n < 4294967296 then .ok n else .error (.shape .unreadableHex)
  | none => .error (.shape .unreadableHex)

/-- A number as it stands: integers have sixty-four bits, and only a minus goes with a word. -/
def general (sign : Sign) : Numeral → Except Fault Number
  | .infinity =>
    if sign = .plus then .error (.shape .unreadableInteger)
    else .ok (.decimal ((Decoded.infinite sign.isNegative).convert))
  | .nan =>
    if sign = .plus then .error (.shape .unreadableInteger) else .ok (.decimal Floating.nan)
  | .hex digits =>
    if sign = .none then (hexNumber digits).map fun n => .integer n
    else if digits.any isExponentMark then .error (.shape .unreadableNumber)
    else .error (.shape .unreadableInteger)
  | .whole digits =>
    let n : Int := natOfDigits digits
    let i := if sign.isNegative then -n else n
    if -9223372036854775808 ≤ i ∧ i ≤ 9223372036854775807 then .ok (.integer i)
    else .error (.shape .unreadableInteger)
  | .decimal whole fraction exponent =>
    (finite (.ofParts sign.isNegative whole fraction exponent)).map .decimal

/-- A number of a given type. -/
def real (sign : Sign) : Numeral → Except Fault Float
  | .infinity =>
    if sign = .plus then .error (.shape .numberTooLarge)
    else .ok ((Decoded.infinite sign.isNegative).convert)
  | .nan => if sign = .plus then .error (.shape .numberTooLarge) else .ok Floating.nan
  | .hex digits =>
    if sign = .none then (hexNumber digits).map fun n => (Number.integer n).toFloat
    else .error (.shape .unreadableNumber)
  | .whole digits => finite (.ofParts sign.isNegative digits [] 0)
  | .decimal whole fraction exponent => finite (.ofParts sign.isNegative whole fraction exponent)

def number? (input : List Char) : Option (Node × List Char) :=
  let (sign, rest) : Sign × List Char := match input with
    | '+' :: rest => (.plus, rest)
    | '-' :: rest => (.minus, rest)
    | input => (.none, input)
  (numeral? rest).map fun (numeral, rest) =>
    (.number (general sign numeral) (real sign numeral), rest)

mutual
/-- One value. The fuel is more than the length of the text and bounds every step: each value is
paid for by what it takes from the text. -/
def value? (fuel : Nat) (input : List Char) : Option (Node × List Char) :=
  match fuel with
  | 0 => none
  | fuel + 1 =>
    match input with
    | '[' :: rest =>
      match skip rest with
      | ']' :: rest => some (.list [] none, rest)
      | rest => (items? fuel rest).map fun (items, rest) => (.list items none, rest)
    | '\x7b' :: rest =>
      match skip rest with
      | '\x7d' :: rest => some (.object [] none, rest)
      | rest => (fields? fuel rest).map fun (fields, rest) => (.object fields none, rest)
    | 'n' :: rest => (word? "ull" rest).map fun rest => (.null, rest)
    | 't' :: rest => (word? "rue" rest).map fun rest => (.bool true, rest)
    | 'f' :: rest => (word? "alse" rest).map fun rest => (.bool false, rest)
    | input =>
      match quoted? fuel input with
      | some (content, rest) => some (.text content, rest)
      | none => number? input

/-- Items up to the closing bracket; there is at least one. -/
def items? (fuel : Nat) (input : List Char) : Option (List Node × List Char) :=
  match fuel with
  | 0 => none
  | fuel + 1 => do
    let (node, rest) ← value? fuel input
    match skip rest with
    | ']' :: rest => return ([node], rest)
    | ',' :: rest =>
      match skip rest with
      | ']' :: rest => return ([node], rest)
      | rest =>
        let (items, rest) ← items? fuel rest
        return (node :: items, rest)
    | _ => none

def fields? (fuel : Nat) (input : List Char) :
    Option (List (Except Fault String × Node) × List Char) :=
  match fuel with
  | 0 => none
  | fuel + 1 => do
    let (key, rest) ← key? fuel input
    match skip rest with
    | ':' :: rest =>
      let (node, rest) ← value? fuel (skip rest)
      match skip rest with
      | '\x7d' :: rest => return ([(key, node)], rest)
      | ',' :: rest =>
        match skip rest with
        | '\x7d' :: rest => return ([(key, node)], rest)
        | rest =>
          let (fields, rest) ← fields? fuel rest
          return ((key, node) :: fields, rest)
      | _ => none
    | _ => none
end

/-- A whole text, unless its grammar is at fault. -/
def read? (input : List Char) : Option Node := do
  let (node, rest) ← value? (2 * input.length + 1) (skip input)
  if (skip rest).isEmpty then some node else none

end Cartouche.Json5
