import Cartouche.Decimal.Scaled
import Cartouche.Json.Node

/-! JSON text read into a node, with the text that follows it where nothing is broken. -/
namespace Cartouche.Json
open Decimal

def skipSpace (input : List Char) : List Char :=
  input.dropWhile fun c => c == ' ' || c == '\n' || c == '\t' || c == '\r'

def hexValue? (c : Char) : Option Nat :=
  if c.isDigit then some (c.toNat - '0'.toNat)
  else if 'a' ≤ c ∧ c ≤ 'f' then some (c.toNat - 'a'.toNat + 10)
  else if 'A' ≤ c ∧ c ≤ 'F' then some (c.toNat - 'A'.toNat + 10)
  else none

/-- The value of hexadecimal digits, if all of them are. -/
def hexOf? (digits : List Char) : Option Nat :=
  digits.foldl (fun n c => match n, hexValue? c with
    | some n, some d => some (16 * n + d)
    | _, _ => none) (some 0)

/-- Parts of a quoted text: characters, and units of sixteen bits written by their digits. -/
inductive Piece where
  | char (c : Char)
  | unit (n : Nat)

def isLead (n : Nat) : Bool := 0xD800 ≤ n && n < 0xDC00

def isTrail (n : Nat) : Bool := 0xDC00 ≤ n && n < 0xE000

def joinSurrogates (lead trail : Nat) : Char :=
  Char.ofNat (0x10000 + (lead - 0xD800) * 0x400 + (trail - 0xDC00))

/-- The text of its pieces. Half a pair is a fault; `atEnd` tells what a lead meets at the end. -/
def joinPieces (atEnd : SyntaxFault) : List Piece → Except Fault (List Char)
  | [] => .ok []
  | .char c :: rest => (joinPieces atEnd rest).map (c :: ·)
  | .unit n :: rest =>
    if isTrail n then .error (.syntactic .loneSurrogate)
    else if isLead n then
      match rest with
      | [] => .error (.syntactic atEnd)
      | .char _ :: _ => .error (.syntactic .unfinishedSurrogate)
      | .unit m :: rest =>
        if isTrail m then (joinPieces atEnd rest).map (joinSurrogates n m :: ·)
        else .error (.syntactic .loneSurrogate)
    else (joinPieces atEnd rest).map (Char.ofNat n :: ·)

/-- The character that an escape of one letter stands for. -/
def escapeLetter? (c : Char) : Option Char :=
  if c = '"' ∨ c = '\\' ∨ c = '/' then some c
  else if c = 'b' then some '\x08'
  else if c = 'f' then some '\x0c'
  else if c = 'n' then some '\n'
  else if c = 'r' then some '\r'
  else if c = 't' then some '\t'
  else none

/-- Where a quoted text breaks off, and what the first half of a pair right before it meets. -/
structure TextBreak where
  fault : SyntaxFault
  afterLead : SyntaxFault

/-- A text behind its opening quote: its pieces, and what follows the closing quote. -/
def readPieces : List Char → List Piece × Except TextBreak (List Char)
  | [] => ([], .error ⟨.endInText, .endInText⟩)
  | '"' :: rest => ([], .ok rest)
  | ['\\'] => ([], .error ⟨.endInText, .endInText⟩)
  | '\\' :: 'u' :: a :: b :: c :: d :: rest =>
    match hexOf? [a, b, c, d] with
    | some n =>
      let (pieces, ending) := readPieces rest
      (.unit n :: pieces, ending)
    | none => ([], .error ⟨.invalidEscape, .invalidEscape⟩)
  | '\\' :: e :: rest =>
    match escapeLetter? e with
    | some c =>
      let (pieces, ending) := readPieces rest
      (.char c :: pieces, ending)
    | none =>
      if e = 'u' then
        if (String.ofList rest).utf8ByteSize < 4 then ([], .error ⟨.endInText, .endInText⟩)
        else ([], .error ⟨.invalidEscape, .invalidEscape⟩)
      else ([], .error ⟨.invalidEscape, .unfinishedSurrogate⟩)
  | c :: rest =>
    if c.toNat < 0x20 then ([], .error ⟨.controlCharacter, .unfinishedSurrogate⟩)
    else
      let (pieces, ending) := readPieces rest
      (.char c :: pieces, ending)

/-- A quoted text: what it says, or where it breaks off. -/
def readText (input : List Char) : Except Break (Except Fault String × List Char) :=
  let (pieces, ending) := readPieces input
  match ending with
  | .ok rest => .ok ((joinPieces .unfinishedSurrogate pieces).map String.ofList, rest)
  | .error place => .error {
      seen := match joinPieces place.afterLead pieces with
        | .error (.syntactic first) => first
        | _ => place.fault
      skipped := place.fault }

/-- Digits that must not be missing where a number asks for them. -/
def readDigits (input : List Char) : Except Break (List Char × List Char) :=
  match input.span Char.isDigit with
  | ([], []) => .error ⟨.endInNumber, .invalidNumber⟩
  | ([], _) => .error (.same .invalidNumber)
  | parts => .ok parts

/-- The greatest magnitudes of integers that are kept as integers. -/
def integer? (negative : Bool) (n : Nat) : Option Int :=
  if negative then
    if 0 < n ∧ n ≤ 9223372036854775808 then some (-(n : Int)) else none
  else if n ≤ 18446744073709551615 then some n else none

/-- How decimals become numbers: rounded once to the nearest, or at every step on the way. -/
inductive Rounding where
  | once
  | stepwise

/-- A decimal that is no finite number has no value. -/
def finiteDecimal (rounding : Rounding) (negative : Bool) (whole fraction : List Char)
    (exponent : Int) : Except Fault Number :=
  let x : Float := match rounding with
    | .once => (Literal.ofParts negative whole fraction exponent).value
    | .stepwise => (Scaled.ofParts negative whole fraction exponent).value
  if x.isFinite then .ok (.decimal x) else .error (.syntactic .numberOutOfRange)

def wholeNumber (rounding : Rounding) (negative : Bool) (whole : List Char) :
    Except Fault Number :=
  match integer? negative (natOfDigits whole) with
  | some i => .ok (.integer i)
  | none => finiteDecimal rounding negative whole [] 0

def numberNode (general : Except Fault Number) : Node :=
  .number general (general.map Number.toFloat)

/-- The part behind the mark of an exponent. -/
def readExponent (input : List Char) : Except Break (Int × List Char) :=
  let (negative, rest) := splitSign input
  (readDigits rest).map fun (digits, rest) =>
    (if negative then -(natOfDigits digits : Int) else natOfDigits digits, rest)

def isExponentMark (c : Char) : Bool := c == 'e' || c == 'E'

/-- A number without its sign; a leading zero stands alone. -/
def readNumber (rounding : Rounding) (negative : Bool) (input : List Char) :
    Except Break (Node × List Char) := do
  let (whole, rest) ← readDigits input
  if whole.head? = some '0' ∧ 1 < whole.length then throw (.same .invalidNumber)
  let (fraction, rest) ← match rest with
    | '.' :: behind => readDigits behind
    | _ => pure ([], rest)
  match rest with
  | mark :: behind =>
    if isExponentMark mark then
      let (exponent, rest) ← readExponent behind
      return (numberNode (finiteDecimal rounding negative whole fraction exponent), rest)
  | [] => pure ()
  if fraction.isEmpty then return (numberNode (wholeNumber rounding negative whole), rest)
  return (numberNode (finiteDecimal rounding negative whole fraction 0), rest)

/-- The rest of a word whose first letter told which word it is. -/
def readWord (node : Node) : List Char → List Char → Node × Option (List Char)
  | [], rest => (node, some rest)
  | _ :: _, [] => (.broken (.same .endInWord), none)
  | c :: word, d :: rest =>
    if c = d then readWord node word rest else (.broken (.same .expectedWord), none)

def orBroken : Except Break (Node × List Char) → Node × Option (List Char)
  | .ok (node, rest) => (node, some rest)
  | .error place => (.broken place, none)

/-- What separates one item from the next: the items are over, another begins, or a break. -/
inductive Separator where
  | over (rest : List Char)
  | next (rest : List Char)
  | stop (place : Break)

/-- Between the items of a list; `first` holds before any item. -/
def listSeparator (first : Bool) (input : List Char) : Separator :=
  match skipSpace input with
  | [] => .stop (.same .endInList)
  | ']' :: rest => .over rest
  | c :: rest =>
    if first then .next (c :: rest)
    else if c = ',' then
      match skipSpace rest with
      | [] => .stop (.same .endInValue)
      | ']' :: _ => .stop ⟨.trailingComma, .expectedValue⟩
      | rest => .next rest
    else .stop (.same .expectedListEnd)

/-- Between the fields of an object; a field begins with a quote, which is left out. -/
def fieldSeparator (first : Bool) (input : List Char) : Separator :=
  match skipSpace input with
  | [] => .stop (.same .endInObject)
  | '\x7d' :: rest => .over rest
  | c :: rest =>
    if first then
      if c = '"' then .next rest else .stop (.same .keyNotText)
    else if c = ',' then
      match skipSpace rest with
      | [] => .stop ⟨.endInValue, .endInObject⟩
      | '"' :: rest => .next rest
      | '\x7d' :: _ => .stop ⟨.trailingComma, .keyNotText⟩
      | _ => .stop (.same .keyNotText)
    else .stop (.same .expectedObjectEnd)

mutual
/-- One value; the fuel bounds how many values, items and fields are read one inside the other
or one after the other, and the length of the text is enough of it. -/
def readValue (rounding : Rounding) (fuel : Nat) (input : List Char) :
    Node × Option (List Char) :=
  match fuel with
  | 0 => (.broken (.same .endInValue), none)
  | fuel + 1 =>
    match skipSpace input with
    | [] => (.broken (.same .endInValue), none)
    | 'n' :: rest => readWord .null "ull".toList rest
    | 't' :: rest => readWord (.bool true) "rue".toList rest
    | 'f' :: rest => readWord (.bool false) "alse".toList rest
    | '-' :: rest => orBroken (readNumber rounding true rest)
    | '"' :: rest =>
      match readText rest with
      | .ok (content, rest) => (.text content, some rest)
      | .error place => (.broken place, none)
    | '[' :: rest =>
      let (items, ending, rest) := readItems rounding fuel true rest
      (.list items ending, rest)
    | '\x7b' :: rest =>
      let (fields, ending, rest) := readFields rounding fuel true rest
      (.object fields ending, rest)
    | c :: rest =>
      if c.isDigit then orBroken (readNumber rounding false (c :: rest))
      else (.broken (.same .expectedValue), none)

def readItems (rounding : Rounding) (fuel : Nat) (first : Bool) (input : List Char) :
    List Node × Option Break × Option (List Char) :=
  match fuel with
  | 0 => ([], some (.same .endInList), none)
  | fuel + 1 =>
    match listSeparator first input with
    | .over rest => ([], none, some rest)
    | .stop place => ([], some place, none)
    | .next rest =>
      match readValue rounding fuel rest with
      | (node, none) => ([node], none, none)
      | (node, some rest) =>
        let (items, ending, rest) := readItems rounding fuel false rest
        (node :: items, ending, rest)

def readFields (rounding : Rounding) (fuel : Nat) (first : Bool) (input : List Char) :
    List (Except Fault String × Node) × Option Break × Option (List Char) :=
  match fuel with
  | 0 => ([], some (.same .endInObject), none)
  | fuel + 1 =>
    match fieldSeparator first input with
    | .over rest => ([], none, some rest)
    | .stop place => ([], some place, none)
    | .next rest =>
      match readText rest with
      | .error place => ([], some place, none)
      | .ok (key, rest) =>
        match skipSpace rest with
        | [] => ([(key, .broken (.same .endInObject))], none, none)
        | ':' :: rest =>
          match readValue rounding fuel rest with
          | (node, none) => ([(key, node)], none, none)
          | (node, some rest) =>
            let (fields, ending, rest) := readFields rounding fuel false rest
            ((key, node) :: fields, ending, rest)
        | _ => ([(key, .broken (.same .expectedColon))], none, none)
end

/-- A whole text: its value, and the fault of what may follow it. -/
def read (rounding : Rounding) (input : List Char) : Node × Option SyntaxFault :=
  match readValue rounding (2 * input.length + 1) input with
  | (node, none) => (node, none)
  | (node, some rest) =>
    (node, if (skipSpace rest).isEmpty then none else some .trailingText)

end Cartouche.Json
