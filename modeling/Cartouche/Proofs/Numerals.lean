import Cartouche.Json.Basic
import Cartouche.Json.Reader
import Cartouche.Proofs.DecimalTexts
import Cartouche.Proofs.NumberTexts
import Cartouche.Proofs.Outcome
import Mathlib.Data.List.DropRight
import Mathlib.Data.List.TakeDrop
import Mathlib.Algebra.Order.Field.Rat
import Mathlib.Tactic.IntervalCases
import Mathlib.Tactic.NormNum

/-!
Numbers in JSON: a numeral is read to its end, whatever may stand behind it, and every number is
written as one. Written digits begin with one that is not zero, so that no zero stands where JSON
takes none.
-/
namespace Cartouche.Json
open Decimal

/-- The parts of a number without its sign, as JSON takes them: a leading zero stands alone. -/
structure Numeral where
  whole : List Char
  fraction : List Char
  /-- Whether the power of ten is negative, and its digits. -/
  exponent : Option (Bool × List Char)
  wholeDigits : ∀ c ∈ whole, c.isDigit
  wholeNonempty : whole ≠ []
  zeroAlone : whole.head? = some '0' → whole.length = 1
  fractionDigits : ∀ c ∈ fraction, c.isDigit
  exponentDigits : ∀ e ∈ exponent, e.2 ≠ [] ∧ ∀ c ∈ e.2, c.isDigit

namespace Numeral

def fractionText (n : Numeral) : List Char :=
  if n.fraction.isEmpty then [] else '.' :: n.fraction

def exponentText (n : Numeral) : List Char :=
  match n.exponent with
  | none => []
  | some (negative, digits) => 'e' :: (if negative then '-' else '+') :: digits

def text (n : Numeral) : List Char :=
  n.whole ++ n.fractionText ++ n.exponentText

/-- The number that a numeral reads as. -/
def read (rounding : Rounding) (negative : Bool) (n : Numeral) : Except Fault Number :=
  match n.exponent with
  | some (down, digits) =>
    finiteDecimal rounding negative n.whole n.fraction
      (if down then -(natOfDigits digits : Int) else natOfDigits digits)
  | none =>
    if n.fraction.isEmpty then wholeNumber rounding negative n.whole
    else finiteDecimal rounding negative n.whole n.fraction 0

def power (n : Numeral) : Int :=
  match n.exponent with
  | none => 0
  | some (down, digits) => if down then -(natOfDigits digits : Int) else natOfDigits digits

/-- The decimal that is written, before any rounding. -/
def value (n : Numeral) : ℚ :=
  natOfDigits (n.whole ++ n.fraction) * 10 ^ (n.power - n.fraction.length)

end Numeral

/-- The decimal that chosen digits stand for. -/
def digitsValue (d : Digits) : ℚ :=
  natOfDigits d.digits * 10 ^ (d.point - d.digits.length)

/-- How a power of ten may stand in a text: a mark, a sign that may be left out, and its digits. -/
inductive IsPower : Option (Bool × List Char) → List Char → Prop
  | absent : IsPower none []
  | signed {mark : Char} (hmark : isExponentMark mark) (down : Bool) (digits : List Char) :
      IsPower (some (down, digits)) (mark :: (if down then '-' else '+') :: digits)
  | unsigned {mark : Char} (hmark : isExponentMark mark) (digits : List Char) :
      IsPower (some (false, digits)) (mark :: digits)

namespace Numeral

/-- The texts that say a numeral, of which one is written. -/
def IsSpelled (n : Numeral) (text : List Char) : Prop :=
  ∃ power, IsPower n.exponent power ∧ text = n.whole ++ (n.fractionText ++ power)

/-- What may stand behind a numeral: nothing that would go on with it. A point after a fraction, or
a mark after a power, is no part of it. -/
def Stops (n : Numeral) (rest : List Char) : Prop :=
  ∀ c ∈ rest.head?, c.isDigit = false ∧
    (n.exponent = none → isExponentMark c = false ∧ (n.fraction = [] → c ≠ '.'))

theorem isSpelled_text (n : Numeral) : n.IsSpelled n.text := by
  refine ⟨n.exponentText, ?_, List.append_assoc _ _ _⟩
  unfold exponentText
  cases n.exponent with
  | none => exact .absent
  | some e => exact .signed rfl e.1 e.2

end Numeral

/-- What may stand behind any number: nothing that would belong to one. -/
def EndsNumber (rest : List Char) : Prop :=
  ∀ c ∈ rest.head?, c.isDigit = false ∧ c ≠ '.' ∧ isExponentMark c = false

theorem EndsNumber.stops {rest : List Char} (h : EndsNumber rest) (n : Numeral) : n.Stops rest :=
  fun c hc => ⟨(h c hc).1, fun _ => ⟨(h c hc).2.2, fun _ => (h c hc).2.1⟩⟩

variable {rounding : Rounding} {negative : Bool} {digits rest input : List Char}

/-- Digits are read up to what is none. -/
theorem readDigits_eq_ok_iff : readDigits input = .ok (digits, rest) ↔
    input = digits ++ rest ∧ digits ≠ [] ∧ (∀ c ∈ digits, c.isDigit) ∧
      ∀ c ∈ rest.head?, c.isDigit = false := by
  constructor
  · intro h
    unfold readDigits at h
    split at h
    · cases h
    · cases h
    · next _ hne =>
      obtain ⟨hinput, hdigits, hrest⟩ := span_isDigit_iff.mp (Except.ok.inj h)
      refine ⟨hinput, ?_, hdigits, hrest⟩
      rintro rfl
      exact hne _ (Except.ok.inj h)
  · rintro ⟨hinput, hne, hdigits, hrest⟩
    rw [readDigits, span_isDigit_iff.mpr ⟨hinput, hdigits, hrest⟩]
    cases digits with
    | nil => exact absurd rfl hne
    | cons c digits => rfl

/-- Apart from its sign, a power of ten is read from its digits. -/
theorem readExponent_eq (down : Bool) {text : List Char}
    (hsign : splitSign (text ++ rest) = (down, digits ++ rest)) (hne : digits ≠ [])
    (hdigits : ∀ c ∈ digits, c.isDigit) (hrest : ∀ c ∈ rest.head?, c.isDigit = false) :
    readExponent (text ++ rest) =
      .ok (if down then -(natOfDigits digits : Int) else natOfDigits digits, rest) := by
  have hread := readDigits_eq_ok_iff.mpr ⟨rfl, hne, hdigits, hrest⟩
  simp [readExponent, hsign, hread, Except.map]

theorem splitSign_digits (hne : digits ≠ []) (hdigits : ∀ c ∈ digits, c.isDigit)
    (rest : List Char) : splitSign (digits ++ rest) = (false, digits ++ rest) := by
  refine splitSign_eq (.bare _) ?_
  obtain ⟨c, digits, rfl⟩ := List.exists_cons_of_ne_nil hne
  rintro d ⟨⟩
  exact ne_sign_of_isDigit (hdigits c List.mem_cons_self)

theorem exists_isPower_of_readExponent {exponent : Int}
    (h : readExponent input = .ok (exponent, rest)) : ∃ down digits text,
      input = text ++ rest ∧ (∀ mark, isExponentMark mark →
        IsPower (some (down, digits)) (mark :: text)) ∧ digits ≠ [] ∧
      (∀ c ∈ digits, c.isDigit) ∧ (∀ c ∈ rest.head?, c.isDigit = false) ∧
      exponent = if down then -(natOfDigits digits : Int) else natOfDigits digits := by
  rcases hsign : splitSign input with ⟨down, tail⟩
  rw [readExponent, hsign] at h
  obtain ⟨⟨digits, behind⟩, hread, heq⟩ := map_eq_ok_iff.mp h
  obtain ⟨rfl, rfl⟩ := Prod.mk.inj heq
  obtain ⟨rfl, hne, hdigits, hrest⟩ := readDigits_eq_ok_iff.mp hread
  rw [splitSign.eq_def] at hsign
  split at hsign
  · cases hsign
    exact ⟨true, digits, '-' :: digits, rfl, fun _ hmark => .signed hmark true digits, hne, hdigits,
      hrest, rfl⟩
  · cases hsign
    exact ⟨false, digits, '+' :: digits, rfl, fun _ hmark => .signed hmark false digits, hne,
      hdigits, hrest, rfl⟩
  · cases hsign
    exact ⟨false, digits, digits, rfl, fun _ hmark => .unsigned hmark digits, hne, hdigits, hrest,
      rfl⟩

/-- The digits behind a point, if there is one. -/
def readFraction (input : List Char) : Except Break (List Char × List Char) :=
  match input with
  | '.' :: behind => readDigits behind
  | _ => pure ([], input)

theorem readFraction_of_no_point (h : '.' ∉ input.head?) :
    readFraction input = .ok ([], input) := by
  unfold readFraction
  split
  · next behind => exact absurd rfl h
  · rfl

/-- The power of ten, if there is one, and the number with it. -/
def readPower (rounding : Rounding) (negative : Bool) (whole fraction input : List Char) :
    Except Break (Node × List Char) := do
  match input with
  | mark :: behind =>
    if isExponentMark mark then
      let (exponent, rest) ← readExponent behind
      return (numberNode (finiteDecimal rounding negative whole fraction exponent), rest)
  | [] => pure ()
  if fraction.isEmpty then return (numberNode (wholeNumber rounding negative whole), input)
  return (numberNode (finiteDecimal rounding negative whole fraction 0), input)

/-- The parts of a number are read one after the other. -/
theorem readNumber_eq {tail whole : List Char} (hwhole : readDigits input = .ok (whole, tail)) :
    readNumber rounding negative input =
      if whole.head? = some '0' ∧ 1 < whole.length then .error (.same .invalidNumber)
      else readFraction tail >>= fun (fraction, tail) =>
        readPower rounding negative whole fraction tail := by
  unfold readNumber
  rw [hwhole, ok_bind]
  dsimp only
  split
  · rfl
  · split
    · rfl
    · next hpoint =>
      rw [readFraction_of_no_point]
      · rfl
      · rintro hhead
        cases tail with
        | nil => cases hhead
        | cons c tail =>
          cases hhead
          exact hpoint tail rfl

theorem readPower_of_no_mark {whole fraction : List Char}
    (h : ∀ c ∈ input.head?, isExponentMark c = false) :
    readPower rounding negative whole fraction input = .ok
      (numberNode (if fraction.isEmpty then wholeNumber rounding negative whole
        else finiteDecimal rounding negative whole fraction 0), input) := by
  unfold readPower
  cases input with
  | nil => cases fraction <;> rfl
  | cons c rest =>
    simp only [h c rfl]
    cases fraction <;> rfl

theorem readPower_mark {whole fraction : List Char} {mark : Char} (hmark : isExponentMark mark) :
    readPower rounding negative whole fraction (mark :: input) =
      readExponent input >>= fun (exponent, rest) =>
        .ok (numberNode (finiteDecimal rounding negative whole fraction exponent), rest) := by
  simp only [readPower, hmark, if_true]
  rfl

theorem not_isDigit_of_isExponentMark {c : Char} (h : isExponentMark c) :
    c.isDigit = false ∧ c ≠ '.' := by
  simp only [isExponentMark, Bool.or_eq_true, beq_iff_eq] at h
  rcases h with rfl | rfl <;> decide

/-! A numeral that is spelled is read to its end. -/

namespace Numeral
variable {n : Numeral} {power : List Char}

theorem readPower_spelled (hpower : IsPower n.exponent power) (hrest : n.Stops rest) :
    readPower rounding negative n.whole n.fraction (power ++ rest) =
      .ok (numberNode (n.read rounding negative), rest) := by
  have hdigits := n.exponentDigits
  have hbehind : ∀ c ∈ rest.head?, c.isDigit = false := fun c hc => (hrest c hc).1
  unfold read
  cases he : n.exponent with
  | none =>
    rw [he] at hpower
    cases hpower
    exact readPower_of_no_mark fun c hc => ((hrest c hc).2 he).1
  | some e =>
    rw [he] at hpower hdigits
    obtain ⟨hne, hall⟩ := hdigits _ rfl
    cases hpower with
    | signed hmark down digits =>
      have hsign : splitSign ((if down then '-' else '+') :: digits ++ rest) =
          (down, digits ++ rest) := by
        cases down <;> rfl
      rw [List.cons_append, readPower_mark hmark, readExponent_eq down hsign hne hall hbehind]
      rfl
    | unsigned hmark digits =>
      rw [List.cons_append, readPower_mark hmark,
        readExponent_eq false (splitSign_digits hne hall rest) hne hall hbehind]
      rfl

theorem not_isDigit_behind_fraction (hpower : IsPower n.exponent power) (hrest : n.Stops rest) :
    ∀ c ∈ (power ++ rest).head?, c.isDigit = false ∧ (n.fraction = [] → c ≠ '.') := by
  have hhead : ∀ mark, isExponentMark mark →
      mark.isDigit = false ∧ (n.fraction = [] → mark ≠ '.') := fun mark hmark =>
    ⟨(not_isDigit_of_isExponentMark hmark).1, fun _ => (not_isDigit_of_isExponentMark hmark).2⟩
  cases he : n.exponent with
  | none =>
    rw [he] at hpower
    cases hpower
    exact fun c hc => ⟨(hrest c hc).1, ((hrest c hc).2 he).2⟩
  | some e =>
    rw [he] at hpower
    cases hpower with
    | signed hmark =>
      rintro _ ⟨rfl⟩
      exact hhead _ hmark
    | unsigned hmark =>
      rintro _ ⟨rfl⟩
      exact hhead _ hmark

theorem not_isDigit_behind_whole (hpower : IsPower n.exponent power) (hrest : n.Stops rest) :
    ∀ c ∈ (n.fractionText ++ (power ++ rest)).head?, c.isDigit = false := by
  unfold fractionText
  cases n.fraction with
  | nil => exact fun c hc => (not_isDigit_behind_fraction hpower hrest c hc).1
  | cons d fraction =>
    rintro _ ⟨rfl⟩
    decide

theorem readFraction_spelled (hpower : IsPower n.exponent power) (hrest : n.Stops rest) :
    readFraction (n.fractionText ++ (power ++ rest)) = .ok (n.fraction, power ++ rest) := by
  have htail := not_isDigit_behind_fraction hpower hrest
  unfold fractionText
  cases hf : n.fraction with
  | nil => exact readFraction_of_no_point fun hpoint => (htail _ hpoint).2 hf rfl
  | cons c fraction =>
    exact readDigits_eq_ok_iff.mpr
      ⟨rfl, List.cons_ne_nil _ _, hf ▸ n.fractionDigits, fun c hc => (htail c hc).1⟩

theorem readNumber_spelled {text : List Char} (h : n.IsSpelled text) (hrest : n.Stops rest) :
    readNumber rounding negative (text ++ rest) =
      .ok (numberNode (n.read rounding negative), rest) := by
  obtain ⟨power, hpower, rfl⟩ := h
  have hwhole : readDigits (n.whole ++ (n.fractionText ++ (power ++ rest))) =
      .ok (n.whole, n.fractionText ++ (power ++ rest)) :=
    readDigits_eq_ok_iff.mpr
      ⟨rfl, n.wholeNonempty, n.wholeDigits, not_isDigit_behind_whole hpower hrest⟩
  have hzero : ¬ (n.whole.head? = some '0' ∧ 1 < n.whole.length) := by
    rintro ⟨hhead, hlong⟩
    have := n.zeroAlone hhead
    omega
  rw [List.append_assoc, List.append_assoc, readNumber_eq hwhole, if_neg hzero,
    readFraction_spelled hpower hrest, ok_bind]
  exact readPower_spelled hpower hrest

end Numeral

/-! What is read as a number is a numeral. -/

theorem spelled_of_readFraction {fraction : List Char}
    (h : readFraction input = .ok (fraction, rest))
    (hinput : ∀ c ∈ input.head?, c.isDigit = false) :
    input = (if fraction.isEmpty then [] else '.' :: fraction) ++ rest ∧
      (∀ c ∈ fraction, c.isDigit) ∧
      ∀ c ∈ rest.head?, c.isDigit = false ∧ (fraction = [] → c ≠ '.') := by
  unfold readFraction at h
  split at h
  · next behind =>
    obtain ⟨rfl, hne, hdigits, hrest⟩ := readDigits_eq_ok_iff.mp h
    exact ⟨by simp [hne], hdigits, fun c hc => ⟨hrest c hc, fun hnil => absurd hnil hne⟩⟩
  · next hpoint =>
    obtain ⟨rfl, rfl⟩ := Prod.mk.inj (Except.ok.inj h)
    refine ⟨rfl, by simp, fun c hc => ⟨hinput c hc, ?_⟩⟩
    rintro - rfl
    obtain ⟨behind, rfl⟩ := List.head?_eq_some_iff.mp hc
    exact hpoint behind rfl

theorem isPower_of_readPower {whole fraction : List Char} {node : Node}
    (h : readPower rounding negative whole fraction input = .ok (node, rest))
    (hinput : ∀ c ∈ input.head?, c.isDigit = false) :
    ∃ exponent power, input = power ++ rest ∧ IsPower exponent power ∧
      (∀ e ∈ exponent, e.2 ≠ [] ∧ ∀ c ∈ e.2, c.isDigit) ∧
      (∀ c ∈ rest.head?, c.isDigit = false ∧ (exponent = none → isExponentMark c = false)) ∧
      node = numberNode (match exponent with
        | some (down, digits) => finiteDecimal rounding negative whole fraction
          (if down then -(natOfDigits digits : Int) else natOfDigits digits)
        | none => if fraction.isEmpty then wholeNumber rounding negative whole
          else finiteDecimal rounding negative whole fraction 0) := by
  by_cases hplain : ∀ c ∈ input.head?, isExponentMark c = false
  · rw [readPower_of_no_mark hplain] at h
    obtain ⟨rfl, rfl⟩ := Prod.mk.inj (Except.ok.inj h)
    exact ⟨none, [], rfl, .absent, by simp, fun c hc => ⟨hinput c hc, fun _ => hplain c hc⟩, rfl⟩
  · cases input with
    | nil => exact absurd (fun _ hc => by cases hc) hplain
    | cons mark behind =>
      have hmark : isExponentMark mark := by simpa using hplain
      rw [readPower_mark hmark] at h
      obtain ⟨⟨exponent, tail⟩, hread, heq⟩ := bind_eq_ok_iff.mp h
      obtain ⟨rfl, rfl⟩ := Prod.mk.inj (Except.ok.inj heq)
      obtain ⟨down, digits, text, rfl, hpower, hne, hdigits, hrest, rfl⟩ :=
        exists_isPower_of_readExponent hread
      refine ⟨some (down, digits), _, rfl, hpower mark hmark, ?_, ?_, rfl⟩
      · rintro _ ⟨rfl⟩
        exact ⟨hne, hdigits⟩
      · exact fun c hc => ⟨hrest c hc, fun hnone => by cases hnone⟩

/-- What is read as a number is a numeral with nothing behind it that would go on with it. -/
theorem exists_numeral_of_readNumber {node : Node}
    (h : readNumber rounding negative input = .ok (node, rest)) : ∃ n : Numeral, ∃ text,
      n.IsSpelled text ∧ input = text ++ rest ∧ n.Stops rest ∧
      node = numberNode (n.read rounding negative) := by
  cases hread : readDigits input with
  | error e =>
    rw [readNumber, hread] at h
    cases h
  | ok parts =>
    obtain ⟨whole, tail⟩ := parts
    obtain ⟨rfl, hne, hdigits, htail⟩ := readDigits_eq_ok_iff.mp hread
    rw [readNumber_eq hread] at h
    split at h
    · cases h
    · next hzero =>
      have hzeroAlone : whole.head? = some '0' → whole.length = 1 := by
        intro hhead
        have hpos := List.length_pos_iff.mpr hne
        by_contra hlong
        exact hzero ⟨hhead, by omega⟩
      obtain ⟨⟨fraction, behind⟩, hfraction, hlast⟩ := bind_eq_ok_iff.mp h
      obtain ⟨rfl, hfractionDigits, hbehind⟩ := spelled_of_readFraction hfraction htail
      obtain ⟨exponent, power, rfl, hpower, hexponent, hrest, rfl⟩ :=
        isPower_of_readPower hlast fun c hc => (hbehind c hc).1
      let n : Numeral :=
        ⟨whole, fraction, exponent, hdigits, hne, hzeroAlone, hfractionDigits, hexponent⟩
      refine ⟨n, n.whole ++ (n.fractionText ++ power), ⟨power, hpower, rfl⟩, ?_, ?_, rfl⟩
      · simp only [List.append_assoc]
        rfl
      · intro c hc
        refine ⟨(hrest c hc).1, fun hnone => ⟨(hrest c hc).2 hnone, ?_⟩⟩
        have hnone : exponent = none := hnone
        subst hnone
        cases hpower
        exact (hbehind c hc).2

/-! Digits of numbers. -/

/-- Digits of which the first is not zero. -/
structure IsLeading (digits : List Char) : Prop where
  nonempty : digits ≠ []
  allDigits : ∀ c ∈ digits, c.isDigit
  headNonzero : digits.head? ≠ some '0'

theorem isLeading_digitsOf {n : Nat} (hn : 0 < n) : IsLeading (digitsOf n) where
  nonempty := Nat.toDigits_ne_nil
  allDigits := fun _ hc => isDigit_of_mem_digitsOf hc
  headNonzero := by
    unfold digitsOf
    induction n using Nat.strongRecOn with
    | _ n ih =>
      by_cases hlt : n < 10
      · rw [Nat.toDigits_of_lt_base hlt, List.head?_cons]
        interval_cases n <;> decide
      · rw [Nat.toDigits_of_base_le (by omega) (by omega),
          List.head?_append_of_ne_nil _ Nat.toDigits_ne_nil]
        exact ih (n / 10) (by omega) (by omega)

theorem IsLeading.of_start {text : List Char} (h : IsLeading digits) (hstart : text <+: digits)
    (hne : text ≠ []) : IsLeading text where
  nonempty := hne
  allDigits := fun c hc => h.allDigits c (hstart.subset hc)
  headNonzero := by
    obtain ⟨tail, rfl⟩ := hstart
    rw [← List.head?_append_of_ne_nil text hne]
    exact h.headNonzero

/-- Zeros at the end go, but the first digit stays. -/
theorem isLeading_ofNat {n : Nat} (hn : 0 < n) (e : Int) : IsLeading (Digits.ofNat n e).digits := by
  have hdigits := isLeading_digitsOf hn
  have hdrop : (Digits.ofNat n e).digits = (digitsOf n).rdropWhile (· == '0') := rfl
  rw [hdrop]
  refine hdigits.of_start (List.rdropWhile_prefix _ _) ?_
  rw [ne_eq, List.rdropWhile_eq_nil_iff]
  intro hall
  cases hd : digitsOf n with
  | nil => exact hdigits.nonempty hd
  | cons c rest =>
    have hc : c = '0' := by simpa [hd] using hall c (by simp [hd])
    exact hdigits.headNonzero (by rw [hd, hc, List.head?_cons])

theorem unit_pos (b : Binary) : 0 < b.unit := by
  unfold Binary.unit
  split
  · exact Nat.pow_pos (by omega)
  · exact Nat.pow_pos (by omega)

theorem readsBack_zero {b : Binary} (hb : b.significand ≠ 0) : b.readsBack 0 = false := by
  have hunit := unit_pos b
  have hgrains : b.unit ≤ b.grains := Nat.le_mul_of_pos_left _ (Nat.pos_of_ne_zero hb)
  have hlow : 0 < 4 * b.grains - (if b.narrowBelow then b.unit else 2 * b.unit) := by
    split <;> omega
  unfold Binary.readsBack
  split <;> simp <;> omega

/-- A neighbour is taken only if it reads back, -/
theorem neighbour?_readsBack {b : Binary} {tieUp : Bool} {dropped n : Nat}
    (hn : b.neighbour? tieUp dropped = some n) : b.readsBack (n * Nat.pow 10 dropped) = true := by
  unfold Binary.neighbour? at hn
  dsimp only at hn
  split at hn
  · cases hn
  · next hbelow _ => exact Option.some.inj hn ▸ hbelow
  · next _ habove => exact Option.some.inj hn ▸ habove
  · next hbelow habove =>
    split at hn
    · exact Option.some.inj hn ▸ hbelow
    · exact Option.some.inj hn ▸ habove
    · split at hn
      · exact Option.some.inj hn ▸ habove
      · exact Option.some.inj hn ▸ hbelow

/-- and zero never does. -/
theorem neighbour?_pos {b : Binary} (hb : b.significand ≠ 0) {tieUp : Bool} {dropped n : Nat}
    (hn : b.neighbour? tieUp dropped = some n) : 0 < n := by
  rcases Nat.eq_zero_or_pos n with rfl | hpos
  · have hreads := neighbour?_readsBack hn
    rw [Nat.zero_mul, readsBack_zero hb] at hreads
    cases hreads
  · exact hpos

theorem isLeading_shortest {b : Binary} (hb : b.significand ≠ 0) (tieUp : Bool) :
    IsLeading (b.shortest tieUp).digits := by
  unfold Binary.shortest
  generalize (digitsOf b.grains).length - 1 = dropped
  induction dropped with
  | zero => exact isLeading_ofNat (Nat.mul_pos (Nat.pos_of_ne_zero hb) (unit_pos b)) _
  | succ dropped ih =>
    rw [Binary.search]
    cases hn : b.neighbour? tieUp (dropped + 1) with
    | none => exact ih
    | some n => exact isLeading_ofNat (neighbour?_pos hb hn) _

theorem IsLeading.zeroAlone (h : IsLeading digits) (rest : List Char) :
    (digits ++ rest).head? = some '0' → (digits ++ rest).length = 1 := by
  rw [List.head?_append_of_ne_nil _ h.nonempty]
  exact fun hzero => absurd hzero h.headNonzero

/-! The texts that numbers are written as. -/

theorem exists_numeral_digitsOf (n : Nat) : ∃ numeral : Numeral, numeral.text = digitsOf n ∧
    numeral.whole = digitsOf n ∧ numeral.fraction = [] ∧ numeral.exponent = none := by
  have hzero : (digitsOf n).head? = some '0' → (digitsOf n).length = 1 := by
    rcases Nat.eq_zero_or_pos n with rfl | hn
    · exact fun _ => rfl
    · exact fun hzero => absurd hzero (isLeading_digitsOf hn).headNonzero
  refine ⟨⟨digitsOf n, [], none, fun c hc => isDigit_of_mem_digitsOf hc, Nat.toDigits_ne_nil, hzero,
    by simp, by simp⟩, ?_, rfl, rfl, rfl⟩
  simp [Numeral.text, Numeral.fractionText, Numeral.exponentText]

theorem zpow_ten_mul (k : Nat) (e : Int) : (10 : ℚ) ^ k * 10 ^ (e - k) = 10 ^ e := by
  rw [← zpow_natCast, ← zpow_add₀ (by norm_num), add_sub_cancel]

theorem exists_numeral_positional {d : Digits} (h : IsLeading d.digits) :
    ∃ n : Numeral, n.text = d.positional true ∧ n.value = digitsValue d := by
  unfold Digits.positional
  split
  · next hpoint =>
    refine ⟨⟨['0'], List.replicate (-d.point).toNat '0' ++ d.digits, none,
      fun _ => isDigit_of_mem_zeros (n := 1), by simp, by simp, ?_, by simp⟩, ?_, ?_⟩
    · intro c hc
      rcases List.mem_append.mp hc with hc | hc
      · exact isDigit_of_mem_zeros hc
      · exact h.allDigits c hc
    · simp [Numeral.text, Numeral.fractionText, Numeral.exponentText, h.nonempty]
    · have hpower : (0 : Int) - (List.replicate (-d.point).toNat '0' ++ d.digits).length =
          d.point - d.digits.length := by
        rw [List.length_append, List.length_replicate]
        omega
      have hdigits : natOfDigits (['0'] ++ (List.replicate (-d.point).toNat '0' ++ d.digits)) =
          natOfDigits d.digits :=
        (natOfDigits_zeros_append 1 _).trans (natOfDigits_zeros_append _ _)
      rw [Numeral.value, Numeral.power, digitsValue]
      simp only [hdigits, hpower]
  · split
    · next hpoint hshort =>
      refine ⟨⟨d.digits ++ List.replicate (d.point.toNat - d.digits.length) '0', ['0'], none, ?_,
        by simp [h.nonempty], h.zeroAlone _, fun _ => isDigit_of_mem_zeros (n := 1), by simp⟩, ?_,
        ?_⟩
      · intro c hc
        rcases List.mem_append.mp hc with hc | hc
        · exact h.allDigits c hc
        · exact isDigit_of_mem_zeros hc
      · simp [Numeral.text, Numeral.fractionText, Numeral.exponentText]
      · have hdigits : natOfDigits (d.digits ++
            List.replicate (d.point.toNat - d.digits.length) '0' ++ ['0']) =
              natOfDigits d.digits * 10 ^ (d.point.toNat - d.digits.length + 1) := by
          rw [List.append_assoc, ← List.replicate_succ', natOfDigits_append_zeros]
        have hpower : d.point - d.digits.length -
            ((d.point.toNat - d.digits.length + 1 : Nat) : Int) = 0 - (['0'].length : Int) := by
          simp only [List.length_singleton]
          omega
        rw [Numeral.value, Numeral.power, digitsValue]
        simp only [hdigits]
        rw [Nat.cast_mul, mul_assoc, ← hpower, Nat.cast_pow, Nat.cast_ofNat, zpow_ten_mul]
    · next hpoint hlong =>
      have htake : d.digits.take d.point.toNat ≠ [] := by
        simp [h.nonempty]
        omega
      have hdrop : d.digits.drop d.point.toNat ≠ [] := by
        simp
        omega
      have hwhole := h.of_start (List.take_prefix d.point.toNat d.digits) htake
      refine ⟨⟨d.digits.take d.point.toNat, d.digits.drop d.point.toNat, none, hwhole.allDigits,
        htake, fun hzero => absurd hzero hwhole.headNonzero,
        fun c hc => h.allDigits c (List.mem_of_mem_drop hc), by simp⟩, ?_, ?_⟩
      · simp [Numeral.text, Numeral.fractionText, Numeral.exponentText, hdrop]
      · have hpower : (0 : Int) - (d.digits.drop d.point.toNat).length =
            d.point - d.digits.length := by
          rw [List.length_drop]
          omega
        rw [Numeral.value, Numeral.power, digitsValue]
        simp only [List.take_append_drop, hpower]

theorem exists_numeral_scientific {d : Digits} (h : IsLeading d.digits) :
    ∃ n : Numeral, n.text = d.scientific ∧ n.value = digitsValue d := by
  have hexponent : ∀ e ∈ some (decide (d.point - 1 < 0), digitsOf (d.point - 1).natAbs),
      e.2 ≠ [] ∧ ∀ c ∈ e.2, c.isDigit := by
    rintro _ ⟨rfl⟩
    exact ⟨Nat.toDigits_ne_nil, fun c hc => isDigit_of_mem_digitsOf hc⟩
  have hpower : (if decide (d.point - 1 < 0) = true then
      -(natOfDigits (digitsOf (d.point - 1).natAbs) : Int)
      else natOfDigits (digitsOf (d.point - 1).natAbs)) = d.point - 1 := by
    rw [natOfDigits_digitsOf]
    by_cases hdown : d.point - 1 < 0
    · rw [if_pos (decide_eq_true hdown)]
      omega
    · rw [if_neg (by simpa using hdown)]
      omega
  cases hd : d.digits with
  | nil => exact absurd hd h.nonempty
  | cons first rest =>
    have hdigits := h.allDigits
    rw [hd] at hdigits
    refine ⟨⟨[first], rest, some (decide (d.point - 1 < 0), digitsOf (d.point - 1).natAbs), ?_,
      by simp, by simp, fun c hc => hdigits c (List.mem_cons_of_mem _ hc), hexponent⟩, ?_, ?_⟩
    · exact fun c hc => hdigits c (by simp_all)
    · cases rest <;> simp [Numeral.text, Numeral.fractionText, Numeral.exponentText,
        Digits.scientific, hd]
    · have hlength : d.point - 1 - (rest.length : Int) = d.point - (first :: rest).length := by
        rw [List.length_cons]
        omega
      rw [Numeral.value, Numeral.power, digitsValue]
      simp only [hpower, hd, hlength]
      rfl

/-- A number of a form that keeps its point, apart from its sign. -/
theorem exists_numeral_magnitude {form : Form} (hform : form.pointZero = true) (b : Binary) :
    ∃ n : Numeral, n.text = form.magnitude b ∧
      n.value = if b.significand = 0 then 0 else digitsValue (b.shortest form.tieUp) := by
  unfold Form.magnitude Form.digits
  split
  · have hdigit : ∀ c ∈ ['0'], c.isDigit := fun _ => isDigit_of_mem_zeros (n := 1)
    refine ⟨⟨['0'], ['0'], none, hdigit, by simp, by simp, hdigit, by simp⟩, ?_, ?_⟩
    · simp [Numeral.text, Numeral.fractionText, Numeral.exponentText]
    · simp [Numeral.value, natOfDigits]
  · next hb =>
    have hleading := isLeading_shortest hb form.tieUp
    rw [hform]
    split
    · exact exists_numeral_positional hleading
    · split
      · exact exists_numeral_positional hleading
      · exact exists_numeral_scientific hleading

end Cartouche.Json
