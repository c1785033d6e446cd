import Cartouche.Proofs.Digits

/-!
Texts that write a decimal: a sign that may be left out, digits with a point that may stand in front
of them, between them or behind them, and a power of ten that may be left out. These are the texts
that are read as decimals, words apart.
-/
namespace Cartouche.Decimal
open Text

/-- A sign in front of a text, or none. -/
inductive IsSigned : Bool → List Char → List Char → Prop
  | minus (text : List Char) : IsSigned true text ('-' :: text)
  | plus (text : List Char) : IsSigned false text ('+' :: text)
  | bare (text : List Char) : IsSigned false text text

/-- Digits alone, or with a point in front of them, between them or behind them. -/
inductive IsMantissa : List Char → List Char → List Char → Prop
  | whole {digits : List Char} (nonempty : digits ≠ []) : IsMantissa digits [] digits
  | point {whole fraction : List Char} (nonempty : whole ≠ [] ∨ fraction ≠ []) :
      IsMantissa whole fraction (whole ++ '.' :: fraction)

/-- A power of ten behind its mark, or none. -/
inductive IsTenPower : Int → List Char → Prop
  | absent : IsTenPower 0 []
  | marked {mark : Char} {negative : Bool} {digits text : List Char}
      (isMark : mark = 'e' ∨ mark = 'E') (sign : IsSigned negative digits text)
      (nonempty : digits ≠ []) (allDigits : ∀ c ∈ digits, c.isDigit) :
      IsTenPower (if negative then -(natOfDigits digits : Int) else natOfDigits digits)
        (mark :: text)

/-- What stands behind the sign of a decimal. -/
inductive IsUnsigned (negative : Bool) : Literal → List Char → Prop
  | intro {whole fraction mantissa power : List Char} {exponent : Int}
      (isMantissa : IsMantissa whole fraction mantissa)
      (allDigits : ∀ c ∈ whole ++ fraction, c.isDigit) (isTenPower : IsTenPower exponent power) :
      IsUnsigned negative (.ofParts negative whole fraction exponent) (mantissa ++ power)

/-- The text writes the decimal. -/
def IsDecimal (l : Literal) (text : List Char) : Prop :=
  ∃ negative body, IsSigned negative body text ∧ IsUnsigned negative l body

variable {negative : Bool} {whole fraction mantissa power digits body rest text : List Char}
  {e : Int} {l : Literal} {c mark : Char}

/-! Signs and powers. -/

theorem isSigned_splitSign (text : List Char) :
    IsSigned (splitSign text).1 (splitSign text).2 text := by
  unfold splitSign
  split
  · exact .minus _
  · exact .plus _
  · exact .bare _

theorem splitSign_eq (h : IsSigned negative body text)
    (hbody : ∀ c ∈ body.head?, c ≠ '-' ∧ c ≠ '+') : splitSign text = (negative, body) := by
  cases h with
  | minus => rfl
  | plus => rfl
  | bare =>
    unfold splitSign
    split
    · exact absurd rfl (hbody _ rfl).1
    · exact absurd rfl (hbody _ rfl).2
    · rfl

theorem ne_sign_of_isDigit (h : c.isDigit) : c ≠ '-' ∧ c ≠ '+' := by
  constructor <;> rintro rfl <;> cases h

theorem exponent?_eq_some_iff (hmark : mark = 'e' ∨ mark = 'E') :
    exponent? text = some e ↔ IsTenPower e (mark :: text) := by
  constructor
  · intro h
    have hsign := isSigned_splitSign text
    unfold exponent? at h
    generalize splitSign text = parts at hsign h
    obtain ⟨negative, digits⟩ := parts
    simp only at hsign h
    split at h
    · cases h
    · next hdigits =>
      simp only [Bool.or_eq_true, not_or, List.isEmpty_iff, Bool.not_eq_true', Bool.not_eq_false,
        List.all_eq_true] at hdigits
      obtain rfl := Option.some.inj h
      exact .marked hmark hsign hdigits.1 hdigits.2
  · intro h
    cases h with
    | marked _ hsign hne hdigits =>
      have hbody : ∀ c ∈ List.head? _, c ≠ '-' ∧ c ≠ '+' :=
        fun c hc => ne_sign_of_isDigit (hdigits c (List.mem_of_mem_head? hc))
      rw [exponent?, splitSign_eq hsign hbody]
      refine if_neg ?_
      simpa [hne] using hdigits

theorem IsTenPower.head_of_mem (h : IsTenPower e power) (hc : c ∈ power.head?) :
    c.isDigit = false ∧ c ≠ '.' := by
  cases h with
  | absent => cases hc
  | marked isMark =>
    obtain rfl := Option.some.inj hc
    rcases isMark with rfl | rfl <;> decide

/-- What is left to read once the digits are known. -/
def withPower? (negative : Bool) (whole fraction rest : List Char) : Option Literal :=
  match rest with
  | [] => some (.ofParts negative whole fraction 0)
  | c :: behind =>
    if c = 'e' ∨ c = 'E' then (exponent? behind).map (.ofParts negative whole fraction) else none

theorem withPower?_eq_some_iff : withPower? negative whole fraction rest = some l ↔
    ∃ e, IsTenPower e rest ∧ l = .ofParts negative whole fraction e := by
  unfold withPower?
  split
  · constructor
    · intro h
      exact ⟨0, .absent, (Option.some.inj h).symm⟩
    · rintro ⟨e, hpower, rfl⟩
      cases hpower
      rfl
  · next c behind =>
    split
    · next hmark =>
      rw [Option.map_eq_some_iff]
      simp only [exponent?_eq_some_iff hmark, @eq_comm _ l]
    · next hmark =>
      constructor
      · intro h
        cases h
      · rintro ⟨e, hpower, -⟩
        cases hpower with
        | marked isMark => exact absurd isMark hmark

/-! Digits and the point. -/

/-- The digits behind a point, if there is one, and what is left. -/
def fractionOf (rest : List Char) : List Char × List Char :=
  match rest with
  | '.' :: behind => behind.span Char.isDigit
  | _ => ([], rest)

theorem fractionOf_of_no_point (h : '.' ∉ rest.head?) : fractionOf rest = ([], rest) := by
  unfold fractionOf
  split
  · exact absurd rfl h
  · rfl

theorem unsigned?_eq (hwhole : text.span Char.isDigit = (whole, rest))
    (hfraction : fractionOf rest = (fraction, power)) : unsigned? negative text =
      if whole = [] ∧ fraction = [] then none else withPower? negative whole fraction power := by
  -- The parts as they are read; the pair behind the point is not yet known to be a pair.
  have hparts : unsigned? negative text =
      if whole.isEmpty && (fractionOf rest).1.isEmpty then none
      else withPower? negative whole (fractionOf rest).1 (fractionOf rest).2 := by
    rw [unsigned?, hwhole]
    rfl
  rw [hparts, hfraction]
  simp only [Bool.and_eq_true, List.isEmpty_iff]

theorem isMantissa_of_span (hwhole : text.span Char.isDigit = (whole, rest))
    (hfraction : fractionOf rest = (fraction, power)) (hne : ¬ (whole = [] ∧ fraction = [])) :
    ∃ mantissa, text = mantissa ++ power ∧ IsMantissa whole fraction mantissa ∧
      ∀ c ∈ whole ++ fraction, c.isDigit := by
  obtain ⟨rfl, hwholes, -⟩ := span_isDigit_iff.mp hwhole
  by_cases hpoint : '.' ∈ rest.head?
  · obtain ⟨body, rfl⟩ := List.head?_eq_some_iff.mp hpoint
    obtain ⟨rfl, hfractions, -⟩ := span_isDigit_iff.mp hfraction
    refine ⟨whole ++ '.' :: fraction, ?_, .point (by tauto),
      List.forall_mem_append.mpr ⟨hwholes, hfractions⟩⟩
    rw [List.append_assoc, List.cons_append]
  · obtain ⟨rfl, rfl⟩ := Prod.mk.inj ((fractionOf_of_no_point hpoint).symm.trans hfraction)
    exact ⟨whole, rfl, .whole (by tauto), by rwa [List.append_nil]⟩

/-- The digits of a mantissa end where it does, since no power begins with one or with a point. -/
theorem IsMantissa.span_append (h : IsMantissa whole fraction mantissa)
    (hdigits : ∀ c ∈ whole ++ fraction, c.isDigit) (hpower : IsTenPower e power) :
    ∃ rest, (mantissa ++ power).span Char.isDigit = (whole, rest) ∧
      fractionOf rest = (fraction, power) ∧ ¬ (whole = [] ∧ fraction = []) := by
  obtain ⟨hwholes, hfractions⟩ := List.forall_mem_append.mp hdigits
  have hstop : ∀ c ∈ power.head?, c.isDigit = false := fun c hc => (hpower.head_of_mem hc).1
  cases h with
  | whole hne =>
    have hpoint : '.' ∉ power.head? := fun hc => (hpower.head_of_mem hc).2 rfl
    exact ⟨power, span_isDigit_iff.mpr ⟨rfl, hwholes, hstop⟩, fractionOf_of_no_point hpoint,
      fun h => hne h.1⟩
  | point hne =>
    have hpoint : ∀ c ∈ ('.' :: (fraction ++ power)).head?, c.isDigit = false := by
      rintro c ⟨⟩
      decide
    rw [List.append_assoc, List.cons_append]
    exact ⟨'.' :: (fraction ++ power), span_isDigit_iff.mpr ⟨rfl, hwholes, hpoint⟩,
      span_isDigit_iff.mpr ⟨rfl, hfractions, hstop⟩, by tauto⟩

theorem unsigned?_eq_some_iff : unsigned? negative text = some l ↔ IsUnsigned negative l text := by
  constructor
  · intro h
    rcases hwhole : text.span Char.isDigit with ⟨whole, rest⟩
    rcases hfraction : fractionOf rest with ⟨fraction, power⟩
    rw [unsigned?_eq hwhole hfraction] at h
    split at h
    · cases h
    · next hne =>
      obtain ⟨e, hpower, rfl⟩ := withPower?_eq_some_iff.mp h
      obtain ⟨mantissa, rfl, hmantissa, hdigits⟩ := isMantissa_of_span hwhole hfraction hne
      exact .intro hmantissa hdigits hpower
  · rintro ⟨hmantissa, hdigits, hpower⟩
    obtain ⟨rest, hwhole, hfraction, hne⟩ := hmantissa.span_append hdigits hpower
    rw [unsigned?_eq hwhole hfraction, if_neg hne]
    exact withPower?_eq_some_iff.mpr ⟨_, hpower, rfl⟩

/-! Whole texts. No sign and no word begins as digits do. -/

/-- Behind its sign a decimal begins with a digit or a point. -/
theorem IsUnsigned.exists_cons (h : IsUnsigned negative l text) :
    ∃ c rest, text = c :: rest ∧ (c.isDigit ∨ c = '.') := by
  obtain @⟨whole, fraction, mantissa, power, e, hmantissa, hdigits, -⟩ := h
  cases hmantissa with
  | whole hne =>
    obtain ⟨c, digits, rfl⟩ := List.exists_cons_of_ne_nil hne
    exact ⟨c, _, rfl, Or.inl (hdigits c List.mem_cons_self)⟩
  | point =>
    cases whole with
    | nil => exact ⟨'.', _, rfl, Or.inr rfl⟩
    | cons c whole => exact ⟨c, _, rfl, Or.inl (hdigits c List.mem_cons_self)⟩

theorem toLower_of_isDigit (h : c.isDigit) : c.toLower = c := by
  have ⟨_, hhigh⟩ := range_of_isDigit h
  have hupper : ¬ ('A'.val ≤ c.val ∧ c.val ≤ 'Z'.val) := by
    rintro ⟨hlow, -⟩
    have hlow : 65 ≤ c.toNat := UInt32.le_iff_toNat_le.mp hlow
    omega
  exact dif_neg hupper

theorem reading?_eq_decimal_iff : reading? text = some (.decimal l) ↔ IsDecimal l text := by
  constructor
  · intro h
    have hsign := isSigned_splitSign text
    unfold reading? at h
    generalize splitSign text = parts at hsign h
    obtain ⟨negative, body⟩ := parts
    refine ⟨negative, body, hsign, ?_⟩
    simp only at h
    split_ifs at h
    · cases h
    · cases h
    · obtain ⟨l', hread, heq⟩ := Option.map_eq_some_iff.mp h
      obtain rfl := Reading.decimal.inj heq
      exact unsigned?_eq_some_iff.mp hread
  · rintro ⟨negative, body, hsign, hbody⟩
    obtain ⟨c, rest, rfl, hc⟩ := hbody.exists_cons
    -- All words begin with one of two letters, so the first character tells them from digits.
    have hstart : (c ≠ '-' ∧ c ≠ '+') ∧ c.toLower ≠ 'i' ∧ c.toLower ≠ 'n' := by
      rcases hc with hc | rfl
      · refine ⟨ne_sign_of_isDigit hc, ?_⟩
        rw [toLower_of_isDigit hc]
        constructor <;> rintro rfl <;> cases hc
      · decide
    rw [reading?, splitSign_eq hsign (by simpa using hstart.1)]
    simp [unsigned?_eq_some_iff.mpr hbody, hstart.2]

/-- No decimal begins with a number sign. -/
theorem not_isDecimal_numberSign (rest : List Char) : ¬ IsDecimal l ('#' :: rest) := by
  rintro ⟨negative, body, hsign, hbody⟩
  cases hsign
  obtain ⟨c, rest', heq, hc⟩ := hbody.exists_cons
  cases heq
  exact absurd hc (by decide)

end Cartouche.Decimal
