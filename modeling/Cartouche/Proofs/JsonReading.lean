import Cartouche.Json.Reader
import Cartouche.Json.Basic
import Cartouche.Proofs.Numerals

/-!
Which texts are JSON, said by rules apart from the reader, and that the reader makes of each what
the rules say. The reader spends fuel on every value, item and field; a text has more characters
than it has of these, so that fuel for the length of a text reads it to its end.
-/
namespace Cartouche.Json
open Decimal

variable {rounding : Rounding} {rest : List Char}

/-! Quoted texts. -/

theorem hexOf?_escape :
    ∀ n < 0x20, hexOf? ['0', '0', hexDigit (n / 16), hexDigit (n % 16)] = some n := by
  decide

/-- A character is escaped by a letter, by its number if it is a control, or not at all. -/
theorem escapeChar_cases (c : Char) :
    (∃ e, escapeChar c = ['\\', e] ∧ escapeLetter? e = some c) ∨
    (c.toNat < 0x20 ∧ escapeChar c =
      ['\\', 'u', '0', '0', hexDigit (c.toNat / 16), hexDigit (c.toNat % 16)]) ∨
    (c ≠ '"' ∧ c ≠ '\\' ∧ ¬ c.toNat < 0x20 ∧ escapeChar c = [c]) := by
  by_cases hletter : c ∈ ['"', '\\', '\x08', '\x0c', '\n', '\r', '\t']
  · left
    simp only [List.mem_cons, List.not_mem_nil, or_false] at hletter
    rcases hletter with rfl | rfl | rfl | rfl | rfl | rfl | rfl
    · exact ⟨'"', by decide⟩
    · exact ⟨'\\', by decide⟩
    · exact ⟨'b', by decide⟩
    · exact ⟨'f', by decide⟩
    · exact ⟨'n', by decide⟩
    · exact ⟨'r', by decide⟩
    · exact ⟨'t', by decide⟩
  · right
    simp only [List.mem_cons, List.not_mem_nil, or_false, not_or] at hletter
    unfold escapeChar
    by_cases hcontrol : c.toNat < 0x20
    · exact Or.inl ⟨hcontrol, by simp [hletter, hcontrol]⟩
    · exact Or.inr ⟨hletter.1, hletter.2.1, hcontrol, by simp [hletter, hcontrol]⟩

/-- A text behind its opening quote, with the pieces that it says. -/
inductive IsQuoted : List Char → List Piece → Prop
  | close : IsQuoted ['"'] []
  | plain {c : Char} {text : List Char} {pieces : List Piece} (hquote : c ≠ '"') (hslash : c ≠ '\\')
      (hcontrol : ¬ c.toNat < 0x20) (h : IsQuoted text pieces) :
      IsQuoted (c :: text) (.char c :: pieces)
  | letter {e c : Char} {text : List Char} {pieces : List Piece} (he : escapeLetter? e = some c)
      (h : IsQuoted text pieces) : IsQuoted ('\\' :: e :: text) (.char c :: pieces)
  | unit {a b c d : Char} {n : Nat} {text : List Char} {pieces : List Piece}
      (hn : hexOf? [a, b, c, d] = some n) (h : IsQuoted text pieces) :
      IsQuoted ('\\' :: 'u' :: a :: b :: c :: d :: text) (.unit n :: pieces)

/-- What pieces say, unless they hold half a pair. -/
def contentOf (pieces : List Piece) : Except Fault String :=
  (joinPieces .unfinishedSurrogate pieces).map String.ofList

theorem readPieces_quoted {text : List Char} {pieces : List Piece} (h : IsQuoted text pieces)
    (rest : List Char) : readPieces (text ++ rest) = (pieces, .ok rest) := by
  induction h with
  | close => rfl
  | plain hquote hslash hcontrol _ ih =>
    rw [List.cons_append, readPieces]
    · simp only [if_neg hcontrol, ih]
    · exact fun h => absurd h hquote
    · exact fun h => absurd h hslash
    · exact fun _ _ _ _ _ h => absurd h hslash
    · exact fun _ _ h => absurd h hslash
  | @letter e c text pieces he _ ih =>
    have hu : e ≠ 'u' := by
      rintro rfl
      cases he
    rw [List.cons_append, List.cons_append, readPieces]
    · simp only [he, ih]
    · exact fun _ _ _ _ _ h => absurd h hu
  | unit hn _ ih =>
    simp only [List.cons_append, readPieces, hn, ih]

theorem readText_quoted {text : List Char} {pieces : List Piece} (h : IsQuoted text pieces)
    (rest : List Char) : readText (text ++ rest) = .ok (contentOf pieces, rest) := by
  rw [readText, readPieces_quoted h]
  rfl

/-- An escaped character is one piece, which stands for that character. -/
theorem exists_piece_escapeChar (c : Char) : ∃ piece,
    (∀ {text pieces}, IsQuoted text pieces → IsQuoted (escapeChar c ++ text) (piece :: pieces)) ∧
    ∀ pieces, joinPieces .unfinishedSurrogate (piece :: pieces) =
      (joinPieces .unfinishedSurrogate pieces).map (c :: ·) := by
  rcases escapeChar_cases c with
    ⟨e, he, hletter⟩ | ⟨hcontrol, he⟩ | ⟨hquote, hslash, hplain, he⟩
  · exact ⟨.char c, fun h => he ▸ .letter hletter h, fun _ => rfl⟩
  · refine ⟨.unit c.toNat, fun h => he ▸ .unit (hexOf?_escape _ hcontrol) h, ?_⟩
    intro pieces
    have hlead : isLead c.toNat = false := by simp [isLead]; omega
    have htrail : isTrail c.toNat = false := by simp [isTrail]; omega
    rw [joinPieces.eq_def]
    simp [hlead, htrail]
  · exact ⟨.char c, fun h => he ▸ .plain hquote hslash hplain h, fun _ => rfl⟩

/-- A text that is quoted says what it was. -/
theorem exists_isQuoted (text : List Char) : ∃ pieces,
    IsQuoted (text.flatMap escapeChar ++ ['"']) pieces ∧ contentOf pieces = .ok (.ofList text) := by
  have hjoin : ∃ pieces, IsQuoted (text.flatMap escapeChar ++ ['"']) pieces ∧
      joinPieces .unfinishedSurrogate pieces = .ok text := by
    induction text with
    | nil => exact ⟨[], .close, rfl⟩
    | cons c text ih =>
      obtain ⟨pieces, hquoted, hjoin⟩ := ih
      obtain ⟨piece, hpiece, hmeans⟩ := exists_piece_escapeChar c
      refine ⟨piece :: pieces, ?_, by rw [hmeans, hjoin, Except.map]⟩
      rw [List.flatMap_cons, List.append_assoc]
      exact hpiece hquoted
  obtain ⟨pieces, hquoted, hjoin⟩ := hjoin
  exact ⟨pieces, hquoted, by rw [contentOf, hjoin, Except.map]⟩

/-! Blanks. -/

def isSpace (c : Char) : Bool :=
  c == ' ' || c == '\n' || c == '\t' || c == '\r'

def IsGap (text : List Char) : Prop :=
  ∀ c ∈ text, isSpace c

theorem isGap_nil : IsGap [] := by
  simp [IsGap]

theorem skipSpace_gap {gap : List Char} (hgap : IsGap gap) {c : Char} (hc : isSpace c = false)
    (rest : List Char) : skipSpace (gap ++ c :: rest) = c :: rest := by
  have hskip : ∀ input, skipSpace input = input.dropWhile isSpace := fun _ => rfl
  rw [hskip, List.dropWhile_append_of_pos hgap, List.dropWhile_cons_of_neg]
  rw [hc]
  exact Bool.false_ne_true

/-! Texts that are JSON. -/

/-- What stands before the items to come: nothing at first, and a comma behind an item. -/
def opened (first : Bool) (behind : List Char) : List Char :=
  if first then [] else behind ++ [',']

/-- A row from some place on: the items that are left, with a comma before each that is not the
first, a mark behind them, and blanks anywhere. -/
inductive Row {α : Type} (close : Char) (P : List Char → α → Prop) :
    Bool → List Char → List α → Prop
  | closed {first : Bool} {gap : List Char} (hgap : IsGap gap) :
      Row close P first (gap ++ [close]) []
  | item {first : Bool} {behind gap text rest : List Char} {item : α} {items : List α}
      (hbehind : IsGap behind) (hgap : IsGap gap) (hitem : P text item)
      (hrest : Row close P false rest items) :
      Row close P first (opened first behind ++ (gap ++ (text ++ rest))) (item :: items)

mutual
/-- A text, without blanks at its ends, that says what a node holds. -/
inductive Spells (rounding : Rounding) : List Char → Node → Prop
  | null : Spells rounding "null".toList .null
  | bool (b : Bool) : Spells rounding (if b then "true" else "false").toList (.bool b)
  | number {n : Numeral} {text : List Char} (h : n.IsSpelled text) :
      Spells rounding text (numberNode (n.read rounding false))
  | negative {n : Numeral} {text : List Char} (h : n.IsSpelled text) :
      Spells rounding ('-' :: text) (numberNode (n.read rounding true))
  | text {text : List Char} {pieces : List Piece} (h : IsQuoted text pieces) :
      Spells rounding ('"' :: text) (.text (contentOf pieces))
  | list {text : List Char} {items : List Node} (h : Row ']' (Spells rounding) true text items) :
      Spells rounding ('[' :: text) (.list items none)
  | object {text : List Char} {fields : List (Except Fault String × Node)}
      (h : Row '\x7d' (SpellsField rounding) true text fields) :
      Spells rounding ('\x7b' :: text) (.object fields none)

/-- A field: its key, a colon and its value. -/
inductive SpellsField (rounding : Rounding) : List Char → Except Fault String × Node → Prop
  | field {key gap behind text : List Char} {pieces : List Piece} {node : Node}
      (hkey : IsQuoted key pieces) (hgap : IsGap gap) (hbehind : IsGap behind)
      (h : Spells rounding text node) :
      SpellsField rounding ('"' :: (key ++ (gap ++ ':' :: (behind ++ text))))
        (contentOf pieces, node)
end

/-- A text of one value, with blanks around it. -/
def IsTextOf (node : Node) (text : List Char) : Prop :=
  ∃ gap body behind, IsGap gap ∧ Spells .stepwise body node ∧ IsGap behind ∧
    text = gap ++ (body ++ behind)

/-- JSON is one value, with blanks around it. -/
def IsJson (text : List Char) : Prop :=
  ∃ node, IsTextOf node text

theorem quote_eq (text : List Char) : quote text = '"' :: (text.flatMap escapeChar ++ ['"']) := by
  simp [quote]

theorem Spells.quoted (s : String) : Spells rounding (quote s.toList) (.text (.ok s)) := by
  obtain ⟨pieces, hquoted, hcontent⟩ := exists_isQuoted s.toList
  have hspells : Spells rounding _ _ := .text hquoted
  rwa [hcontent, String.ofList_toList, ← quote_eq] at hspells

theorem SpellsField.quoted (key : String) {gap behind text : List Char} {node : Node}
    (hgap : IsGap gap) (hbehind : IsGap behind) (h : Spells rounding text node) :
    SpellsField rounding (quote key.toList ++ (gap ++ ':' :: (behind ++ text)))
      (.ok key, node) := by
  obtain ⟨pieces, hquoted, hcontent⟩ := exists_isQuoted key.toList
  have hspells : SpellsField rounding _ _ := .field hquoted hgap hbehind h
  rwa [hcontent, String.ofList_toList, ← List.cons_append, ← quote_eq] at hspells

theorem Numeral.IsSpelled.exists_eq_cons {n : Numeral} {text : List Char} (h : n.IsSpelled text) :
    ∃ c tail, text = c :: tail ∧ c.isDigit := by
  obtain ⟨power, -, rfl⟩ := h
  obtain ⟨c, whole, hwhole⟩ := List.exists_cons_of_ne_nil n.wholeNonempty
  rw [hwhole]
  exact ⟨c, _, rfl, n.wholeDigits c (by simp [hwhole])⟩

theorem isSpace_of_isDigit {c : Char} (h : c.isDigit) : isSpace c = false := by
  have hne : ∀ d : Char, d.isDigit = false → c ≠ d := by
    rintro d hd rfl
    exact absurd h (by simp [hd])
  simp [isSpace, hne ' ' rfl, hne '\n' rfl, hne '\t' rfl, hne '\r' rfl]

theorem Spells.exists_eq_cons {text : List Char} {node : Node} (h : Spells rounding text node) :
    ∃ c tail, text = c :: tail ∧ isSpace c = false ∧ c ≠ ']' := by
  cases h with
  | number h =>
    obtain ⟨c, tail, rfl, hc⟩ := h.exists_eq_cons
    refine ⟨c, tail, rfl, isSpace_of_isDigit hc, ?_⟩
    rintro rfl
    exact absurd hc (by decide)
  | bool b => cases b <;> exact ⟨_, _, rfl, by decide⟩
  | _ => exact ⟨_, _, rfl, by decide⟩

/-! Reading, one step for each kind of value. -/

variable {gap behind text tail : List Char} {fuel : Nat} {node : Node}

theorem readValue_step (hgap : IsGap gap) {c : Char} (hc : isSpace c = false) (tail : List Char) :
    readValue rounding (fuel + 1) (gap ++ c :: tail) =
      readValue rounding (fuel + 1) (c :: tail) := by
  have hskip : skipSpace (c :: tail) = c :: tail := skipSpace_gap isGap_nil hc tail
  rw [readValue, readValue, skipSpace_gap hgap hc, hskip]

theorem readWord_append (node : Node) (word rest : List Char) :
    readWord node word (word ++ rest) = (node, some rest) := by
  induction word with
  | nil => rfl
  | cons c word ih =>
    rw [List.cons_append, readWord, if_pos rfl]
    exact ih

theorem readValue_digit {c : Char} (hc : c.isDigit) (tail : List Char) :
    readValue rounding (fuel + 1) (c :: tail) =
      orBroken (readNumber rounding false (c :: tail)) := by
  have hskip : skipSpace (c :: tail) = c :: tail :=
    skipSpace_gap isGap_nil (isSpace_of_isDigit hc) tail
  rw [readValue, hskip]
  split
  case h_1 heq => cases heq
  case h_9 heq =>
    cases heq
    exact if_pos hc
  all_goals
    next heq =>
      cases heq
      exact absurd hc (by decide)

theorem readValue_number (hgap : IsGap gap) {n : Numeral} (h : n.IsSpelled text)
    (hrest : n.Stops rest) : readValue rounding (fuel + 1) (gap ++ (text ++ rest)) =
      (numberNode (n.read rounding false), some rest) := by
  have hread : readNumber rounding false (text ++ rest) =
      .ok (numberNode (n.read rounding false), rest) := Numeral.readNumber_spelled h hrest
  obtain ⟨c, tail, rfl, hc⟩ := h.exists_eq_cons
  rw [List.cons_append] at hread ⊢
  rw [readValue_step hgap (isSpace_of_isDigit hc), readValue_digit hc, hread]
  rfl

theorem readValue_negative (hgap : IsGap gap) {n : Numeral} (h : n.IsSpelled text)
    (hrest : n.Stops rest) : readValue rounding (fuel + 1) (gap ++ ('-' :: text ++ rest)) =
      (numberNode (n.read rounding true), some rest) := by
  have hvalue : readValue rounding (fuel + 1) ('-' :: (text ++ rest)) =
      orBroken (readNumber rounding true (text ++ rest)) := rfl
  rw [List.cons_append, readValue_step hgap rfl, hvalue, Numeral.readNumber_spelled h hrest]
  rfl

theorem readValue_list (tail : List Char) : readValue rounding (fuel + 1) ('[' :: tail) =
    (.list (readItems rounding fuel true tail).1 (readItems rounding fuel true tail).2.1,
      (readItems rounding fuel true tail).2.2) := rfl

theorem readValue_object (tail : List Char) : readValue rounding (fuel + 1) ('\x7b' :: tail) =
    (.object (readFields rounding fuel true tail).1 (readFields rounding fuel true tail).2.1,
      (readFields rounding fuel true tail).2.2) := rfl

theorem listSeparator_opened {first : Bool} (hbehind : IsGap behind) (hgap : IsGap gap) {c : Char}
    (hc : isSpace c = false) (hclose : c ≠ ']') (tail : List Char) :
    listSeparator first (opened first behind ++ (gap ++ c :: tail)) = .next (c :: tail) := by
  cases first with
  | true =>
    rw [opened, if_pos rfl, List.nil_append, listSeparator, skipSpace_gap hgap hc]
    split
    · next heq => cases heq
    · next heq => exact absurd (List.cons.inj heq).1 hclose
    · next heq =>
      cases heq
      rfl
  | false =>
    have hcomma : skipSpace (opened false behind ++ (gap ++ c :: tail)) =
        ',' :: (gap ++ c :: tail) := by
      rw [opened, if_neg Bool.false_ne_true, List.append_assoc]
      exact skipSpace_gap hbehind rfl _
    rw [listSeparator, hcomma]
    split
    · next heq => cases heq
    · next heq => exact absurd (List.cons.inj heq).1 (by decide)
    · next heq =>
      cases heq
      rw [if_neg Bool.false_ne_true, if_pos rfl, skipSpace_gap hgap hc]
      split
      · next heq => cases heq
      · next heq => exact absurd (List.cons.inj heq).1 hclose
      · rfl

theorem listSeparator_close {first : Bool} (hgap : IsGap gap) (rest : List Char) :
    listSeparator first (gap ++ ']' :: rest) = .over rest := by
  rw [listSeparator, skipSpace_gap hgap rfl]
  rfl

theorem fieldSeparator_opened {first : Bool} (hbehind : IsGap behind) (hgap : IsGap gap)
    (tail : List Char) :
    fieldSeparator first (opened first behind ++ (gap ++ '"' :: tail)) = .next tail := by
  cases first with
  | true =>
    rw [opened, if_pos rfl, List.nil_append, fieldSeparator, skipSpace_gap hgap rfl]
    rfl
  | false =>
    have hcomma : skipSpace (opened false behind ++ (gap ++ '"' :: tail)) =
        ',' :: (gap ++ '"' :: tail) := by
      rw [opened, if_neg Bool.false_ne_true, List.append_assoc]
      exact skipSpace_gap hbehind rfl _
    rw [fieldSeparator, hcomma]
    split
    · next heq => cases heq
    · next heq => exact absurd (List.cons.inj heq).1 (by decide)
    · next heq =>
      cases heq
      rw [if_neg Bool.false_ne_true, if_pos rfl, skipSpace_gap hgap rfl]
      rfl

theorem fieldSeparator_close {first : Bool} (hgap : IsGap gap) (rest : List Char) :
    fieldSeparator first (gap ++ '\x7d' :: rest) = .over rest := by
  rw [fieldSeparator, skipSpace_gap hgap rfl]
  rfl

/-! What may follow. -/

theorem endsNumber_gap (hgap : IsGap gap) (hrest : EndsNumber rest) : EndsNumber (gap ++ rest) := by
  cases gap with
  | nil => exact hrest
  | cons d gap =>
    have hspace : ∀ d, isSpace d → d.isDigit = false ∧ d ≠ '.' ∧ isExponentMark d = false := by
      intro d hd
      simp only [isSpace, Bool.or_eq_true, beq_iff_eq] at hd
      rcases hd with ((rfl | rfl) | rfl) | rfl <;> decide
    rintro _ ⟨rfl⟩
    exact hspace d (hgap d List.mem_cons_self)

theorem endsNumber_of_isGap (hgap : IsGap gap) : EndsNumber gap := by
  have hnil : EndsNumber [] := fun _ hc => by cases hc
  simpa using endsNumber_gap hgap hnil

theorem endsNumber_cons {c : Char} (hdigit : c.isDigit = false) (hpoint : c ≠ '.')
    (hmark : isExponentMark c = false) (rest : List Char) : EndsNumber (c :: rest) := by
  rintro _ ⟨rfl⟩
  exact ⟨hdigit, hpoint, hmark⟩

section Row
variable {α : Type} {close : Char} {P : List Char → α → Prop} {first : Bool} {items : List α}

theorem Row.ne_nil (h : Row close P first text items) : text ≠ [] := by
  induction h with
  | closed => simp
  | item _ _ _ _ ih => simp [ih]

theorem Row.endsNumber (hclose : ∀ rest, EndsNumber (close :: rest))
    (h : Row close P false text items) (rest : List Char) : EndsNumber (text ++ rest) := by
  cases h with
  | closed hgap =>
    rw [List.append_assoc]
    exact endsNumber_gap hgap (hclose _)
  | item hbehind =>
    have hcomma : ∀ rest, EndsNumber (',' :: rest) := endsNumber_cons rfl (by decide) rfl
    simpa [opened] using endsNumber_gap hbehind (hcomma _)

end Row

/-- The kind of value whose end shows only by what follows. -/
def Node.isNumber : Node → Bool
  | .number _ _ => true
  | _ => false

/-- With this much fuel all texts that are not longer are read to their ends. -/
structure ReadsWithin (rounding : Rounding) (fuel : Nat) : Prop where
  value {gap text rest : List Char} {node : Node} (hgap : IsGap gap)
      (h : Spells rounding text node) (hfuel : text.length ≤ fuel)
      (hrest : node.isNumber → EndsNumber rest) :
      readValue rounding fuel (gap ++ (text ++ rest)) = (node, some rest)
  items {text rest : List Char} {items : List Node} (first : Bool)
      (h : Row ']' (Spells rounding) first text items) (hfuel : text.length ≤ fuel) :
      readItems rounding fuel first (text ++ rest) = (items, none, some rest)
  fields {text rest : List Char} {fields : List (Except Fault String × Node)} (first : Bool)
      (h : Row '\x7d' (SpellsField rounding) first text fields) (hfuel : text.length ≤ fuel) :
      readFields rounding fuel first (text ++ rest) = (fields, none, some rest)

theorem readValue_spelled (ih : ReadsWithin rounding fuel) (hgap : IsGap gap)
    (h : Spells rounding text node) (hfuel : text.length ≤ fuel + 1)
    (hrest : node.isNumber → EndsNumber rest) :
    readValue rounding (fuel + 1) (gap ++ (text ++ rest)) = (node, some rest) := by
  have hstep : readValue rounding (fuel + 1) (gap ++ (text ++ rest)) =
      readValue rounding (fuel + 1) (text ++ rest) := by
    obtain ⟨c, tail, rfl, hc, _⟩ := h.exists_eq_cons
    exact readValue_step hgap hc (tail ++ rest)
  cases h with
  | null =>
    rw [hstep]
    exact readWord_append .null "ull".toList rest
  | bool b =>
    rw [hstep]
    cases b with
    | true => exact readWord_append (.bool true) "rue".toList rest
    | false => exact readWord_append (.bool false) "alse".toList rest
  | number h => exact readValue_number hgap h ((hrest rfl).stops _)
  | negative h => exact readValue_negative hgap h ((hrest rfl).stops _)
  | @text text pieces h =>
    have hskip : skipSpace ('"' :: (text ++ rest)) = '"' :: (text ++ rest) :=
      skipSpace_gap isGap_nil rfl _
    rw [hstep, List.cons_append, readValue, hskip]
    simp only [readText_quoted h]
  | list h =>
    rw [hstep, List.cons_append, readValue_list, ih.items true h (by simpa using hfuel)]
  | object h =>
    rw [hstep, List.cons_append, readValue_object, ih.fields true h (by simpa using hfuel)]

theorem readItems_next (ih : ReadsWithin rounding fuel) {first : Bool} (hbehind : IsGap behind)
    (hgap : IsGap gap) (h : Spells rounding text node) (hfuel : text.length ≤ fuel)
    (htail : EndsNumber tail) :
    readItems rounding (fuel + 1) first (opened first behind ++ (gap ++ (text ++ tail))) =
      (node :: (readItems rounding fuel false tail).1, (readItems rounding fuel false tail).2) := by
  have hvalue := ih.value isGap_nil h hfuel fun _ => htail
  obtain ⟨c, more, rfl, hc, hclose⟩ := h.exists_eq_cons
  rw [List.cons_append, readItems, listSeparator_opened hbehind hgap hc hclose]
  rw [List.nil_append, List.cons_append] at hvalue
  dsimp only
  rw [hvalue]

theorem readFields_next (ih : ReadsWithin rounding fuel) {first : Bool}
    {field : Except Fault String × Node} (hbehind : IsGap behind) (hgap : IsGap gap)
    (h : SpellsField rounding text field) (hfuel : text.length ≤ fuel)
    (htail : EndsNumber tail) :
    readFields rounding (fuel + 1) first (opened first behind ++ (gap ++ (text ++ tail))) =
      (field :: (readFields rounding fuel false tail).1,
        (readFields rounding fuel false tail).2) := by
  cases h with
  | @field key before after value pieces node hkey hbefore hafter hspelled =>
    have hlength : value.length ≤ fuel := by
      simp only [List.length_append, List.length_cons] at hfuel
      omega
    have hvalue := ih.value hafter hspelled hlength fun _ => htail
    simp only [List.cons_append, List.append_assoc]
    rw [readFields, fieldSeparator_opened hbehind hgap]
    dsimp only
    rw [readText_quoted hkey]
    dsimp only
    rw [skipSpace_gap hbefore rfl]
    simp only [hvalue]

theorem Spells.ne_nil (h : Spells rounding text node) : text ≠ [] := by
  obtain ⟨c, tail, rfl, _⟩ := h.exists_eq_cons
  exact List.cons_ne_nil c tail

theorem SpellsField.ne_nil {field : Except Fault String × Node}
    (h : SpellsField rounding text field) : text ≠ [] := by
  cases h
  simp

section Row
variable {α : Type} {close : Char} {P : List Char → α → Prop}
  {readAll : Nat → Bool → List Char → List α × Option Break × Option (List Char)}

/-- Reading a row, from reading one item and from reading the end. -/
theorem read_row
    (hclose : ∀ rest, EndsNumber (close :: rest))
    (hpos : ∀ {text item}, P text item → text ≠ [])
    (hover : ∀ {first gap} rest, IsGap gap →
      readAll (fuel + 1) first (gap ++ close :: rest) = ([], none, some rest))
    (hnext : ∀ {first behind gap text item tail}, IsGap behind → IsGap gap → P text item →
      text.length ≤ fuel → EndsNumber tail →
      readAll (fuel + 1) first (opened first behind ++ (gap ++ (text ++ tail))) =
        (item :: (readAll fuel false tail).1, (readAll fuel false tail).2))
    (hmore : ∀ {text items rest}, Row close P false text items → text.length ≤ fuel →
      readAll fuel false (text ++ rest) = (items, none, some rest))
    {items : List α} {first : Bool} (h : Row close P first text items)
    (hfuel : text.length ≤ fuel + 1) :
    readAll (fuel + 1) first (text ++ rest) = (items, none, some rest) := by
  cases h with
  | closed hgap => simpa using hover rest hgap
  | @item _ behind gap value others item items hbehind hgap hitem hothers =>
    have hvalue := List.length_pos_iff.mpr (hpos hitem)
    have hleft := List.length_pos_iff.mpr hothers.ne_nil
    simp only [List.length_append] at hfuel
    have hread := @hnext first behind gap value item (others ++ rest) hbehind hgap hitem (by omega)
      (hothers.endsNumber hclose rest)
    rw [hmore hothers (by omega)] at hread
    simpa using hread

end Row

/-- One more unit of fuel is one more value, item or field that is read. -/
theorem readsWithin (rounding : Rounding) (fuel : Nat) : ReadsWithin rounding fuel := by
  induction fuel with
  | zero =>
    have hempty : ∀ {text : List Char}, text.length ≤ 0 → text = [] := by simp
    constructor
    · exact fun _ h hfuel => absurd (hempty hfuel) h.ne_nil
    · exact fun _ h hfuel => absurd (hempty hfuel) h.ne_nil
    · exact fun _ h hfuel => absurd (hempty hfuel) h.ne_nil
  | succ fuel ih =>
    constructor
    · exact readValue_spelled ih
    · intro _ _ _ first
      refine read_row (endsNumber_cons rfl (by decide) rfl) (fun h => h.ne_nil) ?_
        (readItems_next ih) (ih.items false)
      intro first gap rest hgap
      rw [readItems, listSeparator_close hgap]
    · intro _ _ _ first
      refine read_row (endsNumber_cons rfl (by decide) rfl) (fun h => h.ne_nil) ?_
        (readFields_next ih) (ih.fields false)
      intro first gap rest hgap
      rw [readFields, fieldSeparator_close hgap]

/-- A text that spells a node is read as that node, also with blanks around it. -/
theorem read_spaced (hgap : IsGap gap) (h : Spells rounding text node) (hbehind : IsGap behind) :
    read rounding (gap ++ (text ++ behind)) = (node, none) := by
  have hlength : text.length ≤ 2 * (gap ++ (text ++ behind)).length + 1 := by
    rw [List.length_append, List.length_append]
    omega
  have hvalue := (readsWithin rounding _).value hgap h hlength fun _ => endsNumber_of_isGap hbehind
  have hrest : skipSpace behind = [] := List.dropWhile_eq_nil_iff.mpr hbehind
  rw [read, hvalue]
  simp [hrest]

theorem read_spelled (h : Spells rounding text node) (hbehind : IsGap behind) :
    read rounding (text ++ behind) = (node, none) :=
  read_spaced isGap_nil h hbehind

end Cartouche.Json
