import Cartouche.Proofs.JsonReading

/-!
The other direction: what is read to its end is JSON. One step of the reader is described once, for
a value and for a row of them, and soundness and the locality of reading are read off it: what
follows a value has no part in it, except that the end of a number shows by the next character.
-/
namespace Cartouche.Json
open Decimal

variable {rounding : Rounding} {gap behind text tail rest input : List Char} {fuel : Nat}
  {node : Node}

/-! Blanks, quoted texts and words. -/

theorem isGap_append {other : List Char} (hgap : IsGap gap) (hother : IsGap other) :
    IsGap (gap ++ other) := by
  intro c hc
  rcases List.mem_append.mp hc with hc | hc
  · exact hgap c hc
  · exact hother c hc

theorem exists_gap (input : List Char) : ∃ gap, IsGap gap ∧ input = gap ++ skipSpace input ∧
    ∀ c ∈ (skipSpace input).head?, isSpace c = false := by
  refine ⟨input.takeWhile isSpace, fun c => List.mem_takeWhile_imp,
    List.takeWhile_append_dropWhile.symm, ?_⟩
  intro c hc
  have hstop := List.head?_dropWhile_not isSpace input
  have hhead : (input.dropWhile isSpace).head? = some c := hc
  rw [hhead] at hstop
  exact hstop

theorem isGap_of_skipSpace_eq_nil (h : skipSpace input = []) : IsGap input := by
  obtain ⟨gap, hgap, hinput, -⟩ := exists_gap input
  rw [hinput, h, List.append_nil]
  exact hgap

theorem exists_isQuoted_of_readPieces {pieces : List Piece}
    (h : readPieces input = (pieces, .ok rest)) :
    ∃ text, IsQuoted text pieces ∧ input = text ++ rest := by
  fun_induction readPieces input generalizing pieces with
  | case2 =>
    cases h
    exact ⟨_, .close, rfl⟩
  | case4 _ _ _ _ _ _ hn _ _ hread ih =>
    cases h
    obtain ⟨text, hquoted, rfl⟩ := ih hread
    exact ⟨_, .unit hn hquoted, rfl⟩
  | case6 _ _ _ _ he _ _ hread ih =>
    cases h
    obtain ⟨text, hquoted, rfl⟩ := ih hread
    exact ⟨_, .letter he hquoted, rfl⟩
  | case11 c behind hquote hend hunit hescape hcontrol _ _ hread ih =>
    cases h
    have hslash : c ≠ '\\' := by
      intro hc
      cases behind with
      | nil => exact hend hc rfl
      | cons e behind => exact hescape e behind hc rfl
    obtain ⟨text, hquoted, rfl⟩ := ih hread
    exact ⟨_, .plain hquote hslash hcontrol hquoted, rfl⟩
  | _ => cases h

theorem exists_isQuoted_of_readText {content : Except Fault String}
    (h : readText input = .ok (content, rest)) : ∃ text pieces, IsQuoted text pieces ∧
      content = contentOf pieces ∧ input = text ++ rest := by
  unfold readText at h
  split at h
  next pieces ending hread =>
  split at h
  · obtain ⟨rfl, rfl⟩ := Prod.mk.inj (Except.ok.inj h)
    obtain ⟨text, hquoted, hinput⟩ := exists_isQuoted_of_readPieces hread
    exact ⟨text, pieces, hquoted, rfl, hinput⟩
  · cases h

theorem readWord_cases (node : Node) (word input : List Char) :
    (∃ place, readWord node word input = (.broken place, none)) ∨
    ∃ rest, input = word ++ rest ∧ readWord node word input = (node, some rest) := by
  induction word generalizing input with
  | nil => exact .inr ⟨input, rfl, rfl⟩
  | cons c word ih =>
    cases input with
    | nil => exact .inl ⟨_, rfl⟩
    | cons d input =>
      rw [readWord]
      split
      · next heq =>
        obtain ⟨place, hbroken⟩ | ⟨rest, rfl, hread⟩ := ih input
        · exact .inl ⟨place, hbroken⟩
        · exact .inr ⟨rest, heq ▸ rfl, hread⟩
      · exact .inl ⟨_, rfl⟩

/-! Values. -/

/-- Two ways to go on behind a value that end a number alike: they begin with the same character, or
the second with none that belongs to a number. -/
def StopsAlike (rest more : List Char) : Prop :=
  more.head? = rest.head? ∨ EndsNumber more

/-- A text is read as a node before the rest, and before whatever stops alike. -/
def ReadsBefore (rounding : Rounding) (text : List Char) (node : Node) (rest : List Char) : Prop :=
  ∀ gap more fuel, IsGap gap → StopsAlike rest more → text.length ≤ fuel →
    readValue rounding fuel (gap ++ (text ++ more)) = (node, some more)

theorem Spells.readsBefore (h : Spells rounding text node) (hnumber : node.isNumber = false)
    (rest : List Char) : ReadsBefore rounding text node rest := by
  intro gap more fuel hgap _ hfuel
  refine (readsWithin rounding fuel).value hgap h hfuel ?_
  intro hyes
  rw [hnumber] at hyes
  cases hyes

theorem Numeral.Stops.alike {n : Numeral} {more : List Char} (h : n.Stops rest)
    (halike : StopsAlike rest more) : n.Stops more := by
  rcases halike with hhead | hends
  · unfold Numeral.Stops
    rw [hhead]
    exact h
  · exact hends.stops n

/-- What one step of reading makes of a text: it is whole, or breaks off at once, or goes on with
items or fields. -/
inductive ValueRead (rounding : Rounding) (fuel : Nat) :
    List Char → Node × Option (List Char) → Prop
  | whole {gap text rest : List Char} {node : Node} (hgap : IsGap gap)
      (h : Spells rounding text node) (hlocal : ReadsBefore rounding text node rest) :
      ValueRead rounding fuel (gap ++ (text ++ rest)) (node, some rest)
  | broken (input : List Char) (place : Break) :
      ValueRead rounding fuel input (.broken place, none)
  | list {gap tail : List Char} {items : List Node} {ending : Option Break}
      {left : Option (List Char)} (hgap : IsGap gap)
      (h : readItems rounding fuel true tail = (items, ending, left)) :
      ValueRead rounding fuel (gap ++ '[' :: tail) (.list items ending, left)
  | object {gap tail : List Char} {fields : List (Except Fault String × Node)}
      {ending : Option Break} {left : Option (List Char)} (hgap : IsGap gap)
      (h : readFields rounding fuel true tail = (fields, ending, left)) :
      ValueRead rounding fuel (gap ++ '\x7b' :: tail) (.object fields ending, left)

theorem valueRead_number (hgap : IsGap gap) (negative : Bool) (tail : List Char) :
    ValueRead rounding fuel (gap ++ ((if negative then ['-'] else []) ++ tail))
      (orBroken (readNumber rounding negative tail)) := by
  cases hread : readNumber rounding negative tail with
  | error place => exact .broken _ place
  | ok parts =>
    obtain ⟨node, rest⟩ := parts
    obtain ⟨n, text, hspelled, rfl, hstops, rfl⟩ := exists_numeral_of_readNumber hread
    have hpos : ∀ {fuel}, text.length ≤ fuel → ∃ more, fuel = more + 1 := by
      intro fuel hfuel
      obtain ⟨c, tail, rfl, -⟩ := hspelled.exists_eq_cons
      exact Nat.exists_eq_add_one.mpr (Nat.lt_of_lt_of_le (Nat.succ_pos _) hfuel)
    cases negative with
    | false =>
      refine .whole hgap (.number hspelled) ?_
      intro gap more fuel hgap halike hfuel
      obtain ⟨fuel, rfl⟩ := hpos hfuel
      exact readValue_number hgap hspelled (hstops.alike halike)
    | true =>
      have hnegative : Spells rounding ('-' :: text) _ := .negative hspelled
      refine .whole hgap hnegative ?_
      intro gap more fuel hgap halike hfuel
      obtain ⟨fuel, rfl⟩ := hpos (Nat.le_of_succ_le hfuel)
      exact readValue_negative hgap hspelled (hstops.alike halike)

theorem valueRead_word (hgap : IsGap gap) {word : List Char} (first : Char)
    (h : Spells rounding (first :: word) node) (hnumber : node.isNumber = false)
    (tail : List Char) :
    ValueRead rounding fuel (gap ++ first :: tail) (readWord node word tail) := by
  obtain ⟨place, hbroken⟩ | ⟨rest, rfl, hread⟩ := readWord_cases node word tail
  · rw [hbroken]
    exact .broken _ place
  · rw [hread]
    exact .whole hgap h (h.readsBefore hnumber rest)

theorem valueRead (input : List Char) :
    ValueRead rounding fuel input (readValue rounding (fuel + 1) input) := by
  obtain ⟨gap, hspace, hinput, -⟩ := exists_gap input
  have hgap : ∀ {c tail}, skipSpace input = c :: tail → input = gap ++ c :: tail :=
    fun heq => heq ▸ hinput
  rw [readValue]
  split
  · exact .broken _ _
  · next tail heq =>
    rw [hgap heq]
    exact valueRead_word hspace 'n' .null rfl tail
  · next tail heq =>
    rw [hgap heq]
    exact valueRead_word hspace 't' (.bool true) rfl tail
  · next tail heq =>
    rw [hgap heq]
    exact valueRead_word hspace 'f' (.bool false) rfl tail
  · next tail heq =>
    rw [hgap heq]
    exact valueRead_number hspace true tail
  · next tail heq =>
    rw [hgap heq]
    cases hread : readText tail with
    | error place => exact .broken _ place
    | ok parts =>
      obtain ⟨text, pieces, hquoted, hcontent, rfl⟩ := exists_isQuoted_of_readText hread
      have hspells : Spells rounding ('"' :: text) _ := .text hquoted
      dsimp only
      rw [hcontent]
      exact .whole hspace hspells (hspells.readsBefore rfl _)
  · next tail heq =>
    rw [hgap heq]
    exact .list hspace rfl
  · next tail heq =>
    rw [hgap heq]
    exact .object hspace rfl
  · next c tail _ _ _ _ _ _ _ heq =>
    rw [hgap heq]
    split
    · exact valueRead_number hspace false (c :: tail)
    · exact .broken _ _

/-! Rows. -/

/-- A row goes on with an item behind its separator, before the rest and whatever stops alike. -/
def NextBefore {α : Type}
    (readAll : Nat → Bool → List Char → List α × Option Break × Option (List Char))
    (text : List Char) (item : α) (rest : List Char) : Prop :=
  ∀ first behind gap more fuel, IsGap behind → IsGap gap → StopsAlike rest more →
    text.length ≤ fuel → readAll (fuel + 1) first (opened first behind ++ (gap ++ (text ++ more))) =
      (item :: (readAll fuel false more).1, (readAll fuel false more).2)

/-- What one step of reading makes of a row. -/
inductive RowRead {α : Type} (close : Char) (One : List Char → α → Option (List Char) → Prop)
    (more : List Char → List α × Option Break × Option (List Char)) (first : Bool) :
    List Char → List α × Option Break × Option (List Char) → Prop
  | closed {gap : List Char} (hgap : IsGap gap) (rest : List Char) :
      RowRead close One more first (gap ++ close :: rest) ([], none, some rest)
  | stopped (input : List Char) (place : Break) :
      RowRead close One more first input ([], some place, none)
  | broken {behind gap tail : List Char} {item : α} (hbehind : IsGap behind) (hgap : IsGap gap)
      (h : One tail item none) :
      RowRead close One more first (opened first behind ++ (gap ++ tail)) ([item], none, none)
  | item {behind gap tail rest : List Char} {item : α} {items : List α} {ending : Option Break}
      {left : Option (List Char)} (hbehind : IsGap behind) (hgap : IsGap gap)
      (h : One tail item (some rest)) (hmore : more rest = (items, ending, left)) :
      RowRead close One more first (opened first behind ++ (gap ++ tail))
        (item :: items, ending, left)

theorem listSeparator_cases (first : Bool) (input : List Char) :
    (∃ place, listSeparator first input = .stop place) ∨
    (∃ gap rest, IsGap gap ∧ input = gap ++ ']' :: rest ∧
      listSeparator first input = .over rest) ∨
    ∃ behind gap c tail, IsGap behind ∧ IsGap gap ∧ isSpace c = false ∧ c ≠ ']' ∧
      input = opened first behind ++ (gap ++ c :: tail) ∧
      listSeparator first input = .next (c :: tail) := by
  obtain ⟨gap, hgap, hinput, hstop⟩ := exists_gap input
  unfold listSeparator
  split
  · exact .inl ⟨_, rfl⟩
  · next rest heq => exact .inr (.inl ⟨gap, rest, hgap, heq ▸ hinput, rfl⟩)
  · next c rest hclose heq =>
    rw [heq] at hinput hstop
    cases first with
    | true =>
      exact .inr (.inr ⟨[], gap, c, rest, isGap_nil, hgap, hstop c rfl, hclose, hinput, rfl⟩)
    | false =>
      rw [if_neg Bool.false_ne_true]
      split
      · next hcomma =>
        subst hcomma
        obtain ⟨next, hnext, hrest, hstop⟩ := exists_gap rest
        split
        · exact .inl ⟨_, rfl⟩
        · exact .inl ⟨_, rfl⟩
        · next hnil hclose =>
          obtain ⟨c, tail, heq⟩ := List.exists_cons_of_ne_nil hnil
          rw [heq] at hstop hrest ⊢
          refine .inr (.inr ⟨gap, next, c, tail, hgap, hnext, hstop c rfl, ?_, ?_, rfl⟩)
          · rintro rfl
            exact hclose tail heq
          · rw [hinput, hrest, opened, if_neg Bool.false_ne_true, List.append_assoc]
            rfl
      · exact .inl ⟨_, rfl⟩

theorem fieldSeparator_cases (first : Bool) (input : List Char) :
    (∃ place, fieldSeparator first input = .stop place) ∨
    (∃ gap rest, IsGap gap ∧ input = gap ++ '\x7d' :: rest ∧
      fieldSeparator first input = .over rest) ∨
    ∃ behind gap tail, IsGap behind ∧ IsGap gap ∧
      input = opened first behind ++ (gap ++ '"' :: tail) ∧
      fieldSeparator first input = .next tail := by
  obtain ⟨gap, hgap, hinput, -⟩ := exists_gap input
  unfold fieldSeparator
  split
  · exact .inl ⟨_, rfl⟩
  · next rest heq => exact .inr (.inl ⟨gap, rest, hgap, heq ▸ hinput, rfl⟩)
  · next c rest hclose heq =>
    rw [heq] at hinput
    cases first with
    | true =>
      rw [if_pos rfl]
      split
      · next hquote =>
        subst hquote
        exact .inr (.inr ⟨[], gap, rest, isGap_nil, hgap, hinput, rfl⟩)
      · exact .inl ⟨_, rfl⟩
    | false =>
      rw [if_neg Bool.false_ne_true]
      split
      · next hcomma =>
        subst hcomma
        obtain ⟨next, hnext, hrest, -⟩ := exists_gap rest
        split
        · exact .inl ⟨_, rfl⟩
        · next tail heq =>
          refine .inr (.inr ⟨gap, next, tail, hgap, hnext, ?_, rfl⟩)
          rw [hinput, hrest, heq, opened, if_neg Bool.false_ne_true, List.append_assoc]
          rfl
        · exact .inl ⟨_, rfl⟩
        · exact .inl ⟨_, rfl⟩
      · exact .inl ⟨_, rfl⟩

/-- One item of a list, which begins where its blanks end. -/
def ItemRead (rounding : Rounding) (fuel : Nat) (tail : List Char) (node : Node)
    (left : Option (List Char)) : Prop :=
  readValue rounding fuel tail = (node, left) ∧
    ∃ c more, tail = c :: more ∧ isSpace c = false ∧ c ≠ ']'

/-- One field of an object: its key, and its value unless no colon is there. -/
inductive FieldRead (rounding : Rounding) (fuel : Nat) :
    List Char → Except Fault String × Node → Option (List Char) → Prop
  | keyOnly {key : List Char} {pieces : List Piece} (hkey : IsQuoted key pieces) (tail : List Char)
      (place : Break) :
      FieldRead rounding fuel ('"' :: (key ++ tail)) (contentOf pieces, .broken place) none
  | value {key gap tail : List Char} {pieces : List Piece} {node : Node}
      {left : Option (List Char)} (hkey : IsQuoted key pieces) (hgap : IsGap gap)
      (h : readValue rounding fuel tail = (node, left)) :
      FieldRead rounding fuel ('"' :: (key ++ (gap ++ ':' :: tail))) (contentOf pieces, node) left

theorem itemsRead (first : Bool) (input : List Char) :
    RowRead ']' (ItemRead rounding fuel) (readItems rounding fuel false) first input
      (readItems rounding (fuel + 1) first input) := by
  rw [readItems]
  obtain ⟨place, hsep⟩ | ⟨gap, rest, hgap, rfl, hsep⟩ |
    ⟨behind, gap, c, tail, hbehind, hgap, hc, hclose, rfl, hsep⟩ := listSeparator_cases first input
  · rw [hsep]
    exact .stopped _ place
  · rw [hsep]
    exact .closed hgap rest
  · rw [hsep]
    dsimp only
    rcases hread : readValue rounding fuel (c :: tail) with ⟨node, left⟩
    have hitem : ItemRead rounding fuel (c :: tail) node left :=
      ⟨hread, c, tail, rfl, hc, hclose⟩
    cases left with
    | none => exact .broken hbehind hgap hitem
    | some rest => exact .item hbehind hgap hitem rfl

theorem fieldsRead (first : Bool) (input : List Char) :
    RowRead '\x7d' (FieldRead rounding fuel) (readFields rounding fuel false) first input
      (readFields rounding (fuel + 1) first input) := by
  rw [readFields]
  obtain ⟨place, hsep⟩ | ⟨gap, rest, hgap, rfl, hsep⟩ |
    ⟨behind, gap, tail, hbehind, hgap, rfl, hsep⟩ := fieldSeparator_cases first input
  · rw [hsep]
    exact .stopped _ place
  · rw [hsep]
    exact .closed hgap rest
  · rw [hsep]
    dsimp only
    cases hread : readText tail with
    | error place => exact .stopped _ place
    | ok parts =>
      obtain ⟨key, pieces, hkey, hcontent, rfl⟩ := exists_isQuoted_of_readText hread
      obtain ⟨content, rest⟩ := parts
      obtain ⟨before, hbefore, hrest, -⟩ := exists_gap rest
      dsimp only at hcontent ⊢
      rw [hcontent]
      split
      · exact .broken hbehind hgap (.keyOnly hkey rest _)
      · next tail heq =>
        rw [heq] at hrest
        rw [hrest]
        rcases hvalue : readValue rounding fuel tail with ⟨node, left⟩
        have hfield := FieldRead.value hkey hbefore hvalue
        cases left with
        | none => exact .broken hbehind hgap hfield
        | some rest => exact .item hbehind hgap hfield rfl
      · exact .broken hbehind hgap (.keyOnly hkey rest _)

/-! Soundness. -/

/-- With this much fuel, what is read to its end is JSON, and is read the same before whatever
stops alike. -/
structure AcceptsWithin (rounding : Rounding) (fuel : Nat) : Prop where
  value {input rest : List Char} {node : Node}
    (h : readValue rounding fuel input = (node, some rest)) :
    ∃ gap text, IsGap gap ∧ Spells rounding text node ∧ ReadsBefore rounding text node rest ∧
      input = gap ++ (text ++ rest)
  items {first : Bool} {input rest : List Char} {items : List Node} {ending : Option Break}
    (h : readItems rounding fuel first input = (items, ending, some rest)) :
    ending = none ∧ ∃ text, Row ']' (Spells rounding) first text items ∧ input = text ++ rest
  fields {first : Bool} {input rest : List Char} {fields : List (Except Fault String × Node)}
    {ending : Option Break}
    (h : readFields rounding fuel first input = (fields, ending, some rest)) :
    ending = none ∧
      ∃ text, Row '\x7d' (SpellsField rounding) first text fields ∧ input = text ++ rest

theorem AcceptsWithin.item (ih : AcceptsWithin rounding fuel)
    (h : ItemRead rounding fuel tail node (some rest)) :
    ∃ gap text, IsGap gap ∧ Spells rounding text node ∧ tail = gap ++ (text ++ rest) ∧
      NextBefore (readItems rounding) text node rest := by
  obtain ⟨gap, text, hgap, hspells, hlocal, hinput⟩ := ih.value h.1
  refine ⟨gap, text, hgap, hspells, hinput, ?_⟩
  intro first behind gap more fuel hbehind hgap halike hfuel
  have hvalue := hlocal [] more fuel isGap_nil halike hfuel
  obtain ⟨c, text, rfl, hc, hclose⟩ := hspells.exists_eq_cons
  rw [List.cons_append, readItems, listSeparator_opened hbehind hgap hc hclose]
  rw [List.nil_append, List.cons_append] at hvalue
  dsimp only
  rw [hvalue]

theorem AcceptsWithin.field (ih : AcceptsWithin rounding fuel)
    {field : Except Fault String × Node} (h : FieldRead rounding fuel tail field (some rest)) :
    ∃ gap text, IsGap gap ∧ SpellsField rounding text field ∧ tail = gap ++ (text ++ rest) ∧
      NextBefore (readFields rounding) text field rest := by
  cases h with
  | @value key before behind pieces node _ hkey hbefore hread =>
    obtain ⟨after, text, hafter, hspells, hlocal, rfl⟩ := ih.value hread
    refine ⟨[], _, isGap_nil, .field hkey hbefore hafter hspells, by simp, ?_⟩
    intro first behind gap more fuel hbehind hgap halike hfuel
    have hlength : text.length ≤ fuel := by
      simp only [List.length_append, List.length_cons] at hfuel
      omega
    have hvalue := hlocal after more fuel hafter halike hlength
    simp only [List.cons_append, List.append_assoc]
    rw [readFields, fieldSeparator_opened hbehind hgap]
    dsimp only
    rw [readText_quoted hkey]
    dsimp only
    rw [skipSpace_gap hbefore rfl]
    simp only [hvalue]

/-- A row that is read to its end is one, if each of its items is one of its kind. -/
theorem RowRead.row {α : Type} {close : Char} {P : List Char → α → Prop}
    {One : List Char → α → Option (List Char) → Prop}
    {more : List Char → List α × Option Break × Option (List Char)} {first : Bool} {items : List α}
    {ending : Option Break} (h : RowRead close One more first input (items, ending, some rest))
    (hone : ∀ {tail item rest}, One tail item (some rest) →
      ∃ gap text, IsGap gap ∧ P text item ∧ tail = gap ++ (text ++ rest))
    (hmore : ∀ {input items ending rest}, more input = (items, ending, some rest) →
      ending = none ∧ ∃ text, Row close P false text items ∧ input = text ++ rest) :
    ending = none ∧ ∃ text, Row close P first text items ∧ input = text ++ rest := by
  cases h with
  | closed hgap => exact ⟨rfl, _, .closed hgap, by simp⟩
  | item hbehind hgap hitem hrest =>
    obtain ⟨hending, others, hothers, rfl⟩ := hmore hrest
    obtain ⟨after, text, hafter, hspells, rfl⟩ := hone hitem
    refine ⟨hending, _, .item hbehind (isGap_append hgap hafter) hspells hothers, ?_⟩
    simp only [List.append_assoc]

theorem acceptsWithin (rounding : Rounding) (fuel : Nat) : AcceptsWithin rounding fuel := by
  induction fuel with
  | zero =>
    constructor
    · intro _ _ _ h
      cases h
    · intro _ _ _ _ _ h
      cases h
    · intro _ _ _ _ _ h
      cases h
  | succ fuel ih =>
    constructor
    · intro input rest node h
      have hstep : ValueRead rounding fuel input (node, some rest) := h ▸ valueRead input
      cases hstep with
      | whole hgap hspells hlocal => exact ⟨_, _, hgap, hspells, hlocal, rfl⟩
      | list hgap hitems =>
        obtain ⟨rfl, text, hrow, rfl⟩ := ih.items hitems
        have hspells := Spells.list hrow
        exact ⟨_, _, hgap, hspells, hspells.readsBefore rfl rest, by simp⟩
      | object hgap hfields =>
        obtain ⟨rfl, text, hrow, rfl⟩ := ih.fields hfields
        have hspells := Spells.object hrow
        exact ⟨_, _, hgap, hspells, hspells.readsBefore rfl rest, by simp⟩
    · intro first input rest items ending h
      exact (h ▸ itemsRead first input).row
        (fun h => by
          obtain ⟨gap, text, hgap, hspells, hinput, -⟩ := ih.item h
          exact ⟨gap, text, hgap, hspells, hinput⟩) ih.items
    · intro first input rest fields ending h
      exact (h ▸ fieldsRead first input).row
        (fun h => by
          obtain ⟨gap, text, hgap, hspells, hinput, -⟩ := ih.field h
          exact ⟨gap, text, hgap, hspells, hinput⟩) ih.fields

/-- A text is JSON exactly if a value is read from it to its end, with only blanks behind it. -/
theorem isJson_iff : IsJson text ↔
    ∃ rest ∈ (readValue .stepwise (2 * text.length + 1) text).2, IsGap rest := by
  constructor
  · rintro ⟨node, gap, body, behind, hgap, hspells, hbehind, rfl⟩
    have hlength : body.length ≤ 2 * (gap ++ (body ++ behind)).length + 1 := by
      simp only [List.length_append]
      omega
    rw [(readsWithin .stepwise _).value hgap hspells hlength fun _ => endsNumber_of_isGap hbehind]
    exact ⟨behind, rfl, hbehind⟩
  · rintro ⟨rest, hleft, hrest⟩
    obtain ⟨gap, body, hgap, hspells, -, hinput⟩ :=
      (acceptsWithin .stepwise (2 * text.length + 1)).value (Prod.ext rfl hleft)
    exact ⟨_, gap, body, rest, hgap, hspells, hrest, hinput⟩

end Cartouche.Json
