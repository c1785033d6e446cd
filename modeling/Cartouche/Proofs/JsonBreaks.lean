import Cartouche.Proofs.JsonAccepted

/-!
Texts that break off. What stands before the break is a beginning of JSON, and however a text goes
on from there, what is read of it goes on from what was read before the break.
-/
namespace Cartouche.Json
open Decimal

/-- Items before a break, and the items of a row that is the same up to there. A last item of
which nothing stands before the break may be lost. -/
inductive RowCut {α : Type} (Lost : α → Prop) (R : α → α → Prop) :
    List α → Option Break → List α → Prop
  | stopped (place : Break) (others : List α) : RowCut Lost R [] (some place) others
  | lost {item : α} (h : Lost item) (others : List α) : RowCut Lost R [item] none others
  | broken {item other : α} (h : R item other) (others : List α) :
      RowCut Lost R [item] none (other :: others)
  | item {items others : List α} {ending : Option Break} (item : α)
      (h : RowCut Lost R items ending others) :
      RowCut Lost R (item :: items) ending (item :: others)

def Node.IsBroken (node : Node) : Prop :=
  ∃ place, node = .broken place

mutual
/-- A node that breaks off, and one that is the same before the break. -/
inductive Cut : Node → Node → Prop
  | broken (place : Break) (node : Node) : Cut (.broken place) node
  | list {items others : List Node} {ending : Option Break}
      (h : RowCut Node.IsBroken Cut items ending others) (other : Option Break) :
      Cut (.list items ending) (.list others other)
  | object {fields others : List (Except Fault String × Node)} {ending : Option Break}
      (h : RowCut (fun _ => False) CutField fields ending others) (other : Option Break) :
      Cut (.object fields ending) (.object others other)

inductive CutField : Except Fault String × Node → Except Fault String × Node → Prop
  | value (key : Except Fault String) {node other : Node} (h : Cut node other) :
      CutField (key, node) (key, other)
end

variable {rounding : Rounding} {start rest input : List Char} {fuel : Nat}

/-- A text that can be made one of a kind by what is put behind it. -/
def Opens {α : Type} (P : List Char → α → Prop) (start : List Char) : Prop :=
  ∃ more gap text item, IsGap gap ∧ P text item ∧ start ++ more = gap ++ text

theorem StopsAlike.append {more : List Char} (h : StopsAlike rest more) (start : List Char) :
    StopsAlike (start ++ rest) (start ++ more) := by
  cases start with
  | nil => exact h
  | cons c start => exact .inl rfl

/-- A text has a start that opens a value, and however a text goes on behind it and stops alike,
what is read of it goes on from a node. The start is empty only if nothing was read. -/
def ValueBreaks (rounding : Rounding) (input : List Char) (node : Node) : Prop :=
  ∃ start rest, input = start ++ rest ∧ Opens (Spells rounding) start ∧
    (start = [] → node.IsBroken) ∧ ∀ more fuel, StopsAlike rest more → 2 * start.length ≤ fuel →
      Cut node (readValue rounding fuel (start ++ more)).1

theorem valueBreaks_broken (input : List Char) (place : Break) :
    ValueBreaks rounding input (.broken place) := by
  have hopens : Opens (Spells rounding) [] := ⟨"null".toList, [], _, .null, isGap_nil, .null, rfl⟩
  exact ⟨[], input, rfl, hopens, fun _ => ⟨place, rfl⟩, fun _ _ _ _ => .broken place _⟩

section Rows
variable {α : Type}

/-- The same for the items of a row, -/
def RowBreaks (close : Char) (P : List Char → α → Prop) (Lost : α → Prop) (R : α → α → Prop)
    (readAll : Nat → Bool → List Char → List α × Option Break × Option (List Char)) (first : Bool)
    (input : List Char) (items : List α) (ending : Option Break) : Prop :=
  ∃ start rest, input = start ++ rest ∧ (∃ more all, Row close P first (start ++ more) all) ∧
    ∀ more fuel, StopsAlike rest more → 2 * start.length + 1 ≤ fuel →
      RowCut Lost R items ending (readAll fuel first (start ++ more)).1

/-- and for the last of them, behind its separator. -/
def LastBreaks (P : List Char → α → Prop) (Lost : α → Prop) (R : α → α → Prop)
    (readAll : Nat → Bool → List Char → List α × Option Break × Option (List Char))
    (tail : List Char) (item : α) : Prop :=
  ∃ start rest, tail = start ++ rest ∧ Opens P start ∧
    ∀ first behind gap more fuel, IsGap behind → IsGap gap → StopsAlike rest more →
      2 * start.length ≤ fuel → RowCut Lost R [item] none
        (readAll (fuel + 1) first (opened first behind ++ (gap ++ (start ++ more)))).1

variable {close : Char} {P : List Char → α → Prop} {Lost : α → Prop} {R : α → α → Prop}
  {readAll : Nat → Bool → List Char → List α × Option Break × Option (List Char)} {first : Bool}
  {behind gap text tail : List Char} {item : α} {items : List α} {ending : Option Break}

theorem rowBreaks_stopped (input : List Char) (place : Break) :
    RowBreaks close P Lost R readAll first input [] (some place) :=
  ⟨[], input, rfl, ⟨[close], [], .closed isGap_nil⟩, fun _ _ _ _ => .stopped place _⟩

theorem rowBreaks_last (hbehind : IsGap behind) (hgap : IsGap gap)
    (h : LastBreaks P Lost R readAll tail item) : RowBreaks close P Lost R readAll first
      (opened first behind ++ (gap ++ tail)) [item] none := by
  obtain ⟨start, rest, rfl, ⟨more, after, text, whole, hafter, hwhole, heq⟩, hcuts⟩ := h
  refine ⟨opened first behind ++ (gap ++ start), rest, by simp, ⟨more ++ [close], [whole], ?_⟩, ?_⟩
  · have hrow : Row close P first _ _ :=
      .item hbehind (isGap_append hgap hafter) hwhole (.closed isGap_nil)
    have htext : opened first behind ++ (gap ++ start) ++ (more ++ [close]) =
        opened first behind ++ (gap ++ (start ++ more ++ [close])) := by simp
    rw [htext, heq]
    simpa using hrow
  · intro more fuel halike hfuel
    simp only [List.length_append] at hfuel
    obtain ⟨fuel, rfl⟩ := Nat.exists_eq_add_one.mpr (show 0 < fuel by omega)
    rw [List.append_assoc, List.append_assoc]
    exact hcuts first behind gap more fuel hbehind hgap halike (by omega)

theorem rowBreaks_next (hbehind : IsGap behind) (hgap : IsGap gap) (hne : text ≠ [])
    (hitem : P text item) (hnext : NextBefore readAll text item tail)
    (h : RowBreaks close P Lost R readAll false tail items ending) :
    RowBreaks close P Lost R readAll first (opened first behind ++ (gap ++ (text ++ tail)))
      (item :: items) ending := by
  obtain ⟨start, rest, rfl, ⟨more, all, hrow⟩, hcuts⟩ := h
  have hassoc : ∀ more, opened first behind ++ (gap ++ (text ++ start)) ++ more =
      opened first behind ++ (gap ++ (text ++ (start ++ more))) := by simp
  refine ⟨opened first behind ++ (gap ++ (text ++ start)), rest, by simp,
    ⟨more, item :: all, ?_⟩, ?_⟩
  · rw [hassoc]
    exact .item hbehind hgap hitem hrow
  · intro more fuel halike hfuel
    have hpos := List.length_pos_iff.mpr hne
    simp only [List.length_append] at hfuel
    obtain ⟨fuel, rfl⟩ := Nat.exists_eq_add_one.mpr (show 0 < fuel by omega)
    rw [hassoc, hnext first behind gap (start ++ more) fuel hbehind hgap (halike.append start)
      (by omega)]
    exact .item item (hcuts more fuel halike (by omega))

/-- A row breaks off where one of its items does, or where a separator is missing. -/
theorem RowRead.breaks {One : List Char → α → Option (List Char) → Prop}
    (h : RowRead close One (readAll fuel false) first input (items, ending, none))
    (hpos : ∀ {text item}, P text item → text ≠ [])
    (hnext : ∀ {tail item rest}, One tail item (some rest) → ∃ gap text, IsGap gap ∧
      P text item ∧ tail = gap ++ (text ++ rest) ∧ NextBefore readAll text item rest)
    (hlast : ∀ {tail item}, One tail item none → LastBreaks P Lost R readAll tail item)
    (hmore : ∀ {input items ending}, readAll fuel false input = (items, ending, none) →
      RowBreaks close P Lost R readAll false input items ending) :
    RowBreaks close P Lost R readAll first input items ending := by
  cases h with
  | stopped _ place => exact rowBreaks_stopped input place
  | broken hbehind hgap hitem => exact rowBreaks_last hbehind hgap (hlast hitem)
  | @item behind gap _ _ _ _ _ _ hbehind hgap hitem hrest =>
    obtain ⟨after, text, hafter, hspells, rfl, hnext⟩ := hnext hitem
    have hbreaks : RowBreaks close P Lost R readAll first _ _ _ := rowBreaks_next hbehind
      (isGap_append hgap hafter) (hpos hspells) hspells hnext (hmore hrest)
    rwa [List.append_assoc] at hbreaks

end Rows

/-- With this much fuel, every text that breaks off has a beginning of JSON before the break, from
which on whatever is read goes on from what was read. -/
structure BreaksWithin (rounding : Rounding) (fuel : Nat) : Prop where
  value {input : List Char} {node : Node} (h : readValue rounding fuel input = (node, none)) :
    ValueBreaks rounding input node
  items {first : Bool} {input : List Char} {items : List Node} {ending : Option Break}
    (h : readItems rounding fuel first input = (items, ending, none)) :
    RowBreaks ']' (Spells rounding) Node.IsBroken Cut (readItems rounding) first input items ending
  fields {first : Bool} {input : List Char} {fields : List (Except Fault String × Node)}
    {ending : Option Break} (h : readFields rounding fuel first input = (fields, ending, none)) :
    RowBreaks '\x7d' (SpellsField rounding) (fun _ => False) CutField (readFields rounding) first
      input fields ending

theorem BreaksWithin.lastItem (ih : BreaksWithin rounding fuel) {tail : List Char} {node : Node}
    (h : ItemRead rounding fuel tail node none) :
    LastBreaks (Spells rounding) Node.IsBroken Cut (readItems rounding) tail node := by
  obtain ⟨hread, c, behind, rfl, hc, hclose⟩ := h
  obtain ⟨start, rest, htail, hopens, hbroken, hcuts⟩ := ih.value hread
  refine ⟨start, rest, htail, hopens, ?_⟩
  intro first behind gap more fuel hbehind hgap halike hfuel
  have hcut := hcuts more fuel halike hfuel
  cases start with
  | nil =>
    -- Nothing of the item stands before the break, so that the row may even end there.
    exact .lost (hbroken rfl) _
  | cons d start =>
    obtain rfl : c = d := (List.cons.inj htail).1
    rw [List.cons_append] at hcut ⊢
    rw [readItems, listSeparator_opened hbehind hgap hc hclose]
    dsimp only
    rcases hvalue : readValue rounding fuel (c :: (start ++ more)) with ⟨other, left⟩
    rw [hvalue] at hcut
    cases left with
    | none => exact .broken hcut []
    | some rest => exact .broken hcut _

theorem BreaksWithin.lastField (ih : BreaksWithin rounding fuel) {tail : List Char}
    {field : Except Fault String × Node} (h : FieldRead rounding fuel tail field none) :
    LastBreaks (SpellsField rounding) (fun _ => False) CutField (readFields rounding) tail
      field := by
  cases h with
  | @keyOnly key pieces hkey tail place =>
    -- The key belongs to the start: a reader may refuse it without a look at its value.
    refine ⟨'"' :: key, tail, rfl, ?_, ?_⟩
    · exact ⟨':' :: "null".toList, [], _, _, isGap_nil, .field hkey isGap_nil isGap_nil .null, rfl⟩
    · intro first behind gap more fuel hbehind hgap halike hfuel
      rw [List.cons_append, readFields, fieldSeparator_opened hbehind hgap]
      dsimp only
      rw [readText_quoted hkey]
      dsimp only
      split
      · exact .broken (.value _ (.broken place _)) _
      · next tail _ =>
        rcases readValue rounding fuel tail with ⟨other, left⟩
        cases left with
        | none => exact .broken (.value _ (.broken place other)) _
        | some rest => exact .broken (.value _ (.broken place other)) _
      · exact .broken (.value _ (.broken place _)) _
  | @value key before tail pieces node _ hkey hbefore hread =>
    obtain ⟨start, rest, rfl, hopens, -, hcuts⟩ := ih.value hread
    refine ⟨'"' :: (key ++ (before ++ ':' :: start)), rest, by simp, ?_, ?_⟩
    · obtain ⟨more, after, text, whole, hafter, hwhole, heq⟩ := hopens
      refine ⟨more, [], _, _, isGap_nil, .field hkey hbefore hafter hwhole, ?_⟩
      simp [← heq]
    · intro first behind gap more fuel hbehind hgap halike hfuel
      have hlength : 2 * start.length ≤ fuel := by
        simp only [List.length_append, List.length_cons] at hfuel
        omega
      have hcut := hcuts more fuel halike hlength
      simp only [List.cons_append, List.append_assoc]
      rw [readFields, fieldSeparator_opened hbehind hgap]
      dsimp only
      rw [readText_quoted hkey]
      dsimp only
      rw [skipSpace_gap hbefore rfl]
      rcases hvalue : readValue rounding fuel (start ++ more) with ⟨other, left⟩
      rw [hvalue] at hcut
      simp only [hvalue]
      cases left with
      | none => exact .broken (.value _ hcut) _
      | some rest => exact .broken (.value _ hcut) _

theorem BreaksWithin.next (ih : BreaksWithin rounding fuel) {node : Node}
    (h : readValue rounding (fuel + 1) input = (node, none)) : ValueBreaks rounding input node := by
  have hstep : ValueRead rounding fuel input (node, none) := h ▸ valueRead input
  cases hstep with
  | broken => exact valueBreaks_broken _ _
  | @list gap tail items ending _ hgap hitems =>
    obtain ⟨start, rest, rfl, ⟨more, all, hrow⟩, hcuts⟩ := ih.items hitems
    refine ⟨gap ++ '[' :: start, rest, by simp, ?_, by simp, ?_⟩
    · exact ⟨more, gap, _, _, hgap, .list hrow, by simp⟩
    · intro more fuel halike hfuel
      simp only [List.length_append, List.length_cons] at hfuel
      obtain ⟨fuel, rfl⟩ := Nat.exists_eq_add_one.mpr (show 0 < fuel by omega)
      rw [List.append_assoc, List.cons_append, readValue_step hgap rfl, readValue_list]
      exact .list (hcuts more fuel halike (by omega)) _
  | @object gap tail fields ending _ hgap hfields =>
    obtain ⟨start, rest, rfl, ⟨more, all, hrow⟩, hcuts⟩ := ih.fields hfields
    refine ⟨gap ++ '\x7b' :: start, rest, by simp, ?_, by simp, ?_⟩
    · exact ⟨more, gap, _, _, hgap, .object hrow, by simp⟩
    · intro more fuel halike hfuel
      simp only [List.length_append, List.length_cons] at hfuel
      obtain ⟨fuel, rfl⟩ := Nat.exists_eq_add_one.mpr (show 0 < fuel by omega)
      rw [List.append_assoc, List.cons_append, readValue_step hgap rfl, readValue_object]
      exact .object (hcuts more fuel halike (by omega)) _

theorem breaksWithin (rounding : Rounding) (fuel : Nat) : BreaksWithin rounding fuel := by
  induction fuel with
  | zero =>
    constructor
    · intro input node h
      cases h
      exact valueBreaks_broken _ _
    · intro first input items ending h
      cases h
      exact rowBreaks_stopped _ _
    · intro first input fields ending h
      cases h
      exact rowBreaks_stopped _ _
  | succ fuel ih =>
    have haccepts := acceptsWithin rounding fuel
    constructor
    · exact ih.next
    · intro first input items ending h
      exact (h ▸ itemsRead first input).breaks (fun h => h.ne_nil) haccepts.item ih.lastItem
        ih.items
    · intro first input fields ending h
      exact (h ▸ fieldsRead first input).breaks (fun h => h.ne_nil) haccepts.field ih.lastField
        ih.fields

end Cartouche.Json
