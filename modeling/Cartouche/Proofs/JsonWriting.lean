import Cartouche.Proofs.JsonReading

/-!
Both layouts of a JSON tree read as the same node, so that they denote the same.
-/
namespace Cartouche.Json
open Decimal

variable {rounding : Rounding}

/-- Trees by their kinds, with the property at hand for all items and for the values of all
fields. -/
theorem inductOn {P : Json → Prop} (null : P .null) (bool : ∀ b, P (.bool b))
    (number : ∀ digits, P (.number digits)) (text : ∀ s, P (.text s))
    (list : ∀ items, (∀ item ∈ items, P item) → P (.list items))
    (object : ∀ fields, (∀ field ∈ fields, P field.2) → P (.object fields)) (j : Json) : P j := by
  refine @Json.rec P (fun items => ∀ item ∈ items, P item)
    (fun fields => ∀ field ∈ fields, P field.2) (fun field => P field.2) null bool number text
    list object ?_ ?_ ?_ ?_ ?_ j
  · simp
  · exact fun item rest hitem hrest => List.forall_mem_cons.mpr ⟨hitem, hrest⟩
  · simp
  · exact fun field rest hfield hrest => List.forall_mem_cons.mpr ⟨hfield, hrest⟩
  · exact fun _ _ hvalue => hvalue

mutual
/-- What a tree says; its numbers say what their texts alone do. -/
def node (rounding : Rounding) : Json → Node
  | .null => .null
  | .bool b => .bool b
  | .number digits => (read rounding digits.toList).1
  | .text s => .text (.ok s)
  | .list items => .list (itemNodes rounding items) none
  | .object fields => .object (fieldNodes rounding fields) none

def itemNodes (rounding : Rounding) : List Json → List Node
  | [] => []
  | item :: rest => item.node rounding :: itemNodes rounding rest

def fieldNodes (rounding : Rounding) : List (String × Json) → List (Except Fault String × Node)
  | [] => []
  | (key, value) :: rest => (.ok key, value.node rounding) :: fieldNodes rounding rest
end

theorem itemNodes_eq_map (items : List Json) :
    itemNodes rounding items = items.map (node rounding) := by
  induction items with
  | nil => rfl
  | cons item rest ih => rw [itemNodes, ih, List.map_cons]

theorem fieldNodes_eq_map (fields : List (String × Json)) :
    fieldNodes rounding fields = fields.map fun field => (.ok field.1, field.2.node rounding) := by
  induction fields with
  | nil => rfl
  | cons field rest ih => rw [fieldNodes, ih, List.map_cons]

/-- The text of every number is JSON. -/
inductive Readable (rounding : Rounding) : Json → Prop
  | null : Readable rounding .null
  | bool (b : Bool) : Readable rounding (.bool b)
  | number {digits : String} {node : Node} (h : Spells rounding digits.toList node) :
      Readable rounding (.number digits)
  | text (s : String) : Readable rounding (.text s)
  | list {items : List Json} (h : ∀ item ∈ items, Readable rounding item) :
      Readable rounding (.list items)
  | object {fields : List (String × Json)} (h : ∀ field ∈ fields, Readable rounding field.2) :
      Readable rounding (.object fields)

theorem node_number {digits : String} {n : Node} (h : Spells rounding digits.toList n) :
    node rounding (.number digits) = n := by
  have hread := read_spelled h isGap_nil
  rw [List.append_nil] at hread
  rw [node, hread]

/-! Each layout is a row of items or fields, with commas between them. -/

theorem compactItems_eq (items : List Json) :
    compactItems items = [','].intercalate (items.map compact) := by
  induction items with
  | nil => rfl
  | cons item rest ih =>
    cases rest with
    | nil => simp [compactItems]
    | cons next rest => simp [compactItems, ih]

theorem compactFields_eq (fields : List (String × Json)) : compactFields fields =
    [','].intercalate (fields.map fun field => quote field.1.toList ++ ':' :: field.2.compact) := by
  induction fields with
  | nil => rfl
  | cons field rest ih =>
    cases rest with
    | nil => simp [compactFields]
    | cons next rest => simp [compactFields, ih]

theorem prettyItems_eq (depth : Nat) (items : List Json) : prettyItems depth items =
    [','].intercalate (items.map fun item => newline depth ++ item.pretty depth) := by
  induction items with
  | nil => rfl
  | cons item rest ih =>
    cases rest with
    | nil => simp [prettyItems]
    | cons next rest => simp [prettyItems, ih]

theorem prettyFields_eq (depth : Nat) (fields : List (String × Json)) : prettyFields depth fields =
    [','].intercalate (fields.map fun field =>
      newline depth ++ (quote field.1.toList ++ ':' :: ' ' :: field.2.pretty depth)) := by
  induction fields with
  | nil => rfl
  | cons field rest ih =>
    cases rest with
    | nil => simp [prettyFields]
    | cons next rest => simp [prettyFields, ih]

/-- Texts that spell their items spell the row of them, with the same blanks in front of each. -/
theorem row_intercalate {α β : Type} (close : Char) {P : List Char → β → Prop}
    {gap behind : List Char} {text : α → List Char} {f : α → β} (hgap : IsGap gap)
    (hbehind : IsGap behind) {items : List α} (h : ∀ item ∈ items, P (text item) (f item))
    (hne : items ≠ []) (first : Bool) :
    Row close P first (opened first [] ++
      ([','].intercalate (items.map fun item => gap ++ text item) ++ behind ++ [close]))
      (items.map f) := by
  induction items generalizing first with
  | nil => exact absurd rfl hne
  | cons item rest ih =>
    obtain ⟨hitem, hrest⟩ := List.forall_mem_cons.mp h
    cases rest with
    | nil => simpa using Row.item isGap_nil hgap hitem (.closed hbehind)
    | cons next rest =>
      have hothers := ih hrest (List.cons_ne_nil _ _) false
      have hrow : Row close P first _ _ := .item isGap_nil hgap hitem hothers
      simpa [opened] using hrow

theorem isGap_newline (depth : Nat) : IsGap (newline depth) := by
  intro c hc
  rcases List.mem_cons.mp hc with rfl | hc
  · decide
  · rw [(List.mem_replicate.mp hc).2]
    decide

theorem isGap_space : IsGap [' '] := by
  simp [IsGap, isSpace]

theorem spells_compact {j : Json} (h : j.Readable rounding) :
    Spells rounding j.compact (j.node rounding) := by
  induction j using inductOn with
  | null => exact .null
  | bool b => exact .bool b
  | number digits =>
    cases h with
    | number h => exact node_number h ▸ h
  | text s => exact .quoted s
  | list items ih =>
    cases h with
    | list h =>
      rw [compact, node, itemNodes_eq_map, compactItems_eq]
      by_cases hne : items = []
      · subst hne
        exact .list (.closed isGap_nil)
      · have hrow := row_intercalate ']' isGap_nil isGap_nil
          (fun item hm => ih item hm (h item hm)) hne true
        exact .list (by simpa [opened] using hrow)
  | object fields ih =>
    cases h with
    | object h =>
      have hfields : ∀ field ∈ fields, SpellsField rounding
          (quote field.1.toList ++ ':' :: field.2.compact)
          (.ok field.1, field.2.node rounding) := by
        intro field hm
        exact .quoted field.1 isGap_nil isGap_nil (ih field hm (h field hm))
      rw [compact, node, fieldNodes_eq_map, compactFields_eq]
      by_cases hne : fields = []
      · subst hne
        exact .object (.closed isGap_nil)
      · have hrow := row_intercalate '\x7d' isGap_nil isGap_nil hfields hne true
        exact .object (by simpa [opened] using hrow)

theorem spells_pretty {j : Json} (h : j.Readable rounding) (depth : Nat) :
    Spells rounding (j.pretty depth) (j.node rounding) := by
  induction j using inductOn generalizing depth with
  | list items ih =>
    cases h with
    | list h =>
      rw [pretty, node, itemNodes_eq_map]
      by_cases hne : items = []
      · subst hne
        exact .list (.closed isGap_nil)
      · have hrow := row_intercalate ']' (isGap_newline (depth + 1))
          (isGap_newline depth) (fun item hm => ih item hm (h item hm) (depth + 1)) hne true
        rw [← prettyItems_eq] at hrow
        simpa [hne, opened] using Spells.list hrow
  | object fields ih =>
    cases h with
    | object h =>
      have hfields : ∀ field ∈ fields, SpellsField rounding
          (quote field.1.toList ++ ':' :: ' ' :: field.2.pretty (depth + 1))
          (.ok field.1, field.2.node rounding) := by
        intro field hm
        exact .quoted field.1 isGap_nil isGap_space (ih field hm (h field hm) (depth + 1))
      rw [pretty, node, fieldNodes_eq_map]
      by_cases hne : fields = []
      · subst hne
        exact .object (.closed isGap_nil)
      · have hrow := row_intercalate '\x7d' (isGap_newline (depth + 1))
          (isGap_newline depth) hfields hne true
        rw [← prettyFields_eq] at hrow
        simpa [hne, opened] using Spells.object hrow
  | _ => exact spells_compact h

/-- One line reads as the tree, -/
theorem read_line {j : Json} (h : j.Readable rounding) :
    read rounding j.line.toList = (j.node rounding, none) := by
  have hread := read_spelled (spells_compact h) isGap_nil
  rw [List.append_nil] at hread
  rw [line, String.toList_ofList, hread]

/-- and so do several, also with blanks behind them. -/
theorem read_lines {j : Json} (h : j.Readable rounding) {gap : String} (hgap : IsGap gap.toList) :
    read rounding (j.lines ++ gap).toList = (j.node rounding, none) := by
  rw [lines, String.toList_append, String.toList_ofList]
  exact read_spelled (spells_pretty h 0) hgap

/-! The texts of all numbers are JSON, null standing for what is not finite. -/

variable {α : Type} [Floating α] {form : Form}

/-- Integers come back as they are while they fit sixty-four bits. -/
theorem spells_ofInt {i : Int} (hi : i.natAbs ≤ 9223372036854775808) :
    Spells rounding (if i < 0 then '-' :: digitsOf i.natAbs else digitsOf i.natAbs)
      (numberNode (.ok (.integer i))) := by
  obtain ⟨numeral, htext, hwhole, hfraction, hexponent⟩ := exists_numeral_digitsOf i.natAbs
  have hread : ∀ negative, integer? negative i.natAbs = some i →
      numeral.read rounding negative = .ok (.integer i) := by
    intro negative hinteger
    simp [Numeral.read, hexponent, hfraction, hwhole, wholeNumber, natOfDigits_digitsOf, hinteger]
  by_cases hneg : i < 0
  · have hinteger : integer? true i.natAbs = some i := by
      rw [integer?, if_pos rfl, if_pos (by omega)]
      exact congrArg some (by omega)
    rw [if_pos hneg, ← htext, ← hread true hinteger]
    exact .negative numeral.isSpelled_text
  · have hinteger : integer? false i.natAbs = some i := by
      rw [integer?, if_neg Bool.false_ne_true, if_pos (by omega)]
      exact congrArg some (by omega)
    rw [if_neg hneg, ← htext, ← hread false hinteger]
    exact .number numeral.isSpelled_text

theorem exists_spells_finite (hform : form.pointZero = true) {x : α} {negative : Bool} {b : Binary}
    (hx : decode x = .finite negative b) :
    ∃ general, Spells rounding (form.write x).toList (numberNode general) := by
  obtain ⟨numeral, htext, -⟩ := exists_numeral_magnitude hform b
  rw [Form.write, hx, String.toList_ofList, Form.decoded]
  split
  · exact ⟨_, htext ▸ Spells.negative numeral.isSpelled_text⟩
  · exact ⟨_, htext ▸ Spells.number numeral.isSpelled_text⟩

theorem readable_write (hform : form.pointZero = true) (hnan : form.nan = "null")
    (hinfinite : ∀ negative, form.infinite negative = "null") (x : α) :
    Readable rounding (.number (form.write x)) := by
  have hnull : ∀ text : List Char, text = "null".toList →
      Readable rounding (.number (.ofList text)) := by
    rintro _ rfl
    exact .number Spells.null
  cases hx : decode x with
  | nan =>
    rw [Form.write, hx]
    exact hnull _ (congrArg String.toList hnan)
  | infinite negative =>
    rw [Form.write, hx]
    exact hnull _ (congrArg String.toList (hinfinite negative))
  | finite negative b =>
    obtain ⟨general, h⟩ := exists_spells_finite hform hx
    exact .number h

theorem readable_ofFloat (x : Float) : (ofFloat x).Readable rounding :=
  readable_write rfl rfl (fun _ => rfl) x

theorem readable_ofFloat32 (x : Float32) : (ofFloat32 x).Readable rounding :=
  readable_write rfl rfl (fun _ => rfl) x

theorem readable_ofNat (n : Nat) : (ofNat n).Readable rounding := by
  obtain ⟨numeral, htext, _⟩ := exists_numeral_digitsOf n
  rw [ofNat]
  apply Readable.number
  rw [String.toList_ofList, ← htext]
  exact .number numeral.isSpelled_text

theorem readable_ofInt {i : Int} (hi : i.natAbs ≤ 9223372036854775808) :
    (ofInt i).Readable rounding := by
  rw [ofInt]
  apply Readable.number
  rw [String.toList_ofList]
  exact spells_ofInt hi

/-- A field that may be left out. -/
theorem readable_optionalField {key : String} {value : Option Json}
    (h : ∀ json ∈ value, Readable rounding json) :
    ∀ field ∈ optionalField key value, field.2.Readable rounding := by
  cases value with
  | none => simp [optionalField]
  | some json => simpa [optionalField] using h json rfl

end Cartouche.Json
