import Cartouche.Data.Reading
import Cartouche.Proofs.JsonWriting
import Cartouche.Proofs.WholeNumbers

/-!
Data written as JSON and read again. Whole numbers are written as integers and come back without
rounding. Any other number comes back if its decimals do, which the theorem asks of every number in
the tree. Zero comes back without its sign, since the integer that it is written as has none.
-/
namespace Cartouche
open Decimal Json
open Float.Model (UnpackedFloat)

/-- A number that its JSON text shows as an integer. -/
def IsWhole (n : Float) : Prop :=
  ∃ i, (decode n).toInt? = some i ∧ i.natAbs ≤ greatestExactInteger

/-- A number whose JSON text, with a point or a power of ten, reads as that number. -/
def JsonReadsBack (n : Float) : Prop :=
  (Reader.real.parse (form64.write n)).toOption = some n

instance (n : Float) : Decidable (JsonReadsBack n) :=
  inferInstanceAs (Decidable (_ = _))

/-- The number, with zero not told from its opposite. -/
def positiveZero (n : Float) : Float :=
  if n == 0 then 0 else n

/-- What is asked of a number: where no integer shows it, its text does. -/
structure Recoverable (n : Float) : Prop where
  finite : n.isFinite
  readsBack : ¬ IsWhole n → JsonReadsBack n

variable {n : Float}

/-- Finite numbers are told by their bits, too. -/
theorem exists_decode_eq_finite (h : n.isFinite) : ∃ negative b, decode n = .finite negative b := by
  have hreads := reads n
  have h : n.toModel.unpack.isFinite = true := h
  generalize n.toModel.unpack = u at hreads h
  generalize decode n = d at hreads ⊢
  cases hreads with
  | infinite _ _ => cases h
  | nan _ _ => cases h
  | _ => exact ⟨_, _, rfl⟩

theorem numberJson_of_not_isWhole (h : ¬ IsWhole n) : numberJson n = .ofFloat n := by
  unfold numberJson
  split
  · next i hi => exact if_neg fun hle => h ⟨i, hi, hle⟩
  · rfl

theorem isWhole_of_isZero (h : IsZero n) : IsWhole n := by
  obtain ⟨negative, b, hd, hb⟩ := isZero_iff_decode.mp h
  have hint : b.isIntegral := by
    unfold Binary.isIntegral Binary.quotient
    split <;> simp [hb]
  refine ⟨_, by rw [hd, Decoded.toInt?, if_pos hint], ?_⟩
  rw [(truncated_eq_zero_iff hint).mpr hb]
  cases negative <;> decide

theorem beq_zero_eq_false (h : ¬ IsWhole n) : (n == 0) = false := by
  rw [Bool.eq_false_iff]
  exact fun hzero => h (isWhole_of_isZero ((beq_zero_iff n).mp hzero))

/-- A number comes back from its JSON, without the sign if it is zero. -/
theorem exists_spells_numberJson (hfinite : n.isFinite) (h : ¬ IsWhole n → JsonReadsBack n) :
    ∃ digits k, numberJson n = .number digits ∧
      Spells .stepwise digits.toList (numberNode (.ok k)) ∧ k.toFloat = positiveZero n := by
  by_cases hwhole : IsWhole n
  · obtain ⟨i, hi, hle⟩ := hwhole
    have hjson : numberJson n = .ofInt i := by simp [numberJson, hi, hle]
    refine ⟨_, .integer i, hjson, ?_, toFloat_of_toInt? hi hle⟩
    rw [String.toList_ofList]
    exact spells_ofInt (Nat.le_trans hle (by decide))
  · obtain ⟨negative, b, hd⟩ := exists_decode_eq_finite hfinite
    obtain ⟨general, hspells⟩ : ∃ general,
        Spells .stepwise (form64.write n).toList (numberNode general) :=
      exists_spells_finite rfl hd
    have hread := read_spelled hspells isGap_nil
    rw [List.append_nil] at hread
    have hback := h hwhole
    unfold JsonReadsBack Reader.parse at hback
    rw [hread] at hback
    have hreal : (general.map Number.toFloat).toOption = some n := by
      cases general <;> exact hback
    cases general with
    | error fault => cases hreal
    | ok k =>
      refine ⟨_, k, numberJson_of_not_isWhole hwhole, hspells, ?_⟩
      rw [positiveZero, beq_zero_eq_false hwhole, if_neg Bool.false_ne_true]
      exact Option.some.inj hreal

/-! Trees. -/

namespace Value

mutual
/-- The same tree with other numbers. -/
def mapNumbers (f : Float → Float) : Value → Value
  | .number n => .number (f n)
  | .list items => .list (itemsMapNumbers f items)
  | .object fields => .object (fieldsMapNumbers f fields)
  | v => v

def itemsMapNumbers (f : Float → Float) : List Value → List Value
  | [] => []
  | item :: rest => item.mapNumbers f :: itemsMapNumbers f rest

def fieldsMapNumbers (f : Float → Float) : List (String × Value) → List (String × Value)
  | [] => []
  | (key, value) :: rest => (key, value.mapNumbers f) :: fieldsMapNumbers f rest
end

/-- Trees of at most so many levels, in which no object has a key twice. -/
inductive Within (P : Float → Prop) : Nat → Value → Prop
  | null (levels : Nat) : Within P levels .null
  | bool (levels : Nat) (b : Bool) : Within P levels (.bool b)
  | number (levels : Nat) {n : Float} (h : P n) : Within P levels (.number n)
  | text (levels : Nat) (s : String) : Within P levels (.text s)
  | list {levels : Nat} {items : List Value} (h : ∀ item ∈ items, Within P levels item) :
      Within P (levels + 1) (.list items)
  | object {levels : Nat} {fields : List (String × Value)} (hkeys : (Table.keys fields).Nodup)
      (h : ∀ field ∈ fields, Within P levels field.2) : Within P (levels + 1) (.object fields)

theorem itemsJson_eq_map (items : List Value) : itemsJson items = items.map toJson := by
  induction items with
  | nil => rfl
  | cons item rest ih => rw [itemsJson, ih, List.map_cons]

theorem fieldsJson_eq_map (fields : List (String × Value)) :
    fieldsJson fields = fields.map fun field => (field.1, field.2.toJson) := by
  induction fields with
  | nil => rfl
  | cons field rest ih => rw [fieldsJson, ih, List.map_cons]

theorem itemsMapNumbers_eq_map (f : Float → Float) (items : List Value) :
    itemsMapNumbers f items = items.map (mapNumbers f) := by
  induction items with
  | nil => rfl
  | cons item rest ih => rw [itemsMapNumbers, ih, List.map_cons]

theorem fieldsMapNumbers_eq_map (f : Float → Float) (fields : List (String × Value)) :
    fieldsMapNumbers f fields = fields.map fun field => (field.1, field.2.mapNumbers f) := by
  induction fields with
  | nil => rfl
  | cons field rest ih => rw [fieldsMapNumbers, ih, List.map_cons]

theorem ofNodes_eq_map (nodes : List Node) : ofNodes nodes = nodes.map ofNode := by
  induction nodes with
  | nil => rfl
  | cons node rest ih => rw [ofNodes, ih, List.map_cons]

theorem ofFields_ok (fields : List (String × Node)) :
    ofFields (fields.map fun field => (.ok field.1, field.2)) =
      fields.map fun field => (field.1, ofNode field.2) := by
  induction fields with
  | nil => rfl
  | cons field rest ih => rw [List.map_cons, ofFields, ih, List.map_cons]

variable {v : Value} {levels : Nat}

theorem readable_toJson (h : v.Within Recoverable levels) : v.toJson.Readable .stepwise := by
  induction h with
  | null => exact .null
  | bool _ b => exact .bool b
  | number _ h =>
    obtain ⟨digits, k, hjson, hspells, _⟩ := exists_spells_numberJson h.finite h.readsBack
    rw [toJson, hjson]
    exact .number hspells
  | text _ s => exact .text s
  | list _ ih =>
    rw [toJson, itemsJson_eq_map]
    exact .list (List.forall_mem_map.mpr ih)
  | object _ _ ih =>
    rw [toJson, fieldsJson_eq_map]
    exact .object (List.forall_mem_map.mpr ih)

/-- What is written says the tree again. -/
theorem ofNode_toJson (h : v.Within Recoverable levels) :
    ofNode (v.toJson.node .stepwise) = v.mapNumbers positiveZero := by
  induction h with
  | null => rfl
  | bool => rfl
  | number _ h =>
    obtain ⟨digits, k, hjson, hspells, hk⟩ := exists_spells_numberJson h.finite h.readsBack
    rw [toJson, hjson, node_number hspells]
    exact congrArg Value.number hk
  | text => rfl
  | @list _ items _ ih =>
    rw [toJson, itemsJson_eq_map, node, itemNodes_eq_map, ofNode, ofNodes_eq_map, mapNumbers,
      itemsMapNumbers_eq_map, List.map_map, List.map_map]
    exact congrArg Value.list (List.map_congr_left ih)
  | @object _ fields hkeys _ ih =>
    rw [toJson, fieldsJson_eq_map, node, fieldNodes_eq_map, ofNode, mapNumbers,
      fieldsMapNumbers_eq_map, List.map_map]
    have hfields : ofFields (fields.map fun field => (.ok field.1, field.2.toJson.node .stepwise)) =
        fields.map fun field => (field.1, field.2.mapNumbers positiveZero) := by
      have hok := ofFields_ok (fields.map fun field => (field.1, field.2.toJson.node .stepwise))
      rw [List.map_map, List.map_map] at hok
      exact hok.trans (List.map_congr_left fun field hm => congrArg (field.1, ·) (ih field hm))
    have hnodup : (Table.keys (fields.map fun field =>
        (field.1, field.2.mapNumbers positiveZero))).Nodup := by
      rw [Table.keys, List.map_map]
      exact hkeys
    exact congrArg Value.object
      ((congrArg Table.ofList hfields).trans (Table.ofList_of_nodup hnodup))

/-- One level further down there is one level less left, if levels are counted at all. -/
theorem exists_enter {s : Site} (hs : levels + 1 < s.depth) :
    ∃ inner, s.enter = .ok inner ∧ levels < inner.depth := by
  unfold Site.enter
  split
  · rw [if_neg (by omega)]
    exact ⟨_, rfl, by dsimp only; omega⟩
  · exact ⟨s, rfl, by omega⟩

theorem checkItems_eq_ok {s : Site} {nodes : List Node}
    (h : ∀ node ∈ nodes, node.check s = .ok ()) : checkItems s nodes = .ok () := by
  induction nodes with
  | nil => rfl
  | cons node rest ih =>
    obtain ⟨hnode, hrest⟩ := List.forall_mem_cons.mp h
    rw [checkItems, hnode, ok_bind]
    exact ih hrest

theorem checkFields_eq_ok {s : Site} {fields : List (String × Node)}
    (h : ∀ field ∈ fields, field.2.check s = .ok ()) :
    checkFields s (fields.map fun field => (.ok field.1, field.2)) = .ok () := by
  induction fields with
  | nil => rfl
  | cons field rest ih =>
    obtain ⟨hfield, hrest⟩ := List.forall_mem_cons.mp h
    rw [List.map_cons, checkFields, ok_bind, hfield, ok_bind]
    exact ih hrest

/-- Each level of the tree takes one of the reader's. -/
theorem check_toJson (h : v.Within Recoverable levels) {s : Site} (hs : levels < s.depth) :
    (v.toJson.node .stepwise).check s = .ok () := by
  induction h generalizing s with
  | null => rfl
  | bool => rfl
  | number _ h =>
    obtain ⟨digits, k, hjson, hspells, hk⟩ := exists_spells_numberJson h.finite h.readsBack
    rw [toJson, hjson, node_number hspells]
    rfl
  | text => rfl
  | @list _ items _ ih =>
    obtain ⟨inner, henter, hinner⟩ := exists_enter hs
    have hitems : checkItems inner (items.map fun item => item.toJson.node .stepwise) = .ok () :=
      checkItems_eq_ok (List.forall_mem_map.mpr fun item hm => ih item hm hinner)
    rw [toJson, itemsJson_eq_map, node, itemNodes_eq_map, List.map_map, Node.check, henter, ok_bind]
    exact bind_eq_ok_iff.mpr ⟨(), hitems, rfl⟩
  | @object _ fields _ _ ih =>
    obtain ⟨inner, henter, hinner⟩ := exists_enter hs
    have hfields : checkFields inner
        (fields.map fun field => (.ok field.1, field.2.toJson.node .stepwise)) = .ok () := by
      have hall : ∀ field ∈ fields.map fun field => (field.1, field.2.toJson.node .stepwise),
          field.2.check inner = .ok () :=
        List.forall_mem_map.mpr fun field hm => ih field hm hinner
      have hchecked := checkFields_eq_ok hall
      rwa [List.map_map] at hchecked
    rw [toJson, fieldsJson_eq_map, node, fieldNodes_eq_map, List.map_map, Node.check, henter,
      ok_bind]
    exact bind_eq_ok_iff.mpr ⟨(), hfields, rfl⟩

/-- A tree comes back from its JSON as it was written, except that zero has lost its sign: the same
texts, the same items and fields in the same order, the same numbers. -/
theorem parse_toJson_line (v : Value) (h : v.Within Recoverable levels)
    (hlevels : levels < (Site.top .json).depth) :
    parse v.toJson.line = .ok (v.mapNumbers positiveZero) := by
  have hread := read_line (readable_toJson h)
  have hkeep : Reader.keep (.top .json) (v.toJson.node .stepwise) =
      .ok { Site.top .json with kept := true } := by
    rw [Reader.keep, check_toJson h hlevels]
    rfl
  rw [parse, Reader.parse, hread]
  dsimp only
  rw [Reader.run, reader, hkeep, ok_bind, ofNode_toJson h]
  rfl

/-- A parcel with values of all kinds, and marks in its note that are escaped. -/
def parcel (weights : List Float) : Value :=
  .object [("note", .text "\"a\\b\"\n\x01"), ("weights", .list (weights.map .number)),
    ("fragile", .bool true), ("", .list []), ("sender", .null)]

theorem parcel_comes_back :
    parse (parcel [-0.0, 3, 0.5, 1e20]).toJson.line = .ok (parcel [0, 3, 0.5, 1e20]) := by
  have hfinite : ∀ n ∈ ([-0.0, 3, 0.5, 1e20] : List Float), n.isFinite := by decide +kernel
  have hback : ∀ n ∈ ([-0.0, 3, 0.5, 1e20] : List Float), JsonReadsBack n := by decide +kernel
  have hweights : ∀ item ∈ ([-0.0, 3, 0.5, 1e20] : List Float).map Value.number,
      Within Recoverable 0 item :=
    List.forall_mem_map.mpr fun n hn => .number 0 ⟨hfinite n hn, fun _ => hback n hn⟩
  have hwithin : (parcel [-0.0, 3, 0.5, 1e20]).Within Recoverable 2 := by
    refine .object (by decide) ?_
    simp only [List.forall_mem_cons]
    exact ⟨.text 1 _, .list hweights, .bool 1 true, .list (by simp), .null 1, by simp⟩
  have hunsigned : ([-0.0, 3, 0.5, 1e20] : List Float).map positiveZero = [0, 3, 0.5, 1e20] := by
    decide +kernel
  rw [parse_toJson_line _ hwithin (by decide), ← hunsigned]
  rfl

end Value

end Cartouche
