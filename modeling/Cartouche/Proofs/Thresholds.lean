import Cartouche.Proofs.Mappings
import Cartouche.Proofs.NumberOrder

/-!
Threshold mappings. Their breakpoints are finite and stand from the highest to the lowest, in
whatever order they were declared, so that every number has one place among them and gets the style
of the breakpoint there.
-/
namespace Cartouche

/-- The place of a number among values from high to low. -/
inductive IsPlace (values : List Float) (x : Float) (i : Nat) : Prop
  /-- The value there is reached, and the one before it, if there is one, is not. -/
  | reached {v : Float} (here : values[i]? = some v) (reach : v ≤ x)
      (bound : ∀ j u, j + 1 = i → values[j]? = some u → x < u)
  /-- The last place is also for what is below all values. -/
  | belowAll (last : i + 1 = values.length) (below : ∀ u ∈ values, x < u)

/-- Finite values from high to low, where equal ones may follow each other. -/
structure Descending (values : List Float) : Prop where
  finite : ∀ v ∈ values, v.isFinite
  sorted : values.Pairwise fun u v => v ≤ u

/-- The first value that is reached, or else the last one. -/
def place (values : List Float) (x : Float) : Nat :=
  min (values.findIdx (· ≤ x)) (values.length - 1)

section Place
variable {values : List Float} {x : Float} {i : Nat}

theorem Descending.isNaN_eq_false (h : Descending values) {v : Float} (hv : v ∈ values) :
    v.isNaN = false :=
  isNaN_eq_false_of_isFinite (h.finite v hv)

theorem Descending.le_of_lt (h : Descending values) {j k : Nat} {u v : Float} (hjk : j < k)
    (hu : values[j]? = some u) (hv : values[k]? = some v) : v ≤ u := by
  obtain ⟨hj, rfl⟩ := List.getElem?_eq_some_iff.mp hu
  obtain ⟨hk, rfl⟩ := List.getElem?_eq_some_iff.mp hv
  exact List.pairwise_iff_getElem.mp h.sorted j k hj hk hjk

/-- What is below one value is below all before it. -/
theorem Descending.lt_of_lt (h : Descending values) (hx : x.isNaN = false) {j k : Nat}
    {u v : Float} (hjk : j ≤ k) (hu : values[j]? = some u) (hv : values[k]? = some v)
    (hlt : x < v) : x < u := by
  rcases Nat.lt_or_eq_of_le hjk with hjk | rfl
  · have hle := h.le_of_lt hjk hu hv
    have hu := h.isNaN_eq_false (List.mem_of_getElem? hu)
    have hv := h.isNaN_eq_false (List.mem_of_getElem? hv)
    rw [lt_iff_rank_lt hx hu]
    exact lt_of_lt_of_le ((lt_iff_rank_lt hx hv).mp hlt) ((le_iff_rank_le hv hu).mp hle)
  · rw [hu] at hv
    exact Option.some.inj hv ▸ hlt

theorem Descending.findIdx_of_reached (h : Descending values) (hx : x.isNaN = false) {v : Float}
    (hi : values[i]? = some v) (hv : v ≤ x)
    (hbound : ∀ j u, j + 1 = i → values[j]? = some u → x < u) :
    values.findIdx (· ≤ x) = i := by
  obtain ⟨hlen, rfl⟩ := List.getElem?_eq_some_iff.mp hi
  rw [List.findIdx_eq hlen]
  refine ⟨decide_eq_true hv, ?_⟩
  intro j hj
  -- All values before the place are above the one next to it, which is not reached.
  have hprev : x < values[i - 1] :=
    hbound (i - 1) _ (by omega) (List.getElem?_eq_getElem (by omega))
  have hlt : x < values[j] :=
    h.lt_of_lt hx (Nat.le_sub_one_of_lt hj) (List.getElem?_eq_getElem (by omega))
      (List.getElem?_eq_getElem (by omega)) hprev
  have hnan := h.isNaN_eq_false (List.getElem_mem (by omega : j < values.length))
  exact decide_eq_false ((lt_iff_not_le hx hnan).mp hlt)

theorem Descending.eq_place_of_isPlace (h : Descending values) (hx : x.isNaN = false)
    (hi : IsPlace values x i) : i = place values x := by
  cases hi with
  | reached here reach bound =>
    have hlen := (List.getElem?_eq_some_iff.mp here).1
    rw [place, h.findIdx_of_reached hx here reach bound]
    omega
  | belowAll last below =>
    have hnone : values.findIdx (· ≤ x) = values.length := by
      apply List.findIdx_eq_length.mpr
      intro u hu
      exact decide_eq_false ((lt_iff_not_le hx (h.isNaN_eq_false hu)).mp (below u hu))
    rw [place, hnone]
    omega

theorem Descending.isPlace_place (h : Descending values) (hne : values ≠ [])
    (hx : x.isNaN = false) : IsPlace values x (place values x) := by
  have hpos := List.length_pos_iff.mpr hne
  have hlt_of_not_le : ∀ u ∈ values, ¬ u ≤ x → x < u :=
    fun u hu hle => (lt_iff_not_le hx (h.isNaN_eq_false hu)).mpr hle
  rcases Nat.lt_or_eq_of_le (List.findIdx_le_length : values.findIdx (· ≤ x) ≤ values.length) with
    hlt | heq
  · have hplace : place values x = values.findIdx (· ≤ x) := by
      rw [place]
      omega
    rw [hplace]
    refine .reached (List.getElem?_eq_getElem hlt) ?_ ?_
    · exact of_decide_eq_true (List.findIdx_getElem (w := hlt))
    · intro j u hj hu
      obtain ⟨hlen, rfl⟩ := List.getElem?_eq_some_iff.mp hu
      apply hlt_of_not_le _ (List.getElem_mem hlen)
      have hfirst : j < values.findIdx (· ≤ x) := by omega
      simpa using List.not_of_lt_findIdx hfirst
  · have hlast : place values x + 1 = values.length := by
      rw [place]
      omega
    refine .belowAll hlast ?_
    intro u hu
    apply hlt_of_not_le u hu
    simpa using List.findIdx_eq_length.mp heq u hu

/-- Every number has one place among descending values. -/
theorem Descending.isPlace_iff (h : Descending values) (hne : values ≠ []) (hx : x.isNaN = false) :
    IsPlace values x i ↔ i = place values x := by
  constructor
  · exact h.eq_place_of_isPlace hx
  · rintro rfl
    exact h.isPlace_place hne hx

end Place

/-! A sign decides between the two zeros, and between no other numbers. -/

/-- Where a breakpoint stands; equal values stand by their signs. -/
def Breakpoint.key (b : Breakpoint) : Rank ×ₗ Bool :=
  toLex (rank b.value, !(b.value.toBits >>> 63 == 1))

theorem signBit_cases (bits : UInt64) : bits >>> 63 = 0 ∨ bits >>> 63 = 1 := by
  have hlt := bits.toNat_lt
  have hshift : (bits >>> 63).toNat = bits.toNat / 2 ^ 63 := by
    simp [UInt64.toNat_shiftRight, Nat.shiftRight_eq_div_pow]
  rcases Nat.lt_or_ge bits.toNat (2 ^ 63) with h | h
  · left
    apply UInt64.toNat_inj.mp
    rw [hshift, Nat.div_eq_of_lt h]
    rfl
  · right
    apply UInt64.toNat_inj.mp
    rw [hshift]
    change _ = 1
    omega

/-- Among finite breakpoints the order of a mapping is a linear one. -/
theorem Breakpoint.before_eq {a b : Breakpoint} (ha : a.value.isFinite) (hb : b.value.isFinite) :
    a.before b = decide (b.key ≤ a.key) := by
  have ha := isNaN_eq_false_of_isFinite ha
  have hb := isNaN_eq_false_of_isFinite hb
  rw [Bool.eq_iff_iff, decide_eq_true_iff]
  simp only [before, key, Prod.Lex.le_iff, ofLex_toLex, Bool.or_eq_true, Bool.and_eq_true,
    decide_eq_true_eq, lt_iff_rank_lt hb ha, beq_iff_rank_eq ha hb]
  rw [eq_comm (a := rank a.value)]
  rcases signBit_cases a.value.toBits with hsa | hsa <;>
    rcases signBit_cases b.value.toBits with hsb | hsb <;> simp [hsa, hsb]

theorem Breakpoint.key_trans (a b c : Breakpoint) (hab : decide (b.key ≤ a.key) = true)
    (hbc : decide (c.key ≤ b.key) = true) : decide (c.key ≤ a.key) = true :=
  decide_eq_true ((of_decide_eq_true hbc).trans (of_decide_eq_true hab))

theorem Breakpoint.key_total (a b : Breakpoint) :
    (decide (b.key ≤ a.key) || decide (a.key ≤ b.key)) = true := by
  simpa using le_total b.key a.key

theorem Breakpoint.le_of_key_le {a b : Breakpoint} (ha : a.value.isFinite)
    (hb : b.value.isFinite) (h : b.key ≤ a.key) : b.value ≤ a.value := by
  rw [le_iff_rank_le (isNaN_eq_false_of_isFinite hb) (isNaN_eq_false_of_isFinite ha)]
  rcases (Prod.Lex.le_iff).mp h with hlt | ⟨heq, _⟩
  · exact hlt.le
  · exact heq.le

namespace ThresholdMapping

/-- What every mapping by thresholds keeps. -/
structure WellFormed (m : ThresholdMapping) : Prop where
  nonempty : m.breakpoints ≠ []
  descending : Descending (m.breakpoints.map Breakpoint.value)

theorem mergeSort_before {bs : List Breakpoint} (h : ∀ b ∈ bs, b.value.isFinite) :
    bs.mergeSort Breakpoint.before = bs.mergeSort fun a b => decide (b.key ≤ a.key) := by
  have hmap := List.map_mergeSort (f := id) (l := bs) (r := Breakpoint.before)
    (s := fun a b => decide (b.key ≤ a.key))
    (fun a ha b hb => Breakpoint.before_eq (h a ha) (h b hb))
  rwa [List.map_id, List.map_id] at hmap

theorem sorted_mergeSort_before {bs : List Breakpoint} (h : ∀ b ∈ bs, b.value.isFinite) :
    (bs.mergeSort Breakpoint.before).Pairwise fun a b => b.key ≤ a.key := by
  rw [mergeSort_before h]
  exact (List.pairwise_mergeSort Breakpoint.key_trans Breakpoint.key_total bs).imp of_decide_eq_true

theorem descending_mergeSort_before {bs : List Breakpoint} (h : ∀ b ∈ bs, b.value.isFinite) :
    Descending ((bs.mergeSort Breakpoint.before).map Breakpoint.value) := by
  have hmem : ∀ b ∈ bs.mergeSort Breakpoint.before, b.value.isFinite :=
    fun b hb => h b (List.mem_mergeSort.mp hb)
  constructor
  · intro v hv
    obtain ⟨b, hb, rfl⟩ := List.mem_map.mp hv
    exact hmem b hb
  · refine List.pairwise_map.mpr ((sorted_mergeSort_before h).imp_of_mem ?_)
    intro a b ha hb hkey
    exact Breakpoint.le_of_key_le (hmem a ha) (hmem b hb) hkey

theorem wellFormed_of_make {property field : String} {breakpoints : List Breakpoint}
    {m : ThresholdMapping} (h : make property field breakpoints = .ok m) : m.WellFormed := by
  obtain ⟨checked, _, hne, hfinite, rfl⟩ := make_eq_ok_iff.mp h
  refine ⟨?_, descending_mergeSort_before hfinite⟩
  intro hnil
  have hperm := List.mergeSort_perm breakpoints Breakpoint.before
  exact hne (List.nil_perm.mp (hnil ▸ hperm))

/-- The breakpoint whose style a number gets. -/
def chosen? (m : ThresholdMapping) (x : Float) : Option Breakpoint :=
  (m.breakpoints.find? (·.value ≤ x)).or m.breakpoints.getLast?

variable {m : ThresholdMapping} {x : Float} {b : Breakpoint}

theorem resolveNumber_of_chosen? (h : m.chosen? x = some b) : m.resolveNumber x = b.style := by
  unfold chosen? at h
  unfold resolveNumber
  cases hfind : m.breakpoints.find? (·.value ≤ x) with
  | some first =>
    rw [hfind, Option.some_or, Option.some_inj] at h
    rw [h]
  | none =>
    rw [hfind, Option.none_or] at h
    rw [h]
    rfl

theorem WellFormed.exists_chosen? (h : m.WellFormed) (x : Float) : ∃ b, m.chosen? x = some b := by
  rw [← Option.isSome_iff_exists, chosen?, Option.isSome_or, List.getLast?_isSome.mpr h.nonempty,
    Bool.or_true]

/-- The chosen breakpoint stands at the place of the number. -/
theorem WellFormed.chosen?_eq (h : m.WellFormed) (x : Float) :
    m.chosen? x = m.breakpoints[place (m.breakpoints.map Breakpoint.value) x]? := by
  have hpos := List.length_pos_iff.mpr h.nonempty
  have hplace : place (m.breakpoints.map Breakpoint.value) x =
      min (m.breakpoints.findIdx fun b => b.value ≤ x) (m.breakpoints.length - 1) := by
    rw [place, List.findIdx_map, List.length_map]
    rfl
  rw [chosen?, hplace]
  cases hfind : m.breakpoints.find? (·.value ≤ x) with
  | some b =>
    rw [List.find?_eq_getElem?_findIdx] at hfind
    have hlen := (List.getElem?_eq_some_iff.mp hfind).1
    rw [Nat.min_eq_left (by omega), hfind, Option.some_or]
  | none =>
    have hlen : (m.breakpoints.findIdx fun b => b.value ≤ x) = m.breakpoints.length :=
      List.findIdx_eq_length.mpr (by simpa using List.find?_eq_none.mp hfind)
    rw [hlen, Nat.min_eq_right (by omega), Option.none_or, List.getLast?_eq_getElem?]

/-- A number gets the style of the breakpoint at its place. -/
theorem WellFormed.style_at_place (h : m.WellFormed) (x : Float) :
    (m.breakpoints[place (m.breakpoints.map Breakpoint.value) x]?).map Breakpoint.style =
      some (m.resolveNumber x) := by
  obtain ⟨b, hb⟩ := h.exists_chosen? x
  rw [← h.chosen?_eq, hb, resolveNumber_of_chosen? hb, Option.map_some]

end ThresholdMapping

theorem isFinite_of_finiteNumber? {s : String} {x : Float} (h : finiteNumber? s = some x) :
    x.isFinite := by
  unfold finiteNumber? at h
  split at h
  · split at h
    · next hx =>
      cases h
      exact hx
    · cases h
  · cases h

theorem isNaN_toNumber (v : Value) : v.toNumber.isNaN = false := by
  have hzero : (0 : Float).isNaN = false := by decide
  cases v with
  | number n =>
    rw [Value.toNumber]
    cases hn : n.isNaN with
    | false => rwa [if_neg Bool.false_ne_true]
    | true => rwa [if_pos rfl]
  | bool b => cases b <;> decide
  | text s =>
    rw [Value.toNumber]
    cases hs : finiteNumber? s with
    | none => rwa [Option.getD_none]
    | some x => exact isNaN_eq_false_of_isFinite (isFinite_of_finiteNumber? hs)
  | null | list | object => exact hzero

/-- What a mapping makes of a value is always a number. -/
theorem isNaN_inputNumber (value : Option Value) : (inputNumber value).isNaN = false := by
  cases value with
  | none => decide
  | some v => exact isNaN_toNumber v

end Cartouche
