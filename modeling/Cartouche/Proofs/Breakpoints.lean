import Cartouche.Proofs.Thresholds
import Mathlib.Data.List.Nodup

/-!
Breakpoints in order. A mapping by thresholds holds its breakpoints from the highest to the lowest,
those with one value in their declared order; each number gets the style of one with the highest
value that it reaches, and a greater number never that of a lower one. Where all values differ, the
order in which they are declared makes no difference.
-/
namespace Cartouche

/-- Declared breakpoints as a mapping holds them. -/
structure Arranged (declared stored : List Breakpoint) : Prop where
  perm : stored.Perm declared
  descending : stored.Pairwise fun a b => b.value ≤ a.value
  /-- Of identical values the first declared comes first. -/
  stable : ∀ value : Float,
    stored.filter (fun b => b.value = value) = declared.filter (fun b => b.value = value)
  /-- The zero without a sign comes before the other. -/
  zeros : stored.Pairwise fun a b => ¬ (a.value = -0 ∧ b.value = 0)

/-- One of the breakpoints with the highest value that a number reaches, or with the lowest of all
when it reaches none. -/
inductive IsChoice (breakpoints : List Breakpoint) (x : Float) (b : Breakpoint) : Prop
  | reached (mem : b ∈ breakpoints) (reach : b.value ≤ x)
      (highest : ∀ c ∈ breakpoints, c.value ≤ x → c.value ≤ b.value)
  | belowAll (mem : b ∈ breakpoints) (below : ∀ c ∈ breakpoints, x < c.value)
      (lowest : ∀ c ∈ breakpoints, b.value ≤ c.value)

section Order
variable {x y z : Float}

theorem le_self (hx : x.isNaN = false) : x ≤ x :=
  (le_iff_rank_le hx hx).mpr le_rfl

theorem le_of_le_of_le (hx : x.isNaN = false) (hy : y.isNaN = false) (hz : z.isNaN = false)
    (hxy : x ≤ y) (hyz : y ≤ z) : x ≤ z :=
  (le_iff_rank_le hx hz).mpr (((le_iff_rank_le hx hy).mp hxy).trans ((le_iff_rank_le hy hz).mp hyz))

end Order

/-! Sorting. -/

/-- Members that are tied keep their order. -/
theorem filter_mergeSort {α : Type} {le : α → α → Bool} {p : α → Bool} {xs : List α}
    (trans : ∀ a b c, le a b = true → le b c = true → le a c = true)
    (total : ∀ a b, (le a b || le b a) = true)
    (tied : ∀ a ∈ xs, ∀ b ∈ xs, p a = true → p b = true → le a b = true) :
    (xs.mergeSort le).filter p = xs.filter p := by
  have hsorted : (xs.filter p).Pairwise fun a b => le a b = true := by
    refine List.pairwise_of_forall_mem_list ?_
    intro a ha b hb
    obtain ⟨ha, hpa⟩ := List.mem_filter.mp ha
    obtain ⟨hb, hpb⟩ := List.mem_filter.mp hb
    exact tied a ha b hb hpa hpb
  have hsub : (xs.filter p).Sublist ((xs.mergeSort le).filter p) := by
    have h := (List.sublist_mergeSort trans total hsorted List.filter_sublist).filter p
    simpa only [List.filter_filter, Bool.and_self] using h
  have hperm := (List.mergeSort_perm xs le).filter p
  exact (hsub.eq_of_length hperm.length_eq.symm).symm

namespace ThresholdMapping
variable {bs other : List Breakpoint}

theorem filter_mergeSort_before (h : ∀ b ∈ bs, b.value.isFinite) (value : Float) :
    (bs.mergeSort Breakpoint.before).filter (fun b => b.value = value) =
      bs.filter (fun b => b.value = value) := by
  rw [mergeSort_before h]
  apply filter_mergeSort Breakpoint.key_trans Breakpoint.key_total
  intro a _ b _ ha hb
  simp only [decide_eq_true_eq] at *
  rw [Breakpoint.key, Breakpoint.key, ha, hb]

/-- A zero with a sign never stands before one without. -/
theorem zeros_mergeSort_before (h : ∀ b ∈ bs, b.value.isFinite) :
    (bs.mergeSort Breakpoint.before).Pairwise fun a b => ¬ (a.value = -0 ∧ b.value = 0) := by
  have hmem : ∀ b ∈ bs.mergeSort Breakpoint.before, b.value.isFinite :=
    fun b hb => h b (List.mem_mergeSort.mp hb)
  refine (sorted_mergeSort_before h).imp_of_mem ?_
  rintro a b ha hb hkey ⟨hneg, hzero⟩
  have hbefore : a.before b = true := by
    rw [Breakpoint.before_eq (hmem a ha) (hmem b hb)]
    exact decide_eq_true hkey
  rw [Breakpoint.before, hneg, hzero] at hbefore
  exact absurd hbefore (by decide)

theorem arranged_mergeSort_before (h : ∀ b ∈ bs, b.value.isFinite) :
    Arranged bs (bs.mergeSort Breakpoint.before) where
  perm := List.mergeSort_perm bs _
  descending := List.pairwise_map.mp (descending_mergeSort_before h).sorted
  stable := filter_mergeSort_before h
  zeros := zeros_mergeSort_before h

/-- Breakpoints whose values differ as numbers have places of their own. -/
theorem nodup_rank (h : ∀ b ∈ bs, b.value.isFinite)
    (hne : bs.Pairwise fun a b => (a.value == b.value) = false) :
    (bs.map fun b => rank b.value).Nodup := by
  refine List.pairwise_map.mpr (hne.imp_of_mem ?_)
  intro a b ha hb hab hrank
  have ha := isNaN_eq_false_of_isFinite (h a ha)
  have hb := isNaN_eq_false_of_isFinite (h b hb)
  rw [(beq_iff_rank_eq ha hb).mpr hrank] at hab
  cases hab

/-- Such breakpoints have one order only. -/
theorem mergeSort_before_eq_of_perm (hperm : other.Perm bs) (h : ∀ b ∈ bs, b.value.isFinite)
    (hne : bs.Pairwise fun a b => (a.value == b.value) = false) :
    other.mergeSort Breakpoint.before = bs.mergeSort Breakpoint.before := by
  have hother : ∀ b ∈ other, b.value.isFinite := fun b hb => h b (hperm.mem_iff.mp hb)
  refine List.Perm.eq_of_pairwise ?_ (sorted_mergeSort_before hother) (sorted_mergeSort_before h)
    (((List.mergeSort_perm other _).trans hperm).trans (List.mergeSort_perm bs _).symm)
  intro a b ha hb hba hab
  have ha := hperm.mem_iff.mp (List.mem_mergeSort.mp ha)
  have hb := List.mem_mergeSort.mp hb
  have hkey : a.key = b.key := le_antisymm hab hba
  have hrank : rank a.value = rank b.value := congrArg (fun key => (ofLex key).1) hkey
  exact List.inj_on_of_nodup_map (nodup_rank h hne) ha hb hrank

theorem make_eq_of_perm {property field : String} {m : ThresholdMapping}
    (h : make property field bs = .ok m) (hperm : other.Perm bs)
    (hne : bs.Pairwise fun a b => (a.value == b.value) = false) :
    make property field other = .ok m := by
  obtain ⟨checked, hfield, hnil, hfinite, rfl⟩ := make_eq_ok_iff.mp h
  refine make_eq_ok_iff.mpr ⟨checked, hfield, ?_, ?_, ?_⟩
  · rintro rfl
    exact hnil (List.nil_perm.mp hperm)
  · exact fun b hb => hfinite b (hperm.mem_iff.mp hb)
  · rw [mergeSort_before_eq_of_perm hperm hfinite hne]

/-! Choosing. -/

variable {m : ThresholdMapping} {x y : Float} {b c : Breakpoint}

namespace WellFormed

theorem isNaN_eq_false (h : m.WellFormed) (hb : b ∈ m.breakpoints) : b.value.isNaN = false :=
  h.descending.isNaN_eq_false (List.mem_map_of_mem hb)

theorem pairwise (h : m.WellFormed) : m.breakpoints.Pairwise fun a b => b.value ≤ a.value :=
  List.pairwise_map.mp h.descending.sorted

/-- The first breakpoint that is reached is the highest of those. -/
theorem isChoice_of_find? (h : m.WellFormed) (hb : m.breakpoints.find? (·.value ≤ x) = some b) :
    IsChoice m.breakpoints x b := by
  obtain ⟨hreach, before, behind, hsplit, hbefore⟩ := List.find?_eq_some_iff_append.mp hb
  refine .reached (List.mem_of_find?_eq_some hb) (of_decide_eq_true hreach) ?_
  intro c hc hcx
  rw [hsplit] at hc
  have hsorted := h.pairwise
  rw [hsplit, List.pairwise_append] at hsorted
  rcases List.mem_append.mp hc with hc | hc
  · have hnot := hbefore c hc
    simp [hcx] at hnot
  rcases List.mem_cons.mp hc with rfl | hc
  · exact le_self (h.isNaN_eq_false (List.mem_of_find?_eq_some hb))
  · exact (List.pairwise_cons.mp hsorted.2.1).1 c hc

/-- Where none is reached the last breakpoint is the lowest. -/
theorem isChoice_of_getLast? (h : m.WellFormed) (hx : x.isNaN = false)
    (hnone : m.breakpoints.find? (·.value ≤ x) = none) (hb : m.breakpoints.getLast? = some b) :
    IsChoice m.breakpoints x b := by
  obtain ⟨before, hsplit⟩ := List.getLast?_eq_some_iff.mp hb
  have hmem := List.mem_of_getLast? hb
  refine .belowAll hmem ?_ ?_
  · intro c hc
    rw [lt_iff_not_le hx (h.isNaN_eq_false hc)]
    simpa using List.find?_eq_none.mp hnone c hc
  · intro c hc
    rw [hsplit] at hc
    have hsorted := h.pairwise
    rw [hsplit, List.pairwise_append] at hsorted
    rcases List.mem_append.mp hc with hc | hc
    · exact hsorted.2.2 c hc b (List.mem_singleton_self b)
    · rw [List.mem_singleton.mp hc]
      exact le_self (h.isNaN_eq_false hmem)

theorem isChoice_of_chosen? (h : m.WellFormed) (hx : x.isNaN = false) (hb : m.chosen? x = some b) :
    IsChoice m.breakpoints x b := by
  unfold chosen? at hb
  cases hfind : m.breakpoints.find? (·.value ≤ x) with
  | some first =>
    rw [hfind, Option.some_or] at hb
    exact h.isChoice_of_find? (hfind.trans hb)
  | none =>
    rw [hfind, Option.none_or] at hb
    exact h.isChoice_of_getLast? hx hfind hb

end WellFormed

end ThresholdMapping

namespace IsChoice
variable {bs other : List Breakpoint} {x y : Float} {b c : Breakpoint}

theorem mem (h : IsChoice bs x b) : b ∈ bs := by
  cases h <;> assumption

theorem perm (h : IsChoice bs x b) (hperm : bs.Perm other) : IsChoice other x b := by
  have hmem : ∀ c ∈ other, c ∈ bs := fun c hc => hperm.mem_iff.mpr hc
  cases h with
  | reached mem reach highest =>
    exact .reached (hperm.mem_iff.mp mem) reach fun c hc => highest c (hmem c hc)
  | belowAll mem below lowest =>
    exact .belowAll (hperm.mem_iff.mp mem) (fun c hc => below c (hmem c hc))
      fun c hc => lowest c (hmem c hc)

/-- A greater number has no choice of a lower value. -/
theorem mono (hb : IsChoice bs x b) (hc : IsChoice bs y c) (hfinite : ∀ b ∈ bs, b.value.isFinite)
    (hx : x.isNaN = false) (hy : y.isNaN = false) (hxy : x ≤ y) : b.value ≤ c.value := by
  have hnan := isNaN_eq_false_of_isFinite (hfinite b hb.mem)
  cases hb with
  | belowAll _ _ lowest => exact lowest c hc.mem
  | reached mem reach _ =>
    have hby : b.value ≤ y := le_of_le_of_le hnan hx hy reach hxy
    cases hc with
    | reached _ _ highest => exact highest b mem hby
    | belowAll _ below _ => exact absurd hby ((lt_iff_not_le hy hnan).mp (below b mem))

end IsChoice

namespace ThresholdMapping

/-- A mapping arranges the breakpoints that it is made of, gives every number the style of a right
choice among them, never of a lower one for a greater number, and is the same for every order of
breakpoints whose values differ. -/
theorem arranges_and_chooses (property field : String) (declared : List Breakpoint)
    (m : ThresholdMapping) (h : make property field declared = .ok m) :
    Arranged declared m.breakpoints ∧
    (∀ x : Float, x.isNaN = false → ∃ b, m.chosen? x = some b ∧ IsChoice declared x b ∧
      m.resolveNumber x = b.style) ∧
    (∀ x y : Float, x.isNaN = false → y.isNaN = false → x ≤ y → ∃ b c,
      m.chosen? x = some b ∧ m.chosen? y = some c ∧ b.value ≤ c.value) ∧
    (declared.Pairwise (fun a b => (a.value == b.value) = false) →
      ∀ other, other.Perm declared → make property field other = .ok m) := by
  have hm := wellFormed_of_make h
  obtain ⟨checked, _, _, hfinite, heq⟩ := make_eq_ok_iff.mp h
  have harranged : Arranged declared m.breakpoints := by
    rw [heq]
    exact arranged_mergeSort_before hfinite
  have hchosen : ∀ x : Float, x.isNaN = false →
      ∃ b, m.chosen? x = some b ∧ IsChoice declared x b := by
    intro x hx
    obtain ⟨b, hb⟩ := hm.exists_chosen? x
    exact ⟨b, hb, (hm.isChoice_of_chosen? hx hb).perm harranged.perm⟩
  refine ⟨harranged, ?_, ?_, fun hne other hperm => make_eq_of_perm h hperm hne⟩
  · intro x hx
    obtain ⟨b, hb, hchoice⟩ := hchosen x hx
    exact ⟨b, hb, hchoice, resolveNumber_of_chosen? hb⟩
  · intro x y hx hy hxy
    obtain ⟨b, hb, hchoice⟩ := hchosen x hx
    obtain ⟨c, hc, hchoice'⟩ := hchosen y hy
    exact ⟨b, c, hb, hc, hchoice.mono hchoice' hfinite hx hy hxy⟩

/-- Frost by degrees, declared out of order, with one value twice and with both zeros. -/
def frost : List Breakpoint :=
  [⟨-0, .text "ash"⟩, ⟨5, .text "amber"⟩, ⟨0, .text "snow"⟩, ⟨5, .text "green"⟩]

def frostMapping : ThresholdMapping :=
  ⟨"fill", "degrees",
    [⟨5, .text "amber"⟩, ⟨5, .text "green"⟩, ⟨0, .text "snow"⟩, ⟨-0, .text "ash"⟩]⟩

theorem make_frost : make "fill" " degrees " frost = .ok frostMapping := by
  have hash : Breakpoint.before ⟨-0, .text "ash"⟩ ⟨5, .text "amber"⟩ = false := by decide
  have hsnow : Breakpoint.before ⟨0, .text "snow"⟩ ⟨5, .text "green"⟩ = false := by decide
  have hfive : Breakpoint.before ⟨5, .text "amber"⟩ ⟨5, .text "green"⟩ = true := by decide
  have hgreen : Breakpoint.before ⟨-0, .text "ash"⟩ ⟨5, .text "green"⟩ = false := by decide
  have hzero : Breakpoint.before ⟨-0, .text "ash"⟩ ⟨0, .text "snow"⟩ = false := by decide
  refine make_eq_ok_iff.mpr ⟨"degrees", rfl, nofun, by decide, ?_⟩
  simp [List.mergeSort, List.MergeSort.Internal.splitInTwo, hash, hsnow, hfive, hgreen, hzero,
    frost, frostMapping]

/-- Two breakpoints of different values. -/
def thaw : List Breakpoint :=
  [⟨0, .text "snow"⟩, ⟨5, .text "green"⟩]

def thawMapping : ThresholdMapping :=
  ⟨"fill", "degrees", [⟨5, .text "green"⟩, ⟨0, .text "snow"⟩]⟩

theorem make_thaw : make "fill" "degrees" thaw = .ok thawMapping := by
  have hsnow : Breakpoint.before ⟨0, .text "snow"⟩ ⟨5, .text "green"⟩ = false := by decide
  refine make_eq_ok_iff.mpr ⟨"degrees", rfl, nofun, by decide, ?_⟩
  simp [List.mergeSort, List.MergeSort.Internal.splitInTwo, hsnow, thaw, thawMapping]

/-- The zeros are exchanged and the fives are not; either zero gets what stands first. Different
values may be declared the other way round. -/
theorem frost_arranged : make "fill" " degrees " frost = .ok frostMapping ∧
    Arranged frost frostMapping.breakpoints ∧
    (∃ b, frostMapping.chosen? (-0) = some b ∧ IsChoice frost (-0) b ∧
      frostMapping.resolveNumber (-0) = b.style) ∧
    frostMapping.resolveNumber (-0) = .text "snow" ∧
    (∃ b c, frostMapping.chosen? 3 = some b ∧ frostMapping.chosen? 7 = some c ∧
      b.value ≤ c.value) ∧
    make "fill" "degrees" thaw = .ok thawMapping ∧
    make "fill" "degrees" thaw.reverse = .ok thawMapping := by
  obtain ⟨harranged, hchosen, hmono, _⟩ :=
    arranges_and_chooses "fill" " degrees " frost frostMapping make_frost
  obtain ⟨_, _, _, hpermuted⟩ := arranges_and_chooses "fill" "degrees" thaw thawMapping make_thaw
  exact ⟨make_frost, harranged, hchosen (-0) (by decide), rfl,
    hmono 3 7 (by decide) (by decide) (by decide), make_thaw,
    hpermuted (by decide) _ (List.reverse_perm thaw)⟩

end ThresholdMapping

end Cartouche
