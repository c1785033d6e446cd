import Cartouche.Proofs.Breakpoints
import Cartouche.Proofs.LegendAgreement
import Mathlib.Data.List.Find

/-!
What rows of a legend by thresholds tell. A row shows the style of its own breakpoint, and the value
in it gets the style of the first breakpoint with that number; so a row tells the truth where it
shows the same text as the first one with its number, the two zeros being one number.
-/
namespace Cartouche

/-- The row shows the style that its value gets. -/
def TellsTruth (m : StyleMapping) (row : LegendEntry) : Prop :=
  ∃ v style, row.value = some v ∧ m.resolve (some (.number v)) = some style ∧
    style.legendText = row.style

/-! The number of a breakpoint. -/

namespace ThresholdMapping
variable {bs : List Breakpoint} {m : ThresholdMapping} {b c first : Breakpoint} {row : LegendEntry}

/-- Among descending values the first that a member reaches is the first equal to it. -/
theorem find?_le_eq_find?_beq (h : ∀ b ∈ bs, b.value.isNaN = false)
    (hsorted : bs.Pairwise fun a b => b.value ≤ a.value) (hb : b ∈ bs) :
    bs.find? (·.value ≤ b.value) = bs.find? (·.value == b.value) := by
  induction bs with
  | nil => cases hb
  | cons a rest ih =>
    obtain ⟨hhead, htail⟩ := List.pairwise_cons.mp hsorted
    have ha := h a List.mem_cons_self
    have hnb := h b hb
    by_cases hle : a.value ≤ b.value
    · have hge : b.value ≤ a.value := by
        rcases List.mem_cons.mp hb with rfl | hb
        · exact hle
        · exact hhead b hb
      have heq : (a.value == b.value) = true := by
        rw [le_iff_rank_le ha hnb] at hle
        rw [le_iff_rank_le hnb ha] at hge
        exact (beq_iff_rank_eq ha hnb).mpr (le_antisymm hle hge)
      rw [List.find?_cons, List.find?_cons, decide_eq_true hle, heq]
    · have hmem : b ∈ rest := by
        rcases List.mem_cons.mp hb with rfl | hb
        · exact absurd (le_self hnb) hle
        · exact hb
      have hne : ¬ (a.value == b.value) = true := by
        rw [beq_iff_rank_eq ha hnb]
        rw [le_iff_rank_le ha hnb] at hle
        exact fun heq => hle heq.le
      rw [List.find?_cons, List.find?_cons, decide_eq_false hle, Bool.eq_false_iff.mpr hne]
      exact ih (fun c hc => h c (List.mem_cons_of_mem _ hc)) htail hmem

/-- The number of a breakpoint gets the style of the first breakpoint with that number. -/
theorem WellFormed.exists_first (h : m.WellFormed) (hb : b ∈ m.breakpoints) :
    ∃ first, m.breakpoints.find? (·.value == b.value) = some first ∧
      m.resolveNumber b.value = first.style := by
  have hfind := find?_le_eq_find?_beq (fun c hc => h.isNaN_eq_false hc) h.pairwise hb
  obtain ⟨first, hfirst⟩ : ∃ first, m.breakpoints.find? (·.value == b.value) = some first := by
    rw [← Option.isSome_iff_exists, List.find?_isSome]
    exact ⟨b, hb, (beq_iff_rank_eq (h.isNaN_eq_false hb) (h.isNaN_eq_false hb)).mpr rfl⟩
  refine ⟨first, hfirst, resolveNumber_of_chosen? ?_⟩
  rw [chosen?, hfind, hfirst, Option.some_or]

/-- A row tells the truth where it shows the text of the first breakpoint with its number. -/
theorem tellsTruth_iff (h : m.WellFormed) (hb : b ∈ m.breakpoints) (hrow : IsRowOf row b)
    (hfirst : m.resolveNumber b.value = first.style) :
    TellsTruth (.threshold m) row ↔ first.style.legendText = row.style := by
  have hresolve : (StyleMapping.threshold m).resolve (some (.number b.value)) =
      some first.style := by
    have hnumber : inputNumber (some (.number b.value)) = b.value := by
      change (if b.value.isNaN then 0 else b.value) = b.value
      rw [if_neg (Bool.eq_false_iff.mp (h.isNaN_eq_false hb))]
    rw [← hfirst, StyleMapping.resolve, ThresholdMapping.resolve, hnumber]
  constructor
  · rintro ⟨v, style, hv, hstyle, htext⟩
    cases hrow.value.symm.trans hv
    cases hresolve.symm.trans hstyle
    exact htext
  · intro htext
    exact ⟨b.value, first.style, hrow.value, hresolve, htext⟩

/-- Rows and breakpoints have their first of one number at the same place. -/
theorem exists_first_row (hb : IsRowOf row b)
    (hfirst : m.breakpoints.find? (·.value == b.value) = some first) :
    ∃ firstRow, (thresholdEntries none m.breakpoints).find? (·.value == row.value) =
      some firstRow ∧ IsRowOf firstRow first := by
  have hrel := find?_related (p := (·.value == row.value)) (q := (·.value == b.value))
    (forall₂_thresholdEntries none m.breakpoints) ?_
  · rw [hfirst] at hrel
    cases hfind : (thresholdEntries none m.breakpoints).find? (·.value == row.value) with
    | none =>
      rw [hfind] at hrel
      cases hrel
    | some firstRow =>
      rw [hfind] at hrel
      cases hrel with
      | some h => exact ⟨firstRow, rfl, h⟩
  · intro other c hc
    rw [hc.value, hb.value]
    rfl

/-- Breakpoints of one number have one first breakpoint. -/
theorem WellFormed.find?_beq_congr (h : m.WellFormed) (hb : b ∈ m.breakpoints)
    (hc : c ∈ m.breakpoints) (heq : (b.value == c.value) = true) :
    m.breakpoints.find? (·.value == b.value) = m.breakpoints.find? (·.value == c.value) := by
  apply List.find?_congr
  intro a ha
  have ha := h.isNaN_eq_false ha
  have hb := h.isNaN_eq_false hb
  have hc := h.isNaN_eq_false hc
  rw [Bool.eq_iff_iff, beq_iff_rank_eq ha hb, beq_iff_rank_eq ha hc, (beq_iff_rank_eq hb hc).mp heq]

/-- All rows tell the truth where breakpoints of one number have styles of one text. -/
theorem WellFormed.all_tellTruth_iff (h : m.WellFormed) :
    (∀ row ∈ thresholdEntries none m.breakpoints, TellsTruth (.threshold m) row) ↔
      ∀ b ∈ m.breakpoints, ∀ c ∈ m.breakpoints, (b.value == c.value) = true →
        b.style.legendText = c.style.legendText := by
  have hrows := forall₂_thresholdEntries none m.breakpoints
  constructor
  · intro htruth b hb c hc heq
    have hshows : ∀ a ∈ m.breakpoints, ∀ first,
        m.breakpoints.find? (·.value == a.value) = some first →
        first.style.legendText = a.style.legendText := by
      intro a ha first hfind
      obtain ⟨row, hmem, hrow⟩ := exists_related_right hrows ha
      obtain ⟨first', hfind', hfirst⟩ := h.exists_first ha
      cases hfind.symm.trans hfind'
      exact ((tellsTruth_iff h ha hrow hfirst).mp (htruth row hmem)).trans hrow.style
    obtain ⟨first, hfind, _⟩ := h.exists_first hb
    exact (hshows b hb first hfind).symm.trans
      (hshows c hc first ((h.find?_beq_congr hb hc heq).symm.trans hfind))
  · intro htext row hrow
    obtain ⟨b, hb, hrow⟩ := exists_related_left hrows hrow
    obtain ⟨first, hfind, hfirst⟩ := h.exists_first hb
    have hnumber : (first.value == b.value) = true := by simpa using List.find?_some hfind
    rw [tellsTruth_iff h hb hrow hfirst, hrow.style]
    exact htext first (List.mem_of_find?_eq_some hfind) b hb hnumber

end ThresholdMapping

/-- In the legend of a mapping by thresholds, under any measures and options and at any anchor, a
row tells the truth exactly where it shows the text of the first row with its number; all rows do
exactly where the declared breakpoints of one number have styles of one text. -/
theorem rows_tell_truth_iff (property field : String) (declared : List Breakpoint)
    (m : ThresholdMapping) (h : ThresholdMapping.make property field declared = .ok m)
    (metrics : Metrics Float32) (options : LegendOptions Float32) (anchor : Anchor) :
    (∀ row ∈ (Legend.build metrics ⟨.threshold m, options⟩ anchor).entries, ∃ first,
      (Legend.build metrics ⟨.threshold m, options⟩ anchor).entries.find?
        (·.value == row.value) = some first ∧
      (TellsTruth (.threshold m) row ↔ first.style = row.style)) ∧
    ((∀ row ∈ (Legend.build metrics ⟨.threshold m, options⟩ anchor).entries,
        TellsTruth (.threshold m) row) ↔
      ∀ b ∈ declared, ∀ c ∈ declared, (b.value == c.value) = true →
        b.style.legendText = c.style.legendText) := by
  have hm := ThresholdMapping.wellFormed_of_make h
  have hentries : (Legend.build metrics ⟨.threshold m, options⟩ anchor).entries =
      thresholdEntries none m.breakpoints := rfl
  rw [hentries]
  constructor
  · intro row hrow
    obtain ⟨b, hb, hrow⟩ := exists_related_left (forall₂_thresholdEntries none m.breakpoints) hrow
    obtain ⟨first, hfind, hfirst⟩ := hm.exists_first hb
    obtain ⟨firstRow, hfindRow, hfirstRow⟩ := ThresholdMapping.exists_first_row hrow hfind
    refine ⟨firstRow, hfindRow, ?_⟩
    rw [ThresholdMapping.tellsTruth_iff hm hb hrow hfirst, hfirstRow.style]
  · obtain ⟨_, _, _, _, rfl⟩ := ThresholdMapping.make_eq_ok_iff.mp h
    simp only [hm.all_tellTruth_iff, List.mem_mergeSort]

open ThresholdMapping in
/-- Where all values differ every row tells the truth; of two rows at five the first one does. -/
theorem thaw_tells_truth : make "fill" "degrees" thaw = .ok thawMapping ∧
    (∀ row ∈ (Legend.build .standard ⟨.threshold thawMapping, .none⟩ .left).entries,
      TellsTruth (.threshold thawMapping) row) ∧
    make "fill" " degrees " frost = .ok frostMapping ∧
    TellsTruth (.threshold frostMapping) ⟨"≥ 5", "amber", some 5⟩ ∧
    ¬ TellsTruth (.threshold frostMapping) ⟨"5 - 5", "green", some 5⟩ := by
  obtain ⟨_, hall⟩ := rows_tell_truth_iff "fill" "degrees" thaw thawMapping make_thaw
    .standard .none .left
  obtain ⟨hfirst, _⟩ := rows_tell_truth_iff "fill" " degrees " frost frostMapping make_frost
    .standard .none .left
  refine ⟨make_thaw, hall.mpr (by decide), make_frost, ?_, ?_⟩
  · obtain ⟨first, hfind, hiff⟩ := hfirst _ (List.mem_of_getElem? (i := 0) rfl)
    cases hfind
    exact hiff.mpr rfl
  · obtain ⟨first, hfind, hiff⟩ := hfirst _ (List.mem_of_getElem? (i := 1) rfl)
    cases hfind
    exact fun h => absurd (hiff.mp h) (by decide)

/-- Two breakpoints of one value above a lower one. -/
def twins : List Breakpoint :=
  [⟨5, .text "amber"⟩, ⟨5, .text "green"⟩, ⟨0, .text "red"⟩]

/-- The second of them has a row, with a style that no number gets, least of all its own. -/
theorem twin_row_misleads :
    ThresholdMapping.make "fill" "load" twins = .ok ⟨"fill", "load", twins⟩ ∧
    ⟨"5 - 5", "green", some 5⟩ ∈
      (Legend.synthesize .standard ⟨.threshold ⟨"fill", "load", twins⟩, .none⟩).entries ∧
    ¬ TellsTruth (.threshold ⟨"fill", "load", twins⟩) ⟨"5 - 5", "green", some 5⟩ ∧
    ∀ x : Float, ThresholdMapping.resolveNumber ⟨"fill", "load", twins⟩ x ≠ .text "green" := by
  refine ⟨?_, ?_, ?_, ?_⟩
  · have hequal : Breakpoint.before ⟨5, .text "amber"⟩ ⟨5, .text "green"⟩ = true := by decide
    have hlower : Breakpoint.before ⟨5, .text "amber"⟩ ⟨0, .text "red"⟩ = true := by decide
    have hlower' : Breakpoint.before ⟨5, .text "green"⟩ ⟨0, .text "red"⟩ = true := by decide
    refine ThresholdMapping.make_eq_ok_iff.mpr ⟨"load", rfl, nofun, by decide, ?_⟩
    simp [List.mergeSort, List.MergeSort.Internal.splitInTwo, hequal, hlower, hlower', twins]
  · exact List.mem_of_getElem? (i := 1) rfl
  · rintro ⟨v, style, hv, hstyle, htext⟩
    cases hv
    have hresolved : (StyleMapping.threshold ⟨"fill", "load", twins⟩).resolve (some (.number 5)) =
        some (.text "amber") := rfl
    cases hresolved.symm.trans hstyle
    exact absurd htext (by decide)
  · intro x
    by_cases hfive : (5 : Float) ≤ x
    · simp [ThresholdMapping.resolveNumber, twins, hfive]
    · by_cases hzero : (0 : Float) ≤ x <;>
        simp [ThresholdMapping.resolveNumber, twins, hfive, hzero]

end Cartouche
