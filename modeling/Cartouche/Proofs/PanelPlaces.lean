import Cartouche.Legend.Synthesis
import Mathlib

/-!
Where panels stand, in exact numbers. Whatever is asked for and whatever the measures are, a panel
has a size and does not begin before the canvas; along each side it ends on the canvas if it fits
there, and begins at the origin if it does not.
-/
namespace Cartouche

section Numbers
variable {α : Type} [Add α] [Sub α] [Mul α] [Div α] [OfNat α 0] [OfNat α 1] [OfNat α 2]
  [OfScientific α] [LT α] [LE α] [DecidableLT α] [DecidableLE α]

/-- The bounds of a mapping's legend, in numbers of any type. -/
def panelBounds (metrics : Metrics α) (o : LegendOptions α) (mapping : StyleMapping)
    (anchor : Anchor) : Bounds α :=
  let entries := (legendEntries (o.steps.getD metrics.defaultSteps) mapping).2
  let title := o.title.getD (mapping.field ++ " (" ++ mapping.property ++ ")")
  legendBounds metrics o anchor title (entries.map LegendEntry.label)

end Numbers

theorem bounds_build (metrics : Metrics Float32) (r : LegendRequest) (anchor : Anchor) :
    (Legend.build metrics r anchor).bounds = panelBounds metrics r.options r.mapping anchor :=
  rfl

/-- One side of a panel: it has a length, and begins on the canvas; it ends there if it can. -/
structure Fits (canvas start length : ℚ) : Prop where
  length_pos : 0 < length
  start_nonneg : 0 ≤ start
  inside : length ≤ canvas → start + length ≤ canvas
  pinned : canvas < length → start = 0

variable {size : ℚ}

theorem larger_eq_max (a b : ℚ) : larger a b = max a b := by
  unfold larger
  rcases lt_or_ge a b with h | h
  · rw [if_pos h, max_eq_right h.le]
  · rw [if_neg h.not_gt, if_pos le_rfl, max_eq_left h]

theorem smaller_eq_min (a b : ℚ) : smaller a b = min a b := by
  unfold smaller
  rcases lt_or_ge b a with h | h
  · rw [if_pos h, min_eq_right h.le]
  · rw [if_neg h.not_gt, if_pos le_rfl, min_eq_left h]

/-- No rational is infinite, so that every positive size that is asked for counts. -/
theorem chosenSize_eq (asked : Option ℚ) (computed : ℚ) :
    chosenSize asked computed = (asked.filter (0 < ·)).getD computed := by
  have hfinite : ∀ x : ℚ, isFinite x = true := fun x => by simp [isFinite]
  cases asked with
  | none => rfl
  | some x =>
    by_cases hx : 0 < x <;> simp [chosenSize, hfinite, Option.filter, hx]

/-- A size that does not count gives way to the computed one. -/
theorem chosenSize_pos (asked : Option ℚ) {computed : ℚ} (h : 0 < computed) :
    0 < chosenSize asked computed := by
  rw [chosenSize_eq]
  cases hasked : asked.filter (0 < ·) with
  | none => exact h
  | some x => simpa using (Option.filter_eq_some_iff.mp hasked).2

theorem contentWidth_pos (metrics : Metrics ℚ) (title : String) (labels : List String) :
    0 < contentWidth metrics title labels := by
  unfold contentWidth
  rw [larger_eq_max 1]
  exact one_pos.trans_le (le_max_left _ _)

theorem contentHeight_pos (metrics : Metrics ℚ) (rows : Nat) : 0 < contentHeight metrics rows := by
  unfold contentHeight
  rw [larger_eq_max 1]
  exact one_pos.trans_le (le_max_left _ _)

/-- The end of the canvas is kept first and its beginning last, so that the beginning wins. -/
theorem fits_kept (canvas wanted : ℚ) (h : 0 < size) :
    Fits canvas (max 0 (min wanted (canvas - size))) size := by
  have hend : min wanted (canvas - size) ≤ canvas - size := min_le_right _ _
  refine ⟨h, le_max_left _ _, ?_, ?_⟩
  · intro hfit
    have hstart : max 0 (min wanted (canvas - size)) ≤ canvas - size :=
      max_le (sub_nonneg.mpr hfit) hend
    linarith
  · intro hlarge
    exact max_eq_left (hend.trans (sub_nonpos.mpr hlarge.le))

theorem fits_offset (canvas margin : ℚ) (alignment : Alignment) (h : 0 < size) :
    Fits canvas (offset canvas size margin alignment) size := by
  unfold offset
  rw [larger_eq_max, smaller_eq_min]
  exact fits_kept canvas _ h

/-- The panel of every legend has a size and stands on the canvas as far as it fits: the legends of
the machine follow the same rules in its own numbers. -/
theorem panels_fit : (∀ (metrics : Metrics Float32) (r : LegendRequest) (anchor : Anchor),
      (Legend.build metrics r anchor).bounds = panelBounds metrics r.options r.mapping anchor) ∧
    ∀ (metrics : Metrics ℚ) (o : LegendOptions ℚ) (mapping : StyleMapping) (anchor : Anchor),
      let panel := panelBounds metrics o mapping anchor
      Fits metrics.canvasWidth panel.x panel.width ∧
        Fits metrics.canvasHeight panel.y panel.height := by
  refine ⟨bounds_build, ?_⟩
  intro metrics o mapping anchor
  constructor
  · exact fits_offset _ _ _ (chosenSize_pos o.width (contentWidth_pos metrics _ _))
  · exact fits_offset _ _ _ (chosenSize_pos o.height (contentHeight_pos metrics _))

end Cartouche
