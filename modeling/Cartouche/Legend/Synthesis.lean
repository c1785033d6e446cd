import Cartouche.Legend.Layout

/-!
Legends made from mappings. A legend depends on its mapping and on what is asked of it, never on
data; of several legends, those without a place of their own take the anchors that are left.
-/
namespace Cartouche
open Text

/-- The value of a sample; the first and the last are the ends of the domain. -/
def sample (low high : Float) (steps i : Nat) : Float :=
  if i = 0 then low
  else if i = steps - 1 then high
  else low + (high - low) * countOf i / countOf (steps - 1)

def scaleEntries (m : ScaleMapping Float) (steps : Nat) : List LegendEntry :=
  let steps := max steps 2
  (List.range steps).map fun i =>
    let value := sample m.low m.high steps i
    ⟨numberText value, (m.resolveNumber value).legendText, some value⟩

/-- Thresholds from the highest down, each with the one above it as its end. -/
def thresholdEntries (above : Option Float) : List Breakpoint → List LegendEntry
  | [] => []
  | b :: rest =>
    let label := match above with
      | none => "≥ " ++ numberText b.value
      | some value => numberText b.value ++ " - " ++ numberText value
    ⟨label, b.style.legendText, some b.value⟩ :: thresholdEntries (some b.value) rest

def legendEntries (steps : Nat) : StyleMapping → LegendKind × List LegendEntry
  | .scale m => (.scale, scaleEntries m steps)
  | .category m =>
    (.category, m.entries.map fun (key, style) => ⟨key, style.legendText, none⟩)
  | .threshold m => (.category, thresholdEntries none m.breakpoints)

/-- A mapping whose legend is wanted. -/
structure LegendRequest where
  mapping : StyleMapping
  options : LegendOptions Float32

/-- The legend of a mapping at an anchor. -/
def Legend.build (metrics : Metrics Float32) (r : LegendRequest) (anchor : Anchor) : Legend :=
  let (kind, entries) := legendEntries (r.options.steps.getD metrics.defaultSteps) r.mapping
  let title := r.options.title.getD (r.mapping.field ++ " (" ++ r.mapping.property ++ ")")
  { kind
    title
    property := r.mapping.property
    field := r.mapping.field
    entries
    position := anchor
    bounds := legendBounds metrics r.options anchor title (entries.map LegendEntry.label) }

/-- One legend alone. -/
def Legend.synthesize (metrics : Metrics Float32) (r : LegendRequest) : Legend :=
  .build metrics r (r.options.position.getD .topRight)

/-- The anchor at a place of the rotation, which goes round. -/
def rotationAt (i : Nat) : Anchor :=
  Anchor.rotation.getD (i % Anchor.rotation.length) .topRight

/-- How far behind the cursor the next anchor is that nobody has; none is left at zero. -/
def nextFree (taken : List Anchor) (cursor : Nat) : Nat :=
  ((List.range Anchor.rotation.length).find? fun k =>
    !taken.contains (rotationAt (cursor + k))).getD 0

/-- Anchors for legends from first to last; what one takes is taken for those after it. -/
def placeFrom (cursor : Nat) (taken : List Anchor) : List (Option Anchor) → List Anchor
  | [] => []
  | some anchor :: rest => anchor :: placeFrom cursor taken rest
  | none :: rest =>
    let step := nextFree taken cursor
    let anchor := rotationAt (cursor + step)
    anchor :: placeFrom (cursor + step + 1) (anchor :: taken) rest

/-- Every anchor that is asked for anywhere is taken from the start. -/
def anchors (asked : List (Option Anchor)) : List Anchor :=
  placeFrom 0 (asked.filterMap id) asked

def Legend.synthesizeAll (metrics : Metrics Float32) (requests : List LegendRequest) :
    List Legend :=
  List.zipWith (Legend.build metrics) requests (anchors (requests.map (·.options.position)))

end Cartouche
