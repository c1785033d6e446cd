import Cartouche.Proofs.Rotation

/-!
Legends of a batch against legends alone. From its batch a legend has its anchor and nothing else,
and the anchors of those that ask for none depend on what the others ask for, not on where they
stand.
-/
namespace Cartouche

namespace LegendRequest

/-- The same request for a given anchor. -/
def asking (r : LegendRequest) (anchor : Anchor) : LegendRequest :=
  { r with options := { r.options with position := some anchor } }

/-- Whether the batch has to find an anchor for the legend. -/
def isOpen (r : LegendRequest) : Bool :=
  r.options.position.isNone

end LegendRequest

/-- One batch is another one with its placed legends asked for at other times. -/
structure Moved (requests others : List LegendRequest) : Prop where
  perm : requests.Perm others
  sameOpen : requests.filter LegendRequest.isOpen = others.filter LegendRequest.isOpen

namespace Legend

/-- Two legends are the same but for their anchors and their places on the canvas. -/
structure SamePanel (l other : Legend) : Prop where
  kind : l.kind = other.kind
  title : l.title = other.title
  property : l.property = other.property
  field : l.field = other.field
  entries : l.entries = other.entries
  width : l.bounds.width = other.bounds.width
  height : l.bounds.height = other.bounds.height

/-- A legend of a batch is what its request makes alone when it asks for the anchor that the batch
has found. -/
structure StandsAlone (metrics : Metrics Float32) (r : LegendRequest) (l : Legend) : Prop where
  eq : l = synthesize metrics (r.asking l.position)
  samePanel : l.SamePanel (synthesize metrics r)

/-- The legends of a batch that were asked for without an anchor, with their requests. -/
def openLegends (metrics : Metrics Float32) (requests : List LegendRequest) :
    List (LegendRequest × Legend) :=
  (requests.zip (synthesizeAll metrics requests)).filter fun (r, _) => r.isOpen

variable {metrics : Metrics Float32} {requests others : List LegendRequest} {r : LegendRequest}

theorem samePanel_build (metrics : Metrics Float32) (r : LegendRequest) (anchor other : Anchor) :
    (build metrics r anchor).SamePanel (build metrics r other) :=
  ⟨rfl, rfl, rfl, rfl, rfl, rfl, rfl⟩

theorem standsAlone_build (metrics : Metrics Float32) (r : LegendRequest) (anchor : Anchor) :
    StandsAlone metrics r (build metrics r anchor) :=
  ⟨rfl, samePanel_build metrics r _ _⟩

theorem length_anchors (asked : List (Option Anchor)) : (anchors asked).length = asked.length := by
  rw [anchors_eq_fill, length_fill]

theorem forall₂_standsAlone (metrics : Metrics Float32) (requests : List LegendRequest) :
    List.Forall₂ (StandsAlone metrics) requests (synthesizeAll metrics requests) := by
  have hlen : (synthesizeAll metrics requests).length = requests.length := by
    simp [synthesizeAll, length_anchors]
  rw [List.forall₂_iff_get]
  refine ⟨hlen.symm, ?_⟩
  intro i hi hi'
  have hget : (synthesizeAll metrics requests).get ⟨i, hi'⟩ =
      build metrics (requests.get ⟨i, hi⟩) ((anchors (requests.map (·.options.position))).get
        ⟨i, by simpa [length_anchors] using hi⟩) := by
    simp [synthesizeAll]
  rw [hget]
  exact standsAlone_build metrics _ _

/-- A legend without company stands where it would stand alone. -/
theorem synthesizeAll_singleton (metrics : Metrics Float32) (r : LegendRequest) :
    synthesizeAll metrics [r] = [synthesize metrics r] := by
  have hanchors : anchors [r.options.position] = [r.options.position.getD .topRight] := by
    cases hp : r.options.position with
    | none => decide
    | some anchor => rfl
  rw [synthesizeAll, List.map_singleton, hanchors]
  rfl

/-! Where the open legends stand. -/

/-- The open legends of a batch take their turns in the order of their requests. -/
theorem filter_zip_fill (metrics : Metrics Float32) (turn : Nat → Anchor)
    (requests : List LegendRequest) :
    (requests.zip (List.zipWith (build metrics) requests
      (fill turn (requests.map (·.options.position))))).filter (fun (r, _) => r.isOpen) =
        (requests.filter LegendRequest.isOpen).mapIdx fun j r => (r, build metrics r (turn j)) := by
  induction requests generalizing turn with
  | nil => rfl
  | cons r rest ih =>
    cases hp : r.options.position with
    | some anchor =>
      have hopen : r.isOpen = false := by simp [LegendRequest.isOpen, hp]
      simp only [List.map_cons, hp, fill, List.zipWith_cons_cons, List.zip_cons_cons,
        List.filter_cons, hopen, Bool.false_eq_true, if_false]
      exact ih turn
    | none =>
      have hopen : r.isOpen = true := by simp [LegendRequest.isOpen, hp]
      simp only [List.map_cons, hp, fill, List.zipWith_cons_cons, List.zip_cons_cons,
        List.filter_cons, hopen, if_true, List.mapIdx_cons]
      exact congrArg _ (ih fun j => turn (j + 1))

theorem openLegends_eq (metrics : Metrics Float32) (requests : List LegendRequest) :
    openLegends metrics requests = (requests.filter LegendRequest.isOpen).mapIdx fun j r =>
      (r, build metrics r (turnFrom 0 (freeAnchors (requests.map (·.options.position))) j)) := by
  rw [openLegends, synthesizeAll, anchors_eq_fill]
  exact filter_zip_fill metrics _ requests

/-- Which anchors are free is a matter of what is asked for, wherever it is asked. -/
theorem freeAnchors_of_perm {asked other : List (Option Anchor)} (h : asked.Perm other) :
    freeAnchors asked = freeAnchors other := by
  simp only [freeAnchors, h.mem_iff]

theorem openLegends_of_moved (metrics : Metrics Float32) (h : Moved requests others) :
    openLegends metrics requests = openLegends metrics others := by
  rw [openLegends_eq, openLegends_eq, h.sameOpen, freeAnchors_of_perm (h.perm.map _)]

/-- Each legend of a batch is the one its request makes alone at the anchor found for it, so that it
shows what it shows alone; a batch of one is the legend alone; and the open legends stay as they
are when placed ones are asked for earlier or later. -/
theorem batch_stands_alone (metrics : Metrics Float32) (requests : List LegendRequest) :
    List.Forall₂ (StandsAlone metrics) requests (synthesizeAll metrics requests) ∧
    (∀ r, synthesizeAll metrics [r] = [synthesize metrics r]) ∧
    ∀ others, Moved requests others → openLegends metrics requests = openLegends metrics others :=
  ⟨forall₂_standsAlone metrics requests, synthesizeAll_singleton metrics,
    fun _ => openLegends_of_moved metrics⟩

def harbour (place : Option Anchor) : LegendRequest :=
  ⟨.category ⟨"fill", "kind", [("pier", .text "black")], .omitted⟩,
    { LegendOptions.none with position := place }⟩

def tides (place : Option Anchor) : LegendRequest :=
  ⟨.threshold ⟨"stroke", "tide", [⟨2, .text "navy"⟩, ⟨0, .text "teal"⟩]⟩,
    { LegendOptions.none with position := place, width := some 90 }⟩

/-- Three legends, of which the second asks for a corner, and then the first does. -/
theorem harbour_stands_alone :
    List.Forall₂ (StandsAlone .standard) [harbour none, tides (some .topLeft), tides none]
      (synthesizeAll .standard [harbour none, tides (some .topLeft), tides none]) ∧
    Moved [harbour none, tides (some .topLeft), tides none]
      [tides (some .topLeft), harbour none, tides none] ∧
    openLegends .standard [harbour none, tides (some .topLeft), tides none] =
      openLegends .standard [tides (some .topLeft), harbour none, tides none] ∧
    (openLegends .standard [tides (some .topLeft), harbour none, tides none]).map
      (fun (_, legend) => legend.position) = [.topRight, .bottomRight] := by
  obtain ⟨halone, -, hmoved⟩ :=
    batch_stands_alone .standard [harbour none, tides (some .topLeft), tides none]
  have hmove : Moved [harbour none, tides (some .topLeft), tides none]
      [tides (some .topLeft), harbour none, tides none] := ⟨.swap _ _ _, rfl⟩
  exact ⟨halone, hmove, hmoved _ hmove, by decide⟩

end Legend

end Cartouche
