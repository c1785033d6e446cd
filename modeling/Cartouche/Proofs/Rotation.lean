import Cartouche.Legend.Synthesis
import Mathlib.Data.List.Nodup

/-!
Where the legends of a batch stand. Those without a place of their own take the free anchors in the
order of the rotation; once these are used up the rotation goes on behind the last of them, over all
anchors, so that no anchor gets far ahead of another.
-/
namespace Cartouche

/-- The anchors that no legend of the batch asks for, in the order of the rotation. -/
def freeAnchors (asked : List (Option Anchor)) : List Anchor :=
  Anchor.rotation.filter fun a => some a ∉ asked

/-- Where the rotation goes on when some anchors of it have been taken in order. -/
def resume (start : Nat) (left : List Anchor) : Nat :=
  match left.getLast? with
  | none => start
  | some a => Anchor.rotation.idxOf a + 1

/-- What the legends that ask for nothing get in turn: the anchors that are left, and then all
anchors over and over. -/
def turnFrom (start : Nat) (left : List Anchor) (j : Nat) : Anchor :=
  match left[j]? with
  | some a => a
  | none => rotationAt (resume start left + (j - left.length))

/-- Each anchor that is asked for, and the turns in between. -/
def fill (turn : Nat → Anchor) : List (Option Anchor) → List Anchor
  | [] => []
  | some a :: rest => a :: fill turn rest
  | none :: rest => turn 0 :: fill (fun j => turn (j + 1)) rest

/-- How many legends before the given one ask for nothing. -/
def turnOf (asked : List (Option Anchor)) (i : Nat) : Nat :=
  (asked.take i).count none

/-- The anchors of a batch: each that is asked for is kept, and the others are taken in turn. -/
structure Spread (asked : List (Option Anchor)) (placed : List Anchor) : Prop where
  length : placed.length = asked.length
  kept : ∀ (i : Nat) (a : Anchor), asked[i]? = some (some a) → placed[i]? = some a
  taken : ∀ i : Nat, asked[i]? = some none →
    placed[i]? = some (turnFrom 0 (freeAnchors asked) (turnOf asked i))
  /-- As long as anchors are free, none is shared. -/
  unshared : ∀ i k : Nat, i ≠ k → asked[i]? = some none →
    turnOf asked i < (freeAnchors asked).length →
    k < asked.length → (asked[k]? = some none → turnOf asked k < (freeAnchors asked).length) →
    placed[i]? ≠ placed[k]?
  balanced : (asked.filterMap id).Nodup → ∀ a b, placed.count a ≤ placed.count b + 1

section Fill
variable {turn : Nat → Anchor}

theorem length_fill (turn : Nat → Anchor) (asked : List (Option Anchor)) :
    (fill turn asked).length = asked.length := by
  induction asked generalizing turn with
  | nil => rfl
  | cons place rest ih =>
    cases place <;> simp [fill, ih]

theorem getElem?_fill (turn : Nat → Anchor) (asked : List (Option Anchor)) (i : Nat) :
    (fill turn asked)[i]? = asked[i]?.map fun place => place.getD (turn (turnOf asked i)) := by
  induction asked generalizing turn i with
  | nil => rfl
  | cons place rest ih =>
    cases i with
    | zero => cases place <;> rfl
    | succ i =>
      cases place with
      | some a => simp [fill, ih, turnOf]
      | none => simp [fill, ih, turnOf]

theorem count_fill (turn : Nat → Anchor) (asked : List (Option Anchor)) (a : Anchor) :
    (fill turn asked).count a =
      asked.count (some a) + ((List.range (asked.count none)).map turn).count a := by
  induction asked generalizing turn with
  | nil => rfl
  | cons place rest ih =>
    cases place with
    | some b =>
      have hrest := ih turn
      simp only [fill, List.count_cons] at hrest ⊢
      simp
      omega
    | none =>
      have hrest := ih fun j => turn (j + 1)
      simp only [fill, List.count_cons] at hrest ⊢
      simp [List.range_succ_eq_map, List.count_cons, Function.comp_def] at hrest ⊢
      omega

end Fill

section Step
variable {cursor : Nat} {taken left rest : List Anchor} {a : Anchor}

theorem mem_rotation (a : Anchor) : a ∈ Anchor.rotation := by
  cases a <;> decide

theorem nodup_rotation : Anchor.rotation.Nodup := by
  decide

/-- The anchors behind the cursor are taken, and those before it that are not are left. -/
structure Ready (cursor : Nat) (taken left : List Anchor) : Prop where
  behind : ∀ a, Anchor.rotation.idxOf a < cursor → a ∈ taken
  ahead : left = (Anchor.rotation.drop cursor).filter (· ∉ taken)

theorem rotationAt_eq_getElem {i : Nat} (h : i < Anchor.rotation.length) :
    rotationAt i = Anchor.rotation[i] := by
  simp [rotationAt, Nat.mod_eq_of_lt h, h]

/-- With nothing left every anchor is taken. -/
theorem Ready.mem_taken (h : Ready cursor taken []) (a : Anchor) : a ∈ taken := by
  by_cases hi : Anchor.rotation.idxOf a < cursor
  · exact h.behind a hi
  · have hlen := List.idxOf_lt_length_of_mem (mem_rotation a)
    have hdrop : a ∈ Anchor.rotation.drop cursor := by
      rw [List.mem_drop_iff_getElem]
      refine ⟨Anchor.rotation.idxOf a - cursor, by omega, ?_⟩
      simp [Nat.add_sub_cancel' (Nat.le_of_not_lt hi)]
    by_contra hnot
    have hleft : a ∈ (Anchor.rotation.drop cursor).filter (· ∉ taken) :=
      List.mem_filter.mpr ⟨hdrop, by simpa using hnot⟩
    rw [← h.ahead] at hleft
    cases hleft

theorem nextFree_of_all_taken (h : ∀ a, a ∈ taken) (cursor : Nat) : nextFree taken cursor = 0 := by
  have hnone : (List.range Anchor.rotation.length).find?
      (fun k => !taken.contains (rotationAt (cursor + k))) = none := by
    simp [h]
  rw [nextFree, hnone]
  rfl

/-- The next anchor to be taken is the first that is left. -/
theorem Ready.nextFree_spec (h : Ready cursor taken (a :: rest)) :
    Anchor.rotation.idxOf a = cursor + nextFree taken cursor ∧
      rotationAt (cursor + nextFree taken cursor) = a ∧
      Ready (cursor + nextFree taken cursor + 1) (a :: taken) rest := by
  obtain ⟨pre, post, hsplit, hpre, ha, hrest⟩ := List.filter_eq_cons_iff.mp h.ahead.symm
  have hlen : cursor + pre.length < Anchor.rotation.length := by
    have := congrArg List.length hsplit
    simp only [List.length_drop, List.length_append, List.length_cons] at this
    omega
  have hat : ∀ k, k ≤ pre.length → (pre ++ a :: post)[k]? = some (rotationAt (cursor + k)) := by
    intro k hk
    have hk : cursor + k < Anchor.rotation.length := by omega
    rw [← hsplit, List.getElem?_drop, rotationAt_eq_getElem hk, List.getElem?_eq_getElem hk]
  have hhere : rotationAt (cursor + pre.length) = a := by
    have := hat pre.length (Nat.le_refl _)
    simpa using this.symm
  have hbefore : ∀ k, k < pre.length → rotationAt (cursor + k) ∈ taken := by
    intro k hk
    have hmem : pre[k]? = some (rotationAt (cursor + k)) := by
      rw [← hat k (Nat.le_of_lt hk), List.getElem?_append_left hk]
    simpa using hpre _ (List.mem_of_getElem? hmem)
  have hfirst : (List.range Anchor.rotation.length).find?
      (fun k => !taken.contains (rotationAt (cursor + k))) = some pre.length := by
    rw [List.find?_range_eq_some]
    refine ⟨?_, List.mem_range.mpr (by omega), ?_⟩
    · simpa [hhere] using ha
    · intro k hk
      simpa using hbefore k hk
  have hnext : nextFree taken cursor = pre.length := by
    rw [nextFree, hfirst]
    rfl
  have hindex : Anchor.rotation.idxOf a = cursor + pre.length := by
    rw [← hhere, rotationAt_eq_getElem hlen]
    exact nodup_rotation.idxOf_getElem _ hlen
  rw [hnext]
  refine ⟨hindex, hhere, ?_, ?_⟩
  · intro b hb
    have hb' : rotationAt (Anchor.rotation.idxOf b) = b := by
      rw [rotationAt_eq_getElem (List.idxOf_lt_length_of_mem (mem_rotation b))]
      exact List.getElem_idxOf _
    rcases Nat.lt_trichotomy (Anchor.rotation.idxOf b) (cursor + pre.length) with hlt | heq | hgt
    · apply List.mem_cons_of_mem
      by_cases hc : Anchor.rotation.idxOf b < cursor
      · exact h.behind b hc
      · have := hbefore (Anchor.rotation.idxOf b - cursor) (by omega)
        rwa [Nat.add_sub_cancel' (Nat.le_of_not_lt hc), hb'] at this
    · rw [heq, hhere] at hb'
      exact hb' ▸ List.mem_cons_self
    · omega
  · have hpost : Anchor.rotation.drop (cursor + pre.length + 1) = post := by
      rw [Nat.add_assoc, ← List.drop_drop, hsplit]
      simp
    have hnot : a ∉ post := by
      have hnodup := (List.drop_sublist cursor Anchor.rotation).nodup nodup_rotation
      rw [hsplit] at hnodup
      exact (List.nodup_cons.mp (List.nodup_append.mp hnodup).2.1).1
    rw [hpost, ← hrest]
    apply List.filter_congr
    intro b hb
    have hne : b ≠ a := fun he => hnot (he ▸ hb)
    simp [hne]

/-- With all anchors taken the rotation just goes on. -/
theorem Ready.of_all_taken (h : ∀ a, a ∈ taken) (cursor : Nat) : Ready cursor taken [] := by
  constructor
  · exact fun a _ => h a
  · simp [h]

theorem ready_start (asked : List (Option Anchor)) :
    Ready 0 (asked.filterMap id) (freeAnchors asked) := by
  constructor
  · intro a ha
    omega
  · simp [freeAnchors]

theorem turnFrom_cons_zero (cursor : Nat) (a : Anchor) (rest : List Anchor) :
    turnFrom cursor (a :: rest) 0 = a :=
  rfl

theorem turnFrom_cons_succ (cursor : Nat) (a : Anchor) (rest : List Anchor) (j : Nat) :
    turnFrom cursor (a :: rest) (j + 1) = turnFrom (Anchor.rotation.idxOf a + 1) rest j := by
  have hresume : resume cursor (a :: rest) = resume (Anchor.rotation.idxOf a + 1) rest := by
    rw [resume, resume, List.getLast?_cons]
    cases rest.getLast? <;> rfl
  simp [turnFrom, hresume]

theorem turnFrom_nil (cursor j : Nat) : turnFrom cursor [] j = rotationAt (cursor + j) :=
  rfl

/-- From any state that fits the anchors left, the legends that ask for nothing take their turns. -/
theorem Ready.placeFrom_eq (h : Ready cursor taken left) (asked : List (Option Anchor)) :
    placeFrom cursor taken asked = fill (turnFrom cursor left) asked := by
  induction asked generalizing cursor taken left with
  | nil => rfl
  | cons place asked ih =>
    cases place with
    | some a =>
      rw [placeFrom, fill, ih h]
    | none =>
      cases left with
      | nil =>
        have hall := h.mem_taken
        have hnext : Ready (cursor + 1) (rotationAt cursor :: taken) [] :=
          .of_all_taken (fun a => List.mem_cons_of_mem _ (hall a)) _
        have hturn : ∀ j, turnFrom cursor [] (j + 1) = turnFrom (cursor + 1) [] j := by
          intro j
          rw [turnFrom_nil, turnFrom_nil, Nat.add_right_comm, Nat.add_assoc]
        simp only [placeFrom, fill, nextFree_of_all_taken hall, Nat.add_zero, ih hnext, hturn]
        rfl
      | cons a rest =>
        obtain ⟨hindex, hhere, hnext⟩ := h.nextFree_spec
        rw [← hindex] at hhere hnext
        simp only [placeFrom, fill, ← hindex, hhere, ih hnext, turnFrom_cons_zero,
          turnFrom_cons_succ]

theorem anchors_eq_fill (asked : List (Option Anchor)) :
    anchors asked = fill (turnFrom 0 (freeAnchors asked)) asked :=
  (ready_start asked).placeFrom_eq asked

end Step

/-! How often an anchor is taken. -/

/-- The anchors from a place of the rotation on. -/
def lap (start n : Nat) : List Anchor :=
  (List.range n).map fun j => rotationAt (start + j)

theorem lap_add (start m n : Nat) : lap start (m + n) = lap start m ++ lap (start + m) n := by
  simp [lap, List.range_add, Function.comp_def, Nat.add_assoc]

theorem lap_mod (start n : Nat) : lap (start % Anchor.rotation.length) n = lap start n := by
  simp [lap, rotationAt, Nat.mod_add_mod]

/-- Once round, every anchor has its turn. -/
theorem count_lap_round (start : Nat) (a : Anchor) :
    (lap start Anchor.rotation.length).count a = 1 := by
  have table : ∀ s < Anchor.rotation.length, (lap s Anchor.rotation.length).count a = 1 := by
    cases a <;> decide
  rw [← lap_mod]
  exact table _ (Nat.mod_lt _ (by decide))

/-- Less than once round, no anchor has two turns. -/
theorem count_lap_le (start : Nat) {n : Nat} (h : n ≤ Anchor.rotation.length) (a : Anchor) :
    (lap start n).count a ≤ 1 := by
  have hsplit := lap_add start n (Anchor.rotation.length - n)
  rw [Nat.add_sub_cancel' h] at hsplit
  have hround := count_lap_round start a
  rw [hsplit, List.count_append] at hround
  omega

/-- Going round, the anchors are taken equally often up to one. -/
theorem count_lap_le_count_lap (start n : Nat) (a b : Anchor) :
    (lap start n).count a ≤ (lap start n).count b + 1 := by
  induction n using Nat.strongRecOn generalizing start with
  | ind n ih =>
    rcases Nat.lt_or_ge n Anchor.rotation.length with hn | hn
    · have := count_lap_le start (Nat.le_of_lt hn) a
      omega
    · have hpos : 0 < Anchor.rotation.length := by decide
      have hrest := ih (n - Anchor.rotation.length) (by omega) (start + Anchor.rotation.length)
      have hsplit := lap_add start Anchor.rotation.length (n - Anchor.rotation.length)
      rw [Nat.add_sub_cancel' hn] at hsplit
      rw [hsplit, List.count_append, List.count_append, count_lap_round, count_lap_round]
      omega

/-- The turns are the anchors that are left, as far as they go, and then laps. -/
theorem map_turnFrom (left : List Anchor) (n : Nat) :
    (List.range n).map (turnFrom 0 left) =
      left.take n ++ lap (resume 0 left) (n - left.length) := by
  apply List.ext_getElem?
  intro j
  rcases Nat.lt_or_ge j n with hj | hj
  · rw [List.getElem?_map, List.getElem?_range hj, Option.map_some]
    rcases Nat.lt_or_ge j left.length with hl | hl
    · have hlen : j < (left.take n).length := by
        rw [List.length_take]
        omega
      rw [List.getElem?_append_left hlen, List.getElem?_take_of_lt hj,
        List.getElem?_eq_getElem hl, turnFrom, List.getElem?_eq_getElem hl]
    · have htake : left.take n = left := List.take_of_length_le (by omega)
      have hlap : j - left.length < n - left.length := by omega
      rw [htake, List.getElem?_append_right hl, lap, List.getElem?_map,
        List.getElem?_range hlap, turnFrom, List.getElem?_eq_none hl]
      rfl
  · have hlen : (left.take n ++ lap (resume 0 left) (n - left.length)).length = n := by
      simp only [List.length_append, List.length_take, lap, List.length_map, List.length_range]
      omega
    rw [List.getElem?_eq_none (by simpa using hj), List.getElem?_eq_none (by omega)]

section Batch
variable {asked : List (Option Anchor)}

theorem nodup_freeAnchors (asked : List (Option Anchor)) : (freeAnchors asked).Nodup :=
  nodup_rotation.filter _

theorem mem_freeAnchors {a : Anchor} : a ∈ freeAnchors asked ↔ some a ∉ asked := by
  simp [freeAnchors, mem_rotation]

/-- Where no two legends ask for one anchor, each anchor is asked for once or free. -/
theorem count_asked_add_free (h : (asked.filterMap id).Nodup) (a : Anchor) :
    asked.count (some a) + (freeAnchors asked).count a = 1 := by
  have hasked : asked.count (some a) = (asked.filterMap id).count a := by
    rw [List.count_filterMap]
    rfl
  rw [hasked, h.count, (nodup_freeAnchors asked).count]
  by_cases ha : some a ∈ asked
  · simp [mem_freeAnchors, ha]
  · simp [mem_freeAnchors, ha]

theorem balanced_fill (h : (asked.filterMap id).Nodup) (a b : Anchor) :
    (fill (turnFrom 0 (freeAnchors asked)) asked).count a ≤
      (fill (turnFrom 0 (freeAnchors asked)) asked).count b + 1 := by
  simp only [count_fill, map_turnFrom, List.count_append]
  have ha := count_asked_add_free h a
  have hb := count_asked_add_free h b
  rcases Nat.le_total (asked.count none) (freeAnchors asked).length with hn | hn
  · have htake : ((freeAnchors asked).take (asked.count none)).count a ≤
        (freeAnchors asked).count a := (List.take_sublist _ _).count_le a
    rw [Nat.sub_eq_zero_of_le hn]
    have hzero : ∀ c, (lap (resume 0 (freeAnchors asked)) 0).count c = 0 := fun _ => rfl
    rw [hzero, hzero]
    omega
  · rw [List.take_of_length_le hn]
    have := count_lap_le_count_lap (resume 0 (freeAnchors asked))
      (asked.count none - (freeAnchors asked).length) a b
    omega

/-- Later legends have later turns. -/
theorem turnOf_lt_turnOf {i k : Nat} (hik : i < k) (hi : asked[i]? = some none) :
    turnOf asked i < turnOf asked k := by
  have hstep : turnOf asked (i + 1) = turnOf asked i + 1 := by
    simp [turnOf, List.take_add_one, hi]
  have hmono : turnOf asked (i + 1) ≤ turnOf asked k :=
    (List.take_sublist_take_left hik).count_le none
  omega

/-- A free anchor goes to one legend alone. -/
theorem unshared_fill {i k : Nat} (hik : i ≠ k) (hi : asked[i]? = some none)
    (hfree : turnOf asked i < (freeAnchors asked).length) (hk : k < asked.length)
    (hfree' : asked[k]? = some none → turnOf asked k < (freeAnchors asked).length) :
    (fill (turnFrom 0 (freeAnchors asked)) asked)[i]? ≠
      (fill (turnFrom 0 (freeAnchors asked)) asked)[k]? := by
  intro heq
  have hturn : ∀ j, (hj : j < (freeAnchors asked).length) →
      turnFrom 0 (freeAnchors asked) j = (freeAnchors asked)[j] := by
    intro j hj
    rw [turnFrom, List.getElem?_eq_getElem hj]
  rw [getElem?_fill, getElem?_fill, hi, List.getElem?_eq_getElem hk, Option.map_some,
    Option.map_some, Option.some_inj, Option.getD_none, hturn _ hfree] at heq
  cases hplace : asked[k] with
  | some b =>
    -- What another legend asks for is not free.
    rw [hplace, Option.getD_some] at heq
    have hmem : some b ∈ asked := hplace ▸ List.getElem_mem hk
    have hb : b ∈ freeAnchors asked := heq ▸ List.getElem_mem hfree
    exact mem_freeAnchors.mp hb hmem
  | none =>
    have hk' : asked[k]? = some none := by rw [List.getElem?_eq_getElem hk, hplace]
    rw [hplace, Option.getD_none, hturn _ (hfree' hk'), (nodup_freeAnchors asked).getElem_inj_iff]
      at heq
    rcases Nat.lt_or_gt_of_ne hik with hlt | hgt
    · have := turnOf_lt_turnOf hlt hi
      omega
    · have := turnOf_lt_turnOf hgt hk'
      omega

theorem spread_anchors (asked : List (Option Anchor)) : Spread asked (anchors asked) := by
  rw [anchors_eq_fill]
  constructor
  · exact length_fill _ asked
  · intro i a hi
    rw [getElem?_fill, hi]
    rfl
  · intro i hi
    rw [getElem?_fill, hi]
    rfl
  · intro i k hik hi hfree hk hfree'
    exact unshared_fill hik hi hfree hk hfree'
  · exact balanced_fill

end Batch

namespace Legend

theorem map_position_synthesizeAll (metrics : Metrics Float32) (requests : List LegendRequest) :
    (synthesizeAll metrics requests).map position =
      anchors (requests.map (·.options.position)) := by
  have hlen : (anchors (requests.map (·.options.position))).length = requests.length := by
    rw [anchors_eq_fill, length_fill, List.length_map]
  rw [synthesizeAll, ← List.map_uncurry_zip_eq_zipWith, List.map_map]
  exact List.map_snd_zip (Nat.le_of_eq hlen)

/-- Every legend that asks for an anchor gets it; the others take the free anchors in the order of
the rotation, each alone, and after them all anchors in turn. -/
theorem synthesizeAll_spread (metrics : Metrics Float32) (requests : List LegendRequest) :
    Spread (requests.map (·.options.position)) ((synthesizeAll metrics requests).map position) := by
  rw [map_position_synthesizeAll]
  exact spread_anchors _

/-- Ten legends, of which one asks for a corner. -/
def crowd : List LegendRequest :=
  [none, none, some .topRight, none, none, none, none, none, none, none].map fun place =>
    ⟨.category ⟨"fill", "kind", [], .omitted⟩, { LegendOptions.none with position := place }⟩

theorem crowd_spread :
    Spread (crowd.map (·.options.position)) ((synthesizeAll .standard crowd).map position) ∧
    (synthesizeAll .standard crowd).map position =
      [.bottomRight, .topLeft, .topRight, .bottomLeft, .top, .right, .bottom, .left, .topRight,
        .bottomRight] := by
  refine ⟨synthesizeAll_spread .standard crowd, ?_⟩
  rw [map_position_synthesizeAll]
  decide

end Legend

end Cartouche
