import Cartouche.Proofs.Linking

/-!
Which id a node asks for. One with an id of its own never looks at its label, also where its id
expands to nothing; any other takes the id that its label gives, or else the next of the counter.
-/
namespace Cartouche
open Decimal Text

/-- An id goes out as it is wanted while it is free, and otherwise with a number behind it. -/
structure Granted (taken : List String) (wanted id : String) : Prop where
  free : wanted ∉ taken → id = wanted
  used : wanted ∈ taken → ∃ n, id = IdTable.suffixed wanted n ∧ id ∉ taken

namespace Template
variable (t : Template) (record : Value)

/-- What the id of a blueprint expands to, blanks around it apart, if anything is left. -/
def ownId? (b : NodeBlueprint) : Option String := do
  let text ← b.id
  let expanded ← (t.text record "id" text).toOption
  if trimmed expanded = "" then none else some (trimmed expanded)

/-- What an id should be: the node's own, or else the one its label gives, or else number `n` of
the counter. -/
def promisedId (b : NodeBlueprint) (n : Nat) : String :=
  ((t.ownId? record b).or (t.labelId? record b.label)).getD (IdTable.suffixed t.id n)

/-- What a node asks for, with `n` the next number of the counter. -/
def wantedId (b : NodeBlueprint) (n : Nat) : String :=
  match b.id with
  | some _ => (t.ownId? record b).getD (IdTable.suffixed t.id n)
  | none => ((t.labelId? record b.label).map trimmed).getD (IdTable.suffixed t.id n)

/-- Where a node asks for what it should: its own id says something, or its label gives no id; or
it has no id of its own, and no blanks stand before the id its label gives; or the counter happens
to give the very id that the label would have given in place of a blank one. -/
def AsksAsPromised (b : NodeBlueprint) (n : Nat) : Prop :=
  (t.ownId? record b).isSome ∨ ∀ id ∈ t.labelId? record b.label,
    if b.id.isSome then id = IdTable.suffixed t.id n else trimmed id = id

variable {t : Template} {record : Value} {b : NodeBlueprint} {n : Nat}

theorem labelId?_eq_some_iff {label id : String} : t.labelId? record label = some id ↔
    ∃ value ∈ t.labelValue? record label, slug value.display ≠ "" ∧
      id = derivedId t.id value.display := by
  have hlabel : t.labelId? record label = (t.labelValue? record label).bind fun value =>
      if (slug value.display).isEmpty then none else some (derivedId t.id value.display) := by
    simp only [labelId?, labelValue?, derivedId, bind, Option.bind_assoc]
  rw [hlabel, Option.bind_eq_some_iff]
  constructor
  · rintro ⟨value, hvalue, hid⟩
    split at hid
    · cases hid
    · next hslug => exact ⟨value, hvalue, by simpa using hslug, (Option.some.inj hid).symm⟩
  · rintro ⟨value, hvalue, hslug, rfl⟩
    exact ⟨value, hvalue, if_neg (by simpa using hslug)⟩

/-- An id that a label gives is never blank. -/
theorem trimmed_labelId?_ne_empty {label id : String} (h : t.labelId? record label = some id) :
    trimmed id ≠ "" := by
  obtain ⟨value, _, _, rfl⟩ := labelId?_eq_some_iff.mp h
  exact trimmed_derivedId_ne_empty t.id _

/-- What an id asks for comes from the request that the draft of the node makes. -/
theorem base_eq_wantedId {requested : Option String} {ids : IdTable}
    (h : t.requestedId record b = .ok requested) :
    (ids.base t.id requested).1 = t.wantedId record b (ids.counter + 1) := by
  unfold requestedId at h
  unfold wantedId ownId?
  cases hid : b.id with
  | some text =>
    rw [hid] at h
    obtain ⟨expanded, hexpanded, rfl⟩ := map_eq_ok_iff.mp h
    cases hblank : IdTable.isBlankRequest (some expanded) with
    | true =>
      have hempty : trimmed expanded = "" := by simpa [IdTable.isBlankRequest] using hblank
      rw [IdTable.base_of_blank _ _ hblank]
      simp [hexpanded, Except.toOption, hempty]
    | false =>
      have hsome : trimmed expanded ≠ "" := by simpa [IdTable.isBlankRequest] using hblank
      rw [IdTable.base_of_not_blank _ _ hblank]
      simp [hexpanded, Except.toOption, hsome]
  | none =>
    rw [hid] at h
    cases h
    cases hlabel : t.labelId? record b.label with
    | none =>
      have hblank : IdTable.isBlankRequest none = true := by decide
      rw [IdTable.base_of_blank _ _ hblank]
      rfl
    | some id =>
      have hsome := trimmed_labelId?_ne_empty hlabel
      have hblank : IdTable.isBlankRequest (some id) = false := by
        simpa [IdTable.isBlankRequest] using hsome
      rw [IdTable.base_of_not_blank _ _ hblank]
      rfl

theorem wantedId_eq_promisedId_iff :
    t.wantedId record b n = t.promisedId record b n ↔ t.AsksAsPromised record b n := by
  unfold wantedId promisedId AsksAsPromised
  cases hid : b.id with
  | none =>
    have hown : t.ownId? record b = none := by rw [ownId?, hid]; rfl
    cases hlabel : t.labelId? record b.label <;> simp [hown]
  | some text =>
    cases hown : t.ownId? record b with
    | some id => simp
    | none =>
      cases hlabel : t.labelId? record b.label with
      | none => simp
      | some id => simp [eq_comm]

theorem granted_allocate (name : String) (ids : IdTable) (requested : Option String)
    {taken : List String} (h : ∀ k, k ∈ ids.taken.keys ↔ k ∈ taken) :
    Granted taken (ids.base name requested).1 (ids.allocate name requested).1 := by
  have hfresh := IdTable.allocate_not_mem name ids requested
  rw [h] at hfresh
  rcases IdTable.allocate_cases name ids requested with ⟨hfree, hid, _⟩ | ⟨n, hused, _, hid, _⟩
  · exact ⟨fun _ => hid, fun hused => absurd ((h _).mpr hused) hfree⟩
  · exact ⟨fun hfree => absurd ((h _).mp hused) hfree, fun _ => ⟨n, hid, hfresh⟩⟩

/-- Every node has the id that it asks for, up to a number behind it where that is taken: its own,
if it has one that says something; the one its label gives, if it has none of its own; and else the
next of the counter, behind all earlier elements that left their ids to it. This is the id that it
was promised in all cases but two, which are told exactly. -/
theorem node_ids_requested (t : Template) (sources : Table (List Value)) (records : List Value)
    (out : Expansion) (before after : List Emission) (m : Emission) (record : Value)
    (b : NodeBlueprint) (hs : sources.get? t.source = some records)
    (h : t.expand sources = .ok out) (hm : t.emissions records = before ++ m :: after)
    (ho : m.origin = .node record b) :
    out.elements = (t.emissions records).map Emission.element ∧
    Granted (before.map fun m => m.element.id) (t.wantedId record b (t.nextNumber before))
      m.element.id ∧
    (t.wantedId record b (t.nextNumber before) = t.promisedId record b (t.nextNumber before) ↔
      t.AsksAsPromised record b (t.nextNumber before)) := by
  obtain ⟨_, records', hs', _, rfl⟩ := expand_eq_ok_iff.mp h
  obtain rfl : records' = records := Option.some.inj (hs'.symm.trans hs)
  obtain ⟨ids, d, hd, hkeys, hcounter, he⟩ := emission_cases hm
  have hdraft := (mem_drafted.mp hd).2
  rw [ho] at hdraft
  have hgranted := granted_allocate t.id ids d.requested hkeys
  rw [base_eq_wantedId (parts_of_node hdraft).2.1, hcounter] at hgranted
  refine ⟨(map_element_emissions t _).symm, ?_, wantedId_eq_promisedId_iff⟩
  rw [he]
  dsimp only
  exact hgranted

/-- Cards with a key, each of which shows a name. -/
def cards : Template where
  id := "t"
  source := "people"
  filter := none
  nodes := [⟨some "${key}", "${name}", none, none, []⟩]
  edges := []
  lookup := .lenient
  onError := .skip

def card (key name : String) : Value :=
  .object [("key", .text key), ("name", .text name)]

/-- The first card has a blank key and no name to speak of, and the third has the second's key. -/
def drawer : List Value :=
  [card " " "***", card " x " "Ann", card "x" "Bo"]

theorem drawer_ids_requested : ∃ out before m, cards.expand [("people", drawer)] = .ok out ∧
    cards.emissions drawer = before ++ [m] ∧ m.element.id = "x-2" ∧
    out.elements.map Element.id = ["t-1", "x", "x-2"] ∧
    cards.promisedId (card "x" "Bo") ⟨some "${key}", "${name}", none, none, []⟩
      (cards.nextNumber before) = "x" ∧
    Granted ["t-1", "x"] "x" "x-2" := by
  have hsplit : ∃ before m, cards.emissions drawer = before ++ [m] ∧
      before.map (fun m => m.element.id) = ["t-1", "x"] ∧ m.element.id = "x-2" ∧
      m.origin = .node (card "x" "Bo") ⟨some "${key}", "${name}", none, none, []⟩ := by
    refine ⟨(cards.emissions drawer).take 2,
      (cards.emissions drawer).get ⟨2, by decide +kernel⟩, rfl, by decide +kernel,
      by decide +kernel, rfl⟩
  obtain ⟨before, m, hm, hids, hid, ho⟩ := hsplit
  have hout : ∃ out, cards.expand [("people", drawer)] = .ok out ∧
      out.elements.map Element.id = ["t-1", "x", "x-2"] := by
    decide +kernel
  obtain ⟨out, hexpand, hout⟩ := hout
  have hown : cards.ownId? (card "x" "Bo") ⟨some "${key}", "${name}", none, none, []⟩ =
      some "x" := by
    decide +kernel
  obtain ⟨_, hgranted, hpromise⟩ := node_ids_requested cards [("people", drawer)] drawer _ before []
    m (card "x" "Bo") _ rfl hexpand hm ho
  have hkept := hpromise.mpr (Or.inl (by rw [hown]; rfl))
  have hpromised : cards.promisedId (card "x" "Bo") ⟨some "${key}", "${name}", none, none, []⟩
      (cards.nextNumber before) = "x" := by
    rw [promisedId, hown]
    rfl
  rw [hkept, hpromised, hids, hid] at hgranted
  exact ⟨out, before, m, hexpand, hm, hid, hout, hpromised, hgranted⟩

/-- A card with a blank key takes the counter's number, though its label would have given an id. -/
theorem cards_break_promise : ∃ out m, cards.expand [("people", [card " " "Ann"])] = .ok out ∧
    cards.emissions [card " " "Ann"] = [m] ∧
    m.origin = .node (card " " "Ann") ⟨some "${key}", "${name}", none, none, []⟩ ∧
    m.element.id = "t-1" ∧
    cards.labelId? (card " " "Ann") "${name}" = some "t-ann" ∧
    cards.promisedId (card " " "Ann") ⟨some "${key}", "${name}", none, none, []⟩
      (cards.nextNumber []) = "t-ann" ∧
    ¬ Granted [] (cards.promisedId (card " " "Ann") ⟨some "${key}", "${name}", none, none, []⟩
      (cards.nextNumber [])) m.element.id := by
  have hpromised : cards.promisedId (card " " "Ann")
      ⟨some "${key}", "${name}", none, none, []⟩ (cards.nextNumber []) = "t-ann" := by
    decide +kernel
  have hid : ∃ m, cards.emissions [card " " "Ann"] = [m] ∧
      m.origin = .node (card " " "Ann") ⟨some "${key}", "${name}", none, none, []⟩ ∧
      m.element.id = "t-1" := by
    refine ⟨(cards.emissions [card " " "Ann"]).get ⟨0, by decide +kernel⟩, rfl, rfl, ?_⟩
    decide +kernel
  obtain ⟨m, hm, ho, hid⟩ := hid
  refine ⟨_, m, rfl, hm, ho, hid, by decide +kernel, hpromised, ?_⟩
  intro h
  have hfree := h.free List.not_mem_nil
  rw [hpromised, hid] at hfree
  exact absurd hfree (by decide)

end Template

end Cartouche
