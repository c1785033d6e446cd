import Cartouche.Proofs.Expansion
import Cartouche.Proofs.Trimming
import Mathlib.Data.List.Nodup
import Mathlib.Data.List.Perm.Subperm

/-! Ids are free when they are handed out, so that no two elements of an expansion share one. -/
namespace Cartouche
open Decimal Text

theorem Table.mem_keys_put {α : Type} (t : Table α) (key : String) (value : α) (k : String) :
    k ∈ (t.put key value).keys ↔ k = key ∨ k ∈ t.keys := by
  rw [Table.keys_put]
  by_cases hk : key ∈ t.keys
  · simp only [hk, if_true]
    constructor
    · exact Or.inr
    · rintro (rfl | h)
      · exact hk
      · exact h
  · simp [hk, or_comm]

namespace IdTable
variable {taken : Table Nat} {base name : String}

theorem suffixed_injective (base : String) : Function.Injective (suffixed base) := by
  intro m n h
  simp only [suffixed, String.append_right_inj] at h
  exact digitsOf_injective (String.ofList_injective h)

/-- A search that ends at a number in use has met nothing else. -/
theorem taken_of_firstFree_taken {tries n : Nat}
    (h : suffixed base (firstFree taken base tries n) ∈ taken.keys) :
    ∀ k ≤ tries, suffixed base (n + k) ∈ taken.keys := by
  induction tries generalizing n with
  | zero =>
    intro k hk
    obtain rfl : k = 0 := by omega
    exact h
  | succ tries ih =>
    unfold firstFree at h
    split at h
    · next hn =>
      have hn' : suffixed base n ∈ taken.keys := by
        by_contra hne
        rw [(Table.get?_eq_none_iff _ _).mpr hne] at hn
        simp at hn
      intro k hk
      cases k with
      | zero => exact hn'
      | succ k =>
        have := ih h k (by omega)
        rwa [Nat.add_right_comm, Nat.add_assoc] at this
    · next hn =>
      rw [Option.not_isSome_iff_eq_none, Table.get?_eq_none_iff] at hn
      exact absurd h hn

/-- One more try than there are ids is enough. -/
theorem firstFree_not_mem (taken : Table Nat) (base : String) (n : Nat) :
    suffixed base (firstFree taken base (taken.length + 1) n) ∉ taken.keys := by
  intro h
  have hall := taken_of_firstFree_taken h
  let tried := (List.range (taken.length + 2)).map fun k => suffixed base (n + k)
  have hnodup : tried.Nodup := by
    apply List.Nodup.map _ List.nodup_range
    intro a b hab
    have := suffixed_injective base hab
    omega
  have hsub : tried ⊆ taken.keys := by
    intro s hs
    obtain ⟨k, hk, rfl⟩ := List.mem_map.mp hs
    exact hall k (by have := List.mem_range.mp hk; omega)
  have hle := (List.subperm_of_subset hnodup hsub).length_le
  rw [List.length_map, List.length_range, Table.keys, List.length_map] at hle
  omega

variable {ids : IdTable} {requested : Option String}

@[simp] theorem base_taken (name : String) (ids : IdTable) (requested : Option String) :
    (ids.base name requested).2.taken = ids.taken := by
  simp only [base]
  split <;> rfl

theorem suffixed_ne_empty (base : String) (n : Nat) : suffixed base n ≠ "" := by
  intro h
  have := congrArg String.toList h
  simp [suffixed] at this

theorem base_ne_empty (name : String) (ids : IdTable) (requested : Option String) :
    (ids.base name requested).1 ≠ "" := by
  simp only [base]
  split
  · exact suffixed_ne_empty _ _
  · next h =>
    intro he
    exact h (by simpa using he)

/-- All that handing out an id can do: the base goes out while it is free, and after that its
first free suffix. -/
theorem allocate_cases (name : String) (ids : IdTable) (requested : Option String) :
    ((ids.base name requested).1 ∉ ids.taken.keys ∧
      (ids.allocate name requested).1 = (ids.base name requested).1 ∧
      (ids.allocate name requested).2.taken = ids.taken.put (ids.base name requested).1 1) ∨
    ∃ n, (ids.base name requested).1 ∈ ids.taken.keys ∧
      suffixed (ids.base name requested).1 n ∉ ids.taken.keys ∧
      (ids.allocate name requested).1 = suffixed (ids.base name requested).1 n ∧
      (ids.allocate name requested).2.taken = (ids.taken.put (ids.base name requested).1 n).put
        (suffixed (ids.base name requested).1 n) 1 := by
  cases hb : ids.taken.get? (ids.base name requested).1 with
  | none =>
    left
    refine ⟨(Table.get?_eq_none_iff _ _).mp hb, ?_, ?_⟩ <;> simp [allocate, hb]
  | some uses =>
    right
    refine ⟨firstFree ids.taken (ids.base name requested).1 (ids.taken.length + 1) (uses + 1),
      ?_, firstFree_not_mem _ _ _, ?_, ?_⟩
    · by_contra hne
      rw [(Table.get?_eq_none_iff _ _).mpr hne] at hb
      cases hb
    · simp [allocate, hb]
    · simp [allocate, hb]

/-- Whether a request leaves the id to the counter. -/
def isBlankRequest (requested : Option String) : Bool :=
  (trimmed (requested.getD "")).isEmpty

theorem base_of_blank (name : String) (ids : IdTable) (h : isBlankRequest requested) :
    ids.base name requested =
      (suffixed name (ids.counter + 1), { ids with counter := ids.counter + 1 }) := by
  rw [isBlankRequest] at h
  rw [base, if_pos h]

theorem base_of_not_blank (name : String) (ids : IdTable) (h : isBlankRequest requested = false) :
    ids.base name requested = (trimmed (requested.getD ""), ids) := by
  rw [isBlankRequest] at h
  rw [base, h]
  exact if_neg Bool.false_ne_true

/-- Only requests that leave the id to the counter are counted. -/
theorem counter_allocate (name : String) (ids : IdTable) (requested : Option String) :
    (ids.allocate name requested).2.counter =
      ids.counter + if isBlankRequest requested then 1 else 0 := by
  have hbase : (ids.allocate name requested).2.counter = (ids.base name requested).2.counter := by
    simp only [allocate]
    cases (ids.base name requested).2.taken.get? (ids.base name requested).1 <;> rfl
  rw [hbase]
  cases h : isBlankRequest requested with
  | true =>
    rw [base_of_blank name ids h]
    rfl
  | false =>
    rw [base_of_not_blank name ids h]
    rfl

theorem allocate_not_mem (name : String) (ids : IdTable) (requested : Option String) :
    (ids.allocate name requested).1 ∉ ids.taken.keys := by
  rcases allocate_cases name ids requested with ⟨hfree, hid, _⟩ | ⟨n, _, hfree, hid, _⟩
  · rw [hid]
    exact hfree
  · rw [hid]
    exact hfree

/-- The keys of the table are the ids handed out so far, and no others. -/
theorem mem_keys_allocate (name : String) (ids : IdTable) (requested : Option String)
    (k : String) : k ∈ (ids.allocate name requested).2.taken.keys ↔
      k = (ids.allocate name requested).1 ∨ k ∈ ids.taken.keys := by
  rcases allocate_cases name ids requested with ⟨_, hid, ht⟩ | ⟨n, hused, _, hid, ht⟩
  · rw [hid, ht, Table.mem_keys_put]
  · rw [hid, ht, Table.mem_keys_put, Table.mem_keys_put]
    constructor
    · rintro (h | h | h)
      · exact Or.inl h
      · rw [h]
        exact Or.inr hused
      · exact Or.inr h
    · rintro (h | h)
      · exact Or.inl h
      · exact Or.inr (Or.inr h)

theorem allocate_ne_empty (name : String) (ids : IdTable) (requested : Option String) :
    (ids.allocate name requested).1 ≠ "" := by
  rcases allocate_cases name ids requested with ⟨_, hid, _⟩ | ⟨n, _, _, hid, _⟩
  · rw [hid]
    exact base_ne_empty name ids requested
  · rw [hid]
    exact suffixed_ne_empty _ n

theorem suffixed_ne_self (base : String) (n : Nat) : suffixed base n ≠ base := by
  intro h
  have hlen := congrArg (fun s => s.toList.length) h
  simp [suffixed] at hlen

theorem isTrimmed_suffixed (h : IsTrimmed base.toList) (hne : base ≠ "") (n : Nat) :
    IsTrimmed (suffixed base n).toList := by
  have hdash : IsTrimmed "-".toList := isTrimmed_singleton (by decide)
  have hbase : base.toList ≠ [] := by simpa using hne
  simp only [suffixed, String.toList_append, String.toList_ofList]
  exact (h.append hdash hbase (by simp)).append (isTrimmed_digitsOf n) (by simp)
    Nat.toDigits_ne_nil

/-- A request is granted as it stands exactly where it is free and no blanks are around it. -/
theorem allocate_eq_iff {request : String} (h : trimmed request ≠ "") :
    (ids.allocate name (some request)).1 = request ↔
      trimmed request = request ∧ request ∉ ids.taken.keys := by
  have hbase : (ids.base name (some request)).1 = trimmed request := by
    simp [base, h]
  rcases allocate_cases name ids (some request) with ⟨hfree, hid, _⟩ | ⟨n, hused, _, hid, _⟩
  · rw [hbase] at hid hfree
    rw [hid]
    constructor
    · intro he
      refine ⟨he, ?_⟩
      rwa [he] at hfree
    · exact And.left
  · rw [hbase] at hid hused
    rw [hid]
    constructor
    · intro he
      have ht : IsTrimmed (trimmed request).toList := by
        rw [trimmed, String.toList_ofList]
        exact isTrimmed_trim _
      have hself : trimmed request = request := by
        rw [trimmed_eq_self_iff, ← he]
        exact isTrimmed_suffixed ht h n
      rw [hself] at he
      exact absurd he (suffixed_ne_self request n)
    · rintro ⟨he, hfree⟩
      rw [he] at hused
      exact absurd hused hfree

end IdTable

section Assignment
attribute [local irreducible] IdTable.allocate

variable {template : String} {ids : IdTable} {d : Draft} {rest drafts : List Draft} {e : Element}

theorem assignIds_cons (template : String) (ids : IdTable) (d : Draft) (rest : List Draft) :
    assignIds template ids (d :: rest) =
      ⟨(ids.allocate template d.requested).1, d.body, d.style, template⟩ ::
        assignIds template (ids.allocate template d.requested).2 rest := by
  rw [assignIds]

/-- The table of ids after some drafts. -/
def idsAfter (template : String) (ids : IdTable) (drafts : List Draft) : IdTable :=
  drafts.foldl (fun ids d => (ids.allocate template d.requested).2) ids

/-- Ids are handed out from first to last, so that later requests change none of them. -/
theorem assignIds_append (template : String) (ids : IdTable) (drafts later : List Draft) :
    assignIds template ids (drafts ++ later) =
      assignIds template ids drafts ++ assignIds template (idsAfter template ids drafts) later := by
  induction drafts generalizing ids with
  | nil => rfl
  | cons d rest ih =>
    rw [List.cons_append, assignIds_cons, assignIds_cons, ih, idsAfter, idsAfter, List.foldl_cons,
      List.cons_append]

theorem id_not_mem_of_mem_assignIds (h : e ∈ assignIds template ids drafts) :
    e.id ∉ ids.taken.keys := by
  induction drafts generalizing ids with
  | nil => cases h
  | cons d rest ih =>
    rw [assignIds_cons] at h
    rcases List.mem_cons.mp h with he | h
    · rw [he]
      exact IdTable.allocate_not_mem template ids d.requested
    · intro hk
      exact ih h ((IdTable.mem_keys_allocate _ _ _ _).mpr (Or.inr hk))

theorem nodup_id_assignIds (template : String) (ids : IdTable) (drafts : List Draft) :
    ((assignIds template ids drafts).map Element.id).Nodup := by
  induction drafts generalizing ids with
  | nil => exact List.nodup_nil
  | cons d rest ih =>
    rw [assignIds_cons, List.map_cons, List.nodup_cons]
    refine ⟨?_, ih _⟩
    intro hmem
    obtain ⟨e, he, hid⟩ := List.mem_map.mp hmem
    exact id_not_mem_of_mem_assignIds he
      ((IdTable.mem_keys_allocate _ _ _ _).mpr (Or.inl hid))

theorem id_ne_empty_of_mem_assignIds (h : e ∈ assignIds template ids drafts) : e.id ≠ "" := by
  induction drafts generalizing ids with
  | nil => cases h
  | cons d rest ih =>
    rw [assignIds_cons] at h
    rcases List.mem_cons.mp h with he | h
    · rw [he]
      exact IdTable.allocate_ne_empty template ids d.requested
    · exact ih h

end Assignment

@[simp] theorem map_id_linkEdges (template : String) (elements : List Element) :
    (linkEdges template elements).map Element.id = elements.map Element.id := by
  simp [linkEdges]

namespace Template

/-- No two elements of an expansion, be they nodes or edges, share an id, and none has an empty
one, whatever ids the records ask for. -/
theorem expand_ids_distinct (t : Template) (sources : Table (List Value)) (out : Expansion)
    (h : t.expand sources = .ok out) :
    (out.elements.map Element.id).Nodup ∧ ∀ e ∈ out.elements, e.id ≠ "" := by
  obtain ⟨_, records, _, _, rfl⟩ := expand_eq_ok_iff.mp h
  simp only [expansion, map_id_linkEdges]
  refine ⟨nodup_id_assignIds _ _ _, ?_⟩
  intro e he
  have hid : e.id ∈ (linkEdges _ _).map Element.id := List.mem_map_of_mem he
  rw [map_id_linkEdges] at hid
  obtain ⟨e', he', hid'⟩ := List.mem_map.mp hid
  rw [← hid']
  exact id_ne_empty_of_mem_assignIds he'

/-- Nodes with the ids that records ask for, and edges with an id of their own making. -/
def crowd : Template where
  id := "t"
  source := "requests"
  filter := none
  nodes := [⟨some "${id}", "", none, none, []⟩]
  edges := [⟨none, "${id}", "x", none, none, []⟩]
  lookup := .lenient
  onError := .skip

/-- Suffixed forms, counter forms and an edge's id, before and after they go out by themselves. -/
def requests : Table (List Value) :=
  [("requests", ["a", "a-2", "a", "", "t-1", "t-a-x"].map fun id => .object [("id", .text id)])]

theorem crowd_ids_distinct : ∃ out, crowd.expand requests = .ok out ∧
    out.elements.map Element.id = ["a", "t-a-x", "a-2", "t-a-2-x", "a-3", "t-a-x-2", "t-1", "t-1-2",
      "t-t-1-x", "t-a-x-3", "t-t-a-x-x"] ∧
    (out.elements.map Element.id).Nodup ∧ ∀ e ∈ out.elements, e.id ≠ "" := by
  refine ⟨_, rfl, ?_, ?_⟩
  · decide +kernel
  · exact expand_ids_distinct crowd requests _ rfl

end Template

end Cartouche
