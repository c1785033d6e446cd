import Cartouche.Table
import Mathlib.Data.List.Sort
import Mathlib.Data.String.Basic

/-!
Texts in the order of their bytes, which is that of their characters, and tables whose keys ascend
in it. Such a table is told by its lookups alone: sorting a table and filling one in its order come
to the same.
-/
namespace Cartouche

/-- The bytes of a text. -/
def bytes (s : String) : List UInt8 :=
  s.toUTF8.data.toList

/-- The last `k` digits of a number in base 64, marked as bytes that follow another. -/
def trail (m : Nat) : Nat → List UInt8
  | 0 => []
  | k + 1 => UInt8.ofNat (m / 64 ^ k % 64 + 128) :: trail m k

/-- How many bytes follow the first one of a character, and by how much that one is raised. -/
inductive Encodes (m : Nat) : Nat → Nat → Prop where
  | one (h : m < 128) : Encodes m 0 0
  | two (hlow : 128 ≤ m) (h : m < 2048) : Encodes m 1 192
  | three (hlow : 2048 ≤ m) (h : m < 65536) : Encodes m 2 224
  | four (hlow : 65536 ≤ m) (h : m < 1114112) : Encodes m 3 240

variable {m n k l base base' : Nat}

theorem bytes_eq_flatMap (s : String) : bytes s = s.toList.flatMap String.utf8EncodeChar := by
  have h := @String.toByteArray_ofList s.toList
  rw [String.ofList_toList] at h
  simp [bytes, h, List.utf8Encode]

theorem toNat_val_lt (c : Char) : c.val.toNat < 1114112 := by
  obtain h | ⟨_, h⟩ := c.valid
  · exact Nat.lt_trans h (by decide)
  · exact h

theorem exists_encodes (c : Char) : ∃ k base, Encodes c.val.toNat k base ∧
    String.utf8EncodeChar c =
      UInt8.ofNat (c.val.toNat / 64 ^ k + base) :: trail c.val.toNat k := by
  have hmax := toNat_val_lt c
  unfold String.utf8EncodeChar
  dsimp only
  generalize c.val.toNat = m at hmax ⊢
  split
  · refine ⟨0, 0, .one (by omega), ?_⟩
    simp [trail]
  · split
    · have hlead : m / 64 % 32 = m / 64 := by omega
      refine ⟨1, 192, .two (by omega) (by omega), ?_⟩
      simp [trail, hlead]
    · split
      · have hlead : m / 4096 % 16 = m / 4096 := by omega
        refine ⟨2, 224, .three (by omega) (by omega), ?_⟩
        simp [trail, hlead]
      · have hlead : m / 262144 % 8 = m / 262144 := by omega
        refine ⟨3, 240, .four (by omega) (by omega), ?_⟩
        simp [trail, hlead]

theorem Encodes.lead_lt (h : Encodes m k base) : m / 64 ^ k + base < UInt8.size := by
  cases h <;> simp [UInt8.size] <;> omega

/-- The greater of two numbers has as many bytes, or a greater first byte. -/
theorem Encodes.lead_lt_lead (hm : Encodes m k base) (hn : Encodes n l base') (h : m < n) :
    (k = l ∧ base = base') ∨ m / 64 ^ k + base < n / 64 ^ l + base' := by
  cases hm <;> cases hn <;> omega

/-- Bytes that follow ascend with the number, while what stands before them is the same. -/
theorem trail_lt (h : m < n) (hk : m / 64 ^ k = n / 64 ^ k) (x y : List UInt8) :
    trail m k ++ x < trail n k ++ y := by
  induction k with
  | zero =>
    simp at hk
    omega
  | succ k ih =>
    rw [Nat.pow_succ, ← Nat.div_div_eq_div_mul, ← Nat.div_div_eq_div_mul] at hk
    simp only [trail, List.cons_append, List.cons_lt_cons_iff]
    by_cases heq : m / 64 ^ k = n / 64 ^ k
    · exact Or.inr ⟨by rw [heq], ih heq⟩
    · have hle : m / 64 ^ k ≤ n / 64 ^ k := Nat.div_le_div_right h.le
      left
      rw [UInt8.ofNat_lt_iff_lt (by simp [UInt8.size]; omega) (by simp [UInt8.size]; omega)]
      omega

/-- A character before another has the lesser bytes, whatever follows either. -/
theorem encoded_lt {c d : Char} (h : c < d) (x y : List UInt8) :
    String.utf8EncodeChar c ++ x < String.utf8EncodeChar d ++ y := by
  obtain ⟨k, base, hc, hcbytes⟩ := exists_encodes c
  obtain ⟨l, base', hd, hdbytes⟩ := exists_encodes d
  have hlt : c.val.toNat < d.val.toNat := h
  rw [hcbytes, hdbytes, List.cons_append, List.cons_append, List.cons_lt_cons_iff,
    UInt8.ofNat_lt_iff_lt hc.lead_lt hd.lead_lt]
  obtain ⟨rfl, rfl⟩ | hlead := hc.lead_lt_lead hd hlt
  · have hle : c.val.toNat / 64 ^ k ≤ d.val.toNat / 64 ^ k := Nat.div_le_div_right hlt.le
    obtain heq | hlt' := Nat.eq_or_lt_of_le hle
    · exact Or.inr ⟨by rw [heq], trail_lt hlt heq x y⟩
    · exact Or.inl (by omega)
  · exact Or.inl hlead

/-- The order of texts by their characters is that by their bytes. -/
theorem bytes_lt {a b : String} (h : a < b) : bytes a < bytes b := by
  rw [bytes_eq_flatMap, bytes_eq_flatMap]
  rw [String.lt_iff] at h
  generalize a.toList = x at h ⊢
  generalize b.toList = y at h ⊢
  induction h with
  | @nil c y =>
    obtain ⟨k, base, _, hbytes⟩ := exists_encodes c
    rw [List.flatMap_cons, hbytes]
    exact List.nil_lt_cons _ _
  | rel h => exact encoded_lt h _ _
  | cons _ ih => exact List.append_left_lt ih

theorem bytes_lt_of_le_of_ne {a b : String} (h : bytes a ≤ bytes b) (hne : a ≠ b) :
    bytes a < bytes b := by
  obtain hlt | rfl | hlt := lt_trichotomy a b
  · exact bytes_lt hlt
  · exact absurd rfl hne
  · exact absurd (bytes_lt hlt) (List.not_lt.mpr h)

namespace Table
variable {α β : Type} {t u : Table α} {key other : String} {value : α}

/-- A table whose keys ascend by their bytes. -/
def Ascending (t : Table α) : Prop :=
  t.Pairwise fun a b => bytes a.1 < bytes b.1

/-- The same entries, in the order of the bytes of their keys. -/
def sorted (t : Table α) : Table α :=
  t.mergeSort fun a b => bytes a.1 ≤ bytes b.1

theorem get?_eq_some_iff_mem (h : t.keys.Nodup) : t.get? key = some value ↔ (key, value) ∈ t := by
  refine ⟨mem_of_get?_eq_some, ?_⟩
  intro hm
  induction t with
  | nil => cases hm
  | cons e t ih =>
    obtain ⟨hnew, hrest⟩ := List.nodup_cons.mp h
    rw [get?_cons]
    obtain rfl | hm := List.mem_cons.mp hm
    · exact if_pos rfl
    · have hkey : key ∈ keys t := List.mem_map_of_mem hm
      have hne : e.1 ≠ key := fun heq => hnew (heq ▸ hkey)
      rw [if_neg hne, ih hrest hm]

theorem Ascending.nodup (h : t.Ascending) : t.keys.Nodup := by
  refine List.pairwise_map.mpr (h.imp ?_)
  intro a b hlt heq
  rw [heq] at hlt
  exact List.lt_irrefl _ hlt

/-- Ascending tables with the same lookups are the same. -/
theorem Ascending.ext (ht : t.Ascending) (hu : u.Ascending) (h : ∀ key, t.get? key = u.get? key) :
    t = u := by
  have hperm : t.Perm u := by
    refine (List.perm_ext_iff_of_nodup ht.nodup.of_map hu.nodup.of_map).mpr ?_
    rintro ⟨key, value⟩
    rw [← get?_eq_some_iff_mem ht.nodup, ← get?_eq_some_iff_mem hu.nodup, h]
  refine hperm.eq_of_pairwise ?_ ht hu
  intro a b _ _ hab hba
  exact absurd hab (List.lt_asymm hba)

theorem mem_putAscending {e : String × α} (h : e ∈ t.putAscending key value) :
    e = (key, value) ∨ e ∈ t := by
  induction t with
  | nil => exact Or.inl (List.mem_singleton.mp h)
  | cons e' t ih =>
    unfold putAscending at h
    grind

/-- A key that is set comes to its place in the order. -/
theorem Ascending.putAscending (h : t.Ascending) (key : String) (value : α) :
    (t.putAscending key value).Ascending := by
  induction t with
  | nil => exact List.pairwise_singleton _ _
  | cons e t ih =>
    obtain ⟨k, v⟩ := e
    obtain ⟨hfirst, hrest⟩ := List.pairwise_cons.mp h
    unfold Table.putAscending
    split
    next heq =>
      subst heq
      exact List.pairwise_cons.mpr ⟨hfirst, hrest⟩
    next hne =>
      split
      next hlt =>
        refine List.pairwise_cons.mpr ⟨?_, h⟩
        intro e he
        obtain rfl | he := List.mem_cons.mp he
        · exact bytes_lt hlt
        · exact List.lt_trans (bytes_lt hlt) (hfirst e he)
      next hnot =>
        refine List.pairwise_cons.mpr ⟨?_, ih hrest⟩
        intro e he
        obtain rfl | he := mem_putAscending he
        · exact bytes_lt (lt_of_le_of_ne (not_lt.mp hnot) hne)
        · exact hfirst e he

theorem get?_putAscending (t : Table α) (key : String) (value : α) (other : String) :
    (t.putAscending key value).get? other = if key = other then some value else t.get? other := by
  induction t with
  | nil => simp [putAscending, get?_cons]
  | cons e t ih =>
    obtain ⟨k, v⟩ := e
    unfold putAscending
    split
    next heq =>
      subst heq
      by_cases ho : k = other <;> simp [get?_cons, ho]
    next hne =>
      split
      next => simp [get?_cons]
      next =>
        by_cases ho : key = other
        · subst ho
          simp [get?_cons, hne, ih]
        · simp [get?_cons, ih, ho]

theorem sorted_perm (t : Table α) : t.sorted.Perm t :=
  List.mergeSort_perm _ _

theorem nodup_keys_sorted (h : t.keys.Nodup) : t.sorted.keys.Nodup :=
  (t.sorted_perm.map Prod.fst).nodup_iff.mpr h

theorem sorted_ascending (h : t.keys.Nodup) : t.sorted.Ascending := by
  have hle : t.sorted.Pairwise fun a b => decide (bytes a.1 ≤ bytes b.1) := by
    refine List.pairwise_mergeSort ?_ ?_ t
    · intro a b c hab hbc
      simp only [decide_eq_true_eq] at hab hbc ⊢
      exact List.le_trans hab hbc
    · intro a b
      simpa using List.le_total (bytes a.1) (bytes b.1)
  have hne : t.sorted.Pairwise fun a b => a.1 ≠ b.1 :=
    List.pairwise_map.mp (nodup_keys_sorted h)
  refine (hle.and hne).imp ?_
  rintro a b ⟨hle, hne⟩
  exact bytes_lt_of_le_of_ne (of_decide_eq_true hle) hne

theorem get?_sorted (h : t.keys.Nodup) (key : String) : t.sorted.get? key = t.get? key := by
  apply Option.ext
  intro value
  rw [get?_eq_some_iff_mem (nodup_keys_sorted h), get?_eq_some_iff_mem h, t.sorted_perm.mem_iff]

theorem nodup_keys_map (h : t.keys.Nodup) (f : α → β) :
    (keys (t.map fun e => (e.1, f e.2))).Nodup := by
  have hkeys : keys (t.map fun e => (e.1, f e.2)) = t.keys := by simp [keys, Function.comp_def]
  rwa [hkeys]

theorem Ascending.map (h : t.Ascending) (f : α → β) :
    Ascending (t.map fun e => (e.1, f e.2)) :=
  List.pairwise_map.mpr h

/-- A table that is filled in ascending order, one entry after the other. -/
theorem Ascending.foldl_putAscending (h : t.Ascending) (entries : List (String × α)) :
    Ascending (entries.foldl (fun t e => t.putAscending e.1 e.2) t) := by
  induction entries generalizing t with
  | nil => exact h
  | cons e rest ih => exact ih (h.putAscending e.1 e.2)

theorem get?_foldl_putAscending (entries t : Table α) (key : String) :
    (entries.foldl (fun t e => t.putAscending e.1 e.2) t).get? key =
      (get? entries.reverse key).or (t.get? key) := by
  induction entries generalizing t with
  | nil => rfl
  | cons e rest ih =>
    obtain ⟨k, v⟩ := e
    rw [List.foldl_cons, ih, get?_putAscending, List.reverse_cons, get?_append, Option.or_assoc,
      get?_cons]
    split <;> rfl

end Table

end Cartouche
