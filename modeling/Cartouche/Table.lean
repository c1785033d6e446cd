/-! Tables keep their keys in the order in which they were first set. -/
namespace Cartouche

abbrev Table (α : Type) := List (String × α)

namespace Table
variable {α β : Type}

/-- Sets a key: a new one comes last, a known one keeps its place. -/
def put (key : String) (value : α) : Table α → Table α
  | [] => [(key, value)]
  | (k, v) :: rest => if k = key then (key, value) :: rest else (k, v) :: put key value rest

/-- Sets a key in a table whose keys ascend. -/
def putAscending (key : String) (value : α) : Table α → Table α
  | [] => [(key, value)]
  | (k, v) :: rest =>
    if k = key then (key, value) :: rest
    else if key < k then (key, value) :: (k, v) :: rest
    else (k, v) :: putAscending key value rest

/-- Of several values for one key the last one counts, at the place of the first. -/
def ofList (entries : List (String × α)) : Table α :=
  entries.foldl (fun t e => t.put e.1 e.2) []

def get? (t : Table α) (key : String) : Option α :=
  t.lookup key

def keys (t : Table α) : List String :=
  t.map Prod.fst

theorem get?_nil (key : String) : get? ([] : Table α) key = none :=
  rfl

theorem get?_cons (k : String) (v : α) (t : Table α) (key : String) :
    get? ((k, v) :: t) key = if k = key then some v else t.get? key := by
  by_cases h : k = key
  · simp [get?, h]
  · have : (key == k) = false := by simp [Ne.symm h]
    simp [get?, List.lookup_cons, h, this]

theorem get?_put (t : Table α) (key : String) (value : α) (other : String) :
    (t.put key value).get? other = if key = other then some value else t.get? other := by
  induction t with
  | nil => simp [put, get?_cons]
  | cons e t ih =>
    obtain ⟨k, v⟩ := e
    unfold put
    by_cases h : k = key
    · subst h
      by_cases ho : k = other <;> simp [get?_cons, ho]
    · by_cases ho : key = other
      · subst ho
        simp_all [get?_cons]
      · simp [h, get?_cons, ih, ho]

theorem mem_of_get?_eq_some {t : Table α} {key : String} {value : α}
    (h : t.get? key = some value) : (key, value) ∈ t := by
  obtain ⟨before, after, rfl, _⟩ := List.lookup_eq_some_iff.mp h
  exact List.mem_append_right _ List.mem_cons_self

theorem get?_eq_none_iff (t : Table α) (key : String) : t.get? key = none ↔ key ∉ t.keys := by
  induction t with
  | nil => simp [get?_nil, keys]
  | cons e t ih =>
    obtain ⟨k, v⟩ := e
    by_cases h : k = key
    · simp [get?_cons, h, keys]
    · simp_all [get?_cons, keys, Ne.symm h]

/-- Of two tables, one behind the other, the first one counts. -/
theorem get?_append (t u : Table α) (key : String) :
    get? (t ++ u) key = (t.get? key).or (u.get? key) :=
  List.lookup_append

theorem get?_map (f : α → β) (t : Table α) (key : String) :
    get? (t.map fun e => (e.1, f e.2)) key = (t.get? key).map f := by
  induction t with
  | nil => rfl
  | cons e rest ih =>
    obtain ⟨k, v⟩ := e
    rw [List.map_cons, get?_cons, get?_cons, ih]
    split <;> rfl

theorem get?_foldl_put (entries t : Table α) (key : String) :
    (entries.foldl (fun t e => t.put e.1 e.2) t).get? key =
      (get? entries.reverse key).or (t.get? key) := by
  induction entries generalizing t with
  | nil => rfl
  | cons e rest ih =>
    obtain ⟨k, v⟩ := e
    rw [List.foldl_cons, ih, get?_put, List.reverse_cons, get?_append, Option.or_assoc, get?_cons]
    split <;> rfl

theorem get?_ofList (entries : List (String × α)) (key : String) :
    (ofList entries).get? key = get? entries.reverse key := by
  rw [ofList, get?_foldl_put, get?_nil, Option.or_none]

/-- A new key comes last. -/
theorem keys_put (t : Table α) (key : String) (value : α) :
    (t.put key value).keys = if key ∈ t.keys then t.keys else t.keys ++ [key] := by
  induction t with
  | nil => simp [put, keys]
  | cons e t ih =>
    obtain ⟨k, v⟩ := e
    unfold put
    by_cases h : k = key
    · simp [h, keys]
    · simp only [keys] at ih
      by_cases hm : key ∈ t.map Prod.fst <;> simp [h, keys, ih, hm, Ne.symm h]

theorem nodup_keys_put {t : Table α} (h : t.keys.Nodup) (key : String) (value : α) :
    (t.put key value).keys.Nodup := by
  rw [keys_put]
  split
  · exact h
  · next hk =>
    rw [List.nodup_append]
    refine ⟨h, by simp, ?_⟩
    intro a ha b hb
    have : b = key := by simpa using hb
    exact fun he => hk (this ▸ he ▸ ha)

/-- No key of a table stands in it twice. -/
theorem nodup_keys_ofList (entries : List (String × α)) : (ofList entries).keys.Nodup := by
  suffices ∀ t : Table α, t.keys.Nodup →
      (entries.foldl (fun t e => t.put e.1 e.2) t).keys.Nodup from this [] List.nodup_nil
  induction entries with
  | nil => exact fun _ h => h
  | cons e rest ih => exact fun t h => ih _ (nodup_keys_put h e.1 e.2)

theorem put_of_not_mem {t : Table α} {key : String} (h : key ∉ t.keys)
    (value : α) : t.put key value = t ++ [(key, value)] := by
  induction t with
  | nil => rfl
  | cons e rest ih =>
    obtain ⟨k, v⟩ := e
    have hne : k ≠ key := by
      rintro rfl
      exact h List.mem_cons_self
    have hrest : key ∉ keys rest := fun hm => h (List.mem_cons_of_mem _ hm)
    rw [put, if_neg hne, ih hrest, List.cons_append]

/-- Entries with keys of their own come behind the others as they are. -/
theorem foldl_put_of_nodup {entries t : Table α}
    (h : (t.keys ++ entries.keys).Nodup) :
    entries.foldl (fun t e => t.put e.1 e.2) t = t ++ entries := by
  induction entries generalizing t with
  | nil => rw [List.foldl_nil, List.append_nil]
  | cons e rest ih =>
    obtain ⟨key, value⟩ := e
    have hkeys : t.keys ++ keys ((key, value) :: rest) = t.keys ++ [key] ++ keys rest :=
      List.append_cons ..
    rw [hkeys] at h
    have hnew : key ∉ t.keys := fun hm =>
      (List.nodup_append.mp (List.nodup_append.mp h).1).2.2 key hm key List.mem_cons_self rfl
    have hput : (t ++ [(key, value)] : Table α).keys = t.keys ++ [key] := List.map_append ..
    rw [List.foldl_cons, put_of_not_mem hnew, ih (by rwa [hput]), List.append_assoc]
    rfl

/-- Entries without repeated keys are a table as they stand. -/
theorem ofList_of_nodup {entries : List (String × α)} (h : (keys entries).Nodup) :
    ofList entries = entries :=
  foldl_put_of_nodup h

end Table

end Cartouche
