import Cartouche.Proofs.Ids
import Mathlib.Data.Finset.Preimage
import Mathlib.Data.Fintype.EquivFin

/-!
Ids as they would be handed out by someone who knows nothing but which ids are gone: the base that
is asked for while it is free, and then its least free number from two on. The numbers that a table
of ids keeps are where its searches begin, and everything below them is taken, so that both hand out
the same.
-/
namespace Cartouche
open Decimal Text

namespace IdTable

/-- What several requests are granted, one after the other. -/
def grants (name : String) : IdTable → List (Option String) → List String
  | _, [] => []
  | ids, r :: rest => (ids.allocate name r).1 :: grants name (ids.allocate name r).2 rest

/-- What requests ask for, behind `blanks` that asked for nothing: the trimmed request, or the name
with the number of requests so far that ask for nothing. -/
def bases (name : String) : Nat → List (Option String) → List String
  | _, [] => []
  | blanks, r :: rest =>
    if isBlankRequest r then suffixed name (blanks + 1) :: bases name (blanks + 1) rest
    else trimmed (r.getD "") :: bases name blanks rest

theorem exists_free (gone : Finset String) (base : String) :
    ∃ n, 2 ≤ n ∧ suffixed base n ∉ gone := by
  let taken := gone.preimage (suffixed base) (suffixed_injective base).injOn
  obtain ⟨n, hn⟩ := Infinite.exists_notMem_finset (Finset.range 2 ∪ taken)
  simp only [taken, Finset.mem_union, Finset.mem_range, Finset.mem_preimage, not_or, not_lt] at hn
  exact ⟨n, hn⟩

/-- The base while it is free, and then its least free number. -/
def leastFree (gone : Finset String) (base : String) : String :=
  if base ∉ gone then base else suffixed base (Nat.find (exists_free gone base))

/-- What is granted by someone who keeps only the set of ids that are gone. -/
def leastGrants : Finset String → List String → List String
  | _, [] => []
  | gone, base :: rest =>
    leastFree gone base :: leastGrants (insert (leastFree gone base) gone) rest

/-- The search of a free number: one that is taken makes way for the next. -/
inductive Searches (taken : Table Nat) (base : String) : Nat → Nat → Prop where
  | found {n : Nat} (h : suffixed base n ∉ taken.keys) : Searches taken base n n
  | next {n m : Nat} (h : suffixed base n ∈ taken.keys) (rest : Searches taken base (n + 1) m) :
    Searches taken base n m

/-- The `n`th id of a base: the base, and then its numbers from two on. -/
def numbered (base : String) (n : Nat) : String :=
  if n ≤ 1 then base else suffixed base n

/-- What the requests for a base are granted, of all that is granted. -/
def grantsTo (base : String) (bases grants : List String) : List String :=
  ((bases.zip grants).filter (·.1 = base)).map Prod.snd

/-- What all other requests are granted. -/
def grantsToOthers (base : String) (bases grants : List String) : List String :=
  ((bases.zip grants).filter (·.1 ≠ base)).map Prod.snd

/-- A table of ids holds those that are gone, and of every base all numbers that it skips. -/
structure Holds (ids : IdTable) (gone : Finset String) : Prop where
  keys : ∀ id, id ∈ ids.taken.keys ↔ id ∈ gone
  skipped : ∀ base uses, ids.taken.get? base = some uses →
    1 ≤ uses ∧ ∀ n, 2 ≤ n → n ≤ uses → suffixed base n ∈ gone

/-- Of a base, the numbers up to `count` are gone and no others. -/
def UsedUpTo (gone : Finset String) (base : String) (count : Nat) : Prop :=
  ∀ n, 1 ≤ n → (numbered base n ∈ gone ↔ n ≤ count)

variable {taken : Table Nat} {base other name : String} {n m tries uses count : Nat}
  {ids : IdTable} {gone : Finset String} {requested : Option String} {asked : List String}

/-! The search. -/

theorem le_firstFree (taken : Table Nat) (base : String) (tries n : Nat) :
    n ≤ firstFree taken base tries n := by
  induction tries generalizing n with
  | zero => exact le_rfl
  | succ tries ih =>
    unfold firstFree
    split
    · exact (Nat.le_succ n).trans (ih (n + 1))
    · exact le_rfl

/-- What the search passes is taken. -/
theorem taken_of_lt_firstFree (hn : n ≤ m) (hm : m < firstFree taken base tries n) :
    suffixed base m ∈ taken.keys := by
  induction tries generalizing n with
  | zero =>
    unfold firstFree at hm
    omega
  | succ tries ih =>
    unfold firstFree at hm
    split at hm
    next htaken =>
      obtain rfl | hlt := Nat.eq_or_lt_of_le hn
      · by_contra hfree
        rw [(Table.get?_eq_none_iff _ _).mpr hfree] at htaken
        cases htaken
      · exact ih hlt hm
    next => omega

/-- A search ends at the first free number. -/
theorem searches_of_free (hn : n ≤ m) (htaken : ∀ k, n ≤ k → k < m → suffixed base k ∈ taken.keys)
    (hfree : suffixed base m ∉ taken.keys) : Searches taken base n m := by
  induction hn using Nat.decreasingInduction with
  | self => exact .found hfree
  | of_succ n hn ih =>
    have hrest := ih fun k hk hkm => htaken k (by omega) hkm
    exact .next (htaken n le_rfl hn) hrest

theorem searches_firstFree (taken : Table Nat) (base : String) (n : Nat) :
    Searches taken base n (firstFree taken base (taken.length + 1) n) :=
  searches_of_free (le_firstFree _ _ _ _) (fun _ hk hm => taken_of_lt_firstFree hk hm)
    (firstFree_not_mem taken base n)

theorem allocate_of_free (h : ids.taken.get? (ids.base name requested).1 = none) :
    ids.allocate name requested = ((ids.base name requested).1,
      { (ids.base name requested).2 with
        taken := ids.taken.put (ids.base name requested).1 1 }) := by
  simp [allocate, h]

theorem allocate_of_taken (h : ids.taken.get? (ids.base name requested).1 = some uses)
    (hn : n = firstFree ids.taken (ids.base name requested).1 (ids.taken.length + 1) (uses + 1)) :
    ids.allocate name requested = (suffixed (ids.base name requested).1 n,
      { (ids.base name requested).2 with
        taken := (ids.taken.put (ids.base name requested).1 n).put
          (suffixed (ids.base name requested).1 n) 1 }) := by
  simp [allocate, h, hn]

/-- Every search for a number ends, and it is that number which goes out. -/
theorem exists_searches (h : ids.taken.get? (ids.base name requested).1 = some uses) :
    ∃ n, Searches ids.taken (ids.base name requested).1 (uses + 1) n ∧
      (ids.allocate name requested).1 = suffixed (ids.base name requested).1 n := by
  refine ⟨_, searches_firstFree ids.taken (ids.base name requested).1 (uses + 1), ?_⟩
  rw [allocate_of_taken h rfl]

/-! Steps and runs. -/

theorem Holds.empty : Holds empty ∅ where
  keys id := by simp [IdTable.empty, Table.keys]
  skipped base uses h := by
    rw [IdTable.empty, Table.get?_nil] at h
    cases h

/-- The search begins behind what is skipped, and ends at the least free number. -/
theorem Holds.find_eq (h : Holds ids gone) (hbase : ids.taken.get? base = some uses) :
    Nat.find (exists_free gone base) =
      firstFree ids.taken base (ids.taken.length + 1) (uses + 1) := by
  obtain ⟨hpos, hskipped⟩ := h.skipped base uses hbase
  have hle := le_firstFree ids.taken base (ids.taken.length + 1) (uses + 1)
  rw [Nat.find_eq_iff]
  refine ⟨⟨by omega, ?_⟩, ?_⟩
  · rw [← h.keys]
    exact firstFree_not_mem _ _ _
  · rintro n hn ⟨htwo, hfree⟩
    by_cases hlow : n ≤ uses
    · exact hfree (hskipped n htwo hlow)
    · exact hfree ((h.keys _).mp (taken_of_lt_firstFree (by omega) hn))

/-- One request: both grant the same, and go on holding the same. -/
theorem Holds.allocate (h : Holds ids gone) (name : String) (requested : Option String) :
    (ids.allocate name requested).1 = leastFree gone (ids.base name requested).1 ∧
    Holds (ids.allocate name requested).2
      (insert (leastFree gone (ids.base name requested).1) gone) := by
  cases hbase : ids.taken.get? (ids.base name requested).1 with
  | none =>
    have hfree : (ids.base name requested).1 ∉ gone := by
      rw [← h.keys]
      exact (Table.get?_eq_none_iff _ _).mp hbase
    rw [allocate_of_free hbase, leastFree, if_pos hfree]
    dsimp only
    refine ⟨rfl, ⟨?_, ?_⟩⟩
    · intro id
      simp [Table.mem_keys_put, h.keys]
    · intro other uses huses
      dsimp only at huses
      rw [Table.get?_put] at huses
      split at huses
      · cases huses
        exact ⟨le_rfl, fun n _ _ => by omega⟩
      · obtain ⟨hpos, hskipped⟩ := h.skipped other uses huses
        exact ⟨hpos, fun n htwo hn => Finset.mem_insert_of_mem (hskipped n htwo hn)⟩
  | some uses =>
    have hused : (ids.base name requested).1 ∈ gone := by
      rw [← h.keys]
      by_contra hfree
      rw [(Table.get?_eq_none_iff _ _).mpr hfree] at hbase
      cases hbase
    generalize hn : firstFree ids.taken (ids.base name requested).1 (ids.taken.length + 1)
      (uses + 1) = n
    have hleast : leastFree gone (ids.base name requested).1 =
        suffixed (ids.base name requested).1 n := by
      rw [leastFree, if_neg (not_not_intro hused), h.find_eq hbase, hn]
    rw [allocate_of_taken hbase hn.symm, hleast]
    dsimp only
    refine ⟨rfl, ⟨?_, ?_⟩⟩
    · intro id
      simp only [Table.mem_keys_put, h.keys, Finset.mem_insert]
      constructor
      · rintro (hid | hid | hid)
        · exact Or.inl hid
        · rw [hid]
          exact Or.inr hused
        · exact Or.inr hid
      · exact Or.imp_right Or.inr
    · intro other uses' huses
      dsimp only at huses
      rw [Table.get?_put, Table.get?_put] at huses
      split at huses
      · cases huses
        exact ⟨le_rfl, fun n _ _ => by omega⟩
      · split at huses
        next hother =>
          -- The base itself now skips what the search has passed, and the number it ended at.
          cases huses
          subst hother
          obtain ⟨hpos, hskipped⟩ := h.skipped _ uses hbase
          have hle := le_firstFree ids.taken (ids.base name requested).1 (ids.taken.length + 1)
            (uses + 1)
          refine ⟨by omega, fun k htwo hk => ?_⟩
          obtain rfl | hlt := Nat.eq_or_lt_of_le hk
          · exact Finset.mem_insert_self _ _
          · apply Finset.mem_insert_of_mem
            by_cases hlow : k ≤ uses
            · exact hskipped k htwo hlow
            · rw [← hn] at hlt
              exact (h.keys _).mp (taken_of_lt_firstFree (by omega) hlt)
        next =>
          obtain ⟨hpos, hskipped⟩ := h.skipped other uses' huses
          exact ⟨hpos, fun n htwo hn => Finset.mem_insert_of_mem (hskipped n htwo hn)⟩

/-- A run: the table goes on granting what is least free, however many requests came before. -/
theorem Holds.grants_eq (h : Holds ids gone) (name : String) (requests : List (Option String)) :
    grants name ids requests = leastGrants gone (bases name ids.counter requests) := by
  induction requests generalizing ids gone with
  | nil => rfl
  | cons r rest ih =>
    obtain ⟨hid, hnext⟩ := h.allocate name r
    have hcounter := counter_allocate name ids r
    rw [grants, ih hnext, hid, hcounter, bases]
    cases hblank : isBlankRequest r with
    | true => simp [base_of_blank name ids hblank, leastGrants]
    | false => simp [base_of_not_blank name ids hblank, leastGrants]

/-! Numbers of one base. -/

/-- What stands before the last dash is the same in equal texts. -/
theorem eq_of_append_dash_eq {front front' digits digits' : List Char} (hx : '-' ∉ digits)
    (hy : '-' ∉ digits') (h : front ++ '-' :: digits = front' ++ '-' :: digits') :
    front = front' := by
  obtain ⟨more, hfront, hmore⟩ | ⟨more, hfront, hmore⟩ := List.append_eq_append_iff.mp h
  · cases more with
    | nil => simpa using hfront.symm
    | cons c more =>
      obtain ⟨_, hdigits⟩ := List.cons.inj hmore
      exact absurd (by simp [hdigits]) hx
  · cases more with
    | nil => simpa using hfront
    | cons c more =>
      obtain ⟨_, hdigits⟩ := List.cons.inj hmore
      exact absurd (by simp [hdigits]) hy

theorem eq_of_suffixed_eq (h : suffixed base n = suffixed other m) : base = other ∧ n = m := by
  have hdash : ∀ n, '-' ∉ digitsOf n := by
    intro n hn
    exact absurd (isDigit_of_mem_digitsOf hn) (by decide)
  have hchars : base.toList ++ '-' :: digitsOf n = other.toList ++ '-' :: digitsOf m := by
    simpa [suffixed] using congrArg String.toList h
  obtain rfl := String.toList_injective (eq_of_append_dash_eq (hdash n) (hdash m) hchars)
  exact ⟨rfl, suffixed_injective base h⟩

theorem numbered_inj (hn : 1 ≤ n) (hm : 1 ≤ m) : numbered base n = numbered base m ↔ n = m := by
  refine ⟨?_, congrArg _⟩
  intro h
  unfold numbered at h
  split at h <;> split at h
  · omega
  · exact absurd h.symm (suffixed_ne_self base m)
  · exact absurd h (suffixed_ne_self base n)
  · exact suffixed_injective base h

theorem numbered_of_two_le (hn : 2 ≤ n) : numbered base n = suffixed base n :=
  if_neg (by omega)

/-- Where no base goes on with a dash behind the given one, nobody asks for a number of it. -/
theorem suffixed_not_mem (h : ∀ other ∈ asked, ¬ (base ++ "-").toList <+: other.toList) :
    suffixed base n ∉ asked := by
  intro hmem
  apply h _ hmem
  exact ⟨digitsOf n, by simp [suffixed]⟩

theorem leastFree_cases (gone : Finset String) (base : String) :
    leastFree gone base ∉ gone ∧
      (leastFree gone base = base ∨ ∃ n, 2 ≤ n ∧ leastFree gone base = suffixed base n) := by
  unfold leastFree
  split
  next hfree => exact ⟨hfree, Or.inl rfl⟩
  next =>
    obtain ⟨htwo, hfree⟩ := Nat.find_spec (exists_free gone base)
    exact ⟨hfree, Or.inr ⟨_, htwo, rfl⟩⟩

/-- A base is granted its numbers in order, -/
theorem UsedUpTo.leastFree_eq (h : UsedUpTo gone base count) :
    leastFree gone base = numbered base (count + 1) := by
  have hbase : base ∈ gone ↔ 1 ≤ count := h 1 le_rfl
  have hforms : ∀ n, 2 ≤ n → (suffixed base n ∈ gone ↔ n ≤ count) := by
    intro n hn
    rw [← numbered_of_two_le hn]
    exact h n (by omega)
  by_cases hcount : 1 ≤ count
  · rw [leastFree, if_neg (not_not_intro (hbase.mpr hcount)), numbered_of_two_le (by omega)]
    congr 1
    rw [Nat.find_eq_iff]
    refine ⟨⟨by omega, ?_⟩, ?_⟩
    · rw [hforms _ (by omega)]
      omega
    · rintro n hn ⟨htwo, hfree⟩
      rw [hforms n htwo] at hfree
      omega
  · have hfree : base ∉ gone := fun hgone => hcount (hbase.mp hgone)
    rw [leastFree, if_pos hfree, numbered, if_pos (by omega)]

theorem UsedUpTo.grant (h : UsedUpTo gone base count) :
    UsedUpTo (insert (numbered base (count + 1)) gone) base (count + 1) := by
  intro n hn
  rw [Finset.mem_insert, numbered_inj hn (by omega), h n hn]
  omega

/-- and whoever asks for something else that is no number of it takes nothing of it, or the base
itself. -/
theorem UsedUpTo.grant_other (h : UsedUpTo gone base count) (hne : other ≠ base)
    (hforms : ∀ n, 2 ≤ n → suffixed base n ≠ other) :
    (leastFree gone other ≠ base ∧ UsedUpTo (insert (leastFree gone other) gone) base count) ∨
    (leastFree gone other = base ∧ count = 0 ∧
      UsedUpTo (insert (leastFree gone other) gone) base 1) := by
  obtain ⟨hfree, hcases⟩ := leastFree_cases gone other
  have hapart : ∀ n, 2 ≤ n → numbered base n ≠ leastFree gone other := by
    intro n hn he
    rw [numbered_of_two_le hn] at he
    obtain hself | ⟨m, _, hform⟩ := hcases
    · exact hforms n hn (he.trans hself)
    · exact hne (eq_of_suffixed_eq (he.trans hform)).1.symm
  by_cases hbase : leastFree gone other = base
  · right
    have hcount : count = 0 := by
      by_contra hpos
      have hgone : base ∈ gone := (h 1 le_rfl).mpr (by omega)
      rw [hbase] at hfree
      exact hfree hgone
    subst hcount
    rw [hbase]
    exact ⟨rfl, rfl, h.grant⟩
  · left
    refine ⟨hbase, fun n hn => ?_⟩
    rw [Finset.mem_insert, ← h n hn, or_iff_right]
    obtain rfl | htwo := Nat.eq_or_lt_of_le hn
    · exact fun he => hbase he.symm
    · exact hapart n htwo

section Cons
variable {id : String} {granted : List String}

theorem grantsTo_cons_self : grantsTo base (base :: asked) (id :: granted) =
    id :: grantsTo base asked granted := by
  simp [grantsTo]

theorem grantsToOthers_cons_self : grantsToOthers base (base :: asked) (id :: granted) =
    grantsToOthers base asked granted := by
  simp [grantsToOthers]

theorem grantsTo_cons_of_ne (h : other ≠ base) : grantsTo base (other :: asked) (id :: granted) =
    grantsTo base asked granted := by
  simp [grantsTo, h]

theorem grantsToOthers_cons_of_ne (h : other ≠ base) :
    grantsToOthers base (other :: asked) (id :: granted) =
      id :: grantsToOthers base asked granted := by
  simp [grantsToOthers, h]

end Cons

/-- Requests for a base of which nobody asks for a number are granted its numbers in order, from two
on if the base itself has gone to a request for something else. -/
theorem UsedUpTo.grantsTo_eq (h : UsedUpTo gone base count)
    (hforms : ∀ n, 2 ≤ n → suffixed base n ∉ asked) :
    (base ∉ grantsToOthers base asked (leastGrants gone asked) →
      grantsTo base asked (leastGrants gone asked) =
        (List.range' (count + 1) (asked.count base)).map (numbered base)) ∧
    (base ∈ grantsToOthers base asked (leastGrants gone asked) →
      count = 0 ∧ grantsTo base asked (leastGrants gone asked) =
        (List.range' 2 (asked.count base)).map (numbered base)) := by
  induction asked generalizing gone count with
  | nil => simp [grantsTo, grantsToOthers, leastGrants]
  | cons other asked ih =>
    have hrest : ∀ n, 2 ≤ n → suffixed base n ∉ asked :=
      fun n hn hmem => hforms n hn (List.mem_cons_of_mem _ hmem)
    by_cases hne : other = base
    · subst hne
      obtain ⟨hkept, hlost⟩ := ih h.grant hrest
      rw [leastGrants, h.leastFree_eq]
      simp only [grantsTo_cons_self, grantsToOthers_cons_self, List.count_cons_self]
      refine ⟨fun hnot => ?_, fun hmem => ?_⟩
      · rw [hkept hnot, List.range'_succ, List.map_cons]
      · obtain ⟨hcount, _⟩ := hlost hmem
        omega
    · have hforms' : ∀ n, 2 ≤ n → suffixed base n ≠ other := by
        rintro n hn rfl
        exact hforms n hn List.mem_cons_self
      rw [leastGrants]
      simp only [grantsTo_cons_of_ne hne, grantsToOthers_cons_of_ne hne, List.count_cons_of_ne hne]
      obtain ⟨hapart, hnext⟩ | ⟨hbase, rfl, hnext⟩ := h.grant_other hne hforms'
      · obtain ⟨hkept, hlost⟩ := ih hnext hrest
        refine ⟨fun hnot => hkept fun hmem => hnot (List.mem_cons_of_mem _ hmem), fun hmem => ?_⟩
        obtain he | hmem := List.mem_cons.mp hmem
        · exact absurd he.symm hapart
        · exact hlost hmem
      · -- From here on the base is gone, so that it goes to nobody else again.
        obtain ⟨hkept, hlost⟩ := ih hnext hrest
        rw [hbase] at hkept hlost ⊢
        refine ⟨fun hnot => absurd List.mem_cons_self hnot, fun _ => ⟨rfl, hkept fun hmem => ?_⟩⟩
        exact absurd (hlost hmem).1 Nat.one_ne_zero

/-- Whatever is asked for, ids are granted as by someone who keeps only the set of ids that are
gone: the base while it is free, and then its least free number from two on; and every search for
that number ends. Requests for a base of which nobody asks for a number are granted it and its
numbers in order, unless the base itself is a number of another one and has gone to a request for
that: then they are granted its numbers from two on. -/
theorem grants_eq_leastGrants (name : String) (requests : List (Option String)) :
    grants name empty requests = leastGrants ∅ (bases name 0 requests) ∧
    (∀ (ids : IdTable) (requested : Option String) (uses : Nat),
      ids.taken.get? (ids.base name requested).1 = some uses →
      ∃ n, Searches ids.taken (ids.base name requested).1 (uses + 1) n ∧
        (ids.allocate name requested).1 = suffixed (ids.base name requested).1 n) ∧
    ∀ base, (∀ n, 2 ≤ n → suffixed base n ∉ bases name 0 requests) →
      (base ∉ grantsToOthers base (bases name 0 requests) (grants name empty requests) →
        grantsTo base (bases name 0 requests) (grants name empty requests) =
          (List.range' 1 ((bases name 0 requests).count base)).map (numbered base)) ∧
      (base ∈ grantsToOthers base (bases name 0 requests) (grants name empty requests) →
        grantsTo base (bases name 0 requests) (grants name empty requests) =
          (List.range' 2 ((bases name 0 requests).count base)).map (numbered base)) := by
  have hgrants := Holds.empty.grants_eq name requests
  refine ⟨hgrants, fun ids requested uses => exists_searches, ?_⟩
  intro base hforms
  have hstart : UsedUpTo ∅ base 0 := by
    intro n hn
    simp
    omega
  obtain ⟨hkept, hlost⟩ := hstart.grantsTo_eq hforms
  rw [hgrants]
  exact ⟨hkept, fun hmem => (hlost hmem).2⟩

/-- Requests for one base between others, one of which asks for nothing and one for a number. -/
def queue : List (Option String) :=
  [some "a", none, some " a ", some "b-2", some "a", some "b", some "b"]

theorem queue_run : bases "t" 0 queue = ["a", "t-1", "a", "b-2", "a", "b", "b"] ∧
    grants "t" empty queue = ["a", "t-1", "a-2", "b-2", "a-3", "b", "b-3"] := by
  decide +kernel

/-- A request for what the second of two others is granted. -/
def latecomer : List (Option String) := [some "a", some "a", some "a-2"]

theorem latecomer_run : bases "t" 0 latecomer = ["a", "a", "a-2"] ∧
    grants "t" empty latecomer = ["a", "a-2", "a-2-2"] := by
  decide +kernel

/-- The three requests for the first base get it and its next two numbers, and the latecomer, whose
base is gone to another, gets a number of it. -/
theorem queue_granted :
    (grants "t" empty queue = ["a", "t-1", "a-2", "b-2", "a-3", "b", "b-3"] ∧
      grantsTo "a" (bases "t" 0 queue) (grants "t" empty queue) = ["a", "a-2", "a-3"]) ∧
    grantsTo "a-2" (bases "t" 0 latecomer) (grants "t" empty latecomer) = ["a-2-2"] := by
  obtain ⟨_, _, hqueue⟩ := grants_eq_leastGrants "t" queue
  obtain ⟨_, _, hlate⟩ := grants_eq_leastGrants "t" latecomer
  have hforms : ∀ n, 2 ≤ n → suffixed "a" n ∉ bases "t" 0 queue := by
    rw [queue_run.1]
    exact fun n _ => suffixed_not_mem (by decide)
  have hforms' : ∀ n, 2 ≤ n → suffixed "a-2" n ∉ bases "t" 0 latecomer := by
    rw [latecomer_run.1]
    exact fun n _ => suffixed_not_mem (by decide)
  refine ⟨⟨queue_run.2, ?_⟩, ?_⟩
  · rw [(hqueue "a" hforms).1 (by rw [queue_run.1, queue_run.2]; decide), queue_run.1]
    decide
  · rw [(hlate "a-2" hforms').2 (by rw [latecomer_run.1, latecomer_run.2]; decide),
      latecomer_run.1]
    decide

/-- Nobody asks for a number of the latecomer's base, and yet it is not granted that base. -/
theorem latecomer_misses_base :
    (∀ n, 2 ≤ n → suffixed "a-2" n ∉ bases "t" 0 latecomer) ∧
    grantsTo "a-2" (bases "t" 0 latecomer) (grants "t" empty latecomer) ≠
      (List.range' 1 ((bases "t" 0 latecomer).count "a-2")).map (numbered "a-2") := by
  rw [latecomer_run.1, latecomer_run.2]
  exact ⟨fun n _ => suffixed_not_mem (by decide), by decide⟩

end IdTable

end Cartouche
