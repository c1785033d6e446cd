import Cartouche.Document.Declaration
import Cartouche.Proofs.JsonBreaks
import Cartouche.Proofs.Outcome

/-!
Readers that take a text part by part meet its faults in order. From a node that breaks off they
never make a value, and a fault of shape that they meet before the break is also met in every node
that goes on from there.
-/
namespace Cartouche.Json

variable {α β : Type}

/-- What is read from a node that breaks off, and from one that goes on from it: a fault of the
text may be mended there, a fault of shape stays. -/
inductive Carries : Except Fault α → Except Fault α → Prop
  | mended (fault : SyntaxFault) (other : Except Fault α) :
      Carries (.error (.syntactic fault)) other
  | kept (fault : Fault) : Carries (.error fault) (.error fault)

namespace Carries
variable {x y : Except Fault α} {k l : α → Except Fault β}

theorem bind (h : Carries x y) : Carries (x >>= k) (y >>= l) := by
  cases h with
  | mended fault => exact .mended fault _
  | kept fault => exact .kept fault

/-- What was read before is the same. -/
theorem bind_same (h : ∀ a, x = .ok a → Carries (k a) (l a)) : Carries (x >>= k) (x >>= l) := by
  cases x with
  | error fault => exact .kept fault
  | ok a => exact h a rfl

theorem map {f : α → β} (h : Carries x y) : Carries (x.map f) (y.map f) := by
  cases h with
  | mended fault => exact .mended fault _
  | kept fault => exact .kept fault

theorem ne_ok (h : Carries x y) (a : α) : x ≠ .ok a := by
  cases h <;> exact fun h => by cases h

theorem shape {fault : ShapeFault} (h : Carries x y) (hx : x = .error (.shape fault)) :
    y = .error (.shape fault) := by
  subst hx
  cases h
  rfl

end Carries

/-! Rows. -/

section Rows
variable {σ : Type} {Lost : α → Prop} {R : α → α → Prop} {items others : List α}
  {ending : Option Break}

/-- Items that are taken one after the other into a state, up to a fault at the break. -/
theorem RowCut.carries (h : RowCut Lost R items ending others) (take : List α → σ → Except Fault σ)
    (step : σ → α → Except Fault σ) {finish done : σ → Except Fault β}
    (hnil : ∀ state, take [] state = .ok state)
    (hcons : ∀ item rest state, take (item :: rest) state = step state item >>= take rest)
    (hlost : ∀ item state, Lost item → ∃ fault, step state item = .error (.syntactic fault))
    (hstep : ∀ item ∈ items, ∀ other state, R item other →
      Carries (step state item) (step state other))
    (hfinish : ∀ place state, ending = some place →
      ∃ fault, finish state = .error (.syntactic fault)) (state : σ) :
    Carries (take items state >>= finish) (take others state >>= done) := by
  induction h generalizing state with
  | stopped place others =>
    obtain ⟨fault, hfault⟩ := hfinish place state rfl
    rw [hnil, ok_bind, hfault]
    exact .mended fault _
  | lost h others =>
    obtain ⟨fault, hfault⟩ := hlost _ state h
    rw [hcons, hfault]
    exact .mended fault _
  | broken h others =>
    rw [hcons, hcons]
    exact (hstep _ List.mem_cons_self _ state h).bind.bind
  | item item h ih =>
    rw [hcons, hcons, bind_assoc, bind_assoc]
    refine .bind_same fun next _ => ?_
    exact ih (fun item hm => hstep item (List.mem_cons_of_mem _ hm)) hfinish next

/-- Items that are read into a list. -/
theorem RowCut.carries_mapM (h : RowCut Lost R items ending others) {g : α → Except Fault β}
    (hlost : ∀ item, Lost item → ∃ fault, g item = .error (.syntactic fault))
    (hg : ∀ item other, R item other → Carries (g item) (g other)) {γ : Type} (k : List β → γ)
    (other : Option Break) :
    Carries (items.mapM g >>= fun xs => atBreak ending >>= fun _ => .ok (k xs))
      (others.mapM g >>= fun xs => atBreak other >>= fun _ => .ok (k xs)) := by
  induction h generalizing k with
  | stopped place others =>
    rw [List.mapM_nil]
    exact .mended _ _
  | lost h others =>
    obtain ⟨fault, hfault⟩ := hlost _ h
    rw [List.mapM_cons, hfault]
    exact .mended fault _
  | broken h others =>
    rw [List.mapM_cons, List.mapM_cons]
    exact (hg _ _ h).bind.bind
  | item item h ih =>
    simp only [List.mapM_cons, bind_assoc, pure_bind]
    exact .bind_same fun x _ => ih fun xs => k (x :: xs)

end Rows

/-! A node that breaks off, looked through or passed over. -/

/-- Nodes by their kinds, with the property at hand for all items and for the values of all
fields. -/
theorem Node.inductOn {P : Node → Prop} (null : P .null) (bool : ∀ b, P (.bool b))
    (number : ∀ general real, P (.number general real)) (text : ∀ content, P (.text content))
    (list : ∀ items ending, (∀ item ∈ items, P item) → P (.list items ending))
    (object : ∀ fields ending, (∀ field ∈ fields, P field.2) → P (.object fields ending))
    (broken : ∀ place, P (.broken place)) (node : Node) : P node := by
  refine @Node.rec P (fun items => ∀ item ∈ items, P item)
    (fun fields => ∀ field ∈ fields, P field.2) (fun field => P field.2) null bool number text
    list object broken ?_ ?_ ?_ ?_ ?_ node
  · simp
  · exact fun item rest hitem hrest => List.forall_mem_cons.mpr ⟨hitem, hrest⟩
  · simp
  · exact fun field rest hfield hrest => List.forall_mem_cons.mpr ⟨hfield, hrest⟩
  · exact fun _ _ hvalue => hvalue

theorem carries_outline (node : Node) :
    ∀ other, Cut node other → Carries node.outline other.outline := by
  induction node using Node.inductOn with
  | list items ending ih =>
    intro other h
    cases h with
    | list h =>
      refine h.carries (fun items _ => outlineItems items) (fun _ item => item.outline)
        (fun _ => rfl) (fun _ _ _ => rfl) ?_ (fun item hm other _ h => ih item hm other h) ?_ ()
      · rintro _ _ ⟨place, rfl⟩
        exact ⟨_, rfl⟩
      · rintro place _ rfl
        exact ⟨_, rfl⟩
  | object fields ending ih =>
    intro other h
    cases h with
    | object h =>
      refine h.carries (fun fields _ => outlineFields fields) (fun _ field => field.2.outline)
        (fun _ => rfl) (fun _ _ _ => rfl) (fun _ _ h => h.elim) ?_ ?_ ()
      · rintro _ hm _ _ ⟨key, h⟩
        exact ih _ hm _ h
      · rintro place _ rfl
        exact ⟨_, rfl⟩
  | broken place => exact fun _ _ => .mended _ _
  | _ => exact fun _ h => by cases h

theorem isStreaming_of_enter {s inner : Site} (h : s.enter = .ok inner) (hs : s.isStreaming) :
    inner.isStreaming := by
  rw [Site.enter, if_pos hs] at h
  split at h
  · cases h
  · cases h
    exact hs

theorem carries_check (node : Node) :
    ∀ s other, Cut node other → Carries (node.check s) (other.check s) := by
  induction node using Node.inductOn with
  | list items ending ih =>
    intro s other h
    cases h with
    | list h =>
      rw [Node.check, Node.check]
      refine .bind_same fun inner _ => ?_
      refine h.carries (fun items _ => checkItems inner items) (fun _ item => item.check inner)
        (fun _ => rfl) (fun _ _ _ => rfl) ?_ (fun item hm other _ h => ih item hm inner other h)
        ?_ ()
      · rintro _ _ ⟨place, rfl⟩
        exact ⟨_, rfl⟩
      · rintro place _ rfl
        exact ⟨_, rfl⟩
  | object fields ending ih =>
    intro s other h
    cases h with
    | object h =>
      rw [Node.check, Node.check]
      refine .bind_same fun inner _ => ?_
      refine h.carries (fun fields _ => checkFields inner fields)
        (fun _ field => field.1 >>= fun _ => field.2.check inner)
        (fun _ => rfl) ?_ (fun _ _ h => h.elim) ?_ ?_ ()
      · intro field rest _
        rw [bind_assoc]
        rfl
      · rintro _ hm _ _ ⟨key, h⟩
        exact .bind_same fun _ _ => ih _ hm inner _ h
      · rintro place _ rfl
        exact ⟨_, rfl⟩
  | broken place => exact fun _ _ _ => .mended _ _
  | _ => exact fun _ _ h => by cases h

/-! Readers. -/

/-- The kinds of nodes that may break off. -/
def Node.canBreak : Node → Bool
  | .list _ _ | .object _ _ | .broken _ => true
  | _ => false

namespace Reader

/-- A reader that meets the faults of a text that is taken part by part in their order. -/
structure Orderly (r : Reader α) : Prop where
  /-- It asks for what it reads. -/
  broken (s : Site) (place : Break) (hs : s.isStreaming) :
    ∃ fault, r s (.broken place) = .error (.syntactic fault)
  carries (s : Site) (node other : Node) (hs : s.isStreaming) (h : Cut node other) :
    Carries (r s node) (r s other)

variable {r : Reader α} {s : Site}

theorem not_kept (hs : s.isStreaming) : s.kept = false ∧ s.format = .json := by
  simpa [Site.isStreaming] using hs

theorem Orderly.map (h : Orderly r) (f : α → β) : Orderly (r.map f) where
  broken s place hs := by
    obtain ⟨fault, hfault⟩ := h.broken s place hs
    exact ⟨fault, by rw [Reader.map, hfault]; rfl⟩
  carries s node other hs hcut := (h.carries s node other hs hcut).map

/-- A reader of leaves refuses for its kind whatever may break off. -/
theorem orderly_of_mismatch (expected : String)
    (h : ∀ s node, s.isStreaming → node.canBreak → r s node = mismatch expected node) :
    Orderly r where
  broken s place hs := ⟨place.seen, h s _ hs rfl⟩
  carries s node other hs hcut := by
    cases hcut with
    | broken place =>
      rw [h s _ hs rfl]
      exact .mended _ _
    | list =>
      rw [h s _ hs rfl, h s _ hs rfl]
      exact .kept _
    | object =>
      rw [h s _ hs rfl, h s _ hs rfl]
      exact .kept _

theorem orderly_bool : Orderly bool := by
  refine orderly_of_mismatch "a boolean" fun s node hs hbreak => ?_
  cases node <;> first | rfl | cases hbreak

theorem orderly_string : Orderly string := by
  refine orderly_of_mismatch "a string" fun s node hs hbreak => ?_
  cases node <;> first | rfl | cases hbreak

theorem orderly_unit : Orderly unit := by
  refine orderly_of_mismatch "unit" fun s node hs hbreak => ?_
  cases node <;> first | rfl | cases hbreak

theorem isRealText_of_streaming (hs : s.isStreaming) : isRealText s = false := by
  simp [isRealText, not_kept hs]

theorem orderly_count : Orderly count := by
  refine orderly_of_mismatch "usize" fun s node hs hbreak => ?_
  unfold count
  rw [isRealText_of_streaming hs]
  cases node <;> first | rfl | cases hbreak

theorem orderly_real32 : Orderly real32 := by
  refine orderly_of_mismatch "f32" fun s node hs hbreak => ?_
  unfold real32
  rw [isRealText_of_streaming hs]
  cases node <;> first | rfl | cases hbreak

theorem orderly_ignored : Orderly ignored where
  broken s place hs := ⟨place.skipped, by simp [ignored, not_kept hs, Node.outline]⟩
  carries s node other hs hcut := by
    have hread : ∀ node, ignored s node = node.outline := by
      intro node
      simp [ignored, not_kept hs]
    rw [hread, hread]
    exact carries_outline node other hcut

/-- What a reader does with a node that it has looked through does not matter. -/
theorem orderly_keep (k : Site → Node → Except Fault α) :
    Orderly fun s node => keep s node >>= fun s => k s node where
  broken s place hs := ⟨place.seen, by simp [keep, not_kept hs, Node.check, error_bind]⟩
  carries s node other hs hcut := by
    have hread : ∀ node, keep s node = node.check s >>= fun _ => .ok { s with kept := true } := by
      intro node
      rw [keep, (not_kept hs).1]
      rfl
    rw [hread, hread]
    exact (carries_check node s other hcut).bind.bind

theorem orderly_firstOf (type : String) (readers : List (Reader α)) :
    Orderly (firstOf type readers) :=
  orderly_keep _

theorem orderly_value : Orderly Value.reader :=
  orderly_keep _

theorem Orderly.option (h : Orderly r) : Orderly (option r) where
  broken s place hs := by
    obtain ⟨fault, hfault⟩ := h.broken s place hs
    exact ⟨fault, congrArg (Except.map some) hfault⟩
  carries s node other hs hcut := by
    cases hcut with
    | broken place =>
      -- What goes on from here may be null, so that the reader below is not asked again.
      obtain ⟨fault, hfault⟩ := h.broken s place hs
      have hread : Reader.option r s (.broken place) = .error (.syntactic fault) :=
        congrArg (Except.map some) hfault
      rw [hread]
      exact .mended fault _
    | list hrow => exact (h.carries s _ _ hs (.list hrow _)).map
    | object hrow => exact (h.carries s _ _ hs (.object hrow _)).map

theorem Orderly.list (h : Orderly r) : Orderly (list r) where
  broken s place hs := ⟨place.seen, rfl⟩
  carries s node other hs hcut := by
    cases hcut with
    | broken place => exact .mended _ _
    | list hrow =>
      refine .bind_same fun inner henter => ?_
      have hinner := isStreaming_of_enter henter hs
      refine hrow.carries_mapM ?_ (fun item other hcut => h.carries inner item other hinner hcut)
        id _
      rintro _ ⟨place, rfl⟩
      exact h.broken inner place hinner
    | object hrow => exact .kept _

theorem Orderly.table (h : Orderly r) : Orderly (table r) where
  broken s place hs := ⟨place.seen, rfl⟩
  carries s node other hs hcut := by
    cases hcut with
    | broken place => exact .mended _ _
    | list hrow => exact .kept _
    | object hrow =>
      refine .bind_same fun inner henter => ?_
      have hinner := isStreaming_of_enter henter hs
      refine hrow.carries (tableFields r inner) (fun t field => field.1 >>= fun key =>
        (r inner field.2).map fun value => t.put key value) (fun _ => rfl) ?_ (fun _ _ h => h.elim)
        ?_ ?_ []
      · rintro ⟨key, node⟩ rest t
        cases key with
        | error fault => rfl
        | ok key =>
          rw [tableFields]
          cases r inner node <;> rfl
      · rintro _ _ _ t ⟨key, hcut⟩
        exact .bind_same fun _ _ => (h.carries inner _ _ hinner hcut).map
      · rintro place t rfl
        exact ⟨_, rfl⟩

/-! Records. -/

variable {fields : List (Field α)}

/-- One field of an object, read into the record. -/
def fieldStep (fields : List (Field α)) (s : Site) (state : List String × α)
    (entry : Except Fault String × Node) : Except Fault (List String × α) := do
  let key ← entry.1
  match fields.find? (·.name == key) with
  | none =>
    ignored s entry.2
    return state
  | some field =>
    if key ∈ state.1 then .error (.shape (.duplicateField key))
    else
      let set ← field.read s entry.2
      return (key :: state.1, set state.2)

theorem objectFields_cons (entry : Except Fault String × Node)
    (rest : List (Except Fault String × Node)) (state : List String × α) :
    objectFields fields s (entry :: rest) state =
      fieldStep fields s state entry >>= objectFields fields s rest := by
  obtain ⟨key, node⟩ := entry
  obtain ⟨seen, value⟩ := state
  cases key with
  | error fault => rfl
  | ok key =>
    rw [objectFields, fieldStep]
    simp only [ok_bind]
    cases fields.find? (·.name == key) with
    | none => cases ignored s node <;> rfl
    | some field =>
      dsimp only
      split
      · rfl
      · cases field.read s node <;> rfl

theorem carries_fieldStep (hfields : ∀ field ∈ fields, Orderly field.read) (hs : s.isStreaming)
    {entry other : Except Fault String × Node} (h : CutField entry other)
    (state : List String × α) :
    Carries (fieldStep fields s state entry) (fieldStep fields s state other) := by
  cases h with
  | value key hcut =>
    refine .bind_same fun key _ => ?_
    split
    · exact (orderly_ignored.carries s _ _ hs hcut).bind
    · next field hfind =>
      split
      · exact .kept _
      · exact ((hfields field (List.mem_of_find?_eq_some hfind)).carries s _ _ hs hcut).bind

/-- Behind the last field that is asked for, a list that breaks off is only found to do so. -/
theorem listEnd_of_rowCut {items others : List Node} {ending : Option Break}
    (h : RowCut Node.IsBroken Cut items ending others) (hs : s.isStreaming) (taken : Nat) :
    ∃ fault, listEnd s taken items ending = .error (.syntactic fault) := by
  unfold listEnd
  rw [if_pos hs]
  cases h with
  | stopped place =>
    dsimp only [List.isEmpty_nil]
    split
    · exact ⟨_, rfl⟩
    · split <;> exact ⟨_, rfl⟩
  | _ => exact ⟨_, rfl⟩

theorem carries_listFields {items others : List Node} {ending other : Option Break}
    (h : RowCut Node.IsBroken Cut items ending others)
    (hfields : ∀ field ∈ fields, Orderly field.read) (hs : s.isStreaming)
    {k l : α × List Node → Except Fault β}
    (hk : ∀ value left lefts, RowCut Node.IsBroken Cut left ending lefts →
      Carries (k (value, left)) (l (value, lefts)))
    (expected : String) (index : Nat) (value : α) :
    Carries (listFields expected s index ending fields items value >>= k)
      (listFields expected s index other fields others value >>= l) := by
  induction fields generalizing items others index value with
  | nil => exact hk value items others h
  | cons field fields ih =>
    obtain ⟨hfield, hrest⟩ := List.forall_mem_cons.mp hfields
    cases h with
    | stopped place => exact .mended _ _
    | lost h others =>
      -- The item may be missing altogether, and only its own fault tells that nothing was read.
      obtain ⟨place, rfl⟩ := h
      obtain ⟨fault, hfault⟩ := hfield.broken s place hs
      rw [listFields, hfault]
      exact .mended fault _
    | broken hcut others => exact (hfield.carries s _ _ hs hcut).bind.bind
    | item item h =>
      rw [listFields, listFields, bind_assoc, bind_assoc]
      exact .bind_same fun set _ => ih h hrest (index + 1) (set value)

theorem orderly_record (h : fields.Forall fun field => Orderly field.read) (description : String)
    (empty : α) : Orderly (record description empty fields) where
  broken s place hs := ⟨place.seen, rfl⟩
  carries s node other hs hcut := by
    cases hcut with
    | broken place => exact .mended _ _
    | list hrow =>
      refine .bind_same fun inner henter => ?_
      have hinner := isStreaming_of_enter henter hs
      refine carries_listFields hrow (List.forall_iff_forall_mem.mp h) hinner ?_ _ 0 empty
      intro value left lefts hleft
      obtain ⟨fault, hfault⟩ := listEnd_of_rowCut hleft hs (_ - left.length)
      dsimp only
      rw [hfault]
      exact .mended fault _
    | object hrow =>
      refine .bind_same fun inner henter => ?_
      have hinner := isStreaming_of_enter henter hs
      refine hrow.carries (objectFields fields inner) (fieldStep fields inner) (fun _ => rfl)
        objectFields_cons (fun _ _ h => h.elim) ?_ ?_ ([], empty)
      · intro _ _ _ state hcut
        exact carries_fieldStep (List.forall_iff_forall_mem.mp h) hinner hcut state
      · rintro place state rfl
        exact ⟨_, rfl⟩

/-! Variants. -/

theorem variant_object (known : List (String × α)) (hs : s.isStreaming)
    (key : Except Fault String) (node : Node) (rest : List (Except Fault String × Node))
    (ending : Option Break) : variant known s (.object ((key, node) :: rest) ending) =
      s.enter >>= fun inner => variantName known inner (.text key) >>= fun value =>
        unit inner node >>= fun _ => variantEnd rest ending >>= fun _ => .ok value := by
  simp only [variant, hs, not_kept hs]
  rfl

theorem variantEnd_of_rowCut {rest others : List (Except Fault String × Node)}
    {ending : Option Break} (h : RowCut (fun _ => False) CutField rest ending others) :
    ∃ fault, variantEnd rest ending = .error (.syntactic fault) := by
  cases h with
  | lost h => exact h.elim
  | _ => exact ⟨_, rfl⟩

theorem orderly_variant (known : List (String × α)) : Orderly (variant known) where
  broken s place hs := ⟨variantFault place.seen, rfl⟩
  carries s node other hs hcut := by
    cases hcut with
    | broken place => exact .mended _ _
    | list hrow => exact .kept _
    | object hrow =>
      cases hrow with
      | stopped place others =>
        refine .bind_same fun inner _ => ?_
        exact .mended _ _
      | lost h => exact h.elim
      | broken h others =>
        obtain ⟨key, hcut⟩ := h
        rw [variant_object known hs, variant_object known hs]
        refine .bind_same fun inner henter => .bind_same fun value _ => ?_
        exact (orderly_unit.carries inner _ _ (isStreaming_of_enter henter hs) hcut).bind
      | item entry h =>
        obtain ⟨key, node⟩ := entry
        obtain ⟨fault, hfault⟩ := variantEnd_of_rowCut h
        rw [variant_object known hs, variant_object known hs, hfault]
        refine .bind_same fun inner _ => .bind_same fun value _ => .bind_same fun _ _ => ?_
        exact .mended fault _

end Reader

end Cartouche.Json
