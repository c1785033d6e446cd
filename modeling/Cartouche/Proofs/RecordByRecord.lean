import Cartouche.Proofs.Ids

/-!
Expansion as one loop over the records, which hands out ids and puts out elements and diagnostics as
it goes along. It comes to the same as taking the events of all records first and giving their
drafts ids in a second pass: of all that is looked up for an element its id comes last, so that a
failure before it has handed out none.
-/
namespace Cartouche
open Decimal Text

/-- The ids that are handed out so far, and what is put out so far. -/
structure Progress where
  ids : IdTable
  out : Expansion

/-- A part of the loop that can fail. What it did before its failure stays done. -/
abbrev Work (ε : Type) := ExceptT ε (StateM Progress)

namespace Progress

def start : Progress :=
  ⟨.empty, ⟨[], []⟩⟩

def put (e : Element) : StateM Progress Unit :=
  modify fun p => { p with out.elements := p.out.elements ++ [e] }

def report (d : Diagnostic) : StateM Progress Unit :=
  modify fun p => { p with out.diagnostics := p.out.diagnostics ++ [d] }

def allocate (template : String) (requested : Option String) : StateM Progress String :=
  modifyGet fun p =>
    let (id, ids) := p.ids.allocate template requested
    (id, { p with ids })

/-- What events leave behind that do not end the loop. -/
def after (template : String) (p : Progress) (events : List (Nat × Event)) : Progress :=
  let drafts := events.filterMap fun (_, event) => event.draft?
  ⟨idsAfter template p.ids drafts, ⟨p.out.elements ++ assignIds template p.ids drafts,
    p.out.diagnostics ++ events.filterMap fun (i, event) => event.diagnostic? template i⟩⟩

theorem after_one (template : String) (p : Progress) (i : Nat) (event : Event) :
    p.after template [(i, event)] = ⟨idsAfter template p.ids event.draft?.toList,
      p.out.elements ++ assignIds template p.ids event.draft?.toList,
      p.out.diagnostics ++ (event.diagnostic? template i).toList⟩ := by
  simp only [after, List.filterMap_cons, List.filterMap_nil]
  cases event <;> rfl

theorem after_append (template : String) (p : Progress) (events later : List (Nat × Event)) :
    p.after template (events ++ later) = (p.after template events).after template later := by
  simp [after, assignIds_append, idsAfter]

end Progress

namespace Work
variable {ε α β : Type}

theorem liftM_ok (a : α) : (liftM (Except.ok a : Except ε α) : Work ε α) = pure a :=
  rfl

theorem liftM_error (e : ε) :
    (liftM (Except.error e : Except ε α) : Work ε α) = throw e :=
  rfl

theorem liftM_bind (x : Except ε α) (f : α → Except ε β) :
    (liftM (x >>= f) : Work ε β) = liftM x >>= fun a => liftM (f a) := by
  cases x <;> rfl

theorem forM_one (x : α) (f : α → Work ε Unit) : forM [x] f = f x := by
  rw [List.forM_cons, List.forM_nil, bind_pure_unit]

theorem forM_flatMap (xs : List α) (g : α → List β) (f : β → Work ε Unit) :
    forM (xs.flatMap g) f = forM xs fun x => forM (g x) f := by
  induction xs with
  | nil => rfl
  | cons x xs ih => rw [List.flatMap_cons, List.forM_append, List.forM_cons, ih]

variable {x : Work ε α} {f : α → Work ε β} {p q : Progress}

theorem run_bind_ok {a : α} (h : x.run.run p = (.ok a, q)) :
    (x >>= f).run.run p = (f a).run.run q := by
  rw [ExceptT.run_bind, StateT.run_bind, h]
  rfl

theorem run_bind_error {e : ε} (h : x.run.run p = (.error e, q)) :
    (x >>= f).run.run p = (.error e, q) := by
  rw [ExceptT.run_bind, StateT.run_bind, h]
  rfl

end Work

namespace Template
open Progress Work
variable (t : Template) (i : Nat) (record : Value)

/-- A failure ends the loop, or is put out as a diagnostic. -/
def fail (f : Failure) : Work TemplateError Unit :=
  match t.onError with
  | .skip => report ⟨t.id, i, some f.property, f.cause.message⟩
  | .abort => throw (.record t.id i f.property f.cause)

/-- The shape that a word names; one that is not blank and names none is reported on the spot. -/
def nameShape : Option String → StateM Progress NodeShape
  | none => return .rectangle
  | some word => do
    match NodeShape.ofToken? word with
    | some shape => return shape
    | none =>
      if !(trimmed word).isEmpty then report ⟨t.id, i, some "shape", shapeNote word⟩
      return .rectangle

def makeNode (b : NodeBlueprint) : Work Failure (Option Element) := do
  let label ← t.text record "label" b.label
  let subtitle ← t.optionalText record "subtitle" b.subtitle
  let word ← t.optionalText record "shape" b.shape
  let shape ← t.nameShape i word
  let style ← t.style record b.style
  let requested ← t.requestedId record b
  let id ← allocate t.id requested
  return some ⟨id, .node label subtitle shape, style, t.id⟩

def makeEdge (b : EdgeBlueprint) : Work Failure (Option Element) := do
  let source ← t.text record "from" b.source
  let target ← t.text record "to" b.target
  if (trimmed source).isEmpty || (trimmed target).isEmpty then return none
  let label ← t.optionalText record "label" b.label
  let kind ← t.optionalText record "kind" b.kind
  let style ← t.style record b.style
  let requested ← match b.id with
    | some text => t.text record "id" text
    | none => pure (t.id ++ "-" ++ slug source ++ "-" ++ slug target)
  let id ← allocate t.id (some requested)
  return some ⟨id, .edge source target (label.filter (!·.isEmpty))
    ((kind.bind EdgeKind.ofToken?).getD .solid), style, t.id⟩

/-- Puts out what comes of an attempt: its element if it has one, and otherwise why it has none. -/
def settle (attempt : Work Failure (Option Element)) : Work TemplateError Unit := do
  match ← attempt.run with
  | .ok (some e) => put e
  | .ok none => report ⟨t.id, i, none, endNote⟩
  | .error failure => t.fail i failure

def recordStep : Work TemplateError Unit := do
  match t.keeps record with
  | .error failure => t.fail i failure
  | .ok false => return ()
  | .ok true =>
    forM t.nodes fun b => t.settle i (t.makeNode i record b)
    forM t.edges fun b => t.settle i (t.makeEdge record b)

def recordLoop (records : List Value) : Work TemplateError Unit :=
  forM records.zipIdx fun (record, i) => t.recordStep i record

/-- Expansion by one loop over the records, with the ends of edges linked when it is over. -/
def expandByRecord (sources : Table (List Value)) : Except TemplateError Expansion := do
  t.validate
  match sources.get? t.source with
  | none => throw (.missingSource t.id t.source)
  | some records =>
    let (result, progress) := (t.recordLoop records).run.run .start
    result
    return { progress.out with elements := linkEdges t.id progress.out.elements }

/-- What an event comes to in the loop. -/
def act : Event → Work TemplateError Unit
  | .draft d => do
    let id ← allocate t.id d.requested
    put ⟨id, d.body, d.style, t.id⟩
  | .note property message => report ⟨t.id, i, property, message⟩
  | .failure f => t.fail i f

variable {t i record}

/-! Steps of the loop: what it does for a blueprint, and then for a record, is what the events of
those say. -/

section Steps
attribute [local irreducible] IdTable.allocate NodeShape.ofToken? slug trimmed

/-- A draft gets its id last, and goes out with it. -/
def grant (d : Draft) : Work Failure (Option Element) := do
  let id ← allocate t.id d.requested
  return some ⟨id, d.body, d.style, t.id⟩

theorem settle_throw (t : Template) (i : Nat) (f : Failure) :
    t.settle i (throw f) = t.act i (.failure f) :=
  rfl

theorem settle_none (t : Template) (i : Nat) :
    t.settle i (pure none) = t.act i (.note none endNote) :=
  rfl

theorem settle_grant (t : Template) (i : Nat) (d : Draft) :
    t.settle i (t.grant d) = t.act i (.draft d) :=
  rfl

theorem settle_ofDraft (t : Template) (i : Nat) (draft : Except Failure Draft) :
    t.settle i (liftM draft >>= t.grant) = t.act i (Event.ofDraft draft) := by
  cases draft with
  | error f => exact settle_throw t i f
  | ok d => exact settle_grant t i d

/-- The note on a word stays, whatever fails behind it. -/
theorem settle_nameShape (t : Template) (i : Nat) (word : Option String)
    (rest : NodeShape → Work Failure (Option Element)) :
    t.settle i (liftM (t.nameShape i word) >>= rest) =
      (forM (readShape word).2 (t.act i) >>= fun _ => t.settle i (rest (readShape word).1)) := by
  cases word with
  | none => rfl
  | some word =>
    cases hshape : NodeShape.ofToken? word with
    | some shape =>
      simp only [nameShape, readShape, hshape]
      rfl
    | none =>
      cases hblank : (trimmed word).isEmpty
      · simp only [nameShape, readShape, hshape, hblank, Bool.not_false, Bool.false_eq_true,
          if_true, if_false]
        rfl
      · simp only [nameShape, readShape, hshape, hblank, Bool.not_true, Bool.false_eq_true,
          if_true, if_false]
        rfl

theorem settle_makeNode (t : Template) (i : Nat) (record : Value) (b : NodeBlueprint) :
    t.settle i (t.makeNode i record b) = forM (t.nodeEvents record b) (t.act i) := by
  have hsplit : t.makeNode i record b = (liftM (t.nodeTexts record b) >>= fun texts =>
      liftM (t.nameShape i texts.2.2) >>= fun shape => do
        let style ← t.style record b.style
        let requested ← t.requestedId record b
        t.grant ⟨requested, .node texts.1 texts.2.1 shape, style⟩) := by
    simp only [makeNode, nodeTexts, liftM_bind, bind_assoc]
    rfl
  rw [hsplit]
  cases htexts : t.nodeTexts record b with
  | error f =>
    rw [nodeEvents_of_error htexts, forM_one, liftM_error, ← settle_throw]
    rfl
  | ok texts =>
    obtain ⟨label, subtitle, word⟩ := texts
    have hdraft : (do
        let style ← t.style record b.style
        let requested ← t.requestedId record b
        t.grant ⟨requested, .node label subtitle (readShape word).1, style⟩) =
          (liftM (t.nodeDraft record b label subtitle word) >>= t.grant) := by
      simp only [nodeDraft, liftM_bind, bind_assoc]
      rfl
    rw [nodeEvents_of_ok htexts, liftM_ok, pure_bind, settle_nameShape, hdraft, settle_ofDraft,
      List.forM_append, forM_one]

theorem settle_makeEdge (t : Template) (i : Nat) (record : Value) (b : EdgeBlueprint) :
    t.settle i (t.makeEdge record b) = forM (t.edgeEvents record b) (t.act i) := by
  have hsplit : t.makeEdge record b =
      (liftM (t.edgeDraft record b) >>= fun draft => match draft with
        | none => pure none
        | some d => t.grant d) := by
    simp only [makeEdge, edgeDraft, liftM_bind, bind_assoc]
    refine bind_congr fun source => bind_congr fun target => ?_
    split
    · rfl
    · cases b.id <;> simp only [liftM_bind, bind_assoc] <;> rfl
  rw [hsplit]
  cases hdraft : t.edgeDraft record b with
  | error f =>
    rw [edgeEvents_of_error hdraft, forM_one, liftM_error, ← settle_throw]
    rfl
  | ok draft =>
    rw [liftM_ok, pure_bind]
    cases draft with
    | none => rw [edgeEvents_of_none hdraft, forM_one, settle_none]
    | some d => rw [edgeEvents_of_some hdraft, forM_one, settle_grant]

theorem recordStep_eq (t : Template) (i : Nat) (record : Value) :
    t.recordStep i record = forM (t.events record) (t.act i) := by
  unfold recordStep events
  cases t.keeps record with
  | error f => exact (forM_one _ _).symm
  | ok kept =>
    cases kept with
    | false => rfl
    | true =>
      dsimp only
      rw [List.forM_append, forM_flatMap, forM_flatMap]
      simp only [settle_makeNode, settle_makeEdge]

/-- The loop does what the events of all records say, one after the other. -/
theorem recordLoop_eq (t : Template) (records : List Value) :
    t.recordLoop records = forM (t.allEvents records) fun (i, event) => t.act i event := by
  unfold recordLoop allEvents
  rw [forM_flatMap]
  simp only [recordStep_eq, List.forM_map]

end Steps

/-! Runs of the loop, by induction on the events of all records. -/

section Runs
attribute [local irreducible] IdTable.allocate
variable {t : Template} {i : Nat} {event : Event} {events : List (Nat × Event)}
  {e : TemplateError}

theorem failure?_cons (t : Template) (i : Nat) (event : Event) (rest : List (Nat × Event)) :
    t.failure? ((i, event) :: rest) = (t.failure? [(i, event)]).or (t.failure? rest) := by
  unfold failure?
  cases t.onError with
  | skip => rfl
  | abort => cases event <;> rfl

theorem run_act_of_failure (h : t.failure? [(i, event)] = some e) (p : Progress) :
    (t.act i event).run.run p = (.error e, p) := by
  obtain ⟨habort, _, f, hm, he⟩ := mem_of_failure?_eq_some h
  cases List.mem_singleton.mp hm
  rw [act, fail, habort, ← he]
  rfl

theorem run_act_of_no_failure (h : t.failure? [(i, event)] = none) (p : Progress) :
    (t.act i event).run.run p = (.ok (), p.after t.id [(i, event)]) := by
  cases event with
  | draft d =>
    simp only [after_one, Event.draft?, Option.toList_some, assignIds_cons]
    simp only [Event.diagnostic?, Option.toList_none, List.append_nil]
    rfl
  | note property message =>
    simp only [after_one, Event.draft?, Option.toList_none, assignIds, List.append_nil]
    rfl
  | failure f =>
    cases hpolicy : t.onError with
    | abort =>
      rw [failure?_eq_none_of_abort hpolicy] at h
      exact absurd List.mem_cons_self (h i f)
    | skip =>
      rw [act, fail, hpolicy]
      simp only [after_one, Event.draft?, Option.toList_none, assignIds, List.append_nil]
      rfl

theorem run_of_no_failure (h : t.failure? events = none) (p : Progress) :
    (forM events fun (i, event) => t.act i event).run.run p = (.ok (), p.after t.id events) := by
  induction events generalizing p with
  | nil =>
    have hstay : p.after t.id [] = p := by simp [after, assignIds, idsAfter]
    rw [hstay]
    rfl
  | cons head rest ih =>
    obtain ⟨i, event⟩ := head
    rw [failure?_cons, Option.or_eq_none_iff] at h
    rw [List.forM_cons, run_bind_ok (run_act_of_no_failure h.1 p), ih h.2, ← after_append]
    rfl

theorem run_of_failure (h : t.failure? events = some e) (p : Progress) :
    ((forM events fun (i, event) => t.act i event).run.run p).1 = .error e := by
  induction events generalizing p with
  | nil =>
    obtain ⟨_, _, _, hm, _⟩ := mem_of_failure?_eq_some h
    cases hm
  | cons head rest ih =>
    obtain ⟨i, event⟩ := head
    rw [failure?_cons] at h
    rw [List.forM_cons]
    cases hhead : t.failure? [(i, event)] with
    | some e' =>
      rw [hhead] at h
      cases h
      rw [run_bind_error (run_act_of_failure hhead p)]
    | none =>
      rw [hhead] at h
      rw [run_bind_ok (run_act_of_no_failure hhead p)]
      exact ih h _

end Runs

/-- The loop over the records expands a template as the passes over all of them do. -/
theorem expandByRecord_eq (t : Template) (sources : Table (List Value)) :
    t.expandByRecord sources = t.expand sources := by
  unfold expandByRecord expand
  refine bind_congr fun _ => ?_
  cases sources.get? t.source with
  | none => rfl
  | some records =>
    dsimp only
    rw [recordLoop_eq]
    cases hfailure : t.failure? (t.allEvents records) with
    | some e =>
      have hrun := run_of_failure hfailure .start
      generalize StateT.run _ _ = ended at hrun ⊢
      obtain ⟨result, progress⟩ := ended
      cases hrun
      rfl
    | none =>
      rw [run_of_no_failure hfailure]
      rfl

end Template

/-- The expansion with another one behind it. -/
def Expansion.extend (out other : Expansion) : Expansion :=
  ⟨out.elements ++ other.elements, out.diagnostics ++ other.diagnostics⟩

theorem Expansion.extend_assoc (out other more : Expansion) :
    (out.extend other).extend more = out.extend (other.extend more) := by
  simp [extend]

/-- Templates one after the other, each put out behind those before it. -/
def expandAllByRecord (sources : Table (List Value)) (templates : List Template) :
    Except TemplateError Expansion :=
  templates.foldlM (fun out t => (t.expandByRecord sources).map out.extend) ⟨[], []⟩

theorem expandAllByRecord_eq (sources : Table (List Value)) (templates : List Template) :
    expandAllByRecord sources templates = expandAll sources templates := by
  have hrun : ∀ out : Expansion,
      templates.foldlM (fun out t => (t.expandByRecord sources).map out.extend) out =
        (expandAll sources templates).map out.extend := by
    induction templates with
    | nil => exact fun out => congrArg Except.ok (by simp [Expansion.extend])
    | cons t rest ih =>
      intro out
      rw [List.foldlM_cons, t.expandByRecord_eq, expandAll]
      cases t.expand sources with
      | error e => rfl
      | ok first =>
        refine (ih (out.extend first)).trans ?_
        cases expandAll sources rest with
        | error e => rfl
        | ok others => exact congrArg Except.ok (out.extend_assoc first others)
  rw [expandAllByRecord, hrun]
  cases expandAll sources templates with
  | error e => rfl
  | ok out => rfl

end Cartouche
