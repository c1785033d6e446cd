import Cartouche.Proofs.Expansion

/-!
What an expansion reads of a record it reads through lookups alone: if the lookups of one variant
of a template follow those of another, so do its texts, its styles and its events.
-/
namespace Cartouche
open Decimal Text

variable {P : PathError → Prop} {V : String → Prop} {l l' : Lookup} {record : Value}

/-- Lookups of the paths in `V` follow each other in every record. -/
def LookupsFollow (P : PathError → Prop) (V : String → Prop) (l l' : Lookup) : Prop :=
  ∀ path record, V path → Follows P (evaluatePath path record l) (evaluatePath path record l')

/-- All tokens of a text have their path in `V`. -/
def TextIn (V : String → Prop) (text : String) : Prop :=
  ∀ path ∈ tokenPaths text, V path

def StyleBinding.In (V : String → Prop) : StyleBinding → Prop
  | .literal text => TextIn V text
  | .constant _ => True
  | .mapped m => V m.field

structure NodeBlueprint.In (V : String → Prop) (b : NodeBlueprint) : Prop where
  id : ∀ text ∈ b.id, TextIn V text
  label : TextIn V b.label
  subtitle : ∀ text ∈ b.subtitle, TextIn V text
  shape : ∀ text ∈ b.shape, TextIn V text
  style : ∀ entry ∈ b.style, entry.2.In V

structure EdgeBlueprint.In (V : String → Prop) (b : EdgeBlueprint) : Prop where
  id : ∀ text ∈ b.id, TextIn V text
  source : TextIn V b.source
  target : TextIn V b.target
  label : ∀ text ∈ b.label, TextIn V text
  kind : ∀ text ∈ b.kind, TextIn V text
  style : ∀ entry ∈ b.style, entry.2.In V

/-- All paths that an expansion can look up are in `V`. -/
structure Template.In (V : String → Prop) (t : Template) : Prop where
  nodes : ∀ b ∈ t.nodes, b.In V
  edges : ∀ b ∈ t.edges, b.In V
  filter : ∀ f ∈ t.filter, V f.path

theorem mem_tokenPaths {text path : String} :
    path ∈ tokenPaths text ↔ Part.token path ∈ parts text := by
  rw [tokenPaths, List.mem_filterMap]
  constructor
  · rintro ⟨part, hm, hp⟩
    cases part with
    | char c => cases hp
    | token q =>
      obtain rfl : q = path := Option.some.inj hp
      exact hm
  · intro hm
    exact ⟨.token path, hm, rfl⟩

theorem parts_of_wholeToken?_eq_some {text path : String} (h : wholeToken? text = some path) :
    parts text = [.token path] := by
  unfold wholeToken? at h
  split at h
  · next q hq =>
    obtain rfl : q = path := Option.some.inj h
    exact hq
  · cases h

theorem follows_tryExpandText (hl : LookupsFollow P V l l') {text : String} (ht : TextIn V text)
    (record : Value) :
    Follows P (tryExpandText record l text) (tryExpandText record l' text) := by
  apply Follows.map
  apply Follows.mapM
  intro part hpart
  cases part with
  | char c => exact Follows.pure P _
  | token path => exact (hl path record (ht path (mem_tokenPaths.mpr hpart))).map insertedText

/-- A text that could be expanded has found a value for each of its paths. -/
theorem lookup_ok_of_tryExpandText_ok {text s path : String}
    (h : tryExpandText record l text = .ok s) (hp : path ∈ tokenPaths text) :
    ∃ v, evaluatePath path record l = .ok v := by
  obtain ⟨pieces, hpieces, _⟩ := map_eq_ok_iff.mp h
  obtain ⟨piece, hpiece⟩ := ok_of_mapM_eq_ok hpieces (mem_tokenPaths.mp hp)
  obtain ⟨v, hv, _⟩ := map_eq_ok_iff.mp hpiece
  exact ⟨v, hv⟩

theorem follows_tryExpandValue (hl : LookupsFollow P V l l') {text : String}
    (ht : TextIn V text) (record : Value) :
    Follows P (tryExpandValue record l text) (tryExpandValue record l' text) := by
  unfold tryExpandValue
  cases hw : wholeToken? text with
  | none => exact (follows_tryExpandText hl ht record).map _
  | some path =>
    apply hl path record (ht path _)
    rw [mem_tokenPaths, parts_of_wholeToken?_eq_some hw]
    exact List.mem_singleton_self _

theorem Follows.at {α : Type} {x y : Except PathError α} (h : Follows P x y)
    (property : String) :
    Follows (fun f : Failure => P f.cause) (Failure.at property x) (Failure.at property y) := by
  cases hx : x with
  | error e => exact h.error hx
  | ok a =>
    rw [h.eq_ok hx]
    exact Follows.pure _ a

namespace Template
variable {t : Template} {p : ErrorPolicy}

/-- The same blueprints with other lookups and another policy. -/
def variant (t : Template) (lookup : Lookup) (onError : ErrorPolicy) : Template :=
  { t with lookup, onError }

theorem follows_text (hl : LookupsFollow P V t.lookup l') {text : String} (ht : TextIn V text)
    (record : Value) (property : String) :
    Follows (fun f : Failure => P f.cause) (t.text record property text)
      ((t.variant l' p).text record property text) :=
  (follows_tryExpandText hl ht record).at property

theorem follows_optionalText (hl : LookupsFollow P V t.lookup l') {text : Option String}
    (ht : ∀ s ∈ text, TextIn V s) (record : Value) (property : String) :
    Follows (fun f : Failure => P f.cause) (t.optionalText record property text)
      ((t.variant l' p).optionalText record property text) := by
  cases text with
  | none => exact Follows.pure _ none
  | some s => exact (follows_text hl (ht s rfl) record property).map some

theorem follows_bindingValue (hl : LookupsFollow P V t.lookup l') {binding : StyleBinding}
    (hb : binding.In V) (record : Value) (property : String) :
    Follows (fun f : Failure => P f.cause) (t.bindingValue record property binding)
      ((t.variant l' p).bindingValue record property binding) := by
  cases binding with
  | literal text => exact ((follows_tryExpandValue hl hb record).at property).map _
  | constant value => exact Follows.pure _ (some value)
  | mapped m => exact ((hl m.field record hb).at property).map _

theorem follows_style (hl : LookupsFollow P V t.lookup l') {style : Table StyleBinding}
    (hs : ∀ entry ∈ style, entry.2.In V) (record : Value) :
    Follows (fun f : Failure => P f.cause) (t.style record style)
      ((t.variant l' p).style record style) := by
  induction style with
  | nil => exact Follows.pure _ []
  | cons entry rest ih =>
    obtain ⟨property, binding⟩ := entry
    rw [Template.style, Template.style]
    apply (follows_bindingValue hl (hs _ List.mem_cons_self) record property).bind
    intro value _
    apply (ih fun e he => hs e (List.mem_cons_of_mem _ he)).bind
    intro others _
    exact Follows.pure _ _

theorem follows_nodeTexts (hl : LookupsFollow P V t.lookup l') {b : NodeBlueprint} (hb : b.In V)
    (record : Value) :
    Follows (fun f : Failure => P f.cause) (t.nodeTexts record b)
      ((t.variant l' p).nodeTexts record b) := by
  apply (follows_text hl hb.label record "label").bind
  intro label _
  apply (follows_optionalText hl hb.subtitle record "subtitle").bind
  intro subtitle _
  apply (follows_optionalText hl hb.shape record "shape").bind
  intro shape _
  exact Follows.pure _ (label, subtitle, shape)

theorem lookup_ok_of_text_ok {property text s path : String}
    (h : t.text record property text = .ok s) (hp : path ∈ tokenPaths text) :
    ∃ v, evaluatePath path record t.lookup = .ok v := by
  cases hx : tryExpandText record t.lookup text with
  | error e =>
    rw [Template.text, hx] at h
    cases h
  | ok s' => exact lookup_ok_of_tryExpandText_ok hx hp

/-- A label that could be expanded has looked up its first path already. -/
theorem labelId?_variant (hl : LookupsFollow P V t.lookup l') {label s : String}
    (hL : TextIn V label) (h : t.text record "label" label = .ok s) :
    (t.variant l' p).labelId? record label = t.labelId? record label := by
  unfold labelId?
  cases hpaths : tokenPaths label with
  | nil => rfl
  | cons path paths =>
    have hpath : path ∈ tokenPaths label := by rw [hpaths]; exact List.mem_cons_self
    obtain ⟨v, hv⟩ := lookup_ok_of_text_ok h hpath
    have hv' := (hl path record (hL path hpath)).eq_ok hv
    simp [hv, hv', variant]

/-- The id is asked for only after the label has been expanded. -/
theorem follows_requestedId (hl : LookupsFollow P V t.lookup l') {b : NodeBlueprint}
    (hb : b.In V) {s : String} (h : t.text record "label" b.label = .ok s) :
    Follows (fun f : Failure => P f.cause) (t.requestedId record b)
      ((t.variant l' p).requestedId record b) := by
  unfold requestedId
  cases hid : b.id with
  | none =>
    dsimp only
    rw [labelId?_variant hl hb.label h]
    exact Follows.pure _ _
  | some text => exact (follows_text hl (hb.id text hid) record "id").map some

theorem follows_edgeDraft (hl : LookupsFollow P V t.lookup l') {b : EdgeBlueprint}
    (hb : b.In V) (record : Value) :
    Follows (fun f : Failure => P f.cause) (t.edgeDraft record b)
      ((t.variant l' p).edgeDraft record b) := by
  apply (follows_text hl hb.source record "from").bind
  intro source _
  apply (follows_text hl hb.target record "to").bind
  intro target _
  cases hends : (trimmed source).isEmpty || (trimmed target).isEmpty with
  | true => exact Follows.pure _ none
  | false =>
    apply (follows_optionalText hl hb.label record "label").bind
    intro label _
    apply (follows_optionalText hl hb.kind record "kind").bind
    intro kind _
    apply (follows_style hl hb.style record).bind
    intro style _
    cases hid : b.id with
    | none => exact Follows.pure _ _
    | some text =>
      apply (follows_text hl (hb.id text hid) record "id").bind
      intro requested _
      exact Follows.pure _ _

theorem follows_keeps (hl : LookupsFollow P V t.lookup l') (hf : ∀ f ∈ t.filter, V f.path)
    (record : Value) :
    Follows (fun f : Failure => P f.cause) (t.keeps record) ((t.variant l' p).keeps record) := by
  have hfilter : (t.variant l' p).filter = t.filter := rfl
  unfold keeps
  rw [hfilter]
  cases hc : t.filter with
  | none => exact Follows.pure _ true
  | some filter => exact ((hl filter.path record (hf filter hc)).at "filter").map _

end Template

/-- Every failure among the first events is of the kind `P`, and without one the second events are
the same. -/
structure EventsFollow (P : PathError → Prop) (xs ys : List Event) : Prop where
  failure : ∀ f, Event.failure f ∈ xs → P f.cause
  eq : (∀ f, Event.failure f ∉ xs) → ys = xs

namespace EventsFollow

theorem refl {xs : List Event} (h : ∀ f, Event.failure f ∉ xs) : EventsFollow P xs xs :=
  ⟨fun f hf => absurd hf (h f), fun _ => rfl⟩

/-- A failure at the end leaves nothing to compare. -/
theorem of_failure {xs ys : List Event} {f : Failure} (hf : P f.cause)
    (h : ∀ g, Event.failure g ∉ xs) : EventsFollow P (xs ++ [.failure f]) ys := by
  constructor
  · intro g hg
    rcases List.mem_append.mp hg with hg | hg
    · exact absurd hg (h g)
    · obtain rfl : g = f := by simpa using hg
      exact hf
  · intro hnone
    exact absurd (List.mem_append_right xs (List.mem_singleton_self _)) (hnone f)

theorem singleton {ys : List Event} {f : Failure} (hf : P f.cause) :
    EventsFollow P [.failure f] ys := by
  have hnone : ∀ g, Event.failure g ∉ [] := fun g hg => by cases hg
  exact of_failure hf hnone

theorem append {xs ys xs' ys' : List Event} (h : EventsFollow P xs ys)
    (h' : EventsFollow P xs' ys') : EventsFollow P (xs ++ xs') (ys ++ ys') := by
  constructor
  · intro f hf
    rcases List.mem_append.mp hf with hf | hf
    · exact h.failure f hf
    · exact h'.failure f hf
  · intro hnone
    rw [h.eq fun f hf => hnone f (List.mem_append_left _ hf),
      h'.eq fun f hf => hnone f (List.mem_append_right _ hf)]

theorem flatMap {α : Type} {xs : List α} {f g : α → List Event}
    (h : ∀ a ∈ xs, EventsFollow P (f a) (g a)) :
    EventsFollow P (xs.flatMap f) (xs.flatMap g) := by
  induction xs with
  | nil => exact refl (by simp)
  | cons a xs ih =>
    rw [List.flatMap_cons, List.flatMap_cons]
    exact (h a List.mem_cons_self).append (ih fun b hb => h b (List.mem_cons_of_mem _ hb))

end EventsFollow

namespace Template
variable {t : Template} {p : ErrorPolicy}

theorem follows_nodeDraft (hl : LookupsFollow P V t.lookup l') {b : NodeBlueprint}
    (hb : b.In V) {label : String} {subtitle token : Option String}
    (h : t.nodeTexts record b = .ok (label, subtitle, token)) :
    Follows (fun f : Failure => P f.cause) (t.nodeDraft record b label subtitle token)
      ((t.variant l' p).nodeDraft record b label subtitle token) := by
  obtain ⟨s, hs, _⟩ := bind_eq_ok_iff.mp h
  apply (follows_style hl hb.style record).bind
  intro style _
  apply (follows_requestedId hl hb hs).bind
  intro requested _
  exact Follows.pure _ _

theorem nodeEvents_follow (hl : LookupsFollow P V t.lookup l') {b : NodeBlueprint}
    (hb : b.In V) (record : Value) :
    EventsFollow P (t.nodeEvents record b) ((t.variant l' p).nodeEvents record b) := by
  have htexts := follows_nodeTexts (p := p) hl hb record
  cases hx : t.nodeTexts record b with
  | error f =>
    rw [nodeEvents_of_error hx]
    exact EventsFollow.singleton (htexts.error hx)
  | ok texts =>
    obtain ⟨label, subtitle, token⟩ := texts
    rw [nodeEvents_of_ok hx, nodeEvents_of_ok (htexts.eq_ok hx)]
    have hnotes : ∀ f, Event.failure f ∉ (readShape token).2 := by
      intro f
      rcases readShape_notes token with h | ⟨word, h⟩ <;> simp [h]
    have hdraft := follows_nodeDraft (p := p) hl hb hx
    cases hd : t.nodeDraft record b label subtitle token with
    | error f => exact EventsFollow.of_failure (hdraft.error hd) hnotes
    | ok d =>
      rw [hdraft.eq_ok hd]
      exact EventsFollow.refl fun f => by simp [hnotes f, Event.ofDraft]

theorem edgeEvents_follow (hl : LookupsFollow P V t.lookup l') {b : EdgeBlueprint}
    (hb : b.In V) (record : Value) :
    EventsFollow P (t.edgeEvents record b) ((t.variant l' p).edgeEvents record b) := by
  have hdraft := follows_edgeDraft (p := p) hl hb record
  cases hx : t.edgeDraft record b with
  | error f =>
    rw [edgeEvents_of_error hx]
    exact EventsFollow.singleton (hdraft.error hx)
  | ok draft =>
    cases draft with
    | none =>
      rw [edgeEvents_of_none hx, edgeEvents_of_none (hdraft.eq_ok hx)]
      exact EventsFollow.refl (by simp)
    | some d =>
      rw [edgeEvents_of_some hx, edgeEvents_of_some (hdraft.eq_ok hx)]
      exact EventsFollow.refl (by simp)

theorem events_follow (hl : LookupsFollow P V t.lookup l') (ht : t.In V) (record : Value) :
    EventsFollow P (t.events record) ((t.variant l' p).events record) := by
  have hkeeps := follows_keeps (p := p) hl ht.filter record
  unfold events
  cases hx : t.keeps record with
  | error f => exact EventsFollow.singleton (hkeeps.error hx)
  | ok kept =>
    rw [hkeeps.eq_ok hx]
    cases kept with
    | false => exact EventsFollow.refl (by simp)
    | true =>
      exact (EventsFollow.flatMap fun b hb => nodeEvents_follow hl (ht.nodes b hb) record).append
        (EventsFollow.flatMap fun b hb => edgeEvents_follow hl (ht.edges b hb) record)

/-- Without a failure in the first variant both have the same events throughout. -/
theorem allEvents_variant_eq (hl : LookupsFollow P V t.lookup l') (ht : t.In V)
    {records : List Value} (h : ∀ i f, (i, Event.failure f) ∉ t.allEvents records) :
    (t.variant l' p).allEvents records = t.allEvents records := by
  unfold allEvents
  apply List.flatMap_congr
  rintro ⟨record, i⟩ hr
  have hnone : ∀ f, Event.failure f ∉ t.events record := by
    intro f hf
    exact h i f (mem_allEvents.mpr ⟨record, List.mem_zipIdx_iff_getElem?.mp hr, hf⟩)
  simp only [(events_follow hl ht record).eq hnone]

end Template

end Cartouche
