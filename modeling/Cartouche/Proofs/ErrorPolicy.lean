import Cartouche.Proofs.Diagnostics
import Cartouche.Proofs.Validation

/-!
Variants of a template: lookups strict or safe, failures skipped or fatal. A strict run that must
not fail is the reference. When it succeeds every variant gives its expansion, and when it fails the
run that skips failures reports the same one first.
-/
namespace Cartouche
open Decimal Text

namespace Template
variable {t : Template} {l l' : Lookup} {p : ErrorPolicy} {sources : Table (List Value)}
  {out : Expansion}

theorem in_true (t : Template) : t.In fun _ => True := by
  have htext : ∀ text, TextIn (fun _ => True) text := fun _ _ _ => trivial
  have hbinding : ∀ binding : StyleBinding, binding.In fun _ => True := by
    intro binding
    cases binding with
    | literal text => exact htext text
    | _ => trivial
  constructor
  · intro b _
    exact ⟨fun s _ => htext s, htext _, fun s _ => htext s, fun s _ => htext s,
      fun e _ => hbinding e.2⟩
  · intro b _
    exact ⟨fun s _ => htext s, htext _, htext _, fun s _ => htext s, fun s _ => htext s,
      fun e _ => hbinding e.2⟩
  · intro f _
    trivial

theorem style_policy (t : Template) (l : Lookup) (p p' : ErrorPolicy) (record : Value)
    (style : Table StyleBinding) :
    (t.variant l p).style record style = (t.variant l p').style record style := by
  induction style with
  | nil => rfl
  | cons entry rest ih =>
    obtain ⟨property, binding⟩ := entry
    rw [Template.style, Template.style, ih]
    rfl

/-- The policy decides what becomes of events, not which there are. -/
theorem allEvents_policy (t : Template) (l : Lookup) (p p' : ErrorPolicy)
    (records : List Value) :
    (t.variant l p).allEvents records = (t.variant l p').allEvents records := by
  have hnode : (t.variant l p).nodeEvents = (t.variant l p').nodeEvents := by
    funext record b
    unfold nodeEvents
    rw [style_policy t l p p']
    rfl
  have hedge : (t.variant l p).edgeEvents = (t.variant l p').edgeEvents := by
    funext record b
    unfold edgeEvents edgeDraft
    simp only [style_policy t l p p']
    rfl
  unfold allEvents events
  rw [hnode, hedge]
  rfl

/-- Where a strict run has no failure, every variant has the same events. -/
theorem allEvents_variant_of_strict (hl : l.safe = false) {records : List Value}
    (h : ∀ i f, (i, Event.failure f) ∉ (t.variant l p).allEvents records) (l' : Lookup)
    (p' : ErrorPolicy) :
    (t.variant l' p').allEvents records = (t.variant l p).allEvents records := by
  have hfollow : LookupsFollow (fun _ => True) (fun _ => True) (t.variant l p).lookup l' :=
    fun path record _ => follows_evaluatePath_of_strict hl l' path record
  exact allEvents_variant_eq (t := t.variant l p) hfollow (in_true _) h

theorem expand_variant_of_strict (hl : l.safe = false)
    (h : (t.variant l .abort).expand sources = .ok out) (l' : Lookup) (p : ErrorPolicy) :
    (t.variant l' p).expand sources = .ok out := by
  obtain ⟨hv, records, hs, hf, rfl⟩ := expand_eq_ok_iff.mp h
  have hnone := (failure?_eq_none_of_abort rfl).mp hf
  have hevents := allEvents_variant_of_strict hl hnone l' p
  refine expand_eq_ok_iff.mpr ⟨hv, records, hs, ?_, ?_⟩
  · cases p with
    | skip => exact failure?_of_skip rfl _
    | abort =>
      rw [hevents]
      exact hf
  · rw [hevents]
    rfl

/-- The diagnostics of a run whose first failure stands behind `before`. -/
theorem diagnostics_of_first_failure (t : Template) (before after : List (Nat × Event)) (i : Nat)
    (f : Failure) :
    (t.expansion (before ++ (i, .failure f) :: after)).diagnostics =
      (before.filterMap fun (i, e) => e.diagnostic? t.id i) ++
        ⟨t.id, i, some f.property, f.cause.message⟩ ::
          (after.filterMap fun (i, e) => e.diagnostic? t.id i) := by
  simp [expansion, Event.diagnostic?]

theorem isNote_of_no_failure {records : List Value} {before after : List (Nat × Event)}
    (hsplit : t.allEvents records = before ++ after)
    (hnone : ∀ i f, (i, Event.failure f) ∉ before) :
    ∀ d ∈ before.filterMap fun (i, e) => e.diagnostic? t.id i, d.IsNote := by
  intro d hd
  obtain ⟨⟨i, event⟩, hm, hd⟩ := List.mem_filterMap.mp hd
  have hall : (i, event) ∈ t.allEvents records := by
    rw [hsplit]
    exact List.mem_append_left _ hm
  obtain ⟨record, _, he⟩ := mem_allEvents.mp hall
  rcases isNote_or_failure he hd with hn | ⟨f, rfl, _⟩
  · exact hn
  · exact absurd hm (hnone i f)

theorem failure?_of_record_error {id property : String} {i : Nat} {cause : PathError}
    (h : t.expand sources = .error (.record id i property cause)) :
    t.validate = .ok () ∧ ∃ records, sources.get? t.source = some records ∧
      t.failure? (t.allEvents records) = some (.record id i property cause) := by
  rcases expand_eq_error_iff.mp h with hv | ⟨hv, ⟨_, he⟩ | hf⟩
  · obtain ⟨name, e, he⟩ := path_of_validate_eq_error hv
    cases he
  · cases he
  · exact ⟨hv, hf⟩

/-- The failure that ends a run is the first that the skipping run reports; only notes come before
it. -/
theorem first_failure_reported {id property : String} {i : Nat} {cause : PathError}
    (h : (t.variant l .abort).expand sources = .error (.record id i property cause)) :
    ∃ out notes others, (t.variant l .skip).expand sources = .ok out ∧
      out.diagnostics = notes ++ ⟨t.id, i, some property, cause.message⟩ :: others ∧
      ∀ d ∈ notes, d.IsNote := by
  obtain ⟨hv, records, hs, hf⟩ := failure?_of_record_error h
  obtain ⟨_, before, j, f, after, hsplit, hnone, he⟩ := failure?_eq_some_iff.mp hf
  cases he
  have hevents : (t.variant l .skip).allEvents records = before ++ (i, .failure f) :: after :=
    (allEvents_policy t l .skip .abort records).trans hsplit
  have hdiagnostics := diagnostics_of_first_failure (t.variant l .skip) before after i f
  rw [← hevents] at hdiagnostics
  exact ⟨_, _, _, expand_of_no_failure hv hs (failure?_of_skip rfl _), hdiagnostics,
    isNote_of_no_failure hevents hnone⟩

theorem report_not_isNote {id property : String} {i : Nat} {cause : PathError} :
    ¬ (Diagnostic.mk id i (some property) cause.message).IsNote :=
  fun h => h.message_ne cause rfl

/-- Strict lookups that abort decide the others. Where that run succeeds, every variant gives the
same expansion, whatever default its lookups have; where a record ends it, the strict run that
skips failures succeeds, and reports that very failure before any other. -/
theorem variants_of_strict_abort (t : Template) (sources : Table (List Value)) (strict : Lookup)
    (hstrict : strict.safe = false) :
    (∀ out, (t.variant strict .abort).expand sources = .ok out →
      ∀ lookup policy, (t.variant lookup policy).expand sources = .ok out) ∧
    ∀ id i property cause,
      (t.variant strict .abort).expand sources = .error (.record id i property cause) →
      ∃ out notes report others, (t.variant strict .skip).expand sources = .ok out ∧
        out.diagnostics = notes ++ report :: others ∧ (∀ d ∈ notes, d.IsNote) ∧
        ¬ report.IsNote ∧ report = ⟨t.id, i, some property, cause.message⟩ := by
  constructor
  · intro out h lookup policy
    exact expand_variant_of_strict hstrict h lookup policy
  · intro id i property cause h
    obtain ⟨out, notes, others, hout, hd, hnotes⟩ := first_failure_reported h
    exact ⟨out, notes, _, others, hout, hd, hnotes, report_not_isNote, rfl⟩

/-- A badge for each person, with an unknown shape. -/
def badge : Template where
  id := "badge"
  source := "people"
  filter := none
  nodes := [⟨none, "${name}", some "${role}", some "blob", []⟩]
  edges := []
  lookup := .strict
  onError := .abort

def ann : Value := .object [("name", .text "Ann"), ("role", .text "lead")]

/-- A person without a role. -/
def bo : Value := .object [("name", .text "Bo")]

theorem variants_of_badge :
    (∃ out, (badge.variant .strict .abort).expand [("people", [ann])] = .ok out ∧
      ∀ lookup policy, (badge.variant lookup policy).expand [("people", [ann])] = .ok out) ∧
    ∃ out notes report others,
      (badge.variant .strict .skip).expand [("people", [ann, bo])] = .ok out ∧
      out.diagnostics = notes ++ report :: others ∧ (∀ d ∈ notes, d.IsNote) ∧
      ¬ report.IsNote ∧
      report = ⟨"badge", 1, some "subtitle", (PathError.missingKey "role" "role").message⟩ := by
  constructor
  · refine ⟨_, rfl, ?_⟩
    exact (variants_of_strict_abort badge [("people", [ann])] .strict rfl).1 _ rfl
  · exact (variants_of_strict_abort badge [("people", [ann, bo])] .strict rfl).2 "badge" 1
      "subtitle" (.missingKey "role" "role") rfl

end Template

end Cartouche
