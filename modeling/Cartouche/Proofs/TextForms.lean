import Cartouche.Proofs.Tokens

/-!
The four ways to expand a text: with or without a report of the first failed lookup, and to a text
or to a value. They look up the same paths, and a result of the strict way is also that of the
other; the value is the text itself unless the text is one token and nothing else.
-/
namespace Cartouche
open Text

variable {record : Value} {lookup : Lookup} {template s path : String} {e : PathError}

/-- The leftmost path that cannot be looked up, with its error. -/
def FailsFirst (record : Value) (lookup : Lookup) (paths : List String) (e : PathError) : Prop :=
  ∃ before path behind, paths = before ++ path :: behind ∧
    (∀ p ∈ before, ∃ v, evaluatePath p record lookup = .ok v) ∧
    evaluatePath path record lookup = .error e

theorem exists_failsFirst_iff {paths : List String} : (∃ e, FailsFirst record lookup paths e) ↔
    ∃ path ∈ paths, ∃ e, evaluatePath path record lookup = .error e := by
  constructor
  · rintro ⟨e, before, path, behind, rfl, _, he⟩
    exact ⟨path, by simp, e, he⟩
  · rintro ⟨path, hpath, e, he⟩
    cases hlookups : paths.mapM fun path => evaluatePath path record lookup with
    | error e => exact ⟨e, mapM_eq_error_iff.mp hlookups⟩
    | ok values =>
      obtain ⟨v, hv⟩ := ok_of_mapM_eq_ok hlookups hpath
      rw [he] at hv
      cases hv

/-- Characters never fail, and a token fails as the lookup of its path does. -/
theorem mapM_text_eq_error_iff (ps : List Part) : ps.mapM (Part.text record lookup) = .error e ↔
    (ps.filterMap Part.path?).mapM (fun path => evaluatePath path record lookup) = .error e := by
  induction ps with
  | nil => exact iff_of_false nofun nofun
  | cons part ps ih =>
    rw [mapM_cons_eq_error_iff, ih]
    cases part with
    | char c =>
      rw [filterMap_path_char]
      simp [Part.text]
    | token path =>
      have hok : (∃ s, (evaluatePath path record lookup).map insertedText = .ok s) ↔
          ∃ v, evaluatePath path record lookup = .ok v := by
        cases evaluatePath path record lookup <;> simp [Except.map]
      rw [filterMap_path_token, mapM_cons_eq_error_iff, Part.text, map_eq_error_iff, hok]

theorem tryExpandText_eq_error_iff : tryExpandText record lookup template = .error e ↔
    FailsFirst record lookup (tokenPaths template) e := by
  rw [tryExpandText, map_eq_error_iff, mapM_text_eq_error_iff, mapM_eq_error_iff]
  rfl

/-- Where no lookup fails, both ways put in the same. -/
theorem expandText_of_tryExpandText (h : tryExpandText record lookup template = .ok s) :
    expandText record lookup template = s := by
  obtain ⟨pieces, hpieces, rfl⟩ := map_eq_ok_iff.mp h
  rw [expandText, map_getD_of_mapM_eq_ok hpieces]

/-! One token and nothing else. -/

theorem partsFrom_ne_nil (c : Char) (rest : List Char) : partsFrom none (c :: rest) ≠ [] := by
  cases hfirst : Token.first? (c :: rest) with
  | none =>
    rw [partsFrom_of_first?_eq_none hfirst]
    exact List.cons_ne_nil _ _
  | some found =>
    obtain ⟨hwritten, hinside⟩ := Token.first?_eq_some_iff.mp hfirst
    rw [hwritten, partsFrom_written hinside]
    exact List.cons_ne_nil _ _

theorem eq_written_of_partsFrom {text : List Char} (h : partsFrom none text = [.token path]) :
    ∃ inside, '\x7d' ∉ inside ∧ text = Token.written inside ∧ path = Token.path inside := by
  cases hfirst : Token.first? text with
  | none =>
    cases text with
    | nil => cases h
    | cons c rest =>
      rw [partsFrom_of_first?_eq_none hfirst] at h
      cases (List.cons.inj h).1
  | some found =>
    obtain ⟨inside, rest⟩ := found
    obtain ⟨rfl, hinside⟩ := Token.first?_eq_some_iff.mp hfirst
    rw [partsFrom_written hinside] at h
    obtain ⟨hpath, hrest⟩ := List.cons.inj h
    cases rest with
    | nil => exact ⟨inside, hinside, List.append_nil _, (Part.token.inj hpath).symm⟩
    | cons c rest => exact absurd hrest (partsFrom_ne_nil c rest)

theorem parts_text {inside : String} (h : '\x7d' ∉ inside.toList) :
    parts (Token.text inside) = [.token (trimmed inside)] := by
  rw [parts, Token.text, String.toList_ofList, ← List.append_nil (Token.written _),
    partsFrom_written h, Token.path_toList, partsFrom]

/-- A text is one token where it is written as one. -/
theorem wholeToken?_eq_some_iff : wholeToken? template = some path ↔
    ∃ inside : String, '\x7d' ∉ inside.toList ∧ template = Token.text inside ∧
      path = trimmed inside := by
  constructor
  · intro h
    obtain ⟨inside, hinside, htext, rfl⟩ :=
      eq_written_of_partsFrom (parts_of_wholeToken?_eq_some h)
    refine ⟨.ofList inside, by rwa [String.toList_ofList], ?_, ?_⟩
    · rw [Token.text, String.toList_ofList, ← htext, String.ofList_toList]
    · rw [← Token.path_toList, String.toList_ofList]
  · rintro ⟨inside, hinside, rfl, rfl⟩
    rw [wholeToken?, parts_text hinside]

theorem wholeToken?_eq_none (h : ∀ inside : String, '\x7d' ∉ inside.toList →
    template ≠ Token.text inside) : wholeToken? template = none := by
  cases hw : wholeToken? template with
  | none => rfl
  | some path =>
    obtain ⟨inside, hinside, htext, _⟩ := wholeToken?_eq_some_iff.mp hw
    exact absurd htext (h inside hinside)

theorem expandText_whole (h : wholeToken? template = some path) :
    expandText record lookup template = insertedText (expandValue record lookup template) := by
  rw [expandText_eq, parts_of_wholeToken?_eq_some h, expandValue, h]
  simp [Part.fill, foundText]

theorem tryExpandText_whole (h : wholeToken? template = some path) :
    tryExpandText record lookup template =
      (tryExpandValue record lookup template).map insertedText := by
  rw [tryExpandText, parts_of_wholeToken?_eq_some h, tryExpandValue, h]
  dsimp only
  rw [List.mapM_cons, Part.text]
  cases evaluatePath path record lookup with
  | error e => rfl
  | ok v => simp [Except.map]

theorem expandValue_of_tryExpandValue {v : Option Value}
    (h : tryExpandValue record lookup template = .ok v) :
    expandValue record lookup template = v := by
  unfold tryExpandValue at h
  unfold expandValue
  cases hw : wholeToken? template with
  | some path =>
    rw [hw] at h
    dsimp only at h ⊢
    rw [h]
    rfl
  | none =>
    rw [hw] at h
    obtain ⟨s, hs, rfl⟩ := map_eq_ok_iff.mp h
    dsimp only
    rw [expandText_of_tryExpandText hs]

/-- The strict expansion fails where some lookup fails, and with the error of the leftmost one; else
it agrees with the other. The value of a text that is one token is what its path leads to, and its
text is that of the value; any other text is its own value. -/
theorem expansions_agree (record : Value) (lookup : Lookup) (template : String) :
    (∀ e, tryExpandText record lookup template = .error e ↔
      FailsFirst record lookup (tokenPaths template) e) ∧
    ((∃ e, tryExpandText record lookup template = .error e) ↔
      ∃ path ∈ tokenPaths template, ∃ e, evaluatePath path record lookup = .error e) ∧
    (∀ s, tryExpandText record lookup template = .ok s →
      expandText record lookup template = s) ∧
    (∀ inside : String, '\x7d' ∉ inside.toList → template = Token.text inside →
      wholeToken? template = some (trimmed inside) ∧ tokenPaths template = [trimmed inside] ∧
      expandText record lookup template = insertedText (expandValue record lookup template) ∧
      tryExpandText record lookup template =
        (tryExpandValue record lookup template).map insertedText) ∧
    ((∀ inside : String, '\x7d' ∉ inside.toList → template ≠ Token.text inside) →
      wholeToken? template = none ∧
      expandValue record lookup template = some (.text (expandText record lookup template)) ∧
      tryExpandValue record lookup template =
        (tryExpandText record lookup template).map fun s => some (.text s)) ∧
    ∀ v, tryExpandValue record lookup template = .ok v →
      expandValue record lookup template = v := by
  refine ⟨fun e => tryExpandText_eq_error_iff, ?_, fun s => expandText_of_tryExpandText, ?_, ?_,
    fun v => expandValue_of_tryExpandValue⟩
  · simp only [tryExpandText_eq_error_iff]
    exact exists_failsFirst_iff
  · intro inside hinside htext
    have hw := wholeToken?_eq_some_iff.mpr ⟨inside, hinside, htext, rfl⟩
    have hpaths : tokenPaths template = [trimmed inside] := by
      rw [tokenPaths, parts_of_wholeToken?_eq_some hw]
      rfl
    exact ⟨hw, hpaths, expandText_whole hw, tryExpandText_whole hw⟩
  · intro h
    have hw := wholeToken?_eq_none h
    rw [expandValue, tryExpandValue, hw]
    exact ⟨rfl, rfl, rfl⟩

/-- The first of two paths that lead nowhere is reported; a token alone keeps its value, which is
null here and leaves no text, and other texts are their own value. -/
theorem forms_of_letter :
    tryExpandText letter .strict "${boss}: ${nope} ${gone.too}" =
      .error (.missingKey "nope" "nope") ∧
    expandText (.object [("boss", .null)]) .strict "${ boss }" = "" ∧
    expandValue (.object [("boss", .null)]) .strict "${ boss }" = some .null ∧
    tryExpandValue letter .strict "to ${name}" = .ok (some (.text "to $\x7bboss\x7d")) := by
  obtain ⟨hfails, _⟩ := expansions_agree letter .strict "${boss}: ${nope} ${gone.too}"
  obtain ⟨_, _, _, hwhole, _⟩ := expansions_agree (.object [("boss", .null)]) .strict "${ boss }"
  obtain ⟨_, _, _, _, hother, _⟩ := expansions_agree letter .strict "to ${name}"
  have hvalue : expandValue (.object [("boss", .null)]) .strict "${ boss }" = some .null := rfl
  have hmixed : ∀ inside : String, '\x7d' ∉ inside.toList → "to ${name}" ≠ Token.text inside := by
    intro inside _ htext
    have hchars : "to ${name}".toList = Token.written inside.toList := by
      rw [htext, Token.text, String.toList_ofList]
    have hfirst : some 't' = some '$' := congrArg List.head? hchars
    cases hfirst
  have hpaths : tokenPaths "${boss}: ${nope} ${gone.too}" = ["boss", "nope", "gone.too"] := by
    decide +kernel
  refine ⟨(hfails _).mpr ⟨["boss"], "nope", ["gone.too"], hpaths, ?_, rfl⟩, ?_, hvalue, ?_⟩
  · intro p hp
    obtain rfl : p = "boss" := List.mem_singleton.mp hp
    exact ⟨_, rfl⟩
  · obtain ⟨_, _, htext, _⟩ := hwhole " boss " (by decide) rfl
    rw [htext, hvalue]
    rfl
  · obtain ⟨_, _, htry⟩ := hother hmixed
    rw [htry]
    rfl

end Cartouche
