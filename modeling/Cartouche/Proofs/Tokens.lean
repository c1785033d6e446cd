import Cartouche.Proofs.Lookups

/-!
How the tokens of a text are found. A scan from left to right takes a token wherever one is opened
and closed again, each up to the first closing brace, and copies all else; what is put in for a
token is not scanned. The tokens that it finds are those of a search that looks for the leftmost
token in what is left of the text, again and again.
-/
namespace Cartouche
open Text

namespace Token

/-- What a token begins with. -/
def opening : List Char := ['$', '\x7b']

/-- A token as it stands in a text. -/
def written (inside : List Char) : List Char :=
  '$' :: '\x7b' :: inside ++ ['\x7d']

def text (inside : String) : String :=
  .ofList (written inside.toList)

/-- The path that a token looks up. -/
def path (inside : List Char) : String :=
  .ofList (trim inside)

theorem path_toList (inside : String) : path inside.toList = trimmed inside := rfl

/-- The token that a text begins with: what is inside it, and what is behind it. -/
def first? : List Char → Option (List Char × List Char)
  | '$' :: '\x7b' :: rest =>
    if '\x7d' ∈ rest then
      some (rest.takeWhile (· != '\x7d'), (rest.dropWhile (· != '\x7d')).tail)
    else none
  | _ => none

variable {text inside rest : List Char}

theorem first?_written (h : '\x7d' ∉ inside) (rest : List Char) :
    first? (written inside ++ rest) = some (inside, rest) := by
  have hinside : ∀ c ∈ inside, (c != '\x7d') = true := by
    intro c hc
    simpa using fun he : c = '\x7d' => h (he ▸ hc)
  have hmem : '\x7d' ∈ inside ++ '\x7d' :: rest := by simp
  simp only [written, List.cons_append, List.append_assoc, List.nil_append]
  rw [first?, if_pos hmem, List.takeWhile_append_of_pos hinside,
    List.dropWhile_append_of_pos hinside]
  simp

theorem exists_of_first?_ne_none (h : first? text ≠ none) :
    ∃ inside rest, text = written inside ++ rest ∧ '\x7d' ∉ inside := by
  unfold first? at h
  split at h
  · next behind =>
    by_cases hmem : '\x7d' ∈ behind
    · obtain ⟨inside, rest, rfl, hinside⟩ := List.eq_append_cons_of_mem hmem
      exact ⟨inside, rest, by simp [written], hinside⟩
    · rw [if_neg hmem] at h
      exact absurd rfl h
  · exact absurd rfl h

/-- A token ends at the first closing brace behind its opening. -/
theorem first?_eq_some_iff :
    first? text = some (inside, rest) ↔ text = written inside ++ rest ∧ '\x7d' ∉ inside := by
  constructor
  · intro h
    obtain ⟨inside', rest', rfl, hinside⟩ := exists_of_first?_ne_none (by rw [h]; nofun)
    rw [first?_written hinside] at h
    cases h
    exact ⟨rfl, hinside⟩
  · rintro ⟨rfl, h⟩
    exact first?_written h rest

theorem first?_eq_none_iff : first? text = none ↔
    ∀ inside rest, '\x7d' ∉ inside → text ≠ written inside ++ rest := by
  constructor
  · rintro h inside rest hinside rfl
    rw [first?_written hinside] at h
    cases h
  · intro h
    by_contra hne
    obtain ⟨inside, rest, htext, hinside⟩ := exists_of_first?_ne_none hne
    exact h inside rest hinside htext

theorem length_lt_of_first? (h : first? text = some (inside, rest)) :
    rest.length < text.length := by
  obtain ⟨rfl, _⟩ := first?_eq_some_iff.mp h
  simp [written]
  omega

end Token

section Scan
variable {m : Type → Type} [Monad m]

/-- The expansion of a text from left to right, with what is put in for each path that it meets. -/
def scan (look : String → m String) (text : List Char) : m String :=
  match _h : Token.first? text with
  | some (inside, rest) => do
    let value ← look (Token.path inside)
    let others ← scan look rest
    return value ++ others
  | none =>
    match text with
    | [] => return ""
    | c :: rest => do
      let others ← scan look rest
      return String.singleton c ++ others
termination_by text.length
decreasing_by
  · exact Token.length_lt_of_first? ‹_›
  · exact Nat.lt_succ_self _

variable (look : String → m String)

theorem scan_of_first?_eq_some {text inside rest : List Char}
    (h : Token.first? text = some (inside, rest)) : scan look text = do
      let value ← look (Token.path inside)
      let others ← scan look rest
      return value ++ others := by
  rw [scan]
  split
  · next heq =>
    cases h.symm.trans heq
    rfl
  · next heq => cases h.symm.trans heq

theorem scan_nil : scan look [] = pure "" := by
  rw [scan]
  rfl

theorem scan_of_first?_eq_none {c : Char} {rest : List Char}
    (h : Token.first? (c :: rest) = none) : scan look (c :: rest) = do
      let others ← scan look rest
      return String.singleton c ++ others := by
  rw [scan]
  split
  · next heq => cases h.symm.trans heq
  · rfl

end Scan

/-! The parts of a text, by what it begins with. -/

section Parts
variable {text inside rest : List Char} {c : Char}

theorem partsFrom_closed (h : '\x7d' ∉ inside) (seen rest : List Char) :
    partsFrom (some seen) (inside ++ '\x7d' :: rest) =
      .token (Token.path (seen.reverse ++ inside)) :: partsFrom none rest := by
  induction inside generalizing seen with
  | nil => simp [partsFrom, Token.path]
  | cons c inside ih =>
    rw [List.mem_cons, not_or] at h
    rw [List.cons_append, partsFrom, if_neg (Ne.symm h.1), ih h.2, List.reverse_cons,
      List.append_assoc, List.singleton_append]

theorem partsFrom_unclosed (h : '\x7d' ∉ text) (seen : List Char) :
    partsFrom (some seen) text = (Token.opening ++ seen.reverse ++ text).map .char := by
  induction text generalizing seen with
  | nil => simp [partsFrom, Token.opening]
  | cons c text ih =>
    rw [List.mem_cons, not_or] at h
    rw [partsFrom, if_neg (Ne.symm h.1), ih h.2, List.reverse_cons]
    simp

theorem partsFrom_written (h : '\x7d' ∉ inside) (rest : List Char) :
    partsFrom none (Token.written inside ++ rest) =
      .token (Token.path inside) :: partsFrom none rest := by
  have hwritten : Token.written inside ++ rest = '$' :: '\x7b' :: (inside ++ '\x7d' :: rest) := by
    simp [Token.written]
  rw [hwritten, partsFrom, partsFrom_closed h, List.reverse_nil, List.nil_append]

/-- Where a text does not go on with an opening, its first character is copied. -/
theorem partsFrom_cons (h : ¬ Token.opening <+: c :: rest) :
    partsFrom none (c :: rest) = .char c :: partsFrom none rest := by
  apply partsFrom.eq_5
  rintro inside rfl rfl
  exact h ⟨inside, rfl⟩

theorem partsFrom_of_not_mem (h : '\x7d' ∉ text) : partsFrom none text = text.map .char := by
  induction text with
  | nil => rfl
  | cons c rest ih =>
    by_cases hopen : Token.opening <+: c :: rest
    · obtain ⟨inside, hinside⟩ := hopen
      rw [← hinside] at h ⊢
      exact partsFrom_unclosed (fun hmem => h (List.mem_append_right _ hmem)) []
    · rw [partsFrom_cons hopen, ih fun hmem => h (List.mem_cons_of_mem _ hmem), List.map_cons]

/-- The first character of a text is copied also where it begins an opening that is not closed. -/
theorem partsFrom_of_first?_eq_none (h : Token.first? (c :: rest) = none) :
    partsFrom none (c :: rest) = .char c :: partsFrom none rest := by
  by_cases hopen : Token.opening <+: c :: rest
  · -- No brace closes this opening, and so none closes any other behind it.
    obtain ⟨behind, hbehind⟩ := hopen
    obtain ⟨rfl, rfl⟩ : '$' = c ∧ '\x7b' :: behind = rest := List.cons.inj hbehind
    have hnot : '\x7d' ∉ behind := by
      intro hmem
      rw [Token.first?, if_pos hmem] at h
      cases h
    rw [partsFrom_of_not_mem (by simpa using hnot), partsFrom_of_not_mem (by simpa using hnot),
      List.map_cons]
  · exact partsFrom_cons hopen

end Parts

/-- What the scan emits for one part of a text. -/
def Part.emit {m : Type → Type} [Monad m] (look : String → m String) : Part → m String
  | .char c => pure (String.singleton c)
  | .token path => look path

/-- The scan emits the parts of a text, one after the other. -/
theorem scan_eq_mapM {m : Type → Type} [Monad m] [LawfulMonad m] (look : String → m String)
    (text : List Char) :
    scan look text = String.join <$> (partsFrom none text).mapM (Part.emit look) := by
  induction text using scan.induct with
  | case1 text inside rest h ih =>
    obtain ⟨rfl, hinside⟩ := Token.first?_eq_some_iff.mp h
    rw [scan_of_first?_eq_some look h, ih, partsFrom_written hinside, List.mapM_cons]
    simp [Part.emit]
  | case2 => simp [scan_nil, partsFrom]
  | case3 c rest h ih =>
    rw [scan_of_first?_eq_none look h, ih, partsFrom_of_first?_eq_none h, List.mapM_cons]
    simp [Part.emit]

/-! The tokens of a text, found by a search for the leftmost one. -/

namespace Token

/-- A token in a text, with what stands before it, inside it and behind it. -/
structure At (text before inside rest : List Char) : Prop where
  text_eq : text = before ++ (written inside ++ rest)
  closed : '\x7d' ∉ inside

/-- The token that begins first. -/
structure Leftmost (text before inside rest : List Char) : Prop extends
    At text before inside rest where
  least : ∀ before' inside' rest', At text before' inside' rest' → before.length ≤ before'.length

end Token

/-- A text with its tokens: each is the leftmost one behind those before it, and is listed with the
text between; the last text has no token. -/
inductive Divided : List Char → List (List Char × List Char) → List Char → Prop
  | plain {text : List Char} (h : ∀ before inside rest, ¬ Token.At text before inside rest) :
      Divided text [] text
  | token {text before inside rest last : List Char} {tokens : List (List Char × List Char)}
      (h : Token.Leftmost text before inside rest) (hrest : Divided rest tokens last) :
      Divided text ((before, inside) :: tokens) last

/-- The texts between tokens, with what is found for the tokens put in. -/
def filled (find : String → String) : List (List Char × List Char) → List Char → String
  | [], last => .ofList last
  | (before, inside) :: tokens, last =>
    .ofList before ++ find (Token.path inside) ++ filled find tokens last

/-- Behind the last token of a text there is no further opening. -/
def Closed (text : List Char) : Prop :=
  ∃ tokens last, Divided text tokens last ∧ ¬ Token.opening <:+: last

section Division
variable {text before inside rest last a b : List Char} {c : Char}
  {tokens : List (List Char × List Char)}

namespace Token

theorem At.opening_infix (h : At text before inside rest) : opening <:+: text := by
  obtain ⟨rfl, _⟩ := h
  exact ⟨before, inside ++ '\x7d' :: rest, by simp [written, opening]⟩

/-- Every opening with a closing brace somewhere behind it begins a token. -/
theorem exists_at (h : '\x7d' ∈ rest) (before : List Char) :
    ∃ inside' rest', At (before ++ (opening ++ rest)) before inside' rest' := by
  obtain ⟨inside, rest, rfl, hinside⟩ := List.eq_append_cons_of_mem h
  exact ⟨inside, rest, by simp [written, opening], hinside⟩

/-- Nothing before the leftmost token opens another one, as that would be closed as well. -/
theorem Leftmost.not_opening (h : Leftmost text before inside rest) :
    ¬ opening <:+: before := by
  rintro ⟨b, behind, rfl⟩
  have hclosing : '\x7d' ∈ behind ++ (written inside ++ rest) := by simp [written]
  obtain ⟨inside', rest', hat⟩ := exists_at hclosing b
  have htext : b ++ (opening ++ (behind ++ (written inside ++ rest))) = text := by
    rw [h.text_eq, List.append_assoc, List.append_assoc]
  rw [htext] at hat
  have hlength := h.least _ _ _ hat
  simp only [opening, List.length_append, List.length_cons, List.length_nil] at hlength
  omega

theorem At.cons (c : Char) (h : At text before inside rest) :
    At (c :: text) (c :: before) inside rest :=
  ⟨by rw [h.text_eq, List.cons_append], h.closed⟩

theorem At.of_cons (h : At (c :: text) before inside rest) (hfirst : first? (c :: text) = none) :
    ∃ before', before = c :: before' ∧ At text before' inside rest := by
  cases before with
  | nil => exact absurd h.text_eq (first?_eq_none_iff.mp hfirst _ _ h.closed)
  | cons d before' =>
    obtain ⟨rfl, htext⟩ := List.cons.inj h.text_eq
    exact ⟨before', rfl, htext, h.closed⟩

end Token

theorem Divided.cons (hfirst : Token.first? (c :: text) = none) (h : Divided text tokens last) :
    ∃ tokens' last', Divided (c :: text) tokens' last' := by
  cases h with
  | plain hnone =>
    refine ⟨[], _, .plain ?_⟩
    intro before inside rest hat
    obtain ⟨behind, _, hbehind⟩ := hat.of_cons hfirst
    exact hnone _ _ _ hbehind
  | token hleft hrest =>
    refine ⟨_, _, .token ⟨hleft.toAt.cons c, ?_⟩ hrest⟩
    intro before' inside' rest' hat
    obtain ⟨behind, rfl, hbehind⟩ := hat.of_cons hfirst
    exact Nat.succ_le_succ (hleft.least _ _ _ hbehind)

/-- A token that a text begins with is the leftmost one. -/
theorem Divided.written (hinside : '\x7d' ∉ inside) (h : Divided rest tokens last) :
    Divided (Token.written inside ++ rest) (([], inside) :: tokens) last :=
  .token ⟨⟨(List.nil_append _).symm, hinside⟩, fun _ _ _ _ => Nat.zero_le _⟩ h

theorem exists_divided (text : List Char) : ∃ tokens last, Divided text tokens last := by
  induction text using scan.induct with
  | case1 text inside rest h ih =>
    obtain ⟨rfl, hinside⟩ := Token.first?_eq_some_iff.mp h
    obtain ⟨tokens, last, hrest⟩ := ih
    exact ⟨_, _, hrest.written hinside⟩
  | case2 =>
    refine ⟨[], [], .plain ?_⟩
    intro before inside rest hat
    have hnil := hat.text_eq
    simp [Token.written] at hnil
  | case3 c rest hfirst ih =>
    obtain ⟨tokens, last, hrest⟩ := ih
    exact hrest.cons hfirst

theorem closed_of_not_opening (h : ¬ Token.opening <:+: text) : Closed text :=
  ⟨[], text, .plain fun _ _ _ hat => h hat.opening_infix, h⟩

theorem Closed.written (hinside : '\x7d' ∉ inside) (h : Closed rest) :
    Closed (Token.written inside ++ rest) := by
  obtain ⟨tokens, last, hdivided, hlast⟩ := h
  exact ⟨_, last, hdivided.written hinside, hlast⟩

/-- A text without an opening is copied, unless it goes on with one that begins at its end. -/
theorem partsFrom_append_of_not_opening (h : ¬ Token.opening <:+: a)
    (hseam : a.getLast? = some '$' → b.head? ≠ some '\x7b') :
    partsFrom none (a ++ b) = a.map .char ++ partsFrom none b := by
  induction a with
  | nil => rfl
  | cons c a ih =>
    have hcons : ¬ Token.opening <+: c :: (a ++ b) := by
      rintro ⟨behind, hbehind⟩
      obtain ⟨rfl, htail⟩ : '$' = c ∧ '\x7b' :: behind = a ++ b := List.cons.inj hbehind
      cases a with
      | nil => exact hseam rfl (by rw [← List.nil_append b, ← htail]; rfl)
      | cons d a =>
        obtain ⟨rfl, _⟩ := List.cons.inj htail
        exact h ⟨[], a, rfl⟩
    have htail : a.getLast? = some '$' → (c :: a).getLast? = some '$' := by
      intro hlast
      rw [List.getLast?_cons, hlast]
      rfl
    have hnot : ¬ Token.opening <:+: a := fun hin => h (hin.trans (List.suffix_cons c a).isInfix)
    rw [List.cons_append, partsFrom_cons hcons, ih hnot fun hlast => hseam (htail hlast),
      List.map_cons, List.cons_append]

theorem partsFrom_of_no_token (h : ∀ before inside rest, ¬ Token.At text before inside rest) :
    partsFrom none text = text.map .char := by
  induction text with
  | nil => rfl
  | cons c rest ih =>
    have hfirst : Token.first? (c :: rest) = none :=
      Token.first?_eq_none_iff.mpr fun inside behind hinside htext => h [] _ _ ⟨htext, hinside⟩
    rw [partsFrom_of_first?_eq_none hfirst, ih fun _ _ _ hat => h _ _ _ (hat.cons c),
      List.map_cons]

/-- The leftmost token is found whatever is behind it. -/
theorem Token.Leftmost.partsFrom_eq (h : Leftmost text before inside rest) (behind : List Char) :
    partsFrom none (before ++ (written inside ++ behind)) =
      before.map .char ++ .token (path inside) :: partsFrom none behind := by
  rw [partsFrom_append_of_not_opening h.not_opening fun _ => by simp [written],
    partsFrom_written h.closed]

theorem Token.Leftmost.partsFrom_text (h : Leftmost text before inside rest) :
    partsFrom none text = before.map .char ++ .token (path inside) :: partsFrom none rest := by
  rw [h.text_eq, h.partsFrom_eq]

/-- Where the first of two texts leaves no token open, nor ends amid an opening, each of them has
its own parts. -/
theorem Closed.partsFrom_append (h : Closed a)
    (hseam : a.getLast? = some '$' → b.head? ≠ some '\x7b') :
    partsFrom none (a ++ b) = partsFrom none a ++ partsFrom none b := by
  obtain ⟨tokens, last, hdivided, hlast⟩ := h
  -- Token by token: whatever follows the first text follows its last token as well.
  induction hdivided with
  | plain hnone =>
    rw [partsFrom_append_of_not_opening hlast hseam, partsFrom_of_no_token hnone]
  | @token text before inside rest last tokens hleft hrest ih =>
    have hend : rest.getLast? = some '$' → text.getLast? = some '$' := by
      intro h
      rw [hleft.text_eq, List.getLast?_append, List.getLast?_append, h]
      rfl
    rw [hleft.partsFrom_text, hleft.text_eq, List.append_assoc, List.append_assoc,
      hleft.partsFrom_eq, ih (fun h => hseam (hend h)) hlast, List.append_assoc, List.cons_append]

end Division

section Texts
variable (find : String → String) (record : Value) (lookup : Lookup)

/-- What is found for a path: the text of its value, and nothing for one that is null, undefined or
cannot be looked up. -/
def foundText (path : String) : String :=
  insertedText (evaluatePath path record lookup).toOption.join

/-- Finds a text for a path, and keeps a list of all paths so far. -/
def logged (path : String) : StateM (List String) String := do
  modify (· ++ [path])
  return find path

/-- A part of a text, with what is found for it if it is a token. -/
def Part.fill : Part → String
  | .char c => String.singleton c
  | .token path => find path

variable {find record lookup}

theorem expandText_eq (template : String) : expandText record lookup template =
    String.join ((parts template).map (Part.fill (foundText record lookup))) := by
  rw [expandText]
  congr 1
  apply List.map_congr_left
  intro part _
  cases part with
  | char c => rfl
  | token path =>
    rw [Part.text, Part.fill, foundText]
    cases evaluatePath path record lookup <;> rfl

@[simp] theorem filterMap_path_char (c : Char) (ps : List Part) :
    (Part.char c :: ps).filterMap Part.path? = ps.filterMap Part.path? := rfl

@[simp] theorem filterMap_path_token (path : String) (ps : List Part) :
    (Part.token path :: ps).filterMap Part.path? = path :: ps.filterMap Part.path? := rfl

theorem mapM_logged (ps : List Part) (seen : List String) :
    (ps.mapM (Part.emit (logged find))).run seen =
      pure (ps.map (Part.fill find), seen ++ ps.filterMap Part.path?) := by
  induction ps generalizing seen with
  | nil => simp
  | cons part ps ih =>
    cases part with
    | char c => simp [Part.emit, Part.fill, ih]
    | token path => simp [Part.emit, logged, Part.fill, ih]

/-- The scan finds a text and looks up the paths of its tokens, in their order. -/
theorem scan_logged (text : List Char) :
    ((scan (logged find) text).run []).run =
      (String.join ((partsFrom none text).map (Part.fill find)),
        (partsFrom none text).filterMap Part.path?) := by
  rw [scan_eq_mapM, StateT.run_map, mapM_logged]
  simp

theorem join_map_char (find : String → String) (text : List Char) :
    String.join ((text.map Part.char).map (Part.fill find)) = .ofList text := by
  induction text with
  | nil => rfl
  | cons c text ih =>
    rw [List.map_cons, List.map_cons, String.join_cons, ih, String.ofList_cons]
    rfl

theorem Divided.join_eq {text last : List Char} {tokens : List (List Char × List Char)}
    (h : Divided text tokens last) (find : String → String) :
    String.join ((partsFrom none text).map (Part.fill find)) = filled find tokens last := by
  induction h with
  | plain hnone => rw [partsFrom_of_no_token hnone, join_map_char, filled]
  | token hleft hrest ih =>
    rw [hleft.partsFrom_text, List.map_append, String.join_append, join_map_char, List.map_cons,
      String.join_cons, ih, filled, Part.fill, String.append_assoc]

theorem Divided.paths_eq {text last : List Char} {tokens : List (List Char × List Char)}
    (h : Divided text tokens last) : (partsFrom none text).filterMap Part.path? =
      tokens.map fun (_, inside) => Token.path inside := by
  have hplain : ∀ text : List Char, (text.map Part.char).filterMap Part.path? = [] := by
    intro text
    simp [List.filterMap_map, Function.comp_def, Part.path?]
  induction h with
  | plain hnone => rw [partsFrom_of_no_token hnone, hplain, List.map_nil]
  | token hleft hrest ih =>
    rw [hleft.partsFrom_text, List.filterMap_append, hplain, List.nil_append, filterMap_path_token,
      ih, List.map_cons]

/-- Two texts are expanded one after the other where the first leaves no token open and does not end
amid an opening. -/
theorem expandText_append {a b : String} (h : Closed a.toList)
    (hseam : a.toList.getLast? = some '$' → b.toList.head? ≠ some '\x7b') :
    expandText record lookup (a ++ b) =
      expandText record lookup a ++ expandText record lookup b := by
  rw [expandText_eq, expandText_eq, expandText_eq, parts, String.toList_append,
    h.partsFrom_append hseam, List.map_append, String.join_append, parts, parts]

/-- What is found for a token stands in its place, and the text behind it is read for itself. -/
theorem expandText_token {before inside behind : String} (h : Closed before.toList)
    (hinside : '\x7d' ∉ inside.toList) :
    expandText record lookup (before ++ (Token.text inside ++ behind)) =
      expandText record lookup before ++ foundText record lookup (trimmed inside) ++
        expandText record lookup behind := by
  have hseam : (Token.text inside ++ behind).toList.head? ≠ some '\x7b' := by
    simp [Token.text, Token.written]
  have htoken : expandText record lookup (Token.text inside ++ behind) =
      foundText record lookup (trimmed inside) ++ expandText record lookup behind := by
    rw [expandText_eq, expandText_eq, parts, String.toList_append, Token.text,
      String.toList_ofList, partsFrom_written hinside, List.map_cons, String.join_cons, Part.fill,
      Token.path_toList, parts]
  rw [expandText_append h fun _ => hseam, htoken, String.append_assoc]

/-- A text is expanded as the scan expands it, which looks up the paths of its tokens in their
order. It finds the same tokens as the search for the leftmost one, and puts in for each what is
found for its path, which it does not scan. -/
theorem expandText_scans (record : Value) (lookup : Lookup) :
    (∀ template : String, ((scan (logged (foundText record lookup)) template.toList).run []).run =
      (expandText record lookup template, tokenPaths template)) ∧
    (∀ template : String, ∃ tokens last, Divided template.toList tokens last) ∧
    (∀ (template : String) tokens last, Divided template.toList tokens last →
      expandText record lookup template = filled (foundText record lookup) tokens last ∧
      tokenPaths template = tokens.map fun (_, inside) => Token.path inside) ∧
    (∀ before inside behind : String, Closed before.toList → '\x7d' ∉ inside.toList →
      expandText record lookup (before ++ (Token.text inside ++ behind)) =
        expandText record lookup before ++ foundText record lookup (trimmed inside) ++
          expandText record lookup behind) ∧
    ∀ a b : String, Closed a.toList → a.toList.getLast? ≠ some '$' →
      expandText record lookup (a ++ b) =
        expandText record lookup a ++ expandText record lookup b := by
  refine ⟨?_, fun template => exists_divided _, ?_, fun _ _ _ => expandText_token, ?_⟩
  · intro template
    rw [scan_logged, expandText_eq]
    rfl
  · intro template tokens last h
    rw [expandText_eq]
    exact ⟨h.join_eq _, h.paths_eq⟩
  · intro a b h hlast
    exact expandText_append h fun hdollar => absurd hdollar hlast

/-- A name that looks like a token itself. -/
def letter : Value :=
  .object [("name", .text "${boss}"), ("boss", .text "Di")]

theorem letter_scans :
    ((scan (logged (foundText letter .lenient))
      "$${ name } $\x7b ${boss} ${ boss } $\x7b".toList).run []).run =
        ("$${boss}  Di $\x7b", ["name", "$\x7bboss", "boss"]) ∧
    expandText letter .lenient ("$" ++ (Token.text " name " ++ ", $\x7bboss")) =
      "$${boss}, $\x7bboss" ∧
    expandText letter .lenient ("${name}!" ++ "{boss}${boss}") = "${boss}!{boss}Di" := by
  obtain ⟨hscan, _, _, htoken, happend⟩ := expandText_scans letter .lenient
  have hend : Closed "!".toList := closed_of_not_opening (by decide)
  have hclosed : Closed (Token.written "name".toList ++ "!".toList) := hend.written (by decide)
  refine ⟨(hscan _).trans (by decide +kernel), ?_, ?_⟩
  · rw [htoken "$" " name " ", $\x7bboss" (closed_of_not_opening (by decide)) (by decide)]
    decide +kernel
  · rw [happend "${name}!" "{boss}${boss}" hclosed (by decide)]
    decide +kernel

end Texts

end Cartouche
