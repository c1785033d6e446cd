import Cartouche.Proofs.ShapeFaults

/-!
The two readings of a document. A text that is not JSON gets the wider one, unless its shape is
already wrong in a beginning that JSON may have: the narrow reading stops at the first fault, and a
fault of shape counts although the text goes wrong further on.
-/
namespace Cartouche
open Json

/-- A beginning of JSON. -/
def Json.IsBeginning (start : List Char) : Prop :=
  ∃ more, IsJson (start ++ more)

namespace Json
variable {α : Type} {r : Reader α} {text : List Char}

theorem isBeginning_of_opens {start : List Char} (h : Opens (Spells .stepwise) start) :
    IsBeginning start := by
  obtain ⟨more, gap, text, node, hgap, hspells, heq⟩ := h
  exact ⟨more, node, gap, text, [], hgap, hspells, isGap_nil, by simpa using heq⟩

theorem read_fst (rounding : Rounding) (input : List Char) :
    (read rounding input).1 = (readValue rounding (2 * input.length + 1) input).1 := by
  unfold read
  split
  · next heq => rw [heq]
  · next heq => rw [heq]

theorem parse_ofList (r : Reader α) (input : List Char) : r.parse (.ofList input) =
    r.run .json (readValue .stepwise (2 * input.length + 1) input).1 (read .stepwise input).2 := by
  rw [Reader.parse, String.toList_ofList, ← read_fst]

/-- A text that is not JSON has a beginning of JSON from which on, however it goes on, its first
fault stays if it is one of shape. -/
theorem Reader.Orderly.carries_parse (hr : Orderly r) (h : ¬ IsJson text) :
    ∃ start rest, text = start ++ rest ∧ IsBeginning start ∧
      ∀ more, StopsAlike rest more →
        Carries (r.parse (.ofList text)) (r.parse (.ofList (start ++ more))) := by
  rcases hread : readValue .stepwise (2 * text.length + 1) text with ⟨node, left⟩
  cases left with
  | none =>
    obtain ⟨start, rest, htext, hopens, -, hcuts⟩ := (breaksWithin .stepwise _).value hread
    refine ⟨start, rest, htext, isBeginning_of_opens hopens, ?_⟩
    intro more halike
    have hlength : 2 * start.length ≤ 2 * (start ++ more).length + 1 := by
      rw [List.length_append]
      omega
    have hcut := hcuts more _ halike hlength
    rw [parse_ofList, parse_ofList, hread]
    exact (hr.carries (.top .json) node _ rfl hcut).bind
  | some rest =>
    obtain ⟨gap, body, hgap, hspells, hlocal, htext⟩ := (acceptsWithin .stepwise _).value hread
    have hafter : (read .stepwise text).2 = some .trailingText := by
      have hrest : skipSpace rest ≠ [] := fun hrest =>
        h ⟨node, gap, body, rest, hgap, hspells, isGap_of_skipSpace_eq_nil hrest, htext⟩
      rw [read, hread]
      simp [hrest]
    refine ⟨gap ++ body, rest, by rw [htext, List.append_assoc], ?_, ?_⟩
    · exact ⟨[], node, gap, body, [], hgap, hspells, isGap_nil, by simp⟩
    · intro more halike
      have hmore : readValue .stepwise (2 * (gap ++ body ++ more).length + 1)
          (gap ++ body ++ more) = (node, some more) := by
        rw [List.append_assoc]
        apply hlocal gap more _ hgap halike
        simp only [List.length_append]
        omega
      rw [parse_ofList, parse_ofList, hread, hmore, hafter]
      exact .bind_same fun _ _ => .mended _ _

end Json

/-! Documents are taken part by part, but for the parts that may have one of several shapes. -/

namespace DocumentDecl
open Json

theorem orderly_field {α β : Type} {r : Reader β} (h : r.Orderly) (name : String)
    (presence : Presence) (set : β → α → α) : (Field.of name presence r set).read.Orderly :=
  h.map set

theorem orderly_optionalText : (Reader.option Reader.string).Orderly :=
  Reader.orderly_string.option

theorem orderly_style : (Reader.table StyleDecl.reader).Orderly :=
  (Reader.orderly_firstOf _ _).table

theorem orderly_node : NodeDecl.reader.Orderly := by
  apply Reader.orderly_record
  exact ⟨orderly_field orderly_optionalText _ _ _,
    orderly_field Reader.orderly_string _ _ _, orderly_field orderly_optionalText _ _ _,
    orderly_field orderly_optionalText _ _ _, orderly_field orderly_style _ _ _⟩

theorem orderly_edge : EdgeDecl.reader.Orderly := by
  apply Reader.orderly_record
  exact ⟨orderly_field orderly_optionalText _ _ _,
    orderly_field Reader.orderly_string _ _ _, orderly_field Reader.orderly_string _ _ _,
    orderly_field orderly_optionalText _ _ _, orderly_field orderly_optionalText _ _ _,
    orderly_field orderly_style _ _ _⟩

theorem orderly_template : TemplateDecl.reader.Orderly := by
  apply Reader.orderly_record
  exact ⟨orderly_field Reader.orderly_string _ _ _,
    orderly_field Reader.orderly_string _ _ _, orderly_field orderly_optionalText _ _ _,
    orderly_field Reader.orderly_bool _ _ _, orderly_field Reader.orderly_value.option _ _ _,
    orderly_field (Reader.orderly_variant _) _ _ _, orderly_field orderly_node.list _ _ _,
    orderly_field orderly_edge.list _ _ _⟩

theorem orderly_legend : LegendDecl.reader.Orderly := by
  apply Reader.orderly_record
  exact ⟨orderly_field Reader.orderly_string _ _ _,
    orderly_field Reader.orderly_string _ _ _, orderly_field orderly_optionalText _ _ _,
    orderly_field orderly_optionalText _ _ _, orderly_field Reader.orderly_count.option _ _ _,
    orderly_field Reader.orderly_real32.option _ _ _,
    orderly_field Reader.orderly_real32.option _ _ _⟩

theorem orderly_reader : reader.Orderly := by
  apply Reader.orderly_record
  exact ⟨orderly_field (Reader.orderly_firstOf _ _) _ _ _,
    orderly_field orderly_template.list _ _ _, orderly_field orderly_legend.list _ _ _⟩

/-! The choice between the readings. -/

/-- What the wider reading makes of a text. -/
def parseWider (text : String) : Except DocumentFault DocumentDecl :=
  (parseJson5 reader text).mapError .json5

/-- A beginning of the text, which JSON may have as well, is of the wrong shape already: however it
goes on from there, unless that is within a number, this is what is reported. -/
def WrongFromStart (text : List Char) (fault : ShapeFault) : Prop :=
  ∃ start rest, text = start ++ rest ∧ IsBeginning start ∧ ∀ more, StopsAlike rest more →
    parse (.ofList (start ++ more)) = .error (.json (.shape fault))

theorem parse_eq (text : String) : parse text = match reader.parse text with
    | .ok decl => .ok decl
    | .error (.syntactic _) => parseWider text
    | .error (.shape fault) => .error (.json (.shape fault)) := by
  unfold parse parseWider
  cases reader.parse text with
  | ok decl => rfl
  | error fault =>
    cases fault with
    | shape fault => rfl
    | syntactic fault => cases parseJson5 reader text <;> rfl

theorem parseWider_ne (text : String) (fault : Fault) :
    parseWider text ≠ .error (.json fault) := by
  unfold parseWider
  cases parseJson5 reader text <;> exact fun h => by cases h

theorem WrongFromStart.parse_eq {text : String} {fault : ShapeFault}
    (h : WrongFromStart text.toList fault) : parse text = .error (.json (.shape fault)) := by
  obtain ⟨start, rest, htext, -, hparse⟩ := h
  have hrest := hparse rest (.inl rfl)
  rwa [← htext, String.ofList_toList] at hrest

/-- A text that is not JSON is read in the wider format, or one of its beginnings is of the wrong
shape. -/
theorem parseWider_or_wrongFromStart {text : String} (h : ¬ IsJson text.toList) :
    parse text = parseWider text ∨ ∃ fault, WrongFromStart text.toList fault := by
  obtain ⟨start, rest, htext, hbeginning, hcarries⟩ := orderly_reader.carries_parse h
  rw [String.ofList_toList] at hcarries
  cases hparse : reader.parse text with
  | ok decl => exact absurd hparse ((hcarries rest (.inl rfl)).ne_ok decl)
  | error fault =>
    cases fault with
    | syntactic fault =>
      left
      rw [DocumentDecl.parse_eq, hparse]
    | shape fault =>
      right
      refine ⟨fault, start, rest, htext, hbeginning, ?_⟩
      intro more halike
      rw [DocumentDecl.parse_eq, (hcarries more halike).shape hparse]

/-- Of a text that is not JSON the wider reading is what counts, unless it has a beginning, which
JSON may have as well, whose shape is wrong already. Then, and only then, the fault of shape is
reported. -/
theorem parse_of_not_isJson (text : String) (h : ¬ IsJson text.toList) :
    (parse text = parseWider text ↔ ¬ ∃ fault, WrongFromStart text.toList fault) ∧
    ∀ fault, parse text = .error (.json fault) ↔
      ∃ shape, fault = .shape shape ∧ WrongFromStart text.toList shape := by
  have hcases := parseWider_or_wrongFromStart h
  constructor
  · constructor
    · rintro hwider ⟨fault, hwrong⟩
      exact parseWider_ne text _ (hwider ▸ hwrong.parse_eq)
    · exact fun hright => hcases.resolve_right hright
  · intro fault
    constructor
    · intro hparse
      obtain hwider | ⟨shape, hwrong⟩ := hcases
      · exact absurd (hwider ▸ hparse) (parseWider_ne text fault)
      · refine ⟨shape, ?_, hwrong⟩
        have heq := hparse.symm.trans hwrong.parse_eq
        exact DocumentFault.json.inj (Except.error.inj heq)
    · rintro ⟨shape, rfl, hwrong⟩
      exact hwrong.parse_eq

/-- A document as it is written by hand, with a key that is no quoted text. -/
def handwritten : String := "\x7btemplates:[]\x7d"

theorem not_isJson_of_readValue {text : List Char}
    (h : (readValue .stepwise (2 * text.length + 1) text).2 = none) : ¬ IsJson text := by
  rw [isJson_iff, h]
  rintro ⟨rest, hrest, -⟩
  cases hrest

theorem handwritten_parsed :
    ¬ IsJson handwritten.toList ∧ (parse handwritten).isOk ∧
    (parse handwritten = parseWider handwritten ↔
      ¬ ∃ fault, WrongFromStart handwritten.toList fault) ∧
    ∀ fault, parse handwritten = .error (.json fault) ↔
      ∃ shape, fault = .shape shape ∧ WrongFromStart handwritten.toList shape := by
  have hjson : ¬ IsJson handwritten.toList := not_isJson_of_readValue (by decide +kernel)
  exact ⟨hjson, by decide +kernel, parse_of_not_isJson handwritten hjson⟩

/-- A document with a comma too many at its end, which the wider format allows, and with a number of
steps before it that only the narrow format refuses. -/
def lateComma : String :=
  "\x7b\"templates\":[\x7b\"id\":\"t\",\"from\":\"s\",\"nodes\":[\x7b\"style\":\x7b\"w\":" ++
  "\x7b\"kind\":\"category\",\"field\":\"k\",\"categories\":[]\x7d\x7d\x7d]\x7d]," ++
  "\"legends\":[\x7b\"property\":\"w\",\"field\":\"k\",\"steps\":2.5\x7d,]\x7d"

/-- It is no JSON and the wider format has it for a document, but it is refused for its shape. -/
theorem lateComma_refused :
    ¬ IsJson lateComma.toList ∧ (parseWider lateComma).isOk ∧
    parse lateComma ≠ parseWider lateComma ∧
    ∃ shape, parse lateComma = .error (.json (.shape shape)) := by
  have hjson : ¬ IsJson lateComma.toList := not_isJson_of_readValue (by decide +kernel)
  have hwider : (parseWider lateComma).isOk := by decide +kernel
  have hrefused : (parse lateComma).isOk = false := by decide +kernel
  have hne : parse lateComma ≠ parseWider lateComma := by
    intro heq
    rw [heq, hwider] at hrefused
    cases hrefused
  obtain ⟨shape, hwrong⟩ := (parseWider_or_wrongFromStart hjson).resolve_left hne
  exact ⟨hjson, hwider, hne, shape, hwrong.parse_eq⟩

end DocumentDecl

end Cartouche
