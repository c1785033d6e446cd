import Cartouche.Proofs.Escaping

/-!
A scanner for tags, which reads markup from the left, character by character, and knows nothing of
the tree it was written from. On written markup it finds the tags of the tree, in their order, with
the attributes and the text of the tree in escaped form.
-/
namespace Cartouche

inductive TagKind where
  | opening
  | closing
  | single
deriving DecidableEq

/-- A tag, and the text between the tag before it and this one. -/
structure Tag where
  before : String
  kind : TagKind
  name : String
  attributes : List Attribute

/-- The name of a tag, behind a slash if it closes. -/
def Tag.mark (t : Tag) : String :=
  match t.kind with
  | .closing => "/" ++ t.name
  | _ => t.name

/-- Names of tags and attributes are written in these. -/
def isNameChar (c : Char) : Bool :=
  c.isAlphanum || c == '-'

namespace Scan

/-- A tag that has been read in part. -/
structure Part where
  before : List Char
  name : List Char
  attributes : List Attribute

/-- Where in a text a scan can stand. -/
inductive Mode where
  | text (before : List Char)
  /-- Behind an opening bracket. -/
  | bracket (before : List Char)
  | tag (t : Part)
  | attribute (t : Part) (name : List Char)
  /-- Behind an equals sign. -/
  | equals (t : Part) (name : List Char)
  | value (t : Part) (name value : List Char)
  /-- Behind a slash at the end of a tag. -/
  | slash (t : Part)
  | closing (before name : List Char)
  | failed

/-- A scan between two characters, with the tags it has met. -/
structure State where
  mode : Mode
  tags : List Tag

def Part.finish (t : Part) (kind : TagKind) : Tag :=
  ⟨.ofList t.before, kind, .ofList t.name, t.attributes⟩

def Part.add (t : Part) (name value : List Char) : Part :=
  { t with attributes := t.attributes ++ [⟨.ofList name, .ofList value⟩] }

namespace State

def goto (s : State) (mode : Mode) : State :=
  { s with mode }

def emit (s : State) (tag : Tag) : State :=
  ⟨.text [], s.tags ++ [tag]⟩

def step (s : State) (c : Char) : State :=
  match s.mode with
  | .text before => s.goto (if c = '<' then .bracket before else .text (before ++ [c]))
  | .bracket before =>
    s.goto (if c = '/' then .closing before []
      else if isNameChar c then .tag ⟨before, [c], []⟩ else .failed)
  | .tag t =>
    -- The name of a tag ends where its first attribute begins.
    if isNameChar c && t.attributes.isEmpty then s.goto (.tag { t with name := t.name ++ [c] })
    else if c = ' ' then s.goto (.attribute t [])
    else if c = '/' then s.goto (.slash t)
    else if c = '>' then s.emit (t.finish .opening)
    else s.goto .failed
  | .attribute t name =>
    s.goto (if isNameChar c then .attribute t (name ++ [c])
      else if c = '=' then .equals t name else .failed)
  | .equals t name => s.goto (if c = '"' then .value t name [] else .failed)
  | .value t name value =>
    s.goto (if c = '"' then .tag (t.add name value)
      else if c = '<' then .failed else .value t name (value ++ [c]))
  | .slash t => if c = '>' then s.emit (t.finish .single) else s.goto .failed
  | .closing before name =>
    if isNameChar c then s.goto (.closing before (name ++ [c]))
    else if c = '>' then s.emit ⟨.ofList before, .closing, .ofList name, []⟩
    else s.goto .failed
  | .failed => s

def run (s : State) (text : List Char) : State :=
  text.foldl step s

end State

end Scan

/-- The tags of a text that ends with a tag. -/
def scanTags (text : List Char) : Option (List Tag) :=
  match (Scan.State.mk (.text []) []).run text with
  | ⟨.text [], tags⟩ => some tags
  | _ => none

/-! Tags of trees. -/

mutual
/-- The tags of a tree, from the first to the last. -/
def Markup.tags : Markup → List Tag
  | .leaf tag attributes => [⟨"", .single, tag, attributes⟩]
  | .text tag attributes content =>
    [⟨"", .opening, tag, attributes⟩, ⟨content, .closing, tag, []⟩]
  | .group tag attributes children =>
    ⟨"", .opening, tag, attributes⟩ :: (tagsAll children ++ [⟨"", .closing, tag, []⟩])

def Markup.tagsAll : List Markup → List Tag
  | [] => []
  | m :: rest => m.tags ++ tagsAll rest
end

def escaped (s : String) : String :=
  .ofList (escapeMarkup s.toList)

def Attribute.escaped (a : Attribute) : Attribute :=
  ⟨a.name, Cartouche.escaped a.value⟩

/-- The tag as a scan finds it. -/
def Tag.escaped (t : Tag) : Tag :=
  ⟨Cartouche.escaped t.before, t.kind, t.name, t.attributes.map Attribute.escaped⟩

def unescaped (s : String) : String :=
  .ofList (unescape s.toList)

def Attribute.unescaped (a : Attribute) : Attribute :=
  ⟨a.name, Cartouche.unescaped a.value⟩

/-- The tag with its texts as they are meant. -/
def Tag.unescaped (t : Tag) : Tag :=
  ⟨Cartouche.unescaped t.before, t.kind, t.name, t.attributes.map Attribute.unescaped⟩

theorem unescaped_escaped (s : String) : unescaped (escaped s) = s := by
  simp [unescaped, escaped, unescape_escapeMarkup]

theorem Attribute.unescaped_escaped (a : Attribute) : a.escaped.unescaped = a := by
  simp [Attribute.unescaped, Attribute.escaped, Cartouche.unescaped_escaped]

theorem Tag.unescaped_escaped (t : Tag) : t.escaped.unescaped = t := by
  have hattributes : ∀ a : Attribute, (Attribute.unescaped ∘ Attribute.escaped) a = a :=
    Attribute.unescaped_escaped
  simp [Tag.unescaped, Tag.escaped, Cartouche.unescaped_escaped, funext hattributes]

theorem Tag.kind_escaped (t : Tag) : t.escaped.kind = t.kind := by
  rw [Tag.escaped]

theorem Tag.name_escaped (t : Tag) : t.escaped.name = t.name := by
  rw [Tag.escaped]

theorem Tag.mark_escaped (t : Tag) : t.escaped.mark = t.mark := by
  rw [Tag.mark, Tag.mark, t.kind_escaped, t.name_escaped]

theorem Tag.before_escaped (t : Tag) : t.escaped.before = Cartouche.escaped t.before := by
  rw [Tag.escaped]

def isName (s : String) : Bool :=
  !s.isEmpty && s.toList.all isNameChar

/-- Tag and attribute names are names. -/
def Tag.isNamed (t : Tag) : Bool :=
  isName t.name && t.attributes.all fun a => isName a.name

namespace Scan

variable {tags : List Tag} {t : Part} {before name : List Char} {tag : String}
  {attributes : List Attribute}

theorem run_append (s : State) (a b : List Char) : s.run (a ++ b) = (s.run a).run b :=
  List.foldl_append

theorem run_cons (s : State) (c : Char) (rest : List Char) :
    s.run (c :: rest) = (s.step c).run rest :=
  rfl

theorem run_nil (s : State) : s.run [] = s :=
  rfl

/-! What a scan makes of the pieces that markup is written in. -/

/-- A mode that collects characters of some kind collects texts of such characters. -/
theorem run_collect (mode : List Char → Mode) {P : Char → Prop}
    (hstep : ∀ read c, P c → (State.mk (mode read) tags).step c = ⟨mode (read ++ [c]), tags⟩)
    {text : List Char} (h : ∀ c ∈ text, P c) (read : List Char) :
    (State.mk (mode read) tags).run text = ⟨mode (read ++ text), tags⟩ := by
  induction text generalizing read with
  | nil =>
    rw [List.append_nil]
    rfl
  | cons c rest ih =>
    have hrest := ih (fun d hd => h d (List.mem_cons_of_mem _ hd)) (read ++ [c])
    rw [List.append_assoc, List.singleton_append] at hrest
    rw [run_cons, hstep read c (h c List.mem_cons_self), hrest]

theorem run_collect_nil (mode : List Char → Mode) {P : Char → Prop}
    (hstep : ∀ read c, P c → (State.mk (mode read) tags).step c = ⟨mode (read ++ [c]), tags⟩)
    {text : List Char} (h : ∀ c ∈ text, P c) :
    (State.mk (mode []) tags).run text = ⟨mode text, tags⟩ := by
  have hread := run_collect mode hstep h []
  rwa [List.nil_append] at hread

theorem isNameChar_of_isName {s : String} (h : isName s) : ∀ c ∈ s.toList, isNameChar c := by
  rw [isName, Bool.and_eq_true] at h
  exact List.all_eq_true.mp h.2

theorem run_attribute {a : Attribute} (h : isName a.name) :
    (State.mk (.tag t) tags).run (Markup.writeAttribute a) =
      ⟨.tag { t with attributes := t.attributes ++ [a.escaped] }, tags⟩ := by
  have hspace : (State.mk (.tag t) tags).step ' ' = ⟨.attribute t [], tags⟩ := by
    simp [State.step, State.goto, isNameChar]
  have hname : (State.mk (.attribute t []) tags).run a.name.toList =
      ⟨.attribute t a.name.toList, tags⟩ :=
    run_collect_nil (.attribute t) (fun read c hc => by simp [State.step, State.goto, hc])
      (isNameChar_of_isName h)
  have hequals : (State.mk (.attribute t a.name.toList) tags).step '=' =
      ⟨.equals t a.name.toList, tags⟩ := by
    simp [State.step, State.goto, isNameChar]
  have hquote : (State.mk (.equals t a.name.toList) tags).step '"' =
      ⟨.value t a.name.toList [], tags⟩ := by
    simp [State.step, State.goto]
  have hvalue : (State.mk (.value t a.name.toList []) tags).run (escapeMarkup a.value.toList) =
      ⟨.value t a.name.toList (escapeMarkup a.value.toList), tags⟩ := by
    refine run_collect_nil (.value t a.name.toList) (P := fun c => c ≠ '"' ∧ c ≠ '<') ?_ ?_
    · intro read c hc
      simp [State.step, State.goto, hc]
    · intro c hc
      have ⟨hlt, _, hquot, _⟩ := not_mem_escapeMarkup hc
      exact ⟨hquot, hlt⟩
  have hend : (State.mk (.value t a.name.toList (escapeMarkup a.value.toList)) tags).step '"' =
      ⟨.tag { t with attributes := t.attributes ++ [a.escaped] }, tags⟩ := by
    simp [State.step, State.goto, Part.add, Attribute.escaped, Cartouche.escaped]
  simp only [Markup.writeAttribute, run_append, run_cons, run_nil, hspace, hname, hequals, hquote,
    hvalue, hend]

theorem run_attributes (h : ∀ a ∈ attributes, isName a.name) :
    (State.mk (.tag t) tags).run (attributes.flatMap Markup.writeAttribute) =
      ⟨.tag { t with attributes := t.attributes ++ attributes.map Attribute.escaped }, tags⟩ := by
  induction attributes generalizing t with
  | nil =>
    rw [List.map_nil, List.append_nil]
    rfl
  | cons a rest ih =>
    have ha := h a List.mem_cons_self
    have hrest : ∀ b ∈ rest, isName b.name := fun b hb => h b (List.mem_cons_of_mem _ hb)
    rw [List.flatMap_cons, run_append, run_attribute ha, ih hrest, List.append_assoc]
    rfl

/-- Behind the text before it, a tag is read up to its closing bracket. -/
theorem run_openTag (htag : isName tag) (h : ∀ a ∈ attributes, isName a.name) :
    (State.mk (.text before) tags).run (Markup.openTag tag attributes) =
      ⟨.tag ⟨before, tag.toList, attributes.map Attribute.escaped⟩, tags⟩ := by
  have hchars := isNameChar_of_isName htag
  cases hname : tag.toList with
  | nil =>
    have hempty : tag = "" := String.toList_eq_nil_iff.mp hname
    rw [hempty] at htag
    cases htag
  | cons c rest =>
    rw [hname] at hchars
    have hc := hchars c List.mem_cons_self
    have hslash : c ≠ '/' := by
      rintro rfl
      revert hc
      decide
    have hbracket : (State.mk (.text before) tags).step '<' = ⟨.bracket before, tags⟩ := by
      simp [State.step, State.goto]
    have hfirst : (State.mk (.bracket before) tags).step c = ⟨.tag ⟨before, [c], []⟩, tags⟩ := by
      simp [State.step, State.goto, hslash, hc]
    have hrest : (State.mk (.tag ⟨before, [c], []⟩) tags).run rest =
        ⟨.tag ⟨before, c :: rest, []⟩, tags⟩ :=
      run_collect (fun name => .tag ⟨before, name, []⟩)
        (fun read d hd => by simp [State.step, State.goto, hd])
        (fun d hd => hchars d (List.mem_cons_of_mem _ hd)) [c]
    rw [Markup.openTag, run_append, run_cons, hbracket, hname, run_cons, hfirst, hrest,
      run_attributes h, List.nil_append]

theorem run_closeTag (htag : isName tag) :
    (State.mk (.text before) tags).run (Markup.closeTag tag) =
      ⟨.text [], tags ++ [⟨.ofList before, .closing, tag, []⟩]⟩ := by
  have hopen : ((State.mk (.text before) tags).step '<').step '/' =
      ⟨.closing before [], tags⟩ := by
    simp [State.step, State.goto]
  have hname : (State.mk (.closing before []) tags).run tag.toList =
      ⟨.closing before tag.toList, tags⟩ :=
    run_collect_nil (.closing before) (fun read c hc => by simp [State.step, State.goto, hc])
      (isNameChar_of_isName htag)
  have hclose : (State.mk (.closing before tag.toList) tags).step '>' =
      ⟨.text [], tags ++ [⟨.ofList before, .closing, tag, []⟩]⟩ := by
    simp [State.step, State.emit, isNameChar]
  simp only [Markup.closeTag, run_append, run_cons, run_nil, hopen, hname, hclose]

/-- Escaped text has no bracket that a tag could begin with. -/
theorem run_escapeMarkup (text : List Char) :
    (State.mk (.text []) tags).run (escapeMarkup text) = ⟨.text (escapeMarkup text), tags⟩ := by
  refine run_collect_nil .text (P := (· ≠ '<')) ?_ fun c hc => (not_mem_escapeMarkup hc).1
  intro read c hc
  simp [State.step, State.goto, hc]

theorem finish_eq (kind : TagKind) :
    (Part.mk [] tag.toList (attributes.map Attribute.escaped)).finish kind =
      Tag.escaped ⟨"", kind, tag, attributes⟩ := by
  have hempty : Cartouche.escaped "" = "" := rfl
  simp [Part.finish, Tag.escaped, hempty]

/-- An opening tag, or the first one of a tree, ends with its bracket. -/
theorem run_opening (h : (Tag.mk "" .opening tag attributes).isNamed) :
    ((State.mk (.text []) tags).run (Markup.openTag tag attributes)).step '>' =
      ⟨.text [], tags ++ [Tag.escaped ⟨"", .opening, tag, attributes⟩]⟩ := by
  rw [Tag.isNamed, Bool.and_eq_true, List.all_eq_true] at h
  rw [run_openTag h.1 h.2, ← finish_eq]
  simp [State.step, State.emit, isNameChar]

theorem run_single (h : (Tag.mk "" .single tag attributes).isNamed) :
    (((State.mk (.text []) tags).run (Markup.openTag tag attributes)).step '/').step '>' =
      ⟨.text [], tags ++ [Tag.escaped ⟨"", .single, tag, attributes⟩]⟩ := by
  rw [Tag.isNamed, Bool.and_eq_true, List.all_eq_true] at h
  rw [run_openTag h.1 h.2, ← finish_eq]
  simp [State.step, State.goto, State.emit, isNameChar]

mutual
/-- Written markup leaves the scan where it began, behind the tags of the tree. -/
theorem run_write : ∀ (m : Markup) (tags : List Tag), (∀ tag ∈ m.tags, tag.isNamed) →
    (State.mk (.text []) tags).run m.write = ⟨.text [], tags ++ m.tags.map Tag.escaped⟩
  | .leaf tag attributes, tags, h => by
    have hsingle : (Tag.mk "" .single tag attributes).isNamed := h _ List.mem_cons_self
    simp only [Markup.write, run_append, run_cons, run_nil, run_single hsingle]
    rfl
  | .text tag attributes content, tags, h => by
    have hopening : (Tag.mk "" .opening tag attributes).isNamed := h _ List.mem_cons_self
    have htag : isName tag := (Bool.and_eq_true_iff.mp hopening).1
    simp only [Markup.write, run_append, run_cons, run_opening hopening, run_escapeMarkup,
      run_closeTag htag, List.append_assoc, Markup.tags, List.map_cons, List.map_nil, Tag.escaped,
      Cartouche.escaped, List.singleton_append]
  | .group tag attributes children, tags, h => by
    have hopening : (Tag.mk "" .opening tag attributes).isNamed := h _ List.mem_cons_self
    have htag : isName tag := (Bool.and_eq_true_iff.mp hopening).1
    have hchildren : ∀ t ∈ Markup.tagsAll children, t.isNamed := fun t ht =>
      h t (List.mem_cons_of_mem _ (List.mem_append_left _ ht))
    simp only [Markup.write, run_append, run_cons, run_opening hopening,
      run_writeAll children _ hchildren, run_closeTag htag, Markup.tags, List.map_cons,
      List.map_append, List.append_assoc]
    rfl

theorem run_writeAll : ∀ (ms : List Markup) (tags : List Tag),
    (∀ tag ∈ Markup.tagsAll ms, tag.isNamed) →
    (State.mk (.text []) tags).run (Markup.writeAll ms) =
      ⟨.text [], tags ++ (Markup.tagsAll ms).map Tag.escaped⟩
  | [], tags, _ => by
    rw [Markup.tagsAll, List.map_nil, List.append_nil]
    rfl
  | m :: rest, tags, h => by
    have hm : ∀ t ∈ m.tags, t.isNamed := fun t ht => h t (List.mem_append_left _ ht)
    have hrest : ∀ t ∈ Markup.tagsAll rest, t.isNamed := fun t ht =>
      h t (List.mem_append_right _ ht)
    rw [Markup.writeAll, run_append, run_write m tags hm, run_writeAll rest _ hrest,
      Markup.tagsAll, List.map_append, List.append_assoc]
end

end Scan

/-- A scan of written markup finds the tags of the tree. -/
theorem scanTags_write (m : Markup) (h : ∀ t ∈ m.tags, t.isNamed) :
    scanTags m.write = some (m.tags.map Tag.escaped) := by
  rw [scanTags, Scan.run_write m [] h, List.nil_append]

end Cartouche
