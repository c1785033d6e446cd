import Cartouche.Json.Reader
import Cartouche.Table

/-!
Readers turn nodes into values of a given shape. They take the parts of a node in the order of the
text and stop at the first fault, be it in the shape or in the text. Where a value may have one of
several shapes, its whole node is looked through for faults of the text first, and kept.
-/
namespace Cartouche.Json
open Decimal

/-- How a node is being read. -/
structure Site where
  format : Format
  /-- The node has been looked through, so only its shape can be at fault. -/
  kept : Bool
  /-- Levels of nesting left to the narrow format. -/
  depth : Nat

namespace Site

/-- The top of a text; the narrow format takes 127 levels. -/
def top (format : Format) : Site :=
  ⟨format, false, 128⟩

/-- Whether the text is taken part by part, as the narrow format does it. -/
def isStreaming (s : Site) : Bool :=
  !s.kept && s.format == .json

/-- One level further down. -/
def enter (s : Site) : Except Fault Site :=
  if s.isStreaming then
    if s.depth ≤ 1 then .error (.syntactic .tooDeep) else .ok { s with depth := s.depth - 1 }
  else .ok s

end Site

abbrev Reader (α : Type) := Site → Node → Except Fault α

def atBreak (ending : Option Break) : Except Fault Unit :=
  match ending with
  | some place => .error (.syntactic place.seen)
  | none => .ok ()

mutual
/-- Looks a whole node through for faults of the text, in its order. -/
def Node.check (s : Site) : Node → Except Fault Unit
  | .number general _ => general.map fun _ => ()
  | .text content => content.map fun _ => ()
  | .list items ending => do
    let inner ← s.enter
    checkItems inner items
    atBreak ending
  | .object fields ending => do
    let inner ← s.enter
    checkFields inner fields
    atBreak ending
  | .broken place => .error (.syntactic place.seen)
  | .null => .ok ()
  | .bool _ => .ok ()

def checkItems (s : Site) : List Node → Except Fault Unit
  | [] => .ok ()
  | item :: rest => do
    item.check s
    checkItems s rest

def checkFields (s : Site) : List (Except Fault String × Node) → Except Fault Unit
  | [] => .ok ()
  | (key, node) :: rest => do
    let _ ← key
    node.check s
    checkFields s rest
end

mutual
/-- Passes over a node of the narrow format, of which only the outline counts. -/
def Node.outline : Node → Except Fault Unit
  | .list items ending => do
    outlineItems items
    outlineEnd ending
  | .object fields ending => do
    outlineFields fields
    outlineEnd ending
  | .broken place => .error (.syntactic place.skipped)
  | _ => .ok ()

def outlineEnd : Option Break → Except Fault Unit
  | some place => .error (.syntactic place.skipped)
  | none => .ok ()

def outlineItems : List Node → Except Fault Unit
  | [] => .ok ()
  | item :: rest => do
    item.outline
    outlineItems rest

def outlineFields : List (Except Fault String × Node) → Except Fault Unit
  | [] => .ok ()
  | (_, node) :: rest => do
    node.outline
    outlineFields rest
end

namespace Reader
variable {α β : Type}

def map (f : α → β) (r : Reader α) : Reader β :=
  fun s node => (r s node).map f

/-- A node of another kind than expected. -/
def mismatch (expected : String) (node : Node) : Except Fault α := do
  let found ← node.found
  .error (.shape (.wrongType found expected))

/-- A value that nobody asks for. -/
def ignored : Reader Unit := fun s node =>
  if s.kept then .ok ()
  else match s.format with
    | .json => node.outline
    | .json5 => node.check s

/-- Looks a node through and keeps it for several readings. -/
def keep (s : Site) (node : Node) : Except Fault Site := do
  if s.kept then .ok s
  else
    node.check s
    .ok { s with kept := true }

def bool : Reader Bool := fun _ node =>
  match node with
  | .bool b => .ok b
  | node => mismatch "a boolean" node

def textAs (expected : String) : Reader String := fun _ node =>
  match node with
  | .text content => content
  | node => mismatch expected node

def string : Reader String :=
  textAs "a string"

/-- In the wider format a number of a given type is read from the text of whatever stands there. -/
def realText : Node → Except Fault Float
  | .number _ real => real
  | .broken place => .error (.syntactic place.seen)
  | _ => .error (.shape .unreadableNumber)

def isRealText (s : Site) : Bool :=
  !s.kept && s.format == .json5

def real : Reader Float := fun s node =>
  if isRealText s then realText node
  else match node with
    | .number general _ => general.map Number.toFloat
    | node => mismatch "f64" node

def real32 : Reader Float32 := fun s node =>
  if isRealText s then (realText node).map fun x => (decode x).convert
  else match node with
    | .number general _ => general.map Number.value
    | node => mismatch "f32" node

def greatestCount : Nat := 18446744073709551615

def count : Reader Nat := fun s node =>
  if isRealText s then (realText node).map fun x => (decode x).clampTruncated greatestCount
  else match node with
    | .number general _ => do
      match ← general with
      | .integer i =>
        if 0 ≤ i then .ok i.toNat else .error (.shape (.wrongValue (.integer i) "usize"))
      | .decimal x => .error (.shape (.wrongType (.decimal x) "usize"))
    | node => mismatch "usize" node

/-- Null stands for no value. -/
def option (r : Reader α) : Reader (Option α) := fun s node =>
  match node with
  | .null => .ok none
  | node => (r s node).map some

def list (r : Reader α) : Reader (List α) := fun s node =>
  match node with
  | .list items ending => do
    let inner ← s.enter
    let values ← items.mapM (r inner)
    atBreak ending
    return values
  | node => mismatch "a sequence" node

def tableFields (r : Reader α) (s : Site) :
    List (Except Fault String × Node) → Table α → Except Fault (Table α)
  | [], t => .ok t
  | (key, node) :: rest, t => do
    let key ← key
    let value ← r s node
    tableFields r s rest (t.put key value)

def table (r : Reader α) : Reader (Table α) := fun s node =>
  match node with
  | .object fields ending => do
    let inner ← s.enter
    let t ← tableFields r inner fields []
    atBreak ending
    return t
  | node => mismatch "a map" node

/-- The name of one of several variants. -/
def variantName (known : List (String × α)) : Reader α := fun s node =>
  match node with
  | .text content => do
    let name ← content
    match known.lookup name with
    | some value => .ok value
    | none => .error (.shape (.unknownVariant name (known.map Prod.fst)))
  | .number (.ok (.integer i)) _ =>
    match s.kept && s.format == .json && 0 ≤ i, known[i.toNat]? with
    | true, some (_, value) => .ok value
    | true, none => .error (.shape (.wrongValue (.integer i)
        ("variant index 0 <= i < " ++ .ofList (digitsOf known.length))))
    | false, _ => mismatch "variant identifier" node
  | node => mismatch "variant identifier" node

def unit : Reader Unit := fun _ node =>
  match node with
  | .null => .ok ()
  | node => mismatch "unit" node

/-- Faults of the text where a variant begins: one that is not there ends the text, one that is no
text is not a variant, and in a text its own fault is met. -/
def variantFault (fault : SyntaxFault) : SyntaxFault :=
  if fault = .endInValue || fault.isInText then fault else .expectedValue

/-- What may follow a variant with its content: the end of its object. -/
def variantEnd (rest : List (Except Fault String × Node)) (ending : Option Break) :
    Except Fault Unit :=
  match rest, ending with
  | _ :: _, _ => .error (.syntactic .expectedValue)
  | [], none => .ok ()
  | [], some place =>
    .error (.syntactic (if place.seen = .endInObject then .endInObject else .expectedValue))

/-- A variant without content: its name, or an object with null under its name. A text of the wider
format is not read for what stands under the name. -/
def variant (known : List (String × α)) : Reader α := fun s node =>
  match node with
  | .text _ => variantName known s node
  | .object fields ending => do
    let inner ← s.enter
    match fields with
    | [] =>
      match ending with
      | none => .error (if s.isStreaming then .syntactic .expectedValue else .shape .emptyVariant)
      | some place =>
        .error (.syntactic (if place.seen = .endInObject then .endInValue else place.seen))
    | (key, node) :: rest =>
      let value ← variantName known inner (.text key)
      if s.kept || s.format == .json then unit inner node
      if s.isStreaming then variantEnd rest ending
      return value
  | .broken place => .error (.syntactic (variantFault place.seen))
  | _ => .error (if s.isStreaming then .syntactic .expectedValue else .shape .noVariantName)

/-- The first of several readings that fits. -/
def firstOf (type : String) (readers : List (Reader α)) : Reader α := fun s node => do
  let s ← keep s node
  match readers.findSome? fun r => (r s node).toOption with
  | some value => .ok value
  | none => .error (.shape (.noVariant type))

end Reader

/-- Which fields may be missing: none of them, those of objects, or those of lists as well. -/
inductive Presence where
  | required
  | optional
  | defaulted
deriving DecidableEq

/-- A field of a record, read into the record that has been read so far. -/
structure Field (α : Type) where
  name : String
  presence : Presence
  read : Reader (α → α)

namespace Field
variable {α β : Type}

def of (name : String) (presence : Presence) (r : Reader β) (set : β → α → α) : Field α :=
  ⟨name, presence, r.map set⟩

end Field

namespace Reader
variable {α : Type}

/-- The fields of an object in the order of the text; unknown ones are passed over. -/
def objectFields (fields : List (Field α)) (s : Site) :
    List (Except Fault String × Node) → List String × α → Except Fault (List String × α)
  | [], state => .ok state
  | (key, node) :: rest, (seen, value) => do
    let key ← key
    match fields.find? (·.name == key) with
    | none =>
      ignored s node
      objectFields fields s rest (seen, value)
    | some field =>
      if key ∈ seen then .error (.shape (.duplicateField key))
      else
        let set ← field.read s node
        objectFields fields s rest (key :: seen, set value)

def requireAll (fields : List (Field α)) (seen : List String) : Except Fault Unit :=
  match fields.find? fun f => f.presence == .required && !seen.contains f.name with
  | some field => .error (.shape (.missingField field.name))
  | none => .ok ()

def counted (n : Nat) (noun : String) : String :=
  .ofList (digitsOf n) ++ " " ++ noun ++ (if n = 1 then "" else "s")

/-- Fields from the items of a list, in their declared order; the items left over come back. -/
def listFields (expected : String) (s : Site) (index : Nat) (ending : Option Break) :
    List (Field α) → List Node → α → Except Fault (α × List Node)
  | [], items, value => .ok (value, items)
  | field :: fields, node :: items, value => do
    let set ← field.read s node
    listFields expected s (index + 1) ending fields items (set value)
  | field :: fields, [], value => do
    atBreak ending
    if field.presence = .defaulted then listFields expected s (index + 1) ending fields [] value
    else .error (.shape (.wrongLength index expected))

/-- What may follow the last item that a reader of a fixed number of items has taken. -/
def listEnd (s : Site) (taken : Nat) (left : List Node) (ending : Option Break) :
    Except Fault Unit :=
  if s.isStreaming then
    if !left.isEmpty then .error (.syntactic .trailingText)
    else match ending with
      | none => .ok ()
      | some place =>
        if place.seen = .endInList ∨ place.seen = .trailingComma then .error (.syntactic place.seen)
        else .error (.syntactic .trailingText)
  else if s.kept && !left.isEmpty then
    .error (.shape (.wrongLength (taken + left.length) (counted taken "element" ++ " in sequence")))
  else .ok ()

/-- A record over the value it has when nothing is said: an object, or a list of its fields. -/
def record (description : String) (empty : α) (fields : List (Field α)) : Reader α :=
  fun s node =>
    match node with
    | .object entries ending => do
      let inner ← s.enter
      let (seen, value) ← objectFields fields inner entries ([], empty)
      atBreak ending
      requireAll fields seen
      return value
    | .list items ending => do
      let inner ← s.enter
      let expected := description ++ " with " ++ counted fields.length "element"
      let (value, left) ← listFields expected inner 0 ending fields items empty
      listEnd s (items.length - left.length) left ending
      return value
    | node => mismatch description node

/-- Two values in a list. -/
def pair {β : Type} (r : Reader α) (q : Reader β) : Reader (α × β) := fun s node =>
  match node with
  | .list items ending => do
    let inner ← s.enter
    match items with
    | [] =>
      atBreak ending
      .error (.shape (.wrongLength 0 "a tuple of size 2"))
    | [a] => do
      let _ ← r inner a
      atBreak ending
      .error (.shape (.wrongLength 1 "a tuple of size 2"))
    | a :: b :: left => do
      let a ← r inner a
      let b ← q inner b
      listEnd s 2 left ending
      return (a, b)
  | node => mismatch "a tuple of size 2" node

/-- The fields beside a tag, looked through for faults of the text, and the tag's meaning. -/
def splitTag {β : Type} (tag : String) (known : List (String × β)) (s : Site) :
    List (Except Fault String × Node) → Option β →
      Except Fault (Option β × List (Except Fault String × Node))
  | [], found => .ok (found, [])
  | (key, node) :: rest, found => do
    let key ← key
    if key = tag then
      if found.isSome then .error (.shape (.duplicateField tag))
      else
        let value ← variantName known s node
        splitTag tag known s rest (some value)
    else
      let _ ← keep s node
      let (found, others) ← splitTag tag known s rest found
      return (found, (.ok key, node) :: others)

/-- One of several records; a tag among the fields, or before them in a list, tells which. -/
def tagged (description tag : String) (variants : List (String × Reader α)) : Reader α :=
  fun s node =>
    match node with
    | .object entries ending => do
      let inner ← s.enter
      let (found, others) ← splitTag tag variants inner entries none
      atBreak ending
      match found with
      | some r => r { s with kept := true } (.object others none)
      | none => .error (.shape (.missingField tag))
    | .list items ending => do
      let inner ← s.enter
      match items with
      | [] =>
        atBreak ending
        .error (.shape (.missingField tag))
      | first :: rest => do
        let r ← variantName variants inner first
        if !s.kept then
          checkItems inner rest
          atBreak ending
        r { s with kept := true } (.list rest none)
    | node => mismatch description node

/-- A whole text, read and then looked at for what follows the value. -/
def run (r : Reader α) (format : Format) (node : Node) (after : Option SyntaxFault) :
    Except Fault α := do
  let value ← r (.top format) node
  match after with
  | some fault => .error (.syntactic fault)
  | none => return value

/-- A whole text in the narrow format, its decimals computed step by step. -/
def parse (r : Reader α) (text : String) : Except Fault α :=
  let (node, after) := Json.read .stepwise text.toList
  r.run .json node after

end Reader

end Cartouche.Json
