import Cartouche.Data.Path

/-!
Texts with tokens `${path}`. A token ends at the first closing brace; without one, the opening is
ordinary text. The value of a token goes into the result as it is and is not looked at again.
-/
namespace Cartouche
open Text

inductive Part where
  | char (c : Char)
  | token (path : String)
deriving DecidableEq

/-- The parts of a text; `opened` holds, last character first, what follows an opening. -/
def partsFrom (opened : Option (List Char)) : List Char → List Part
  | [] =>
    match opened with
    | none => []
    | some seen => ('$' :: '\x7b' :: seen.reverse).map .char
  | c :: rest =>
    match opened with
    | some seen =>
      if c = '\x7d' then .token (.ofList (trim seen.reverse)) :: partsFrom none rest
      else partsFrom (some (c :: seen)) rest
    | none =>
      match c, rest with
      | '$', '\x7b' :: inside => partsFrom (some []) inside
      | c, rest => .char c :: partsFrom none rest

def parts (template : String) : List Part :=
  partsFrom none template.toList

def Part.path? : Part → Option String
  | .char _ => none
  | .token path => some path

/-- The paths a text looks up, in their order. -/
def tokenPaths (template : String) : List String :=
  (parts template).filterMap Part.path?

/-- The path of a text that is one token and nothing else. -/
def wholeToken? (template : String) : Option String :=
  match parts template with
  | [.token path] => some path
  | _ => none

/-- Null and undefined values leave no text. -/
def insertedText : Option Value → String
  | none => ""
  | some v => if v.isNull then "" else v.display

variable (record : Value) (lookup : Lookup)

def Part.text : Part → Except PathError String
  | .char c => .ok (String.singleton c)
  | .token path => (evaluatePath path record lookup).map insertedText

/-- The text with its tokens replaced; the first lookup that fails is reported. -/
def tryExpandText (template : String) : Except PathError String :=
  ((parts template).mapM (Part.text record lookup)).map String.join

/-- The text with its tokens replaced; a lookup that fails leaves no text. -/
def expandText (template : String) : String :=
  String.join ((parts template).map fun part => (part.text record lookup).toOption.getD "")

/-- A text that is one token keeps the value it leads to. -/
def tryExpandValue (template : String) : Except PathError (Option Value) :=
  match wholeToken? template with
  | some path => evaluatePath path record lookup
  | none => (tryExpandText record lookup template).map fun s => some (.text s)

def expandValue (template : String) : Option Value :=
  match wholeToken? template with
  | some path => (evaluatePath path record lookup).toOption.join
  | none => some (.text (expandText record lookup template))

end Cartouche
