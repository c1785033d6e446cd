import Cartouche.Data.Value
import Cartouche.Decimal.Literal
import Cartouche.Text.Blank

/-!
Dotted paths into a record. A strict lookup reports the first step that fails; a safe one answers
with a default value instead.
-/
namespace Cartouche
open Decimal Text

/-- Why a path cannot be read or followed. -/
inductive PathError where
  | emptyPath
  | emptySegment (path : String)
  | nullSegment (path segment : String)
  | notTraversable (path segment found : String)
  | missingKey (path segment : String)
  | indexOutOfRange (path segment : String) (length : Nat)
deriving DecidableEq

namespace PathError

def message : PathError → String
  | .emptyPath => "empty variable path"
  | .emptySegment path => "empty segment in path `" ++ path ++ "`"
  | .nullSegment path segment => "`" ++ segment ++ "` in `" ++ path ++ "` is null"
  | .notTraversable path segment found =>
    "cannot read `" ++ segment ++ "` of a " ++ found ++ " in `" ++ path ++ "`"
  | .missingKey path segment => "no field `" ++ segment ++ "` in `" ++ path ++ "`"
  | .indexOutOfRange path segment length =>
    "index " ++ segment ++ " out of range (len " ++ .ofList (digitsOf length) ++ ") in `" ++
      path ++ "`"

/-- The step that stopped the lookup, when there is one. -/
def segment? : PathError → Option String
  | .emptyPath => none
  | .emptySegment _ => none
  | .nullSegment _ segment => some segment
  | .notTraversable _ segment _ => some segment
  | .missingKey _ segment => some segment
  | .indexOutOfRange _ segment _ => some segment

end PathError

/-- How lookups treat what is missing. -/
structure Lookup where
  safe : Bool
  default : Option Value

namespace Lookup

def lenient : Lookup := ⟨true, none⟩

def strict : Lookup := ⟨false, none⟩

end Lookup

/-- The parts of a text between dots. -/
def splitDots : List Char → List (List Char)
  | [] => [[]]
  | c :: rest =>
    if c = '.' then [] :: splitDots rest
    else match splitDots rest with
      | part :: parts => (c :: part) :: parts
      | [] => [[c]]

/-- The steps of a path, each without blanks around it. -/
def pathSteps (path : String) : Except PathError (List String) :=
  let text := trim path.toList
  if text.isEmpty then .error .emptyPath
  else
    let steps := (splitDots text).map trim
    if steps.any List.isEmpty then .error (.emptySegment (.ofList text))
    else .ok (steps.map String.ofList)

/-- The part of a value that one step selects. -/
def Value.child? (step : String) : Value → Option Value
  | .list items => (natural? step.toList).bind (items[·]?)
  | .object fields => Table.get? fields step
  | _ => none

/-- Why a step selects nothing, as the value it was taken from decides. -/
def Value.stepError (path step : String) : Value → PathError
  | .object _ => .missingKey path step
  | .list items => .indexOutOfRange path step items.length
  | .null => .nullSegment path step
  | v => .notTraversable path step v.typeName

def followSteps (path : String) : List String → Value → Except PathError Value
  | [], v => .ok v
  | step :: steps, v =>
    match v.child? step with
    | some child => followSteps path steps child
    | none => .error (v.stepError path step)

/-- The value a path leads to; undefined is possible only through the default. -/
def evaluatePath (path : String) (record : Value) (lookup : Lookup) :
    Except PathError (Option Value) := do
  let steps ← pathSteps path
  match followSteps path steps record with
  | .ok v => .ok (some v)
  | .error e => if lookup.safe then .ok lookup.default else .error e

/-- The syntax of a path, without a record. -/
def validatePath (path : String) : Except PathError Unit :=
  (pathSteps path).map fun _ => ()

end Cartouche
