import Cartouche.Data.Path
import Cartouche.Style.Range

/-!
Style mappings: by category, along a scale, or by thresholds. A mapping is checked when it is made,
so that it gives a style for every value, unless an unmatched category is meant to have none.
-/
namespace Cartouche
open Decimal Text

inductive MappingKind where
  | category
  | scale
  | threshold
deriving DecidableEq

def MappingKind.name : MappingKind → String
  | .category => "category"
  | .scale => "scale"
  | .threshold => "threshold"

/-- Why a mapping cannot be made, or cannot be asked. -/
inductive MappingError where
  | kindMismatch (expected found : MappingKind)
  | emptyThresholds
  | invalidBreakpoint (value : Float)
  | invalidDomain (low high : Float)
  | invalidRange (first last : String)
  | emptyField
  | invalidField (cause : PathError)

/-- Numbers in messages, where zero keeps its sign. -/
def signedForm : Form :=
  { labelForm with signedZero := true }

def MappingError.message : MappingError → String
  | .kindMismatch expected found =>
    "expected a " ++ expected.name ++ " mapping, found a " ++ found.name ++ " mapping"
  | .emptyThresholds => "threshold mapping needs at least one breakpoint"
  | .invalidBreakpoint value =>
    "threshold breakpoint value must be finite, got " ++ signedForm.write value
  | .invalidDomain low high =>
    "scale domain [" ++ signedForm.write low ++ ", " ++ signedForm.write high ++ "] is invalid"
  | .invalidRange first last =>
    "scale range [" ++ quoted first ++ ", " ++ quoted last ++
      "] must be two numbers or two #rrggbb colors"
  | .emptyField => "mapping field is empty"
  | .invalidField cause => "invalid mapping field: " ++ cause.message

/-- What an unmatched category gets. -/
inductive Fallback where
  | style (value : StyleValue)
  | omitted

structure CategoryMapping where
  property : String
  field : String
  entries : Table StyleValue
  fallback : Fallback

structure ScaleMapping (α : Type) where
  property : String
  field : String
  low : α
  high : α
  range : ScaleRange α

structure Breakpoint where
  value : Float
  style : StyleValue

structure ThresholdMapping where
  property : String
  field : String
  /-- From the highest to the lowest. -/
  breakpoints : List Breakpoint

/-- The path of a mapping's field, without blanks around it. -/
def checkField (field : String) : Except MappingError String := do
  let field := trimmed field
  if field.isEmpty then throw .emptyField
  match validatePath field with
  | .ok () => return field
  | .error cause => throw (.invalidField cause)

namespace CategoryMapping

def make (property field : String) (entries : Table StyleValue) (fallback : Fallback) :
    Except MappingError CategoryMapping := do
  return { property, field := ← checkField field, entries, fallback }

/-- The style of the value's text, undefined counting as empty. -/
def resolve (m : CategoryMapping) (value : Option Value) : Option StyleValue :=
  match m.entries.get? ((value.map Value.display).getD "") with
  | some style => some style
  | none =>
    match m.fallback with
    | .style style => some style
    | .omitted => none

end CategoryMapping

/-- Undefined values count as zero. -/
def inputNumber (value : Option Value) : Float :=
  (value.map Value.toNumber).getD 0

namespace ScaleMapping

def make (property field : String) (low high : Float) (range : ScaleRange Float) :
    Except MappingError (ScaleMapping Float) := do
  let field ← checkField field
  if !low.isFinite || !high.isFinite || high < low then throw (.invalidDomain low high)
  return { property, field, low, high, range }

section Interpolation
variable {α : Type} [Add α] [Sub α] [Mul α] [Div α] [OfNat α 0] [OfNat α 1] [LT α] [LE α]
  [DecidableLT α] [DecidableLE α]

omit [Add α] [Mul α] [OfNat α 1] [LE α] [DecidableLE α] in
def position (m : ScaleMapping α) (x : α) : α :=
  Cartouche.position m.low m.high x

/-- What the range has at the position of a number in the domain. -/
def interpolated [Blending α] (m : ScaleMapping α) (x : α) : Interpolated α :=
  m.range.at (m.position x)

end Interpolation

def resolveNumber (m : ScaleMapping Float) (x : Float) : StyleValue :=
  (m.interpolated x).style

def resolve (m : ScaleMapping Float) (value : Option Value) : StyleValue :=
  m.resolveNumber (inputNumber value)

end ScaleMapping

/-- Whether a breakpoint stands before another: higher values first, and of the two zeros the one
without a sign. -/
def Breakpoint.before (a b : Breakpoint) : Bool :=
  b.value < a.value ||
    (a.value == b.value && !(a.value.toBits >>> 63 == 1 && b.value.toBits >>> 63 == 0))

namespace ThresholdMapping

def make (property field : String) (breakpoints : List Breakpoint) :
    Except MappingError ThresholdMapping := do
  let field ← checkField field
  if breakpoints.isEmpty then throw .emptyThresholds
  match breakpoints.find? (!·.value.isFinite) with
  | some bad => throw (.invalidBreakpoint bad.value)
  | none => return { property, field, breakpoints := breakpoints.mergeSort Breakpoint.before }

/-- The style of the highest breakpoint that is reached, or of the lowest one. -/
def resolveNumber (m : ThresholdMapping) (x : Float) : StyleValue :=
  match m.breakpoints.find? (·.value ≤ x) with
  | some b => b.style
  | none => (m.breakpoints.getLast?.map Breakpoint.style).getD (.text "")

def resolve (m : ThresholdMapping) (value : Option Value) : StyleValue :=
  m.resolveNumber (inputNumber value)

end ThresholdMapping

inductive StyleMapping where
  | category (m : CategoryMapping)
  | scale (m : ScaleMapping Float)
  | threshold (m : ThresholdMapping)

namespace StyleMapping

def kind : StyleMapping → MappingKind
  | .category _ => .category
  | .scale _ => .scale
  | .threshold _ => .threshold

/-- The style property that is set. -/
def property : StyleMapping → String
  | .category m => m.property
  | .scale m => m.property
  | .threshold m => m.property

/-- The path of the record's field that decides. -/
def field : StyleMapping → String
  | .category m => m.field
  | .scale m => m.field
  | .threshold m => m.field

def resolve (value : Option Value) : StyleMapping → Option StyleValue
  | .category m => m.resolve value
  | .scale m => some (m.resolve value)
  | .threshold m => some (m.resolve value)

/-- As a mapping of one kind, which any other refuses to be. -/
def resolveCategory (value : Option Value) : StyleMapping → Except MappingError (Option StyleValue)
  | .category m => .ok (m.resolve value)
  | m => .error (.kindMismatch .category m.kind)

def resolveScale (value : Option Value) : StyleMapping → Except MappingError StyleValue
  | .scale m => .ok (m.resolve value)
  | m => .error (.kindMismatch .scale m.kind)

def resolveThreshold (value : Option Value) : StyleMapping → Except MappingError StyleValue
  | .threshold m => .ok (m.resolve value)
  | m => .error (.kindMismatch .threshold m.kind)

end StyleMapping

end Cartouche
