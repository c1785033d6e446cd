import Cartouche.Json.Basic
import Cartouche.Text.Quoted

/-!
What can be wrong with a text that is read as JSON: the text itself, or the shape of what it says.
The two are told apart because a text with faulty syntax gets a second reading in a wider format.
-/
namespace Cartouche.Json
open Decimal Text

/-- The two formats a text may be read in; the wider one has unquoted keys, comments and more. -/
inductive Format where
  | json
  | json5
deriving DecidableEq

/-- Where a text stops being JSON. -/
inductive SyntaxFault where
  | endInValue
  | endInNumber
  | endInWord
  | endInList
  | endInObject
  | endInText
  | expectedValue
  | expectedWord
  | expectedColon
  | expectedListEnd
  | expectedObjectEnd
  | invalidNumber
  | numberOutOfRange
  | invalidEscape
  | controlCharacter
  | loneSurrogate
  | unfinishedSurrogate
  | keyNotText
  | trailingComma
  | trailingText
  | tooDeep
deriving DecidableEq

/-- Whether a quoted text is at fault, rather than what stands in its place. -/
def SyntaxFault.isInText : SyntaxFault → Bool
  | .endInText | .invalidEscape | .controlCharacter | .loneSurrogate | .unfinishedSurrogate => true
  | _ => false

def SyntaxFault.message : SyntaxFault → String
  | .endInValue => "EOF while parsing a value"
  | .endInNumber => "EOF while parsing a value"
  | .endInWord => "EOF while parsing a value"
  | .endInList => "EOF while parsing a list"
  | .endInObject => "EOF while parsing an object"
  | .endInText => "EOF while parsing a string"
  | .expectedValue => "expected value"
  | .expectedWord => "expected ident"
  | .expectedColon => "expected `:`"
  | .expectedListEnd => "expected `,` or `]`"
  | .expectedObjectEnd => "expected `,` or `\x7d`"
  | .invalidNumber => "invalid number"
  | .numberOutOfRange => "number out of range"
  | .invalidEscape => "invalid escape"
  | .controlCharacter => "control character (\\u0000-\\u001F) found while parsing a string"
  | .loneSurrogate => "lone leading surrogate in hex escape"
  | .unfinishedSurrogate => "unexpected end of hex escape"
  | .keyNotText => "key must be a string"
  | .trailingComma => "trailing comma"
  | .trailingText => "trailing characters"
  | .tooDeep => "recursion limit exceeded"

/-- What stands where something else was expected. -/
inductive Found where
  | null
  | bool (b : Bool)
  | integer (i : Int)
  | decimal (x : Float)
  | text (s : String)
  | list
  | object

/-- Numbers named in messages of the wider format are positional and keep their point. -/
def positionalForm : Form where
  positional := none
  pointZero := true
  signedZero := true
  tieUp := true
  nan := "NaN"
  infinite := infiniteWord

def Found.describe (format : Format) : Found → String
  | .null => match format with
    | .json => "null"
    | .json5 => "unit value"
  | .bool b => if b then "boolean `true`" else "boolean `false`"
  | .integer i => "integer `" ++ (Json.ofInt i).line ++ "`"
  | .decimal x => match format with
    | .json => "floating point `" ++ form64.write x ++ "`"
    | .json5 => "floating point `" ++ positionalForm.write x ++ "`"
  | .text s => "string " ++ quoted s
  | .list => "sequence"
  | .object => "map"

/-- How a well-written text fails to say what is expected of it. -/
inductive ShapeFault where
  | wrongType (found : Found) (expected : String)
  | wrongValue (found : Found) (expected : String)
  | wrongLength (length : Nat) (expected : String)
  | unknownVariant (name : String) (known : List String)
  | missingField (name : String)
  | duplicateField (name : String)
  | noVariant (type : String)
  | noVariantName
  | emptyVariant
  | unreadableInteger
  | unreadableHex
  | unreadableNumber
  | numberTooLarge
  | missingTrailSurrogate
  | expectedTrailSurrogate
  | unexpectedTrailSurrogate

/-- The names a message offers in place of an unknown one. -/
def alternatives : List String → String
  | [] => "there are no variants"
  | [a] => "expected `" ++ a ++ "`"
  | [a, b] => "expected `" ++ a ++ "` or `" ++ b ++ "`"
  | names => "expected one of " ++ ", ".intercalate (names.map fun name => "`" ++ name ++ "`")

def ShapeFault.message (format : Format) : ShapeFault → String
  | .wrongType found expected =>
    "invalid type: " ++ found.describe format ++ ", expected " ++ expected
  | .wrongValue found expected =>
    "invalid value: " ++ found.describe format ++ ", expected " ++ expected
  | .wrongLength length expected =>
    "invalid length " ++ .ofList (digitsOf length) ++ ", expected " ++ expected
  | .unknownVariant name known => "unknown variant `" ++ name ++ "`, " ++ alternatives known
  | .missingField name => "missing field `" ++ name ++ "`"
  | .duplicateField name => "duplicate field `" ++ name ++ "`"
  | .noVariant type => "data did not match any variant of untagged enum " ++ type
  | .noVariantName => "expected a string or an object"
  | .emptyVariant => "expected a nonempty object"
  | .unreadableInteger => "error parsing integer"
  | .unreadableHex => "error parsing hex"
  | .unreadableNumber => "error parsing number"
  | .numberTooLarge => "error parsing number: too large"
  | .missingTrailSurrogate => "missing unicode trail surrogate"
  | .expectedTrailSurrogate => "expecting unicode trail surrogate"
  | .unexpectedTrailSurrogate => "unexpected unicode trail surrogate"

inductive Fault where
  | syntactic (fault : SyntaxFault)
  | shape (fault : ShapeFault)

namespace Fault

def message (format : Format) : Fault → String
  | .syntactic fault => fault.message
  | .shape fault => fault.message format

/-- Whether the text itself is at fault. -/
def isSyntactic : Fault → Bool
  | .syntactic _ => true
  | .shape _ => false

end Fault

end Cartouche.Json
