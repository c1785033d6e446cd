import Cartouche.Diagram

/-!
The command line: its options, the settings they lead to, and what a run writes and where. Files
are read and written by who calls; here a run is a function of their contents.
-/
namespace Cartouche
open Decimal

inductive OutputFormat where
  | json
  | svg
  | png
deriving DecidableEq

def OutputFormat.words : List (String × OutputFormat) :=
  [("json", .json), ("svg", .svg), ("png", .png)]

structure Command where
  input : Option String
  output : Option String
  format : Option OutputFormat
  config : Option String
  width : Option Float32
  height : Option Float32

def Command.empty : Command :=
  ⟨none, none, none, none, none, none⟩

/-- What a list of arguments asks for. -/
inductive Request where
  | run (command : Command)
  | version
  | help
  | misuse

/-- Options that take a value. -/
inductive OptionName where
  | input
  | output
  | format
  | config
  | width
  | height
deriving DecidableEq

namespace OptionName

def ofLetter? (c : Char) : Option OptionName :=
  if c = 'i' then some .input
  else if c = 'o' then some .output
  else if c = 'e' then some .format
  else if c = 'c' then some .config
  else if c = 'w' then some .width
  else if c = 'H' then some .height
  else none

def ofWord? (word : String) : Option OptionName :=
  if word = "input" then some .input
  else if word = "output" then some .output
  else if word = "outputFormat" then some .format
  else if word = "configFile" then some .config
  else if word = "width" then some .width
  else if word = "height" then some .height
  else none

end OptionName

namespace Command

/-- Sets an option that is not set yet; a path must not be empty. -/
def setPath (value : String) (current : Option String) : Option (Option String) :=
  if current.isSome || value.isEmpty then none else some (some value)

def setSize (value : String) (current : Option Float32) : Option (Option Float32) :=
  if current.isSome then none else (read? value.toList).map some

def set? (c : Command) (name : OptionName) (value : String) : Option Command :=
  match name with
  | .input => (setPath value c.input).map fun input => { c with input }
  | .output => (setPath value c.output).map fun output => { c with output }
  | .config => (setPath value c.config).map fun config => { c with config }
  | .format =>
    if c.format.isSome then none
    else (OutputFormat.words.lookup value).map fun format => { c with format := some format }
  | .width => (setSize value c.width).map fun width => { c with width }
  | .height => (setSize value c.height).map fun height => { c with height }

/-- Whether an argument can be the value of the option before it. -/
def isValue (argument : String) : Bool :=
  argument == "-" || argument.toList.head? != some '-'

def dropEquals (value : List Char) : String :=
  .ofList (match value with
    | '=' :: rest => rest
    | value => value)

/-- Reads arguments from first to last and stops at the first that decides. -/
def parseFrom (c : Command) : List String → Request
  | [] => .run c
  | argument :: rest =>
    match argument.toList with
    | ['-', '-'] => if rest.isEmpty then .run c else .misuse
    | '-' :: '-' :: word =>
      let (name, value) := word.span (· != '=')
      match OptionName.ofWord? (.ofList name), value with
      | some option, _ :: value =>
        match c.set? option (.ofList value) with
        | some c => parseFrom c rest
        | none => .misuse
      | some option, [] => takeValue c option rest
      | none, [] =>
        if name = "version".toList then .version
        else if name = "help".toList then .help
        else .misuse
      | none, _ :: _ => .misuse
    | '-' :: letter :: value =>
      match OptionName.ofLetter? letter with
      | some option =>
        if value.isEmpty then takeValue c option rest
        else match c.set? option (dropEquals value) with
          | some c => parseFrom c rest
          | none => .misuse
      | none => if letter = 'V' then .version else if letter = 'h' then .help else .misuse
    | _ => .misuse
where
  /-- The value of an option in the argument after it. -/
  takeValue (c : Command) (option : OptionName) : List String → Request
    | [] => .misuse
    | value :: rest =>
      if isValue value then
        match c.set? option value with
        | some c => parseFrom c rest
        | none => .misuse
      else .misuse

def parse (arguments : List String) : Request :=
  parseFrom .empty arguments

/-- The settings with the canvas of the command line, which must be positive. -/
def resolveConfig (c : Command) (base : Config) : Except String Config :=
  if c.width.isNone && c.height.isNone then .ok base
  else
    let width := c.width.getD base.width
    let height := c.height.getD base.height
    if 0 < width ∧ 0 < height then .ok (base.withCanvas width height)
    else .error ("Canvas size must be positive, got " ++ sizeText width ++ "x" ++ sizeText height)

/-- The settings of a run, with the contents of its settings file if it names one. -/
def settings (c : Command) (file : Option String) : Except String Config :=
  match file with
  | none => c.resolveConfig .standard
  | some text =>
    match Config.parse text with
    | .ok base => c.resolveConfig base
    | .error error => .error error.message

end Command

/-- What a run shows, and why it failed if it did; for some failures there is no reason to tell. -/
structure Outcome where
  shown : String
  warnings : List String
  failure : Option (Option String)

def Outcome.failed (warnings : List String) (reason : Option String) : Outcome :=
  ⟨"", warnings, some reason⟩

def Outcome.exitCode (o : Outcome) : UInt32 :=
  if o.failure.isSome then 1 else 0

def Diagnostic.warning (d : Diagnostic) : String :=
  let place := "warning: template `" ++ d.template ++ "`, record " ++ .ofList (digitsOf d.record)
  match d.property with
  | some property => place ++ ", `" ++ property ++ "`: " ++ d.message
  | none => place ++ ": " ++ d.message

/-- Where a run reads and writes; what fails says why. -/
structure Files (m : Type → Type) where
  read : String → m (Except String String)
  readInput : m (Except String String)
  write : String → String → m (Except String Unit)

namespace Command
variable {m : Type → Type} [Monad m] (files : Files m)

/-- Shows a text, or writes it where the command says; only what is shown gets the line's end. -/
def put (c : Command) (warnings : List String) (text lineEnd : String) : m Outcome :=
  match c.output with
  | none => return ⟨text ++ lineEnd, warnings, none⟩
  | some path => do
    match ← files.write path text with
    | .ok () => return ⟨"", warnings, none⟩
    | .error reason => return .failed warnings reason

/-- Writes a diagram in the format of the command; its warnings are told beside pictures alone. -/
def putDiagram (c : Command) (config : Config) (d : Diagram) : m Outcome :=
  let warnings := d.diagnostics.map Diagnostic.warning
  match c.format.getD .json with
  | .json => c.put files [] d.toJson.lines "\n"
  | .svg => c.put files warnings (d.picture config) ""
  | .png =>
    return .failed warnings (if c.output.isSome then "PNG output is not available"
      else "Output path required for png output")

/-- The settings file, if the command names one. -/
def readSettings (c : Command) : m (Except String (Option String)) :=
  match c.config with
  | none => return .ok none
  | some path => do return (← files.read path).map some

def readDocument (c : Command) : m (Except String String) :=
  match c.input with
  | none => files.readInput
  | some path => if path = "-" then files.readInput else files.read path

/-- The settings are read before the document, and what is wrong first ends the run. -/
def run (c : Command) : m Outcome := do
  match (← c.readSettings files).bind c.settings with
  | .error reason => return .failed [] reason
  | .ok config =>
    match ← c.readDocument files with
    | .error reason => return .failed [] reason
    | .ok document =>
      match Diagram.parse config document with
      | .error error => return .failed [] error.message?
      | .ok d => c.putDiagram files config d

end Command

def versionText : String := "stylemap 0.1.0\n"

def helpText : String :=
  "Expand data-driven diagram templates and synthesize style legends\n\n" ++
  "Usage: stylemap [OPTIONS]\n\nOptions:\n" ++
  "  -i, --input <INPUT>                 Input document, or - for the standard input\n" ++
  "  -o, --output <OUTPUT>               Output file; without one, the standard output\n" ++
  "  -e, --outputFormat <OUTPUT_FORMAT>  json (the default), svg or png\n" ++
  "  -c, --configFile <CONFIG>           Settings file\n" ++
  "  -w, --width <WIDTH>                 Canvas width used to place legends\n" ++
  "  -H, --height <HEIGHT>               Canvas height used to place legends\n" ++
  "  -h, --help                          Print help\n" ++
  "  -V, --version                       Print version\n"

end Cartouche
