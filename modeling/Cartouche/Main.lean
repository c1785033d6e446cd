import Cartouche.CommandLine

/-! The program: a run of the command line on the files and the streams of the system. -/
namespace Cartouche
open Decimal

/-- What the system says about a failure, with its number. -/
def numbered (details : String) (code : UInt32) : String :=
  details ++ " (os error " ++ .ofList (digitsOf code.toNat) ++ ")"

def failureText : IO.Error → String
  | .noFileOrDirectory _ code details => numbered details code
  | .permissionDenied _ code details => numbered details code
  | .inappropriateType _ code details => numbered details code
  | .invalidArgument _ code details => numbered details code
  | .resourceExhausted _ code details => numbered details code
  | .userError message => message
  | failure => toString failure

def attempt {α : Type} (action : IO α) : IO (Except String α) := do
  try return .ok (← action)
  catch failure => return .error (failureText failure)

/-- All bytes of a stream behind those that are already read. -/
partial def readBytes (stream : IO.FS.Stream) (bytes : ByteArray) : IO ByteArray := do
  let chunk ← stream.read 65536
  if chunk.isEmpty then return bytes
  readBytes stream (bytes ++ chunk)

/-- Bytes as the text that they spell. -/
def decoded (bytes : Except String ByteArray) : Except String String := do
  match String.fromUTF8? (← bytes) with
  | some text => return text
  | none => throw "stream did not contain valid UTF-8"

def systemFiles : Files IO where
  read path := do
    return decoded (← attempt (IO.FS.withFile path .read (·.readBinToEnd)))
  readInput := do
    let stream ← IO.getStdin
    return decoded (← attempt (readBytes stream .empty))
  write path content := attempt (IO.FS.writeFile path content)

/-- Tells what came of a run. -/
def report (o : Outcome) : IO UInt32 := do
  IO.print o.shown
  o.warnings.forM fun warning => IO.eprintln warning
  match o.failure with
  | some reason => IO.eprintln ("error: " ++ reason.getD "the document cannot be read")
  | none => pure ()
  return o.exitCode

end Cartouche

open Cartouche in
def main (arguments : List String) : IO UInt32 := do
  match Command.parse arguments with
  | .run command => report (← command.run systemFiles)
  | .version =>
    IO.print versionText
    return 0
  | .help =>
    IO.print helpText
    return 0
  | .misuse =>
    IO.eprint helpText
    return 2
