import Cartouche.Diagram

/-! Diagrams for a page that brings a document and, as JSON, a few settings of its own. -/
namespace Cartouche
open Json

/-- What a page may set; what it leaves out stays as it is. -/
structure PageOptions where
  theme : Option String
  fontFamily : Option String
  width : Option Float32
  height : Option Float32
  showBorder : Option Bool

namespace PageOptions

def none : PageOptions :=
  ⟨.none, .none, .none, .none, .none⟩

def reader : Reader PageOptions :=
  .record "struct StylemapOptions" none [
    .of "theme" .optional (.option .string) fun theme o => { o with theme },
    .of "fontFamily" .optional (.option .string) fun fontFamily o => { o with fontFamily },
    .of "width" .optional (.option .real32) fun width o => { o with width },
    .of "height" .optional (.option .real32) fun height o => { o with height },
    .of "showBorder" .optional (.option .bool) fun showBorder o => { o with showBorder }]

/-- A theme that is not known leaves the standard one. -/
def config (o : PageOptions) : Config :=
  let c := Config.standard
  let c := if o.theme = some "classic" then c.withClassicTheme else c
  let c := { c with
    theme := { c.theme with fontFamily := o.fontFamily.getD c.theme.fontFamily }
    showBorder := o.showBorder.getD c.showBorder }
  c.withCanvas (o.width.getD c.width) (o.height.getD c.height)

end PageOptions

inductive PageError where
  | options (fault : Fault)
  | document (error : DocumentError)

def PageError.message? : PageError → Option String
  | .options fault => some (fault.message .json)
  | .document error => error.message?

namespace Page

def options : Option String → Except PageError PageOptions
  | none => .ok .none
  | some settings =>
    match PageOptions.reader.parse settings with
    | .ok o => .ok o
    | .error fault => .error (.options fault)

/-- The diagram of a document under the page's settings, and those settings. -/
def diagram (document : String) (settings : Option String) :
    Except PageError (Config × Diagram) := do
  let o ← options settings
  match Diagram.parse o.config document with
  | .ok d => return (o.config, d)
  | .error error => throw (.document error)

/-- The diagram as JSON. -/
def expand (document : String) (settings : Option String) : Except PageError String :=
  (diagram document settings).map fun (_, d) => d.toJson.line

/-- The legends as a picture. -/
def legends (document : String) (settings : Option String) : Except PageError String :=
  (diagram document settings).map fun (c, d) => d.picture c

end Page

end Cartouche
