import Cartouche.CommandLine
import Cartouche.Embedding
import Cartouche.Proofs.JsonWriting
import Cartouche.Proofs.Outcome

/-!
A page and the command line, asked for the same theme, font, border and canvas. Each works its
settings out in its own way; from there on both make the diagram of the document, and a diagram has
one picture and one JSON tree, on one line or on several. The ways part at the second name of the
classic theme, which only the command line knows.
-/
namespace Cartouche
open Json Decimal

/-! All numbers in the JSON of a diagram have texts that readers take. -/

variable {rounding : Rounding}

theorem StyleValue.readable_toJson (s : StyleValue) : s.toJson.Readable rounding := by
  cases s with
  | number n =>
    change (numberJson n).Readable rounding
    unfold numberJson
    split
    · split
      · next i _ hle =>
        exact readable_ofInt (Nat.le_trans hle (by decide))
      · exact readable_ofFloat n
    · exact readable_ofFloat n
  | text s => exact .text s

theorem readable_optionalText (key : String) (text : Option String) :
    ∀ field ∈ optionalField key (text.map .text), field.2.Readable rounding := by
  refine readable_optionalField ?_
  cases text with
  | none => simp
  | some s =>
    rintro _ ⟨rfl⟩
    exact .text s

theorem Element.readable_toJson (e : Element) : e.toJson.Readable rounding := by
  have hstyle : (styleJson e.style).Readable rounding :=
    .object (List.forall_mem_map.mpr fun property _ => property.2.readable_toJson)
  unfold toJson
  split
  · refine .object ?_
    simp only [List.forall_mem_append, List.forall_mem_cons]
    exact ⟨⟨⟨.text _, .text _, .text _, by simp⟩, readable_optionalText _ _⟩, .text _, hstyle,
      .text _, by simp⟩
  · refine .object ?_
    simp only [List.forall_mem_append, List.forall_mem_cons]
    exact ⟨⟨⟨.text _, .text _, .text _, .text _, by simp⟩, readable_optionalText _ _⟩, .text _,
      hstyle, .text _, by simp⟩

theorem Diagnostic.readable_toJson (d : Diagnostic) : d.toJson.Readable rounding := by
  refine .object ?_
  simp only [List.forall_mem_append, List.forall_mem_cons]
  exact ⟨⟨⟨.text _, readable_ofNat _, by simp⟩, readable_optionalText _ _⟩, .text _, by simp⟩

theorem Legend.readable_entryJson (e : LegendEntry) : (entryJson e).Readable rounding := by
  have hvalue : ∀ json ∈ e.value.map ofFloat, Readable rounding json := by
    cases e.value with
    | none => simp
    | some x =>
      rintro _ ⟨rfl⟩
      exact readable_ofFloat x
  refine .object ?_
  simp only [List.forall_mem_append, List.forall_mem_cons]
  exact ⟨⟨.text _, .text _, by simp⟩, readable_optionalField hvalue⟩

theorem Legend.readable_toJson (l : Legend) : l.toJson.Readable rounding := by
  have hbounds : (boundsJson l.bounds).Readable rounding := by
    refine .object ?_
    simp only [List.forall_mem_cons]
    exact ⟨readable_ofFloat32 _, readable_ofFloat32 _, readable_ofFloat32 _, readable_ofFloat32 _,
      by simp⟩
  refine .object ?_
  simp only [List.forall_mem_cons]
  exact ⟨.text _, .text _, .text _, .text _,
    .list (List.forall_mem_map.mpr fun e _ => readable_entryJson e), .text _, hbounds, by simp⟩

theorem Diagram.readable_toJson (d : Diagram) : d.toJson.Readable rounding := by
  refine .object ?_
  simp only [List.forall_mem_cons]
  exact ⟨.list (List.forall_mem_map.mpr fun e _ => e.readable_toJson),
    .list (List.forall_mem_map.mpr fun d _ => d.readable_toJson),
    .list (List.forall_mem_map.mpr fun l _ => l.readable_toJson), by simp⟩

theorem isGap_newline : IsGap "\n".toList := by
  simp [IsGap, isSpace]

/-- On several lines, the last one ended, a diagram reads as it does on one. -/
theorem Diagram.read_lines_eq (d : Diagram) (rounding : Rounding) :
    read rounding (d.toJson.lines ++ "\n").toList = read rounding d.toJson.line.toList :=
  (read_lines d.readable_toJson isGap_newline).trans (read_line d.readable_toJson).symm

/-! Settings. -/

/-- A part of a settings file that says at most which font to use. -/
def ThemeFile.ofFont (font : Option String) : ThemeFile :=
  ⟨font, none, none, none, none, none⟩

/-- A part of a settings file that says at most whether legends have a border. -/
def LegendFile.ofBorder (border : Option Bool) : LegendFile :=
  ⟨none, none, none, none, none, none, none, none, none, none, border⟩

/-- The settings of a page, and a settings file that asks for the same theme, font and border and
for nothing else. -/
structure AskedAlike (asked : PageOptions) (settings file : String) : Prop where
  page : PageOptions.reader.parse settings = .ok asked
  file : ∃ theme legend,
    ConfigFile.reader.parse file = .ok ⟨asked.theme, theme, none, legend⟩ ∧
    theme.getD (.ofFont none) = .ofFont asked.fontFamily ∧
    legend.getD (.ofBorder none) = .ofBorder asked.showBorder

/-- A page and a command that ask for the same positive canvas. -/
structure CanvasAlike (asked : PageOptions) (c : Command) (width height : Float32) : Prop where
  across : asked.width = some width ∧ c.width = some width
  down : asked.height = some height ∧ c.height = some height
  positive : 0 < width ∧ 0 < height

variable {asked : PageOptions} {settings file : String} {c : Command} {width height : Float32}

/-- The font, the border and the canvas that a page asks for, on settings it begins with. -/
def PageOptions.adjust (o : PageOptions) (base : Config) : Config :=
  { base with
    theme := { base.theme with fontFamily := o.fontFamily.getD base.theme.fontFamily }
    showBorder := o.showBorder.getD base.showBorder }.withCanvas
      (o.width.getD base.width) (o.height.getD base.height)

/-- The page begins with the theme that the command line begins with, save under its second
name for the classic one. -/
theorem config_eq_adjust {base : Config} (h : Config.standard.withTheme asked.theme = .ok base)
    (hname : asked.theme ≠ some "default") : asked.config = asked.adjust base := by
  have hconfig : asked.config = asked.adjust
      (if asked.theme = some "classic" then Config.standard.withClassicTheme else .standard) := by
    rw [PageOptions.config, PageOptions.adjust]
  cases htheme : asked.theme with
  | none =>
    rw [htheme] at h hconfig
    rw [hconfig, if_neg nofun]
    exact congrArg asked.adjust (Except.ok.inj h)
  | some name =>
    rw [htheme, Config.withTheme] at h
    split at h
    · next hmodern =>
      rw [hconfig, htheme, hmodern, if_neg (by decide)]
      exact congrArg asked.adjust (Except.ok.inj h)
    · split at h
      · next hclassic =>
        obtain rfl : name = "classic" :=
          hclassic.resolve_right fun hd => hname (htheme.trans (congrArg some hd))
        rw [hconfig, htheme, if_pos rfl]
        exact congrArg asked.adjust (Except.ok.inj h)
      · cases h

theorem apply_ofFont {theme : Option ThemeFile} {font : Option String}
    (h : theme.getD (.ofFont none) = .ofFont font) (t : Theme) :
    (theme.map (·.apply t)).getD t = { t with fontFamily := font.getD t.fontFamily } := by
  cases theme with
  | none =>
    obtain rfl : none = font := congrArg ThemeFile.fontFamily h
    rfl
  | some file =>
    obtain rfl : file = .ofFont font := h
    rfl

theorem apply_ofBorder {legend : Option LegendFile} {border : Option Bool}
    (h : legend.getD (.ofBorder none) = .ofBorder border) (m : Metrics Float32) :
    (legend.map (·.apply m)).getD m = m := by
  cases legend with
  | none => rfl
  | some file =>
    obtain rfl : file = .ofBorder border := h
    rfl

theorem showBorder_ofBorder {legend : Option LegendFile} {border : Option Bool}
    (h : legend.getD (.ofBorder none) = .ofBorder border) :
    legend.bind (·.showBorder) = border := by
  cases legend with
  | none => exact congrArg LegendFile.showBorder h
  | some file =>
    obtain rfl : file = .ofBorder border := h
    rfl

/-- The command line comes to its theme with what the page asks for. -/
theorem settings_eq_adjust (h : AskedAlike asked settings file) {base : Config}
    (hbase : Config.standard.withTheme asked.theme = .ok base)
    (hcanvas : CanvasAlike asked c width height) :
    c.settings (some file) = .ok (asked.adjust base) := by
  obtain ⟨theme, legend, hfile, hfont, hborder⟩ := h.file
  have hparse : Config.parse file = .ok { base with
      theme := { base.theme with fontFamily := asked.fontFamily.getD base.theme.fontFamily }
      showBorder := asked.showBorder.getD base.showBorder
      width := base.metrics.canvasWidth
      height := base.metrics.canvasHeight } := by
    rw [Config.parse, hfile]
    dsimp only
    rw [Config.overlay, hbase, ok_bind]
    dsimp only
    rw [apply_ofFont hfont, apply_ofBorder hborder, showBorder_ofBorder hborder]
    rfl
  rw [Command.settings, hparse]
  dsimp only
  rw [Command.resolveConfig, hcanvas.across.2, hcanvas.down.2]
  simp only [Option.isNone_some, Bool.and_self, Bool.false_eq_true, if_false, Option.getD_some,
    if_pos hcanvas.positive]
  rw [PageOptions.adjust, hcanvas.across.1, hcanvas.down.1]
  rfl

/-! Runs. -/

/-- What the command line reads: its settings file and its document. -/
structure Serves (files : Files Id) (c : Command) (file document : String) : Prop where
  settings : (c.readSettings files).run = .ok (some file)
  document : (c.readDocument files).run = .ok document

/-- A run that is asked for a format. -/
def Command.outcome (c : Command) (files : Files Id) (format : OutputFormat) : Outcome :=
  ({ c with format := some format }.run files).run

/-- A page and the command line fail on the same documents; on any other, they write the JSON of
one diagram, from which readers get the same, and the same picture. -/
structure FrontsAgree (files : Files Id) (c : Command) (document settings : String) : Prop where
  expands : (∃ text, Page.expand document (some settings) = .ok text) ↔
    (c.outcome files .json).failure = none
  draws : (∃ text, Page.legends document (some settings) = .ok text) ↔
    (c.outcome files .svg).failure = none
  diagram {text : String} (h : Page.expand document (some settings) = .ok text) :
    ∃ d : Diagram, text = d.toJson.line ∧ (c.outcome files .json).shown = d.toJson.lines ++ "\n"
  tree {text : String} (h : Page.expand document (some settings) = .ok text) (rounding : Rounding) :
    read rounding text.toList = read rounding (c.outcome files .json).shown.toList
  picture {text : String} (h : Page.legends document (some settings) = .ok text) :
    (c.outcome files .svg).shown = text

variable {files : Files Id} {document : String} {config : Config}

/-- A run, its steps one after the other. -/
theorem Command.run_eq (c : Command) :
    (c.run files).run = match (c.readSettings files).run.bind c.settings with
      | .error reason => .failed [] reason
      | .ok config => match (c.readDocument files).run with
        | .error reason => .failed [] reason
        | .ok document => match Diagram.parse config document with
          | .error error => .failed [] error.message?
          | .ok d => (c.putDiagram files config d).run := rfl

/-- With its settings settled, a run is that of their diagram. -/
theorem outcome_eq (hserves : Serves files c file document)
    (hsettings : c.settings (some file) = .ok config) (format : OutputFormat) :
    c.outcome files format = match Diagram.parse config document with
      | .error error => .failed [] error.message?
      | .ok d => ({ c with format := some format }.putDiagram files config d).run := by
  have hfile : ({ c with format := some format }.readSettings files).run = .ok (some file) :=
    hserves.settings
  have hdocument : ({ c with format := some format }.readDocument files).run = .ok document :=
    hserves.document
  have hsettled : { c with format := some format }.settings (some file) = .ok config := hsettings
  rw [Command.outcome, Command.run_eq, hfile, hdocument, Except.bind, hsettled]

theorem diagram_eq (h : AskedAlike asked settings file) :
    Page.diagram document (some settings) = match Diagram.parse asked.config document with
      | .error error => .error (.document error)
      | .ok d => .ok (asked.config, d) := by
  have hoptions : Page.options (some settings) = .ok asked := by
    rw [Page.options, h.page]
  rw [Page.diagram, hoptions, ok_bind]
  cases Diagram.parse asked.config document <;> rfl

theorem outcome_json (hserves : Serves files c file document)
    (hsettings : c.settings (some file) = .ok config) (hshown : c.output = none) :
    c.outcome files .json = match Diagram.parse config document with
      | .error error => .failed [] error.message?
      | .ok d => ⟨d.toJson.lines ++ "\n", [], none⟩ := by
  rw [outcome_eq hserves hsettings]
  cases Diagram.parse config document with
  | error error => rfl
  | ok d => simp [Command.putDiagram, Command.put, hshown]

theorem outcome_svg (hserves : Serves files c file document)
    (hsettings : c.settings (some file) = .ok config) (hshown : c.output = none) :
    c.outcome files .svg = match Diagram.parse config document with
      | .error error => .failed [] error.message?
      | .ok d => ⟨d.picture config, d.diagnostics.map Diagnostic.warning, none⟩ := by
  rw [outcome_eq hserves hsettings]
  cases Diagram.parse config document with
  | error error => rfl
  | ok d => simp [Command.putDiagram, Command.put, hshown]

theorem expand_eq (h : AskedAlike asked settings file) (document : String) :
    Page.expand document (some settings) = match Diagram.parse asked.config document with
      | .error error => .error (.document error)
      | .ok d => .ok d.toJson.line := by
  rw [Page.expand, diagram_eq h]
  cases Diagram.parse asked.config document <;> rfl

theorem legends_eq (h : AskedAlike asked settings file) (document : String) :
    Page.legends document (some settings) = match Diagram.parse asked.config document with
      | .error error => .error (.document error)
      | .ok d => .ok (d.picture asked.config) := by
  rw [Page.legends, diagram_eq h]
  cases Diagram.parse asked.config document <;> rfl

theorem frontsAgree (h : AskedAlike asked settings file) (hserves : Serves files c file document)
    (hsettings : c.settings (some file) = .ok asked.config) (hshown : c.output = none) :
    FrontsAgree files c document settings := by
  have hjson := outcome_json hserves hsettings hshown
  have hsvg := outcome_svg hserves hsettings hshown
  have hexpand := expand_eq h document
  have hlegends := legends_eq h document
  cases hparse : Diagram.parse asked.config document with
  | error error =>
    rw [hparse] at hjson hsvg hexpand hlegends
    constructor <;> simp [hexpand, hlegends, hjson, hsvg, Outcome.failed]
  | ok d =>
    rw [hparse] at hjson hsvg hexpand hlegends
    dsimp only at hjson hsvg hexpand hlegends
    constructor
    case expands => simp [hexpand, hjson]
    case draws => simp [hlegends, hsvg]
    case diagram =>
      intro text htext
      exact ⟨d, Except.ok.inj (htext.symm.trans hexpand), congrArg Outcome.shown hjson⟩
    case tree =>
      intro text htext rounding
      obtain rfl : text = d.toJson.line := Except.ok.inj (htext.symm.trans hexpand)
      rw [hjson]
      exact (d.read_lines_eq rounding).symm
    case picture =>
      intro text htext
      exact (congrArg Outcome.shown hsvg).trans (Except.ok.inj (hlegends.symm.trans htext))

/-! Under its second name the classic theme brings the command line another palette. -/

/-- A document of one element, filled with the first colour of the palette. -/
def tile : Json :=
  let fill : Json :=
    .object [("kind", .text "category"), ("field", .text "k"), ("categories", .list [.text "a"])]
  let node : Json := .object [("label", .text "tile"), ("style", .object [("fill", fill)])]
  .object [("sources", .object [("s", .list [.object [("k", .text "a")]])]),
    ("templates",
      .list [.object [("id", .text "t"), ("from", .text "s"), ("nodes", .list [node])]])]

def tiled (fill : String) : Diagram :=
  ⟨[⟨"t-1", .node "tile" none .rectangle, [("fill", .text fill)], "t"⟩], [], []⟩

theorem expandAll_tile : ∀ palette ∈ [Palette.classic, .tableau],
    ∃ d, Document.parse palette tile.line = .ok d ∧ d.legends.isEmpty ∧
      ∃ e, expandAll d.sources d.templates = .ok e ∧
        (Diagram.mk e.elements e.diagnostics []).toJson.compact =
          (tiled (palette.color 0)).toJson.compact := by
  decide +kernel

theorem parse_tile (config : Config) (h : config.palette ∈ [Palette.classic, .tableau]) :
    ∃ d, Diagram.parse config tile.line = .ok d ∧
      d.toJson.line = (tiled (config.palette.color 0)).toJson.line := by
  obtain ⟨document, hdocument, hlegends, e, he, hjson⟩ := expandAll_tile _ h
  have hexpand : document.expand config.metrics = .ok ⟨e.elements, e.diagnostics, []⟩ := by
    rw [Document.expand, he, ok_bind, List.isEmpty_iff.mp hlegends]
    rfl
  refine ⟨⟨e.elements, e.diagnostics, []⟩, ?_, congrArg String.ofList hjson⟩
  rw [Diagram.parse, hdocument, ok_bind, hexpand]
  rfl

/-- Readers of the two tiles get different fills. -/
theorem read_tiled_ne :
    read .stepwise (tiled (Palette.tableau.color 0)).toJson.line.toList ≠
      read .stepwise (tiled (Palette.classic.color 0)).toJson.line.toList := by
  intro h
  rw [read_line (Diagram.readable_toJson _), read_line (Diagram.readable_toJson _)] at h
  have hfills := congrArg (fun reading => (Value.ofNode reading.1).toJson.compact) h
  revert hfills
  decide +kernel

theorem not_frontsAgree_tile (h : AskedAlike asked settings file)
    (hname : asked.theme = some "default") (hcanvas : CanvasAlike asked c width height)
    (hshown : c.output = none)
    (hserves : Serves files c file tile.line) : ¬FrontsAgree files c tile.line settings := by
  intro hagree
  have hbase : Config.standard.withTheme asked.theme = .ok Config.standard.withClassicTheme := by
    rw [hname]
    rfl
  have hpage : asked.config.palette = .tableau := by
    rw [PageOptions.config, hname]
    rfl
  obtain ⟨d, hd, hline⟩ := parse_tile asked.config (by simp [hpage])
  obtain ⟨d', hd', hline'⟩ :=
    parse_tile (asked.adjust Config.standard.withClassicTheme) List.mem_cons_self
  have hexpand := expand_eq h tile.line
  have hjson := outcome_json hserves (settings_eq_adjust h hbase hcanvas) hshown
  rw [hd] at hexpand
  rw [hd'] at hjson
  have htree := hagree.tree hexpand .stepwise
  rw [hjson, d'.read_lines_eq, hline, hline', hpage] at htree
  exact read_tiled_ne htree

/-- A page and the command line that are asked for the same theme, font, border and positive canvas
agree on every document exactly if the theme does not go by its second name: the command line
takes `default` for the classic theme and its colours, and the page stays as it is. -/
theorem fronts_agree_iff (hasked : AskedAlike asked settings file)
    (haccepted : ∃ base, Config.standard.withTheme asked.theme = .ok base)
    (hcanvas : CanvasAlike asked c width height) (hshown : c.output = none)
    {files : String → Files Id}
    (hserves : ∀ document, Serves (files document) c file document) :
    (∀ document, FrontsAgree (files document) c document settings) ↔
      asked.theme ≠ some "default" := by
  constructor
  · intro hagree hname
    exact not_frontsAgree_tile hasked hname hcanvas hshown (hserves tile.line) (hagree tile.line)
  · intro hname document
    obtain ⟨base, hbase⟩ := haccepted
    have hsettings := settings_eq_adjust hasked hbase hcanvas
    rw [← config_eq_adjust hbase hname] at hsettings
    exact frontsAgree hasked (hserves document) hsettings hshown

/-! A page and a command line that ask for a theme, a font, no border and a canvas. -/

deriving instance DecidableEq for PageOptions
deriving instance DecidableEq for ThemeFile, PaletteFile, Length, LegendFile, ConfigFile

def poster (theme : String) : PageOptions :=
  ⟨some theme, some "Arial", some 640, some 480, some false⟩

def posterSettings (theme : String) : String :=
  (Json.object [("theme", .text theme), ("fontFamily", .text "Arial"), ("width", .number "640"),
    ("height", .number "480"), ("showBorder", .bool false)]).line

def posterFile (theme : String) : String :=
  (Json.object [("theme", .text theme),
    ("themeVariables", .object [("fontFamily", .text "Arial")]),
    ("legend", .object [("showBorder", .bool false)])]).line

def posterCommand : Command :=
  ⟨none, none, none, some "settings.json", some 640, some 480⟩

/-- A settings file on the disk, and a document that comes in. -/
def posterFiles (file document : String) : Files Id where
  read path := if path = "settings.json" then .ok file else .error "not found"
  readInput := Except.ok document
  write _ _ := Except.error "not writable"

theorem canvasAlike_poster (theme : String) : CanvasAlike (poster theme) posterCommand 640 480 :=
  ⟨⟨rfl, rfl⟩, ⟨rfl, rfl⟩, by decide +kernel⟩

theorem serves_poster (file document : String) :
    Serves (posterFiles file document) posterCommand file document :=
  ⟨rfl, rfl⟩

theorem askedAlike_poster : ∀ theme ∈ ["classic", "default"],
    AskedAlike (poster theme) (posterSettings theme) (posterFile theme) := by
  have hpage : ∀ theme ∈ ["classic", "default"],
      (PageOptions.reader.parse (posterSettings theme)).toOption = some (poster theme) := by
    decide +kernel
  have hfile : ∀ theme ∈ ["classic", "default"],
      (ConfigFile.reader.parse (posterFile theme)).toOption =
        some ⟨some theme, some (.ofFont (some "Arial")), none,
          some (.ofBorder (some false))⟩ := by
    decide +kernel
  intro theme htheme
  exact ⟨toOption_eq_some_iff.mp (hpage theme htheme), _, _,
    toOption_eq_some_iff.mp (hfile theme htheme), rfl, rfl⟩

theorem tile_agrees_on_classic :
    (∃ text, Page.expand tile.line (some (posterSettings "classic")) = .ok text) ∧
      FrontsAgree (posterFiles (posterFile "classic") tile.line) posterCommand tile.line
        (posterSettings "classic") := by
  have halike := askedAlike_poster "classic" (by decide)
  obtain ⟨d, hd, _⟩ := parse_tile (poster "classic").config List.mem_cons_self
  have hexpand := expand_eq halike tile.line
  rw [hd] at hexpand
  exact ⟨⟨_, hexpand⟩, (fronts_agree_iff halike ⟨_, rfl⟩ (canvasAlike_poster _) rfl
    (serves_poster _)).mpr (by decide) tile.line⟩

theorem tile_disagrees_on_default :
    AskedAlike (poster "default") (posterSettings "default") (posterFile "default") ∧
      (∃ base, Config.standard.withTheme (some "default") = .ok base) ∧
      CanvasAlike (poster "default") posterCommand 640 480 ∧
      ¬FrontsAgree (posterFiles (posterFile "default") tile.line) posterCommand tile.line
        (posterSettings "default") :=
  have halike := askedAlike_poster "default" (by decide)
  ⟨halike, ⟨_, rfl⟩, canvasAlike_poster _,
    not_frontsAgree_tile halike rfl (canvasAlike_poster _) rfl (serves_poster _ _)⟩

end Cartouche
