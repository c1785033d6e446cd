import Cartouche.CommandLine
import Cartouche.Proofs.Outcome

/-!
Sizes of canvases. Legends are placed on the canvas that is drawn, whatever the command line and the
settings file say. That this canvas is positive is checked only where the command line has a size:
without one, the canvas of a settings file is taken as it is written.
-/
namespace Cartouche
open Json

/-- The canvas that legends are placed on is positive, and it is the one that is drawn. -/
structure Config.SoundCanvas (c : Config) : Prop where
  positive : 0 < c.metrics.canvasWidth ∧ 0 < c.metrics.canvasHeight
  drawn : c.width = c.metrics.canvasWidth ∧ c.height = c.metrics.canvasHeight

/-- The canvas before the command line has its say: the standard one, in which a settings file may
write one side or both, as a number or as a text that denotes one. -/
inductive WrittenCanvas : Option String → Float32 → Float32 → Prop where
  | standard : WrittenCanvas none Config.standard.width Config.standard.height
  | file {text : String} {f : ConfigFile} (h : ConfigFile.reader.parse text = .ok f) :
    WrittenCanvas (some text)
      (LegendFile.length (f.legend.bind (·.canvasWidth)) Config.standard.width)
      (LegendFile.length (f.legend.bind (·.canvasHeight)) Config.standard.height)

/-- Whether a command has a size for the canvas. -/
def Command.SetsSize (c : Command) : Prop :=
  c.width.isSome ∨ c.height.isSome

variable {c : Command} {f : ConfigFile} {base config : Config} {text : String}
  {file : Option String}

theorem Config.metrics_of_withTheme {name : Option String} (h : base.withTheme name = .ok config) :
    config.metrics = base.metrics := by
  unfold withTheme at h
  split at h
  · cases h
    rfl
  · split_ifs at h <;> cases h <;> rfl

theorem Config.canvas_of_overlay (h : standard.overlay f = .ok config) :
    (config.width = config.metrics.canvasWidth ∧ config.height = config.metrics.canvasHeight) ∧
    config.width = LegendFile.length (f.legend.bind (·.canvasWidth)) standard.width ∧
    config.height = LegendFile.length (f.legend.bind (·.canvasHeight)) standard.height := by
  obtain ⟨base, htheme, h⟩ := bind_eq_ok_iff.mp h
  have hmetrics := metrics_of_withTheme htheme
  cases h
  refine ⟨⟨rfl, rfl⟩, ?_⟩
  cases hlegend : f.legend with
  | none => simp [hmetrics, LegendFile.length, standard, Metrics.standard]
  | some legend => simp [hmetrics, LegendFile.apply, standard, Metrics.standard]

/-- Settings without the sizes of a command have the canvas that is written. -/
theorem WrittenCanvas.of_parse (h : Config.parse text = .ok config) :
    (config.width = config.metrics.canvasWidth ∧ config.height = config.metrics.canvasHeight) ∧
    WrittenCanvas (some text) config.width config.height := by
  unfold Config.parse at h
  split at h
  next f hf =>
    obtain ⟨hdrawn, hwidth, hheight⟩ := Config.canvas_of_overlay h
    refine ⟨hdrawn, ?_⟩
    rw [hwidth, hheight]
    exact .file hf
  next => cases h

theorem Command.isNone_sizes_iff : (c.width.isNone && c.height.isNone) = true ↔ ¬c.SetsSize := by
  simp [SetsSize, Option.isSome_iff_ne_none]

/-- Without a size on the command line nothing is checked, -/
theorem Command.resolveConfig_of_not_setsSize (h : ¬c.SetsSize) : c.resolveConfig base = .ok base :=
  if_pos (isNone_sizes_iff.mpr h)

/-- and with one the canvas that both lead to is, and must be positive. -/
theorem Command.of_resolveConfig (hset : c.SetsSize) (h : c.resolveConfig base = .ok config) :
    (0 < c.width.getD base.width ∧ 0 < c.height.getD base.height) ∧
    config = base.withCanvas (c.width.getD base.width) (c.height.getD base.height) := by
  have hsizes : ¬(c.width.isNone && c.height.isNone) = true :=
    fun hnone => isNone_sizes_iff.mp hnone hset
  unfold resolveConfig at h
  rw [if_neg hsizes] at h
  dsimp only at h
  split at h
  next hpositive =>
    cases h
    exact ⟨hpositive, rfl⟩
  next => cases h

/-- The settings of a command are those of its settings file, or the standard ones, with the sizes
of the command. -/
theorem Command.exists_base_of_settings (h : c.settings file = .ok config) :
    ∃ base, c.resolveConfig base = .ok config ∧
      (base.width = base.metrics.canvasWidth ∧ base.height = base.metrics.canvasHeight) ∧
      WrittenCanvas file base.width base.height := by
  cases file with
  | none => exact ⟨.standard, h, ⟨rfl, rfl⟩, .standard⟩
  | some text =>
    unfold settings at h
    dsimp only at h
    split at h
    next base hparse => exact ⟨base, h, WrittenCanvas.of_parse hparse⟩
    next => cases h

/-- Where the settings of a run can be resolved, one canvas is both drawn and used to place legends,
and each side of it is that of the command line or else the written one. The canvas is positive if
and only if the command line has one of the sizes, or the written canvas is positive. -/
theorem settings_sound_iff (c : Command) (file : Option String) (config : Config)
    (h : c.settings file = .ok config) :
    ∃ width height, WrittenCanvas file width height ∧
      (config.width = c.width.getD width ∧ config.height = c.height.getD height) ∧
      (config.width = config.metrics.canvasWidth ∧ config.height = config.metrics.canvasHeight) ∧
      (config.SoundCanvas ↔ c.SetsSize ∨ 0 < width ∧ 0 < height) := by
  obtain ⟨base, hresolve, hdrawn, hwritten⟩ := Command.exists_base_of_settings h
  refine ⟨base.width, base.height, hwritten, ?_⟩
  by_cases hset : c.SetsSize
  · obtain ⟨hpositive, rfl⟩ := Command.of_resolveConfig hset hresolve
    exact ⟨⟨rfl, rfl⟩, ⟨rfl, rfl⟩, iff_of_true ⟨hpositive, rfl, rfl⟩ (Or.inl hset)⟩
  · rw [Command.resolveConfig_of_not_setsSize hset] at hresolve
    cases hresolve
    have hunset : c.width = none ∧ c.height = none := by
      simpa [Command.SetsSize, Option.isSome_iff_ne_none] using hset
    refine ⟨by simp [hunset], hdrawn, ?_, ?_⟩
    · intro hsound
      obtain ⟨hacross, hdown⟩ := hdrawn
      rw [hacross, hdown]
      exact Or.inr hsound.positive
    · rintro (hsize | hpositive)
      · exact absurd hsize hset
      · obtain ⟨hacross, hdown⟩ := hdrawn
        rw [hacross, hdown] at hpositive
        exact ⟨hpositive, hacross, hdown⟩

/-- A settings file that writes one side with its unit, and the other below zero. -/
def sunkenFile : String :=
  (Json.object [("legend", .object [("canvasWidth", .text " 640px"),
    ("canvasHeight", .number "-5")])]).line

theorem sunken_settings : ∀ side ∈ [((none : Option Float32), (-5 : Float32)), (some 480, 480)],
    ∃ config, { Command.empty with height := side.1 }.settings (some sunkenFile) = .ok config ∧
      config.width = 640 ∧ config.height = side.2 ∧ config.metrics.canvasHeight = side.2 := by
  decide +kernel

/-- The command line mends a canvas that is not positive, -/
theorem sunken_canvas_raised : ∃ config,
    { Command.empty with height := some 480 }.settings (some sunkenFile) = .ok config ∧
      config.width = 640 ∧ config.height = 480 ∧ config.SoundCanvas := by
  obtain ⟨config, hconfig, hwidth, hheight, _⟩ := sunken_settings (some 480, 480) (by simp)
  obtain ⟨_, _, _, _, _, hsound⟩ := settings_sound_iff _ _ config hconfig
  exact ⟨config, hconfig, hwidth, hheight, hsound.mpr (Or.inl (Or.inr rfl))⟩

/-- and without it such a canvas is taken as it is. -/
theorem sunken_canvas_accepted : ∃ config, Command.empty.settings (some sunkenFile) = .ok config ∧
    config.metrics.canvasHeight = -5 ∧ ¬config.SoundCanvas := by
  obtain ⟨config, hconfig, _, _, hcanvas⟩ := sunken_settings (none, -5) (by simp)
  refine ⟨config, hconfig, hcanvas, ?_⟩
  intro hsound
  have hpositive := hsound.positive.2
  rw [hcanvas] at hpositive
  exact absurd hpositive (by decide)

end Cartouche
