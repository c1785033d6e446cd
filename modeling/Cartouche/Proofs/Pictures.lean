import Cartouche.Proofs.PictureTexts

/-!
Pictures of legends, scanned for tags. Which tags stand in a picture depends on how many legends and
entries there are and on which swatches show a width; no text decides about more than its own place.
-/
namespace Cartouche

/-- What stands in an element of the given name, on the tag that closes it. -/
def Tag.content? (name : String) (t : Tag) : Option String :=
  if t.kind = .closing ∧ t.name = name then some t.before else none

theorem Tag.content?_escaped (name : String) (t : Tag) :
    (t.escaped.content? name).map Cartouche.unescaped = t.content? name := by
  unfold Tag.content?
  rw [t.kind_escaped, t.name_escaped, t.before_escaped]
  split
  · rw [Option.map_some, Cartouche.unescaped_escaped]
  · rfl

/-- Tags with proper names, by their marks and by what stands in the elements named `text`. -/
structure Shows (tags : List Tag) (marks contents : List String) : Prop where
  named : ∀ t ∈ tags, t.isNamed
  marks : tags.map Tag.mark = marks
  contents : tags.filterMap (Tag.content? "text") = contents

namespace Shows
variable {a b : List Tag} {m m' c c' : List String}

theorem nil : Shows [] [] [] :=
  ⟨fun _ h => absurd h List.not_mem_nil, rfl, rfl⟩

theorem append (ha : Shows a m c) (hb : Shows b m' c') : Shows (a ++ b) (m ++ m') (c ++ c') where
  named := by
    intro t ht
    rcases List.mem_append.mp ht with ht | ht
    · exact ha.named t ht
    · exact hb.named t ht
  marks := by rw [List.map_append, ha.marks, hb.marks]
  contents := by rw [List.filterMap_append, ha.contents, hb.contents]

variable {tag : String} {attributes : List Attribute}

theorem leaf (htag : isName tag) (h : attributes.all fun a => isName a.name) :
    Shows (Markup.leaf tag attributes).tags [tag] [] where
  named := by
    intro t ht
    cases List.mem_singleton.mp ht
    exact Bool.and_eq_true_iff.mpr ⟨htag, h⟩
  marks := rfl
  contents := rfl

theorem text (h : attributes.all fun a => isName a.name) (content : String) :
    Shows (Markup.text "text" attributes content).tags ["text", "/text"] [content] where
  named := by
    have hname : isName "text" := by decide
    have hopening : (Tag.mk "" .opening "text" attributes).isNamed :=
      Bool.and_eq_true_iff.mpr ⟨hname, h⟩
    have hclosing : (Tag.mk content .closing "text" []).isNamed :=
      Bool.and_eq_true_iff.mpr ⟨hname, rfl⟩
    intro t ht
    rcases List.mem_cons.mp ht with rfl | ht
    · exact hopening
    · cases List.mem_singleton.mp ht
      exact hclosing
  marks := rfl
  contents := rfl

theorem group {children : List Markup} (htag : isName tag) (htext : tag ≠ "text")
    (h : attributes.all fun a => isName a.name) (hc : Shows (Markup.tagsAll children) m c) :
    Shows (Markup.group tag attributes children).tags (tag :: (m ++ ["/" ++ tag])) c := by
  have hopening : Shows [⟨"", .opening, tag, attributes⟩] [tag] [] := by
    refine ⟨?_, rfl, rfl⟩
    intro t ht
    cases List.mem_singleton.mp ht
    exact Bool.and_eq_true_iff.mpr ⟨htag, h⟩
  have hclosing : Shows [⟨"", .closing, tag, []⟩] ["/" ++ tag] [] := by
    refine ⟨?_, rfl, ?_⟩
    · intro t ht
      cases List.mem_singleton.mp ht
      exact Bool.and_eq_true_iff.mpr ⟨htag, rfl⟩
    · simp [Tag.content?, htext]
  have hall := hopening.append (hc.append hclosing)
  rwa [List.append_nil, List.nil_append] at hall

end Shows

theorem tagsAll_append (ms others : List Markup) :
    Markup.tagsAll (ms ++ others) = Markup.tagsAll ms ++ Markup.tagsAll others := by
  induction ms with
  | nil => rfl
  | cons m rest ih => rw [List.cons_append, Markup.tagsAll, Markup.tagsAll, ih, List.append_assoc]

/-- The tag that shows a style: a width is a line. -/
def Swatch.mark : Swatch → String
  | .strokeWidth _ => "line"
  | _ => "rect"

theorem Swatch.shows_draw (x y size : Float32) (theme : Theme) (s : Swatch) :
    Shows (s.draw x y size theme).tags [s.mark] [] := by
  cases s with
  | strokeWidth value =>
    apply Shows.leaf (by decide)
    simp only [List.all_cons, List.all_nil]
    decide
  | _ =>
    apply Shows.leaf (by decide)
    simp only [List.cons_append, List.nil_append, List.all_cons, List.all_nil]
    decide

namespace Legend
variable (o : PanelOptions) (theme : Theme)

/-- The tags of an entry: a swatch and a label. -/
def rowMarks (l : Legend) (entry : LegendEntry) : List String :=
  [(Swatch.classify l.property entry.style).mark, "text", "/text"]

def panelMarks (l : Legend) : List String :=
  "g" :: ("rect" :: "text" :: "/text" :: l.entries.flatMap l.rowMarks ++ ["/g"])

/-- What a legend says, from top to bottom. -/
def lines (l : Legend) : List String :=
  l.title :: l.entries.map LegendEntry.label

theorem shows_row (l : Legend) (entry : LegendEntry) (i : Nat) :
    Shows (Markup.tagsAll (l.row o theme entry i)) (l.rowMarks entry) [entry.label] := by
  apply (Swatch.shows_draw _ _ _ theme (Swatch.classify l.property entry.style)).append
  refine Shows.append (Shows.text ?_ entry.label) .nil
  simp only [List.all_cons, List.all_nil]
  decide

theorem shows_rows (l : Legend) (entries : List LegendEntry) (n : Nat) :
    Shows (Markup.tagsAll ((entries.zipIdx n).flatMap fun (entry, i) => l.row o theme entry i))
      (entries.flatMap l.rowMarks) (entries.map LegendEntry.label) := by
  induction entries generalizing n with
  | nil => exact .nil
  | cons entry rest ih =>
    rw [List.zipIdx_cons, List.flatMap_cons, List.flatMap_cons, List.map_cons, tagsAll_append]
    exact (l.shows_row o theme entry n).append (ih (n + 1))

theorem shows_background (l : Legend) : Shows (l.background o theme).tags ["rect"] [] := by
  apply Shows.leaf (by decide)
  rw [List.all_append, Bool.and_eq_true]
  constructor
  · simp only [List.all_cons, List.all_nil]
    decide
  · split
    all_goals
      simp only [List.all_cons, List.all_nil]
      decide

theorem shows_title (l : Legend) :
    Shows (l.titleText o theme).tags ["text", "/text"] [l.title] := by
  apply Shows.text
  simp only [List.all_cons, List.all_nil]
  decide

theorem shows_panel (l : Legend) : Shows (l.panel o theme).tags l.panelMarks l.lines := by
  apply Shows.group (by decide) (by decide)
  · simp only [List.all_cons, List.all_nil]
    decide
  · have hrows := l.shows_rows o theme l.entries 0
    exact (l.shows_background o theme).append ((l.shows_title o theme).append hrows)

theorem shows_panels (legends : List Legend) :
    Shows (Markup.tagsAll (legends.map (·.panel o theme))) (legends.flatMap panelMarks)
      (legends.flatMap lines) := by
  induction legends with
  | nil => exact .nil
  | cons l rest ih => exact (l.shows_panel o theme).append ih

theorem shows_picture (legends : List Legend) (width height : Float32) :
    Shows (picture o theme legends width height).tags
      ("svg" :: "rect" :: (legends.flatMap panelMarks ++ ["/svg"])) (legends.flatMap lines) := by
  have hground : Shows (Markup.leaf "rect"
      [⟨"width", "100%"⟩, ⟨"height", "100%"⟩, ⟨"fill", theme.background⟩]).tags ["rect"] [] := by
    apply Shows.leaf (by decide)
    simp only [List.all_cons, List.all_nil]
    decide
  apply Shows.group (m := "rect" :: legends.flatMap panelMarks) (by decide) (by decide)
  · simp only [List.all_cons, List.all_nil]
    decide
  · exact hground.append (shows_panels o theme legends)

/-- A picture is the text of its places, each with its own texts escaped. Scanned from the left, it
has its tags and no others, in their order; what stands in its texts is what its legends say, and
every attribute has the whole value it was given. -/
theorem scanTags_picture (legends : List Legend) (width height : Float32) :
    (picture o theme legends width height).write =
        (svgPicture o theme legends width height).toList ∧
    ∃ tags, scanTags (picture o theme legends width height).write = some tags ∧
      tags.map Tag.mark = "svg" :: "rect" :: (legends.flatMap panelMarks ++ ["/svg"]) ∧
      (tags.filterMap (Tag.content? "text")).map Cartouche.unescaped = legends.flatMap lines ∧
      tags.map Tag.unescaped = (picture o theme legends width height).tags := by
  have hshows := shows_picture o theme legends width height
  have hcontent : (fun t : Tag => (t.escaped.content? "text").map Cartouche.unescaped) =
      Tag.content? "text" :=
    funext (Tag.content?_escaped "text")
  have hmark : Tag.mark ∘ Tag.escaped = Tag.mark := funext Tag.mark_escaped
  have hunescaped : Tag.unescaped ∘ Tag.escaped = id := funext Tag.unescaped_escaped
  refine ⟨write_picture o theme legends width height, _, scanTags_write _ hshows.named, ?_, ?_, ?_⟩
  · rw [List.map_map, hmark]
    exact hshows.marks
  · have hcontents := hshows.contents
    rw [← hcontent] at hcontents
    rw [List.filterMap_map, List.map_filterMap]
    exact hcontents
  · rw [List.map_map, hunescaped, List.map_id]

end Legend

end Cartouche
