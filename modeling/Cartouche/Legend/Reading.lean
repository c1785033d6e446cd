import Cartouche.Json.Shape
import Cartouche.Legend.Basic

/-! What is asked of a legend, read from JSON and written to it. -/
namespace Cartouche
open Json

namespace LegendOptions

def reader : Reader (LegendOptions Float32) :=
  .record "struct LegendConfig" .none [
    .of "steps" .defaulted (.option .count) fun steps o => { o with steps },
    .of "position" .defaulted (.option (.variant Anchor.names)) fun position o =>
      { o with position },
    .of "title" .defaulted (.option .string) fun title o => { o with title },
    .of "width" .defaulted (.option .real32) fun width o => { o with width },
    .of "height" .defaulted (.option .real32) fun height o => { o with height }]

def toJson (o : LegendOptions Float32) : Json :=
  .object [
    ("steps", (o.steps.map Json.ofNat).getD .null),
    ("position", (o.position.map fun p => Json.text p.name).getD .null),
    ("title", (o.title.map Json.text).getD .null),
    ("width", (o.width.map Json.ofFloat32).getD .null),
    ("height", (o.height.map Json.ofFloat32).getD .null)]

end LegendOptions

end Cartouche
