import Cartouche.Data.Path
import Cartouche.Json.Tree

/-!
Data read from JSON. Objects keep their keys in the order of the text; data that comes from a tree
of JSON has the keys of every object in the order of the tree.
-/
namespace Cartouche
open Decimal Json

namespace Value

mutual
/-- The data a node holds; its leaves have been looked at. -/
def ofNode : Node → Value
  | .bool b => .bool b
  | .number (.ok n) _ => .number n.toFloat
  | .text (.ok s) => .text s
  | .list items _ => .list (ofNodes items)
  | .object fields _ => .object (Table.ofList (ofFields fields))
  | _ => .null

def ofNodes : List Node → List Value
  | [] => []
  | item :: rest => ofNode item :: ofNodes rest

def ofFields : List (Except Fault String × Node) → List (String × Value)
  | [] => []
  | (.ok key, node) :: rest => (key, ofNode node) :: ofFields rest
  | (.error _, _) :: rest => ofFields rest
end

def reader : Reader Value := fun s node => do
  let _ ← Reader.keep s node
  return ofNode node

mutual
/-- The data of a tree of JSON, whose integers become numbers like all others. -/
def ofTree : Tree → Value
  | .null => .null
  | .bool b => .bool b
  | .number n => .number n.toFloat
  | .text s => .text s
  | .list items => .list (ofTrees items)
  | .object fields => .object (Table.ofList (ofTreeFields fields))

def ofTrees : List Tree → List Value
  | [] => []
  | item :: rest => ofTree item :: ofTrees rest

def ofTreeFields : List (String × Tree) → List (String × Value)
  | [] => []
  | (key, tree) :: rest => (key, ofTree tree) :: ofTreeFields rest
end

/-- A whole JSON text as data. -/
def parse (text : String) : Except Fault Value :=
  reader.parse text

/-- A whole JSON text as data, by way of its tree. -/
def parseSorted (text : String) : Except Fault Value :=
  (Tree.reader.parse text).map ofTree

end Value

namespace Lookup

def reader : Reader Lookup :=
  .record "struct EvalOptions" lenient [
    .of "safeNavigation" .defaulted .bool fun safe l => { l with safe },
    .of "defaultValue" .defaulted (.option Value.reader) fun default l => { l with default }]

def toJson (l : Lookup) : Json :=
  .object [("safeNavigation", .bool l.safe),
    ("defaultValue", (l.default.map Value.toJson).getD .null)]

end Lookup

end Cartouche
