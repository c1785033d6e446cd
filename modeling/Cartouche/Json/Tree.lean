import Cartouche.Json.Shape

/-!
JSON as a tree of its own, whatever is made of it afterwards. Numbers are kept as integers or
decimals, and objects have their keys in ascending order.
-/
namespace Cartouche.Json

inductive Tree where
  | null
  | bool (b : Bool)
  | number (n : Number)
  | text (s : String)
  | list (items : List Tree)
  | object (fields : List (String × Tree))

namespace Tree

mutual
/-- The tree that a node says; its leaves have been looked at. -/
def ofNode : Node → Tree
  | .bool b => .bool b
  | .number (.ok n) _ => .number n
  | .text (.ok s) => .text s
  | .list items _ => .list (ofNodes items)
  | .object fields _ => .object (ofFields fields [])
  | _ => .null

def ofNodes : List Node → List Tree
  | [] => []
  | item :: rest => ofNode item :: ofNodes rest

/-- Fields put into a table one by one, so that the last of several for one key counts. -/
def ofFields : List (Except Fault String × Node) → Table Tree → Table Tree
  | [], t => t
  | (.ok key, node) :: rest, t => ofFields rest (t.putAscending key (ofNode node))
  | (.error _, _) :: rest, t => ofFields rest t
end

def reader : Reader Tree := fun s node => do
  let _ ← Reader.keep s node
  return ofNode node

end Tree

end Cartouche.Json
