/-!
Markup as a tree. Text and attribute values are escaped where the tree is written and nowhere else,
so no text can begin or end a tag or an attribute.
-/
namespace Cartouche

/-- One character at a time is replaced by its entity. -/
def replaceChar (c : Char) (entity : String) (text : List Char) : List Char :=
  text.flatMap fun d => if d = c then entity.toList else [d]

/-- Text without the five characters that have a meaning in markup. The ampersand goes first, since
every entity has one. -/
def escapeMarkup (text : List Char) : List Char :=
  replaceChar '\'' "&apos;" <| replaceChar '"' "&quot;" <| replaceChar '>' "&gt;" <|
    replaceChar '<' "&lt;" <| replaceChar '&' "&amp;" text

structure Attribute where
  name : String
  value : String

inductive Markup where
  /-- A tag without content. -/
  | leaf (tag : String) (attributes : List Attribute)
  /-- A tag around text. -/
  | text (tag : String) (attributes : List Attribute) (content : String)
  /-- A tag around other markup. -/
  | group (tag : String) (attributes : List Attribute) (children : List Markup)

namespace Markup

def writeAttribute (a : Attribute) : List Char :=
  ' ' :: a.name.toList ++ '=' :: '"' :: escapeMarkup a.value.toList ++ ['"']

/-- A tag up to its closing bracket. -/
def openTag (tag : String) (attributes : List Attribute) : List Char :=
  '<' :: tag.toList ++ attributes.flatMap writeAttribute

def closeTag (tag : String) : List Char :=
  '<' :: '/' :: tag.toList ++ ['>']

mutual
def write : Markup → List Char
  | .leaf tag attributes => openTag tag attributes ++ ['/', '>']
  | .text tag attributes content =>
    openTag tag attributes ++ '>' :: escapeMarkup content.toList ++ closeTag tag
  | .group tag attributes children =>
    openTag tag attributes ++ '>' :: writeAll children ++ closeTag tag

def writeAll : List Markup → List Char
  | [] => []
  | m :: rest => m.write ++ writeAll rest
end

end Markup

end Cartouche
