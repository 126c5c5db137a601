import ScanDiscovery.Xml.Reference
/-!
# Xml.Markup — documents to be written

A document is a tree of elements and texts. Attributes and texts are escaped, so whatever they hold, the tags that
are written are those of the tree.
-/
namespace ScanDiscovery.Xml

inductive Markup where
  | text (content : List Char)
  | element (name : String) (attributes : List (String × String)) (children : List Markup)

namespace Markup

/-- An element with a text for its content. -/
def leaf (name content : String) : Markup := .element name [] [.text content.toList]

def attributeText (key value : String) : List Char :=
  ' ' :: key.toList ++ ['=', '"'] ++ Reference.escape value.toList ++ ['"']

def openTag (name : String) (attributes : List (String × String)) : List Char :=
  '<' :: name.toList ++ attributes.flatMap (fun (key, value) => attributeText key value) ++ ['>']

def closeTag (name : String) : List Char := '<' :: '/' :: name.toList ++ ['>']

mutual

def render : Markup → List Char
  | .text content => Reference.escape content
  | .element name attributes children => openTag name attributes ++ renderAll children ++ closeTag name

def renderAll : List Markup → List Char
  | [] => []
  | m :: ms => render m ++ renderAll ms

end

/-- What stands before the root of a document. -/
def declaration : List Char := "<?xml version=\"1.0\" encoding=\"utf-8\"?>".toList

/-- A document with its root. -/
def document (root : Markup) : List Char := declaration ++ render root

end Markup
end ScanDiscovery.Xml
