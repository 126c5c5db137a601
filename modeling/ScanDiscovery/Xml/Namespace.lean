import ScanDiscovery.Xml.Bytes
import ScanDiscovery.Xml.Error
/-!
# Xml.Namespace — the declarations of a start tag, and the names they bind

A tag's content is its name, up to the first blank, and its attributes. The attributes are read as far as they are
well formed; those that declare namespaces are bound one after the other, a later one hiding an earlier one.
Values are the bytes between the quotes as they stand.
-/
namespace ScanDiscovery.Xml

/-- A name as the document spells it. -/
structure Name where
  bytes : Bytes
  deriving DecidableEq, Repr

namespace Name

def colon : UInt8 := 0x3A

/-- What stands before the first colon, if there is a colon. -/
def qualifier (n : Name) : Option Bytes :=
  if colon ∈ n.bytes then some (n.bytes.takeWhile (· ≠ colon)) else none

/-- What stands after the first colon, or all of it. -/
def localPart (n : Name) : Bytes :=
  if colon ∈ n.bytes then (n.bytes.dropWhile (· ≠ colon)).drop 1 else n.bytes

end Name

structure Attribute where
  key : Bytes
  value : Bytes
  deriving DecidableEq, Repr

namespace Attribute

/-- The attribute at the beginning of `bs`, and what follows it: a key (of at least one byte), a sign of
equality, and a value in quotes, with blanks around each. -/
def first? (bs : Bytes) : Option (Attribute × Bytes) :=
  match bs.dropWhile isBlankByte with
  | [] => none
  | b :: bs =>
    let inKey (b : UInt8) : Bool := b ≠ 0x3D && !isBlankByte b
    match (bs.dropWhile inKey).dropWhile isBlankByte with
    | 0x3D :: bs' =>
      match bs'.dropWhile isBlankByte with
      | q :: bs'' =>
        if q = 0x22 || q = 0x27 then
          match bs''.dropWhile (· ≠ q) with
          | _ :: rest => some (⟨b :: bs.takeWhile inKey, bs''.takeWhile (· ≠ q)⟩, rest)
          | [] => none
        else none
      | [] => none
    | _ => none

/-- The attributes at the beginning of `bs`, at most `fuel` of them. -/
def readUpTo : Nat → Bytes → List Attribute
  | 0, _ => []
  | fuel + 1, bs =>
    match first? bs with
    | some (a, rest) => a :: readUpTo fuel rest
    | none => []

/-- The well-formed attributes at the beginning of `bs`. -/
def read (bs : Bytes) : List Attribute :=
  readUpTo bs.length bs

end Attribute

/-- `http://www.w3.org/XML/1998/namespace` -/
def xmlUri : Bytes := Utf8.encode "http://www.w3.org/XML/1998/namespace".toList

/-- `http://www.w3.org/2000/xmlns/` -/
def xmlnsUri : Bytes := Utf8.encode "http://www.w3.org/2000/xmlns/".toList

def xmlName : Bytes := Utf8.encode "xml".toList

def xmlnsName : Bytes := Utf8.encode "xmlns".toList

/-- The bindings in force, newest first: a qualifier, or none for the default namespace, and its URI. -/
abbrev Bindings := List (Option Bytes × Bytes)

namespace Bindings

def initial : Bindings := [(some xmlName, xmlUri), (some xmlnsName, xmlnsUri)]

/-- The qualifier that an attribute declares, if it is a declaration: `some []` for the default one spelt with a
colon, `none` for the plain one. -/
def declared? (a : Attribute) : Option (Option Bytes) :=
  match xmlnsName.isPrefixOf? a.key with
  | some [] => some none
  | some (0x3A :: name) => some (some name)
  | some _ => none
  | none => none

/-- The bindings after one attribute. -/
def declare (bs : Bindings) (a : Attribute) : Except BindingFault Bindings :=
  match declared? a with
  | none => .ok bs
  | some none => .ok ((none, a.value) :: bs)
  | some (some name) =>
    if name = xmlName then
      if a.value = xmlUri then .ok bs else .error (.xmlElsewhere a.value)
    else if name = xmlnsName then .error (.xmlnsDeclared a.value)
    else if a.value = xmlUri then .error (.uriOfXml name)
    else if a.value = xmlnsUri then .error (.uriOfXmlns name)
    else .ok ((if name.isEmpty then none else some name, a.value) :: bs)

/-- The bindings inside an element with these attributes. -/
def extend (bs : Bindings) : List Attribute → Except BindingFault Bindings
  | [] => .ok bs
  | a :: as => (bs.declare a).bind (·.extend as)

/-- The URI bound to a qualifier (or to names without one); an empty URI binds nothing. -/
def uri? (bs : Bindings) (qualifier : Option Bytes) : Option Bytes :=
  match bs.lookup qualifier with
  | some [] => none
  | u => u

end Bindings
end ScanDiscovery.Xml
