import ScanDiscovery.Xml.Token
import ScanDiscovery.Xml.Namespace
/-!
# Xml.Event — elements begun and ended, with the namespaces their names resolve to

Tokens become events: a tag that is an empty element begins and ends one, closing tags must match the element that
is open, and every element that begins knows the URI of its namespace. Remarks leave no event. Nothing here
depends on who reads the events, so a document has its events once and for all.
-/
namespace ScanDiscovery.Xml

inductive Event where
  | start (name : Name) (uri : Option Bytes)
  | finish
  | text (content : Bytes)
  | cdata (content : Bytes)
  deriving DecidableEq, Repr

namespace Event

/-- An element that is open: the bytes its closing tag must have, and the bindings in force outside it. -/
structure Open where
  name : Bytes
  outside : Bindings
  deriving DecidableEq, Repr

/-- The name and the attributes in the content of an opening tag. -/
def nameOf (content : Bytes) : Name := ⟨content.takeWhile (!isBlankByte ·)⟩

def attributesOf (content : Bytes) : List Attribute :=
  Attribute.read (content.dropWhile (!isBlankByte ·))

/-- The event that begins an element under these bindings. -/
def begin (name : Name) (bs : Bindings) : Event :=
  .start name (bs.uri? name.qualifier)

/-- The events of some tokens, where `opened` are the elements open before them, innermost first, under the
bindings `bs`; `fault` is what ends the tokens. -/
def ofTokens (fault : Option Error) : Bindings → List Open → List Token → Stream Event
  | _, _, [] => ⟨[], fault⟩
  | bs, opened, .text content :: ts => (ofTokens fault bs opened ts).cons (.text content)
  | bs, opened, .cdata content :: ts => (ofTokens fault bs opened ts).cons (.cdata content)
  | bs, opened, .remark :: ts => ofTokens fault bs opened ts
  | bs, opened, .opening content empty :: ts =>
    let name := nameOf content
    match bs.extend (attributesOf content) with
    | .error e => .failed (.binding e)
    | .ok inside =>
      if empty then ((ofTokens fault bs opened ts).cons .finish).cons (begin name inside)
      else (ofTokens fault inside (⟨name.bytes, bs⟩ :: opened) ts).cons (begin name inside)
  | _, [], .closing name :: _ => .failed (.nesting (.unmatched name))
  | _, o :: opened, .closing name :: ts =>
    if o.name = name then (ofTokens fault o.outside opened ts).cons .finish
    else .failed (.nesting (.mismatched o.name name))

/-- The events of a document. -/
def ofBytes (document : Bytes) : Stream Event :=
  let tokens := Token.ofBytes document
  ofTokens tokens.fault Bindings.initial [] tokens.items

end Event
end ScanDiscovery.Xml
