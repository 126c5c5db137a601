import ScanDiscovery.Text.Utf8
/-!
# Xml.Error — why a document, or a walk through it, stops

One constructor for each cause, and one wording for each. Names and attribute values are kept as the bytes the
document has; only the wording turns them into text.
-/
namespace ScanDiscovery.Xml

/-- Markup that does not end, or that is none. -/
inductive MarkupFault where
  | unknown
  | instruction
  | comment
  | doctype
  | cdata
  | tag
  deriving DecidableEq, Repr

/-- Tags that do not match, or a document type without a name. -/
inductive NestingFault where
  | mismatched (expected found : Bytes)
  | unmatched (found : Bytes)
  | namelessDoctype
  deriving DecidableEq, Repr

/-- Why the digits of a character reference name no character. -/
inductive NumberFault where
  | signed
  | empty
  | digit
  | tooLarge
  | zero
  | notScalar (code : Nat)
  deriving DecidableEq, Repr

/-- A reference in a text that stands for nothing; places are byte positions in the text. -/
inductive ReferenceFault where
  | unknownEntity (first last : Nat) (name : List Char)
  | unterminated (first last : Nat)
  | number (fault : NumberFault)
  deriving DecidableEq, Repr

/-- A namespace declaration that takes a reserved name. -/
inductive BindingFault where
  | xmlElsewhere (uri : Bytes)
  | xmlnsDeclared (uri : Bytes)
  | uriOfXml (name : Bytes)
  | uriOfXmlns (name : Bytes)
  deriving DecidableEq, Repr

inductive Error where
  | markup (fault : MarkupFault)
  | nesting (fault : NestingFault)
  | encoding (fault : Utf8.Fault)
  | reference (fault : ReferenceFault)
  | binding (fault : BindingFault)
  /-- an element's name is not UTF-8 -/
  | name (fault : Utf8.Fault)
  /-- the document ended inside the element at `path` -/
  | unexpectedEnd (path : List Char)
  | missingRoot
  /-- a scope that its own element left behind was asked for a path relative to it -/
  | strayed
  deriving DecidableEq, Repr

def MarkupFault.message : MarkupFault → String
  | .unknown => "unknown or missed symbol in markup"
  | .instruction => "processing instruction or xml declaration not closed: `?>` not found before end of input"
  | .comment => "comment not closed: `-->` not found before end of input"
  | .doctype => "DOCTYPE not closed: `>` not found before end of input"
  | .cdata => "CDATA not closed: `]]>` not found before end of input"
  | .tag => "tag not closed: `>` not found before end of input"

/-- A name for a message: nothing if it is not UTF-8. -/
def shownName (name : Bytes) : String :=
  match Utf8.decode name with
  | .ok cs => String.ofList cs
  | .error _ => ""

def NestingFault.message : NestingFault → String
  | .mismatched expected found => s!"expected `</{shownName expected}>`, but `</{shownName found}>` was found"
  | .unmatched found => s!"close tag `</{shownName found}>` does not match any open tag"
  | .namelessDoctype => "`<!DOCTYPE>` declaration does not contain a name of a document type"

def NumberFault.message : NumberFault → String
  | .signed => "unexpected number sign"
  | .empty => "cannot parse integer from empty string"
  | .digit => "invalid digit found in string"
  | .tooLarge => "number too large to fit in target type"
  | .zero => "0x0 character is not permitted in XML"
  | .notScalar code => s!"`{code}` is not a valid codepoint"

def ReferenceFault.message : ReferenceFault → String
  | .unknownEntity first last name => s!"at {first}..{last}: unrecognized entity `{String.ofList name}`"
  | .unterminated first last =>
    s!"Error while escaping character at range {first}..{last}: Cannot find ';' after '&'"
  | .number fault => s!"invalid character reference: {fault.message}"

/-- A byte in a quoted byte string: printable ASCII as itself, all else as its number. -/
def shownByte (b : UInt8) : List Char :=
  if b = 34 then ['\\', '"']
  else if 32 ≤ b && b ≤ 126 then [Char.ofNat b.toNat]
  else '0' :: 'x' :: (Nat.toDigits 16 b.toNat).map Char.toUpper

def shownBytes (bs : Bytes) : String :=
  String.ofList ('"' :: bs.flatMap shownByte ++ ['"'])

def BindingFault.message : BindingFault → String
  | .xmlElsewhere uri => s!"the namespace prefix 'xml' cannot be bound to '{shownBytes uri}'"
  | .xmlnsDeclared uri => s!"the namespace prefix 'xmlns' cannot be bound to '{shownBytes uri}'"
  | .uriOfXml name =>
    s!"the namespace prefix '{shownBytes name}' cannot be bound to 'http://www.w3.org/XML/1998/namespace'"
  | .uriOfXmlns name =>
    s!"the namespace prefix '{shownBytes name}' cannot be bound to 'http://www.w3.org/2000/xmlns/'"

def Error.message : Error → String
  | .markup fault => s!"Error parsing XML: syntax error: {fault.message}"
  | .nesting fault => s!"Error parsing XML: ill-formed document: {fault.message}"
  | .encoding fault => s!"Error parsing XML: cannot decode input using UTF-8: {fault.message}"
  | .reference fault => s!"Error parsing XML: {fault.message}"
  | .binding fault => s!"Error parsing XML: {fault.message}"
  | .name fault => s!"Element name is not valid UTF-8: {fault.message}"
  | .unexpectedEnd path => s!"Document ended inside `{String.ofList path}`"
  | .missingRoot => "Document has no root element"
  | .strayed => "Path of the element does not begin with the path of its scope"

end ScanDiscovery.Xml
