import ScanDiscovery.Xml.Bytes
import ScanDiscovery.Xml.Error
/-!
# Xml.Token — the markup and the texts of a document, read byte by byte

The reader is an automaton over the bytes: a mode, a step for each byte, and what the end of input makes of the
mode it finds. A step completes at most one token, and a token is completed by its own last byte (a text by the
`<` after it), so the tokens of the beginning of a document are the first tokens of the document.

Texts lose their blanks at both ends, and a text of blanks only is none.
-/
namespace ScanDiscovery.Xml

/-- A part of a document. Tag contents are the bytes between the angle brackets, less the slash that makes a
closing tag or an empty element. -/
inductive Token where
  | text (content : Bytes)
  | cdata (content : Bytes)
  | opening (content : Bytes) (empty : Bool)
  | closing (name : Bytes)
  /-- a comment, an instruction, a declaration or a document type -/
  | remark
  deriving DecidableEq, Repr

/-- Items read one after the other, and the fault that ended the reading; without one, the input ended. -/
structure Stream (α : Type) where
  items : List α
  fault : Option Error
  deriving DecidableEq, Repr

namespace Stream

def failed {α : Type} (e : Error) : Stream α := ⟨[], some e⟩

def ended {α : Type} : Stream α := ⟨[], none⟩

def cons {α : Type} (a : α) (s : Stream α) : Stream α := ⟨a :: s.items, s.fault⟩

@[simp] theorem items_cons {α : Type} (a : α) (s : Stream α) : (s.cons a).items = a :: s.items := rfl

@[simp] theorem fault_cons {α : Type} (a : α) (s : Stream α) : (s.cons a).fault = s.fault := rfl

end Stream

namespace Token

/-- What the bytes read since the last token are part of. Bytes are kept newest first. -/
inductive Mode where
  | content (read : Bytes)
  /-- just after `<` -/
  | markup
  | opening (quote : Option UInt8) (read : Bytes)
  | closing (quote : Option UInt8) (read : Bytes)
  | instruction (read : Bytes)
  /-- just after `<!` -/
  | declaration
  | comment (read : Bytes)
  | cdata (read : Bytes)
  | doctype (nested : Nat) (read : Bytes)
  deriving DecidableEq, Repr

/-- What a byte does. -/
inductive Step where
  | more (m : Mode)
  | emit (t : Token) (m : Mode)
  | fault (e : Error)
  deriving DecidableEq, Repr

/-- A text without the blanks at its end, from its bytes newest first; none is left of blanks only. -/
def text? (read : Bytes) : Option Token :=
  match read.dropWhile isBlankByte with
  | [] => none
  | b :: bs => some (.text (b :: bs).reverse)

/-- The quote that is open after a byte of a tag: a quote opens unless one is open, and closes itself. -/
def quoteAfter (quote : Option UInt8) (b : UInt8) : Option UInt8 :=
  match quote with
  | none => if b = 0x22 || b = 0x27 then some b else none
  | some q => if b = q then none else some q

def ofOpening (read : Bytes) : Token :=
  match read with
  | 0x2F :: read => .opening read.reverse true
  | read => .opening read.reverse false

/-- The name in a closing tag ends with its last byte that is not blank, if there is one. -/
def ofClosing (read : Bytes) : Token :=
  match read.dropWhile isBlankByte with
  | [] => .closing read.reverse
  | b :: bs => .closing (b :: bs).reverse

/-- `!--` -/
def commentStart : Bytes := [0x21, 0x2D, 0x2D]

/-- `![CDATA[` -/
def cdataStart : Bytes := [0x21, 0x5B, 0x43, 0x44, 0x41, 0x54, 0x41, 0x5B]

/-- `!doctype` -/
def doctypeStart : Bytes := [0x21, 0x64, 0x6F, 0x63, 0x74, 0x79, 0x70, 0x65]

/-- The step that completes `t`. -/
def Step.done (t : Token) : Step := .emit t (.content [])

/-- A finished comment, instruction, section or document type must have begun as one. -/
def endInstruction (read : Bytes) : Step :=
  if read.length > 1 then .done .remark else .fault (.markup .instruction)

def endComment (read : Bytes) : Step :=
  if commentStart.isPrefixOf read.reverse then .done .remark else .fault (.markup .comment)

def endCdata (read : Bytes) : Step :=
  match cdataStart.isPrefixOf? (read.drop 2).reverse with
  | some content => .done (.cdata content)
  | none => .fault (.markup .cdata)

def endDoctype (read : Bytes) : Step :=
  let content := read.reverse
  if (content.take 8).map lowerByte = doctypeStart then
    if (content.drop 8).all isBlankByte then .fault (.nesting .namelessDoctype) else .done .remark
  else .fault (.markup .doctype)

def step : Mode → UInt8 → Step
  | .content read, b =>
    if b = 0x3C then
      match text? read with
      | some t => .emit t .markup
      | none => .more .markup
    else if read.isEmpty && isBlankByte b then .more (.content [])
    else .more (.content (b :: read))
  | .markup, b =>
    if b = 0x21 then .more .declaration
    else if b = 0x2F then .more (.closing none [])
    else if b = 0x3F then .more (.instruction [b])
    else if b = 0x3E then .done (ofOpening [])
    else .more (.opening (quoteAfter none b) [b])
  | .opening quote read, b =>
    if b = 0x3E && quote.isNone then .done (ofOpening read)
    else .more (.opening (quoteAfter quote b) (b :: read))
  | .closing quote read, b =>
    if b = 0x3E && quote.isNone then .done (ofClosing read)
    else .more (.closing (quoteAfter quote b) (b :: read))
  | .instruction read, b =>
    if b = 0x3E && read.head? = some 0x3F then endInstruction read
    else .more (.instruction (b :: read))
  | .declaration, b =>
    if b = 0x5B then .more (.cdata [b, 0x21])
    else if b = 0x2D then .more (.comment [b, 0x21])
    else if b = 0x44 || b = 0x64 then .more (.doctype 0 [b, 0x21])
    else .fault (.markup .unknown)
  | .comment read, b =>
    if b = 0x3E && read.take 2 = [0x2D, 0x2D] && read.length > 4 then endComment read
    else .more (.comment (b :: read))
  | .cdata read, b =>
    if b = 0x3E && read.take 2 = [0x5D, 0x5D] then endCdata read
    else .more (.cdata (b :: read))
  | .doctype nested read, b =>
    if b = 0x3E then
      match nested with
      | 0 => endDoctype read
      | n + 1 => .more (.doctype n (b :: read))
    else .more (.doctype (if b = 0x3C then nested + 1 else nested) (b :: read))

/-- What the end of input leaves of a mode: a last text, or markup that is not closed. -/
def finish : Mode → Stream Token
  | .content read =>
    match text? read with
    | some t => ⟨[t], none⟩
    | none => .ended
  | .markup => .failed (.markup .tag)
  | .opening _ _ => .failed (.markup .tag)
  | .closing _ _ => .failed (.markup .tag)
  | .instruction _ => .failed (.markup .instruction)
  | .declaration => .failed (.markup .unknown)
  | .comment _ => .failed (.markup .comment)
  | .cdata _ => .failed (.markup .cdata)
  | .doctype _ _ => .failed (.markup .doctype)

/-- The tokens of some bytes, from a mode on. -/
def scan : Mode → Bytes → Stream Token
  | m, [] => finish m
  | m, b :: bs =>
    match step m b with
    | .more m => scan m bs
    | .emit t m => (scan m bs).cons t
    | .fault e => .failed e

/-- The document without the byte order mark that may stand before it. -/
def dropMark (bs : Bytes) : Bytes :=
  match bs with
  | 0xEF :: 0xBB :: 0xBF :: bs => bs
  | bs => bs

def ofBytes (bs : Bytes) : Stream Token :=
  scan (.content []) (dropMark bs)

end Token
end ScanDiscovery.Xml
