import ScanDiscovery.Decimal.Unsigned
import ScanDiscovery.Response.Finding
/-!
# Response.Field — values in the texts of elements
-/
namespace ScanDiscovery.Response

/-- The number in the text of `element`. -/
def number (element : String) (text : List Char) : Except DecodeError UInt32 :=
  match Decimal.unsigned? text with
  | some n => .ok n
  | none => .error (.malformedValue element text)

/-- Reads the text of the element just given as a number. -/
def readNumber (element : String) : Reader UInt32 :=
  .text fun t => match number element t with
    | .ok n => .done n
    | .error e => .fail e

/-- Whether a text says yes: `1` or `true`, in exactly these letters. -/
def isTrue (text : List Char) : Bool :=
  String.ofList text = "1" || String.ofList text = "true"

/-- The value there was before, if there was one. -/
def orElseFirst {α : Type} (known : Option α) (value : α) : Option α :=
  some (known.getD value)

/-- The text there was before, if there was one; an empty text is none. -/
def orElseText (known : Option String) (text : List Char) : Option String :=
  if known.isNone && !text.isEmpty then some (String.ofList text) else known

end ScanDiscovery.Response
