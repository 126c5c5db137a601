import ScanDiscovery.Text.Bracketed
import ScanDiscovery.Text.Quoted
import ScanDiscovery.Url.Host
/-!
# Url.Basic — addresses, their parts and their normal form

The text of an address is written from its parts, so two addresses with the same parts have the same text. A port
is kept only if it is not the scheme's own.
-/
namespace ScanDiscovery

structure Url where
  scheme : String
  username : String
  password : Option String
  /-- absent if nothing follows the scheme but a path; a name of no characters if the host is left out -/
  host : Option Url.Host
  port : Option Nat
  path : String
  query : Option String
  fragment : Option String
  deriving DecidableEq, Repr

namespace Url

/-- How a scheme's addresses are read. -/
inductive SchemeKind where
  | file
  | special
  | other
  deriving DecidableEq, Repr

def schemeKind (scheme : String) : SchemeKind :=
  if scheme = "file" then .file
  else if ["http", "https", "ws", "wss", "ftp"].contains scheme then .special
  else .other

def defaultPort? (scheme : String) : Option Nat :=
  [("http", 80), ("https", 443), ("ws", 80), ("wss", 443), ("ftp", 21)].lookup scheme

/-- The path is no hierarchy of segments: it follows the scheme without a slash. -/
def hasFreePath (u : Url) : Bool := u.host.isNone && u.path.toList.head? ≠ some '/'

/-- User name and password before a host. -/
def credentials (u : Url) : String :=
  let password := match u.password with
    | some p => ":" ++ p
    | none => ""
  if u.username.isEmpty && u.password.isNone then "" else u.username ++ password ++ "@"

/-- Host and port. -/
def hostText (u : Url) : String :=
  let port := match u.port with
    | some p => ":" ++ toString p
    | none => ""
  (u.host.map Host.text).getD "" ++ port

def authority (u : Url) : String :=
  match u.host with
  | some _ => "//" ++ u.credentials ++ u.hostText
  | none => if "//".toList.isPrefixOf u.path.toList then "/." else ""

def queryText (u : Url) : String :=
  match u.query with
  | some q => "?" ++ q
  | none => ""

def fragmentText (u : Url) : String :=
  match u.fragment with
  | some f => "#" ++ f
  | none => ""

/-- The address as text, in its normal form. -/
def text (u : Url) : String :=
  u.scheme ++ ":" ++ u.authority ++ u.path ++ u.queryText ++ u.fragmentText

def optionalText : Option String → String
  | none => "None"
  | some t => "Some(" ++ t ++ ")"

/-- A host as a value; one that is left out is none. -/
def shownHost? : Option Host → Option String
  | none => none
  | some (.domain "") => none
  | some (.domain name) => some ("Domain(" ++ Text.quoted name ++ ")")
  | some (.ipv4 address) => some ("Ipv4(" ++ Ipv4.text address ++ ")")
  | some (.ipv6 words) => some ("Ipv6(" ++ Ipv6.shown words ++ ")")

/-- The parts of an address, on one line. -/
def partsText (u : Url) : String :=
  Text.record "Url" [("scheme", Text.quoted u.scheme),
    ("cannot_be_a_base", toString u.hasFreePath),
    ("username", Text.quoted u.username),
    ("password", optionalText (u.password.map Text.quoted)),
    ("host", optionalText (shownHost? u.host)),
    ("port", optionalText (u.port.map toString)),
    ("path", Text.quoted u.path),
    ("query", optionalText (u.query.map Text.quoted)),
    ("fragment", optionalText (u.fragment.map Text.quoted))]

end Url
end ScanDiscovery
