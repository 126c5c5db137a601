import ScanDiscovery.Url.Basic
/-!
# Url.Sent — what of an address is sent

A login is not sent with the address but apart from it, if it is text; a fragment is not sent at all. An address of
HTTP can be sent if its host and its length admit it.
-/
namespace ScanDiscovery.Url

/-- Whether what is written is text, each escape taken for its byte. -/
def spellsText (written : String) : Bool := (Utf8.decode (decode (Utf8.encode written.toList))).isOk

/-- The address without a login that can be sent apart. -/
def withoutLogin (u : Url) : Url :=
  if spellsText u.username && (!u.username.isEmpty || u.password.any spellsText) then
    { u with username := "", password := none }
  else u

/-- The address as it is sent. -/
def sent (u : Url) : Url := { u.withoutLogin with fragment := none }

/-- What a request names of the address: its path and its query. -/
def target (u : Url) : String := u.path ++ u.queryText

/-- What no host of a request may hold, though a name may. -/
def isUnsendable (c : Char) : Bool := ['"', '\x60', '\x7b', '\x7d'].contains c

/-- How many bytes an address may have to be sent. -/
def longestSent : Nat := 65534

def isSendable (u : Url) : Bool :=
  ["http", "https"].contains u.scheme && !u.hostText.toList.any isUnsendable
    && u.withoutLogin.text.utf8ByteSize ≤ longestSent

end ScanDiscovery.Url
