import ScanDiscovery.Text.Utf8
/-!
# Http.Request — requests as they are sent

A message of HTTP is lines, an empty line and a body.
-/
namespace ScanDiscovery.Http

structure Request where
  method : String
  target : String
  host : String
  contentType : String
  userAgent : String
  body : Bytes
  deriving DecidableEq

namespace Request

/-- The first line of a request. -/
def line (r : Request) : String := s!"{r.method} {r.target} HTTP/1.1"

def crlf : List Char := ['\x0d', '\n']

/-- The request as it is sent. -/
def bytes (r : Request) : Bytes :=
  let lines :=
    [r.line, "host: " ++ r.host, "content-type: " ++ r.contentType, "user-agent: " ++ r.userAgent, "accept: */*",
      "connection: close", "content-length: " ++ toString r.body.length, ""]
  Utf8.encode (lines.flatMap fun l => l.toList ++ crlf) ++ r.body

end Request
end ScanDiscovery.Http
