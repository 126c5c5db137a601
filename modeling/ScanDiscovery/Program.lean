/-!
# Program — the name and the version under which the program goes
-/
namespace ScanDiscovery.Program

def name : String := "wsd-scan-rs"

def version : String := "0.0.0-development"

def purpose : String := "WS-Scan capability discovery"

/-- What the program says of its version, at length or not. -/
def versionText (isLong : Bool) : String :=
  let about := if isLong then "- " ++ purpose ++ ", " else ""
  name ++ " " ++ about ++ "v" ++ version ++ "\n"

end ScanDiscovery.Program
