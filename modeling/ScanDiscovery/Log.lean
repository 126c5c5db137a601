/-!
# Log — what a program says about its work, as data

An entry has a level, a message (but for one that only shows a value) and named values in text form. Functions
return their entries in order; the program's outermost layer decides where they go.
-/
namespace ScanDiscovery.Log

inductive Level where
  | error
  | warn
  | info
  | debug
  | trace
  deriving DecidableEq, Repr

namespace Level

def name : Level → String
  | .error => "ERROR"
  | .warn => "WARN"
  | .info => "INFO"
  | .debug => "DEBUG"
  | .trace => "TRACE"

/-- How many levels are more urgent. -/
def rank : Level → Nat
  | .error => 0
  | .warn => 1
  | .info => 2
  | .debug => 3
  | .trace => 4

/-- Whether entries of level `l` are seen by who asked for `verbosity`. -/
def shows (verbosity l : Level) : Bool := l.rank ≤ verbosity.rank

end Level

structure Entry where
  level : Level
  message : Option String
  values : List (String × String)
  deriving DecidableEq, Repr

namespace Entry

def trace (message : String) (values : List (String × String)) : Entry := ⟨.trace, some message, values⟩

def debug (message : String) (values : List (String × String)) : Entry := ⟨.debug, some message, values⟩

def info (message : String) (values : List (String × String)) : Entry := ⟨.info, some message, values⟩

def error (message : String) (values : List (String × String)) : Entry := ⟨.error, some message, values⟩

/-- The entry on one line. -/
def line (e : Entry) : String :=
  " ".intercalate (e.level.name :: e.message.toList ++ e.values.map fun (label, value) => label ++ "=" ++ value)

end Entry
end ScanDiscovery.Log
