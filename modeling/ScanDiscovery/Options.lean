import ScanDiscovery.Duration
import ScanDiscovery.Program
import ScanDiscovery.Protocol
import ScanDiscovery.Url.Parse
/-!
# Options — the command line

Options have a long and a short name; those of one letter may be run together. A value stands behind its option,
in the same argument or in the next, and is looked at when the next option is recognised or the arguments end. An
argument that is no option and no value is unknown, and so is all that follows two dashes. The first fault is the
answer; that the address is missing can only be known at the end.
-/
namespace ScanDiscovery

/-- What the program is asked to do. -/
structure Options where
  url : Url
  protocol : Protocol
  timeout : Duration
  verbosity : Log.Level
  deriving DecidableEq

namespace Options

/-- An option with a value. -/
inductive Setting where
  | url
  | protocol
  | timeout
  deriving DecidableEq, Repr

/-- An option without one. -/
inductive Flag where
  | verbose
  | version
  | help
  deriving DecidableEq, Repr

inductive Kind where
  | setting (s : Setting)
  | flag (f : Flag)
  deriving DecidableEq, Repr

/-- The options with their names, long and short. -/
def table : List (String × Char × Kind) :=
  [("url", 'u', .setting .url), ("protocol", 'p', .setting .protocol), ("timeout", 't', .setting .timeout),
    ("verbose", 'v', .flag .verbose), ("version", 'V', .flag .version), ("help", 'h', .flag .help)]

def long? (name : String) : Option Kind := (table.find? (·.1 = name)).map (·.2.2)

def short? (letter : Char) : Option Kind := (table.find? (·.2.1 = letter)).map (·.2.2)

inductive Fault where
  | missingUrl
  | missingValue (s : Setting)
  | invalidValue (s : Setting) (message : String)
  | repeated (s : Setting)
  | unknown (argument : String)
  /-- a value for an option that has none -/
  | unneededValue (f : Flag)
  /-- the version is asked for, at length or not -/
  | version (isLong : Bool)
  | help
  deriving DecidableEq, Repr

/-- What messages call an option. -/
def Setting.usage : Setting → String
  | .url => "--url <url>"
  | .protocol => "--protocol <protocol>"
  | .timeout => "--timeout <timeout>"

def Flag.usage : Flag → String
  | .verbose => "--verbose..."
  | .version => "--version"
  | .help => "--help"

/-- The arguments that a fault is about. -/
def Fault.arguments? : Fault → Option (List String)
  | .missingUrl => some [Setting.url.usage]
  | .missingValue s => some [s.usage]
  | .invalidValue s _ => some [s.usage]
  | .repeated s => some [s.usage]
  | .unknown argument => some [argument]
  | .unneededValue f => some [f.usage]
  | .version _ => none
  | .help => none

def Fault.message? : Fault → Option String
  | .invalidValue _ message => some message
  | .version isLong => some (Program.versionText isLong)
  | _ => none

/-- How the program is called. -/
def usageText : String := "Usage: " ++ Program.name ++ " [OPTIONS] " ++ Setting.url.usage ++ "\n"

/-- What a reader at a terminal is told of a fault. -/
def Fault.text : Fault → String
  | .help => usageText
  | .version isLong => Program.versionText isLong
  | fault =>
    let about := ", ".intercalate (fault.arguments?.getD [])
    "error: " ++ about ++ ": " ++ fault.message?.getD "not accepted" ++ "\n\n" ++ usageText

/-- The exit status of a program that stops for a fault; what was asked for is no failure. -/
def Fault.status : Fault → UInt32
  | .help => 0
  | .version _ => 0
  | _ => 2

/-- What the arguments have said so far. -/
structure Given where
  url : Option Url
  protocol : Option Protocol
  timeout : Option Duration
  verbose : Nat
  deriving DecidableEq

namespace Given

def nothing : Given := ⟨none, none, none, 0⟩

def has (g : Given) : Setting → Bool
  | .url => g.url.isSome
  | .protocol => g.protocol.isSome
  | .timeout => g.timeout.isSome

/-- Takes a value that is not there yet. -/
def read (g : Given) (s : Setting) (value : String) : Except Fault Given :=
  match s with
  | .url =>
    match Url.parse value with
    | .ok url => .ok { g with url := some url }
    | .error e => .error (.invalidValue s e.message)
  | .protocol =>
    match Protocol.ofName? value with
    | some p => .ok { g with protocol := some p }
    | none => .error (.invalidValue s s!"unknown protocol `{value}`")
  | .timeout =>
    match Duration.read value with
    | .ok d => .ok { g with timeout := some d }
    | .error e => .error (.invalidValue s e.message)

/-- Takes a value; a second one for the same option is a fault, whatever it is. -/
def put (g : Given) (s : Setting) (value : String) : Except Fault Given :=
  if g.has s then .error (.repeated s) else g.read s value

end Given

/-- Where the reading of arguments stands: an option may be waiting for its value, or its value for being looked
at, and two dashes may have ended the options. -/
structure State where
  given : Given
  waiting : Option (Setting × Option String)
  ended : Bool

namespace State

def start : State := ⟨.nothing, none, false⟩

/-- Looks at what is waiting. -/
def settle (st : State) : Except Fault State :=
  match st.waiting with
  | none => .ok st
  | some (s, none) => .error (.missingValue s)
  | some (s, some value) => (st.given.put s value).map fun g => { st with given := g, waiting := none }

def readFlag (f : Flag) (isLong : Bool) (st : State) : Except Fault State := do
  let st ← st.settle
  match f with
  | .verbose => pure { st with given := { st.given with verbose := st.given.verbose + 1 } }
  | .version => throw (.version isLong)
  | .help => throw .help

def readSetting (s : Setting) (attached : Option String) (st : State) : Except Fault State := do
  let st ← st.settle
  match attached with
  | some value => (st.given.put s value).map fun g => { st with given := g }
  | none => pure { st with waiting := some (s, none) }

/-- The value in the rest of a run of letters. -/
def attachedTo (letters : List Char) : Option String :=
  match letters with
  | [] => none
  | '=' :: value => some (String.ofList value)
  | value => some (String.ofList value)

/-- Options of one letter, run together. -/
def readLetters : List Char → State → Except Fault State
  | [], st => .ok st
  | c :: cs, st =>
    match short? c with
    | none => .error (.unknown (String.ofList ['-', c]))
    | some (.flag f) => (st.readFlag f false).bind (readLetters cs)
    | some (.setting s) => st.readSetting s (attachedTo cs)

/-- An option by its long name. -/
def readLong (text : List Char) (st : State) : Except Fault State :=
  let name := String.ofList (text.takeWhile (· ≠ '='))
  let value := match text.dropWhile (· ≠ '=') with
    | [] => none
    | _ :: value => some (String.ofList value)
  match long? name, value with
  | none, _ => .error (.unknown ("--" ++ name))
  | some (.flag f), none => st.readFlag f true
  | some (.flag f), some _ => .error (.unneededValue f)
  | some (.setting s), value => st.readSetting s value

/-- An argument that is no option. -/
def readValue (argument : String) (st : State) : Except Fault State :=
  match st.waiting with
  | some (s, none) => .ok { st with waiting := some (s, some argument) }
  | _ => .error (.unknown argument)

def readArgument (st : State) (argument : String) : Except Fault State :=
  if st.ended then .error (.unknown argument)
  else
    match argument.toList with
    | ['-', '-'] => .ok { st with ended := true }
    | '-' :: '-' :: text => st.readLong text
    | '-' :: c :: cs => readLetters (c :: cs) st
    | _ => st.readValue argument

end State

/-- How much there is to be said, by how often that was asked for. -/
def levelOf : Nat → Log.Level
  | 0 => .warn
  | 1 => .info
  | _ => .debug

/-- How long to wait for an answer, unless said otherwise. -/
def defaultTimeout : Duration := .ofSeconds 5

/-- The options that were given, with the values of those that were not. -/
def ofGiven (g : Given) : Except Fault Options :=
  match g.url with
  | none => .error .missingUrl
  | some url =>
    .ok { url, protocol := g.protocol.getD .wsd, timeout := g.timeout.getD defaultTimeout,
          verbosity := levelOf g.verbose }

/-- Reads the arguments after the program's name. -/
def parse (arguments : List String) : Except Fault Options := do
  let st ← arguments.foldlM State.readArgument State.start
  let st ← st.settle
  ofGiven st.given

/-- A level as a value. -/
def shownLevel : Log.Level → String
  | .error => "Level(Error)"
  | .warn => "Level(Warn)"
  | .info => "Level(Info)"
  | .debug => "Level(Debug)"
  | .trace => "Level(Trace)"

/-- The options on one line. -/
def shown (o : Options) : String :=
  Text.record "Config"
    [("url", o.url.partsText), ("protocol", o.protocol.shown), ("timeout", o.timeout.text),
      ("verbosity", shownLevel o.verbosity)]

/-- What there is to say about the options. -/
def entry (o : Options) : Log.Entry := ⟨.info, none, [("self", o.shown)]⟩

end Options
end ScanDiscovery
