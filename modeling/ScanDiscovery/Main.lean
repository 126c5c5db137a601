import ScanDiscovery.Device.Listing
import ScanDiscovery.Options
import ScanDiscovery.Session
/-!
# Main — the program

The program stands at one end of a connection to a scanner: its request goes to standard output, the reply comes
from standard input, and what there is to tell goes to standard error.
-/
open ScanDiscovery

namespace ScanDiscovery.Program

def tell (verbosity : Log.Level) (entries : List Log.Entry) : IO Unit :=
  entries.forM fun e => do
    if verbosity.shows e.level then IO.eprintln e.line

partial def readAll (input : IO.FS.Stream) (held : ByteArray) : IO ByteArray := do
  let bs ← input.read 65536
  if bs.isEmpty then pure held else readAll input (held ++ bs)

def randomWord : IO UInt64 := do
  let high ← IO.rand 0 0xFFFFFFFF
  let low ← IO.rand 0 0xFFFFFFFF
  pure (UInt64.ofNat (high * Nat.pow 2 32 + low))

def report (options : Options) (outcome : Session.Outcome) : IO UInt32 := do
  tell options.verbosity outcome.log
  match outcome.result with
  | .ok caps =>
    IO.eprint caps.summary
    if options.verbosity.shows .debug then IO.eprintln caps.listing
    pure 0
  | .error e =>
    IO.eprintln ("Error: " ++ e.message?.getD "the scanner could not be asked")
    pure 1

def discover (options : Options) : IO UInt32 := do
  tell options.verbosity [options.entry]
  let high ← randomWord
  let low ← randomWord
  let asked := Session.ask options.protocol options.url (.ofRandom high low)
  tell options.verbosity asked.log
  match asked.request with
  | none => report options (Session.react options.protocol asked none)
  | some request =>
    let output ← IO.getStdout
    output.write (ByteArray.mk request.bytes.toArray)
    output.flush
    let reply ← readAll (← IO.getStdin) ByteArray.empty
    report options (Session.react options.protocol asked (Http.Reply.ofBytes? reply.toList))

end ScanDiscovery.Program

def main (arguments : List String) : IO UInt32 := do
  match Options.parse arguments with
  | .ok options => Program.discover options
  | .error fault =>
    IO.eprint fault.text
    pure fault.status
