import Agenda.LogLine
import Agenda.Program

/-! The programs as a command: `server`, `scheduler` or `sender`, and the present time in seconds.
Settings come from the environment and log lines go to standard output. The server takes its
requests from standard input, one to a line: method, target and body. -/
namespace Agenda.Command

def settings : List String :=
  ["PORT", "DATABASE_URL", "SCHEDULER_INTERVAL_SECS", "OPERATION_TIMEOUT_SECS", "NATS_URL",
    "NATS_STREAM", "NATS_SUBJECT", "NATS_CONSUMER", "NATS_MAX_DELIVER", "RUST_LOG"]

def role? : String → Option Role
  | "server" => some .server
  | "scheduler" => some .scheduler
  | "sender" => some .sender
  | _ => none

/-- The request on a line. A body is declared as JSON. -/
def request (line : String) : Rest.Request :=
  let text := line.toList
  let rest := (text.dropWhile (· ≠ ' ')).drop 1
  let body := (rest.dropWhile (· ≠ ' ')).drop 1
  { method := String.ofList (text.takeWhile (· ≠ ' '))
    target := String.ofList (rest.takeWhile (· ≠ ' '))
    contentType := if body.isEmpty then none else some "application/json"
    body := Text.bytes (String.ofList body) }

/-- What a rehearsal has logged since it was last asked. -/
def takeNotices (r : Rehearsal) : List Notice × Rehearsal :=
  let (entries, r) := r.takeEntries
  (entries.filterMap fun e => match e.incident with
    | .notice n => some n
    | .call _ => none, r)

def environment : IO Environment :=
  settings.filterMapM fun name => do
    return (← IO.getEnv name).map fun value => (name, Text.bytes value)

def log (f : LogFilter) (role : Role) (ns : List Notice) : IO Unit :=
  (f.lines role ns).forM IO.println

/-- Answers the requests on standard input, in the time that passes meanwhile. -/
partial def serve (f : LogFilter) (since : Nat) (r : Rehearsal) : IO Rehearsal := do
  let line ← (← IO.getStdin).getLine
  if line.isEmpty then return r
  let now ← IO.monoMsNow
  let (response, r) := (r.advance (now - since)).request (request line.trimAsciiEnd.toString)
  let (ns, r) := takeNotices r
  log f .server ns
  if let some a := response then IO.println s!"{a.status} {a.body}"
  serve f now r

def run (role : Role) (now : Timestamp) : IO UInt32 := do
  let env ← environment
  let some f := LogFilter.ofEnvironment? env | return 101
  let started := Program.start role env ⟨false, false, true⟩
  log f role started.notices
  match started.result with
  | .error e =>
    IO.eprintln s!"Error: {e.message}"
    return 1
  | .ok () =>
    let c := (Config.ofEnvironment env).1
    log f role [.listening c.port]
    let r := Program.rehearsal c []
    let r ← serve f (← IO.monoMsNow) { r with stage := r.stage.setClock now }
    log f role (takeNotices r.cancel).1
    return 0

end Agenda.Command

open Agenda Agenda.Command in
def main (args : List String) : IO UInt32 := do
  match args.head?.bind role? with
  | none =>
    IO.eprintln "usage: server | scheduler | sender, and the present time in seconds"
    return 2
  | some role => run role (.clamp (((args.drop 1).head?.bind String.toInt?).getD 0))
