import Agenda.Config
import Agenda.Rehearsal.Play
import Agenda.Storage.Address

/-! The three programs: how they start, what keeps them from starting, and what the server logs
while it runs. -/
namespace Agenda

/-- What a program finds where it runs. -/
structure Surroundings where
  /-- Whether the database can be reached. -/
  database : Bool
  /-- Whether the message server can be reached. -/
  broker : Bool
  /-- Whether the port of the server is free. -/
  portFree : Bool
deriving DecidableEq

/-- Why a program does not start. -/
inductive StartupError
  | malformedDatabaseUrl
  | databaseUnreachable (a : StorageAddress)
  | invalidPort
  | portTaken
  | brokerUnreachable
  /-- The broker inside the server's process is of no use to another program. -/
  | brokerInProcess (role : Role)
deriving DecidableEq

namespace StartupError

def unreachable : String := "Network is unreachable (os error 101)"

/-- Why no connection to a database server is made where there is none. -/
def whyUnreachable (a : StorageAddress) : String :=
  if a.directory.isSome then "No such file or directory (os error 2)"
  else if a.isKnown then unreachable
  else "failed to lookup address information: Temporary failure in name resolution"

def message : StartupError → String
  | .malformedDatabaseUrl => "error with configuration"
  | .databaseUnreachable a => "error communicating with database: " ++ whyUnreachable a
  | .invalidPort => "invalid port value"
  | .portTaken => "Address already in use (os error 98)"
  | .brokerUnreachable => (BrokerError.connection unreachable).message
  | .brokerInProcess role =>
    s!"The {role.name} needs a NATS_URL, the inmemory broker only works inside the calendar server"

/-- Whether the storage is to blame. -/
def isAboutStorage : StartupError → Bool
  | .malformedDatabaseUrl | .databaseUnreachable _ => true
  | _ => false

end StartupError

/-- A part of a start: what it logs, and whether it succeeds. -/
structure Startup where
  notices : List Notice
  result : Except StartupError Unit

namespace Startup

def done (notices : List Notice) : Startup := ⟨notices, .ok ()⟩

def failed (notices : List Notice) (e : StartupError) : Startup := ⟨notices, .error e⟩

/-- One part after another, as long as they succeed. -/
def andThen (first next : Startup) : Startup :=
  match first.result with
  | .ok () => ⟨first.notices ++ next.notices, next.result⟩
  | .error e => ⟨first.notices, .error e⟩

end Startup

namespace Program

/-- Connects to the storage. Without an address it is in memory. -/
def connectStorage (c : Config) (around : Surroundings) : Startup :=
  match c.databaseUrl with
  | none => .done []
  | some url =>
    match StorageAddress.ofText? url with
    | none => .failed [.databaseConnecting] .malformedDatabaseUrl
    | some address =>
      if around.database then .done [.databaseConnecting, .databaseConnected]
      else .failed [.databaseConnecting] (.databaseUnreachable address)

/-- Connects to the broker. `inProcess` is what is logged if there is no need to. -/
def connectBroker (c : Config) (around : Surroundings) (inProcess : Notice) : Startup :=
  if c.broker.isInProcess then .done [inProcess]
  else if around.broker then .done [.brokerConnecting c.broker.url, .brokerConnected]
  else .failed [.brokerConnecting c.broker.url] .brokerUnreachable

def connectProducer (c : Config) (around : Surroundings) : Startup :=
  connectBroker c around .publishingInProcess

def connectConsumer (c : Config) (around : Surroundings) : Startup :=
  connectBroker c around .consumingInProcess

/-- Takes possession of the port. -/
def listen (c : Config) (around : Surroundings) : Startup :=
  if 65535 < c.port then .failed [] .invalidPort
  else if around.portFree then .done []
  else .failed [] .portTaken

/-- Makes sure that the broker is not the one inside the process. -/
def requireBroker (role : Role) (c : Config) : Startup :=
  if c.broker.isInProcess then .failed [] (.brokerInProcess role) else .done []

/-- A scheduler by itself sees the events of a database only. -/
def warnOfIsolation (c : Config) : Startup :=
  .done (if c.databaseUrl.isNone then [.schedulerIsolated] else [])

/-- What a program does once it has its storage. -/
def prepare (role : Role) (c : Config) (around : Surroundings) : Startup :=
  match role with
  | .server =>
    (listen c around).andThen ((connectProducer c around).andThen (connectConsumer c around))
  | .scheduler =>
    (requireBroker .scheduler c).andThen
      ((warnOfIsolation c).andThen (connectProducer c around))
  | .sender => (requireBroker .sender c).andThen (connectConsumer c around)

/-- Starts a program. -/
def start (role : Role) (env : Environment) (around : Surroundings) : Startup :=
  let (c, notices) := Config.ofEnvironment env
  (Startup.done notices).andThen ((connectStorage c around).andThen (prepare role c around))

/-- The server with everything inside its process, before anything has happened. Its workers end as
soon as they may, and its sender hears everything that is there. -/
def rehearsal (c : Config) (faults : Rehearsal.FaultPlan) : Rehearsal :=
  let pace := ⟨c.schedulerInterval, c.operationTimeout, 1⟩
  let chance : Rehearsal.Chance := { tick := false, delivery := true }
  let r := Rehearsal.new pace .zero c.broker.maxDeliver faults chance
  let r := r.startScheduler.startSender none
  r.takeEntries.2

/-- What the server logs while it runs if it is interrupted at once. -/
def serving (c : Config) : List Notice :=
  let (entries, _) := (rehearsal c []).cancel.takeEntries
  .listening c.port :: entries.filterMap fun e => match e.incident with
    | .notice n => some n
    | .call _ => none

end Program
end Agenda
