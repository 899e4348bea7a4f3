import Agenda.Decimal.Integer
import Agenda.Notice
import Agenda.Text.Utf8

/-! The settings of the service, read from the environment once. A setting that is missing or
wrong has a default; a wrong one is logged. -/
namespace Agenda

/-- Names and values. -/
abbrev Environment := List (String × Bytes)

/-- A value that is no text counts as unset. -/
def Environment.text? (env : Environment) (name : String) : Option String :=
  (env.lookup name).bind Text.ofBytes?

structure BrokerConfig where
  url : String
  stream : String
  subject : String
  consumer : String
  /-- The bound on deliveries of one message, as it was set. -/
  maxDeliver : Int
deriving DecidableEq

/-- Whether the broker is the one inside the process. -/
def BrokerConfig.isInProcess (c : BrokerConfig) : Bool := "memory://".toList.isPrefixOf c.url.toList

structure Config where
  port : Nat
  /-- The address of the relational storage. Without it the storage is in memory. -/
  databaseUrl : Option String
  schedulerInterval : Duration
  operationTimeout : Duration
  broker : BrokerConfig
deriving DecidableEq

namespace Config

/-- A setting that is a number from `-low` to `high`. -/
def number (env : Environment) (name : String) (low high : Nat) (fallback : Int) :
    Int × List Notice :=
  match env.text? name with
  | none => (fallback, [])
  | some value => match Decimal.readInteger low high value with
    | .ok n => (n, [])
    | .error _ => (fallback, [.invalidSetting name value (toString fallback)])

def text (env : Environment) (name fallback : String) : String := (env.text? name).getD fallback

def unsignedLimit : Nat := 18446744073709551615

def databaseUrlOf (env : Environment) : Option String × List Notice :=
  match env.text? "DATABASE_URL" with
  | none => (none, [.databaseUnset])
  | some url => if url.isEmpty then (none, [.databaseUnset]) else (some url, [])

def ofEnvironment (env : Environment) : Config × List Notice :=
  let (port, portNotices) := number env "PORT" 0 unsignedLimit 5000
  let (databaseUrl, databaseNotices) := databaseUrlOf env
  let (interval, intervalNotices) := number env "SCHEDULER_INTERVAL_SECS" 0 unsignedLimit 60
  let zeroNotices := if interval = 0 then [Notice.intervalTooShort] else []
  let (timeout, timeoutNotices) := number env "OPERATION_TIMEOUT_SECS" 0 unsignedLimit 10
  let (maxDeliver, deliverNotices) :=
    number env "NATS_MAX_DELIVER" 9223372036854775808 9223372036854775807 5
  ({ port := port.toNat
     databaseUrl := databaseUrl
     schedulerInterval := .ofSeconds (max 1 interval).toNat
     operationTimeout := .ofSeconds (max 1 timeout).toNat
     broker :=
      { url := text env "NATS_URL" "nats://localhost:4222"
        stream := text env "NATS_STREAM" "CALENDAR_NOTIFICATIONS"
        subject := text env "NATS_SUBJECT" "calendar.notifications"
        consumer := text env "NATS_CONSUMER" "calendar-sender"
        maxDeliver := maxDeliver } },
   portNotices ++ databaseNotices ++ intervalNotices ++ zeroNotices ++ timeoutNotices ++
    deliverNotices)

end Config
end Agenda
