import Agenda.Config
import Agenda.LogFilter.Directive

/-! Which notices a program writes to its log. A filter is a list of directives, of which the most
specific one that is about a notice decides. -/
namespace Agenda

/-- A directive that is about notices of some sources with some fields. -/
structure LogRule where
  /-- How the names of the sources begin, `none` for all sources. -/
  source : Option String
  fields : List String
  threshold : Threshold
deriving DecidableEq

namespace LogRule

/-- How much of the name of a source has to fit. -/
def reach (r : LogRule) : Nat :=
  match r.source with
  | none => 0
  | some name => name.utf8ByteSize + 1

/-- Whether a rule is more specific than another: by the name of a source, or else by the number of
fields. The order of the names decides between two that are equally specific. -/
def isBefore (a b : LogRule) : Bool :=
  if a.reach ≠ b.reach then b.reach < a.reach
  else if a.fields.length ≠ b.fields.length then b.fields.length < a.fields.length
  else if a.source ≠ b.source then b.source.getD "" < a.source.getD ""
  else decide (b.fields < a.fields)

/-- Whether a rule is about notices of a source with some fields. -/
def covers (r : LogRule) (source : String) (fields : List String) : Bool :=
  r.source.all (fun name => name.toList.isPrefixOf source.toList) && r.fields.all fields.contains

end LogRule

/-- A filter by its rules, the most specific first. -/
structure LogFilter where
  rules : List LogRule
deriving DecidableEq

namespace LogFilter

/-- Puts a rule in front of those that are less specific. One for the same sources and fields is
replaced. -/
def place (r : LogRule) : List LogRule → List LogRule
  | [] => [r]
  | s :: rest =>
    if r.source = s.source ∧ r.fields = s.fields then r :: rest
    else if r.isBefore s then r :: s :: rest
    else s :: place r rest

/-- The filter of a program that is not told any. -/
def standard : LogFilter := ⟨[⟨none, [], .info⟩]⟩

/-- A filter by its directives. Where there are none errors alone pass. Those about activities and
values do not concern notices that belong to no activity. -/
def ofDirectives (ds : List Directive) : LogFilter :=
  if ds.isEmpty then ⟨[⟨none, [], .error⟩]⟩
  else ⟨(ds.filter (·.isStatic)).foldl
    (fun rules d => place ⟨d.source, d.fields.map (·.name), d.threshold⟩ rules) []⟩

/-- Reads the directives between commas. The first fault counts. -/
def ofText (text : String) : Except Directive.Fault LogFilter :=
  (((Text.split ',' text.toList).filter (!·.isEmpty)).mapM Directive.read).map ofDirectives

/-- The filter that an environment asks for. One that is malformed counts as none, and one that is
misaligned breaks the program off: there is no filter then. -/
def ofEnvironment? (env : Environment) : Option LogFilter :=
  match (env.text? "RUST_LOG").map ofText with
  | none | some (.error .malformed) => some standard
  | some (.error .misaligned) => none
  | some (.ok f) => some f

/-- Whether a notice passes that comes from a source, has some fields and belongs to no activity. -/
def passes (f : LogFilter) (source : String) (fields : List String) (level : Level) : Bool :=
  match f.rules.find? (·.covers source fields) with
  | some r => r.threshold.passes level
  | none => false

end LogFilter

/-- The part of the service that a notice comes from. -/
def Notice.source : Notice → String
  | .databaseUnset | .invalidSetting .. | .intervalTooShort => "calendar_infra::config"
  | .databaseConnecting | .databaseConnected => "calendar_infra::repos"
  | .publishingInProcess | .consumingInProcess => "calendar_infra"
  | .brokerConnecting _ | .brokerConnected | .creatingStream _ | .creatingConsumer _ =>
    "calendar_infra::mq::nats"
  | .messageDropped _ => "calendar_infra::mq::inmemory"
  | .senderStarted | .consumingFailed _ | .deliverySkipped _ | .deliveryEnded
  | .notificationReceived _ | .alreadyReceived _ | .recordingFailed .. | .senderStopped =>
    "calendar_api::sender"
  | .operationFailed => "calendar_api::shared::usecase"
  | .listening _ | .senderFailed _ | .jobFailed => "calendar_api"
  | .schedulerIsolated | .interrupted _ => "calendar"
  | .schedulerStarted _ | .dispatchWorkerFailed | .cleanupWorkerFailed | .connectionNotClosed _
  | .schedulerStopped | .noRemindersDue _ | .dueQueryFailed _ | .channelNotOpened _
  | .publishFailed .. | .channelNotClosed _ | .dispatchFinished _ | .noneExpired _
  | .expiredQueryFailed _ | .alreadyRemoved _ | .removalFailed .. | .cleanupFinished _ =>
    "calendar_api::job_schedulers"

/-- The names of what a notice says, its message being a field like the others. -/
def Notice.fieldNames (n : Notice) : List String := "message" :: n.fields.map (·.1)

def LogFilter.passesNotice (f : LogFilter) (n : Notice) : Bool :=
  f.passes n.source n.fieldNames n.level

end Agenda
