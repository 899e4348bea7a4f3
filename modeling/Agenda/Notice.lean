import Agenda.Broker.Error
import Agenda.Duration
import Agenda.Notification
import Agenda.Storage.Error

/-! What the service logs. -/
namespace Agenda

inductive Level
  | debug
  | info
  | warn
  | error
deriving DecidableEq

/-- The number that stands for a level in a log line. -/
def Level.number : Level → Nat
  | .debug => 20
  | .info => 30
  | .warn => 40
  | .error => 50

/-- The value of a field of a log line. -/
inductive FieldValue
  | text (s : String)
  | integer (n : Int)
deriving DecidableEq

/-- The programs of the service. -/
inductive Role
  | server
  | scheduler
  | sender
deriving DecidableEq

def Role.name : Role → String
  | .server => "server"
  | .scheduler => "scheduler"
  | .sender => "sender"

/-- The name that a program's log lines carry. -/
def Role.program (r : Role) : String := "calendar_" ++ r.name

inductive Notice
  -- reading the configuration
  | databaseUnset
  | invalidSetting (name value fallback : String)
  | intervalTooShort
  -- connecting
  | databaseConnecting
  | databaseConnected
  | brokerConnecting (url : String)
  | brokerConnected
  | publishingInProcess
  | consumingInProcess
  | creatingStream (name : String)
  | creatingConsumer (name : String)
  -- the queue
  | messageDropped (attempts : Nat)
  -- the scheduler
  | schedulerStarted (interval : Duration)
  | dispatchWorkerFailed
  | cleanupWorkerFailed
  | connectionNotClosed (e : BrokerError)
  | schedulerStopped
  -- a dispatch cycle
  | noRemindersDue (window : TimeSpan)
  | dueQueryFailed (e : StorageError)
  | channelNotOpened (e : BrokerError)
  | publishFailed (eventId : String) (e : BrokerError)
  | channelNotClosed (e : BrokerError)
  | dispatchFinished (count : Nat)
  -- a cleanup cycle
  | noneExpired (window : TimeSpan)
  | expiredQueryFailed (e : StorageError)
  | alreadyRemoved (eventId : String)
  | removalFailed (eventId : String) (e : StorageError)
  | cleanupFinished (count : Nat)
  -- the sender
  | senderStarted
  | consumingFailed (e : BrokerError)
  | deliverySkipped (e : BrokerError)
  | deliveryEnded
  | notificationReceived (n : Notification)
  | alreadyReceived (eventId : String)
  | recordingFailed (eventId : String) (e : StorageError)
  | senderStopped
  -- the programs
  | operationFailed
  | listening (port : Nat)
  | senderFailed (e : BrokerError)
  | jobFailed
  | schedulerIsolated
  | interrupted (role : Role)
deriving DecidableEq

namespace Notice

def level : Notice → Level
  | .noRemindersDue _ | .noneExpired _ | .alreadyRemoved _ => .debug
  | .invalidSetting .. | .intervalTooShort | .messageDropped _ | .connectionNotClosed _
  | .channelNotClosed _ | .deliverySkipped _ | .deliveryEnded | .schedulerIsolated => .warn
  | .dispatchWorkerFailed | .cleanupWorkerFailed | .dueQueryFailed _ | .channelNotOpened _
  | .publishFailed .. | .expiredQueryFailed _ | .removalFailed .. | .consumingFailed _
  | .recordingFailed .. | .operationFailed | .senderFailed _ | .jobFailed => .error
  | _ => .info

def message : Notice → String
  | .databaseUnset =>
    "Did not find DATABASE_URL environment variable. Events will be kept in memory."
  | .invalidSetting name value fallback =>
    s!"The given {name}: {value} is not valid, falling back to the default: {fallback}."
  | .intervalTooShort => "SCHEDULER_INTERVAL_SECS must be at least 1 second, using 1 second."
  | .databaseConnecting => "DB CHECKING CONNECTION ..."
  | .databaseConnected => "DB CHECKING CONNECTION ... [done]"
  | .brokerConnecting url => s!"Connecting to NATS at: {url}"
  | .brokerConnected => "Connected to NATS"
  | .publishingInProcess => "Publishing notifications to the inmemory broker"
  | .consumingInProcess => "Consuming notifications from the inmemory broker"
  | .creatingStream name => s!"Creating stream: {name}"
  | .creatingConsumer name => s!"Creating consumer: {name}"
  | .messageDropped _ => "Dropping a message that was never acknowledged"
  | .schedulerStarted _ => "Scheduler started"
  | .dispatchWorkerFailed => "The reminder dispatch worker failed"
  | .cleanupWorkerFailed => "The event cleanup worker failed"
  | .connectionNotClosed _ => "Unable to close the broker connection"
  | .schedulerStopped => "Scheduler stopped"
  | .noRemindersDue _ => "No reminders are due"
  | .dueQueryFailed _ => "Unable to query the events due for a reminder"
  | .channelNotOpened _ => "Unable to open the notification channel"
  | .publishFailed .. => "Unable to publish the event notification"
  | .channelNotClosed _ => "Unable to close the notification channel"
  | .dispatchFinished _ => "Reminder dispatch finished"
  | .noneExpired _ => "No events have expired"
  | .expiredQueryFailed _ => "Unable to query the expired events"
  | .alreadyRemoved _ => "Expired event was already removed"
  | .removalFailed .. => "Unable to remove the expired event"
  | .cleanupFinished _ => "Event cleanup finished"
  | .senderStarted => "Notification sender started"
  | .consumingFailed _ => "Unable to consume notifications"
  | .deliverySkipped _ => "Skipping a notification that could not be received"
  | .deliveryEnded => "The broker stopped delivering notifications"
  | .notificationReceived _ => "Received event notification"
  | .alreadyReceived _ => "The event notification was already received"
  | .recordingFailed .. => "Unable to record the event notification"
  | .senderStopped => "Notification sender stopped"
  | .operationFailed => "Use case error"
  | .listening port => s!"Listening on port: {port}"
  | .senderFailed _ => "The notification sender failed"
  | .jobFailed => "A job scheduler failed"
  | .schedulerIsolated =>
    "The scheduler only sees its own inmemory events without a DATABASE_URL"
  | .interrupted role => s!"Received Ctrl-C, stopping the {role.name}"

private def windowFields (w : TimeSpan) : List (String × FieldValue) :=
  [("from", .integer w.start.seconds), ("to", .integer w.stop.seconds)]

def fields : Notice → List (String × FieldValue)
  | .messageDropped attempts => [("attempts", .integer attempts)]
  | .schedulerStarted interval => [("interval", .text interval.text)]
  | .noRemindersDue w | .noneExpired w => windowFields w
  | .dueQueryFailed e | .expiredQueryFailed e => [("error", .text e.message)]
  | .connectionNotClosed e | .channelNotOpened e | .channelNotClosed e | .consumingFailed e
  | .deliverySkipped e | .senderFailed e => [("error", .text e.message)]
  | .publishFailed id e => [("event_id", .text id), ("error", .text e.message)]
  | .removalFailed id e | .recordingFailed id e =>
    [("event_id", .text id), ("error", .text e.message)]
  | .dispatchFinished count | .cleanupFinished count => [("count", .integer count)]
  | .alreadyRemoved id | .alreadyReceived id => [("event_id", .text id)]
  | .notificationReceived n =>
    [("event_id", .text n.eventId), ("title", .text n.title), ("date", .integer n.date.seconds),
      ("user_id", .text n.userId)]
  | _ => []

end Notice
end Agenda
