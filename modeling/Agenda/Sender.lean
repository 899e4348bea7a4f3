import Agenda.Call

/-! The notification sender: it records the notifications that it is handed until it is stopped or
the broker ends the delivery. Channel and connection are closed also when consuming fails. -/
namespace Agenda

/-- What the sender does next. `outcome` is how consuming ended, `closed` how the channel was
closed. -/
inductive Sender
  | openChannel
  | beginConsume
  | receive
  | listening
  | record (n : Notification)
  | closeChannel (outcome : Except BrokerError Unit)
  | closeConnection (outcome closed : Except BrokerError Unit)
  | finished (result : Except BrokerError Unit)

namespace Sender

def start : Sender := .openChannel

/-- The first failure of two results, in order. -/
def first : Except BrokerError Unit → Except BrokerError Unit → Except BrokerError Unit
  | .ok (), next => next
  | .error e, _ => .error e

/-- A call without which nothing can be consumed. -/
def required (next : Sender) (notices : List Notice) :
    Except BrokerError Unit → Sender × List Notice
  | .ok () => (next, notices)
  | .error e => (.closeChannel (.error e), [.consumingFailed e])

def move : Sender → Move Sender
  | .openChannel => .ask (.consume .openChannel) fun
    | .ok () => (.beginConsume, [])
    | .error e => (.finished (.error e), [])
  | .beginConsume => .ask (.consume .beginConsume) (required .receive [])
  | .receive => .ask (.consume .receive) (required .listening [.senderStarted])
  | .listening => .listen fun
    | .delivery (.ok n) => (.record n, [.notificationReceived n])
    | .delivery (.error e) => (.listening, [.deliverySkipped e])
    | .ended => (.closeChannel (.ok ()), [.deliveryEnded])
    | .cancelled => (.closeChannel (.ok ()), [])
  | .record n => .ask (.record n) fun
    | .ok () => (.listening, [])
    | .error (.conflict _) => (.listening, [.alreadyReceived n.eventId])
    | .error e => (.listening, [.recordingFailed n.eventId e])
  | .closeChannel outcome => .ask (.consume .closeChannel) fun closed =>
    (.closeConnection outcome closed, [])
  | .closeConnection outcome closed => .ask (.consume .closeConnection) fun disconnected =>
    (.finished (first (first outcome closed) disconnected), [.senderStopped])
  | .finished _ => .halt

instance : Machine Sender := ⟨move⟩

end Sender
end Agenda
