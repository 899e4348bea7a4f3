import Agenda.Json.Error

/-! How a call to the message broker fails. -/
namespace Agenda

inductive BrokerError
  | channelNotOpen
  | notConsuming
  | alreadyConsuming
  | connection (reason : String)
  | publish (reason : String)
  | undecodable (e : Json.ReadError)
  | backend (reason : String)
deriving DecidableEq

def Json.ReadError.message : ReadError → String
  | .malformed => "the text is malformed"
  | .truncated => "the text ends too early"
  | .mismatch m => m.message

def BrokerError.message : BrokerError → String
  | .channelNotOpen => "The channel is not open"
  | .notConsuming => "The consumer has not started consuming"
  | .alreadyConsuming => "The channel is already consuming, reopen it to consume again"
  | .connection reason => s!"Unable to connect to the broker: {reason}"
  | .publish reason => s!"Unable to publish the message: {reason}"
  | .undecodable e => s!"Unable to decode the notification: {e.message}"
  | .backend reason => s!"The broker failed: {reason}"

end Agenda
