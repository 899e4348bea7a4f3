import Agenda.Event

/-! The reminder of an event as it travels to its owner. -/
namespace Agenda

/-- `date` is the start of the event and `userId` its owner. -/
structure Notification where
  eventId : String
  title : String
  date : Timestamp
  userId : String
deriving DecidableEq

def Notification.ofEvent (e : Event) : Notification where
  eventId := e.id
  title := e.title
  date := e.startDate
  userId := e.ownerId

end Agenda
