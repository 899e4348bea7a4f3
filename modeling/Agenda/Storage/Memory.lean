import Agenda.Notification
import Agenda.Storage.Collection
import Agenda.Storage.Query

/-! The storage in memory: events and recorded notifications, one of each to an id. -/
namespace Agenda

abbrev EventStore := Collection Event
abbrev NotificationStore := Collection Notification

namespace EventStore

def insert (s : EventStore) (e : Event) : Except StorageError EventStore :=
  Collection.insert s e.id e

def save (s : EventStore) (e : Event) : Except StorageError EventStore :=
  Collection.save s e.id e

def findByStartDate (s : EventStore) (span : TimeSpan) : Except StorageError (List Event) :=
  Query.answer (Query.select (·.startsWithin span) (·.startDate) s.items)

def findByRemindIn (s : EventStore) (span : TimeSpan) : Except StorageError (List Event) :=
  Query.answer (Query.select (·.remindsWithin span) (·.remindIn) s.items)

end EventStore

def NotificationStore.record (s : NotificationStore) (n : Notification) :
    Except StorageError NotificationStore :=
  Collection.insert s n.eventId n

end Agenda
