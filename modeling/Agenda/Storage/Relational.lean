import Agenda.Call
import Agenda.Storage.Query
import Agenda.Storage.Relational.Table

/-! The storage in a relational database. Every change is one conditional statement, and the number
of rows that it affected tells whether the condition held. -/
namespace Agenda

open Relational (Row Table Value)

namespace Relational

def ofEvent (e : Event) : Row :=
  [("id", .text e.id), ("title", .text e.title), ("start_date", .integer e.startDate),
    ("end_date", .integer e.endDate), ("description", .text e.description),
    ("owner_id", .text e.ownerId), ("remind_in", .integer e.remindIn)]

def toEvent? (r : Row) : Option Event :=
  match r.text? "id", r.text? "title", r.integer? "start_date", r.integer? "end_date",
    r.text? "description", r.text? "owner_id", r.integer? "remind_in" with
  | some id, some title, some startDate, some endDate, some description, some ownerId,
    some remindIn => some { id, title, startDate, endDate, description, ownerId, remindIn }
  | _, _, _, _, _, _, _ => none

def ofNotification (n : Notification) : Row :=
  [("event_id", .text n.eventId), ("title", .text n.title), ("date", .integer n.date),
    ("user_id", .text n.userId)]

def toNotification? (r : Row) : Option Notification :=
  match r.text? "event_id", r.text? "title", r.integer? "date", r.text? "user_id" with
  | some eventId, some title, some date, some userId => some { eventId, title, date, userId }
  | _, _, _, _ => none

end Relational

structure RelationalStore where
  events : Table
  notifications : Table
  /-- Whether the database refuses to run any statement. -/
  broken : Bool

namespace RelationalStore

open Relational

def new : RelationalStore := ⟨.empty, .empty, false⟩

def refusal : StorageError := .backend "the statement was refused"

/-- Whether a statement with these parameters is run at all. -/
def accepts (s : RelationalStore) (parameters : List Value) : Bool :=
  !s.broken && parameters.all Value.isStorable

/-- The answer to a statement that has to affect a row, and the table after it. -/
def judge (missing : StorageError) (affected : Table.Affected) : Except StorageError Table :=
  if affected.2 = 0 then .error missing else .ok affected.1

def insert (s : RelationalStore) (e : Event) : Except StorageError RelationalStore :=
  let row := ofEvent e
  if s.accepts (row.map (·.2)) then
    (judge (.conflict e.id) (s.events.insertUnlessTaken "id" row)).map ({ s with events := · })
  else .error refusal

def save (s : RelationalStore) (e : Event) : Except StorageError RelationalStore :=
  let row := ofEvent e
  if s.accepts (row.map (·.2)) then
    (judge (.notFound e.id) (s.events.update "id" (.text e.id) (row.drop 1))).map
      ({ s with events := · })
  else .error refusal

def delete (s : RelationalStore) (id : String) : Except StorageError RelationalStore :=
  if s.accepts [.text id] then
    (judge (.notFound id) (s.events.delete "id" (.text id))).map ({ s with events := · })
  else .error refusal

/-- The events whose number in a column lies in a span. -/
def findBetween (s : RelationalStore) (column : String) (span : TimeSpan) :
    Except StorageError (List Event) :=
  if s.accepts [] then
    match (s.events.selectBetween column span.start span.stop [column, "id"]).mapM toEvent? with
    | none => .error refusal
    | some found => Query.answer found
  else .error refusal

def findByStartDate (s : RelationalStore) (span : TimeSpan) : Except StorageError (List Event) :=
  s.findBetween "start_date" span

def findByRemindIn (s : RelationalStore) (span : TimeSpan) : Except StorageError (List Event) :=
  s.findBetween "remind_in" span

def record (s : RelationalStore) (n : Notification) : Except StorageError RelationalStore :=
  let row := ofNotification n
  if s.accepts (row.map (·.2)) then
    (judge (.conflict n.eventId) (s.notifications.insertUnlessTaken "event_id" row)).map
      ({ s with notifications := · })
  else .error refusal

def notification (s : RelationalStore) (id : String) : Except StorageError Notification :=
  if s.accepts [.text id] then
    match s.notifications.find? "event_id" (.text id) with
    | none => .error (.notFound id)
    | some row => match toNotification? row with
      | none => .error refusal
      | some n => .ok n
  else .error refusal

/-- A statement that fails leaves the tables as they are. -/
def storing (s : RelationalStore) :
    Except StorageError RelationalStore → Except StorageError Unit × RelationalStore
  | .ok s => (.ok (), s)
  | .error e => (.error e, s)

/-- A storage has no channels to a broker. -/
def answer (s : RelationalStore) : (c : Call) → c.Answer × RelationalStore
  | .insert e => s.storing (s.insert e)
  | .save e => s.storing (s.save e)
  | .delete id => s.storing (s.delete id)
  | .findByStartDate span => (s.findByStartDate span, s)
  | .findByRemindIn span => (s.findByRemindIn span, s)
  | .record n => s.storing (s.record n)
  | .produce _ | .consume _ => (.error .channelNotOpen, s)

end RelationalStore
end Agenda
