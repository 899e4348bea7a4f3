import Agenda.Proofs.Broker.Acknowledging
import Agenda.Proofs.Json.Layout
import Agenda.Proofs.Pipeline.Arrival
import Agenda.Proofs.Pipeline.Reception

/-! Notifications from others than this version of the scheduler. A payload may have its members in
any order and layout, and members that nobody knows; a notification is made of it only if each of
its own members comes once. -/
namespace Agenda

open Json

namespace Notification

/-- The names of its members. -/
def keys : List String := ["event_id", "title", "date", "user_id"]

/-- Among these members are those of the notification, each of them once and in any order. All
others have other names. -/
def CarriedBy (n : Notification) (ms : List Entry) : Prop :=
  ∃ id title date user others, ms.Perm (id :: title :: date :: user :: others) ∧
    id.IsText "event_id" n.eventId ∧ title.IsText "title" n.title ∧
    date.IsInteger "date" n.date.seconds ∧ user.IsText "user_id" n.userId ∧
    ∀ m ∈ others, ∀ key ∈ keys, ¬ m.IsNamed key

variable {n : Notification} {ms : List Entry} {text : Bytes}

theorem ofBytes_carried (object : IsObject ms text) (carried : n.CarriedBy ms)
    (named : ∀ m ∈ ms, ∃ s, m.IsNamed s) : ofBytes text = .ok n := by
  obtain ⟨id, title, date, user, others, order, isId, isTitle, isDate, isUser, foreign⟩ := carried
  have listed {m : Entry} (member : m ∈ others) : m ∈ ms :=
    order.mem_iff.mpr (by simp [member])
  obtain ⟨members, denoted⟩ := exists_denoted fun m other => named m (listed other)
  have skipped : Fields.done.Gives members () := by
    intro m member
    obtain ⟨e, other, -, value⟩ := exists_of_mem_right denoted member
    exact value ▸ IsJson.isSkipped (object.values e (listed other))
  have apart (key : String) (known : key ∈ keys) : key ∉ members.map (·.1) := by
    intro present
    obtain ⟨m, member, rfl⟩ := List.mem_map.mp present
    obtain ⟨e, other, own, -⟩ := exists_of_mem_right denoted member
    exact foreign e other _ known own
  have denotes : List.Forall₂ Entry.Denotes (id :: title :: date :: user :: others)
      (("event_id", id.value) :: ("title", title.value) :: ("date", date.value) ::
        ("user_id", user.value) :: members) :=
    .cons ⟨isId.named, rfl⟩ <| .cons ⟨isTitle.named, rfl⟩ <| .cons ⟨isDate.named, rfl⟩ <|
      .cons ⟨isUser.named, rfl⟩ denoted
  refine Codec.decode_reordered object order denotes (.cons isId.spells ?_
    (.cons isTitle.spells ?_ (.cons isDate.spells ?_ (.cons isUser.spells ?_ skipped none) none)
      none) none) rfl _ _ _
  · simpa using apart "event_id" (by decide)
  · simpa using apart "title" (by decide)
  · simpa using apart "date" (by decide)
  · exact apart "user_id" (by decide)

theorem ofBytes_defective (object : IsObject ms text)
    (defect : (∃ m ∈ ms, ∀ s, ¬ m.IsNamed s) ∨
      ∃ key ∈ keys, LeftOut key ms ∨ Repeated key ms) : ∃ e, ofBytes text = .error e := by
  unfold ofBytes codec
  refine Codec.decode_defective object ?_ (defect.imp_right ?_) _ _ _
  · exact ⟨Codec.text_measured, Codec.text_measured, Codec.timestamp_measured,
      Codec.text_measured, trivial⟩
  · rintro ⟨key, known, defect⟩
    refine ⟨key, ?_, defect⟩
    simp only [keys, List.mem_cons, List.not_mem_nil, or_false] at known
    rcases known with rfl | rfl | rfl | rfl <;> simp [Fields.Requires]

end Notification

/-! ## From the queue to the storage -/

/-- What a stream that is awake finds at the front of the queue. -/
theorem LocalBroker.poll_front {b : LocalBroker} {stream : Nat} (awake : stream ∉ b.bell.asleep)
    {d : Delivery} {rest : List Delivery} (front : b.queue.messages = d :: rest) :
    ∃ notices back, (b.poll stream).item = some d.item ∧
      Queue.Fate b.queue.maxDeliver d notices back ∧
      (b.poll stream).broker.queue.messages = rest ++ back := by
  rcases b.poll_cases stream with ⟨-, -, asleep | empty⟩ | ⟨-, t, taken, item, queue⟩
  · exact absurd asleep awake
  · rw [front] at empty
    cases empty
  · obtain ⟨d', rest', back, front', handed, -, fate, -, after⟩ := Queue.take_fate taken
    rw [front] at front'
    cases front'
    exact ⟨_, back, item.trans (congrArg some handed), fate, queue ▸ after⟩

namespace Reception

/-- The sender listens, its stream is awake, and this message is at the front of the queue. -/
structure Faces (x : Reception) (d : Delivery) (rest : List Delivery) : Prop where
  listening : x.sender = .listening
  awake : ∃ stream, x.endpoint.stream = some stream ∧ stream ∉ x.service.broker.bell.asleep
  front : x.service.broker.queue.messages = d :: rest

/-- The notification has been passed to the storage, which keeps it unless it has one of the same
event, and the message does not come back. -/
structure Records (n : Notification) (rest : List Delivery) (x y : Reception) : Prop where
  listening : y.sender = .listening
  queue : y.service.broker.queue.messages = rest
  filed : ∃ a, y.log = x.log ++ [⟨.record n, a⟩] ∧
    NotificationStore.Filing n x.service.notifications a y.service.notifications

/-- Nothing has been recorded, and the message comes back after one more try unless this was the
last. -/
structure PutsBack (d : Delivery) (rest : List Delivery) (x y : Reception) : Prop where
  listening : y.sender = .listening
  queue : y.service.broker.queue.messages = rest ++
    if d.attempts + 1 < x.service.broker.queue.maxDeliver then [⟨d.payload, d.attempts + 1⟩] else []
  log : y.log = x.log
  notifications : y.service.notifications = x.service.notifications

variable {x : Reception} {d : Delivery} {rest : List Delivery}

theorem Faces.look (h : x.Faces d rest) : ∃ broker notices back,
    Queue.Fate x.service.broker.queue.maxDeliver d notices back ∧
    broker.queue.messages = rest ++ back ∧
    x.look = { x with
      service := { x.service with broker }
      sender := Sender.heard d.item
      taken := x.taken ++ [d.payload] } := by
  obtain ⟨stream, taken, awake⟩ := h.awake
  obtain ⟨notices, back, item, fate, after⟩ := LocalBroker.poll_front awake h.front
  refine ⟨_, notices, back, fate, after, ?_⟩
  have polled : x.service.poll x.endpoint =
      (some d.item, (x.service.broker.poll stream).notices,
        { x.service with broker := (x.service.broker.poll stream).broker }) := by
    simp only [LocalService.poll, taken, item]
  simp only [Reception.look, Machine.move, Sender.move, h.listening, polled, h.front,
    List.take_succ_cons, List.take_zero, List.map_cons, List.map_nil]
  cases d.item <;> rfl

theorem Faces.records (h : x.Faces d rest) {n : Notification}
    (decoded : Notification.ofBytes d.payload = .ok n) :
    Records n rest x (x.run [.look, .call]) := by
  obtain ⟨broker, notices, back, fate, queue, looked⟩ := h.look
  have sees : d.item = .ok n := Delivery.item_readable decoded
  have gone : back = [] := by
    cases fate with
    | acknowledged | dropped => rfl
    | putBack undecodable =>
      simp [Delivery.isReadable, Notification.isReadable, Notification.read?, decoded,
        Except.toOption] at undecodable
  rw [sees, Sender.heard] at looked
  rw [gone, List.append_nil] at queue
  obtain ⟨notifications, after, filing⟩ :=
    ({ x.service with broker } : LocalService).answer_filing x.endpoint n
  change Records n rest x (x.look.ask LocalService.answer)
  rw [looked]
  simp only [ask, Machine.move, Sender.move]
  generalize LocalService.answer _ x.endpoint (.record n) = told at after filing
  obtain ⟨a, endpoint, service⟩ := told
  cases after
  refine ⟨?_, queue, a, rfl, filing⟩
  rcases filing.told with rfl | rfl <;> rfl

theorem Faces.putsBack (h : x.Faces d rest) {e : ReadError}
    (refused : Notification.ofBytes d.payload = .error e) :
    PutsBack d rest x (x.run [.look]) := by
  obtain ⟨broker, notices, back, fate, queue, looked⟩ := h.look
  have sees : d.item = .error (.undecodable e) := by simp only [Delivery.item, refused]
  rw [sees, Sender.heard] at looked
  change PutsBack d rest x x.look
  rw [looked]
  refine ⟨rfl, queue.trans (congrArg (rest ++ ·) ?_), rfl, rfl⟩
  cases fate with
  | acknowledged decoded =>
    simp [Delivery.isReadable, Notification.isReadable, Notification.read?, refused,
      Except.toOption] at decoded
  | putBack _ allowed => exact (if_pos allowed).symm
  | dropped _ spent => exact (if_neg (Nat.not_lt.mpr spent)).symm

end Reception

/-- **Notifications are read from whatever says them once.** A payload is an object whose members
are those of a notification, each of them once, among others with texts for names and any values, in
whatever order, layout and spelling: then it is read as that notification, which is acknowledged and
recorded and does not come back. A payload in which a member is missing or comes twice, or has a
name that is no text, is refused, whatever else is in it: it is put back or, on a server, not
acknowledged, and no notification is recorded. -/
theorem notification_tolerant {ms : List Entry} {text : Bytes} (object : IsObject ms text) :
    (∀ n : Notification, n.CarriedBy ms → (∀ m ∈ ms, ∃ s, m.IsNamed s) →
      Notification.ofBytes text = .ok n ∧
      (∀ number server,
        Session.receive ⟨number, text⟩ server = (.ok n, server.acknowledge number)) ∧
      ∀ (x : Reception) (attempts : Nat) (rest : List Delivery), x.Faces ⟨text, attempts⟩ rest →
        Reception.Records n rest x (x.run [.look, .call])) ∧
    ((∃ m ∈ ms, ∀ s, ¬ m.IsNamed s) ∨
        (∃ key ∈ Notification.keys, LeftOut key ms ∨ Repeated key ms) →
      ∃ e, Notification.ofBytes text = .error e ∧
        (∀ number server,
          Session.receive ⟨number, text⟩ server = (.error (.undecodable e), server)) ∧
        ∀ (x : Reception) (attempts : Nat) (rest : List Delivery), x.Faces ⟨text, attempts⟩ rest →
          Reception.PutsBack ⟨text, attempts⟩ rest x (x.run [.look])) := by
  constructor
  · intro n carried named
    have decoded := Notification.ofBytes_carried object carried named
    refine ⟨decoded, fun number server => ?_, fun x attempts rest faces => faces.records decoded⟩
    simp only [Session.receive, decoded, BrokerServer.ask_acknowledge, if_true]
  · intro defect
    obtain ⟨e, refused⟩ := Notification.ofBytes_defective object defect
    refine ⟨e, refused, fun number server => ?_, fun x _ rest faces => faces.putsBack refused⟩
    simp only [Session.receive, refused]

namespace Notification

def concert : Notification := ⟨"e1", "Concert", .zero, "ann"⟩

/-- Its members in another order, with blanks here and there, a name and a text spelled in another
way, and a member that nobody asks for. -/
def disguised : Bytes :=
  Text.bytes ("\x7b \"seat\":[\x7b\x7d,-1],\"user_id\" : \"ann\",\n\"date\":0," ++
    "\"\\u0074itle\":\"\\u0043oncert\" ,\"event_id\":\"e1\"\x7d ")

def disguisedMembers : List Entry :=
  [⟨inner "seat", Text.bytes "[\x7b\x7d,-1]"⟩, ⟨inner "user_id", 0x20 :: quoted (inner "ann")⟩,
    ⟨inner "date", Text.bytes "0"⟩,
    ⟨escape (Text.bytes "0074") ++ inner "itle",
      quoted (escape (Text.bytes "0043") ++ inner "oncert")⟩,
    ⟨inner "event_id", quoted (inner "e1")⟩]

theorem escaped_title :
    Spelling (escape (Text.bytes "0074") ++ inner "itle") (Text.bytes "title") :=
  .single (.digits (w := 0) (x := 0) (y := 7) (z := 4) rfl rfl rfl rfl) (by unfold IsHigh; decide)
    (by unfold IsLow; decide) (spelling_inner "itle")

theorem escaped_concert :
    Spelling (escape (Text.bytes "0043") ++ inner "oncert") (Text.bytes "Concert") :=
  .single (.digits (w := 0) (x := 0) (y := 4) (z := 3) rfl rfl rfl rfl) (by unfold IsHigh; decide)
    (by unfold IsLow; decide) (spelling_inner "oncert")

theorem concert_disguised : concert.CarriedBy disguisedMembers := by
  have own (s : String) (v : Bytes) : Entry.IsNamed ⟨inner s, v⟩ s := spelling_inner s
  refine ⟨_, _, _, _, [_], (List.reverse_perm disguisedMembers).symm, ⟨own _ _, ?_⟩,
    ⟨escaped_title, ?_⟩, ⟨own _ _, [], rfl, by decide⟩, ⟨own _ _, ?_⟩, ?_⟩
  · exact ⟨[], _, rfl, by decide, spelling_inner "e1"⟩
  · exact ⟨[], _, rfl, by decide, escaped_concert⟩
  · exact ⟨[0x20], _, rfl, by decide, spelling_inner "ann"⟩
  · rintro m (_ | ⟨_, ⟨⟩⟩) key known named
    obtain rfl := (own "seat" _).unique named
    exact absurd known (by decide)

theorem zero_value : IsValue (Text.bytes "0") :=
  .scalar (b := []) (by decide) (.number (.parts (.inl rfl) .zero .none .none))

theorem seat_value : IsValue (Text.bytes "[\x7b\x7d,-1]") := by
  have one : IsWhole [0x31] := .digits (by decide) (by decide)
  have blank : IsBlanks [] := nofun
  have number : IsJson .value (Text.bytes "-1") :=
    .scalar (b := []) (by decide) (.number (.parts (.inr rfl) one .none .none))
  have inside := IsJson.next (e := ⟨[], [openBrace, closeBrace]⟩) (b := []) (.element rfl)
    (.empty (b := []) .object (by decide) blank) (by decide)
    (.last (e := ⟨[], Text.bytes "-1"⟩) (b := []) (.element rfl) number (by decide))
  exact .nested (b := []) (by decide) inside

theorem disguised_object : IsObject disguisedMembers disguised := by
  have title : IsValue (quoted (escape (Text.bytes "0043") ++ inner "oncert")) :=
    .scalar (b := []) (by decide) (.text escaped_concert.isInner)
  have user : IsValue (0x20 :: quoted (inner "ann")) :=
    .scalar (b := [0x20]) (by decide) (.text (spelling_inner "ann").isInner)
  have members : IsJson (.entries .object disguisedMembers) _ :=
    .next (b := []) (.member (a := [0x20]) (b := []) (by decide) (spelling_inner _).isInner
      (by decide)) seat_value (by decide) <|
    .next (b := []) (.member (a := []) (b := [0x20]) (by decide) (spelling_inner _).isInner
      (by decide)) user (by decide) <|
    .next (b := []) (.member (a := [0x0A]) (b := []) (by decide) (spelling_inner _).isInner
      (by decide)) zero_value (by decide) <|
    .next (b := [0x20]) (.member (a := []) (b := []) (by decide) escaped_title.isInner (by decide))
      title (by decide) <|
    .last (b := []) (Fields.leads_inner "event_id") (isValue_inner "e1") (by decide)
  have object := IsObject.members (a := []) (b := [0x20]) (by decide) members (by decide)
  refine (congrArg (IsObject _) ?_).mp object
  decide

theorem disguised_named : ∀ m ∈ disguisedMembers, ∃ s, m.IsNamed s := by
  simp only [disguisedMembers, List.mem_cons, List.not_mem_nil, or_false]
  rintro m (rfl | rfl | rfl | rfl | rfl)
  · exact ⟨_, spelling_inner "seat"⟩
  · exact ⟨_, spelling_inner "user_id"⟩
  · exact ⟨_, spelling_inner "date"⟩
  · exact ⟨_, escaped_title⟩
  · exact ⟨_, spelling_inner "event_id"⟩

end Notification

open Notification in
/-- A sender that listens, and the disguised payload in the queue. -/
def disguisedReception : Reception :=
  (Reception.new { LocalService.new 5 with broker := (LocalBroker.new 5).publish disguised }
    .new).run [.call, .call, .call]

open Notification in
/-- The concert is recorded, and nothing is made of an object without members. -/
theorem concert_recorded :
    (IsObject disguisedMembers disguised ∧ concert.CarriedBy disguisedMembers ∧
      Notification.ofBytes disguised = .ok concert ∧
      let x := disguisedReception.run [.look, .call]
      x.service.broker.queue.messages = [] ∧ x.service.notifications.find? "e1" = some concert) ∧
    ∃ e, Notification.ofBytes [openBrace, closeBrace] = .error e := by
  obtain ⟨reads, -⟩ := notification_tolerant disguised_object
  obtain ⟨decoded, -, records⟩ := reads concert concert_disguised disguised_named
  have faces : disguisedReception.Faces ⟨disguised, 0⟩ [] :=
    ⟨rfl, ⟨0, rfl, List.not_mem_nil⟩, rfl⟩
  have recorded := records disguisedReception 0 [] faces
  obtain ⟨a, -, filing⟩ := recorded.filed
  have blank : IsBlanks [] := nofun
  have empty : IsObject [] [openBrace, closeBrace] := .empty blank blank blank
  obtain ⟨-, refuses⟩ := notification_tolerant empty
  obtain ⟨e, refused, -⟩ := refuses (.inr ⟨"title", by decide, .inl fun _ => nofun⟩)
  exact ⟨⟨disguised_object, concert_disguised, decoded, recorded.queue, filing.find? "e1"⟩, e,
    refused⟩

namespace Notification

/-- The concert with one more member, whose name is half of a pair. -/
def halfNamed : List Entry :=
  [⟨inner "event_id", quoted (inner "e1")⟩, ⟨inner "title", quoted (inner "Concert")⟩,
    ⟨inner "date", Text.bytes "0"⟩, ⟨inner "user_id", quoted (inner "ann")⟩,
    ⟨escape (Text.bytes "d800"), Text.bytes "0"⟩]

theorem half_nameless (v : Bytes) (s : String) :
    ¬ Entry.IsNamed ⟨escape (Text.bytes "d800"), v⟩ s := by
  intro named
  have read := readString_spelling named []
  have refused : readString (escape (Text.bytes "d800") ++ [quote]) = .error .malformed := by decide
  rw [refused] at read
  cases read

theorem concert_halfNamed : concert.CarriedBy halfNamed := by
  have own (s : String) (v : Bytes) : Entry.IsNamed ⟨inner s, v⟩ s := spelling_inner s
  refine ⟨_, _, _, _, [_], .refl _, ⟨own _ _, ?_⟩, ⟨own _ _, ?_⟩, ⟨own _ _, [], rfl, by decide⟩,
    ⟨own _ _, ?_⟩, ?_⟩
  · exact ⟨[], _, rfl, by decide, spelling_inner "e1"⟩
  · exact ⟨[], _, rfl, by decide, spelling_inner "Concert"⟩
  · exact ⟨[], _, rfl, by decide, spelling_inner "ann"⟩
  · rintro m (_ | ⟨_, ⟨⟩⟩) key known
    exact half_nameless _ key

theorem halfNamed_object : IsObject halfNamed (Text.bytes
    ("\x7b\"event_id\":\"e1\",\"title\":\"Concert\",\"date\":0,\"user_id\":\"ann\"," ++
      "\"\\ud800\":0\x7d")) := by
  have half : IsInner (escape (Text.bytes "d800")) :=
    .unit (.digits (w := 13) (x := 8) (y := 0) (z := 0) rfl rfl rfl rfl) .nil
  have members : IsJson (.entries .object halfNamed) _ :=
    .next (b := []) (Fields.leads_inner "event_id") (isValue_inner "e1") (by decide) <|
    .next (b := []) (Fields.leads_inner "title") (isValue_inner "Concert") (by decide) <|
    .next (b := []) (Fields.leads_inner "date") zero_value (by decide) <|
    .next (b := []) (Fields.leads_inner "user_id") (isValue_inner "ann") (by decide) <|
    .last (b := []) (.member (a := []) (b := []) (by decide) half (by decide)) zero_value
      (by decide)
  have object := IsObject.members (a := []) (b := []) (by decide) members (by decide)
  refine (congrArg (IsObject _) ?_).mp object
  decide

/-- Names that nobody asks for are read all the same, and have to be texts. -/
theorem nameless_refused : ¬ ∀ (n : Notification) (ms : List Entry) (text : Bytes),
    IsObject ms text → n.CarriedBy ms → ofBytes text = .ok n := by
  intro always
  have read := always _ _ _ halfNamed_object concert_halfNamed
  obtain ⟨e, refused⟩ := ofBytes_defective halfNamed_object
    (.inl ⟨_, .tail _ (.tail _ (.tail _ (.tail _ (.head _)))), half_nameless _⟩)
  rw [refused] at read
  cases read

end Notification
end Agenda
