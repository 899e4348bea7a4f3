import Agenda.Proofs.Scheduler.Publishing
import Agenda.Proofs.Scheduler.Transcript

/-! The batches of a run: what dispatch cycles ask of the producer. A cycle that has found events
opens the channel, publishes one event after another and closes the channel, whatever comes of the
calls in between. -/
namespace Agenda.Rehearsal

/-- A producer call and its answer. -/
abbrev Reply := ProducerCall × Except BrokerError Unit

def Moment.request? : Moment → Option Call
  | .made c => some c
  | .told _ _ => none

def Moment.reply? : Moment → Option Reply
  | .told (.produce call) answer => some (call, answer)
  | _ => none

def producerCall? : Call → Option ProducerCall
  | .produce call => some call
  | _ => none

/-- The calls that are made. -/
def requests (transcript : List Moment) : List Call := transcript.filterMap Moment.request?

/-- The producer calls that are made. -/
def produced (transcript : List Moment) : List ProducerCall :=
  (requests transcript).filterMap producerCall?

/-- The producer calls that are answered. -/
def replies (transcript : List Moment) : List Reply := transcript.filterMap Moment.reply?

section Parts

variable (earlier later : List Moment)

@[simp] theorem requests_append :
    requests (earlier ++ later) = requests earlier ++ requests later :=
  List.filterMap_append

@[simp] theorem produced_append :
    produced (earlier ++ later) = produced earlier ++ produced later := by
  simp only [produced, requests_append, List.filterMap_append]

@[simp] theorem replies_append :
    replies (earlier ++ later) = replies earlier ++ replies later :=
  List.filterMap_append

end Parts

/-! ## Batches -/

/-- The calls that an open channel is used for: one publication for each event, and the end. -/
def announcements (due : List Event) : List ProducerCall :=
  due.map (fun e => .publish (payload e)) ++ [.closeChannel]

/-- The producer calls of a cycle that has found events. -/
inductive Batch : List Reply → Prop
  | refused (e : BrokerError) : Batch [(.openChannel, .error e)]
  | complete {due : List Event} {rest : List Reply} : due ≠ [] →
      rest.map Prod.fst = announcements due → Batch ((.openChannel, .ok ()) :: rest)

/-- Some batches, and then the rest. -/
def Batched (rest whole : List Reply) : Prop :=
  ∃ batches : List (List Reply), (∀ b ∈ batches, Batch b) ∧ whole = batches.flatten ++ rest

/-- A batch has begun, and these calls are missing; or none has begun, and none are missing. -/
def Underway (begun : List Reply) (missing : List ProducerCall) : Prop :=
  begun = [] ∧ missing = [] ∨ missing ≠ [] ∧ ∃ due done, due ≠ [] ∧
    begun = (.openChannel, .ok ()) :: done ∧ done.map Prod.fst ++ missing = announcements due

theorem Underway.begun_eq_nil {begun : List Reply} (h : Underway begun []) : begun = [] := by
  rcases h with ⟨rfl, -⟩ | ⟨missing, -⟩
  · rfl
  · exact absurd rfl missing

theorem Batched.append {begun rest batch new whole : List Reply} (h : Batched begun whole)
    (split : begun ++ new = batch ++ rest) (complete : batch = [] ∨ Batch batch) :
    Batched rest (whole ++ new) := by
  obtain ⟨batches, all, rfl⟩ := h
  rcases complete with rfl | complete
  · exact ⟨batches, all, by rw [List.append_assoc, split, List.nil_append]⟩
  · refine ⟨batches ++ [batch], ?_, ?_⟩
    · intro b member
      rcases List.mem_append.mp member with earlier | last
      · exact all b earlier
      · exact List.mem_singleton.mp last ▸ complete
    · rw [List.append_assoc, split, List.flatten_append, List.flatten_singleton, List.append_assoc]

/-! ## Cycles -/

/-- The calls that are left of the batch of a cycle. -/
def owed : Dispatch → List ProducerCall
  | .publish e later _ => announcements (e :: later)
  | .closeChannel _ => announcements []
  | .query _ | .openChannel _ | .finished => []

theorem owed_proceed (count : Nat) (later : List Event) :
    owed (Dispatch.proceed count later) = announcements later := by
  cases later <;> rfl

theorem announcements_ne_nil (due : List Event) : announcements due ≠ [] :=
  List.append_ne_nil_of_right_ne_nil _ (List.cons_ne_nil _ _)

/-- The planned faults do not make the channel out to be closed. -/
def Candid (s : Stage) : Prop :=
  ∀ b, s.faults.find? (.produce (.publish b)) ≠ some (.failing .channelNotOpen)

/-- What an answer makes of a cycle, and whether its channel is open then. -/
inductive Moves (s : Scene) : Dispatch → List Reply → Dispatch → Bool → Prop
  | finds {window : TimeSpan} {due : List Event} {isOpen : Bool} : due ≠ [] →
      Moves s (.query window) [] (.openChannel due) isOpen
  | findsNone {window : TimeSpan} {isOpen : Bool} : Moves s (.query window) [] .finished isOpen
  | opens {due : List Event} : Moves s (.openChannel due) [(.openChannel, .ok ())]
      (Dispatch.proceed due.length due) true
  | isRefused {due : List Event} {e : BrokerError} {isOpen : Bool} :
      Moves s (.openChannel due) [(.openChannel, .error e)] .finished isOpen
  | publishes {e : Event} {later : List Event} {count : Nat} {answer : Except BrokerError Unit} :
      (Candid s.stage → s.channelIsOpen = true → answer ≠ .error .channelNotOpen) →
      Moves s (.publish e later count) [(.publish (payload e), answer)]
        (Dispatch.proceed count later) s.channelIsOpen
  | closes {count : Nat} {answer : Except BrokerError Unit} {isOpen : Bool} :
      Moves s (.closeChannel count) [(.closeChannel, answer)] .finished isOpen

namespace Ends

variable {limit : Option Duration} {s s' : Scene}

/-- A query that succeeds has found something. -/
theorem found {window : TimeSpan} {a : (Call.findByRemindIn window).Answer}
    (h : Ends limit (.findByRemindIn window) s a s') {due : List Event} (ok : a = .ok due) :
    due ≠ [] := by
  cases h with
  | served =>
    obtain ⟨rfl, some⟩ := Query.answer_eq_ok.mp ok
    exact some
  | refused planned fails =>
    obtain ⟨storage, broker, rfl⟩ := Failure.answer?_failed fails
    cases ok
  | timedOut => cases ok

/-- A channel that is told to be open is open. -/
theorem opened {a : (Call.produce .openChannel).Answer}
    (h : Ends limit (.produce .openChannel) s a s') (ok : a = .ok ()) : s'.channelIsOpen = true := by
  cases h with
  | served after =>
    have endpoint : s'.seat.endpoint = _ := congrArg Prod.fst after
    rw [Scene.channelIsOpen, endpoint]
    rfl
  | refused planned fails =>
    obtain ⟨storage, broker, rfl⟩ := Failure.answer?_failed fails
    cases ok
  | timedOut => cases ok

theorem published {b : Bytes} {a : (Call.produce (.publish b)).Answer}
    (h : Ends limit (.produce (.publish b)) s a s') : s'.channelIsOpen = s.channelIsOpen ∧
      (Candid s.stage → s.channelIsOpen = true → a ≠ .error .channelNotOpen) := by
  cases h with
  | served after =>
    by_cases isOpen : s.channelIsOpen = true
    · rw [LocalService.answer_publish _ isOpen] at after ⊢
      refine ⟨congrArg (·.1.producer.isOpen) after, fun _ _ refused => ?_⟩
      cases refused
    · rw [LocalService.answer_publish_closed _ (Bool.eq_false_iff.mpr isOpen)] at after
      exact ⟨congrArg (·.1.producer.isOpen) after, fun _ yes => absurd yes isOpen⟩
  | @refused f a _ planned fails same =>
    refine ⟨by rw [Scene.channelIsOpen, same.seat]; rfl, fun candid _ closed => ?_⟩
    rw [closed] at fails
    cases f <;> first | exact candid b planned | cases fails
  | timedOut _ same =>
    refine ⟨by rw [Scene.channelIsOpen, same.seat]; rfl, fun _ _ refused => ?_⟩
    cases refused

end Ends

/-- A cycle that is about to open its channel has found events, and one that is about to publish has
opened it. -/
structure Prepared (isOpen : Bool) (d : Dispatch) : Prop where
  found : ∀ due, d = .openChannel due → due ≠ []
  channel : OpenFor isOpen d

theorem prepared_proceed {isOpen : Bool} (h : isOpen = true) (count : Nat) (later : List Event) :
    Prepared isOpen (Dispatch.proceed count later) where
  found := by cases later <;> nofun
  channel := openFor_of_open h _

namespace Moves

variable {s : Scene} {d d' : Dispatch} {told : List Reply} {isOpen : Bool}

theorem prepared (h : Moves s d told d' isOpen) (before : Prepared s.channelIsOpen d) :
    Prepared isOpen d' := by
  cases h with
  | finds some => exact ⟨fun due same => Dispatch.openChannel.inj same ▸ some, trivial⟩
  | opens => exact prepared_proceed rfl _ _
  | publishes => exact prepared_proceed before.channel _ _
  | findsNone | isRefused | closes => exact ⟨nofun, trivial⟩

/-- The batch goes on, or it is complete. -/
theorem batch (h : Moves s d told d' isOpen) (before : Prepared s.channelIsOpen d)
    {begun : List Reply} (underway : Underway begun (owed d)) :
    ∃ batch rest, begun ++ told = batch ++ rest ∧ (batch = [] ∨ Batch batch) ∧
      Underway rest (owed d') := by
  have unbegun (idle : owed d = []) : begun = [] := (idle ▸ underway).begun_eq_nil
  cases h with
  | finds | findsNone =>
    rw [unbegun rfl]
    exact ⟨[], [], rfl, .inl rfl, .inl ⟨rfl, rfl⟩⟩
  | isRefused =>
    rw [unbegun rfl]
    exact ⟨_, [], rfl, .inr (.refused _), .inl ⟨rfl, rfl⟩⟩
  | @opens due =>
    rw [unbegun rfl, owed_proceed]
    exact ⟨[], _, rfl, .inl rfl, .inr ⟨announcements_ne_nil _, due, [], before.found due rfl, rfl,
      rfl⟩⟩
  | @publishes e later count answer =>
    rcases underway with ⟨-, none⟩ | ⟨-, due, done, some, rfl, whole⟩
    · exact absurd none (announcements_ne_nil _)
    · rw [owed_proceed]
      refine ⟨[], _, rfl, .inl rfl, .inr ⟨announcements_ne_nil _, due,
        done ++ [(.publish (payload e), answer)], some, rfl, ?_⟩⟩
      rw [← whole, List.map_append, List.append_assoc]
      rfl
  | @closes count answer =>
    rcases underway with ⟨-, none⟩ | ⟨-, due, done, some, rfl, whole⟩
    · exact absurd none (announcements_ne_nil _)
    · have complete :
          (done ++ [((.closeChannel, answer) : Reply)]).map Prod.fst = announcements due := by
        rw [← whole, List.map_append]
        rfl
      exact ⟨_, [], (List.append_nil _).symm, .inr (.complete some complete), .inl ⟨rfl, rfl⟩⟩

/-- A call that is owed is answered before the next. -/
theorem pays (h : Moves s d told d' isOpen) :
    owed d = [] ∨ ∃ call, told.map Prod.fst = [call] ∧ owed d = call :: owed d' := by
  cases h with
  | finds | findsNone | opens | isRefused => exact .inl rfl
  | publishes =>
    rw [owed_proceed]
    exact .inr ⟨_, rfl, rfl⟩
  | closes => exact .inr ⟨_, rfl, rfl⟩

theorem accepted (h : Moves s d told d' isOpen) (candid : Candid s.stage)
    (before : Prepared s.channelIsOpen d) (b : Bytes) :
    (.publish b, .error .channelNotOpen) ∉ told := by
  intro member
  cases h with
  | finds | findsNone => cases member
  | opens | isRefused | closes =>
    have same := congrArg Prod.fst (List.mem_singleton.mp member)
    cases same
  | publishes accepted =>
    have same := congrArg Prod.snd (List.mem_singleton.mp member)
    exact accepted candid before.channel same.symm

end Moves

/-- What a step of a cycle comes to: the call waits, or its answer makes the cycle move. -/
theorem Performer.Turn.dispatch {p : Performer Dispatch} {limit : Duration} {s : Scene}
    {shown : List Moment} {q : Performer Dispatch × Scene} (h : p.Turn (some limit) s shown q) :
    (∃ due cut, p.phase = .acting ∧ replies shown = [] ∧ q.1 = ⟨p.state, .delayed due cut⟩ ∧
        due ≤ s.time + limit.milliseconds ∧ q.2.channelIsOpen = s.channelIsOpen) ∨
      q.1.phase = .acting ∧ Moves s p.state (replies shown) q.1.state q.2.channelIsOpen := by
  cases h with
  | waits _ acting same _ soon =>
    exact .inl ⟨_, _, acting, rfl, rfl, soon limit rfl, by rw [Scene.channelIsOpen, same.seat]; rfl⟩
  | @answered c next a s' asks ends =>
    have told : replies (p.issued?.toList.map .made ++ [.told c a]) = replies [.told c a] := by
      cases issued : p.issued? <;> rfl
    rw [told]
    refine .inr ⟨rfl, ?_⟩
    obtain ⟨state, phase⟩ := p
    cases state with
    | query window =>
      cases asks
      cases a with
      | ok due => exact .finds (ends.found rfl)
      | error e => cases e <;> exact .findsNone
    | openChannel due =>
      cases asks
      cases a with
      | ok =>
        have opened : s'.channelIsOpen = true := ends.opened rfl
        simp only [opened]
        exact .opens
      | error e => exact .isRefused
    | publish e later count =>
      cases asks
      obtain ⟨same, accepted⟩ := ends.published
      simp only [same]
      cases a <;> exact .publishes accepted
    | closeChannel count =>
      cases asks
      cases a <;> exact .closes
    | finished => cases asks

end Agenda.Rehearsal
