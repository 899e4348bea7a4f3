import Agenda.Proofs.Broker.Bell
import Agenda.Proofs.Broker.Ledger

/-! Messages that nobody can decode. Each is handed out as often as the queue allows and then never
again, and each look that takes a message comes closer to an empty queue. -/
namespace Agenda.Ledger

variable {m : Nat} {x : Ledger}

/-! ## One message -/

/-- What has been accepted and handed out stays so. -/
theorem step_grows (even : Even m x) (a : Traffic.Act) :
    (∃ published, (x.step a).traffic.accepted = x.traffic.accepted ++ published) ∧
      ∃ more, (x.step a).handed = x.handed ++ more := by
  obtain ⟨-, change⟩ := step_change even a
  cases change with
  | idle accepted _ handed =>
    exact ⟨⟨[], by rw [accepted, List.append_nil]⟩, ⟨[], by rw [handed, List.append_nil]⟩⟩
  | publish payload accepted _ handed =>
    exact ⟨⟨_, accepted⟩, ⟨[], by rw [handed, List.append_nil]⟩⟩
  | deliver _ _ _ _ _ _ accepted _ _ handed =>
    exact ⟨⟨[], by rw [accepted, List.append_nil]⟩, ⟨_, handed⟩⟩

theorem run_grows (even : Even m x) (acts : List Traffic.Act) :
    (∃ published, (x.run acts).traffic.accepted = x.traffic.accepted ++ published) ∧
      ∃ more, (x.run acts).handed = x.handed ++ more := by
  induction acts generalizing x with
  | nil => exact ⟨⟨[], (List.append_nil _).symm⟩, ⟨[], (List.append_nil _).symm⟩⟩
  | cons a later ih =>
    obtain ⟨⟨published, accepted⟩, more, handed⟩ := step_grows even a
    obtain ⟨⟨published', accepted'⟩, more', handed'⟩ := ih (step_change even a).1
    change (x.step a |>.run later).traffic.accepted = _ at accepted'
    refine ⟨⟨published ++ published', ?_⟩, more ++ more', ?_⟩
    · rw [← List.append_assoc, ← accepted]
      exact accepted'
    · rw [← List.append_assoc, ← handed]
      exact handed'

theorem filter_without {entries : List (Nat × Delivery)} {number : Nat}
    (gone : number ∉ entries.map (·.1)) : entries.filter (·.1 = number) = [] := by
  rw [List.filter_eq_nil_iff]
  intro e member same
  apply gone
  rw [decide_eq_true_iff] at same
  exact same ▸ List.mem_map_of_mem member

theorem places_gone {number : Nat} (gone : number ∉ x.entries.map (·.1)) :
    x.places number = [] := by
  unfold places
  rw [filter_without gone]
  rfl

/-- A message that waits has one place. -/
theorem places_waiting (sound : Sound m x) {number : Nat} {d : Delivery}
    (member : (number, d) ∈ x.entries) : x.places number = [d] := by
  obtain ⟨ahead, behind, place⟩ := List.append_of_mem member
  have distinct := sound.distinct
  rw [place, List.map_append, List.map_cons, List.nodup_append, List.nodup_cons] at distinct
  obtain ⟨-, ⟨not_behind, -⟩, apart⟩ := distinct
  have not_ahead : number ∉ ahead.map (·.1) := by
    intro before
    exact apart number before number (.head _) rfl
  have own : ((number, d) :: behind).filter (·.1 = number) =
      (number, d) :: behind.filter (·.1 = number) := by simp
  unfold places
  rw [place, List.filter_append, filter_without not_ahead, List.nil_append, own,
    filter_without not_behind]
  rfl

/-- A message that was accepted waits or has left for good. -/
theorem stages (sound : Sound m x) {number : Nat} {payload : Bytes}
    (accepted : x.traffic.accepted[number]? = some payload) :
    (∃ d, d.payload = payload ∧ x.Waits m number d ∧ x.places number = [d]) ∨
      x.places number = [] ∧ x.Settled m number payload := by
  by_cases waiting : number ∈ x.entries.map (·.1)
  · obtain ⟨⟨k, d⟩, member, same⟩ := List.mem_map.mp waiting
    have key : k = number := same
    subst key
    have waits := sound.waits _ member
    have payload_eq : d.payload = payload := by
      have known := waits.accepted
      rw [accepted] at known
      exact (Option.some.inj known).symm
    exact .inl ⟨d, payload_eq, waits, places_waiting sound member⟩
  · exact .inr ⟨places_gone waiting, sound.settled number payload accepted waiting⟩

/-- What becomes of a message that cannot be decoded where `m` deliveries are allowed. Each delivery
is an error. As long as there are fewer than `m`, the message is in the queue, at one place; the
`m`-th comes with the one warning and is the last. -/
structure Bounded (m : Nat) (x : Ledger) (number : Nat) (payload : Bytes) : Prop where
  errors : ∃ e, Notification.ofBytes payload = .error e ∧
    ∀ h ∈ x.deliveries number, h.item = .error (.undecodable e)
  atMost : (x.deliveries number).length ≤ m
  waits : (x.deliveries number).length < m →
    x.places number = [⟨payload, (x.deliveries number).length⟩] ∧
      (x.deliveries number).flatMap (·.notices) = []
  dropped : (x.deliveries number).length = m →
    (x.deliveries number).flatMap (·.notices) = [.messageDropped m] ∧
      ∀ later, (x.run later).places number = [] ∧
        (x.run later).deliveries number = x.deliveries number

theorem errors (sound : Sound m x) {number : Nat} {payload : Bytes}
    (accepted : x.traffic.accepted[number]? = some payload)
    (undecodable : Notification.isReadable payload = false) :
    ∃ e, Notification.ofBytes payload = .error e ∧
      ∀ h ∈ x.deliveries number, h.item = .error (.undecodable e) := by
  cases decoded : Notification.ofBytes payload with
  | ok n =>
    simp [Notification.isReadable, Notification.read?, decoded, Except.toOption] at undecodable
  | error e =>
    refine ⟨e, rfl, ?_⟩
    intro h member
    obtain ⟨handed, same⟩ := List.mem_filter.mp member
    rw [decide_eq_true_iff] at same
    obtain ⟨own, known, item⟩ := sound.known h handed
    rw [same, accepted, Option.some.injEq] at known
    rw [item, ← known]
    simp only [Delivery.item, decoded]

/-- At most as many deliveries as the queue allows, and all of them once the message has gone. -/
theorem deliveries_bound (sound : Sound m x) {number : Nat} {payload : Bytes}
    (accepted : x.traffic.accepted[number]? = some payload)
    (undecodable : Notification.isReadable payload = false) :
    (x.deliveries number).length ≤ m ∧
      ((x.deliveries number).length = m → x.places number = []) := by
  rcases stages sound accepted with ⟨d, -, waits, -⟩ | ⟨gone, settled⟩
  · have fewer : (x.deliveries number).length < m := waits.attempts ▸ waits.allowed
    exact ⟨Nat.le_of_lt fewer, fun all => absurd all (Nat.ne_of_lt fewer)⟩
  · have all : (x.deliveries number).length = m := by
      rw [settled.handed, cost, undecodable]
      rfl
    exact ⟨Nat.le_of_eq all, fun _ => gone⟩

theorem bounded (sound : Sound m x) {number : Nat} {payload : Bytes}
    (accepted : x.traffic.accepted[number]? = some payload)
    (undecodable : Notification.isReadable payload = false) : x.Bounded m number payload := by
  refine ⟨errors sound accepted undecodable,
    (deliveries_bound sound accepted undecodable).1, ?_, ?_⟩
  · intro fewer
    rcases stages sound accepted with ⟨d, same, waits, place⟩ | ⟨-, settled⟩
    · rw [place, ← waits.attempts, ← same]
      exact ⟨rfl, waits.silent⟩
    · rw [settled.handed, cost, undecodable] at fewer
      exact absurd fewer (Nat.lt_irrefl _)
  · intro all
    rcases stages sound accepted with ⟨d, -, waits, -⟩ | ⟨-, settled⟩
    · have fewer := waits.allowed
      rw [waits.attempts, all] at fewer
      exact absurd fewer (Nat.lt_irrefl _)
    · refine ⟨?_, ?_⟩
      · rw [settled.warned, undecodable]
        rfl
      · intro later
        have sound_later := sound.run later
        obtain ⟨⟨published, grown⟩, more, handed⟩ := run_grows sound.even later
        have still := accepted_still grown accepted
        have split : (x.run later).deliveries number =
            x.deliveries number ++ more.filter (·.number = number) := by
          unfold deliveries
          rw [handed, List.filter_append]
        obtain ⟨atMost, gone⟩ := deliveries_bound sound_later still undecodable
        have none_more : more.filter (·.number = number) = [] := by
          apply List.eq_nil_of_length_eq_zero
          rw [split, List.length_append, all] at atMost
          omega
        rw [none_more, List.append_nil] at split
        exact ⟨gone (split ▸ all), split⟩

/-! ## Looks until the queue is empty -/

theorem takes_eq (even : Even m x) : x.takes m = (x.entries.map (left m ·.2)).sum := by
  have each : ∀ queue : List Delivery, queue.countP Delivery.isReadable +
      ((queue.filter fun d => !d.isReadable).map fun d => m - d.attempts).sum =
        (queue.map (left m)).sum := by
    intro queue
    induction queue with
    | nil => rfl
    | cons d rest ih =>
      rw [List.map_cons, List.sum_cons, ← ih]
      cases decoded : d.isReadable <;> simp [left, decoded] <;> omega
  rw [takes, even.queued, each, List.map_map]
  rfl

/-- Each look that takes a message takes one from what is left. -/
theorem takes_paid (sound : Sound m x) (later : List Traffic.Act)
    (same : (x.run later).traffic.accepted = x.traffic.accepted) :
    (x.run later).handed.length + (x.run later).takes m = x.handed.length + x.takes m := by
  have before := sound.balanced.paid
  have after := (sound.run later).balanced.paid
  rw [same, ← before] at after
  rw [takes_eq sound.even, takes_eq (sound.run later).even]
  omega

theorem takes_pos_iff (sound : Sound m x) : 0 < x.takes m ↔ x.traffic.queued ≠ [] := by
  have length : x.entries.length = x.traffic.queued.length := by
    rw [sound.even.queued, List.length_map]
  rw [takes_eq sound.even]
  cases waiting : x.entries with
  | nil =>
    rw [waiting] at length
    have empty : x.traffic.queued = [] := List.eq_nil_of_length_eq_zero length.symm
    simp [empty]
  | cons e rest =>
    have nonempty : x.traffic.queued ≠ [] := by
      intro empty
      rw [waiting, empty] at length
      cases length
    have allowed := (sound.waits e (waiting ▸ .head _)).allowed
    have some_left : 0 < left m e.2 := by
      unfold left
      split <;> omega
    simp only [List.map_cons, List.sum_cons]
    exact ⟨fun _ => nonempty, fun _ => Nat.add_pos_left some_left _⟩

/-- A look at a stream that is awake takes a message if there is one, and the stream stays awake. -/
theorem poll_awake (sound : Sound m x) {stream : Nat} (taken : stream ∈ x.traffic.streams)
    (awake : stream ∉ x.traffic.broker.bell.asleep) (some_queued : x.traffic.queued ≠ []) :
    (x.step (.poll stream)).handed.length = x.handed.length + 1 ∧
      stream ∉ (x.step (.poll stream)).traffic.broker.bell.asleep := by
  have traffic : (x.step (.poll stream)).traffic = x.traffic.poll stream := by
    rw [step_traffic]
    exact if_pos taken
  constructor
  · have takes := x.traffic.poll_takes taken awake some_queued
    rw [← step_traffic, (sound.step (.poll stream)).yielded, sound.yielded] at takes
    rw [List.length_map, List.length_map] at takes
    exact takes
  · rw [traffic]
    simp only [Traffic.poll, LocalBroker.poll, if_neg awake]
    cases next : x.traffic.broker.queue.take with
    | none => exact absurd (Queue.take_eq_none_iff.mp next) some_queued
    | some t =>
      have risen : stream ∉ (x.traffic.broker.bell.rise stream).asleep := awake
      have rung : stream ∉ (x.traffic.broker.bell.rise stream).ring.asleep := by
        unfold Bell.ring
        split
        · exact risen
        · rename_i first rest sleepers
          intro member
          rw [sleepers] at risen
          exact risen (.tail _ member)
      simp only
      split
      · exact rung
      · exact risen

theorem poll_accepted (x : Ledger) (stream : Nat) :
    (x.step (.poll stream)).traffic.accepted = x.traffic.accepted := by
  rw [step_traffic, Traffic.step]
  split <;> rfl

theorem poll_streams (x : Ledger) (stream : Nat) :
    (x.step (.poll stream)).traffic.streams = x.traffic.streams := by
  rw [step_traffic, Traffic.step]
  split <;> rfl

theorem polls_accepted (x : Ledger) (stream n : Nat) :
    (x.run (List.replicate n (.poll stream))).traffic.accepted = x.traffic.accepted := by
  induction n generalizing x with
  | zero => rfl
  | succ n ih => exact (ih _).trans (x.poll_accepted stream)

/-- A stream that is awake takes as many messages as it is looked at, until none is left. -/
theorem polls_take (sound : Sound m x) {stream : Nat} (taken : stream ∈ x.traffic.streams)
    (awake : stream ∉ x.traffic.broker.bell.asleep) (n : Nat) :
    (x.run (List.replicate n (.poll stream))).handed.length =
      x.handed.length + min n (x.takes m) := by
  induction n generalizing x with
  | zero => simp [run]
  | succ n ih =>
    by_cases empty : x.traffic.queued = []
    · have none_left : x.takes m = 0 := by
        have not_pos := mt (takes_pos_iff sound).mp (not_not.mpr empty)
        exact Nat.eq_zero_of_not_pos not_pos
      have paid := takes_paid sound _ (x.polls_accepted stream (n + 1))
      obtain ⟨-, more, handed⟩ := run_grows sound.even (List.replicate (n + 1) (.poll stream))
      have grown := congrArg List.length handed
      rw [List.length_append] at grown
      omega
    · obtain ⟨one, awake_after⟩ := poll_awake sound taken awake empty
      have taken_after := poll_streams x stream ▸ taken
      have rest := ih (sound.step (.poll stream)) taken_after awake_after
      have paid := takes_paid sound [.poll stream] (poll_accepted x stream)
      change (x.step (.poll stream)).handed.length + (x.step (.poll stream)).takes m = _ at paid
      change ((x.step (.poll stream)).run (List.replicate n (.poll stream))).handed.length = _
      rw [rest, one]
      omega

/-- Only messages that are dropped are warned about. -/
theorem warnings_dropped (sound : Sound m x) {notice : Notice} (member : notice ∈ x.warnings) :
    notice = .messageDropped m := by
  obtain ⟨h, handed, own⟩ := List.mem_flatMap.mp member
  obtain ⟨payload, accepted, -⟩ := sound.known h handed
  have delivered : h ∈ x.deliveries h.number := List.mem_filter.mpr ⟨handed, decide_eq_true rfl⟩
  have listed : notice ∈ (x.deliveries h.number).flatMap (·.notices) :=
    List.mem_flatMap.mpr ⟨h, delivered, own⟩
  rcases stages sound accepted with ⟨d, -, waits, -⟩ | ⟨-, settled⟩
  · rw [waits.silent] at listed
    cases listed
  · rw [settled.warned] at listed
    split at listed
    · cases listed
    · exact List.mem_singleton.mp listed

/-- **Messages that cannot be decoded are bounded and accounted for.** Whatever producers, consumers
and streams do, and whatever bound is configured, no message that waits has been tried as often as
`m`, and one that cannot be decoded is handed out `m` times as an error before it goes for good with
one warning. What was accepted is waiting, yielded or dropped. Once nothing more is accepted, as many
looks take a message as are left to those that wait, whoever looks; while there is one, some stream
is awake, and a stream that is awake takes one with each look. -/
theorem undecodable_bounded (maxDeliver : Int) (acts : List Traffic.Act) :
    let m := (max 1 maxDeliver).toNat
    let x := (new maxDeliver).run acts
    (x.traffic = (Traffic.new maxDeliver).run acts ∧ x.traffic.yielded = x.handed.map (·.item)) ∧
    (∀ d ∈ x.traffic.queued, (d.attempts : Int) < max 1 maxDeliver) ∧
    (∀ number payload, x.traffic.accepted[number]? = some payload →
      Notification.isReadable payload = false → x.Bounded m number payload) ∧
    (x.traffic.broker.pending + x.notifications + x.warnings.length = x.traffic.accepted.length ∧
      ∀ notice ∈ x.warnings, notice = .messageDropped m) ∧
    ∀ later, (x.run later).traffic.accepted = x.traffic.accepted →
      let y := x.run later
      y.handed.length + y.takes m = x.handed.length + x.takes m ∧
      (0 < y.takes m → y.traffic.streams ≠ [] →
        ∃ stream ∈ y.traffic.streams, stream ∉ y.traffic.broker.bell.asleep) ∧
      ∀ n, ∀ stream ∈ y.traffic.streams, stream ∉ y.traffic.broker.bell.asleep →
        (y.run (List.replicate n (.poll stream))).handed.length =
          y.handed.length + min n (y.takes m) := by
  intro m x
  have sound : Sound m x := (sound_new maxDeliver).run acts
  have traffic : x.traffic = (Traffic.new maxDeliver).run acts := run_traffic _ acts
  have waiting := sound.even.queued
  have positive : ((max 1 maxDeliver).toNat : Int) = max 1 maxDeliver := by omega
  refine ⟨⟨traffic, sound.yielded⟩, ?_, fun number payload => bounded sound,
    ⟨?_, fun notice => warnings_dropped sound⟩, ?_⟩
  · intro d member
    rw [waiting] at member
    obtain ⟨e, queued, rfl⟩ := List.mem_map.mp member
    rw [← positive]
    exact Int.ofNat_lt.mpr (sound.waits e queued).allowed
  · have account := sound.balanced.account
    have length : x.traffic.broker.pending = x.entries.length := by
      change x.traffic.queued.length = _
      rw [waiting, List.length_map]
    rw [length]
    exact account
  · intro later same y
    have sound_later : Sound m y := sound.run later
    refine ⟨takes_paid sound later same, ?_, fun n stream taken awake =>
      polls_take sound_later taken awake n⟩
    intro some_left taken
    have nonempty := (takes_pos_iff sound_later).mp some_left
    have attentive : y.traffic.Attentive := by
      have whole : y.traffic = (Traffic.new maxDeliver).run (acts ++ later) := by
        rw [run_traffic, traffic]
        exact (List.foldl_append).symm
      rw [whole]
      exact Traffic.attentive_run maxDeliver (acts ++ later)
    exact Bell.Attentive.someone_awake attentive (List.length_pos_iff.mpr nonempty) taken

/-- Two messages wait that take four looks, and the one stream that is taken is awake. -/
theorem mixed_ready : ∃ x : Ledger, (new 3).run (Traffic.mixed Traffic.lecture) = x ∧
    x.takes 3 = 4 ∧ x.handed = [] ∧ x.traffic.streams = [0] ∧ x.traffic.broker.bell.asleep = [] :=
  ⟨_, rfl, by cbv, by cbv, by cbv, by cbv⟩

/-- A message of either kind, and four looks. -/
def spent : List Traffic.Act :=
  Traffic.mixed Traffic.lecture ++ [.poll 0, .poll 0, .poll 0, .poll 0]

theorem spent_thrice : ∃ y : Ledger, (new 3).run spent = y ∧
    y.traffic.accepted = [[0x7B], Traffic.lecture.toBytes] ∧ (y.deliveries 0).length = 3 :=
  ⟨_, rfl, rfl, by cbv⟩

/-- Where three deliveries are allowed, four looks empty the queue, and the last one drops the
message that nobody can decode. -/
theorem brace_dropped :
    let x := (new 3).run (Traffic.mixed Traffic.lecture)
    let y := (new 3).run spent
    (x.run (List.replicate 9 (.poll 0))).handed.length = 4 ∧ (y.deliveries 0).length = 3 ∧
      (y.deliveries 0).flatMap (·.notices) = [.messageDropped 3] ∧
      (y.run [.produce 0 (.publish [0x7B]), .poll 0]).places 0 = [] := by
  obtain ⟨x, x_eq, takes, handed, taken, awake⟩ := mixed_ready
  obtain ⟨y, y_eq, published, thrice⟩ := spent_thrice
  obtain ⟨-, -, -, -, drain⟩ := undecodable_bounded 3 (Traffic.mixed Traffic.lecture)
  obtain ⟨-, -, each, -, -⟩ := undecodable_bounded 3 spent
  rw [x_eq] at drain ⊢
  rw [y_eq] at each ⊢
  have first : y.traffic.accepted[0]? = some [0x7B] := by rw [published]; rfl
  have undecodable : Notification.isReadable [0x7B] = false := by cbv
  have looks := (drain [] rfl).2.2 9 0 (taken ▸ .head _) (awake ▸ List.not_mem_nil)
  obtain ⟨warned, gone⟩ := (each 0 [0x7B] first undecodable).dropped thrice
  refine ⟨looks.trans ?_, thrice, warned, (gone _).1⟩
  change x.handed.length + min 9 (x.takes 3) = 4
  rw [handed, takes]
  rfl

end Agenda.Ledger
