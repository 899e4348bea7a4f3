import Agenda.Proofs.Broker.Traffic

/-! Every message that is accepted has a number, and a ledger keeps beside the broker which numbers
wait and what was handed out under which. In every state each message waits with as many deliveries
as it was tried, or it has left for good. -/
namespace Agenda

/-- A message that was handed to a stream, under its number, and what was logged with it. -/
structure Handing where
  number : Nat
  item : Item
  notices : List Notice

/-- A broker with its users, and an account of the messages by their numbers: the first that was
accepted is number zero. -/
structure Ledger where
  traffic : Traffic
  /-- The numbers of the messages that wait, in the order of the queue. -/
  line : List Nat
  /-- What was handed out, the first first. -/
  handed : List Handing

namespace Ledger

def new (maxDeliver : Int) : Ledger := ⟨.new maxDeliver, [], []⟩

/-- What is accepted gets the next numbers. -/
def follow (x : Ledger) (traffic : Traffic) : Ledger :=
  { x with
    traffic
    line := x.line ++
      List.range' x.traffic.accepted.length (traffic.accepted.length - x.traffic.accepted.length) }

/-- A look at a stream. What it takes is the message at the front, and if the queue has not become
shorter by it, that message was put back behind all others. -/
def hand (x : Ledger) (stream : Nat) : Ledger :=
  let polled := x.traffic.broker.poll stream
  let traffic := x.traffic.poll stream
  match polled.item, x.line with
  | some item, number :: rest =>
    { traffic
      line := if polled.broker.pending = x.traffic.broker.pending then rest ++ [number] else rest
      handed := x.handed ++ [⟨number, item, polled.notices⟩] }
  | _, _ => { x with traffic }

def step (x : Ledger) : Traffic.Act → Ledger
  | .poll stream => if stream ∈ x.traffic.streams then x.hand stream else x
  | a => x.follow (x.traffic.step a)

def run (x : Ledger) (acts : List Traffic.Act) : Ledger := acts.foldl step x

/-- The messages that wait, with their numbers. -/
def entries (x : Ledger) : List (Nat × Delivery) := x.line.zip x.traffic.queued

/-- The places of a message in the queue. -/
def places (x : Ledger) (number : Nat) : List Delivery :=
  (x.entries.filter (·.1 = number)).map (·.2)

/-- What was handed out under a number. -/
def deliveries (x : Ledger) (number : Nat) : List Handing := x.handed.filter (·.number = number)

/-- All warnings, the first first. -/
def warnings (x : Ledger) : List Notice := x.handed.flatMap (·.notices)

/-- How many notifications the streams have yielded. -/
def notifications (x : Ledger) : Nat := (x.traffic.yielded.filterMap Except.toOption).length

/-- How many more looks take a message: one for each that can be decoded, and as many as are left to
each of the others. -/
def takes (x : Ledger) (m : Nat) : Nat :=
  x.traffic.queued.countP Delivery.isReadable +
    ((x.traffic.queued.filter fun d => !d.isReadable).map fun d => m - d.attempts).sum

theorem hand_traffic (x : Ledger) (stream : Nat) :
    (x.hand stream).traffic = x.traffic.poll stream := by
  simp only [hand]
  split <;> rfl

theorem step_traffic (x : Ledger) (a : Traffic.Act) :
    (x.step a).traffic = x.traffic.step a := by
  cases a with
  | produce | consume | drop => rfl
  | poll stream =>
    simp only [step, Traffic.step]
    by_cases taken : stream ∈ x.traffic.streams
    · rw [if_pos taken, if_pos taken, hand_traffic]
    · rw [if_neg taken, if_neg taken]

/-- The ledger only keeps accounts. -/
theorem run_traffic (x : Ledger) (acts : List Traffic.Act) :
    (x.run acts).traffic = x.traffic.run acts := by
  induction acts generalizing x with
  | nil => rfl
  | cons a later ih =>
    have first := x.step_traffic a
    change ((x.step a).run later).traffic = (x.traffic.step a).run later
    rw [ih, first]

/-! ## What a step does -/

/-- The ledger and the queue agree on how many wait, and on the bound. -/
structure Even (m : Nat) (x : Ledger) : Prop where
  bound : x.traffic.broker.queue.maxDeliver = m
  line : x.line.length = x.traffic.queued.length

theorem Even.queued {m : Nat} {x : Ledger} (even : Even m x) :
    x.traffic.queued = x.entries.map (·.2) :=
  (List.map_snd_zip (Nat.le_of_eq even.line.symm)).symm

/-- What a step does to the accounts. -/
inductive Change (m : Nat) (x y : Ledger) : Prop
  | idle (accepted : y.traffic.accepted = x.traffic.accepted) (entries : y.entries = x.entries)
    (handed : y.handed = x.handed) (yielded : y.traffic.yielded = x.traffic.yielded)
  | publish (payload : Bytes) (accepted : y.traffic.accepted = x.traffic.accepted ++ [payload])
    (entries : y.entries = x.entries ++ [(x.traffic.accepted.length, ⟨payload, 0⟩)])
    (handed : y.handed = x.handed) (yielded : y.traffic.yielded = x.traffic.yielded)
  | deliver (number : Nat) (d : Delivery) (rest : List (Nat × Delivery)) (notices : List Notice)
    (back : List Delivery) (fate : Queue.Fate m d notices back)
    (accepted : y.traffic.accepted = x.traffic.accepted)
    (before : x.entries = (number, d) :: rest) (after : y.entries = rest ++ back.map (number, ·))
    (handed : y.handed = x.handed ++ [⟨number, d.item, notices⟩])
    (yielded : y.traffic.yielded = x.traffic.yielded ++ [d.item])

/-- A step that leaves the queue alone, and what has been accepted and yielded. -/
theorem Change.of_same {m : Nat} {x y : Ledger} (even : Even m x)
    (queue : y.traffic.broker.queue = x.traffic.broker.queue)
    (accepted : y.traffic.accepted = x.traffic.accepted)
    (yielded : y.traffic.yielded = x.traffic.yielded) (line : y.line = x.line)
    (handed : y.handed = x.handed) : Even m y ∧ Change m x y := by
  have queued : y.traffic.queued = x.traffic.queued := congrArg Queue.messages queue
  refine ⟨⟨queue ▸ even.bound, ?_⟩, .idle accepted ?_ handed yielded⟩
  · rw [line, queued]
    exact even.line
  · simp only [entries, line, queued]

theorem follow_same (x : Ledger) {traffic : Traffic}
    (accepted : traffic.accepted = x.traffic.accepted) : (x.follow traffic).line = x.line := by
  simp only [follow, accepted, Nat.sub_self, List.range'_zero, List.append_nil]

variable {m : Nat} {x : Ledger}

theorem follow_produce (even : Even m x) (k : Nat) (call : ProducerCall) :
    Even m (x.follow (x.traffic.produce k call)) ∧
      Change m x (x.follow (x.traffic.produce k call)) := by
  cases call with
  | openChannel | closeChannel | closeConnection =>
    exact Change.of_same even rfl rfl rfl (x.follow_same rfl) rfl
  | publish payload =>
    simp only [Traffic.produce, LocalProducer.publish]
    by_cases isOpen : (x.traffic.producers k).isOpen = true
    · rw [if_pos isOpen]
      simp only
      generalize published : ({ x.traffic with
        broker := x.traffic.broker.publish payload
        accepted := x.traffic.accepted ++ [payload] } : Traffic) = traffic
      have accepted : traffic.accepted = x.traffic.accepted ++ [payload] := by rw [← published]
      have queued : traffic.queued = x.traffic.queued ++ [⟨payload, 0⟩] := by
        rw [← published]
        rfl
      have line : (x.follow traffic).line = x.line ++ [x.traffic.accepted.length] := by
        simp only [follow, accepted, List.length_append, List.length_singleton,
          Nat.add_sub_cancel_left, List.range'_one]
      refine ⟨⟨?_, ?_⟩, .publish payload accepted ?_ rfl ?_⟩
      · rw [← even.bound]
        change traffic.broker.queue.maxDeliver = _
        rw [← published]
        rfl
      · change _ = traffic.queued.length
        rw [line, queued, List.length_append, List.length_append, even.line]
        rfl
      · change (x.follow traffic).line.zip traffic.queued = _
        rw [line, queued, List.zip_append even.line]
        rfl
      · change traffic.yielded = _
        rw [← published]
    · rw [if_neg isOpen]
      exact Change.of_same even rfl rfl rfl (x.follow_same rfl) rfl

theorem follow_consume (even : Even m x) (k : Nat) (call : ConsumerCall) :
    Even m (x.follow (x.traffic.consume k call)) ∧
      Change m x (x.follow (x.traffic.consume k call)) := by
  have same : (x.traffic.consume k call).broker.queue = x.traffic.broker.queue ∧
      (x.traffic.consume k call).accepted = x.traffic.accepted ∧
      (x.traffic.consume k call).yielded = x.traffic.yielded := by
    cases call with
    | openChannel | closeChannel | closeConnection => exact ⟨rfl, rfl, rfl⟩
    | beginConsume =>
      simp only [Traffic.consume, LocalConsumer.beginConsume]
      split
      · rename_i c broker began
        split at began
        · cases began
        · split at began <;> cases began
          exact ⟨rfl, rfl, rfl⟩
      · exact ⟨rfl, rfl, rfl⟩
    | receive =>
      simp only [Traffic.consume]
      split <;> exact ⟨rfl, rfl, rfl⟩
  obtain ⟨queue, accepted, yielded⟩ := same
  exact Change.of_same even queue accepted yielded (x.follow_same accepted) rfl

theorem numbered (number : Nat) (back : List Delivery) :
    (back.map fun _ => number).zip back = back.map (number, ·) := by
  induction back with
  | nil => rfl
  | cons d more ih => rw [List.map_cons, List.map_cons, List.zip_cons_cons, ih]

/-- A look that takes a message writes it down under the first number of the line. -/
theorem hand_takes {stream number : Nat} {others : List Nat} {d : Delivery}
    {rest back : List Delivery} (line : x.line = number :: others)
    (front : x.traffic.broker.queue.messages = d :: rest)
    (item : (x.traffic.broker.poll stream).item = some d.item) (few : back.length ≤ 1)
    (after : (x.traffic.broker.poll stream).broker.queue.messages = rest ++ back) :
    x.hand stream =
      { traffic := x.traffic.poll stream
        line := others ++ back.map fun _ => number
        handed := x.handed ++ [⟨number, d.item, (x.traffic.broker.poll stream).notices⟩] } := by
  simp only [hand, item, line, LocalBroker.pending, Queue.pending, after, front,
    List.length_append, List.length_cons]
  cases back with
  | nil => simp
  | cons again more =>
    have alone : more = [] := List.eq_nil_of_length_eq_zero (by simpa using few)
    simp [alone]

theorem hand_change (even : Even m x) (stream : Nat) :
    Even m (x.hand stream) ∧ Change m x (x.hand stream) := by
  rcases x.traffic.broker.poll_fate stream with ⟨nothing, queue⟩ |
    ⟨d, rest, back, front, item, bound, fate, after⟩
  · have same : x.hand stream = { x with traffic := x.traffic.poll stream } := by
      simp only [hand, nothing]
    rw [same]
    refine Change.of_same even queue rfl ?_ rfl rfl
    simp only [Traffic.poll, nothing, Option.toList_none, List.append_nil]
  · have length : x.line.length = rest.length + 1 := by
      rw [even.line, Traffic.queued, front, List.length_cons]
    obtain ⟨number, others, line⟩ := List.exists_cons_of_length_eq_add_one length
    have others_length : others.length = rest.length := by
      rw [line, List.length_cons] at length
      exact Nat.succ.inj length
    rw [hand_takes line front item fate.back_length after]
    rw [even.bound] at fate
    have queued : (x.traffic.poll stream).queued = rest ++ back := after
    refine ⟨⟨bound.trans even.bound, ?_⟩, .deliver number d (others.zip rest) _ back fate rfl ?_ ?_
      rfl ?_⟩
    · change (others ++ back.map fun _ => number).length = (x.traffic.poll stream).queued.length
      rw [queued, List.length_append, List.length_append, List.length_map, others_length]
    · simp only [entries, line, Traffic.queued, front, List.zip_cons_cons]
    · simp only [entries]
      rw [queued, List.zip_append others_length, numbered]
    · simp only [Traffic.poll, item, Option.toList_some]

theorem step_change (even : Even m x) (a : Traffic.Act) :
    Even m (x.step a) ∧ Change m x (x.step a) := by
  cases a with
  | produce k call => exact follow_produce even k call
  | consume k call => exact follow_consume even k call
  | poll stream =>
    simp only [step]
    split
    · exact hand_change even stream
    · exact Change.of_same even rfl rfl rfl rfl rfl
  | drop stream =>
    simp only [step, Traffic.step]
    split <;> exact Change.of_same even rfl rfl rfl (x.follow_same rfl) rfl

/-! ## What the accounts say -/

/-- How many looks a payload takes in all. -/
def cost (m : Nat) (payload : Bytes) : Nat := if Notification.isReadable payload then 1 else m

/-- How many looks a message still takes. -/
def left (m : Nat) (d : Delivery) : Nat := if d.isReadable then 1 else m - d.attempts

/-- A message that waits: it has been handed out as often as it was tried, without a warning, and
another time is allowed. -/
structure Waits (m : Nat) (x : Ledger) (number : Nat) (d : Delivery) : Prop where
  accepted : x.traffic.accepted[number]? = some d.payload
  attempts : d.attempts = (x.deliveries number).length
  allowed : d.attempts < m
  fresh : d.isReadable = true → d.attempts = 0
  silent : (x.deliveries number).flatMap (·.notices) = []

/-- A message that has left for good. -/
structure Settled (m : Nat) (x : Ledger) (number : Nat) (payload : Bytes) : Prop where
  handed : (x.deliveries number).length = cost m payload
  warned : (x.deliveries number).flatMap (·.notices) =
    if Notification.isReadable payload then [] else [.messageDropped m]

/-- Of all that was accepted, nothing is missing. -/
structure Balanced (m : Nat) (x : Ledger) : Prop where
  /-- Each message is waiting, yielded or dropped. -/
  account : x.entries.length + x.notifications + x.warnings.length = x.traffic.accepted.length
  /-- Each look has paid for part of what was accepted. -/
  paid : (x.entries.map (left m ·.2)).sum + x.handed.length =
    (x.traffic.accepted.map (cost m)).sum

/-- What holds of a ledger in every state. -/
structure Sound (m : Nat) (x : Ledger) : Prop where
  even : Even m x
  yielded : x.traffic.yielded = x.handed.map (·.item)
  known : ∀ h ∈ x.handed, ∃ payload, x.traffic.accepted[h.number]? = some payload ∧
    h.item = Delivery.item ⟨payload, 0⟩
  distinct : (x.entries.map (·.1)).Nodup
  waits : ∀ e ∈ x.entries, x.Waits m e.1 e.2
  settled : ∀ number payload, x.traffic.accepted[number]? = some payload →
    number ∉ x.entries.map (·.1) → x.Settled m number payload
  balanced : Balanced m x

variable {y : Ledger}

theorem Waits.of_same {number : Nat} {d : Delivery} (h : x.Waits m number d)
    (accepted : y.traffic.accepted[number]? = some d.payload)
    (handed : y.deliveries number = x.deliveries number) : y.Waits m number d :=
  ⟨accepted, handed ▸ h.attempts, h.allowed, h.fresh, handed ▸ h.silent⟩

theorem Settled.of_same {number : Nat} {payload : Bytes} (h : x.Settled m number payload)
    (handed : y.deliveries number = x.deliveries number) : y.Settled m number payload :=
  ⟨handed ▸ h.handed, handed ▸ h.warned⟩

theorem deliveries_same (handed : y.handed = x.handed) (number : Nat) :
    y.deliveries number = x.deliveries number := by
  unfold deliveries
  rw [handed]

theorem deliveries_more {h : Handing} (handed : y.handed = x.handed ++ [h]) (number : Nat) :
    y.deliveries number = x.deliveries number ++ if h.number = number then [h] else [] := by
  unfold deliveries
  rw [handed, List.filter_append]
  by_cases same : h.number = number <;> simp [same]

/-- Nothing was handed out under a number that nobody has. -/
theorem deliveries_unknown (sound : Sound m x) {number : Nat}
    (unknown : x.traffic.accepted.length ≤ number) : x.deliveries number = [] := by
  apply List.filter_eq_nil_iff.mpr
  intro h member same
  obtain ⟨payload, accepted, -⟩ := sound.known h member
  rw [decide_eq_true_iff] at same
  rw [same, List.getElem?_eq_none unknown] at accepted
  cases accepted

/-- What a message costs is its part of the whole, each look one less. -/
theorem left_fate {d : Delivery} {notices : List Notice} {back : List Delivery}
    (fate : Queue.Fate m d notices back) (allowed : d.attempts < m) :
    left m d = (back.map (left m)).sum + 1 := by
  cases fate with
  | acknowledged decoded => simp [left, decoded]
  | putBack undecodable more =>
    have same : Delivery.isReadable ⟨d.payload, d.attempts + 1⟩ = false := undecodable
    simp only [left, undecodable, same, List.map_cons, List.map_nil, List.sum_cons, List.sum_nil,
      Bool.false_eq_true, if_false]
    omega
  | dropped undecodable spent =>
    simp only [left, undecodable, List.map_nil, List.sum_nil, Bool.false_eq_true, if_false]
    omega

/-- A message that is handed out comes back, is yielded or is dropped. -/
theorem account_fate {d : Delivery} {notices : List Notice} {back : List Delivery}
    (fate : Queue.Fate m d notices back) :
    back.length + ([d.item].filterMap Except.toOption).length + notices.length = 1 := by
  cases fate with
  | acknowledged decoded =>
    obtain ⟨n, read⟩ := Option.isSome_iff_exists.mp decoded
    have yielded : d.item.toOption = some n := by rw [d.item_toOption, read]
    simp [yielded]
  | putBack undecodable | dropped undecodable =>
    have refused : d.item.toOption = none := by
      rw [d.item_toOption]
      simpa [Delivery.isReadable, Notification.isReadable] using undecodable
    simp [refused]

/-- A message that does not come back has been handed out as often as it may be. -/
theorem settles {number : Nat} {d : Delivery} {notices : List Notice} {back : List Delivery}
    (fate : Queue.Fate m d notices back) (front : x.Waits m number d)
    (own : y.deliveries number = x.deliveries number ++ [⟨number, d.item, notices⟩])
    (gone : back = []) : y.Settled m number d.payload := by
  have handed : (y.deliveries number).length = d.attempts + 1 := by
    rw [own, List.length_append, ← front.attempts]
    rfl
  have warned : (y.deliveries number).flatMap (·.notices) = notices := by
    rw [own, List.flatMap_append, front.silent]
    exact List.append_nil _
  cases fate with
  | acknowledged decoded =>
    have readable : Notification.isReadable d.payload = true := decoded
    refine ⟨?_, ?_⟩
    · rw [handed, front.fresh decoded, cost, if_pos readable]
    · rw [warned, if_pos readable]
  | putBack => cases gone
  | dropped undecodable spent =>
    have unreadable : ¬Notification.isReadable d.payload = true := ne_true_of_eq_false undecodable
    have last : d.attempts + 1 = m := Nat.le_antisymm front.allowed spent
    refine ⟨?_, ?_⟩
    · rw [handed, cost, if_neg unreadable, last]
    · rw [warned, if_neg unreadable, last]

theorem accepted_still {published : List Bytes}
    (grown : y.traffic.accepted = x.traffic.accepted ++ published) {number : Nat} {payload : Bytes}
    (accepted : x.traffic.accepted[number]? = some payload) :
    y.traffic.accepted[number]? = some payload := by
  obtain ⟨within, -⟩ := List.getElem?_eq_some_iff.mp accepted
  rw [grown, List.getElem?_append_left within]
  exact accepted

theorem Balanced.publish (balanced : Balanced m x) {payload : Bytes}
    (accepted : y.traffic.accepted = x.traffic.accepted ++ [payload])
    (entries : y.entries = x.entries ++ [(x.traffic.accepted.length, ⟨payload, 0⟩)])
    (handed : y.handed = x.handed) (yielded : y.traffic.yielded = x.traffic.yielded) :
    Balanced m y where
  account := by
    have account := balanced.account
    simp only [notifications, warnings, entries, handed, yielded, accepted, List.length_append,
      List.length_singleton] at account ⊢
    omega
  paid := by
    have paid := balanced.paid
    have price : left m ⟨payload, 0⟩ = cost m payload := rfl
    simp only [entries, handed, accepted, List.map_append, List.sum_append, List.map_cons,
      List.map_nil, List.sum_singleton, price] at paid ⊢
    omega

theorem Balanced.deliver (balanced : Balanced m x) {number : Nat} {d : Delivery}
    {rest : List (Nat × Delivery)} {notices : List Notice} {back : List Delivery}
    (fate : Queue.Fate m d notices back) (allowed : d.attempts < m)
    (accepted : y.traffic.accepted = x.traffic.accepted)
    (before : x.entries = (number, d) :: rest) (after : y.entries = rest ++ back.map (number, ·))
    (handed : y.handed = x.handed ++ [⟨number, d.item, notices⟩])
    (yielded : y.traffic.yielded = x.traffic.yielded ++ [d.item]) : Balanced m y where
  account := by
    have account := balanced.account
    have one := account_fate fate
    simp only [notifications, warnings, before, after, handed, yielded, accepted,
      List.length_append, List.length_cons, List.length_map, List.filterMap_append,
      List.flatMap_append, List.flatMap_singleton] at account ⊢
    omega
  paid := by
    have paid := balanced.paid
    have price := left_fate fate allowed
    have returned : ((back.map (number, ·)).map (left m ·.2)).sum = (back.map (left m)).sum := by
      rw [List.map_map]
      rfl
    simp only [before, after, handed, accepted, returned, List.map_append, List.map_cons,
      List.sum_append, List.sum_cons, List.length_append, List.length_singleton] at paid ⊢
    omega

theorem Sound.idle (sound : Sound m x) (even : Even m y)
    (accepted : y.traffic.accepted = x.traffic.accepted) (entries : y.entries = x.entries)
    (handed : y.handed = x.handed) (yielded : y.traffic.yielded = x.traffic.yielded) :
    Sound m y := by
  have same := deliveries_same handed
  refine ⟨even, ?_, ?_, ?_, ?_, ?_, ⟨?_, ?_⟩⟩
  · rw [yielded, handed]
    exact sound.yielded
  · rw [handed, accepted]
    exact sound.known
  · rw [entries]
    exact sound.distinct
  · intro e member
    have waits := sound.waits e (entries ▸ member)
    exact waits.of_same (accepted ▸ waits.accepted) (same e.1)
  · intro number payload known missing
    rw [accepted] at known
    rw [entries] at missing
    exact (sound.settled number payload known missing).of_same (same number)
  · simp only [notifications, warnings, entries, handed, yielded, accepted]
    exact sound.balanced.account
  · rw [entries, handed, accepted]
    exact sound.balanced.paid

theorem Sound.publish (sound : Sound m x) (even : Even m y) {payload : Bytes}
    (accepted : y.traffic.accepted = x.traffic.accepted ++ [payload])
    (entries : y.entries = x.entries ++ [(x.traffic.accepted.length, ⟨payload, 0⟩)])
    (handed : y.handed = x.handed) (yielded : y.traffic.yielded = x.traffic.yielded) :
    Sound m y := by
  have kept {number : Nat} {old : Bytes} := @accepted_still x y [payload] accepted number old
  have last : y.traffic.accepted[x.traffic.accepted.length]? = some payload := by
    rw [accepted, List.getElem?_concat_length]
  have same := deliveries_same handed
  refine ⟨even, ?_, ?_, ?_, ?_, ?_,
    sound.balanced.publish accepted entries handed yielded⟩
  · rw [yielded, handed]
    exact sound.yielded
  · intro h member
    rw [handed] at member
    obtain ⟨old, known, item⟩ := sound.known h member
    exact ⟨old, kept known, item⟩
  · rw [entries, List.map_append, List.nodup_append]
    refine ⟨sound.distinct, List.nodup_singleton _, ?_⟩
    intro number waiting other new
    obtain ⟨e, member, rfl⟩ := List.mem_map.mp waiting
    obtain ⟨within, -⟩ := List.getElem?_eq_some_iff.mp (sound.waits e member).accepted
    have other_eq : other = x.traffic.accepted.length := by simpa using new
    omega
  · intro e member
    rw [entries] at member
    rcases List.mem_append.mp member with old | new
    · have waits := sound.waits e old
      exact waits.of_same (kept waits.accepted) (same e.1)
    · rw [List.mem_singleton] at new
      subst new
      have nothing := deliveries_unknown sound (Nat.le_refl x.traffic.accepted.length)
      rw [← same] at nothing
      have positive := y.traffic.broker.queue.positive
      rw [even.bound] at positive
      refine ⟨last, ?_, positive, fun _ => rfl, ?_⟩
      · rw [nothing]
        rfl
      · rw [nothing]
        rfl
  · intro number old known missing
    rw [entries, List.map_append, List.mem_append, not_or] at missing
    have other : number ≠ x.traffic.accepted.length := by simpa using missing.2
    have known_before : x.traffic.accepted[number]? = some old := by
      obtain ⟨within, -⟩ := List.getElem?_eq_some_iff.mp known
      rw [accepted, List.length_append, List.length_singleton] at within
      rw [accepted, List.getElem?_append_left (by omega)] at known
      exact known
    exact (sound.settled number old known_before missing.1).of_same (same number)

theorem Sound.deliver (sound : Sound m x) (even : Even m y) {number : Nat} {d : Delivery}
    {rest : List (Nat × Delivery)} {notices : List Notice} {back : List Delivery}
    (fate : Queue.Fate m d notices back) (accepted : y.traffic.accepted = x.traffic.accepted)
    (before : x.entries = (number, d) :: rest) (after : y.entries = rest ++ back.map (number, ·))
    (handed : y.handed = x.handed ++ [⟨number, d.item, notices⟩])
    (yielded : y.traffic.yielded = x.traffic.yielded ++ [d.item]) : Sound m y := by
  have front : x.Waits m number d := sound.waits (number, d) (before ▸ .head _)
  have distinct := sound.distinct
  rw [before, List.map_cons, List.nodup_cons] at distinct
  obtain ⟨once, rest_distinct⟩ := distinct
  have others : ∀ {k : Nat}, k ≠ number → y.deliveries k = x.deliveries k := by
    intro k other
    rw [deliveries_more handed, if_neg (Ne.symm other), List.append_nil]
  have own : y.deliveries number = x.deliveries number ++ [⟨number, d.item, notices⟩] := by
    rw [deliveries_more handed, if_pos rfl]
  refine ⟨even, ?_, ?_, ?_, ?_, ?_,
    sound.balanced.deliver fate front.allowed accepted before after handed yielded⟩
  · rw [yielded, handed, sound.yielded, List.map_append]
    rfl
  · intro h member
    rw [handed] at member
    rw [accepted]
    rcases List.mem_append.mp member with old | new
    · exact sound.known h old
    · rw [List.mem_singleton] at new
      subst new
      exact ⟨d.payload, front.accepted, rfl⟩
  · have few := fate.back_length
    rw [after, List.map_append, List.map_map, List.nodup_append]
    refine ⟨rest_distinct, ?_, ?_⟩
    · rw [List.nodup_iff_count_le_one]
      intro k
      apply Nat.le_trans List.count_le_length
      rw [List.length_map]
      exact few
    · intro k waiting k' again
      obtain ⟨d', -, same⟩ := List.mem_map.mp again
      rintro rfl
      exact once ((show number = k from same) ▸ waiting)
  · intro e member
    rw [after] at member
    rcases List.mem_append.mp member with old | again
    · have waits := sound.waits e (before ▸ .tail _ old)
      have other : e.1 ≠ number := by
        intro same
        apply once
        rw [← same]
        exact List.mem_map.mpr ⟨e, old, rfl⟩
      exact waits.of_same (accepted ▸ waits.accepted) (others other)
    · obtain ⟨d', back_again, rfl⟩ := List.mem_map.mp again
      obtain ⟨rfl, rfl, undecodable, allowed⟩ := fate.again back_again
      refine ⟨accepted ▸ front.accepted, ?_, allowed, ?_, ?_⟩
      · rw [own, List.length_append, ← front.attempts]
        rfl
      · intro readable
        exact absurd readable (ne_true_of_eq_false undecodable)
      · rw [own, List.flatMap_append, front.silent]
        rfl
  · intro k payload known missing
    rw [accepted] at known
    rw [after, List.map_append, List.mem_append, not_or] at missing
    by_cases own_number : k = number
    · subst own_number
      have same : payload = d.payload := by
        rw [front.accepted, Option.some.injEq] at known
        exact known.symm
      subst same
      exact settles fate front own (by simpa using missing.2)
    · apply (sound.settled k payload known _).of_same (others own_number)
      rw [before, List.map_cons, List.mem_cons, not_or]
      exact ⟨own_number, missing.1⟩

theorem Sound.step (sound : Sound m x) (a : Traffic.Act) : Sound m (x.step a) := by
  obtain ⟨even, change⟩ := step_change sound.even a
  cases change with
  | idle accepted entries handed yielded => exact sound.idle even accepted entries handed yielded
  | publish payload accepted entries handed yielded =>
    exact sound.publish even accepted entries handed yielded
  | deliver number d rest notices back fate accepted before after handed yielded =>
    exact sound.deliver even fate accepted before after handed yielded

theorem Sound.run (sound : Sound m x) (acts : List Traffic.Act) : Sound m (x.run acts) := by
  induction acts generalizing x with
  | nil => exact sound
  | cons a later ih => exact ih (sound.step a)

theorem sound_new (maxDeliver : Int) : Sound (max 1 maxDeliver).toNat (new maxDeliver) where
  even := ⟨rfl, rfl⟩
  yielded := rfl
  known := fun _ member => (List.not_mem_nil member).elim
  distinct := List.nodup_nil
  waits := fun _ member => (List.not_mem_nil member).elim
  settled := fun _ _ known => nomatch known
  balanced := ⟨rfl, rfl⟩

end Ledger
end Agenda
