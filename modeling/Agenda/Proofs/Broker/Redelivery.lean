import Agenda.Proofs.Broker.Acknowledging
import Agenda.Proofs.Broker.Undecodable

/-! How often a message is delivered that nobody can decode. The broker inside the process counts a
bound below one as one; a server takes the bound that a durable consumer was made with as it is, and
has none where it is not positive. -/
namespace Agenda

/-! ## Inside the process -/

namespace Ledger

/-- A stream is taken, and one message is published. -/
def single (payload : Bytes) : List Traffic.Act :=
  [.consume 0 .openChannel, .consume 0 .beginConsume, .consume 0 .receive,
    .produce 0 .openChannel, .produce 0 (.publish payload)]

theorem single_queued (maxDeliver : Int) (payload : Bytes) :
    let x := (new maxDeliver).run (single payload)
    x.traffic.accepted = [payload] ∧ x.traffic.queued = [⟨payload, 0⟩] ∧ x.handed = [] ∧
      x.traffic.streams = [0] ∧ x.traffic.broker.bell.asleep = [] :=
  ⟨rfl, rfl, rfl, rfl, rfl⟩

variable {payload : Bytes} (undecodable : Notification.isReadable payload = false)
include undecodable

/-- A message that cannot be decoded is handed out at most as often as the setting says, or once if
it says less. -/
theorem deliveries_le (maxDeliver : Int) (acts : List Traffic.Act) {number : Nat}
    (accepted : ((new maxDeliver).run acts).traffic.accepted[number]? = some payload) :
    (((new maxDeliver).run acts).deliveries number).length ≤ (max 1 maxDeliver).toNat :=
  (deliveries_bound ((sound_new maxDeliver).run acts) accepted undecodable).1

/-- It is handed out so often if somebody looks. -/
theorem deliveries_reach (maxDeliver : Int) : ∃ acts,
    ((new maxDeliver).run acts).traffic.accepted[0]? = some payload ∧
      (((new maxDeliver).run acts).deliveries 0).length = (max 1 maxDeliver).toNat := by
  generalize most : (max 1 maxDeliver).toNat = m
  refine ⟨single payload ++ List.replicate m (.poll 0), ?_⟩
  obtain ⟨accepted, queued, handed, streams, asleep⟩ := single_queued maxDeliver payload
  have sound : Sound m ((new maxDeliver).run (single payload)) :=
    most ▸ (sound_new maxDeliver).run (single payload)
  rw [run, List.foldl_append]
  change (((new maxDeliver).run (single payload)).run _).traffic.accepted[0]? = _ ∧
    (((new maxDeliver).run (single payload)).run _ |>.deliveries 0).length = _
  generalize (new maxDeliver).run (single payload) = x at *
  have takes : x.takes m = m := by
    simp [Ledger.takes, queued, Delivery.isReadable, undecodable]
  have taken : 0 ∈ x.traffic.streams := streams ▸ .head _
  have awake : 0 ∉ x.traffic.broker.bell.asleep := asleep ▸ List.not_mem_nil
  have looked := polls_take sound taken awake m
  rw [handed, takes, Nat.min_self, List.length_nil, Nat.zero_add] at looked
  have sound_later := sound.run (List.replicate m (.poll 0))
  have still := x.polls_accepted 0 m
  rw [accepted] at still
  -- There is no other message that could have been handed out.
  have own : ∀ h ∈ (x.run (List.replicate m (.poll 0))).handed, h.number = 0 := by
    intro h member
    obtain ⟨known, found, -⟩ := sound_later.known h member
    rw [still] at found
    obtain ⟨inside, -⟩ := List.getElem?_eq_some_iff.mp found
    exact Nat.lt_one_iff.mp inside
  refine ⟨by rw [still]; rfl, ?_⟩
  rw [deliveries, List.filter_eq_self.mpr fun h member => decide_eq_true (own h member), looked]

end Ledger

/-! ## On a server -/

/-- That a durable consumer has delivered a message so often, and how it leaves the server. The
consumer delivers again what nobody has acknowledged, as long as its bound allows another delivery. -/
inductive ServerConsumer.Delivers (d : ServerConsumer) (m : Message) : Nat → BrokerServer → Prop
  | never (s : BrokerServer) : d.Delivers m 0 s
  | again {n : Nat} {s : BrokerServer} (before : d.Delivers m n s)
    (kept : m.number ∈ s.unacknowledged) (allowed : ∀ bound, d.bound? = some bound → n < bound) :
    d.Delivers m (n + 1) (Session.receive m s).2
  /-- Others use the server. What has been acknowledged stays so. -/
  | others {n : Nat} {s t : BrokerServer} (before : d.Delivers m n s)
    (still : m.number ∈ t.unacknowledged → m.number ∈ s.unacknowledged) : d.Delivers m n t

namespace ServerConsumer

variable {d : ServerConsumer} {m : Message} {n : Nat} {s : BrokerServer}

theorem Delivers.le_bound (h : d.Delivers m n s) {bound : Nat} (bounded : d.bound? = some bound) :
    n ≤ bound := by
  induction h with
  | never => exact Nat.zero_le _
  | again _ _ allowed _ => exact allowed bound bounded
  | others _ _ ih => exact ih

/-- What cannot be decoded is delivered as often as the bound allows, as it is never acknowledged. -/
theorem delivers_undecodable (undecodable : m.isReadable = false)
    (kept : m.number ∈ s.unacknowledged) (within : ∀ bound, d.bound? = some bound → n ≤ bound) :
    d.Delivers m n s := by
  induction n with
  | zero => exact .never s
  | succ n ih =>
    have before := ih fun bound bounded => Nat.le_of_succ_le (within bound bounded)
    have unchanged : (Session.receive m s).2 = s := by
      rw [Session.receive_eq, undecodable]
      rfl
    have delivered := Delivers.again before kept within
    rwa [unchanged] at delivered

/-- A brace that was sent to a new server. -/
theorem delivers_brace (within : ∀ bound, d.bound? = some bound → n ≤ bound) :
    d.Delivers ⟨1, [0x7B]⟩ n (BrokerServer.new.push [0x7B]) :=
  delivers_undecodable rfl (.head _) within

/-- The bound is that of all messages that cannot be decoded. -/
theorem delivers_le_iff {most : Nat} :
    (∀ m : Message, m.isReadable = false → ∀ n s, d.Delivers m n s → n ≤ most) ↔
      0 < d.maxDeliver ∧ d.maxDeliver ≤ most := by
  constructor
  · intro atMost
    have delivered (n : Nat) (within : ∀ bound, d.bound? = some bound → n ≤ bound) : n ≤ most :=
      atMost ⟨1, [0x7B]⟩ rfl n _ (delivers_brace within)
    by_cases positive : 0 < d.maxDeliver
    · have bounded : d.bound? = some d.maxDeliver.toNat := if_pos positive
      have least := delivered d.maxDeliver.toNat fun bound same => by
        rw [bounded] at same
        exact Nat.le_of_eq (Option.some.inj same)
      exact ⟨positive, by omega⟩
    · have unbounded : d.bound? = none := if_neg positive
      have more := delivered (most + 1) fun bound same => by
        rw [unbounded] at same
        cases same
      exact absurd more (Nat.not_succ_le_self most)
  · rintro ⟨positive, small⟩ m - n s h
    have bounded : d.bound? = some d.maxDeliver.toNat := if_pos positive
    have within := h.le_bound bounded
    omega

end ServerConsumer

/-! ## The consumer in use -/

namespace BrokerServer

/-- The server with a request written down. -/
def noting (s : BrokerServer) (r : ServerRequest) : BrokerServer :=
  { s with requests := r :: s.requests }

/-- A request is refused and only noted, or it is performed. -/
theorem ask_cases (s : BrokerServer) (r : ServerRequest) :
    s.ask r = (false, s.noting r) ∨
      ∃ after, (s.noting r).perform r = some after ∧ s.ask r = (true, after) := by
  simp only [ask]
  split
  · exact .inl rfl
  · cases done : (s.noting r).perform r with
    | none => exact .inl (by rw [noting] at done; simp only [done]; rfl)
    | some after => exact .inr ⟨after, rfl, by rw [noting] at done; simp only [done]⟩

/-- Looking for a consumer changes none, and what is found is there. -/
theorem ask_consumerInfo (s : BrokerServer) (stream consumer : String) :
    (s.ask (.consumerInfo stream consumer)).2.consumers = s.consumers ∧
      ((s.ask (.consumerInfo stream consumer)).1 = true →
        (s.consumer? stream consumer).isSome = true) := by
  rcases s.ask_cases (.consumerInfo stream consumer) with refused | ⟨after, done, granted⟩
  · rw [refused]
    exact ⟨rfl, nofun⟩
  · obtain ⟨d, found, rfl⟩ := Option.map_eq_some_iff.mp done
    rw [granted]
    exact ⟨rfl, fun _ => Option.isSome_iff_exists.mpr ⟨d, found⟩⟩

theorem ask_consumerCreate {s : BrokerServer} {stream consumer subject : String} {maxDeliver : Int}
    (created : (s.ask (.consumerCreate stream consumer subject maxDeliver)).1 = true) :
    (s.ask (.consumerCreate stream consumer subject maxDeliver)).2.consumers =
      s.consumers ++ [⟨stream, consumer, maxDeliver⟩] := by
  rcases s.ask_cases (.consumerCreate stream consumer subject maxDeliver) with
    refused | ⟨after, done, granted⟩
  · rw [refused] at created
    cases created
  · cases done
    rw [granted]
    rfl

end BrokerServer

namespace Remote

/-- The consumer that is there is the one in use, with whatever bound it was made; where there is
none, it is made with the setting as it is. -/
theorem declareConsumer_uses {c : BrokerConfig} {s : BrokerServer}
    (declared : (declareConsumer c s).result = .ok ()) :
    (declareConsumer c s).server.consumer? c.stream c.consumer =
      some ((s.consumer? c.stream c.consumer).getD ⟨c.stream, c.consumer, c.maxDeliver⟩) := by
  obtain ⟨same, found⟩ := s.ask_consumerInfo c.stream c.consumer
  unfold declareConsumer at declared ⊢
  rcases asked : s.ask (.consumerInfo c.stream c.consumer) with ⟨there, t⟩
  rw [asked] at declared same found
  cases there with
  | true =>
    obtain ⟨d, present⟩ := Option.isSome_iff_exists.mp (found rfl)
    change t.consumers.find? _ = _
    rw [same]
    change s.consumer? c.stream c.consumer = _
    rw [present]
    rfl
  | false =>
    have created : (t.ask (.consumerCreate c.stream c.consumer c.subject c.maxDeliver)).1 = true := by
      by_contra refused
      simp [refused] at declared
    have consumers := BrokerServer.ask_consumerCreate created
    change (t.ask _).2.consumers.find? _ = _
    rw [consumers, same, List.find?_append]
    change (s.consumer? c.stream c.consumer).or _ = _
    cases s.consumer? c.stream c.consumer with
    | some d => rfl
    | none => simp

end Remote

/-- A session begins, and this is the durable consumer that gives it its messages. -/
def RemoteConsumer.BeginsWith (c : RemoteConsumer) (s : BrokerServer) (d : ServerConsumer) : Prop :=
  (∃ begun, (c.beginConsume s).result = .ok begun) ∧
    (c.beginConsume s).server.consumer? c.config.stream c.config.consumer = some d

theorem RemoteConsumer.beginsWith {c begun : RemoteConsumer} {s : BrokerServer}
    (success : (c.beginConsume s).result = .ok begun) :
    c.BeginsWith s ((s.consumer? c.config.stream c.config.consumer).getD
      ⟨c.config.stream, c.config.consumer, c.config.maxDeliver⟩) := by
  obtain ⟨-, -, declared, server, -⟩ := beginConsume_begun success
  exact ⟨⟨begun, success⟩, server ▸ Remote.declareConsumer_uses declared⟩

/-- **Both brokers give up on a message alike if and only if the bound in use is a positive one within
the setting.** Inside the process, whatever its users do, a message that cannot be decoded is handed
out at most as often as the setting says, and at most once if it says less; so often it may happen.
A consumer of a server that has begun uses the durable consumer that the server had before, or else
one that is made with the setting as it is. It delivers no such message more often than that if and
only if its own bound is positive and no greater. -/
theorem gives_up_alike_iff {c begun : RemoteConsumer} {s : BrokerServer}
    (success : (c.beginConsume s).result = .ok begun) :
    let most := (max 1 c.config.maxDeliver).toNat
    (∀ payload, Notification.isReadable payload = false →
      (∀ acts number, let x := (Ledger.new c.config.maxDeliver).run acts
        x.traffic.accepted[number]? = some payload → (x.deliveries number).length ≤ most) ∧
      ∃ acts, let x := (Ledger.new c.config.maxDeliver).run acts
        x.traffic.accepted[0]? = some payload ∧ (x.deliveries 0).length = most) ∧
    ∃ d, c.BeginsWith s d ∧
      d = (s.consumer? c.config.stream c.config.consumer).getD
        ⟨c.config.stream, c.config.consumer, c.config.maxDeliver⟩ ∧
      ((∀ m : Message, m.isReadable = false → ∀ n t, d.Delivers m n t → n ≤ most) ↔
        0 < d.maxDeliver ∧ d.maxDeliver ≤ max 1 c.config.maxDeliver) := by
  intro most
  have same : (most : Int) = max 1 c.config.maxDeliver := Int.toNat_of_nonneg (by omega)
  refine ⟨?_, _, RemoteConsumer.beginsWith success, rfl, ?_⟩
  · intro payload undecodable
    exact ⟨fun acts number accepted =>
      Ledger.deliveries_le undecodable c.config.maxDeliver acts accepted,
      Ledger.deliveries_reach undecodable c.config.maxDeliver⟩
  · rw [ServerConsumer.delivers_le_iff, same]

/-- A consumer that takes a setting as its bound. -/
def RemoteConsumer.allowing (setting : String) : RemoteConsumer :=
  .opened [("NATS_MAX_DELIVER", Text.bytes setting)]

/-- Where there was no durable consumer, three deliveries are the bound if that is the setting. -/
theorem three_then_given_up : ∃ d, (RemoteConsumer.allowing "3").BeginsWith .new d ∧
    ∀ m : Message, m.isReadable = false → ∀ n t, d.Delivers m n t → n ≤ 3 := by
  have three : (RemoteConsumer.allowing "3").config.maxDeliver = 3 := rfl
  obtain ⟨begun, success⟩ :
      ∃ begun, ((RemoteConsumer.allowing "3").beginConsume .new).result = .ok begun := ⟨_, rfl⟩
  obtain ⟨-, d, begins, made, bounded⟩ := gives_up_alike_iff success
  have fresh : d.maxDeliver = 3 := by rw [made]; exact three
  refine ⟨d, begins, ?_⟩
  rw [three] at bounded
  exact bounded.mpr (by omega)

/-- A server with a durable consumer from before. -/
def stale : BrokerServer :=
  BrokerServer.new.addConsumer ⟨"CALENDAR_NOTIFICATIONS", "calendar-sender", 5⟩

/-- A setting of zero allows one delivery inside the process and any number of them on a server, and
where the server has a durable consumer from before, its bound counts and not the setting. -/
theorem zero_never_given_up :
    Message.isReadable ⟨1, [0x7B]⟩ = false ∧
    (max 1 (RemoteConsumer.allowing "0").config.maxDeliver).toNat = 1 ∧
    (∃ d, (RemoteConsumer.allowing "0").BeginsWith .new d ∧
      ∀ n, ∃ t, d.Delivers ⟨1, [0x7B]⟩ n t) ∧
    (max 1 (RemoteConsumer.allowing "3").config.maxDeliver).toNat = 3 ∧
    ∃ d, (RemoteConsumer.allowing "3").BeginsWith stale d ∧ ∃ t, d.Delivers ⟨1, [0x7B]⟩ 5 t := by
  have zero : (RemoteConsumer.allowing "0").config.maxDeliver = 0 := rfl
  have three : (RemoteConsumer.allowing "3").config.maxDeliver = 3 := rfl
  obtain ⟨first, success⟩ :
      ∃ begun, ((RemoteConsumer.allowing "0").beginConsume .new).result = .ok begun := ⟨_, rfl⟩
  obtain ⟨second, again⟩ :
      ∃ begun, ((RemoteConsumer.allowing "3").beginConsume stale).result = .ok begun := ⟨_, rfl⟩
  have found : stale.consumer? (RemoteConsumer.allowing "3").config.stream
      (RemoteConsumer.allowing "3").config.consumer =
        some ⟨"CALENDAR_NOTIFICATIONS", "calendar-sender", 5⟩ := rfl
  refine ⟨rfl, by rw [zero]; rfl, ⟨_, RemoteConsumer.beginsWith success, ?_⟩, by rw [three]; rfl,
    ⟨_, RemoteConsumer.beginsWith again, ?_⟩⟩
  · intro n
    refine ⟨_, ServerConsumer.delivers_brace ?_⟩
    change ∀ bound, ServerConsumer.bound? ⟨_, _, (RemoteConsumer.allowing "0").config.maxDeliver⟩ =
      some bound → n ≤ bound
    rw [zero]
    exact nofun
  · refine ⟨_, ServerConsumer.delivers_brace ?_⟩
    rw [found]
    intro bound same
    exact Nat.le_of_eq (Option.some.inj same)

end Agenda
