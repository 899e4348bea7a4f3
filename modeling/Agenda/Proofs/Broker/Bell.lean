import Agenda.Proofs.Broker.Traffic

/-! No ring is lost. While somebody sleeps, there are at least as many streams on their way to the
queue as there are messages, whoever comes, looks and leaves. -/
namespace Agenda

namespace Bell

/-- While somebody sleeps, no more than `n` messages wait for those who were woken. -/
structure Attentive (b : Bell) (n : Nat) (streams : List Nat) : Prop where
  asleep_nodup : b.asleep.Nodup
  woken_nodup : b.woken.Nodup
  apart : ∀ s ∈ b.woken, s ∉ b.asleep
  asleep_taken : ∀ s ∈ b.asleep, s ∈ streams
  woken_taken : ∀ s ∈ b.woken, s ∈ streams
  enough : b.asleep ≠ [] → n ≤ b.woken.length

namespace Attentive

variable {b : Bell} {n m s : Nat} {streams more : List Nat}

theorem silent : Bell.silent.Attentive n streams where
  asleep_nodup := List.nodup_nil
  woken_nodup := List.nodup_nil
  apart := fun _ member => (List.not_mem_nil member).elim
  asleep_taken := fun _ member => (List.not_mem_nil member).elim
  woken_taken := fun _ member => (List.not_mem_nil member).elim
  enough := fun nonempty => (nonempty rfl).elim

theorem weaken (h : b.Attentive n streams) (fewer : m ≤ n) (grown : streams ⊆ more) :
    b.Attentive m more where
  asleep_nodup := h.asleep_nodup
  woken_nodup := h.woken_nodup
  apart := h.apart
  asleep_taken := fun s member => grown (h.asleep_taken s member)
  woken_taken := fun s member => grown (h.woken_taken s member)
  enough := fun nonempty => Nat.le_trans fewer (h.enough nonempty)

/-- A ring makes up for one more message. -/
theorem ring (h : b.Attentive n streams) : b.ring.Attentive (n + 1) streams := by
  cases sleepers : b.asleep with
  | nil =>
    have rung : b.ring = { b with spare := true } := by simp only [Bell.ring, sleepers]
    rw [rung]
    exact ⟨h.asleep_nodup, h.woken_nodup, h.apart, h.asleep_taken, h.woken_taken,
      fun nonempty => (nonempty sleepers).elim⟩
  | cons first rest =>
    have nodup := h.asleep_nodup
    have taken := h.asleep_taken
    have enough : n ≤ b.woken.length := h.enough (by simp [sleepers])
    have rung : b.ring = { b with asleep := rest, woken := b.woken ++ [first] } := by
      simp only [Bell.ring, sleepers]
    rw [rung]
    rw [sleepers] at nodup taken
    obtain ⟨first_gone, rest_nodup⟩ := List.nodup_cons.mp nodup
    have first_not_woken : first ∉ b.woken := by
      intro woken
      apply h.apart first woken
      simp [sleepers]
    have rest_apart : ∀ s ∈ b.woken, s ∉ rest := by
      intro s woken member
      apply h.apart s woken
      simp [sleepers, member]
    refine ⟨rest_nodup, ?_, ?_, fun s member => taken s (.tail _ member), ?_, ?_⟩
    · rw [List.nodup_append]
      refine ⟨h.woken_nodup, List.nodup_singleton first, ?_⟩
      intro s woken s' same
      rw [List.mem_singleton] at same
      rintro rfl
      exact first_not_woken (same ▸ woken)
    · intro s member
      rcases List.mem_append.mp member with woken | same
      · exact rest_apart s woken
      · rw [List.mem_singleton] at same
        exact same ▸ first_gone
    · intro s member
      rcases List.mem_append.mp member with woken | same
      · exact h.woken_taken s woken
      · rw [List.mem_singleton] at same
        exact same ▸ taken first (.head _)
    · intro _
      rw [List.length_append, List.length_singleton]
      exact Nat.succ_le_succ enough

/-- Whoever comes back takes one message, if there is one. -/
theorem rise (h : b.Attentive n streams) (s : Nat) : (b.rise s).Attentive (n - 1) streams where
  asleep_nodup := h.asleep_nodup
  woken_nodup := h.woken_nodup.erase s
  apart := fun t member => h.apart t (List.mem_of_mem_erase member)
  asleep_taken := h.asleep_taken
  woken_taken := fun t member => h.woken_taken t (List.mem_of_mem_erase member)
  enough := by
    intro nonempty
    have enough := h.enough nonempty
    have length : b.woken.length - 1 ≤ (b.woken.erase s).length := List.le_length_erase
    exact Nat.le_trans (Nat.sub_le_sub_right enough 1) length

/-- Whoever finds nothing falls asleep. -/
theorem sleep (h : b.Attentive n streams) (taken : s ∈ streams) (awake : s ∉ b.asleep) :
    ((b.rise s).sleep s).Attentive 0 streams := by
  have risen := h.rise s
  have gone : s ∉ b.woken.erase s := fun member => h.woken_nodup.not_mem_erase member
  refine ⟨?_, risen.woken_nodup, ?_, ?_, risen.woken_taken, fun _ => Nat.zero_le _⟩
  · change (b.asleep ++ [s]).Nodup
    rw [List.nodup_append]
    refine ⟨h.asleep_nodup, List.nodup_singleton s, ?_⟩
    intro t member t' same
    rw [List.mem_singleton] at same
    rintro rfl
    exact awake (same ▸ member)
  · intro t woken member
    rcases List.mem_append.mp member with sleeps | same
    · exact risen.apart t woken sleeps
    · rw [List.mem_singleton] at same
      exact gone (same ▸ woken)
  · intro t member
    rcases List.mem_append.mp member with sleeps | same
    · exact h.asleep_taken t sleeps
    · rw [List.mem_singleton] at same
      exact same ▸ taken

/-- Whoever leaves passes on the ring that was meant for it. -/
theorem leave (h : b.Attentive n streams) (s : Nat) :
    (b.leave s).Attentive n (streams.erase s) := by
  unfold Bell.leave
  by_cases woken : s ∈ b.woken
  · rw [if_pos woken]
    have risen := h.rise s
    have without : (b.rise s).Attentive (n - 1) (streams.erase s) := by
      refine ⟨risen.asleep_nodup, risen.woken_nodup, risen.apart, ?_, ?_, risen.enough⟩
      · intro t member
        have other : t ≠ s := by
          rintro rfl
          exact h.apart t woken member
        exact (List.mem_erase_of_ne other).mpr (h.asleep_taken t member)
      · intro t member
        have other : t ≠ s := by
          rintro rfl
          exact h.woken_nodup.not_mem_erase member
        exact (List.mem_erase_of_ne other).mpr (risen.woken_taken t member)
    exact without.ring.weaken (by omega) (List.Subset.refl _)
  · rw [if_neg woken]
    refine ⟨h.asleep_nodup.erase s, h.woken_nodup, ?_, ?_, ?_, ?_⟩
    · intro t member sleeps
      exact h.apart t member (List.mem_of_mem_erase sleeps)
    · intro t member
      have other : t ≠ s := by
        rintro rfl
        exact h.asleep_nodup.not_mem_erase member
      exact (List.mem_erase_of_ne other).mpr (h.asleep_taken t (List.mem_of_mem_erase member))
    · intro t member
      have other : t ≠ s := by
        rintro rfl
        exact woken member
      exact (List.mem_erase_of_ne other).mpr (h.woken_taken t member)
    · intro nonempty
      apply h.enough
      intro empty
      apply nonempty
      change b.asleep.erase s = []
      rw [empty]
      rfl

/-- While messages wait and somebody has taken a stream, one who has is awake. -/
theorem someone_awake (h : b.Attentive n streams) (waiting : 0 < n) (taken : streams ≠ []) :
    ∃ s ∈ streams, s ∉ b.asleep := by
  by_cases everyone : b.asleep = []
  · obtain ⟨s, member⟩ := List.exists_mem_of_ne_nil streams taken
    refine ⟨s, member, ?_⟩
    rw [everyone]
    exact List.not_mem_nil
  · have woken : 0 < b.woken.length := Nat.lt_of_lt_of_le waiting (h.enough everyone)
    obtain ⟨s, member⟩ := List.exists_mem_of_length_pos woken
    exact ⟨s, h.woken_taken s member, h.apart s member⟩

end Attentive
end Bell

namespace Traffic

def Attentive (x : Traffic) : Prop := x.broker.bell.Attentive x.queued.length x.streams

variable {x : Traffic}

theorem Attentive.produce (h : x.Attentive) (k : Nat) (call : ProducerCall) :
    (x.produce k call).Attentive := by
  cases call with
  | openChannel | closeChannel | closeConnection => exact h
  | publish payload =>
    simp only [Traffic.produce, LocalProducer.publish]
    by_cases isOpen : (x.producers k).isOpen = true
    · rw [if_pos isOpen]
      have rung := Bell.Attentive.ring h
      have length : (x.queued ++ [(⟨payload, 0⟩ : Delivery)]).length = x.queued.length + 1 :=
        List.length_append
      rw [← length] at rung
      exact rung
    · rw [if_neg isOpen]
      exact h

theorem Attentive.consume (h : x.Attentive) (k : Nat) (call : ConsumerCall) :
    (x.consume k call).Attentive := by
  cases call with
  | openChannel | closeChannel | closeConnection => exact h
  | beginConsume =>
    simp only [Traffic.consume, LocalConsumer.beginConsume]
    split
    · rename_i c broker began
      split at began
      · cases began
      · split at began <;> cases began
        exact h
    · exact h
  | receive =>
    simp only [Traffic.consume]
    split
    · exact Bell.Attentive.weaken h (Nat.le_refl _) (List.subset_cons_self _ _)
    · exact h

theorem Attentive.poll (h : x.Attentive) {stream : Nat} (taken : stream ∈ x.streams) :
    (x.poll stream).Attentive := by
  unfold Attentive Traffic.poll LocalBroker.poll
  by_cases asleep : stream ∈ x.broker.bell.asleep
  · simp only [if_pos asleep]
    exact h
  · simp only [if_neg asleep]
    cases next : x.broker.queue.take with
    | none =>
      have empty : x.queued = [] := Queue.take_eq_none_iff.mp next
      have slept := Bell.Attentive.sleep h taken asleep
      simp only [queued] at empty ⊢
      rw [empty]
      exact slept
    | some t =>
      obtain ⟨d, rest, back, front, -, -, fate, returned, after⟩ := Queue.take_fate next
      have before : x.queued.length = rest.length + 1 := by
        rw [queued, front, List.length_cons]
      have risen := Bell.Attentive.rise h stream
      rw [before, Nat.add_sub_cancel] at risen
      have few := fate.back_length
      simp only [queued, after, returned]
      cases back with
      | nil =>
        rw [List.append_nil]
        exact risen
      | cons again others =>
        apply risen.ring.weaken _ (List.Subset.refl _)
        rw [List.length_append]
        exact Nat.add_le_add_left few _

theorem Attentive.step (h : x.Attentive) (a : Act) : (x.step a).Attentive := by
  cases a with
  | produce k call => exact h.produce k call
  | consume k call => exact h.consume k call
  | poll stream =>
    simp only [Traffic.step]
    split
    · rename_i taken
      exact h.poll taken
    · exact h
  | drop stream =>
    simp only [Traffic.step]
    split
    · exact Bell.Attentive.leave h stream
    · exact h

theorem attentive_run (maxDeliver : Int) (acts : List Act) :
    ((new maxDeliver).run acts).Attentive := by
  have kept : ∀ x : Traffic, x.Attentive → (x.run acts).Attentive := by
    induction acts with
    | nil => exact fun _ h => h
    | cons a later ih => exact fun x h => ih (x.step a) (h.step a)
  exact kept _ .silent

end Traffic
end Agenda
