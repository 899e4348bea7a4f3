import Mathlib
import Agenda.Proofs.Calendar.Retention
import Agenda.Proofs.Conversation
import Agenda.Proofs.Storage.Query
import Agenda.Proofs.Window

/-! Which instants the windows of successive cleanup cycles reach. When a 29 February leaves the
year before, the retention time jumps ahead by a day, and the windows are not wider for it. -/
namespace Agenda

/-- The clock at a cycle, when cycles begin every `interval` seconds from `first` on. -/
def cycleTime (first : Timestamp) (interval k : Nat) : Timestamp := first.shift (interval * k)

/-- A window of a cleanup cycle. -/
def expiring (first : Timestamp) (interval k : Nat) : TimeSpan :=
  Cleanup.window (cycleTime first interval k) (.ofSeconds interval)

/-- The instant is in the day that the retention time jumps over between two cycles: the later one
is the first without a 29 February in the year before. -/
def JumpedOver (earlier later s : Timestamp) : Prop :=
  earlier.afterLeapDay = true ∧ later.afterLeapDay = false ∧
    later.seconds - 366 * secondsPerDay ≤ s.seconds ∧
    s.seconds < later.seconds - 365 * secondsPerDay

section Times

variable {first s : Timestamp} {interval n : Nat}

theorem cycleTime_zero (first : Timestamp) (interval : Nat) :
    cycleTime first interval 0 = first := by
  have := first.lower
  have := first.upper
  apply Timestamp.ext
  simp only [cycleTime, Timestamp.shift, Timestamp.clamp]
  omega

theorem cycleTime_seconds {k : Nat} (h : Reckoned (cycleTime first interval k)) :
    (cycleTime first interval k).seconds = first.seconds + interval * k := by
  have := h.bounds
  simp only [cycleTime, Timestamp.shift, Timestamp.clamp] at this ⊢
  omega

/-- The retention time passes an instant between two successive cycles. -/
theorem exists_passing (lo : (retentionStart first).seconds ≤ s.seconds)
    (hi : s.seconds < (retentionStart (cycleTime first interval n)).seconds) :
    ∃ k < n, (retentionStart (cycleTime first interval k)).seconds ≤ s.seconds ∧
      s.seconds < (retentionStart (cycleTime first interval (k + 1))).seconds := by
  induction n with
  | zero =>
    rw [cycleTime_zero] at hi
    omega
  | succ n ih =>
    by_cases passed : s.seconds < (retentionStart (cycleTime first interval n)).seconds
    · obtain ⟨k, hk, passing⟩ := ih passed
      exact ⟨k, by omega, passing⟩
    · exact ⟨n, by omega, by omega, hi⟩

/-- What the cycles up to `n` need: a width, and clocks within the years of the calendar. -/
structure Regular (first : Timestamp) (interval n : Nat) : Prop where
  positive : 1 ≤ interval
  reckoned : ∀ k ≤ n, Reckoned (cycleTime first interval k)

namespace Regular

variable {k : Nat} (h : Regular first interval n)
include h

theorem seconds (hk : k ≤ n) :
    (cycleTime first interval k).seconds = first.seconds + interval * k :=
  cycleTime_seconds (h.reckoned k hk)

theorem seconds_succ (hk : k < n) : (cycleTime first interval (k + 1)).seconds =
    (cycleTime first interval k).seconds + interval := by
  rw [h.seconds (k := k + 1) hk, h.seconds (Nat.le_of_lt hk), Int.natCast_add, Int.mul_add]
  omega

/-- Later cycles are apart by the interval at least. -/
theorem seconds_apart {j : Nat} (hjk : j < k) (hk : k ≤ n) :
    (cycleTime first interval j).seconds + interval ≤ (cycleTime first interval k).seconds := by
  obtain ⟨d, rfl⟩ : ∃ d, k = j + 1 + d := ⟨k - (j + 1), by omega⟩
  have more : (0 : Int) ≤ interval * d := Int.mul_nonneg (by omega) (by omega)
  rw [h.seconds hk, h.seconds (by omega), Int.natCast_add, Int.natCast_add, Int.mul_add,
    Int.mul_add]
  omega

theorem expiring_contains_iff (hk : k ≤ n) (several : 0 < n) :
    (expiring first interval k).contains s = true ↔
      (cycleTime first interval k).seconds - retentionLength (cycleTime first interval k) ≤
          s.seconds ∧
        s.seconds < (cycleTime first interval k).seconds -
          retentionLength (cycleTime first interval k) + interval := by
  have apart := h.seconds_apart Nat.zero_lt_one several
  have early := (h.reckoned 0 (by omega)).bounds
  have late := (h.reckoned 1 several).bounds
  have reckoned := h.reckoned k hk
  rw [← retentionStart_seconds reckoned]
  exact Cleanup.window_contains_iff h.positive (by omega)

/-- A second that is jumped over is in none of the windows. -/
theorem missed (hk : k < n)
    (jumped : JumpedOver (cycleTime first interval k) (cycleTime first interval (k + 1)) s)
    {j : Nat} (hj : j ≤ n) : (expiring first interval j).contains s = false := by
  obtain ⟨held, left, lo, hi⟩ := jumped
  have turned : (cycleTime first interval k).afterLeapDay ≠
      (cycleTime first interval (k + 1)).afterLeapDay := by simp [held, left]
  have step := h.seconds_succ hk
  have length := retentionLength_cases (cycleTime first interval j)
  simp only [secondsPerDay] at lo hi
  rw [Bool.eq_false_iff, ne_eq, h.expiring_contains_iff hj (by omega)]
  rintro ⟨from_start, to_stop⟩
  rcases (show j < k ∨ j = k ∨ j = k + 1 ∨ k + 1 < j by omega) with before | rfl | rfl | after
  · -- the window of an earlier cycle reaches so far only if that cycle is not after a 29 February
    have apart := h.seconds_apart before (Nat.le_of_lt hk)
    have early : (cycleTime first interval j).afterLeapDay ≠
        (cycleTime first interval k).afterLeapDay := by
      rw [held]
      rcases length with ⟨-, length⟩ | ⟨common, -⟩
      · omega
      · simp [common]
    have settled := afterLeapDay_settled (b := cycleTime first interval k)
      (c := cycleTime first interval (k + 1)) (Timestamp.le_iff.mpr (by omega))
      (Timestamp.le_iff.mpr (by omega)) (by simp only [secondsPerDay]; omega) early
    exact turned settled
  · rcases length with ⟨-, length⟩ | ⟨common, -⟩
    · omega
    · simp [common] at held
  · rcases length with ⟨leap, -⟩ | ⟨-, length⟩
    · simp [leap] at left
    · omega
  · -- the window of a later cycle begins so early only if that cycle is after the next 29 February
    have apart := h.seconds_apart after hj
    have settled := afterLeapDay_settled (a := cycleTime first interval k)
      (c := cycleTime first interval j) (Timestamp.le_iff.mpr (by omega))
      (Timestamp.le_iff.mpr (by omega)) (by simp only [secondsPerDay]; omega) turned
    rcases length with ⟨leap, -⟩ | ⟨-, length⟩
    · simp [leap, left] at settled
    · omega

/-- A second that is passed is in the window of the cycle before or is jumped over. -/
theorem reached (lo : retentionStart first ≤ s)
    (hi : s < retentionStart (cycleTime first interval n)) :
    (∃ k ≤ n, (expiring first interval k).contains s = true) ∨
      ∃ k < n, JumpedOver (cycleTime first interval k) (cycleTime first interval (k + 1)) s := by
  obtain ⟨k, hk, passed, coming⟩ := exists_passing lo hi
  have step := h.seconds_succ hk
  rw [retentionStart_seconds (h.reckoned k (by omega))] at passed
  rw [retentionStart_seconds (h.reckoned (k + 1) hk)] at coming
  by_cases inside : s.seconds < (cycleTime first interval k).seconds -
      retentionLength (cycleTime first interval k) + interval
  · exact .inl ⟨k, by omega, (h.expiring_contains_iff (by omega) (by omega)).mpr ⟨passed, inside⟩⟩
  · refine .inr ⟨k, hk, ?_⟩
    have now := retentionLength_cases (cycleTime first interval k)
    have later := retentionLength_cases (cycleTime first interval (k + 1))
    rcases now with ⟨held, now⟩ | ⟨-, now⟩ <;> rcases later with ⟨-, later⟩ | ⟨left, later⟩
    · omega
    · exact ⟨held, left, by simp only [secondsPerDay]; omega, by simp only [secondsPerDay]; omega⟩
    · omega
    · omega

theorem reached_iff (lo : retentionStart first ≤ s)
    (hi : s < retentionStart (cycleTime first interval n)) :
    (∃ k ≤ n, (expiring first interval k).contains s = true) ↔
      ¬ ∃ k < n, JumpedOver (cycleTime first interval k) (cycleTime first interval (k + 1)) s := by
  constructor
  · rintro ⟨j, hj, inside⟩ ⟨k, hk, jumped⟩
    rw [h.missed hk jumped hj] at inside
    cases inside
  · intro never
    rcases h.reached lo hi with inside | jumped
    · exact inside
    · exact absurd jumped never

end Regular
end Times

/-! ## Events -/

/-- What a cycle calls after its query, which is answered by the events of that moment. -/
def Cleaning (first : Timestamp) (interval k : Nat) (store : EventStore) (log : List Answered) :
    Prop :=
  store.Keyed Event.id ∧
    Conversation (Cleanup.start (cycleTime first interval k) (.ofSeconds interval))
      (⟨.findByStartDate (expiring first interval k),
        store.findByStartDate (expiring first interval k)⟩ :: log)

/-- The event is stored at every query until a cycle tries to remove it. -/
def Stays (store : Nat → EventStore) (log : Nat → List Answered) (n : Nat) (e : Event) : Prop :=
  ∀ k ≤ n, (∀ j < k, ¬ Removes (log j) e.id) → (store k).find? e.id = some e

section Events

variable {first : Timestamp} {interval n : Nat} {store : Nat → EventStore}
  {log : Nat → List Answered} {e : Event}

theorem Cleaning.removes_iff {k : Nat} (h : Cleaning first interval k (store k) (log k))
    (stored : (store k).find? e.id = some e) :
    Removes (log k) e.id ↔ (expiring first interval k).contains e.startDate = true := by
  obtain ⟨keyed, conversation⟩ := h
  rw [Cleanup.removes_iff keyed conversation]
  constructor
  · rintro ⟨other, found, inside⟩
    rw [stored] at found
    cases found
    exact inside
  · intro inside
    exact ⟨e, stored, inside⟩

theorem removed_iff (cleaned : ∀ k ≤ n, Cleaning first interval k (store k) (log k))
    (stays : Stays store log n e) :
    (∃ k ≤ n, Removes (log k) e.id) ↔
      ∃ k ≤ n, (expiring first interval k).contains e.startDate = true := by
  constructor
  · intro removed
    by_contra outside
    have kept : ∀ k ≤ n, ¬ Removes (log k) e.id := by
      intro k
      induction k using Nat.strongRecOn with
      | ind k ih =>
        intro hk removes
        have stored := stays k hk fun j hj => ih j hj (by omega)
        exact outside ⟨k, hk, ((cleaned k hk).removes_iff stored).mp removes⟩
    obtain ⟨k, hk, removes⟩ := removed
    exact kept k hk removes
  · rintro ⟨k, hk, inside⟩
    by_cases earlier : ∃ j < k, Removes (log j) e.id
    · obtain ⟨j, hj, removes⟩ := earlier
      exact ⟨j, by omega, removes⟩
    · have stored := stays k hk fun j hj removes => earlier ⟨j, hj, removes⟩
      exact ⟨k, hk, ((cleaned k hk).removes_iff stored).mpr inside⟩

end Events

/-- **Which instants escape the retention.** Of the instants that the retention time passes between
the first and the last of successive cycles, exactly those are in no window that it jumps over when
a 29 February leaves the year before. So an event that stays in the storage is given to removal,
unless it starts at such an instant. -/
theorem escapes_iff_jumpedOver {first : Timestamp} {interval n : Nat}
    (regular : Regular first interval n) :
    (∀ s, retentionStart first ≤ s → s < retentionStart (cycleTime first interval n) →
      ((∃ k ≤ n, (expiring first interval k).contains s = true) ↔
        ¬ ∃ k < n, JumpedOver (cycleTime first interval k) (cycleTime first interval (k + 1)) s)) ∧
    ∀ (store : Nat → EventStore) (log : Nat → List Answered) (e : Event),
      (∀ k ≤ n, Cleaning first interval k (store k) (log k)) → Stays store log n e →
      retentionStart first ≤ e.startDate →
      e.startDate < retentionStart (cycleTime first interval n) →
      ((∃ k ≤ n, Removes (log k) e.id) ↔
        ¬ ∃ k < n, JumpedOver (cycleTime first interval k) (cycleTime first interval (k + 1))
          e.startDate) := by
  constructor
  · intro s lo hi
    exact regular.reached_iff lo hi
  · intro store log e cleaned stays lo hi
    rw [removed_iff cleaned stays]
    exact regular.reached_iff lo hi

/-- An hour before 1 March 2025. -/
def februaryEnd : Timestamp := { seconds := 1740783600 }

/-- On 29 February 2024. -/
def leapDayNoon : Timestamp := { seconds := 1709208000 }

theorem regular_februaryEnd : Regular februaryEnd 3600 1 where
  positive := by decide
  reckoned := by decide

/-- Both cycles miss noon of the leap day, although the retention time passes it between them. -/
theorem leapDayNoon_escapes :
    Regular februaryEnd 3600 1 ∧ retentionStart februaryEnd ≤ leapDayNoon ∧
      leapDayNoon < retentionStart (cycleTime februaryEnd 3600 1) ∧
      ∀ k ≤ 1, (expiring februaryEnd 3600 k).contains leapDayNoon = false :=
  ⟨regular_februaryEnd, by decide, by decide, by decide⟩

/-- The last event on the evening before the leap day. -/
def lateEvent : Event := ⟨"late", "", ⟨1709163000, by decide, by decide⟩, .greatest, "", "", .zero⟩

/-- The first cycle removes the event. -/
def lateStore : Nat → EventStore
  | 0 => ⟨[("late", lateEvent)], by simp⟩
  | _ => .empty

def lateLog : Nat → List Answered
  | 0 => [⟨.delete "late", .ok ()⟩]
  | _ => []

theorem cleaning_lateStore : ∀ k ≤ 1, Cleaning februaryEnd 3600 k (lateStore k) (lateLog k) := by
  intro k hk
  rcases (show k = 0 ∨ k = 1 by omega) with rfl | rfl
  · constructor
    · apply Collection.keyed_iff_own.mpr
      simp [lateStore, lateEvent]
    · have found : (lateStore 0).findByStartDate (expiring februaryEnd 3600 0) =
          .ok [lateEvent] := by cbv
      rw [found]
      exact .asked rfl (.asked rfl (.halted rfl))
  · constructor
    · exact Collection.keyed_empty
    · have found : (lateStore 1).findByStartDate (expiring februaryEnd 3600 1) =
          .error .empty := by cbv
      rw [found]
      exact .asked rfl (.halted rfl)

theorem lateEvent_stays : Stays lateStore lateLog 1 lateEvent := by
  intro k hk kept
  rcases (show k = 0 ∨ k = 1 by omega) with rfl | rfl
  · rfl
  · exact absurd (by simp [Removes, lateLog, lateEvent]) (kept 0 (by decide))

theorem lateEvent_removed :
    Regular februaryEnd 3600 1 ∧
      (¬ ∃ k ≤ 1, (expiring februaryEnd 3600 k).contains leapDayNoon = true) ∧
      ∃ k ≤ 1, Removes (lateLog k) lateEvent.id := by
  obtain ⟨times, events⟩ := escapes_iff_jumpedOver regular_februaryEnd
  refine ⟨regular_februaryEnd, ?_, ?_⟩
  · rw [times leapDayNoon (by decide) (by decide), not_not]
    exact ⟨0, by decide, by decide, by decide, by decide, by decide⟩
  · rw [events lateStore lateLog lateEvent cleaning_lateStore lateEvent_stays (by decide)
      (by decide)]
    rintro ⟨k, hk, -, -, lo, -⟩
    obtain rfl : k = 0 := by omega
    revert lo
    decide

end Agenda
