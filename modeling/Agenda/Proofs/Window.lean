import Agenda.Cleanup

/-! The windows of the cycles: as many seconds as the interval has, but one at least, the first of
them included and the one after the last not. -/
namespace Agenda

/-- Beyond the greatest timestamp there is nothing to contain. -/
theorem TimeSpan.startingAt_contains_iff {start s : Timestamp} {width : Int} :
    (startingAt start width).contains s = true ↔
      start.seconds ≤ s.seconds ∧ s.seconds < start.seconds + max 1 width := by
  have := start.lower
  have := s.upper
  rw [contains_iff]
  change start.seconds ≤ s.seconds ∧ s.seconds ≤ (start.shift (max width 1 - 1)).seconds ↔ _
  simp only [Timestamp.shift, Timestamp.clamp]
  omega

section Cycles

variable {now s : Timestamp} {interval : Duration}

theorem Dispatch.window_contains : (Dispatch.window now interval).contains s = true ↔
    now.seconds ≤ s.seconds ∧
      s.seconds < now.seconds + max 1 (min (interval.seconds : Int) 9223372036854775807) :=
  TimeSpan.startingAt_contains_iff

theorem Cleanup.window_contains : (Cleanup.window now interval).contains s = true ↔
    (retentionStart now).seconds ≤ s.seconds ∧ s.seconds <
      (retentionStart now).seconds + max 1 (min (interval.seconds : Int) 9223372036854775807) :=
  TimeSpan.startingAt_contains_iff

end Cycles

theorem Duration.seconds_ofSeconds (n : Nat) : (Duration.ofSeconds n).seconds = n := by
  simp only [ofSeconds, seconds]
  omega

section WholeSeconds

variable {now s : Timestamp} {interval : Nat} (positive : 1 ≤ interval)
  (bounded : interval ≤ 9223372036854775807)
include positive bounded

theorem Dispatch.window_contains_iff :
    (Dispatch.window now (.ofSeconds interval)).contains s = true ↔
      now.seconds ≤ s.seconds ∧ s.seconds < now.seconds + interval := by
  rw [window_contains, Duration.seconds_ofSeconds]
  omega

theorem Cleanup.window_contains_iff :
    (Cleanup.window now (.ofSeconds interval)).contains s = true ↔
      (retentionStart now).seconds ≤ s.seconds ∧
        s.seconds < (retentionStart now).seconds + interval := by
  rw [window_contains, Duration.seconds_ofSeconds]
  omega

end WholeSeconds
end Agenda
