import Agenda.Calendar.Retention
import Agenda.Proofs.Calendar.Date

/-! How far back the retention time begins: at the same time of the same day one year earlier, which
is 366 days if a 29 February lies in the year before, and 365 days otherwise. -/
namespace Agenda

/-- The day that an instant is in. -/
def Timestamp.dayNumber (t : Timestamp) : Int := t.seconds / secondsPerDay + epochDay

/-- The instant and the one a year earlier are both in the years of the calendar. -/
def Reckoned (now : Timestamp) : Prop :=
  inCalendar (.ofDayNumber now.dayNumber) = true ∧
    inCalendar (Date.ofDayNumber now.dayNumber).yearBefore = true

instance (now : Timestamp) : Decidable (Reckoned now) := inferInstanceAs (Decidable (_ ∧ _))

/-- Whether one of the last 366 days, today included, is a 29 February. -/
def Timestamp.afterLeapDay (t : Timestamp) : Bool := (Date.ofDayNumber t.dayNumber).holdsLeapDay

/-- How many seconds the year before an instant has. -/
def retentionLength (now : Timestamp) : Int :=
  secondsPerDay * if now.afterLeapDay then 366 else 365

theorem retentionLength_cases (now : Timestamp) :
    now.afterLeapDay = true ∧ retentionLength now = 31622400 ∨
      now.afterLeapDay = false ∧ retentionLength now = 31536000 := by
  unfold retentionLength
  cases now.afterLeapDay
  · exact .inr ⟨rfl, rfl⟩
  · exact .inl ⟨rfl, rfl⟩

/-- Among instants that are less than a year apart the answer changes at most once. -/
theorem afterLeapDay_settled {a b c : Timestamp} (hab : a ≤ b) (hbc : b ≤ c)
    (near : c.seconds ≤ a.seconds + 364 * secondsPerDay)
    (turned : a.afterLeapDay ≠ b.afterLeapDay) : b.afterLeapDay = c.afterLeapDay := by
  change a.seconds ≤ b.seconds at hab
  change b.seconds ≤ c.seconds at hbc
  apply Date.holdsLeapDay_settled _ _ _ turned
  all_goals
    simp only [Timestamp.dayNumber, secondsPerDay] at near ⊢
    omega

theorem dayNumber_yearBefore (now : Timestamp) :
    (Date.ofDayNumber now.dayNumber).yearBefore.dayNumber * secondsPerDay =
      now.dayNumber * secondsPerDay - retentionLength now := by
  obtain ⟨valid, number⟩ := Date.ofDayNumber_spec now.dayNumber
  rw [Date.dayNumber_yearBefore valid, number, Int.sub_mul, retentionLength,
    Int.mul_comm _ (ite _ _ _)]
  rfl

theorem retentionStart_seconds {now : Timestamp} (h : Reckoned now) :
    (retentionStart now).seconds = now.seconds - retentionLength now := by
  obtain ⟨today, earlier⟩ := h
  have before := dayNumber_yearBefore now
  have length := retentionLength_cases now
  have upper := now.upper
  have start : retentionStart now = .clamp
      (((Date.ofDayNumber now.dayNumber).yearBefore.dayNumber - epochDay) * secondsPerDay +
        now.seconds % secondsPerDay) := by
    unfold retentionStart
    exact if_pos (Bool.and_eq_true_iff.mpr ⟨today, earlier⟩)
  have year : -262143 ≤ (Date.ofDayNumber now.dayNumber).yearBefore.year := by
    simpa [inCalendar] using (Bool.and_eq_true_iff.mp earlier).1
  generalize (Date.ofDayNumber now.dayNumber).yearBefore = d at before start year
  have lower : -95800000 ≤ d.dayNumber := by
    simp only [Date.dayNumber, Date.daysBeforeYear]
    omega
  simp only [Timestamp.dayNumber, secondsPerDay, epochDay] at before start
  rw [start, Timestamp.clamp_of_mem] <;> omega

theorem Reckoned.bounds {now : Timestamp} (h : Reckoned now) :
    -9000000000000 ≤ now.seconds ∧ now.seconds ≤ 9000000000000 := by
  have within := Date.yearOf_spec now.dayNumber
  have year := h.1
  simp only [inCalendar, Bool.and_eq_true, decide_eq_true_eq] at year
  rw [Date.ofDayNumber_year] at year
  have length : Date.yearLength (Date.yearOf now.dayNumber) ≤ 366 := by
    unfold Date.yearLength; split <;> omega
  simp only [Date.daysBeforeYear] at within
  generalize Date.yearOf now.dayNumber = y at *
  simp only [Timestamp.dayNumber, secondsPerDay, epochDay] at within
  omega

/-! ## By the calendar -/

namespace Date

/-- The first second of a day. -/
def midnight (d : Date) : Int := (d.dayNumber - epochDay) * secondsPerDay

theorem midnight_next {d : Date} (h : d.Valid) : d.next.midnight = d.midnight + secondsPerDay := by
  have number := (dayNumber_next h).2
  simp only [midnight, number, secondsPerDay]
  omega

end Date

namespace Timestamp

variable {t : Timestamp} {d e : Date}

/-- The instant is in the day. -/
structure IsOn (t : Timestamp) (d : Date) : Prop where
  valid : d.Valid
  begun : d.midnight ≤ t.seconds
  lasting : t.seconds < d.next.midnight

theorem isOn_iff : t.IsOn d ↔ d.Valid ∧ d.dayNumber = t.dayNumber := by
  constructor
  · rintro ⟨valid, begun, lasting⟩
    rw [Date.midnight_next valid] at lasting
    simp only [Date.midnight, secondsPerDay, dayNumber] at *
    exact ⟨valid, by omega⟩
  · rintro ⟨valid, number⟩
    refine ⟨valid, ?_, ?_⟩
    · simp only [Date.midnight, number, secondsPerDay, dayNumber]
      omega
    · rw [Date.midnight_next valid]
      simp only [Date.midnight, number, secondsPerDay, dayNumber]
      omega

theorem isOn_ofDayNumber (t : Timestamp) : t.IsOn (.ofDayNumber t.dayNumber) :=
  isOn_iff.mpr (Date.ofDayNumber_spec t.dayNumber)

theorem IsOn.unique (hd : t.IsOn d) (he : t.IsOn e) : d = e := by
  obtain ⟨valid, number⟩ := isOn_iff.mp hd
  obtain ⟨valid', number'⟩ := isOn_iff.mp he
  exact Date.dayNumber_injective valid valid' (number.trans number'.symm)

theorem afterLeapDay_iff : t.afterLeapDay = true ↔ ∃ y, Date.isLeap y = true ∧
    Date.midnight ⟨y, 2, 29⟩ ≤ t.seconds ∧ t.seconds < Date.midnight ⟨y + 1, 3, 1⟩ := by
  rw [afterLeapDay, Date.holdsLeapDay_iff]
  apply exists_congr
  intro y
  rw [and_congr_right_iff]
  intro leap
  simp only [Date.midnight, secondsPerDay, dayNumber]
  omega

end Timestamp

/-- Outside the years of the calendar a year has 365 days. -/
theorem retentionStart_unreckoned {now : Timestamp} (h : ¬ Reckoned now) :
    (retentionStart now).seconds =
      max (-9223372036854775808) (now.seconds - 365 * secondsPerDay) := by
  have start : retentionStart now = now.shift (-secondsPerYear) := by
    unfold retentionStart
    exact if_neg fun both => h (Bool.and_eq_true_iff.mp both)
  have upper := now.upper
  simp only [start, Timestamp.shift, Timestamp.clamp, secondsPerYear, secondsPerDay]
  omega

/-- What was retained a year ago began on the same day of the year before. -/
theorem retentionStart_isOn {now : Timestamp} (h : Reckoned now) :
    (retentionStart now).IsOn (Date.ofDayNumber now.dayNumber).yearBefore := by
  have valid := (Date.ofDayNumber_spec now.dayNumber).1
  have seconds := retentionStart_seconds h
  have earlier := dayNumber_yearBefore now
  rw [Timestamp.isOn_iff]
  refine ⟨Date.yearBefore_valid valid, ?_⟩
  have length := retentionLength_cases now
  simp only [Timestamp.dayNumber, secondsPerDay] at *
  omega

/-- **The retention time begins one year of the calendar ago.** Day follows day from 1 January 1970
on and back, and an instant is on one of them. If this day and the same day of the year before are
both in the years of the calendar, the retention time begins on the latter, but on 28 February where
there is no 29 February, and at the same time of day. That is 366 days ago from a 29 February on
until the first day of March in the year after, and 365 days ago otherwise. Outside those years it
begins 365 days ago, or at the first instant of all if that is later. -/
theorem retention_one_calendar_year (now : Timestamp) :
    (Date.midnight ⟨1970, 1, 1⟩ = 0 ∧ ∀ d : Date, d.Valid →
      d.next.Valid ∧ d.next.midnight = d.midnight + secondsPerDay) ∧
    ∃ today : Date, now.IsOn today ∧ (∀ d, now.IsOn d → d = today) ∧
      let earlier : Date := ⟨today.year - 1, today.month,
        if today.month = 2 ∧ today.day = 29 then 28 else today.day⟩
      let inYears := inCalendar today = true ∧ inCalendar earlier = true
      let leap := ∃ y, Date.isLeap y = true ∧ Date.midnight ⟨y, 2, 29⟩ ≤ now.seconds ∧
        now.seconds < Date.midnight ⟨y + 1, 3, 1⟩
      let start := retentionStart now
      (inYears → start.IsOn earlier ∧
        start.seconds - earlier.midnight = now.seconds - today.midnight ∧
        (leap → start.seconds = now.seconds - 366 * secondsPerDay) ∧
        (¬ leap → start.seconds = now.seconds - 365 * secondsPerDay)) ∧
      (¬ inYears → start.seconds =
        max (-9223372036854775808) (now.seconds - 365 * secondsPerDay)) ∧
      (-9223372036854775808 + 366 * secondsPerDay ≤ now.seconds →
        now.seconds - 366 * secondsPerDay ≤ start.seconds ∧
        start.seconds ≤ now.seconds - 365 * secondsPerDay) := by
  refine ⟨⟨rfl, fun d valid => ⟨(Date.dayNumber_next valid).1, Date.midnight_next valid⟩⟩, ?_⟩
  have today := now.isOn_ofDayNumber
  refine ⟨.ofDayNumber now.dayNumber, today, fun d on => on.unique today, ?_⟩
  rw [← Date.yearBefore_eq today.valid, ← Timestamp.afterLeapDay_iff]
  intro earlier inYears leap start
  have length := retentionLength_cases now
  refine ⟨fun reckoned => ⟨retentionStart_isOn reckoned, ?_, ?_, ?_⟩, retentionStart_unreckoned, ?_⟩
  · have number := (Timestamp.isOn_iff.mp today).2
    have before := dayNumber_yearBefore now
    have seconds := retentionStart_seconds reckoned
    simp only [start, earlier, Date.midnight, number, secondsPerDay] at before ⊢
    omega
  · intro after
    rw [retentionStart_seconds reckoned, retentionLength, if_pos after, Int.mul_comm]
  · intro common
    rw [retentionStart_seconds reckoned, retentionLength, if_neg common, Int.mul_comm]
  · intro late
    by_cases reckoned : Reckoned now
    · have seconds := retentionStart_seconds reckoned
      simp only [start, secondsPerDay]
      omega
    · have seconds := retentionStart_unreckoned reckoned
      simp only [start, secondsPerDay] at *
      omega

namespace Timestamp

def leapDay : Timestamp := { seconds := 1709164800 }

/-- When 29 February 2024 begins, and at the first instant of all. -/
theorem leapDay_one_year_ago :
    leapDay.IsOn ⟨2024, 2, 29⟩ ∧ (retentionStart leapDay).IsOn ⟨2023, 2, 28⟩ ∧
      (retentionStart leapDay).seconds = leapDay.seconds - 366 * secondsPerDay ∧
      ¬ (∃ d, least.IsOn d ∧ inCalendar d = true) ∧ retentionStart least = least := by
  have on : leapDay.IsOn ⟨2024, 2, 29⟩ := isOn_iff.mpr ⟨by constructor <;> decide, by decide⟩
  obtain ⟨-, today, -, unique, inYears, -, -⟩ := retention_one_calendar_year leapDay
  obtain rfl := unique _ on
  obtain ⟨before, -, longer, -⟩ := inYears (by decide)
  obtain ⟨-, first, -, unique', -, outside, -⟩ := retention_one_calendar_year least
  have early : inCalendar first = false := by
    rw [← unique' _ least.isOn_ofDayNumber]
    decide
  refine ⟨on, before, longer ⟨2024, by decide, by decide, by decide⟩, ?_, ?_⟩
  · rintro ⟨d, isOn, inside⟩
    rw [unique' d isOn, early] at inside
    cases inside
  · have start := outside fun both => absurd both.1 (by rw [early]; decide)
    exact ext start

end Timestamp
end Agenda
