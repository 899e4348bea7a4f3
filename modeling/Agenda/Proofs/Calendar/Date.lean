import Agenda.Calendar.Date
import Mathlib.Order.Basic
import Mathlib.Tactic.Common

/-! Day numbers and dates name the same days: every number is that of one valid date. From this
follows how many days there are between a day and the same day of the year before, 366 if a
29 February lies between them and 365 otherwise. -/
namespace Agenda.Date

def yearLength (y : Int) : Nat := if isLeap y then 366 else 365

theorem isLeap_iff (y : Int) :
    isLeap y = true ↔ y % 4 = 0 ∧ (y % 100 ≠ 0 ∨ y % 400 = 0) := by
  simp [isLeap]

theorem daysBeforeYear_succ (y : Int) :
    daysBeforeYear (y + 1) = daysBeforeYear y + yearLength y := by
  have leap := isLeap_iff y
  unfold daysBeforeYear yearLength
  split
  · have := leap.mp ‹_›
    omega
  · have : ¬ (y % 4 = 0 ∧ (y % 100 ≠ 0 ∨ y % 400 = 0)) := fun h => ‹¬ _› (leap.mpr h)
    omega

theorem daysBeforeYear_add (y : Int) (k : Nat) :
    daysBeforeYear y + 365 * k ≤ daysBeforeYear (y + k) := by
  induction k with
  | zero => simp
  | succ k ih =>
    have next := daysBeforeYear_succ (y + k)
    have : 365 ≤ yearLength (y + k) := by unfold yearLength; split <;> omega
    rw [show y + ((k + 1 : Nat) : Int) = y + k + 1 by omega]
    omega

/-- An earlier day is not in a later year. -/
theorem year_le {y z n : Int} (hy : daysBeforeYear y ≤ n) (hz : n < daysBeforeYear (z + 1)) :
    y ≤ z := by
  by_contra later
  have far := daysBeforeYear_add (z + 1) (y - (z + 1)).toNat
  rw [show z + 1 + ((y - (z + 1)).toNat : Int) = y by omega] at far
  omega

/-! ## Years -/

/-- A year by its cycle of 400 years, its century, its group of four and its place in it. -/
def ofParts (cycle century four one : Int) : Int :=
  400 * cycle + 100 * century + 4 * four + one + 1

section Parts

variable {cycle century four one : Int} (hc : 0 ≤ century ∧ century ≤ 3)
  (hf : 0 ≤ four ∧ four ≤ 24) (ho : 0 ≤ one ∧ one ≤ 3)
include hc hf ho

theorem daysBeforeYear_ofParts : daysBeforeYear (ofParts cycle century four one) =
    146097 * cycle + 36524 * century + 1461 * four + 365 * one := by
  have fours : (ofParts cycle century four one - 1) / 4 = 100 * cycle + 25 * century + four := by
    unfold ofParts; omega
  have hundreds : (ofParts cycle century four one - 1) / 100 = 4 * cycle + century := by
    unfold ofParts; omega
  have cycles : (ofParts cycle century four one - 1) / 400 = cycle := by
    unfold ofParts; omega
  unfold daysBeforeYear
  rw [fours, hundreds, cycles]
  unfold ofParts
  omega

theorem isLeap_ofParts : isLeap (ofParts cycle century four one) = true ↔
    one = 3 ∧ (four = 24 → century = 3) := by
  rw [isLeap_iff]
  unfold ofParts
  omega

end Parts

/-- A day lies in its year. -/
theorem yearOf_spec (n : Int) :
    daysBeforeYear (yearOf n) ≤ n ∧ n < daysBeforeYear (yearOf n) + yearLength (yearOf n) := by
  obtain ⟨cycle, r, cycle_eq, r_eq⟩ : ∃ cycle r, n / 146097 = cycle ∧ n % 146097 = r :=
    ⟨_, _, rfl, rfl⟩
  obtain ⟨century, century_eq⟩ : ∃ century, min (r / 36524) 3 = century := ⟨_, rfl⟩
  obtain ⟨four, four_eq⟩ : ∃ four, (r - 36524 * century) / 1461 = four := ⟨_, rfl⟩
  obtain ⟨one, one_eq⟩ : ∃ one, min ((r - 36524 * century - 1461 * four) / 365) 3 = one :=
    ⟨_, rfl⟩
  have year : yearOf n = ofParts cycle century four one := by
    unfold yearOf ofParts
    simp only [cycle_eq, r_eq, century_eq, four_eq, one_eq]
  have hr : 0 ≤ r ∧ r < 146097 := by omega
  have hc : 0 ≤ century ∧ century ≤ 3 := by omega
  have hf : 0 ≤ four ∧ four ≤ 24 := by omega
  have ho : 0 ≤ one ∧ one ≤ 3 := by omega
  have leap : isLeap (ofParts cycle century four one) = true ↔
      one = 3 ∧ (four = 24 → century = 3) := isLeap_ofParts hc hf ho
  rw [year, daysBeforeYear_ofParts hc hf ho]
  unfold yearLength
  split
  · have := leap.mp ‹_›
    omega
  · have : ¬ (one = 3 ∧ (four = 24 → century = 3)) := fun h => ‹¬ _› (leap.mpr h)
    omega

/-! ## Months -/

theorem daysBeforeMonth_succ (y : Int) {m : Nat} (h : 1 ≤ m) :
    daysBeforeMonth y (m + 1) = daysBeforeMonth y m + monthLength y m := by
  cases m with
  | zero => omega
  | succ m => rfl

theorem daysBeforeMonth_end (y : Int) : daysBeforeMonth y 13 = yearLength y := by
  cases leap : isLeap y <;> simp [daysBeforeMonth, monthLength, yearLength, leap]

theorem monthLength_ge (y : Int) (m : Nat) : 28 ≤ monthLength y m := by
  unfold monthLength
  split
  · split <;> omega
  · split <;> omega

theorem inMonth_spec (y : Int) (later m n : Nat) (hm : 1 ≤ m) (last : m + later = 12)
    (hn : daysBeforeMonth y m + n < yearLength y) :
    m ≤ (inMonth y later m n).1 ∧ (inMonth y later m n).1 ≤ 12 ∧
      1 ≤ (inMonth y later m n).2 ∧
      (inMonth y later m n).2 ≤ monthLength y (inMonth y later m n).1 ∧
      daysBeforeMonth y (inMonth y later m n).1 + (inMonth y later m n).2 =
        daysBeforeMonth y m + n + 1 := by
  induction later generalizing m n with
  | zero =>
    have : m = 12 := by omega
    subst this
    have total := daysBeforeMonth_end y
    rw [daysBeforeMonth_succ y (by decide : 1 ≤ 12)] at total
    simp only [inMonth]
    omega
  | succ later ih =>
    have next := daysBeforeMonth_succ y hm
    unfold inMonth
    split
    · simp only
      omega
    · rename_i long
      have := ih (m + 1) (n - monthLength y m) (by omega) (by omega) (by omega)
      omega

/-! ## Dates -/

/-- A date that the calendar has. -/
structure Valid (d : Date) : Prop where
  month_pos : 1 ≤ d.month
  month_le : d.month ≤ 12
  day_pos : 1 ≤ d.day
  day_le : d.day ≤ monthLength d.year d.month

theorem ofDayNumber_year (n : Int) : (ofDayNumber n).year = yearOf n := rfl

theorem ofDayNumber_spec (n : Int) : (ofDayNumber n).Valid ∧ (ofDayNumber n).dayNumber = n := by
  obtain ⟨lo, hi⟩ := yearOf_spec n
  have within : daysBeforeMonth (yearOf n) 1 + (n - daysBeforeYear (yearOf n)).toNat <
      yearLength (yearOf n) := by
    simp only [daysBeforeMonth]; omega
  obtain ⟨h₁, h₂, h₃, h₄, h₅⟩ := inMonth_spec (yearOf n) 11 1 _ (Nat.le_refl 1) rfl within
  simp only [daysBeforeMonth, Nat.zero_add] at h₅
  refine ⟨⟨h₁, h₂, h₃, h₄⟩, ?_⟩
  simp only [dayNumber, ofDayNumber]
  omega

/-! ## One date to a day -/

/-- A month ends before a later one begins. -/
theorem daysBeforeMonth_le (y : Int) {m k : Nat} (h : 1 ≤ m) (later : m < k) :
    daysBeforeMonth y m + monthLength y m ≤ daysBeforeMonth y k := by
  induction later with
  | refl => exact Nat.le_of_eq (daysBeforeMonth_succ y h).symm
  | @step k later ih =>
    have next := daysBeforeMonth_succ y (Nat.le_trans h (Nat.le_of_lt later))
    exact Nat.le_trans ih (next ▸ Nat.le_add_right _ _)

theorem Valid.within_year {d : Date} (h : d.Valid) :
    daysBeforeYear d.year ≤ d.dayNumber ∧ d.dayNumber < daysBeforeYear (d.year + 1) := by
  have next := daysBeforeYear_succ d.year
  have last := daysBeforeMonth_end d.year
  have before := daysBeforeMonth_le d.year h.month_pos (show d.month < 13 from
    Nat.lt_succ_of_le h.month_le)
  have first := h.day_pos
  have length := h.day_le
  simp only [dayNumber]
  omega

/-- Two dates of one day are the same. -/
theorem dayNumber_injective {d e : Date} (hd : d.Valid) (he : e.Valid)
    (same : d.dayNumber = e.dayNumber) : d = e := by
  have year : d.year = e.year := by
    have within := hd.within_year
    have within' := he.within_year
    apply Int.le_antisymm
    · exact year_le within.1 (same ▸ within'.2)
    · exact year_le within'.1 (same ▸ within.2)
  obtain ⟨y, m, day⟩ := d
  obtain ⟨z, k, day'⟩ := e
  obtain ⟨h₁, h₂, h₃, h₄⟩ := hd
  obtain ⟨h₁', h₂', h₃', h₄'⟩ := he
  simp only [dayNumber] at *
  subst year
  have month : m = k := by
    by_contra other
    rcases Nat.lt_or_gt_of_ne other with earlier | later
    · have := daysBeforeMonth_le y h₁ earlier
      omega
    · have := daysBeforeMonth_le y h₁' later
      omega
  subst month
  rw [show day = day' by omega]

/-- The day after. -/
def next (d : Date) : Date :=
  if d.day < monthLength d.year d.month then { d with day := d.day + 1 }
  else if d.month < 12 then ⟨d.year, d.month + 1, 1⟩
  else ⟨d.year + 1, 1, 1⟩

theorem dayNumber_next {d : Date} (h : d.Valid) :
    d.next.Valid ∧ d.next.dayNumber = d.dayNumber + 1 := by
  obtain ⟨h₁, h₂, h₃, h₄⟩ := h
  unfold next
  split
  · rename_i inside
    refine ⟨⟨h₁, h₂, by simp, inside⟩, ?_⟩
    simp only [dayNumber]
    omega
  · rename_i last
    split
    · rename_i another
      have length := monthLength_ge d.year (d.month + 1)
      have months := daysBeforeMonth_succ d.year h₁
      refine ⟨⟨by simp, another, Nat.le_refl 1, by simp only; omega⟩, ?_⟩
      simp only [dayNumber]
      omega
    · rename_i december
      have month : d.month = 12 := by omega
      have year := daysBeforeYear_succ d.year
      have months := daysBeforeMonth_succ d.year h₁
      have january : daysBeforeMonth (d.year + 1) 1 = 0 := rfl
      rw [month] at months last h₄
      rw [daysBeforeMonth_end] at months
      refine ⟨⟨Nat.le_refl 1, by simp, Nat.le_refl 1, Nat.le_of_ble_eq_true rfl⟩, ?_⟩
      simp only [dayNumber, month]
      omega

/-! ## The year before -/

theorem daysBeforeMonth_early (y z : Int) {m : Nat} (h : m ≤ 2) :
    daysBeforeMonth y m = daysBeforeMonth z m := by
  match m, h with
  | 0, _ | 1, _ | 2, _ => rfl

theorem monthLength_other (y z : Int) {m : Nat} (h : m ≠ 2) :
    monthLength y m = monthLength z m := by
  simp only [monthLength, h, if_false]

theorem february (y : Int) : monthLength y 2 = if isLeap y then 29 else 28 := rfl

/-- From March on a leap year is a day ahead. -/
theorem daysBeforeMonth_late (y z : Int) (k : Nat) :
    daysBeforeMonth y (k + 3) + yearLength z = daysBeforeMonth z (k + 3) + yearLength y := by
  induction k with
  | zero =>
    cases ly : isLeap y <;> cases lz : isLeap z <;>
      simp [daysBeforeMonth, monthLength, yearLength, ly, lz]
  | succ k ih =>
    have hy := daysBeforeMonth_succ y (show 1 ≤ k + 3 by omega)
    have hz := daysBeforeMonth_succ z (show 1 ≤ k + 3 by omega)
    have same := monthLength_other y z (show k + 3 ≠ 2 by omega)
    rw [show k + 1 + 3 = k + 3 + 1 by omega]
    omega

theorem daysBeforeMonth_spring (y : Int) (k : Nat) : 59 ≤ daysBeforeMonth y (k + 3) := by
  induction k with
  | zero =>
    have march := daysBeforeMonth_succ y (show 1 ≤ 2 by decide)
    have feb := february y
    have : daysBeforeMonth y 2 = 31 := rfl
    rw [show 0 + 3 = 2 + 1 from rfl, march, feb]
    split <;> omega
  | succ k ih =>
    have := daysBeforeMonth_succ y (show 1 ≤ k + 3 by omega)
    rw [show k + 1 + 3 = k + 3 + 1 by omega]
    omega

/-- Whether one of the last 366 days, up to this one, is a 29 February. -/
def holdsLeapDay (d : Date) : Bool :=
  isLeap (if 2 < d.month ∨ d.month = 2 ∧ d.day = 29 then d.year else d.year - 1)

theorem not_isLeap_succ {y : Int} (h : isLeap y = true) : isLeap (y + 1) = false := by
  rw [Bool.eq_false_iff, ne_eq, isLeap_iff]
  rw [isLeap_iff] at h
  omega

theorem yearLength_cast (y : Int) : (yearLength y : Int) = if isLeap y then 366 else 365 := by
  unfold yearLength; split <;> rfl

/-- A leap year has a 29 February, and the year before has none. -/
theorem Valid.leapDay {d : Date} (h : d.Valid) (leapDay : d.month = 2 ∧ d.day = 29) :
    isLeap d.year = true ∧ isLeap (d.year - 1) = false := by
  have leap : isLeap d.year = true := by
    have length := h.day_le
    rw [leapDay.1, leapDay.2, february] at length
    cases common : isLeap d.year
    · simp [common] at length
    · rfl
  refine ⟨leap, ?_⟩
  cases before : isLeap (d.year - 1)
  · rfl
  · have after := not_isLeap_succ before
    rw [Int.sub_add_cancel, leap] at after
    cases after

/-- Only a 29 February has to make way in the year before. -/
theorem yearBefore_eq {d : Date} (h : d.Valid) : d.yearBefore =
    ⟨d.year - 1, d.month, if d.month = 2 ∧ d.day = 29 then 28 else d.day⟩ := by
  have length := h.day_le
  by_cases leapDay : d.month = 2 ∧ d.day = 29
  · have common := (h.leapDay leapDay).2
    simp [yearBefore, leapDay, february, common]
  · have kept : min d.day (monthLength (d.year - 1) d.month) = d.day := by
      apply Nat.min_eq_left
      by_cases second : d.month = 2
      · rw [second, february] at length ⊢
        split at length <;> split <;> omega
      · rwa [monthLength_other (d.year - 1) d.year second]
    simp only [yearBefore, kept, leapDay, if_false]

theorem yearBefore_valid {d : Date} (h : d.Valid) : d.yearBefore.Valid where
  month_pos := h.month_pos
  month_le := h.month_le
  day_pos := by
    have long := monthLength_ge (d.year - 1) d.month
    have := h.day_pos
    simp only [yearBefore]
    omega
  day_le := Nat.min_le_right _ _

theorem dayNumber_yearBefore {d : Date} (h : d.Valid) :
    d.yearBefore.dayNumber = d.dayNumber - if d.holdsLeapDay then 366 else 365 := by
  have previous := daysBeforeYear_succ (d.year - 1)
  rw [Int.sub_add_cancel] at previous
  rw [yearBefore_eq h]
  by_cases late : 2 < d.month
  · obtain ⟨k, month⟩ : ∃ k, d.month = k + 3 := ⟨d.month - 3, by omega⟩
    have months := daysBeforeMonth_late d.year (d.year - 1) k
    rw [← month] at months
    have length := yearLength_cast d.year
    have other : ¬ (d.month = 2 ∧ d.day = 29) := by omega
    simp only [dayNumber, holdsLeapDay, late, other, true_or, if_true, if_false]
    omega
  · have months := daysBeforeMonth_early d.year (d.year - 1) (show d.month ≤ 2 by omega)
    have length := yearLength_cast (d.year - 1)
    by_cases leapDay : d.month = 2 ∧ d.day = 29
    · obtain ⟨leap, common⟩ := h.leapDay leapDay
      simp only [common, Bool.false_eq_true, if_false] at length
      simp only [dayNumber, holdsLeapDay, leapDay, leap, and_self, or_true, if_true] at months ⊢
      omega
    · simp only [dayNumber, holdsLeapDay, late, leapDay, or_self, if_false]
      omega

/-! ## Spans of 366 days

The days fall into blocks that begin after 28 February, one block to a year, and `holdsLeapDay`
tells whether the block is that of a leap year. -/

/-- The day `n` lies in the block of the year `y`. -/
def InBlock (y n : Int) : Prop := daysBeforeYear y + 59 ≤ n ∧ n < daysBeforeYear (y + 1) + 59

theorem block_le {y z a b : Int} (ha : InBlock y a) (hb : InBlock z b) (h : a ≤ b) : y ≤ z := by
  obtain ⟨ha, -⟩ := ha
  obtain ⟨-, hb⟩ := hb
  apply year_le (n := b - 59)
  · omega
  · omega

theorem exists_block (n : Int) :
    ∃ y, InBlock y n ∧ (ofDayNumber n).holdsLeapDay = isLeap y := by
  obtain ⟨⟨h₁, h₂, h₃, h₄⟩, number⟩ := ofDayNumber_spec n
  have within := yearOf_spec n
  rw [← ofDayNumber_year] at within
  generalize ofDayNumber n = d at *
  obtain ⟨y, m, day⟩ := d
  simp only [dayNumber] at h₁ h₂ h₃ h₄ number within
  have next := daysBeforeYear_succ y
  have previous := daysBeforeYear_succ (y - 1)
  rw [Int.sub_add_cancel] at previous
  by_cases spring : 2 < m ∨ m = 2 ∧ day = 29
  · refine ⟨y, ⟨?_, by omega⟩, by simp only [holdsLeapDay, spring, if_true]⟩
    rcases spring with late | ⟨rfl, rfl⟩
    · have := daysBeforeMonth_spring y (m - 3)
      rw [show m - 3 + 3 = m by omega] at this
      omega
    · have : daysBeforeMonth y 2 = 31 := rfl
      omega
  · have short : 365 ≤ yearLength (y - 1) := by unfold yearLength; split <;> omega
    refine ⟨y - 1, ⟨by omega, ?_⟩, by simp only [holdsLeapDay, spring, if_false]⟩
    rw [Int.sub_add_cancel]
    rcases (show m = 1 ∨ m = 2 by omega) with rfl | rfl
    · have : daysBeforeMonth y 1 = 0 := rfl
      have : monthLength y 1 = 31 := rfl
      omega
    · have : daysBeforeMonth y 2 = 31 := rfl
      rw [february] at h₄
      split at h₄ <;> omega

/-- The last 366 days hold a 29 February exactly from that day on until the end of the next
February. -/
theorem holdsLeapDay_iff (n : Int) : (ofDayNumber n).holdsLeapDay = true ↔
    ∃ y, isLeap y = true ∧ dayNumber ⟨y, 2, 29⟩ ≤ n ∧ n < dayNumber ⟨y + 1, 3, 1⟩ := by
  have begins (y : Int) : dayNumber ⟨y, 2, 29⟩ = daysBeforeYear y + 59 := by
    have : daysBeforeMonth y 2 = 31 := rfl
    simp only [dayNumber]; omega
  have ends (y : Int) (leap : isLeap y = true) :
      dayNumber ⟨y + 1, 3, 1⟩ = daysBeforeYear (y + 1) + 59 := by
    have : daysBeforeMonth (y + 1) 3 = 59 := by
      simp [daysBeforeMonth, monthLength, not_isLeap_succ leap]
    simp only [dayNumber]; omega
  obtain ⟨z, within, leap_eq⟩ := exists_block n
  rw [leap_eq]
  constructor
  · intro leap
    refine ⟨z, leap, ?_⟩
    rw [begins, ends z leap]
    exact within
  · rintro ⟨y, leap, h⟩
    rw [begins, ends y leap] at h
    have lo := block_le (show InBlock y n from h) within (Int.le_refl n)
    have hi := block_le within (show InBlock y n from h) (Int.le_refl n)
    rw [Int.le_antisymm hi lo]
    exact leap

/-- Among days that are less than a year apart the answer changes at most once. -/
theorem holdsLeapDay_settled {a b c : Int} (hab : a ≤ b) (hbc : b ≤ c) (near : c ≤ a + 365)
    (turned : (ofDayNumber a).holdsLeapDay ≠ (ofDayNumber b).holdsLeapDay) :
    (ofDayNumber b).holdsLeapDay = (ofDayNumber c).holdsLeapDay := by
  obtain ⟨x, hx, leap_a⟩ := exists_block a
  obtain ⟨y, hy, leap_b⟩ := exists_block b
  obtain ⟨z, hz, leap_c⟩ := exists_block c
  rw [leap_a, leap_b] at turned
  rw [leap_b, leap_c]
  have first := block_le hx hy hab
  have second := block_le hy hz hbc
  have apart : x ≠ y := fun h => turned (congrArg isLeap h)
  by_contra again
  have apart' : y ≠ z := fun h => again (congrArg isLeap h)
  have far := daysBeforeYear_add (x + 1) (z - (x + 1)).toNat
  rw [show x + 1 + ((z - (x + 1)).toNat : Int) = z by omega] at far
  obtain ⟨-, hx⟩ := hx
  obtain ⟨hz, -⟩ := hz
  omega

end Agenda.Date
