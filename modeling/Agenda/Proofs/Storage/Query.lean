import Agenda.Proofs.Storage.Collection
import Mathlib.Data.List.Nodup

/-! Range queries: the order of the answer is total, and the answer holds exactly the stored events
with the instant in the span. -/
namespace Agenda

theorem Timestamp.le_iff {a b : Timestamp} : a ≤ b ↔ a.seconds ≤ b.seconds := .rfl

theorem Timestamp.lt_iff {a b : Timestamp} : a < b ↔ a.seconds < b.seconds := .rfl

theorem Timestamp.eq_iff {a b : Timestamp} : a = b ↔ a.seconds = b.seconds :=
  ⟨congrArg _, Timestamp.ext⟩

namespace Query

variable {key : Event → Timestamp} {a b c : Event}

theorem precedes_iff : precedes key a b = true ↔
    (key a).seconds < (key b).seconds ∨
      (key a).seconds = (key b).seconds ∧ a.id ≤ b.id := by
  simp only [precedes, Bool.or_eq_true, Bool.and_eq_true, decide_eq_true_eq, Timestamp.lt_iff,
    Timestamp.eq_iff]

theorem precedes_trans (key : Event → Timestamp) (a b c : Event) (hab : precedes key a b = true)
    (hbc : precedes key b c = true) : precedes key a c = true := by
  rw [precedes_iff] at hab hbc ⊢
  rcases hab with hab | ⟨hab, ids⟩ <;> rcases hbc with hbc | ⟨hbc, ids'⟩
  · left; omega
  · left; omega
  · left; omega
  · exact .inr ⟨by omega, ids.trans ids'⟩

theorem precedes_total (key : Event → Timestamp) (a b : Event) :
    (precedes key a b || precedes key b a) = true := by
  rw [Bool.or_eq_true, precedes_iff, precedes_iff]
  rcases lt_trichotomy (key a).seconds (key b).seconds with h | h | h
  · exact .inl (.inl h)
  · rcases le_total a.id b.id with hid | hid
    · exact .inl (.inr ⟨h, hid⟩)
    · exact .inr (.inr ⟨h.symm, hid⟩)
  · exact .inr (.inl h)

/-- Only events with one id come before each other. -/
theorem ids_eq_of_precedes (hab : precedes key a b = true) (hba : precedes key b a = true) :
    a.id = b.id := by
  rw [precedes_iff] at hab hba
  rcases hab with hab | ⟨hab, ids⟩ <;> rcases hba with hba | ⟨hba, ids'⟩
  · omega
  · omega
  · omega
  · exact le_antisymm ids ids'

variable {asked : Event → Bool} {events found : List Event}

theorem mem_select {e : Event} :
    e ∈ select asked key events ↔ e ∈ events ∧ asked e = true := by
  simp only [select, List.mem_mergeSort, List.mem_filter]

theorem select_sorted (asked : Event → Bool) (key : Event → Timestamp) (events : List Event) :
    (select asked key events).Pairwise (precedes key · · = true) :=
  List.pairwise_mergeSort (precedes_trans key) (precedes_total key) _

/-- Sorting forgets in which order events with different ids were given. -/
theorem sort_eq_of_perm {events other : List Event} (perm : events.Perm other)
    (distinct : (events.map Event.id).Nodup) :
    events.mergeSort (precedes key) = other.mergeSort (precedes key) := by
  have sorted (l : List Event) : (l.mergeSort (precedes key)).Pairwise (precedes key · · = true) :=
    List.pairwise_mergeSort (precedes_trans key) (precedes_total key) l
  have sorted_perm : (events.mergeSort (precedes key)).Perm (other.mergeSort (precedes key)) :=
    (List.mergeSort_perm _ _).trans (perm.trans (List.mergeSort_perm _ _).symm)
  apply List.Perm.eq_of_pairwise _ (sorted events) (sorted other) sorted_perm
  intro a b ha hb hab hba
  have ha : a ∈ events := List.mem_mergeSort.mp ha
  have hb : b ∈ events := perm.mem_iff.mpr (List.mem_mergeSort.mp hb)
  exact List.inj_on_of_nodup_map distinct ha hb (ids_eq_of_precedes hab hba)

theorem answer_eq_ok : answer events = .ok found ↔ found = events ∧ events ≠ [] := by
  cases events <;> simp [answer, eq_comm]

theorem answer_eq_error {e : StorageError} :
    answer events = .error e ↔ e = .empty ∧ events = [] := by
  cases events <;> simp [answer, eq_comm]

end Query
end Agenda
