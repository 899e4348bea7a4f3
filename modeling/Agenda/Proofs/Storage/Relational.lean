import Agenda.Proofs.Storage.Query
import Agenda.Storage.Relational

/-! What a table holds when it stands for a collection, and how each statement on the one compares
with the operation on the other. A statement is judged by the number of rows that it affected, an
operation by the item that it finds; the two agree because no two rows have the same key. -/
namespace Agenda.Relational

/-- How the items of a kind are laid out in rows. The key column tells the id. -/
structure Layout (α : Type) where
  key : String
  idOf : α → String
  toRow : α → Row
  key_toRow : ∀ x, (toRow x).lookup key = some (.text (idOf x))

/-- A change and an operation come to the same: both succeed, in states that correspond, or both
fail with the same error. -/
inductive SameOutcome {σ τ : Type} (holds : σ → τ → Prop) :
    Except StorageError σ → Except StorageError τ → Prop
  | ok {s : σ} {t : τ} : holds s t → SameOutcome holds (.ok s) (.ok t)
  | error (e : StorageError) : SameOutcome holds (.error e) (.error e)

variable {α : Type} (L : Layout α)

/-- The rows are the items of the collection, in some order. -/
def Table.Holds (t : Table) (c : Collection α) : Prop :=
  ∃ stored : List α, stored.Perm c.items ∧ t.rows = stored.map L.toRow

namespace Table

variable {L} {t : Table} {c : Collection α} {stored : List α} {id : String} {x y : α}

theorem holds_empty : Table.empty.Holds L Collection.empty := ⟨[], .nil, rfl⟩

theorem key_toRow_eq_iff :
    (L.toRow x).lookup L.key = some (.text id) ↔ L.idOf x = id := by
  rw [L.key_toRow, Option.some_inj, Value.text.injEq]

theorem find?_of_mem (hk : c.Keyed L.idOf) (perm : stored.Perm c.items) (hx : x ∈ stored) :
    c.find? (L.idOf x) = some x :=
  (Collection.mem_items_iff hk).mp (perm.mem_iff.mp hx)

theorem exists_id_iff (hk : c.Keyed L.idOf) (perm : stored.Perm c.items) :
    (∃ x ∈ stored, L.idOf x = id) ↔ ∃ x, c.find? id = some x := by
  constructor
  · rintro ⟨x, hx, rfl⟩
    exact ⟨x, find?_of_mem hk perm hx⟩
  · rintro ⟨x, hx⟩
    have own := hk id x hx
    subst own
    exact ⟨x, perm.mem_iff.mpr ((Collection.mem_items_iff hk).mpr hx), rfl⟩

/-- How many rows a condition on the key affects: none, exactly if the id is vacant. -/
theorem affected_eq_zero_iff (hk : c.Keyed L.idOf) (perm : stored.Perm c.items) :
    (stored.map L.toRow).countP (·.lookup L.key = some (.text id)) = 0 ↔ c.find? id = none := by
  rw [List.countP_eq_zero, Option.eq_none_iff_forall_ne_some, ← not_exists,
    ← exists_id_iff hk perm]
  simp only [List.forall_mem_map, key_toRow_eq_iff, decide_eq_true_eq, not_exists, not_and]

theorem insert_same (hk : c.Keyed L.idOf) (h : t.Holds L c) (x : α) :
    SameOutcome (Table.Holds L)
      (RelationalStore.judge (.conflict (L.idOf x)) (t.insertUnlessTaken L.key (L.toRow x)))
      (c.insert (L.idOf x) x) := by
  obtain ⟨stored, perm, rows⟩ := h
  have taken : t.rows.any (·.lookup L.key = (L.toRow x).lookup L.key) = true ↔
      ∃ y, c.find? (L.idOf x) = some y := by
    rw [rows, ← exists_id_iff hk perm]
    simp only [List.any_map, List.any_eq_true, Function.comp_apply, L.key_toRow,
      decide_eq_true_eq, Option.some_inj, Value.text.injEq]
  unfold insertUnlessTaken
  cases found : c.find? (L.idOf x) with
  | some y =>
    rw [if_pos (taken.mpr ⟨y, found⟩), Collection.insert_taken found]
    exact .error _
  | none =>
    obtain ⟨d, hd⟩ := Collection.insert_vacant found x
    have fresh : ¬ t.rows.any (·.lookup L.key = (L.toRow x).lookup L.key) = true := by
      rw [taken]; simp [found]
    rw [if_neg fresh, hd]
    refine .ok ⟨stored ++ [x], ?_, by simp [rows]⟩
    exact (List.perm_append_singleton x stored).trans
      ((perm.cons x).trans (Collection.items_insert hd).symm)

theorem save_same (hk : c.Keyed L.idOf) (h : t.Holds L c) (x : α) {changes : Row}
    (replaces : ∀ y, L.idOf y = L.idOf x → Row.assign changes (L.toRow y) = L.toRow x) :
    SameOutcome (Table.Holds L)
      (RelationalStore.judge (.notFound (L.idOf x))
        (t.update L.key (.text (L.idOf x)) changes))
      (c.save (L.idOf x) x) := by
  obtain ⟨stored, perm, rows⟩ := h
  unfold RelationalStore.judge update
  rw [rows]
  cases found : c.find? (L.idOf x) with
  | none =>
    rw [if_pos ((affected_eq_zero_iff hk perm).mpr found), Collection.save_missing found]
    exact .error _
  | some y =>
    obtain ⟨d, hd⟩ := Collection.save_present found x
    have some_row : ¬ (stored.map L.toRow).countP
        (·.lookup L.key = some (.text (L.idOf x))) = 0 := by
      rw [affected_eq_zero_iff hk perm]; simp [found]
    rw [if_neg some_row, hd]
    refine .ok ⟨stored.map fun y => if L.idOf y = L.idOf x then x else y, ?_, ?_⟩
    · rw [Collection.items_save hk hd]
      exact perm.map _
    · simp only [List.map_map]
      apply List.map_congr_left
      intro y _
      simp only [Function.comp_apply, key_toRow_eq_iff]
      split
      · rename_i same; exact replaces y same
      · rfl

theorem delete_same (hk : c.Keyed L.idOf) (h : t.Holds L c) (id : String) :
    SameOutcome (Table.Holds L)
      (RelationalStore.judge (.notFound id) (t.delete L.key (.text id))) (c.delete id) := by
  obtain ⟨stored, perm, rows⟩ := h
  unfold RelationalStore.judge delete
  rw [rows]
  cases found : c.find? id with
  | none =>
    rw [if_pos ((affected_eq_zero_iff hk perm).mpr found), Collection.delete_missing found]
    exact .error _
  | some y =>
    obtain ⟨d, hd⟩ := Collection.delete_present found
    have some_row : ¬ (stored.map L.toRow).countP (·.lookup L.key = some (.text id)) = 0 := by
      rw [affected_eq_zero_iff hk perm]; simp [found]
    rw [if_neg some_row, hd]
    refine .ok ⟨stored.filter fun y => L.idOf y ≠ id, ?_, ?_⟩
    · rw [Collection.items_delete hk hd]
      exact perm.filter _
    · simp only [List.filter_map, Function.comp_def, ne_eq, key_toRow_eq_iff]

theorem find?_same (hk : c.Keyed L.idOf) (h : t.Holds L c) (id : String) :
    t.find? L.key (.text id) = (c.find? id).map L.toRow := by
  obtain ⟨stored, perm, rows⟩ := h
  unfold find?
  rw [rows, List.find?_map]
  simp only [Function.comp_def, key_toRow_eq_iff]
  congr 1
  cases found : stored.find? (fun y => decide (L.idOf y = id)) with
  | none =>
    have vacant : ¬ ∃ x ∈ stored, L.idOf x = id := by
      rintro ⟨x, hx, own⟩
      exact List.find?_eq_none.mp found x hx (decide_eq_true own)
    rw [exists_id_iff hk perm, not_exists] at vacant
    exact (Option.eq_none_iff_forall_ne_some.mpr vacant).symm
  | some x =>
    have own : L.idOf x = id := by simpa using List.find?_some found
    rw [← own]
    exact (find?_of_mem hk perm (List.mem_of_find?_eq_some found)).symm

end Table
end Agenda.Relational
