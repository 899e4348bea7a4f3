import Agenda.Storage.Memory
import Mathlib.Order.Defs.LinearOrder
import Mathlib.Data.List.Sort
import Mathlib.Data.String.Basic

/-! What the operations on a collection do to the item under each id, and to the items as a whole.
Everything later is derived from these; only this module looks into the entries. -/
namespace Agenda.Collection

variable {α : Type}

theorem lookup_eq_some_iff {id : String} {x : α} {l : List (String × α)}
    (h : l.Pairwise (fun a b => a.1 < b.1)) : lookup id l = some x ↔ (id, x) ∈ l := by
  induction l with
  | nil => simp [lookup]
  | cons a rest ih =>
    obtain ⟨below, later⟩ := List.pairwise_cons.mp h
    unfold lookup; split
    · rename_i same
      have fresh : (id, x) ∉ rest := by
        intro hx
        have := below _ hx
        rw [same] at this
        exact lt_irrefl id this
      rw [List.mem_cons, or_iff_left fresh, Option.some_inj, Prod.ext_iff]
      simp only [same, true_and, eq_comm]
    · rename_i other
      have apart : (id, x) ≠ a := fun hx => other (hx ▸ rfl)
      rw [ih later, List.mem_cons, or_iff_right apart]

theorem lookup_place {id : String} (x : α) {l : List (String × α)} (vacant : lookup id l = none)
    (k : String) : lookup k (place id x l) = if k = id then some x else lookup k l := by
  induction l with
  | nil => simp [place, lookup, eq_comm]
  | cons a rest ih =>
    unfold lookup at vacant; split at vacant
    · cases vacant
    · rename_i apart
      unfold place; split
      · simp only [lookup, eq_comm]
      · simp only [lookup, ih vacant]
        split
        · rename_i same; rw [if_neg (same ▸ apart)]
        · rfl

theorem lookup_overwrite {id : String} (x : α) {l : List (String × α)} {y : α}
    (taken : lookup id l = some y) (k : String) :
    lookup k (overwrite id x l) = if k = id then some x else lookup k l := by
  induction l with
  | nil => cases taken
  | cons a rest ih =>
    unfold overwrite; split
    · rename_i same
      simp only [lookup, same, eq_comm]
      split <;> rfl
    · rename_i apart
      simp only [lookup, apart, if_false] at taken
      simp only [lookup, ih taken]
      split
      · rename_i same; rw [if_neg (same ▸ apart)]
      · rfl

theorem lookup_remove {l : List (String × α)} (h : l.Pairwise (fun a b => a.1 < b.1))
    (id k : String) : lookup k (remove id l) = if k = id then none else lookup k l := by
  induction l with
  | nil => simp [remove, lookup]
  | cons a rest ih =>
    obtain ⟨below, later⟩ := List.pairwise_cons.mp h
    unfold remove; split
    · rename_i same
      by_cases hk : k = id
      · rw [if_pos hk, lookup_eq_none_iff]
        intro e he
        have := below e he
        grind
      · simp only [lookup, same, Ne.symm hk, hk, if_false]
    · rename_i apart
      simp only [lookup, ih later]
      split
      · rename_i same; rw [if_neg (same ▸ apart)]
      · rfl

/-! ## Single items -/

variable {c d : Collection α} {id : String} {x y : α}

theorem mem_entries_iff : (id, x) ∈ c.entries ↔ c.find? id = some x :=
  (lookup_eq_some_iff c.sorted).symm

/-- A collection is known by what it holds under each id. -/
theorem eq_of_find? (same : ∀ id, c.find? id = d.find? id) : c = d := by
  have members (e : String × α) : e ∈ c.entries ↔ e ∈ d.entries := by
    obtain ⟨id, x⟩ := e
    rw [mem_entries_iff, mem_entries_iff, same]
  have : Std.Irrefl fun a b : String × α => a.1 < b.1 := ⟨fun a => lt_irrefl a.1⟩
  have : Std.Antisymm fun a b : String × α => a.1 < b.1 :=
    ⟨fun a b before after => absurd after (lt_asymm before)⟩
  exact ext (c.sorted.eq_of_mem_iff d.sorted members)

theorem insert_taken (h : c.find? id = some y) : c.insert id x = .error (.conflict id) := by
  unfold insert
  split
  · rfl
  · simp_all

theorem insert_vacant (h : c.find? id = none) (x : α) : ∃ d, c.insert id x = .ok d := by
  unfold insert
  split
  · simp_all
  · exact ⟨_, rfl⟩

theorem save_missing (h : c.find? id = none) : c.save id x = .error (.notFound id) := by
  unfold save
  split
  · rfl
  · simp_all

theorem save_present (h : c.find? id = some y) (x : α) : ∃ d, c.save id x = .ok d := by
  unfold save
  split
  · simp_all
  · exact ⟨_, rfl⟩

theorem delete_missing (h : c.find? id = none) : c.delete id = .error (.notFound id) := by
  unfold delete
  split
  · rfl
  · simp_all

theorem delete_present (h : c.find? id = some y) : ∃ d, c.delete id = .ok d := by
  unfold delete
  split
  · simp_all
  · exact ⟨_, rfl⟩

theorem vacant_of_insert (h : c.insert id x = .ok d) : c.find? id = none := by
  cases hf : c.find? id with
  | none => rfl
  | some y => rw [insert_taken hf] at h; cases h

theorem present_of_save (h : c.save id x = .ok d) : ∃ y, c.find? id = some y := by
  cases hf : c.find? id with
  | none => rw [save_missing hf] at h; cases h
  | some y => exact ⟨y, rfl⟩

theorem entries_of_insert (h : c.insert id x = .ok d) : d.entries = place id x c.entries := by
  unfold insert at h
  split at h <;> cases h
  rfl

theorem entries_of_save (h : c.save id x = .ok d) : d.entries = overwrite id x c.entries := by
  unfold save at h
  split at h <;> cases h
  rfl

theorem entries_of_delete (h : c.delete id = .ok d) : d.entries = remove id c.entries := by
  unfold delete at h
  split at h <;> cases h
  rfl

theorem find?_insert (h : c.insert id x = .ok d) (k : String) :
    d.find? k = if k = id then some x else c.find? k := by
  unfold find?
  rw [entries_of_insert h]
  exact lookup_place x (vacant_of_insert h) k

theorem find?_save (h : c.save id x = .ok d) (k : String) :
    d.find? k = if k = id then some x else c.find? k := by
  obtain ⟨y, hy⟩ := present_of_save h
  unfold find?
  rw [entries_of_save h]
  exact lookup_overwrite x hy k

theorem find?_delete (h : c.delete id = .ok d) (k : String) :
    d.find? k = if k = id then none else c.find? k := by
  unfold find?
  rw [entries_of_delete h]
  exact lookup_remove c.sorted id k

/-! ## All items

A collection whose items know their own ids holds one item to an id, and what an operation does to
the list of items no longer depends on where the entries stand. -/

/-- Every item is filed under its own id. -/
def Keyed (idOf : α → String) (c : Collection α) : Prop :=
  ∀ id x, c.find? id = some x → idOf x = id

variable {idOf : α → String}

theorem keyed_empty : (empty : Collection α).Keyed idOf := by
  intro id x h; cases h

theorem Keyed.insert (hk : c.Keyed idOf) (h : c.insert (idOf x) x = .ok d) : d.Keyed idOf := by
  intro id y hy
  rw [find?_insert h] at hy
  split at hy
  · cases hy; simp_all
  · exact hk id y hy

theorem Keyed.save (hk : c.Keyed idOf) (h : c.save (idOf x) x = .ok d) : d.Keyed idOf := by
  intro id y hy
  rw [find?_save h] at hy
  split at hy
  · cases hy; simp_all
  · exact hk id y hy

theorem Keyed.delete (hk : c.Keyed idOf) (h : c.delete id = .ok d) : d.Keyed idOf := by
  intro k y hy
  rw [find?_delete h] at hy
  split at hy
  · cases hy
  · exact hk k y hy

theorem mem_items_iff (hk : c.Keyed idOf) : x ∈ c.items ↔ c.find? (idOf x) = some x := by
  simp only [items, List.mem_map, Prod.exists, exists_eq_right, mem_entries_iff]
  constructor
  · rintro ⟨id, h⟩
    rw [hk id x h]; exact h
  · exact fun h => ⟨_, h⟩

theorem keyed_iff_own : c.Keyed idOf ↔ ∀ e ∈ c.entries, idOf e.2 = e.1 := by
  constructor
  · intro hk e he
    exact hk e.1 e.2 (mem_entries_iff.mp he)
  · intro own id x found
    exact own (id, x) (mem_entries_iff.mpr found)

theorem ids_nodup (hk : c.Keyed idOf) : (c.items.map idOf).Nodup := by
  have ids : c.items.map idOf = c.entries.map (·.1) := by
    unfold items
    rw [List.map_map]
    exact List.map_congr_left (keyed_iff_own.mp hk)
  rw [ids, List.nodup_iff_pairwise_ne]
  exact (sorted_iff_ids.mp c.sorted).imp (fun h => ne_of_lt h)

theorem place_perm (id : String) (x : α) (l : List (String × α)) :
    (place id x l).Perm ((id, x) :: l) := by
  induction l with
  | nil => exact .refl _
  | cons a rest ih =>
    unfold place; split
    · exact .refl _
    · exact (ih.cons a).trans (.swap _ _ _)

theorem items_insert (h : c.insert id x = .ok d) : d.items.Perm (x :: c.items) := by
  unfold items
  rw [entries_of_insert h]
  exact (place_perm id x c.entries).map (·.2)

/-- The entries behind one in sorted order belong to other ids. -/
theorem later_ids {a : String × α} {l : List (String × α)} (below : ∀ e ∈ l, a.1 < e.1)
    (own : ∀ e ∈ l, idOf e.2 = e.1) : ∀ y ∈ l.map (·.2), idOf y ≠ a.1 := by
  intro y hy
  obtain ⟨e, he, rfl⟩ := List.mem_map.mp hy
  rw [own e he]
  exact (ne_of_lt (below e he)).symm

theorem overwrite_items {l : List (String × α)} (own : ∀ e ∈ l, idOf e.2 = e.1)
    (sorted : l.Pairwise (fun a b => a.1 < b.1)) (id : String) (x : α) :
    (overwrite id x l).map (·.2) = (l.map (·.2)).map fun y => if idOf y = id then x else y := by
  induction l with
  | nil => rfl
  | cons a rest ih =>
    obtain ⟨below, later⟩ := List.pairwise_cons.mp sorted
    have head := own a (.head _)
    have tail : ∀ e ∈ rest, idOf e.2 = e.1 := fun e he => own e (.tail _ he)
    unfold overwrite; split
    · rename_i same
      have others : ∀ y ∈ rest.map (·.2), (if idOf y = id then x else y) = y :=
        fun y hy => if_neg (same ▸ later_ids below tail y hy)
      simp only [List.map_cons, head, same, if_true, List.map_congr_left others, List.map_id']
    · rename_i apart
      simp only [List.map_cons, head, apart, if_false, ih tail later]

theorem remove_items {l : List (String × α)} (own : ∀ e ∈ l, idOf e.2 = e.1)
    (sorted : l.Pairwise (fun a b => a.1 < b.1)) (id : String) :
    (remove id l).map (·.2) = (l.map (·.2)).filter fun y => idOf y ≠ id := by
  induction l with
  | nil => rfl
  | cons a rest ih =>
    obtain ⟨below, later⟩ := List.pairwise_cons.mp sorted
    have head := own a (.head _)
    have tail : ∀ e ∈ rest, idOf e.2 = e.1 := fun e he => own e (.tail _ he)
    unfold remove; split
    · rename_i same
      have others : ∀ y ∈ rest.map (·.2), decide (idOf y ≠ id) = true :=
        fun y hy => decide_eq_true (same ▸ later_ids below tail y hy)
      rw [List.map_cons, List.filter_cons_of_neg (by simp [head, same])]
      exact (List.filter_eq_self.mpr others).symm
    · rename_i apart
      rw [List.map_cons, List.map_cons, List.filter_cons_of_pos (by simp [head, apart]),
        ih tail later]

theorem items_save (hk : c.Keyed idOf) (h : c.save id x = .ok d) :
    d.items = c.items.map fun y => if idOf y = id then x else y := by
  unfold items
  rw [entries_of_save h]
  exact overwrite_items (keyed_iff_own.mp hk) c.sorted id x

theorem items_delete (hk : c.Keyed idOf) (h : c.delete id = .ok d) :
    d.items = c.items.filter fun y => idOf y ≠ id := by
  unfold items
  rw [entries_of_delete h]
  exact remove_items (keyed_iff_own.mp hk) c.sorted id

end Agenda.Collection
