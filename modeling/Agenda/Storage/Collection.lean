import Agenda.Storage.Error

/-! Items filed under ids. The entries are kept in the order of the ids, so that two collections
that hold the same items are equal, however they came about. Ids are ordered by their code points,
which is the order of their UTF-8 bytes. -/
namespace Agenda

structure Collection (α : Type) where
  entries : List (String × α)
  sorted : entries.Pairwise (fun a b => a.1 < b.1)

namespace Collection

variable {α : Type}

theorem ext {c d : Collection α} (h : c.entries = d.entries) : c = d := by
  cases c; cases d; cases h; rfl

def empty : Collection α := ⟨[], .nil⟩

def items (c : Collection α) : List α := c.entries.map (·.2)

def lookup (id : String) : List (String × α) → Option α
  | [] => none
  | e :: rest => if e.1 = id then some e.2 else lookup id rest

def find? (c : Collection α) (id : String) : Option α := lookup id c.entries

/-- Files an item in front of the first entry with a greater id. -/
def place (id : String) (x : α) : List (String × α) → List (String × α)
  | [] => [(id, x)]
  | e :: rest => if id < e.1 then (id, x) :: e :: rest else e :: place id x rest

def overwrite (id : String) (x : α) : List (String × α) → List (String × α)
  | [] => []
  | e :: rest => if e.1 = id then (id, x) :: rest else e :: overwrite id x rest

def remove (id : String) : List (String × α) → List (String × α)
  | [] => []
  | e :: rest => if e.1 = id then rest else e :: remove id rest

theorem mem_place {id : String} {x : α} {l : List (String × α)} {e : String × α} :
    e ∈ place id x l ↔ e = (id, x) ∨ e ∈ l := by
  induction l with
  | nil => simp [place]
  | cons a rest ih =>
    unfold place; split
    · simp only [List.mem_cons]
    · simp only [List.mem_cons, ih, or_left_comm]

theorem lookup_eq_none_iff {id : String} {l : List (String × α)} :
    lookup id l = none ↔ ∀ e ∈ l, e.1 ≠ id := by
  induction l with
  | nil => simp [lookup]
  | cons a rest ih =>
    unfold lookup; split
    · rename_i h; simp [h]
    · rename_i h; simp [h, ih]

theorem place_sorted {id : String} {x : α} {l : List (String × α)}
    (h : l.Pairwise (fun a b => a.1 < b.1)) (vacant : ∀ e ∈ l, e.1 ≠ id) :
    (place id x l).Pairwise (fun a b => a.1 < b.1) := by
  induction l with
  | nil => simp [place]
  | cons a rest ih =>
    obtain ⟨below, later⟩ := List.pairwise_cons.mp h
    have apart := vacant a (.head _)
    unfold place; split
    · refine List.pairwise_cons.mpr ⟨fun e he => ?_, h⟩
      rcases List.mem_cons.mp he with rfl | he
      · assumption
      · have := below e he
        grind
    · refine List.pairwise_cons.mpr ⟨fun e he => ?_, ih later fun e he => vacant e (.tail _ he)⟩
      rcases mem_place.mp he with rfl | he
      · grind
      · exact below e he

theorem ids_overwrite (id : String) (x : α) (l : List (String × α)) :
    (overwrite id x l).map (·.1) = l.map (·.1) := by
  induction l with
  | nil => rfl
  | cons a rest ih => unfold overwrite; split <;> simp_all

theorem sorted_iff_ids {l : List (String × α)} :
    l.Pairwise (fun a b => a.1 < b.1) ↔ (l.map (·.1)).Pairwise (· < ·) :=
  List.pairwise_map.symm

theorem remove_sublist (id : String) (l : List (String × α)) : (remove id l).Sublist l := by
  induction l with
  | nil => exact .slnil
  | cons a rest ih =>
    unfold remove; split
    · exact .cons _ (List.Sublist.refl _)
    · exact .cons_cons _ ih

/-- Files a new item. An id that is taken is a conflict. -/
def insert (c : Collection α) (id : String) (x : α) : Except StorageError (Collection α) :=
  match h : c.find? id with
  | some _ => .error (.conflict id)
  | none => .ok ⟨place id x c.entries, place_sorted c.sorted (lookup_eq_none_iff.mp h)⟩

/-- Replaces the item under an id. -/
def save (c : Collection α) (id : String) (x : α) : Except StorageError (Collection α) :=
  match c.find? id with
  | none => .error (.notFound id)
  | some _ => .ok ⟨overwrite id x c.entries, by
      rw [sorted_iff_ids, ids_overwrite]; exact sorted_iff_ids.mp c.sorted⟩

/-- Takes away the item under an id. -/
def delete (c : Collection α) (id : String) : Except StorageError (Collection α) :=
  match c.find? id with
  | none => .error (.notFound id)
  | some _ => .ok ⟨remove id c.entries, c.sorted.sublist (remove_sublist id c.entries)⟩

def get (c : Collection α) (id : String) : Except StorageError α :=
  match c.find? id with
  | none => .error (.notFound id)
  | some x => .ok x

end Collection
end Agenda
