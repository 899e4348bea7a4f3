import Agenda.Timestamp

/-! Tables of rows and the statements that change and read them. A statement that changes a table
also says how many rows it affected. The rows of a table have no order of their own. -/
namespace Agenda.Relational

/-- The value of a column. -/
inductive Value
  | text (s : String)
  | integer (t : Timestamp)
deriving DecidableEq

/-- A text with U+0000 in it cannot be stored, nor compared with what is stored. -/
def Value.isStorable : Value → Bool
  | .text s => !s.toList.contains '\x00'
  | .integer _ => true

/-- Values by the names of their columns. -/
abbrev Row := List (String × Value)

namespace Row

def text? (r : Row) (column : String) : Option String :=
  match r.lookup column with
  | some (.text s) => some s
  | _ => none

def integer? (r : Row) (column : String) : Option Timestamp :=
  match r.lookup column with
  | some (.integer t) => some t
  | _ => none

/-- The row with new values in some of its columns. -/
def assign (changes r : Row) : Row :=
  r.map fun (column, v) => (column, (changes.lookup column).getD v)

end Row

/-- Orders two values of one column, numbers by size and texts by their code points. -/
def Value.le : Option Value → Option Value → Bool
  | some (.integer a), some (.integer b) => decide (a ≤ b)
  | some (.text a), some (.text b) => decide (a ≤ b)
  | _, _ => true

/-- Orders rows by some columns, of which the first counts most. -/
def precedes : List String → Row → Row → Bool
  | [], _, _ => true
  | column :: rest, a, b =>
    if a.lookup column = b.lookup column then precedes rest a b
    else Value.le (a.lookup column) (b.lookup column)

structure Table where
  rows : List Row
deriving DecidableEq

namespace Table

def empty : Table := ⟨[]⟩

/-- The table after a statement, and the number of rows that it affected. -/
abbrev Affected := Table × Nat

/-- Adds a row unless there is one with the same value in the column `key`. -/
def insertUnlessTaken (t : Table) (key : String) (row : Row) : Affected :=
  if t.rows.any (·.lookup key = row.lookup key) then (t, 0) else (⟨t.rows ++ [row]⟩, 1)

/-- Changes the rows that have a value in a column. -/
def update (t : Table) (key : String) (v : Value) (changes : Row) : Affected :=
  (⟨t.rows.map fun r => if r.lookup key = some v then Row.assign changes r else r⟩,
    t.rows.countP (·.lookup key = some v))

/-- Removes the rows that have a value in a column. -/
def delete (t : Table) (key : String) (v : Value) : Affected :=
  (⟨t.rows.filter (·.lookup key ≠ some v)⟩, t.rows.countP (·.lookup key = some v))

/-- The rows with a number between two bounds in a column, both included, in the order of some
columns. -/
def selectBetween (t : Table) (column : String) (lo hi : Timestamp) (order : List String) :
    List Row :=
  (t.rows.filter fun r => match r.integer? column with
    | some n => decide (lo ≤ n) && decide (n ≤ hi)
    | none => false).mergeSort (precedes order)

/-- A row that has a value in a column. -/
def find? (t : Table) (key : String) (v : Value) : Option Row :=
  t.rows.find? (·.lookup key = some v)

end Table
end Agenda.Relational
