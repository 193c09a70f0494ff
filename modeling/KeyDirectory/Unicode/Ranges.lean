import KeyDirectory.Text.Numeral
import KeyDirectory.Text.Split

/-!
# Tables over code points

Character properties come as tables of ranges, written as text: rows with a blank or a line end
between them, code points in hexadecimal.

* `A` and `A-B` are a code point and a range;
* `A-B/S` takes every `S`-th code point of the range;
* `R=T` sends the first code point of `R` to `T`, the next to `T + S`, and so on;
* `A=T,U,V` sends `A` to several code points, `A=` to none.

A table is sorted by the first code point of its rows, and no row reaches into another.
-/

namespace KeyDirectory.Unicode

/-- A row: the code points `first`, `first + step`, … up to `last`, and what they are sent to. -/
structure Row where
  first : Nat
  last : Nat
  step : Nat
  targets : List Nat
deriving Repr

structure Table where
  rows : Array Row

namespace Table

/-- The number that hexadecimal digits stand for; other characters count as zero. -/
def hexNumber (digits : List Char) : Nat :=
  digits.foldl (fun n c => n * 16 + (Text.hexValue? c).getD 0) 0

/-- Reads the range of a row, and what it is sent to. -/
def readRow (row : List Char) : Row :=
  let (range, targets) := (Text.splitFirst '=' row).getD (row, [])
  let (bounds, step) := (Text.splitFirst '/' range).getD (range, ['1'])
  let (first, last) := (Text.splitFirst '-' bounds).getD (bounds, bounds)
  let images := (Text.fields (· == ',') targets).filter (!·.isEmpty)
  ⟨hexNumber first, hexNumber last, hexNumber step, images.map hexNumber⟩

def ofText (text : String) : Table :=
  let rows := (Text.fields (fun c => c == ' ' || c == '\n') text.toList).filter (!·.isEmpty)
  ⟨(rows.map readRow).toArray⟩

/-- The number of rows in `lo ..< hi` that start at or before `n`, counted from the first row of
the table; each step halves the interval, so `fuel` bounds its logarithm. -/
def countUpTo (rows : Array Row) (n : Nat) : Nat → Nat → Nat → Nat
  | 0, lo, _ => lo
  | fuel + 1, lo, hi =>
    if lo < hi then
      let mid := (lo + hi) / 2
      match rows[mid]? with
      | none => lo
      | some row =>
        if row.first ≤ n then countUpTo rows n fuel (mid + 1) hi else countUpTo rows n fuel lo mid
    else lo

/-- The row that holds a code point. -/
def find? (table : Table) (n : Nat) : Option Row :=
  match countUpTo table.rows n 32 0 table.rows.size with
  | 0 => none
  | k + 1 =>
    table.rows[k]?.filter fun row => row.first ≤ n && n ≤ row.last && (n - row.first) % row.step == 0

def contains (table : Table) (c : Char) : Bool :=
  (table.find? c.toNat).isSome

/-- The value that the row of a character carries, the same for the whole row. -/
def value? (table : Table) (c : Char) : Option Nat :=
  (table.find? c.toNat).bind (·.targets.head?)

/-- What a character is sent to: a single target moves along with the range. -/
def image? (table : Table) (c : Char) : Option (List Char) :=
  (table.find? c.toNat).map fun row =>
    match row.targets with
    | [target] => [Char.ofNat (target + (c.toNat - row.first))]
    | targets => targets.map Char.ofNat

end Table

end KeyDirectory.Unicode
