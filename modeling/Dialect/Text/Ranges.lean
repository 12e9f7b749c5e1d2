namespace Dialect.Text

-- The number of entries of an increasing table that are at most `key`, found by halving the
-- interval from `lo` to `hi`.
def countUpTo (table : Array Nat) (key : Nat) : (fuel lo hi : Nat) → Nat
  | 0, lo, _ => lo
  | fuel + 1, lo, hi =>
    if lo < hi then
      let mid := (lo + hi) / 2
      if table.getD mid 0 ≤ key then countUpTo table key fuel (mid + 1) hi
      else countUpTo table key fuel lo mid
    else lo

-- Whether a number is in the class of a table of the places where the class changes: an odd number
-- of changes lies at or before it.
def within (table : Array Nat) (n : Nat) : Bool := countUpTo table n 16 0 table.size % 2 == 1

end Dialect.Text
