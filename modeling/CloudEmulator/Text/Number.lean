/-!
# Numbers in texts
-/

namespace CloudEmulator.Text

/-- The number that ASCII digits stand for, with a plus sign in front of them or
not, if it is at most `limit`. -/
def number? (limit : Nat) (s : String) : Option Nat :=
  let ds := match s.toList with
    | '+' :: ds => ds
    | ds => ds
  let n := ds.foldl (fun n c => n * 10 + (c.toNat - 48)) 0
  if !ds.isEmpty && ds.all Char.isDigit && n ≤ limit then some n else none

end CloudEmulator.Text
