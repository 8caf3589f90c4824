/-!
Sets of characters given by runs of code points. A run has a first and a last code point and a step,
so that a script whose capitals and small letters alternate takes one run instead of many.
-/

namespace TableReaders.Text

structure Run where
  first : Nat
  last : Nat
  step : Nat
  deriving DecidableEq, Repr

/-- The code point is one of the run. The comparisons are those that evaluate fastest in proofs. -/
def Run.has (run : Run) (code : Nat) : Bool :=
  Nat.ble run.first code && Nat.ble code run.last && Nat.beq ((code - run.first) % run.step) 0

def anyHas (runs : List Run) (code : Nat) : Bool :=
  runs.any (·.has code)

end TableReaders.Text
