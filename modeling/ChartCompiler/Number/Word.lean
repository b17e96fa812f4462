/-!
The ranges of machine integers, each by the first number that is too large.
-/

namespace ChartCompiler

/-- One more than the largest unsigned integer of thirty-two bits. -/
def bound32 : Nat :=
  0x100000000

/-- One more than the largest signed integer of sixty-four bits. -/
def bound63 : Nat :=
  0x8000000000000000

/-- One more than the largest unsigned integer of sixty-four bits. -/
def bound64 : Nat :=
  0x10000000000000000

end ChartCompiler
