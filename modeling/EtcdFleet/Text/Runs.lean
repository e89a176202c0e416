set_option autoImplicit false

/-!
# Sets of code points as runs

A set of code points is given by the lengths of its runs in order: how many from zero on are outside,
how many after those are inside, then outside again, and so on. What comes after the last run is
outside.
-/

namespace EtcdFleet.Text

/-- Whether a code point lies in a run of the set, where the first of the runs is `inside` or not. -/
def isInRuns (inside : Bool) : List Nat → Nat → Bool
  | [], _ => false
  | run :: rest, n => if n < run then inside else isInRuns (!inside) rest (n - run)

end EtcdFleet.Text
