/-!
# Counters

The counter behind numbered placeholders: a signed word of 64 bits that wraps around.

## Main definitions

* `Stencil.Counter`: the number that is handed out next.
* `Stencil.Counter.next`, `Stencil.Counter.set`, `Stencil.Counter.restart`: each gives a number
  and the counter afterwards.
-/

namespace Stencil

/-- A **counter**. -/
structure Counter where
  /-- The number that is handed out next. -/
  upcoming : Int64
  deriving DecidableEq

namespace Counter

/-- The counter that hands out zero first. -/
def zero : Counter := ⟨0⟩

/-- Hands out the upcoming number. -/
def next (c : Counter) : Int64 × Counter := (c.upcoming, ⟨c.upcoming + 1⟩)

/-- Makes `n` the upcoming number and gives the one that was upcoming before. -/
def set (c : Counter) (n : Int64) : Int64 × Counter := (c.upcoming, ⟨n⟩)

/-- Hands out `n`, whatever was upcoming, and counts on from there. -/
def restart (_c : Counter) (n : Int64) : Int64 × Counter := (n, ⟨n + 1⟩)

/-- Restarting is setting and then handing out. -/
theorem restart_eq_next_set (c : Counter) (n : Int64) : c.restart n = (c.set n).2.next := rfl

end Counter

end Stencil
