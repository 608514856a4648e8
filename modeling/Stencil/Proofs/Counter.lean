import Mathlib
import Stencil.Counter

/-!
# The numbers that a counter hands out

Whatever works with a counter performs operations on it, one after the other: it takes a
number, sets the counter, or restarts it and takes the first number. Between two operations
that set the counter the numbers follow each other, and no number comes twice before the word
is used up.

## Main definitions

* `Stencil.Counter.Op`: an operation on a counter.
* `Stencil.Counter.runAll`, `Stencil.Counter.handedOut`: the counter after operations, and the
  numbers that they hand out.
* `Stencil.Counter.Consecutive`: numbers that follow each other.

## Main results

* `consecutive_handedOut`: an operation and the ones that follow it without a reset hand out
  consecutive numbers.
* `Consecutive.nodup`: consecutive numbers are distinct.
-/

namespace Stencil.Counter

/-- An **operation** on a counter. -/
inductive Op where
  /-- Takes the upcoming number. -/
  | next
  /-- Sets the upcoming number. -/
  | set (n : Int64)
  /-- Restarts with a number and takes it. -/
  | restart (n : Int64)
  deriving DecidableEq

namespace Op

/-- The number that an operation gives, and the counter after it. -/
def run : Op → Counter → Int64 × Counter
  | next, c => c.next
  | set n, c => c.set n
  | restart n, c => c.restart n

/-- The number that an operation hands out. Setting hands out none: what it gives is the number
that would have been next. -/
def number? (op : Op) (c : Counter) : Option Int64 :=
  match op with
  | set _ => none
  | next | restart _ => some (op.run c).1

/-- The number to which an operation resets the counter. -/
def reset? : Op → Option Int64
  | next => none
  | set n | restart n => some n

end Op

/-- The counter after some operations. -/
def runAll (c : Counter) (ops : List Op) : Counter := ops.foldl (fun c op => (op.run c).2) c

/-- The numbers that operations hand out, in order. -/
def handedOut (c : Counter) : List Op → List Int64
  | [] => []
  | op :: ops => (op.number? c).toList ++ handedOut (op.run c).2 ops

variable {c : Counter} {op : Op} {ops others : List Op} {start : Int64} {numbers : List Int64}

@[simp] theorem runAll_cons (c : Counter) (op : Op) (ops : List Op) :
    c.runAll (op :: ops) = (op.run c).2.runAll ops := rfl

/-- Operations may be run in two parts. -/
theorem runAll_append (c : Counter) (ops others : List Op) :
    c.runAll (ops ++ others) = (c.runAll ops).runAll others :=
  List.foldl_append

/-- The numbers of two parts are handed out one part after the other. -/
theorem handedOut_append (c : Counter) (ops others : List Op) :
    c.handedOut (ops ++ others) = c.handedOut ops ++ (c.runAll ops).handedOut others := by
  induction ops generalizing c with
  | nil => rfl
  | cons op ops ih =>
    rw [List.cons_append, handedOut, handedOut, ih, List.append_assoc]
    rfl

/-- An operation hands out one number at most. -/
theorem length_handedOut_le (c : Counter) (ops : List Op) :
    (c.handedOut ops).length ≤ ops.length := by
  induction ops generalizing c with
  | nil => rfl
  | cons op ops ih =>
    have hrest := ih (op.run c).2
    have hfirst : (op.number? c).toList.length ≤ 1 := by cases op.number? c <;> simp
    rw [handedOut, List.length_append, List.length_cons]
    omega

/-! ### Consecutive numbers -/

/-- Numbers are **consecutive** from a first one on, modulo `2 ^ 64`. -/
def Consecutive (start : Int64) (numbers : List Int64) : Prop :=
  numbers = (List.range numbers.length).map fun i => start + Int64.ofNat i

theorem consecutive_nil (start : Int64) : Consecutive start [] := rfl

/-- A number in front of those that are consecutive from the next one. -/
theorem Consecutive.cons (h : Consecutive (start + 1) numbers) :
    Consecutive start (start :: numbers) := by
  have hstep : ∀ i, start + Int64.ofNat (i + 1) = start + 1 + Int64.ofNat i := fun i => by
    rw [Int64.ofNat_add, Int64.add_assoc, Int64.add_comm (Int64.ofNat i)]
    rfl
  rw [Consecutive, List.length_cons, List.range_succ_eq_map, List.map_cons, List.map_map,
    show start + Int64.ofNat 0 = start from Int64.add_zero start]
  refine congrArg (start :: ·) (h.trans (List.map_congr_left fun i _ => (hstep i).symm))

/-- Consecutive numbers are distinct as long as there are no more than the word has. -/
theorem Consecutive.nodup (h : Consecutive start numbers) (hlength : numbers.length ≤ 2 ^ 64) :
    numbers.Nodup := by
  rw [h]
  refine List.Nodup.map_on (fun i hi j hj heq => ?_) List.nodup_range
  have hof : Int64.ofNat i = Int64.ofNat j := (Int64.add_right_inj start).mp heq
  have hmod := congrArg (fun n : Int64 => n.toBitVec.toNat) hof
  simp only [Int64.toBitVec_ofNat', BitVec.toNat_ofNat] at hmod
  rw [List.mem_range] at hi hj
  rwa [Nat.mod_eq_of_lt (by omega), Nat.mod_eq_of_lt (by omega)] at hmod

/-- Without a reset the numbers follow the upcoming one. -/
theorem consecutive_handedOut_of_next (h : ∀ op ∈ ops, op.reset? = none) (c : Counter) :
    Consecutive c.upcoming (c.handedOut ops) := by
  induction ops generalizing c with
  | nil => exact consecutive_nil _
  | cons op ops ih =>
    rw [List.forall_mem_cons] at h
    cases op with
    | next => exact (ih h.2 c.next.2).cons
    | set n => exact nomatch h.1
    | restart n => exact nomatch h.1

/-- **Consecutive numbers between resets.** An operation and the ones after it hand out
consecutive numbers as long as none of the latter resets the counter. The first number is the
one to which the operation resets the counter, or else the upcoming one. -/
theorem consecutive_handedOut (op : Op) (h : ∀ op ∈ ops, op.reset? = none) (c : Counter) :
    Consecutive (op.reset?.getD c.upcoming) (c.handedOut (op :: ops)) := by
  cases op with
  | next => exact (consecutive_handedOut_of_next h c.next.2).cons
  | set n => exact consecutive_handedOut_of_next h (c.set n).2
  | restart n => exact (consecutive_handedOut_of_next h (c.restart n).2).cons

end Stencil.Counter
