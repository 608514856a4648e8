import Stencil.Guid

/-!
# Entropy

A generator of pseudo-random words for the placeholders that ask for a fresh number or a fresh
identifier.

## Main definitions

* `Stencil.Entropy`: the state of the generator.
* `Stencil.Entropy.word`: the next word.
* `Stencil.Entropy.below`: a number below a bound.
* `Stencil.Entropy.guid`: a random identifier of version 4.
-/

namespace Stencil

/-- The state of a generator of pseudo-random words. -/
structure Entropy where
  /-- The state, which advances by a fixed odd step. -/
  state : UInt64
  deriving DecidableEq

namespace Entropy

/-- The next word and the generator after it. -/
def word (e : Entropy) : UInt64 × Entropy :=
  let state := e.state + 0x9E3779B97F4A7C15
  let z := (state ^^^ (state >>> 30)) * 0xBF58476D1CE4E5B9
  let z := (z ^^^ (z >>> 27)) * 0x94D049BB133111EB
  (z ^^^ (z >>> 31), ⟨state⟩)

/-- A number below a bound, and the generator after it. -/
def below (bound : Nat) (e : Entropy) : Nat × Entropy :=
  let (w, e) := e.word
  (w.toNat % bound, e)

/-- `count` digits of a word, the lowest first. -/
def digitsOfWord (count : Nat) (n : Nat) : List Hex.Digit :=
  (List.range count).map fun i => ⟨n / Nat.pow 16 i % 16, Nat.mod_lt _ (by decide)⟩

/-- A word is drawn as just as many digits as were asked for. -/
@[simp] theorem length_digitsOfWord (count n : Nat) :
    (digitsOfWord count n).length = count := by
  simp [digitsOfWord]

/-- A random identifier: digit 12 tells version 4, and digit 16 the variant. -/
def guid (e : Entropy) : Guid × Entropy :=
  let (high, e) := e.word
  let (low, e) := e.word
  let variant : Hex.Digit := ⟨8 + low.toNat % 4, by omega⟩
  (⟨digitsOfWord 12 high.toNat ++ 4 :: digitsOfWord 3 (high.toNat / 0x10000000000000) ++
      variant :: digitsOfWord 15 (low.toNat / 4), by simp⟩, e)

end Entropy

end Stencil
