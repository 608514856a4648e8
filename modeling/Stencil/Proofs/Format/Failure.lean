import Stencil.Proofs.Format.DatePattern
import Stencil.Proofs.Format.Reading
import Stencil.Value

/-!
# Format texts that values refuse

Most values are written by most texts: a text that is no specifier is a pattern, and patterns
never fail for numbers. What is left is a short list for each kind of value. A number refuses a
specifier whose letter has no notation for numbers of its kind, a date-time refuses a malformed
pattern, and an identifier everything that is not one of its letters. The error names the
format text as it was given, and the kind of the value, also where an integer is written by way
of a floating-point number.

## Main definitions

* `Stencil.Value.Refuses`: the format texts that a value refuses.

## Main results

* `formatGuid_eq_error_iff`: the texts by which identifiers cannot be written.
* `Value.format_eq_error_iff`: a value fails by the texts it refuses, with an error that names
  both.
-/

namespace Stencil

variable {spec : Text} {g : Guid} {e : ExpandError}

/-! ### Identifiers -/

/-- The forms of identifiers are selected by the empty text and by ten letters. -/
theorem guidForm?_eq_none_iff :
    guidForm? spec = none ↔ spec ≠ [] ∧ ∀ letter ∈ "NnDdBbPpXx".toList, spec ≠ [letter] := by
  unfold guidForm?
  split
  · simp
  · split
    all_goals simp_all
  · next hempty hsingle =>
    simp only [true_iff]
    exact ⟨hempty, fun letter _ => hsingle letter⟩

/-- **An identifier cannot be written** by any other text. -/
theorem formatGuid_eq_error_iff :
    formatGuid g spec = .error e ↔ e = .invalidFormat spec .guid ∧ spec ≠ [] ∧
      ∀ letter ∈ "NnDdBbPpXx".toList, spec ≠ [letter] := by
  rw [← guidForm?_eq_none_iff, formatGuid]
  cases guidForm? spec <;> simp [eq_comm]

/-! ### All values -/

/-- The format texts that a value **refuses**. -/
def Value.Refuses : Value → Text → Prop
  | str _, _ | char _, _ | bool _, _ => False
  | int _, spec | uint _, spec => Unsupported "DdXxBbNnFfEePpGgRr".toList spec
  | float x, spec => x.isFinite = true ∧ Unsupported "EeFfGgNnPpRr".toList spec
  | dateTime _, spec => MalformedDateFormat spec
  | guid _, spec => spec ≠ [] ∧ ∀ letter ∈ "NnDdBbPpXx".toList, spec ≠ [letter]

instance : (v : Value) → (spec : Text) → Decidable (v.Refuses spec)
  | .str _, _ | .char _, _ | .bool _, _ => inferInstanceAs (Decidable False)
  | .int _, spec | .uint _, spec =>
    inferInstanceAs (Decidable (Unsupported "DdXxBbNnFfEePpGgRr".toList spec))
  | .float x, spec =>
    inferInstanceAs (Decidable (x.isFinite = true ∧ Unsupported "EeFfGgNnPpRr".toList spec))
  | .dateTime _, spec => inferInstanceAs (Decidable (MalformedDateFormat spec))
  | .guid _, spec =>
    inferInstanceAs (Decidable (spec ≠ [] ∧ ∀ letter ∈ "NnDdBbPpXx".toList, spec ≠ [letter]))

/-- **Writing a value fails** if and only if the value refuses the format text, and then the
error names the text and the kind of the value. -/
theorem Value.format_eq_error_iff (v : Value) (spec : Text) (e : ExpandError) :
    v.format spec = .error e ↔ e = .invalidFormat spec v.kind ∧ v.Refuses spec := by
  cases v with
  | str text => exact ⟨nofun, fun h => h.2.elim⟩
  | char c => exact ⟨nofun, fun h => h.2.elim⟩
  | bool b => exact ⟨nofun, fun h => h.2.elim⟩
  | int n => exact formatInteger_eq_error_iff
  | uint n => exact formatInteger_eq_error_iff
  | float x => exact formatFloat_eq_error_iff
  | dateTime d => exact formatDateTime_eq_error_iff
  | guid g => exact formatGuid_eq_error_iff

-- A letter without a notation, one that only integers have, and too many digits for a
-- specifier.
example : Value.Refuses (.int 42) "Q".toList ∧ ¬ Value.Refuses (.int 42) "B8".toList ∧
    Value.Refuses (.float (.zero false)) "B8".toList ∧
      ¬ Value.Refuses (.int 42) "Q100".toList := by
  decide

end Stencil
