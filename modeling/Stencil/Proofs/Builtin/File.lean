import Stencil.Builtin
import Stencil.Proofs.FilePath

/-!
# File placeholders

A file placeholder shows a part of the path that it is bound to. The parts fit together: the
file name is cut into the base name and the extension, and the directory is the path without
the file name. A path without a file name has neither base name nor extension, but it still has
a directory.

## Main results

* `FilePath.fileName?_cut`: base name and extension make up the file name.
* `fileText_parts_fit`: how the parts of a path fit together.
-/

namespace Stencil

variable {p n : Text}

/-! ### The file name and its parts -/

namespace FilePath

/-- No file name is empty. -/
theorem getD_fileName?_eq_iff (hn : n ≠ []) :
    (fileName? p).getD [] = n ↔ fileName? p = some n := by
  cases hname : fileName? p with
  | none => simpa using Ne.symm hn
  | some name => simp

/-- **Base name and extension** make up the file name. There is a point between them, unless no
point stands behind the first character of the file name. -/
theorem fileName?_cut (p : Text) :
    ((fileName? p).getD [] = (stem? p).getD [] ∧ (extension? p).getD [] = [] ∧
      '.' ∉ ((fileName? p).getD []).tail ∨
    (fileName? p).getD [] = (stem? p).getD [] ++ '.' :: (extension? p).getD [] ∧
      (stem? p).getD [] ≠ []) ∧
    '.' ∉ (extension? p).getD [] := by
  cases hname : fileName? p with
  | none => simp [stem?, extension?, hname]
  | some name =>
    rcases cutExtension_cases name with
      ⟨hpoint, hcut⟩ | ⟨base, extension, hbase, hpoint, rfl, hcut⟩
    · simp [stem?, extension?, hname, hcut, hpoint]
    · simp [stem?, extension?, hname, hcut, hpoint, hbase]

/-- No file name has a slash. -/
theorem slash_not_mem_fileName? (p : Text) : '/' ∉ (fileName? p).getD [] := by
  cases hname : fileName? p with
  | none => exact List.not_mem_nil
  | some name => exact (isName_of_fileName? hname).slash_not_mem

end FilePath

/-! ### The parts of a bound path -/

open FilePath

/-- **The parts of a path fit together.** For every bound value, with `p` the path that its
display text writes: the file name is the base name, or the base name, a point and the
extension; neither the file name nor the extension has a slash, and the extension has no point;
the root is the slash at the start of `p`; and a file name below the directory has the
components of `p`. Besides, the file name is the last component of `p` if that is a name, and
the directory has all components but the last. -/
theorem fileText_parts_fit (name : Text) (now : Instant) (v : Value) :
    let part (format : String) := Builtin.fileText ⟨name, format.toList, some v, now⟩
    let p := v.display
    (part "SHORTNAME" = part "BASENAME" ∧ part "EXTENSION" = [] ∧
      '.' ∉ (part "SHORTNAME").tail ∨
      part "SHORTNAME" = part "BASENAME" ++ '.' :: part "EXTENSION" ∧ part "BASENAME" ≠ []) ∧
    '/' ∉ part "SHORTNAME" ∧ '/' ∉ part "EXTENSION" ∧ '.' ∉ part "EXTENSION" ∧
    part "ROOT" = (if p.head? = some '/' then ['/'] else []) ∧
    (part "SHORTNAME" ≠ [] →
      components (join (part "DIRECTORY") (part "SHORTNAME")) = components p) ∧
    (∀ n, n ≠ [] → (part "SHORTNAME" = n ↔ (components p).getLast? = some (.name n))) ∧
    components (part "DIRECTORY") = (components p).dropLast := by
  intro part p
  have hshort : part "SHORTNAME" = (fileName? p).getD [] := rfl
  have hbase : part "BASENAME" = (stem? p).getD [] := rfl
  have hextension : part "EXTENSION" = (extension? p).getD [] := rfl
  have hdirectory : part "DIRECTORY" = directory p := rfl
  have hroot : part "ROOT" = root p := rfl
  obtain ⟨hcut, hpoint⟩ := fileName?_cut p
  have hslash := slash_not_mem_fileName? p
  rw [hshort, hbase, hextension, hdirectory, hroot]
  refine ⟨hcut, hslash, ?_, hpoint, root_eq p, fun hne => ?_, fun n hn => ?_,
    components_directory p⟩
  · rcases hcut with ⟨-, hnil, -⟩ | ⟨hname, -⟩
    · rw [hnil]
      exact List.not_mem_nil
    · intro hmem
      refine hslash (hname ▸ ?_)
      exact List.mem_append_right _ (List.mem_cons_of_mem _ hmem)
  · exact components_join_directory ((getD_fileName?_eq_iff hne).mp rfl)
  · rw [getD_fileName?_eq_iff hn, fileName?_eq_some_iff]

/-- Of a path with several slashes, points and a `.` at its end, the parts still make up the
path. -/
theorem fileText_parts_fit_points :
    let part (format : String) := Builtin.fileText ⟨"FILE".toList, format.toList,
      some (.str "/srv//./data/v1..tar/.".toList), ⟨0, 0, by decide⟩⟩
    part "SHORTNAME" = "v1..tar".toList ∧ part "BASENAME" = "v1.".toList ∧
      part "EXTENSION" = "tar".toList ∧ part "DIRECTORY" = "/srv//./data".toList ∧
      components (join "/srv//./data".toList "v1..tar".toList) =
        components "/srv//./data/v1..tar/.".toList := by
  intro part
  have hshort : part "SHORTNAME" = "v1..tar".toList := rfl
  have hdirectory : part "DIRECTORY" = "/srv//./data".toList := rfl
  have hne : part "SHORTNAME" ≠ [] := by
    rw [hshort]
    exact List.cons_ne_nil _ _
  obtain ⟨-, -, -, -, -, hjoin, -⟩ := fileText_parts_fit "FILE".toList ⟨0, 0, by decide⟩
    (.str "/srv//./data/v1..tar/.".toList)
  exact ⟨hshort, rfl, rfl, hdirectory, hdirectory ▸ hshort ▸ hjoin hne⟩

end Stencil
