import Mathlib
import Stencil.FilePath

/-!
# Paths and their components

A path is a matter of its pieces between slashes. The first piece shows what the path starts
with: an empty one in front of another one stands for the root, and a `.` for the current
directory. Neither of them is a name, so the components behind the start are all pieces that
are not ignored. Seen this way the parts of a path are lists: the file name is the last
component, the directory has the others, and joining a name to a path adds a component.
Trimming the ignored pieces at the end, as the parts do it, takes no component away.

## Main definitions

* `Stencil.FilePath.start?`, `Stencil.FilePath.names`: what pieces start with, and those that
  count.
* `Stencil.FilePath.ofPieces`: the components of pieces.
* `Stencil.FilePath.IsName`: texts that stand for a name.

## Main results

* `components_eq`, `components_unpieces`: the components of a path are those of its pieces.
* `fileName?_eq_some_iff`: the file name is the last component.
* `components_directory`: the directory has all components but the last.
* `components_join`: a name below a path is one more component.
* `components_join_directory`: directory and file name make up the path.
* `cutExtension_cases`: where a file name is cut.
-/

namespace Stencil.FilePath

variable {p d n name piece : Text} {ps qs : List Text}

/-! ### Pieces -/

/-- The pieces of a path are what the library splits off at the slashes. -/
theorem pieces_eq_splitOn (p : Text) : pieces p = List.splitOn '/' p := by
  induction p with
  | nil => rfl
  | cons c rest ih =>
    obtain ⟨first, more, hsplit⟩ := List.exists_cons_of_ne_nil (List.splitOn_ne_nil '/' rest)
    by_cases hc : c = '/' <;>
      simp [pieces, List.splitOn_cons_eq_if_modifyHead, ih, hc, hsplit]

/-- Every path has a piece, even if it is empty. -/
theorem pieces_ne_nil (p : Text) : pieces p ≠ [] :=
  pieces_eq_splitOn p ▸ List.splitOn_ne_nil '/' p

/-- A slash separates the pieces of two paths. -/
theorem pieces_append_slash (s t : Text) : pieces (s ++ '/' :: t) = pieces s ++ pieces t := by
  simp only [pieces_eq_splitOn, List.splitOn_append_cons_self]

/-- A path without a slash is its only piece. -/
theorem pieces_of_not_mem (h : '/' ∉ p) : pieces p = [p] := by
  rw [pieces_eq_splitOn, List.splitOn_eq_singleton h]

/-- Pieces without a slash are read back. -/
theorem pieces_unpieces (hne : ps ≠ []) (h : ∀ piece ∈ ps, '/' ∉ piece) :
    pieces (unpieces ps) = ps := by
  rw [pieces_eq_splitOn, unpieces, List.splitOn_intercalate '/' h hne]

/-- Only the empty path has nothing but an empty piece. -/
theorem eq_nil_of_pieces (h : pieces p = [[]]) : p = [] := by
  have hunpieces : unpieces (pieces p) = p := by
    rw [pieces_eq_splitOn, unpieces, List.intercalate_splitOn]
  rw [← hunpieces, h]
  rfl

/-- A path that does not start with a slash starts with the characters of its first piece. -/
theorem pieces_cons {c : Char} (hc : c ≠ '/') (rest : Text) :
    ∃ first more, pieces (c :: rest) = (c :: first) :: more ∧ pieces rest = first :: more := by
  obtain ⟨first, more, hrest⟩ := List.exists_cons_of_ne_nil (pieces_ne_nil rest)
  exact ⟨first, more, by simp [pieces, hc, hrest], hrest⟩

/-- No piece has a slash. -/
theorem not_mem_of_mem_pieces (h : piece ∈ pieces p) : '/' ∉ piece := by
  induction p generalizing piece with
  | nil =>
    obtain rfl := List.mem_singleton.mp h
    exact List.not_mem_nil
  | cons c rest ih =>
    by_cases hc : c = '/'
    · rw [pieces, if_pos hc] at h
      rcases List.mem_cons.mp h with rfl | h
      · exact List.not_mem_nil
      · exact ih h
    · obtain ⟨first, more, hpieces, hrest⟩ := pieces_cons hc rest
      rw [hpieces] at h
      rw [hrest] at ih
      rcases List.mem_cons.mp h with rfl | h
      · rw [List.mem_cons, not_or]
        exact ⟨Ne.symm hc, ih List.mem_cons_self⟩
      · exact ih (List.mem_cons_of_mem first h)

/-! ### Components -/

/-- What pieces **start** with: an empty piece in front of another one is the root, and a `.`
the current directory. -/
def start? : List Text → Option Component
  | [] => none
  | first :: more =>
    if first = [] ∧ more ≠ [] then some .root
    else if first = ['.'] then some .current
    else none

/-- The pieces that are not ignored. -/
def names (ps : List Text) : List Text := ps.filter (!isIgnored ·)

/-- The **components** of pieces: what they start with and all that is not ignored. -/
def ofPieces (ps : List Text) : List Component :=
  (start? ps).toList ++ (names ps).map Component.ofPiece

/-- The names of two parts stand one behind the other. -/
theorem names_append (ps qs : List Text) : names (ps ++ qs) = names ps ++ names qs :=
  List.filter_append ..

/-- A piece that is not ignored is a name. -/
theorem names_singleton (h : isIgnored n = false) : names [n] = [n] := by
  simp [names, h]

/-- An ignored piece is no name. -/
theorem names_singleton_of_isIgnored (h : isIgnored piece = true) : names [piece] = [] := by
  simp [names, h]

/-- A name of a path has no slash and is not ignored. -/
theorem not_mem_of_mem_names (h : n ∈ names (pieces p)) : '/' ∉ n ∧ isIgnored n = false := by
  obtain ⟨hpiece, hname⟩ := List.mem_filter.mp h
  exact ⟨not_mem_of_mem_pieces hpiece, by simpa using hname⟩

/-- A path opens with the root, with the current directory or with nothing. -/
theorem opening_cases (p : Text) :
    (∃ rest, p = '/' :: rest ∧ opening p = (some .root, pieces rest)) ∨
    (∃ body, pieces p = ['.'] :: body ∧ isAbsolute p = false ∧
      opening p = (some .current, body)) ∨
    (start? (pieces p) = none ∧ opening p = (none, pieces p)) := by
  rcases p with _ | ⟨c, rest⟩
  · exact .inr (.inr ⟨rfl, rfl⟩)
  by_cases hc : c = '/'
  · subst hc
    exact .inl ⟨rest, rfl, rfl⟩
  obtain ⟨first, more, hpieces, -⟩ := pieces_cons hc rest
  have habsolute : isAbsolute (c :: rest) = false := by simp [isAbsolute, hc]
  rw [opening, hpieces]
  by_cases hdot : c :: first = ['.']
  · exact .inr (.inl ⟨more, by rw [hdot], habsolute, by simp [habsolute, hdot]⟩)
  · exact .inr (.inr ⟨by simp [start?, hdot], by simp [habsolute, hdot]⟩)

/-- A path opens with what its pieces start with, and no name is lost by that. -/
theorem opening_eq (p : Text) :
    (opening p).1 = start? (pieces p) ∧ names (opening p).2 = names (pieces p) := by
  rcases opening_cases p with ⟨rest, rfl, hopen⟩ | ⟨body, hpieces, -, hopen⟩ | ⟨hstart, hopen⟩
  · obtain ⟨first, more, hrest⟩ := List.exists_cons_of_ne_nil (pieces_ne_nil rest)
    rw [hopen, pieces, if_pos rfl, hrest]
    exact ⟨rfl, rfl⟩
  · rw [hopen, hpieces]
    exact ⟨rfl, rfl⟩
  · rw [hopen, hstart]
    exact ⟨rfl, rfl⟩

/-- Behind what a path opens with, its last pieces are left. -/
theorem opening_suffix (p : Text) : (opening p).2 <:+ pieces p := by
  rcases opening_cases p with ⟨rest, rfl, hopen⟩ | ⟨body, hpieces, -, hopen⟩ | ⟨-, hopen⟩
  · rw [hopen, pieces, if_pos rfl]
    exact List.suffix_cons ..
  · rw [hopen, hpieces]
    exact List.suffix_cons ..
  · rw [hopen]

/-- **The components of a path** are those of its pieces. -/
theorem components_eq (p : Text) : components p = ofPieces (pieces p) := by
  obtain ⟨hstart, hnames⟩ := opening_eq p
  rw [components, ofPieces, ← hstart, ← hnames]
  rfl

/-- Pieces without a slash have the components of the path that they make up. -/
theorem components_unpieces (h : ∀ piece ∈ ps, '/' ∉ piece) :
    components (unpieces ps) = ofPieces ps := by
  by_cases hne : ps = []
  · subst hne
    rfl
  · rw [components_eq, pieces_unpieces hne h]

/-! ### The root -/

/-- The pieces start with the root exactly if the path starts with a slash. -/
theorem start?_eq_root_iff (p : Text) :
    start? (pieces p) = some .root ↔ p.head? = some '/' := by
  rcases p with _ | ⟨c, rest⟩
  · simp [pieces, start?]
  by_cases hc : c = '/'
  · simp [pieces, hc, pieces_ne_nil, start?]
  · obtain ⟨first, more, hpieces, -⟩ := pieces_cons hc rest
    rw [hpieces, start?, if_neg (fun h => List.cons_ne_nil _ _ h.1)]
    split <;> simp [hc]

/-- No piece is read as the root; only its place makes it one. -/
theorem ofPiece_ne_root (piece : Text) : Component.ofPiece piece ≠ .root := by
  unfold Component.ofPiece
  split <;> simp

/-- **The root** of a path is the slash at its start. -/
theorem root_eq (p : Text) : root p = if p.head? = some '/' then ['/'] else [] := by
  have hnames : ((names (pieces p)).map Component.ofPiece).takeWhile (· = .root) = [] := by
    cases names (pieces p) with
    | nil => rfl
    | cons first more =>
      rw [List.map_cons, List.takeWhile_cons_of_neg (by simp [ofPiece_ne_root])]
  rw [root, components_eq, ofPieces]
  simp only [← start?_eq_root_iff]
  rcases start? (pieces p) with _ | start
  · rw [Option.toList_none, List.nil_append, hnames, if_neg (Option.some_ne_none _).symm]
    rfl
  simp only [Option.toList_some, List.singleton_append, Option.some.injEq]
  by_cases hroot : start = .root
  · rw [List.takeWhile_cons_of_pos (by simpa using hroot), hnames, if_pos hroot, hroot]
    rfl
  · rw [List.takeWhile_cons_of_neg (by simpa using hroot), if_neg hroot]
    rfl

/-! ### Trimmed pieces -/

/-- Trimming goes on past a last piece that is ignored, and stops at any other. -/
theorem trimPieces_concat (ps : List Text) (piece : Text) :
    trimPieces (ps ++ [piece]) = if isIgnored piece then trimPieces ps else ps ++ [piece] :=
  List.rdropWhile_concat isIgnored ps piece

/-- Trimming takes pieces from the end only. -/
theorem prefix_trimPieces (ps : List Text) : trimPieces ps <+: ps :=
  List.rdropWhile_prefix isIgnored ps

/-- Trimmed pieces are none if there is no name, and else they end with the last name. -/
theorem trimPieces_cases (ps : List Text) : (trimPieces ps = [] ∧ names ps = []) ∨
    ∃ front last, isIgnored last = false ∧ trimPieces ps = front ++ [last] ∧
      names ps = names front ++ [last] := by
  induction ps using List.reverseRecOn with
  | nil => exact .inl ⟨rfl, rfl⟩
  | append_singleton ps piece ih =>
    rw [trimPieces_concat, names_append]
    by_cases hpiece : isIgnored piece = true
    · rw [if_pos hpiece, names_singleton_of_isIgnored hpiece, List.append_nil]
      exact ih
    · have hname := Bool.eq_false_of_not_eq_true hpiece
      exact .inr ⟨ps, piece, hname, if_neg hpiece, by rw [names_singleton hname]⟩

/-- Trimming loses no name. -/
theorem names_trimPieces (ps : List Text) : names (trimPieces ps) = names ps := by
  rcases trimPieces_cases ps with ⟨htrim, hnames⟩ | ⟨front, last, hlast, htrim, hnames⟩
  · rw [htrim, hnames]
    rfl
  · rw [htrim, hnames, names_append, names_singleton hlast]

/-- **The last component** of a path is what the path starts with, or else the last piece that
is left when the pieces behind the start are trimmed. -/
theorem components_cases (p : Text) :
    (trimPieces (opening p).2 = [] ∧ components p = (start? (pieces p)).toList) ∨
    ∃ front last, trimPieces (opening p).2 = front ++ [last] ∧
      components p =
        (start? (pieces p)).toList ++ (names front).map Component.ofPiece ++
          [.ofPiece last] := by
  rw [components_eq, ofPieces, ← (opening_eq p).2]
  rcases trimPieces_cases (opening p).2 with ⟨htrim, hnames⟩ | ⟨front, last, -, htrim, hnames⟩
  · exact .inl ⟨htrim, by rw [hnames, List.map_nil, List.append_nil]⟩
  · refine .inr ⟨front, last, htrim, ?_⟩
    rw [hnames, List.map_append, List.append_assoc]
    rfl

/-! ### The file name -/

/-- What pieces start with is never a name. -/
theorem start?_ne_name (ps : List Text) (n : Text) : start? ps ≠ some (.name n) := by
  cases ps with
  | nil => simp [start?]
  | cons first more =>
    rw [start?]
    split
    · simp
    · split <;> simp

/-- A piece is read as its own name, unless it stands for the parent. -/
theorem ofPiece_eq_name_iff :
    Component.ofPiece piece = .name n ↔ piece ≠ ['.', '.'] ∧ piece = n := by
  unfold Component.ofPiece
  split <;> simp_all

/-- **The file name** of a path is its last component, if that is a name. -/
theorem fileName?_eq_some_iff :
    fileName? p = some n ↔ (components p).getLast? = some (.name n) := by
  rcases components_cases p with ⟨htrim, hcomponents⟩ | ⟨front, last, htrim, hcomponents⟩
  · have hne := start?_ne_name (pieces p) n
    rw [fileName?, htrim, hcomponents]
    cases hstart : start? (pieces p) <;> simp_all
  · rw [hcomponents, List.getLast?_concat, Option.some.injEq, ofPiece_eq_name_iff,
      fileName?, htrim, List.getLast?_concat]
    by_cases hparent : last = ['.', '.'] <;> simp [hparent]

/-- A text is a **name** if it stands between slashes for a component that is a name. -/
structure IsName (n : Text) : Prop where
  slash_not_mem : '/' ∉ n
  counts : isIgnored n = false
  ofPiece_eq : Component.ofPiece n = .name n

/-- The file name of a path is a name. -/
theorem isName_of_fileName? (h : fileName? p = some n) : IsName n := by
  have hmem := List.mem_of_getLast? (fileName?_eq_some_iff.mp h)
  rw [components_eq, ofPieces, List.mem_append] at hmem
  rcases hmem with hmem | hmem
  · exact absurd (Option.mem_toList.mp hmem) (start?_ne_name _ n)
  · obtain ⟨piece, hpiece, heq⟩ := List.mem_map.mp hmem
    obtain ⟨-, rfl⟩ := ofPiece_eq_name_iff.mp heq
    obtain ⟨hslash, hignored⟩ := not_mem_of_mem_names hpiece
    exact ⟨hslash, hignored, heq⟩

/-! ### The directory -/

/-- Fewer pieces start with nothing if all of them do. -/
theorem start?_of_prefix (h : qs <+: ps) (hps : start? ps = none) : start? qs = none := by
  obtain ⟨more, rfl⟩ := h
  cases qs with
  | nil => rfl
  | cons first qs =>
    rw [List.cons_append, start?] at hps
    rw [start?]
    split at hps <;> simp_all

/-- An empty piece in front of others is the root. -/
theorem ofPieces_root (h : ps ≠ []) :
    ofPieces ([] :: ps) = .root :: (names ps).map Component.ofPiece := by
  rw [ofPieces, start?, if_pos ⟨rfl, h⟩]
  rfl

/-- A `.` in front of others is the current directory. -/
theorem ofPieces_current (ps : List Text) :
    ofPieces (['.'] :: ps) = .current :: (names ps).map Component.ofPiece := rfl

/-- The text of a directory, which has no piece that is ignored at its end. -/
theorem directory_eq {front : List Text} {last : Text}
    (h : trimPieces (opening p).2 = front ++ [last]) : directory p =
      if (opening p).1 = none then unpieces (trimPieces front)
      else if isAbsolute p then
        if trimPieces front = [] then ['/'] else unpieces ([] :: trimPieces front)
      else unpieces (['.'] :: trimPieces front) := by
  rcases hopen : opening p with ⟨_ | start, body⟩ <;> rw [hopen] at h
  · simp [directory, hopen, h]
  · by_cases habsolute : isAbsolute p = true
    · simp [directory, hopen, h, habsolute]
    · by_cases hkept : trimPieces front = [] <;>
        simp [directory, hopen, h, habsolute, hkept, unpieces]

/-- **The directory** of a path has all components of the path but the last one. -/
theorem components_directory (p : Text) :
    components (directory p) = (components p).dropLast := by
  rcases components_cases p with ⟨htrim, hcomponents⟩ | ⟨front, last, htrim, hcomponents⟩
  · have hempty : directory p = [] := by
      simp only [directory, htrim]
      split <;> rfl
    rw [hempty, hcomponents]
    cases start? (pieces p) <;> rfl
  have hbelow : trimPieces front <+: (opening p).2 :=
    ((prefix_trimPieces front).trans (htrim ▸ List.prefix_append front [last])).trans
      (prefix_trimPieces _)
  have hslash : ∀ piece ∈ trimPieces front, '/' ∉ piece := fun piece h =>
    not_mem_of_mem_pieces ((opening_suffix p).subset (hbelow.subset h))
  rw [hcomponents, List.dropLast_concat, ← names_trimPieces front, ← (opening_eq p).1,
    directory_eq htrim]
  rcases opening_cases p with
    ⟨rest, rfl, hopen⟩ | ⟨body, -, habsolute, hopen⟩ | ⟨hstart, hopen⟩
  · rw [hopen, if_neg (Option.some_ne_none _),
      if_pos (show isAbsolute ('/' :: rest) = true from rfl)]
    by_cases hkept : trimPieces front = []
    · rw [if_pos hkept, hkept]
      rfl
    · rw [if_neg hkept, components_unpieces
        (List.forall_mem_cons.mpr ⟨List.not_mem_nil, hslash⟩),
        ofPieces_root hkept]
      rfl
  · rw [hopen, if_neg (Option.some_ne_none _), habsolute, if_neg Bool.false_ne_true,
      components_unpieces (List.forall_mem_cons.mpr ⟨by decide, hslash⟩), ofPieces_current]
    rfl
  · rw [hopen] at hbelow
    rw [hopen, if_pos rfl, components_unpieces hslash, ofPieces,
      start?_of_prefix hbelow hstart]

/-! ### Names below a path -/

/-- What pieces start with shows in all but the empty path before another piece is added. -/
theorem start?_append (hne : ps ≠ []) (hps : ps ≠ [[]]) (qs : List Text) :
    start? (ps ++ qs) = start? ps := by
  rcases ps with _ | ⟨first, _ | ⟨second, more⟩⟩
  · exact absurd rfl hne
  · have hfirst : first ≠ [] := fun h => hps (by rw [h])
    simp [start?, hfirst]
  · simp [start?]

/-- What is added behind some piece does not matter for the start. -/
theorem start?_concat (hne : ps ≠ []) (piece piece' : Text) :
    start? (ps ++ [piece]) = start? (ps ++ [piece']) := by
  by_cases hps : ps = [[]]
  · rw [hps]
    rfl
  · rw [start?_append hne hps, start?_append hne hps]

/-- A name behind pieces is one more component. -/
theorem ofPieces_concat (hname : isIgnored n = false) (h : start? (ps ++ [n]) = start? qs)
    (hnames : names ps = names qs) : ofPieces (ps ++ [n]) = ofPieces qs ++ [.ofPiece n] := by
  rw [ofPieces, ofPieces, h, names_append, names_singleton hname, List.map_append, hnames,
    List.append_assoc]
  rfl

/-- **A name below a path** is one more component. -/
theorem components_join (hn : IsName n) (d : Text) :
    components (join d n) = components d ++ [.name n] := by
  have hname := hn.counts
  have hpieces := pieces_of_not_mem hn.slash_not_mem
  rw [components_eq, components_eq, join, ← hn.ofPiece_eq]
  split
  · next hjoin =>
    rcases hjoin with rfl | hlast
    · have hdot : n ≠ ['.'] := by
        rintro rfl
        exact absurd hname (by decide)
      rw [List.nil_append, hpieces, ← List.nil_append [n]]
      refine ofPieces_concat hname ?_ rfl
      simp [start?, pieces, hdot]
    · -- The slash at the end of the path already separates the name.
      obtain ⟨d, rfl⟩ := List.getLast?_eq_some_iff.mp hlast
      rw [List.append_assoc, List.singleton_append, pieces_append_slash, pieces_append_slash,
        hpieces]
      refine ofPieces_concat hname (start?_concat (pieces_ne_nil d) _ _) ?_
      rw [names_append]
      exact (List.append_nil _).symm
  · next hjoin =>
    have hne : pieces d ≠ [[]] := fun h => hjoin (.inl (eq_nil_of_pieces h))
    rw [pieces_append_slash, hpieces]
    exact ofPieces_concat hname (start?_append (pieces_ne_nil d) hne _) rfl

/-- **Directory and file name** of a path make up the path. -/
theorem components_join_directory (h : fileName? p = some n) :
    components (join (directory p) n) = components p := by
  have hlast := fileName?_eq_some_iff.mp h
  rw [components_join (isName_of_fileName? h), components_directory,
    List.dropLast_append_getLast? _ hlast]

/-! ### The extension -/

/-- **A file name is cut** at its last point, unless that is its first character. -/
theorem cutExtension_cases (name : Text) :
    ('.' ∉ name.tail ∧ cutExtension name = (name, none)) ∨
    ∃ base extension, base ≠ [] ∧ '.' ∉ extension ∧ name = base ++ '.' :: extension ∧
      cutExtension name = (base, some extension) := by
  rcases hcut : Text.cutAt '.' name.reverse with _ | ⟨after, before⟩
  · have hmem := Text.cutAt_eq_none_iff.mp hcut
    rw [List.mem_reverse] at hmem
    exact .inl ⟨fun h => hmem (List.mem_of_mem_tail h), by rw [cutExtension, hcut]⟩
  · obtain ⟨hreverse, hafter⟩ := Text.cutAt_eq_some hcut
    obtain rfl : name = before.reverse ++ '.' :: after.reverse := by
      rw [← List.reverse_reverse name, hreverse]
      simp
    by_cases hbefore : before = []
    · subst hbefore
      exact .inl ⟨by simpa using hafter, by rw [cutExtension, hcut]; rfl⟩
    · refine .inr ⟨before.reverse, after.reverse, by simpa using hbefore,
        by simpa using hafter, rfl, ?_⟩
      rw [cutExtension, hcut]
      exact if_neg hbefore

end Stencil.FilePath
