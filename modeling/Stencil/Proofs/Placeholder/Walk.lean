import Mathlib
import Stencil.Proofs.Placeholder.Cursor
import Stencil.Proofs.Placeholder.Tokens

/-!
# The walk finds what a scan of all bytes finds

The naive way to find the tokens of a family is to try its cursor at every byte, from left to
right, and to go on behind each match. The walk looks at anchors only: a placeholder starts at
an anchor of its family, and the anchors inside a match lie in front of the byte at which the
walk resumes. So both find the same tokens, and the scan of characters finds them too.

## Main definitions

* `Stencil.Token.NaiveScan`: the tokens found when every byte is tried.
* `Stencil.Mark.anchorsFrom`: the anchors of the end of a text.

## Main results

* `NaiveScan.unique`: trying every byte has one result.
* `naiveScan_scan`: the scan of characters has that result.
* `walkFrom_anchors`: the walk finds what the scan of characters finds.
* `walk_eq_naiveScan`: the walk is the leftmost scan, and all its tokens stand in their places.
-/

namespace Stencil

open Placeholder Text

variable {family : Family} {t rest before skipped raw : Text} {c : Char}
  {pos stop offset : Nat} {tokens tokens' : List Token} {placeholder : Placeholder}

/-! ### Trying every byte -/

namespace Token

/-- **The naive scan** of a text for the tokens of a family tries the cursor at every byte from
`pos` on. Where it finds nothing the next byte is tried; behind a match the scan resumes. -/
inductive NaiveScan (family : Family) (t : Text) : Nat → List Token → Prop
  /-- All bytes are tried. -/
  | done {pos : Nat} : t.utf8Size ≤ pos → NaiveScan family t pos []
  /-- Nothing is found at a byte. -/
  | skip {pos : Nat} {tokens : List Token} : pos < t.utf8Size →
      Cursor.read family (.ofText t) pos = .ok none → NaiveScan family t (pos + 1) tokens →
      NaiveScan family t pos tokens
  /-- A placeholder is found, up to a byte. -/
  | take {pos stop : Nat} {placeholder : Placeholder} {raw : Text} {tokens : List Token} :
      Cursor.read family (.ofText t) pos = .ok (some (placeholder, stop)) →
      t.slice? pos stop = some raw → NaiveScan family t stop tokens →
      NaiveScan family t pos (⟨placeholder, raw, pos⟩ :: tokens)

/-- Behind the end of a text no cursor finds anything. -/
theorem read_of_size_le (h : t.utf8Size ≤ pos) (family : Family) :
    Cursor.read family (.ofText t) pos = .ok none := by
  refine Cursor.read_of_tail (fun b hb => ?_) family
  rw [Source.ofText, List.getElem?_eq_none (by rwa [Utf8.length_encode])] at hb
  simp at hb

/-- The naive scan has one result at most. -/
theorem NaiveScan.unique (h : NaiveScan family t pos tokens)
    (h' : NaiveScan family t pos tokens') : tokens = tokens' := by
  induction h generalizing tokens' with
  | done hle =>
    cases h' with
    | done => rfl
    | skip hlt => omega
    | take hread => rw [read_of_size_le hle] at hread; exact nomatch hread
  | skip hlt hread _ ih =>
    cases h' with
    | done => omega
    | skip _ _ hrest => exact ih hrest
    | take hread' => rw [hread] at hread'; exact nomatch hread'
  | take hread hraw _ ih =>
    cases h' with
    | done hle => rw [read_of_size_le hle] at hread; exact nomatch hread
    | skip _ hread' => rw [hread] at hread'; exact nomatch hread'
    | take hread' hraw' hrest =>
      rw [hread] at hread'
      obtain ⟨rfl, rfl⟩ := Prod.mk.inj (Option.some.inj (Except.ok.inj hread'))
      rw [hraw] at hraw'
      rw [Option.some.inj hraw', ih hrest]

/-- Bytes at which nothing is found can be passed over together. -/
theorem NaiveScan.skip_to (hle : pos ≤ stop) (hstop : stop ≤ t.utf8Size)
    (hread : ∀ q, pos ≤ q → q < stop → Cursor.read family (.ofText t) q = .ok none)
    (h : NaiveScan family t stop tokens) : NaiveScan family t pos tokens := by
  induction hle using Nat.decreasingInduction with
  | self => exact h
  | of_succ q hlt ih =>
    exact .skip (by omega) (hread q le_rfl hlt) (ih fun p hp => hread p (by omega))

/-- The scan of characters finds what the naive scan finds from the same place on. -/
theorem naiveScan_scan (family : Family) (offset : Nat) (t : Text) :
    ∀ before : Text, before.utf8Size = offset →
      NaiveScan family (before ++ t) offset (scan family offset t) := by
  fun_induction scan family offset t with
  | case1 offset =>
    intro before hsize
    exact .done (by rw [List.append_nil, hsize])
  | case2 offset c rest hread ih =>
    rintro before rfl
    have hrest := ih (before ++ [c]) (by rw [utf8Size_append, utf8Size_cons]; rfl)
    rw [List.append_assoc, List.singleton_append] at hrest
    refine hrest.skip_to (by omega) (by rw [utf8Size_append, utf8Size_cons]; omega) ?_
    -- The other bytes of a character are no ASCII, so no cursor finds anything there.
    intro q hle hlt
    rcases hle.eq_or_lt with rfl | hinside
    · exact (Cursor.follows_read family).absent before (c :: rest) hread
    · exact Cursor.read_of_tail (Utf8.tail_of_inside hinside hlt) family
  | case3 offset c rest placeholder after hread raw ih =>
    rintro before rfl
    obtain ⟨raw', hraw'⟩ := exists_append_of_read? hread
    have hraw : raw = raw' := by simp [raw, hraw']
    have hrest := ih (before ++ raw) (utf8Size_append ..)
    rw [List.append_assoc] at hrest
    rw [hraw', ← hraw] at hread ⊢
    exact .take (Cursor.read_eq_some_iff.mpr ⟨before, raw, after, rfl, rfl, utf8Size_append ..,
      hread⟩) (slice?_eq_some_iff.mpr ⟨before, after, rfl, rfl, utf8Size_append ..⟩) hrest

end Token

/-! ### Anchors -/

namespace Mark

/-- The anchors of a text that starts at byte `offset`. -/
def anchorsFrom (offset : Nat) (t : Text) : List (Mark × Nat) :=
  (ofText offset t).filter fun mark => mark.1 ≠ text

@[simp] theorem anchorsFrom_nil (offset : Nat) : anchorsFrom offset [] = [] := by
  rw [anchorsFrom, ofText, List.filter_nil]

/-- A run of other characters is one mark and no anchor. -/
theorem anchorsFrom_run (h : ofChar c = text) (offset : Nat) (t : Text) :
    anchorsFrom offset (c :: t) =
      anchorsFrom (offset + c.utf8Size + Text.utf8Size (t.takeWhile (ofChar · == text)))
        (t.dropWhile (ofChar · == text)) := by
  rw [anchorsFrom, ofText, h]
  exact List.filter_cons_of_neg (by simp)

/-- A character is an anchor or none, whatever stands behind it. -/
theorem anchorsFrom_cons (offset : Nat) (c : Char) (t : Text) : anchorsFrom offset (c :: t) =
    if ofChar c = text then anchorsFrom (offset + c.utf8Size) t
    else (ofChar c, offset) :: anchorsFrom (offset + c.utf8Size) t := by
  split
  · next hc =>
    rw [anchorsFrom_run hc]
    cases t with
    | nil => rfl
    | cons d t =>
      by_cases hd : ofChar d = text
      · rw [anchorsFrom_run hd, List.takeWhile_cons_of_pos (by simp [hd]),
          List.dropWhile_cons_of_pos (by simp [hd]), utf8Size_cons, Nat.add_assoc,
          Nat.add_assoc, Nat.add_assoc]
      · rw [List.takeWhile_cons_of_neg (by simp [hd]),
          List.dropWhile_cons_of_neg (by simp [hd])]
        rfl
  · next hc =>
    rw [anchorsFrom, ofText]
    cases hmark : ofChar c with
    | text => exact absurd hmark hc
    | brace => exact List.filter_cons_of_pos (by simp)
    | hash => exact List.filter_cons_of_pos (by simp)

/-- A run of text opens no token of any family. -/
theorem opens_text (family : Family) : text.opens family = false := by
  cases family <;> rfl

/-- A placeholder starts at an anchor of its family. -/
theorem opens_of_read? (h : read? family (c :: t) = some (placeholder, rest)) :
    (ofChar c).opens family = true := by
  have hbrace : family ≠ .hex → c = '{' := fun hfamily => by
    by_contra hc
    rw [read?_eq_none_of_ne hfamily hc] at h
    exact nomatch h
  cases family with
  | named =>
    rw [hbrace (by decide)]
    rfl
  | indexed =>
    rw [hbrace (by decide)]
    rfl
  | hex =>
    by_cases hc : c = '#'
    · rw [hc]
      rfl
    · simp [read?, hex?, hc] at h

end Mark

/-! ### The walk -/

namespace Token

/-- Anchors in front of the byte at which a walk resumes are passed over. -/
theorem walkFrom_resume (source : Source) (family : Family) (offset : Nat) (skipped t : Text) :
    walkFrom source family (Mark.anchorsFrom offset (skipped ++ t))
        (offset + skipped.utf8Size) =
      walkFrom source family (Mark.anchorsFrom (offset + skipped.utf8Size) t)
        (offset + skipped.utf8Size) := by
  induction skipped generalizing offset with
  | nil => rfl
  | cons c skipped ih =>
    have hpos := c.utf8Size_pos
    have hrest := ih (offset + c.utf8Size)
    rw [Nat.add_assoc, ← utf8Size_cons] at hrest
    rw [List.cons_append, Mark.anchorsFrom_cons]
    split
    · exact hrest
    · rw [walkFrom, if_pos (Or.inl (by rw [utf8Size_cons]; omega)), hrest]

/-- A walk takes the placeholder at an anchor and resumes behind it. -/
theorem walkFrom_take {mark : Mark} {anchors : List (Mark × Nat)} {resume : Nat}
    (hresume : resume ≤ before.utf8Size) (hopens : mark.opens family = true)
    (hread : read? family (raw ++ rest) = some (placeholder, rest))
    (hrest : walkFrom (.ofText (before ++ (raw ++ rest))) family anchors
      (before ++ raw).utf8Size = .ok tokens) :
    walkFrom (.ofText (before ++ (raw ++ rest))) family
      ((mark, before.utf8Size) :: anchors) resume =
      .ok (⟨placeholder, raw, before.utf8Size⟩ :: tokens) := by
  have hrun := Cursor.read_eq_some_iff.mpr ⟨before, raw, rest, rfl, rfl, rfl, hread⟩
  have hslice : slice? before.utf8Size (before ++ raw).utf8Size (before ++ (raw ++ rest)) =
      some raw := slice?_eq_some_iff.mpr ⟨before, rest, rfl, rfl, rfl⟩
  have hpass : ¬ (before.utf8Size < resume ∨ mark.opens family = false) := by
    rw [hopens]
    rintro (hlt | hfalse)
    · omega
    · exact nomatch hfalse
  rw [walkFrom, if_neg hpass, hrun]
  simp only [bind, Except.bind, Source.slice, Source.ofText, hslice]
  rw [Source.ofText] at hrest
  rw [hrest]
  rfl

/-- **The walk finds what the scan of characters finds**, from a place on where it does not
resume later. -/
theorem walkFrom_anchors (family : Family) (offset : Nat) (t : Text) :
    ∀ (before : Text) (resume : Nat), before.utf8Size = offset → resume ≤ offset →
      walkFrom (.ofText (before ++ t)) family (Mark.anchorsFrom offset t) resume =
        .ok (scan family offset t) := by
  fun_induction scan family offset t with
  | case1 offset =>
    intro before resume hsize hresume
    rw [Mark.anchorsFrom_nil, walkFrom]
  | case2 offset c rest hread ih =>
    rintro before resume rfl hresume
    have hrest :=
      ih (before ++ [c]) resume (by rw [utf8Size_append, utf8Size_cons]; rfl) (by omega)
    rw [List.append_assoc, List.singleton_append] at hrest
    rw [Mark.anchorsFrom_cons]
    split
    · exact hrest
    · rw [walkFrom]
      split
      · exact hrest
      · rw [(Cursor.follows_read family).absent before (c :: rest) hread]
        exact hrest
  | case3 offset c rest placeholder after hread raw ih =>
    rintro before resume rfl hresume
    obtain ⟨skipped, hskipped⟩ := read?_suffix hread
    obtain rfl : skipped ++ after = rest := hskipped
    have hcons : c :: (skipped ++ after) = c :: skipped ++ after := rfl
    have hraw : raw = c :: skipped := by
      simp only [raw, hcons, List.length_append, Nat.add_sub_cancel, List.take_left]
    have hopens := Mark.opens_of_read? hread
    have hanchor : Mark.ofChar c ≠ .text := fun htext => by
      rw [htext, Mark.opens_text] at hopens
      exact Bool.false_ne_true hopens
    -- The anchors inside the match lie in front of the byte at which the walk resumes.
    have hrest := ih (before ++ raw) (before ++ raw).utf8Size (utf8Size_append ..)
      (utf8Size_append ..).le
    have hresume' := walkFrom_resume (.ofText (before ++ (raw ++ after))) family
      (before.utf8Size + c.utf8Size) skipped after
    rw [Nat.add_assoc, ← utf8Size_cons, ← hraw, ← utf8Size_append] at hresume'
    rw [← utf8Size_append, List.append_assoc] at hrest
    rw [← hresume'] at hrest
    rw [Mark.anchorsFrom_cons, if_neg hanchor, hcons, ← hraw]
    rw [hcons, ← hraw] at hread
    rw [walkFrom_take hresume hopens hread hrest, utf8Size_append]

/-! ### Spans -/

/-- **The walk is the leftmost scan of all bytes.** It gives the tokens that are found when
every byte is tried, and no others. They stand one behind the other, none of them is empty,
each starts and ends with a character, and its text is the slice it covers. No attempt at any
byte takes a bad slice. -/
theorem walk_eq_naiveScan (family : Family) (t : Text) :
    walk family t = .ok (ofFamily family t) ∧
    (∀ tokens, NaiveScan family t 0 tokens ↔ walk family t = .ok tokens) ∧
    (ofFamily family t).Pairwise (fun a b => a.offset < b.offset ∧ a.stop ≤ b.offset) ∧
    (∀ token ∈ ofFamily family t, token.offset < token.stop ∧ token.stop ≤ t.utf8Size ∧
      (∃ before after, t = before ++ (token.raw ++ after) ∧ before.utf8Size = token.offset ∧
        (before ++ token.raw).utf8Size = token.stop) ∧
      t.slice? token.offset token.stop = some token.raw) ∧
    ∀ pos, ∃ found, Cursor.read family (.ofText t) pos = .ok found := by
  have hwalk : walk family t = .ok (ofFamily family t) :=
    walkFrom_anchors family 0 t [] 0 rfl le_rfl
  have hlocated : Located 0 t (ofFamily family t) := located_scan family 0 t
  refine ⟨hwalk, fun tokens => ⟨fun h => ?_, fun h => ?_⟩, ?_, fun token hmem => ?_,
    Cursor.exists_read_eq_ok family t⟩
  · rw [hwalk, h.unique (naiveScan_scan family 0 t [] rfl)]
    rfl
  · obtain rfl := Except.ok.inj (hwalk.symm.trans h)
    exact naiveScan_scan family 0 t [] rfl
  · refine hlocated.pairwise.imp_of_mem fun {a b} ha _ hle => ⟨?_, hle⟩
    exact (offset_lt_stop_of_mem_scan ha).trans_le hle
  · obtain ⟨before, after, ht, hsize⟩ := hlocated.exists_append hmem
    rw [Nat.zero_add] at hsize
    have hstop : (before ++ token.raw).utf8Size = token.stop := by
      rw [utf8Size_append, hsize, stop]
    refine ⟨offset_lt_stop_of_mem_scan hmem, ?_, ⟨before, after, ht, hsize, hstop⟩,
      slice?_eq_some_iff.mpr ⟨before, after, ht, hsize, hstop⟩⟩
    rw [ht, utf8Size_append, utf8Size_append, stop, hsize]
    omega

end Token

end Stencil
