import Mathlib
import Stencil.Proofs.Placeholder.Forms
import Stencil.Proofs.Text.Bytes

/-!
# Cursors follow the readers

A cursor looks at the bytes of a template, the readers of the grammar at the text that is left.
Where the cursor stands at the start of a character, both find the same: this is shown for each
part of a placeholder and put together for the three families. The slices that a cursor takes
lie between such places, so none of them is a fault. Where the cursor stands inside a character
or behind the end it finds nothing.

## Main definitions

* `Stencil.Cursor.Follows`: a cursor finds what a reader finds.
* `Stencil.Cursor.WrittenAt`: a placeholder is written at a byte of a text.

## Main results

* `follows_read`: the cursor of a family follows its reader.
* `read_of_tail`: the cursor of a family finds nothing at a byte that is no ASCII.
* `exists_read_eq_ok`: it never takes a bad slice.
* `read_iff_written`: it succeeds exactly where a placeholder of the family is written.
-/

namespace Stencil.Cursor

open Text Placeholder

variable {α β : Type} {c : Char} {p : Char → Bool} {s t rest before : Text} {source : Source}
  {pos : Nat} {m : Cursor α} {f : α → Cursor β} {yes no : Cursor β}
  {r : Text → Option (α × Text)} {g : α → Text → Option (β × Text)}
  {ryes rno : Text → Option (β × Text)}

/-! ### Runs of a cursor -/

/-- A step that finds nothing ends a run of the cursor. -/
theorem bind_of_none (h : m source pos = .ok none) : (m >>= f) source pos = .ok none := by
  change Cursor.bind m f source pos = _
  rw [Cursor.bind, h]

/-- A step that finds something hands it to the next one, with the place behind it. -/
theorem bind_of_some {a : α} {next : Nat} (h : m source pos = .ok (some (a, next))) :
    (m >>= f) source pos = f a source next := by
  change Cursor.bind m f source pos = _
  rw [Cursor.bind, h]

/-- The bytes at the start of a character are those of the text that is left. -/
theorem drop_bytes (before t : Text) :
    (Source.ofText (before ++ t)).bytes.drop before.utf8Size = Utf8.encode t := by
  rw [Source.ofText, Utf8.encode_append, ← Utf8.length_encode before, List.drop_left]

/-- The byte at the end of a part of a text is the first one of what stands behind it. -/
theorem getElem?_bytes (before t : Text) :
    (Source.ofText (before ++ t)).bytes[before.utf8Size]? = (Utf8.encode t).head? := by
  rw [← drop_bytes before t, List.head?_drop]

/-- The slice between two places is the text between them. -/
theorem slice_append (before s rest : Text) (pos : Nat) :
    slice before.utf8Size (before ++ s).utf8Size (.ofText (before ++ (s ++ rest))) pos =
      .ok (some (s, pos)) := by
  have h : slice? before.utf8Size (before ++ s).utf8Size (before ++ (s ++ rest)) = some s :=
    slice?_eq_some_iff.mpr ⟨before, rest, rfl, rfl, rfl⟩
  simp only [slice, Source.slice, Source.ofText, h]
  rfl

/-- Eating a byte never fails, and moves on only over that byte. -/
theorem eat_eq (b : UInt8) : eat b source pos =
    .ok (some (if source.bytes[pos]? = some b then (true, pos + 1) else (false, pos))) := by
  rw [eat, bind_of_some rfl]
  split <;> rfl

/-! ### Cursors and readers -/

/-- **A cursor follows a reader**: at the start of a character it finds what the reader finds
in the text that is left, and steps over what the reader consumes. -/
structure Follows (m : Cursor α) (r : Text → Option (α × Text)) : Prop where
  absent : ∀ before t, r t = none → m (.ofText (before ++ t)) before.utf8Size = .ok none
  found : ∀ before t a rest, r t = some (a, rest) → ∃ raw, t = raw ++ rest ∧
    m (.ofText (before ++ t)) before.utf8Size = .ok (some (a, (before ++ raw).utf8Size))

/-- A cursor follows every reader that reads the same. -/
theorem Follows.congr {r' : Text → Option (α × Text)} (h : Follows m r)
    (heq : ∀ t, r' t = r t) : Follows m r' :=
  funext heq ▸ h

/-- A result without a step is read off nothing. -/
theorem follows_pure (a : α) : Follows (pure a) fun t => some (a, t) where
  absent _ _ h := nomatch h
  found _ _ _ _ h := by
    obtain ⟨rfl, rfl⟩ := Prod.mk.inj (Option.some.inj h)
    exact ⟨[], rfl, by rw [List.append_nil]; rfl⟩

/-- A cursor that finds nothing follows the reader that reads nothing. -/
theorem follows_nothing : Follows (nothing : Cursor α) fun _ => none where
  absent _ _ _ := rfl
  found _ _ _ _ h := nomatch h

/-- An optional result is read off nothing, if there is one. -/
theorem follows_ofOption (o : Option α) : Follows (ofOption o) fun t => o.map (·, t) := by
  cases o with
  | none => exact follows_nothing
  | some a => exact follows_pure a

/-- What is read first and what is read then may be followed one after the other. -/
theorem Follows.bind (hm : Follows m r) (hf : ∀ a, Follows (f a) (g a)) :
    Follows (m >>= f) fun t => (r t).bind fun (a, rest) => g a rest where
  absent before t h := by
    rcases hr : r t with _ | ⟨a, rest⟩
    · exact bind_of_none (hm.absent before t hr)
    · obtain ⟨raw, rfl, hrun⟩ := hm.found before t a rest hr
      simp only [hr, Option.bind_some] at h
      rw [bind_of_some hrun, ← List.append_assoc]
      exact (hf a).absent (before ++ raw) rest h
  found before t b rest h := by
    obtain ⟨⟨a, middle⟩, hr, hg⟩ := Option.bind_eq_some_iff.mp h
    obtain ⟨raw, rfl, hrun⟩ := hm.found before t a middle hr
    obtain ⟨raw', rfl, hrun'⟩ := (hf a).found (before ++ raw) middle b rest hg
    refine ⟨raw ++ raw', (List.append_assoc ..).symm, ?_⟩
    rw [bind_of_some hrun, ← List.append_assoc, hrun', List.append_assoc]

/-- A choice is followed if both its sides are. -/
theorem Follows.ite {P : Prop} [Decidable P] (hyes : Follows yes ryes) (hno : Follows no rno) :
    Follows (if P then yes else no) fun t => if P then ryes t else rno t := by
  split
  · exact hyes
  · exact hno

/-- Stepping over an ASCII character. -/
theorem follows_eat (hc : c.toNat < 0x80) : Follows (eat (byte c)) fun t =>
    if t.head? = some c then some (true, t.tail) else some (false, t) where
  absent _ _ h := by split at h <;> exact nomatch h
  found before t b rest h := by
    rw [eat_eq, getElem?_bytes]
    split at h
    · next hhead =>
      obtain ⟨rfl, rfl⟩ := Prod.mk.inj (Option.some.inj h)
      obtain ⟨tail, rfl⟩ := List.head?_eq_some_iff.mp hhead
      refine ⟨[c], rfl, ?_⟩
      rw [if_pos ((Utf8.head?_encode_eq_byte hc).mpr hhead), utf8Size_append, utf8Size_cons,
        utf8Size_of_lt hc, utf8Size_nil]
    · next hhead =>
      obtain ⟨rfl, rfl⟩ := Prod.mk.inj (Option.some.inj h)
      exact ⟨[], rfl, by rw [if_neg (mt (Utf8.head?_encode_eq_byte hc).mp hhead),
        List.append_nil]⟩

/-- Looking at the first character without stepping over it. -/
theorem follows_peek (hp : IsAscii p) (hyes : Follows yes ryes) (hno : Follows no rno) :
    Follows (do if (← peek).any (isByte p) then yes else no)
      fun t => if t.head?.any p = true then ryes t else rno t := by
  have hrun : ∀ before t, (do if (← peek).any (isByte p) then yes else no : Cursor β)
      (.ofText (before ++ t)) before.utf8Size =
        (if t.head?.any p = true then yes else no)
          (.ofText (before ++ t)) before.utf8Size := by
    intro before t
    rw [bind_of_some rfl, getElem?_bytes, Utf8.any_head?_encode hp]
  constructor
  · intro before t h
    rw [hrun]
    split at h
    · next hhead => rw [if_pos hhead]; exact hyes.absent before t h
    · next hhead => rw [if_neg hhead]; exact hno.absent before t h
  · intro before t a rest h
    rw [hrun]
    split at h
    · next hhead => rw [if_pos hhead]; exact hyes.found before t a rest h
    · next hhead => rw [if_neg hhead]; exact hno.found before t a rest h

/-- What a computation steps over is what its reader consumes. -/
theorem Follows.textOf {m : Cursor Unit} {r : Text → Option (Unit × Text)} (h : Follows m r)
    (part : Text → Text) (hpart : ∀ t rest, r t = some ((), rest) → t = part t ++ rest) :
    Follows (textOf m) fun t => (r t).map fun (_, rest) => (part t, rest) where
  absent before t hr := by
    have habsent := h.absent before t (Option.map_eq_none_iff.mp hr)
    rw [Cursor.textOf, bind_of_some rfl, bind_of_none habsent]
  found before t a rest hr := by
    obtain ⟨⟨_, after⟩, hafter, heq⟩ := Option.map_eq_some_iff.mp hr
    obtain ⟨rfl, rfl⟩ := Prod.mk.inj heq
    obtain ⟨raw, ht, hrun⟩ := h.found before t () after hafter
    obtain rfl : part t = raw :=
      List.append_cancel_right ((hpart t after hafter).symm.trans ht)
    refine ⟨part t, ht, ?_⟩
    have hslice := slice_append before (part t) after (before ++ part t).utf8Size
    rw [← ht] at hslice
    rw [Cursor.textOf, bind_of_some rfl, bind_of_some hrun, bind_of_some rfl, hslice]

/-- Skipping bytes of ASCII characters drops these characters. -/
theorem follows_skipWhile (hp : IsAscii p) :
    Follows (skipWhile (isByte p)) fun t => some ((), t.dropWhile p) where
  absent _ _ h := nomatch h
  found before t _ rest h := by
    obtain ⟨-, rfl⟩ := Prod.mk.inj (Option.some.inj h)
    refine ⟨t.takeWhile p, List.takeWhile_append_dropWhile.symm, ?_⟩
    rw [skipWhile, drop_bytes, Utf8.takeWhile_encode hp, Utf8.length_encode, utf8Size_append]

/-- Taking bytes of ASCII characters takes these characters, up to the same place. -/
theorem follows_takeWhile (hp : IsAscii p) :
    Follows (takeWhile (isByte p)) fun t => some (t.takeWhile p, t.dropWhile p) := by
  refine (follows_skipWhile hp).textOf (List.takeWhile p) fun t rest h => ?_
  obtain ⟨-, rfl⟩ := Prod.mk.inj (Option.some.inj h)
  exact List.takeWhile_append_dropWhile.symm

/-! ### Parts of a brace token -/

/-- The cursor reads a binding as the reader does. -/
theorem follows_binding : Follows binding binding? := by
  refine ((follows_eat (c := '-') (by decide)).bind fun b => Follows.ite (P := b = true)
    ((follows_takeWhile isAscii_isDigit).bind fun digits => Follows.ite (P := digits = [])
      follows_nothing (follows_pure _)) (follows_pure none)).congr fun t => ?_
  rcases t with _ | ⟨c, t⟩
  · rfl
  · by_cases hc : c = '-'
    · subst hc
      rfl
    · simp [binding?, hc]

/-- The text of a width: digits behind an optional minus sign. -/
def numeral (t : Text) : Text :=
  if t.head? = some '-' then '-' :: leadingDigits t.tail else leadingDigits t

/-- The cursor takes a sign and digits, which is the text that the reader makes a number of. -/
theorem follows_numeral : Follows (textOf do
      let _ ← eat (byte '-')
      let _ ← takeWhile (isByte Char.isDigit))
    fun t => some (numeral t, afterDigits (if t.head? = some '-' then t.tail else t)) := by
  refine (((follows_eat (c := '-') (by decide)).bind fun _ =>
    (follows_takeWhile isAscii_isDigit).bind fun _ => follows_pure ()).textOf numeral
      fun t rest h => ?_).congr fun t => ?_
  · rw [numeral]
    split at h
    · next hhead =>
      obtain ⟨tail, rfl⟩ := List.head?_eq_some_iff.mp hhead
      obtain ⟨-, rfl⟩ := Prod.mk.inj (Option.some.inj h)
      rw [if_pos hhead]
      exact congrArg ('-' :: ·) List.takeWhile_append_dropWhile.symm
    · next hhead =>
      obtain ⟨-, rfl⟩ := Prod.mk.inj (Option.some.inj h)
      rw [if_neg hhead]
      exact List.takeWhile_append_dropWhile.symm
  · split <;> rfl

/-- Leading digits without a sign are read as a natural number. -/
theorem integer?_leadingDigits (t : Text) : Numeral.integer? (leadingDigits t) =
    (Numeral.natural? (leadingDigits t)).map fun n => (n : Int) := by
  have hdigit : ∀ c ∈ leadingDigits t, c.isDigit = true := fun _ => List.mem_takeWhile_imp
  rw [Numeral.integer?]
  · intro digits h
    exact absurd (hdigit '-' (h ▸ List.mem_cons_self)) (by decide)
  · intro digits h
    exact absurd (hdigit '+' (h ▸ List.mem_cons_self)) (by decide)

/-- The reader of the width reads the text of a width as an integer. -/
theorem width_comma_eq (t : Text) : Placeholder.width (',' :: t) =
    ((Numeral.integer? (numeral t)).bind (Numeral.signedWord? 32),
      afterDigits (if t.head? = some '-' then t.tail else t)) := by
  by_cases hminus : t.head? = some '-'
  · obtain ⟨tail, rfl⟩ := List.head?_eq_some_iff.mp hminus
    rw [Placeholder.width, numeral, if_pos hminus, if_pos hminus, Numeral.integer?,
      List.tail_cons]
    cases Numeral.natural? (leadingDigits tail) <;> rfl
  · have hne : ∀ tail, t ≠ '-' :: tail := by
      rintro tail rfl
      exact hminus rfl
    rw [Placeholder.width, numeral, if_neg hminus, if_neg hminus, integer?_leadingDigits]
    · cases Numeral.natural? (leadingDigits t) <;> rfl
    · exact hne

/-- The cursor reads a width as the reader does. -/
theorem follows_width : Follows width fun t => some (Placeholder.width t) := by
  refine ((follows_eat (c := ',') (by decide)).bind fun b => Follows.ite (P := b = true)
    (follows_numeral.bind fun numeral => follows_pure _) (follows_pure none)).congr fun t => ?_
  rcases t with _ | ⟨c, t⟩
  · rfl
  by_cases hc : c = ','
  · subst hc
    rw [width_comma_eq]
    rfl
  · simp [Placeholder.width, hc]

/-- The cursor reads a limit as the reader does. -/
theorem follows_limit : Follows limit fun t => some (Placeholder.limit t) := by
  refine ((follows_eat (c := ',') (by decide)).bind fun b => Follows.ite (P := b = true)
    ((follows_takeWhile isAscii_isDigit).bind fun digits => follows_pure _)
    (follows_pure none)).congr fun t => ?_
  rcases t with _ | ⟨c, t⟩
  · rfl
  · by_cases hc : c = ','
    · subst hc
      rfl
    · simp [Placeholder.limit, hc]

/-- The format in front of the closing brace, which is left. -/
def format? : Text → Option (Option Text × Text)
  | ':' :: rest =>
    match cutAt '}' rest with
    | some (c :: format, after) => some (some (c :: format), '}' :: after)
    | _ => none
  | t => some (none, t)

/-- The search for the end of a format stops at the first `}`, and finds nothing if no
character is in front of it. -/
theorem untilBrace_eq (before t : Text) (pos : Nat) :
    untilBrace before.utf8Size (.ofText (before ++ t)) pos =
      match cutAt '}' t with
      | some (c :: format, _) =>
        .ok (some (c :: format, (before ++ (c :: format : Text)).utf8Size))
      | _ => .ok none := by
  have hle : before.utf8Size ≤ (Source.ofText (before ++ t)).bytes.length := by
    rw [Source.ofText, Utf8.length_encode, utf8Size_append]
    omega
  have hdistance : distance? (byte '}') before.utf8Size (.ofText (before ++ t)) pos =
      .ok (some ((cutAt '}' t).map fun parts => parts.1.utf8Size, pos)) := by
    rw [distance?, Source.bytesFrom, if_pos hle, drop_bytes]
    exact congrArg (fun x => Except.ok (some (x, pos))) (Utf8.findIdx?_encode (by decide) t)
  rw [untilBrace, bind_of_some hdistance]
  rcases hcut : cutAt '}' t with _ | ⟨_ | ⟨c, format⟩, after⟩
  · rfl
  · rfl
  · have hpos := c.utf8Size_pos
    have hne : ¬ utf8Size (c :: format) = 0 := by
      rw [utf8Size_cons]
      omega
    obtain ⟨rfl, -⟩ := cutAt_eq_some hcut
    simp only [Option.map_some]
    rw [if_neg hne, ← utf8Size_append, bind_of_some (slice_append ..), bind_of_some rfl]
    rfl

/-- The cursor reads a format as the reader does. -/
theorem follows_format : Follows format format? := by
  have hcolon : ∀ before rest, format (.ofText (before ++ ':' :: rest)) before.utf8Size =
      match cutAt '}' rest with
      | some (c :: format, _) =>
        .ok (some (some (c :: format), (before ++ (':' :: c :: format : Text)).utf8Size))
      | _ => .ok none := by
    intro before rest
    have huntil := untilBrace_eq (before ++ [':']) rest before.utf8Size
    rw [List.append_assoc, List.singleton_append, utf8Size_append] at huntil
    -- The byte at the cursor is a colon, so the format starts one byte further on.
    rw [format, bind_of_some rfl, getElem?_bytes, if_pos ((Utf8.head?_encode_eq_byte
      (by decide)).mpr rfl), bind_of_some rfl]
    rcases hcut : cutAt '}' rest with _ | ⟨_ | ⟨c, format⟩, after⟩
    · rw [hcut] at huntil
      exact bind_of_none huntil
    · rw [hcut] at huntil
      exact bind_of_none huntil
    · rw [hcut] at huntil
      exact (bind_of_some huntil).trans (by rw [List.append_assoc]; rfl)
  constructor
  · intro before t h
    unfold format? at h
    split at h
    · next rest =>
      rw [hcolon]
      split at h
      · exact nomatch h
      · rfl
    · exact nomatch h
  · intro before t a rest h
    unfold format? at h
    split at h
    · next tail =>
      split at h
      · next c text after hcut =>
        obtain ⟨rfl, rfl⟩ := Prod.mk.inj (Option.some.inj h)
        refine ⟨':' :: c :: text, ?_, ?_⟩
        · rw [(cutAt_eq_some hcut).1]
          rfl
        · rw [hcolon, hcut]
      · exact nomatch h
    · next hne =>
      obtain ⟨rfl, rfl⟩ := Prod.mk.inj (Option.some.inj h)
      refine ⟨[], rfl, ?_⟩
      have hhead : t.head? ≠ some ':' := fun hhead => by
        obtain ⟨tail, rfl⟩ := List.head?_eq_some_iff.mp hhead
        exact hne tail rfl
      rw [format, bind_of_some rfl, getElem?_bytes, if_neg (mt (Utf8.head?_encode_eq_byte
        (by decide)).mp hhead), List.append_nil]
      rfl

/-- The end of a brace token is a format and a closing brace. -/
theorem close?_eq (t : Text) : close? t = (format? t).bind fun (format, rest) =>
    if rest.head? = some '}' then some (format, rest.tail) else none := by
  rcases t with _ | ⟨c, rest⟩
  · rfl
  by_cases hclose : c = '}'
  · subst hclose
    rfl
  by_cases hcolon : c = ':'
  · subst hcolon
    simp only [close?, format?]
    rcases cutAt '}' rest with _ | ⟨_ | ⟨c, format⟩, after⟩ <;> rfl
  · simp [close?, format?, hclose, hcolon]

/-- The cursor reads a layout as the reader does. -/
theorem follows_layout : Follows layout layout? := by
  refine (follows_width.bind fun width => follows_limit.bind fun limit =>
    follows_format.bind fun format => (follows_eat (c := '}') (by decide)).bind fun b =>
      Follows.ite (P := b = true) (follows_pure _) follows_nothing).congr fun t => ?_
  simp only [layout?, close?_eq, Option.bind_some, Option.map_bind]
  congr 1
  funext x
  simp only [Function.comp_apply]
  split <;> rfl

/-! ### Brace tokens -/

/-- The cursor for named tokens follows their reader. -/
theorem follows_named : Follows named named? := by
  refine ((follows_eat (c := '{') (by decide)).bind fun b => Follows.ite (P := b = true)
    (follows_peek isAscii_isAlpha ((follows_takeWhile isAscii_isKeyChar).bind fun key =>
      follows_binding.bind fun index => follows_layout.bind fun layout => follows_pure _)
        follows_nothing) follows_nothing).congr fun t => ?_
  rcases t with _ | ⟨c, t⟩
  · rfl
  by_cases hc : c = '{'
  · subst hc
    rcases t with _ | ⟨c, rest⟩
    · rfl
    by_cases halpha : c.isAlpha = true
    · have hkey : isKeyChar c = true := by simp [isKeyChar, Char.isAlphanum, halpha]
      simp [named?, halpha, hkey]
    · simp [named?, halpha]
  · simp [named?, hc]

/-- The cursor for indexed tokens follows their reader. -/
theorem follows_indexed : Follows indexed indexed? := by
  refine ((follows_eat (c := '{') (by decide)).bind fun b => Follows.ite (P := b = true)
    ((follows_takeWhile isAscii_isDigit).bind fun digits =>
      (follows_ofOption _).bind fun index =>
      follows_layout.bind fun layout => follows_pure _) follows_nothing).congr fun t => ?_
  rcases t with _ | ⟨c, t⟩
  · rfl
  by_cases hc : c = '{'
  · subst hc
    simp only [indexed?, List.head?_cons, List.tail_cons, if_true, Option.bind_some,
      Option.bind_map]
    rfl
  · simp [indexed?, hc]

/-! ### Escapes -/

/-- The codes of encodings are ASCII characters. -/
theorem ofCode?_of_ge (h : 0x80 ≤ c.toNat) : Encoding.ofCode? c = none := by
  unfold Encoding.ofCode?
  split
  · exact absurd h (by decide)
  · exact absurd h (by decide)
  · rfl

/-- A code letter can be seen at the first byte of a text. -/
theorem ofCode?_head?_encode (t : Text) :
    ((Utf8.encode t).head?.bind fun b => Encoding.ofCode? (Char.ofNat b.toNat)) =
      t.head?.bind Encoding.ofCode? := by
  cases t with
  | nil => rfl
  | cons c t =>
    rcases Nat.lt_or_ge c.toNat 0x80 with hc | hc
    · rw [Utf8.encode_cons_of_lt hc, List.head?_cons, List.head?_cons, Option.bind_some,
        Option.bind_some, Utf8.toNat_byte hc, Char.ofNat_toNat]
    · obtain ⟨b, bs, hbytes, hencode⟩ := Utf8.encode_cons_of_ge hc t
      have hb : 0x80 ≤ b.toNat := UInt8.le_iff_toNat_le.mp (hbytes b List.mem_cons_self)
      have hvalid : b.toNat.isValidChar := Or.inl (by have := b.toNat_lt; omega)
      have hchar : (Char.ofNat b.toNat).toNat = b.toNat := by
        rw [Char.toNat_ofNat, if_pos hvalid]
      rw [hencode, List.cons_append, List.head?_cons, List.head?_cons, Option.bind_some,
        Option.bind_some, ofCode?_of_ge hc, ofCode?_of_ge (hchar.symm ▸ hb)]

/-- The cursor reads the code of an encoding as the reader does. -/
theorem follows_encoding : Follows encoding fun t => some (Placeholder.encoding t) where
  absent _ _ h := nomatch h
  found before t e rest h := by
    rw [encoding, bind_of_some rfl, getElem?_bytes, ofCode?_head?_encode]
    have hread := Option.some.inj h
    rcases t with _ | ⟨c, tail⟩
    · obtain ⟨rfl, rfl⟩ := Prod.mk.inj hread
      exact ⟨[], rfl, by rw [List.append_nil]; rfl⟩
    · rw [Placeholder.encoding] at hread
      rw [List.head?_cons, Option.bind_some]
      split at hread
      · next code hcode =>
        obtain ⟨rfl, rfl⟩ := Prod.mk.inj hread
        have hc : c.toNat < 0x80 :=
          Nat.lt_of_not_le fun hge => by simp [ofCode?_of_ge hge] at hcode
        refine ⟨[c], rfl, ?_⟩
        rw [hcode, utf8Size_append, utf8Size_cons, utf8Size_of_lt hc, utf8Size_nil]
        rfl
      · next hcode =>
        obtain ⟨rfl, rfl⟩ := Prod.mk.inj hread
        exact ⟨[], rfl, by rw [hcode, List.append_nil]; rfl⟩

/-- A text of ASCII characters has one byte a character. -/
theorem utf8Size_of_isAscii (hp : IsAscii p) (h : t.all p) : t.utf8Size = t.length := by
  induction t with
  | nil => rfl
  | cons c t ih =>
    rw [List.all_cons, Bool.and_eq_true] at h
    rw [utf8Size_cons, utf8Size_of_lt (hp c h.1), ih h.2, List.length_cons, Nat.add_comm]

/-- So has the part of a text that consists of such characters. -/
theorem utf8Size_takeWhile (hp : IsAscii p) (t : Text) :
    utf8Size (t.takeWhile p) = (t.takeWhile p).length :=
  utf8Size_of_isAscii hp (List.all_eq_true.mpr fun _ => List.mem_takeWhile_imp)

/-- The digits of a braced run, up to and including the closing brace. -/
def bracedUnits? (unit : Nat) (t : Text) : Option (Text × Text) :=
  if t.takeWhile Hex.isDigit = [] ∨ (t.takeWhile Hex.isDigit).length % unit ≠ 0 then none
  else if (t.dropWhile Hex.isDigit).head? = some '}' then
    some (t.takeWhile Hex.isDigit, (t.dropWhile Hex.isDigit).tail)
  else none

/-- The cursor reads digits between braces as the reader does. -/
theorem follows_bracedUnits (unit : Nat) : Follows (bracedUnits unit) (bracedUnits? unit) := by
  refine ((follows_takeWhile isAscii_hexDigit).bind fun digits => Follows.ite
    (P := digits = [] ∨ digits.utf8Size % unit ≠ 0) follows_nothing
    ((follows_eat (c := '}') (by decide)).bind fun b => Follows.ite (P := b = true)
      (follows_pure _) follows_nothing)).congr fun t => ?_
  simp only [bracedUnits?, Option.bind_some, utf8Size_takeWhile isAscii_hexDigit]
  split
  · rfl
  · split <;> rfl

/-- The whole units at the start of a bare run of digits. -/
def bareUnits? (unit : Nat) (t : Text) : Option (Text × Text) :=
  let available := (t.takeWhile Hex.isDigit).length
  let taken := available - available % unit
  if taken = 0 then none else some (t.take taken, t.drop taken)

/-- Without braces the cursor counts digits by their bytes, which is to count characters. -/
theorem bareUnits_eq (unit : Nat) (before t : Text) :
    bareUnits unit (.ofText (before ++ t)) before.utf8Size = .ok ((bareUnits? unit t).map
      fun x => (x.1, (before ++ x.1).utf8Size)) := by
  obtain ⟨raw, -, hrun⟩ := (follows_takeWhile isAscii_hexDigit).found before t _ _ rfl
  rw [bareUnits, bind_of_some rfl, bind_of_some hrun, utf8Size_takeWhile isAscii_hexDigit]
  simp only [bareUnits?]
  set available := (t.takeWhile Hex.isDigit).length with havailable
  split
  · rfl
  · obtain ⟨hall, hlength⟩ := all_take_of_le (Nat.sub_le available (available % unit))
    have hsize : before.utf8Size + (available - available % unit) =
        (before ++ t.take (available - available % unit)).utf8Size := by
      rw [utf8Size_append, utf8Size_of_isAscii isAscii_hexDigit hall, hlength]
    have hslice := slice_append before (t.take (available - available % unit))
      (t.drop (available - available % unit))
    rw [List.take_append_drop] at hslice
    rw [hsize]
    exact (bind_of_some rfl).trans (hslice _)

/-- The cursor reads digits without braces as the reader does. -/
theorem follows_bareUnits (unit : Nat) : Follows (bareUnits unit) (bareUnits? unit) where
  absent before t h := by
    rw [bareUnits_eq, h]
    rfl
  found before t digits rest h := by
    refine ⟨digits, ?_, by rw [bareUnits_eq, h]; rfl⟩
    simp only [bareUnits?] at h
    split at h
    · exact nomatch h
    · obtain ⟨rfl, rfl⟩ := Prod.mk.inj (Option.some.inj h)
      exact (List.take_append_drop _ t).symm

/-- A brace decides in which of the two ways the digits of an escape are read. -/
theorem units?_eq (unit : Nat) (t : Text) : units? unit t =
    if t.head? = some '{' then
      (bracedUnits? unit t.tail).map fun (digits, rest) => (digits, true, rest)
    else (bareUnits? unit t).map fun (digits, rest) => (digits, false, rest) := by
  by_cases hhead : t.head? = some '{'
  · obtain ⟨tail, rfl⟩ := List.head?_eq_some_iff.mp hhead
    rw [if_pos hhead, List.tail_cons, units?, bracedUnits?]
    by_cases hdigits : tail.takeWhile Hex.isDigit = [] ∨
        (tail.takeWhile Hex.isDigit).length % unit ≠ 0
    · have hnot : ¬ (tail.takeWhile Hex.isDigit ≠ [] ∧
          (tail.takeWhile Hex.isDigit).length % unit = 0) := by
        rintro ⟨hne, hmod⟩
        exact hdigits.elim hne fun h => h hmod
      rw [if_pos hdigits]
      split
      · rw [if_neg hnot]
        rfl
      · rfl
    · obtain ⟨hne, hmod⟩ := not_or.mp hdigits
      rw [if_neg hdigits]
      split
      · next after hdrop =>
        rw [if_pos ⟨hne, not_not.mp hmod⟩, hdrop]
        rfl
      · next hdrop =>
        have hclose : (tail.dropWhile Hex.isDigit).head? ≠ some '}' := fun h => by
          obtain ⟨after, hafter⟩ := List.head?_eq_some_iff.mp h
          exact hdrop after hafter
        rw [if_neg hclose]
        rfl
  · have hne : ∀ tail, t ≠ '{' :: tail := by
      rintro tail rfl
      exact hhead rfl
    rw [if_neg hhead, units?, bareUnits?]
    · simp only
      split <;> rfl
    · exact hne

/-- The cursor for escapes follows their reader. -/
theorem follows_hex : Follows hex hex? := by
  refine ((follows_eat (c := '#') (by decide)).bind fun b => Follows.ite (P := b = true)
    (follows_encoding.bind fun e => (follows_eat (c := '{') (by decide)).bind fun b =>
      Follows.ite (P := b = true) ((follows_bracedUnits _).bind fun digits => follows_pure _)
        ((follows_bareUnits _).bind fun digits => follows_pure _))
    follows_nothing).congr fun t => ?_
  rcases t with _ | ⟨c, t⟩
  · rfl
  by_cases hc : c = '#'
  · subst hc
    simp only [hex?, units?_eq, List.head?_cons, List.tail_cons, if_true, Option.bind_some]
    split
    · simp only [Option.bind_some, if_true]
      cases bracedUnits? _ _ <;> rfl
    · simp only [Option.bind_some, Bool.false_eq_true, if_false]
      cases bareUnits? _ _ <;> rfl
  · simp [hex?, hc]

/-! ### All families -/

/-- **The cursor of a family follows its reader**, at the start of every character. -/
theorem follows_read (family : Family) : Follows (Cursor.read family) (read? family) := by
  cases family with
  | named => exact follows_named
  | indexed => exact follows_indexed
  | hex => exact follows_hex

/-- At a byte that is no ASCII, or behind the end, the cursor of a family finds nothing. -/
theorem read_of_tail (h : ∀ b ∈ source.bytes[pos]?, 0x80 ≤ b) (family : Family) :
    Cursor.read family source pos = .ok none := by
  have heat : ∀ c, c.toNat < 0x80 → eat (byte c) source pos = .ok (some (false, pos)) := by
    intro c hc
    have hne : source.bytes[pos]? ≠ some (byte c) := fun hb =>
      UInt8.not_lt.mpr (h _ hb) (Utf8.byte_lt hc)
    rw [eat_eq, if_neg hne]
  cases family with
  | named => exact bind_of_some (heat '{' (by decide))
  | indexed => exact bind_of_some (heat '{' (by decide))
  | hex => exact bind_of_some (heat '#' (by decide))

/-- What a cursor finds starts with a character and ends with one; the reader finds it
there. -/
theorem read_eq_some_iff {family : Family} {placeholder : Placeholder} {stop : Nat} :
    Cursor.read family (.ofText t) pos = .ok (some (placeholder, stop)) ↔
      ∃ before raw rest, t = before ++ (raw ++ rest) ∧ before.utf8Size = pos ∧
        (before ++ raw).utf8Size = stop ∧
          read? family (raw ++ rest) = some (placeholder, rest) := by
  constructor
  · intro h
    -- Where something is found a character starts, and there the cursor follows the reader.
    rcases Utf8.boundary_or_tail t pos with ⟨before, left, rfl, rfl⟩ | htail
    · rcases hread : read? family left with _ | ⟨found, rest⟩
      · rw [(follows_read family).absent before left hread] at h
        exact nomatch h
      · obtain ⟨raw, rfl, hrun⟩ := (follows_read family).found before left found rest hread
        rw [hrun] at h
        obtain ⟨rfl, rfl⟩ := Prod.mk.inj (Option.some.inj (Except.ok.inj h))
        exact ⟨before, raw, rest, rfl, rfl, rfl, hread⟩
    · rw [read_of_tail htail] at h
      exact nomatch h
  · rintro ⟨before, raw, rest, rfl, rfl, rfl, hread⟩
    obtain ⟨raw', heq, hrun⟩ := (follows_read family).found before _ placeholder rest hread
    rw [hrun, List.append_cancel_right heq]

/-- No cursor of a family takes a bad slice, wherever it stands. -/
theorem exists_read_eq_ok (family : Family) (t : Text) (pos : Nat) :
    ∃ found, Cursor.read family (.ofText t) pos = .ok found := by
  rcases Utf8.boundary_or_tail t pos with ⟨before, left, rfl, rfl⟩ | htail
  · rcases hread : read? family left with _ | ⟨placeholder, rest⟩
    · exact ⟨none, (follows_read family).absent before left hread⟩
    · obtain ⟨raw, -, hrun⟩ := (follows_read family).found before left placeholder rest hread
      exact ⟨_, hrun⟩
  · exact ⟨none, read_of_tail htail family⟩

/-! ### The grammar at a byte -/

/-- A placeholder of a family is **written at** a byte of a text: `raw` starts there. -/
def WrittenAt (family : Family) (t : Text) (pos : Nat) (placeholder : Placeholder)
    (raw : Text) : Prop :=
  ∃ before rest, t = before ++ (raw ++ rest) ∧ before.utf8Size = pos ∧
    placeholder.family = family ∧ Written placeholder raw rest

/-- What the grammar finds at a byte, it finds in one way. -/
theorem WrittenAt.unique {family : Family} {placeholder placeholder' : Placeholder}
    {raw raw' : Text} (h : WrittenAt family t pos placeholder raw)
    (h' : WrittenAt family t pos placeholder' raw') :
    placeholder = placeholder' ∧ raw = raw' := by
  obtain ⟨before, rest, rfl, hpos, hfamily, hwritten⟩ := h
  obtain ⟨before', rest', heq, hpos', hfamily', hwritten'⟩ := h'
  obtain ⟨-, hleft⟩ := append_inj_of_utf8Size heq (hpos.trans hpos'.symm)
  obtain ⟨hplaceholder, hraw, -⟩ :=
    hwritten.unique hwritten' (hfamily.trans hfamily'.symm) hleft
  exact ⟨hplaceholder, hraw⟩

/-- **The cursors accept exactly the grammar.** At every byte of a text the cursor of a family
succeeds if and only if a placeholder of the family is written there, and then the text that
writes it is the only one, and just what the cursor steps over. Where none is written the
cursor finds nothing. The readers that work on the text that is left do the same. -/
theorem read_iff_written (family : Family) (t : Text) (pos : Nat) :
    (∀ placeholder stop, Cursor.read family (.ofText t) pos = .ok (some (placeholder, stop)) ↔
      ∃ raw, WrittenAt family t pos placeholder raw ∧ stop = pos + raw.utf8Size) ∧
    ((∃ placeholder stop,
        Cursor.read family (.ofText t) pos = .ok (some (placeholder, stop))) ↔
      ∃! x : Placeholder × Text, WrittenAt family t pos x.1 x.2) ∧
    (Cursor.read family (.ofText t) pos = .ok none ↔
      ¬ ∃ placeholder raw, WrittenAt family t pos placeholder raw) ∧
    ∀ placeholder rest, read? family t = some (placeholder, rest) ↔
      ∃ raw, t = raw ++ rest ∧ placeholder.family = family ∧ Written placeholder raw rest := by
  have hfound : ∀ placeholder stop,
      Cursor.read family (.ofText t) pos = .ok (some (placeholder, stop)) ↔
        ∃ raw, WrittenAt family t pos placeholder raw ∧ stop = pos + raw.utf8Size := by
    intro placeholder stop
    rw [read_eq_some_iff]
    constructor
    · rintro ⟨before, raw, rest, ht, rfl, rfl, hread⟩
      obtain ⟨raw', heq, hfamily, hwritten⟩ := read?_eq_some_iff.mp hread
      obtain rfl := List.append_cancel_right heq
      exact ⟨raw, ⟨before, rest, ht, rfl, hfamily, hwritten⟩, utf8Size_append ..⟩
    · rintro ⟨raw, ⟨before, rest, ht, rfl, hfamily, hwritten⟩, rfl⟩
      exact ⟨before, raw, rest, ht, rfl, utf8Size_append ..,
        read?_eq_some_iff.mpr ⟨raw, rfl, hfamily, hwritten⟩⟩
  refine ⟨hfound, ⟨?_, ?_⟩, ⟨?_, ?_⟩, fun placeholder rest => read?_eq_some_iff⟩
  · rintro ⟨placeholder, stop, h⟩
    obtain ⟨raw, hwritten, -⟩ := (hfound placeholder stop).mp h
    refine ⟨(placeholder, raw), hwritten, fun x hx => ?_⟩
    obtain ⟨hplaceholder, hraw⟩ := WrittenAt.unique hx hwritten
    exact Prod.ext hplaceholder hraw
  · rintro ⟨⟨placeholder, raw⟩, hwritten, -⟩
    exact ⟨placeholder, _, (hfound placeholder _).mpr ⟨raw, hwritten, rfl⟩⟩
  · rintro h ⟨placeholder, raw, hwritten⟩
    rw [(hfound placeholder _).mpr ⟨raw, hwritten, rfl⟩] at h
    exact nomatch h
  · intro h
    obtain ⟨_ | ⟨placeholder, stop⟩, hread⟩ := exists_read_eq_ok family t pos
    · exact hread
    · obtain ⟨raw, hwritten, -⟩ := (hfound placeholder stop).mp hread
      exact absurd ⟨placeholder, raw, hwritten⟩ h

end Stencil.Cursor
