import Mathlib
import Stencil.Expansion.Backward
import Stencil.Proofs.Expansion.Escape
import Stencil.Proofs.Placeholder.Walk

/-!
# Splicing from the end is rewriting from the left

The bytes of a token are those that it has in the text as it was, while the working text
changes with every token that is replaced. Going from the last token to the first, what has
changed lies behind the token: in front of its end the working text is still the text as it
was. This is the invariant, so no range is ever out of place, whatever the lengths of the
replacements, and what comes out is the text between the tokens with the replacements in
between.

## Main definitions

* `Stencil.interleave`: the text between tokens and the texts for them, from left to right.

## Main results

* `Text.replaceSlice_append`: the part between two bytes is what is replaced.
* `replaceBackward_eq_interleave`: tokens in their places are replaced without a fault.
* `interleave_scan`: the escapes between the text around them are the decoded text.
* `decodeBackward_eq_decodeEscapes`: splicing escapes from the end decodes the text.
-/

namespace Stencil

open Placeholder Text

variable {text? : Token → Option Text} {before after raw gap rest result s t : Text} {c : Char}
  {start stop offset : Nat} {token : Token} {tokens : List Token}

/-! ### Slices -/

namespace Text

/-- The slice between two places gives way to the replacement, and nothing else does. -/
theorem replaceSlice_append (before raw after replacement : Text) :
    replaceSlice before.utf8Size (before ++ raw).utf8Size
      (before ++ (raw ++ after)) replacement =
      .ok (before ++ (replacement ++ after)) := by
  have htake := takeBytes?_append before (raw ++ after)
  have hdrop := dropBytes?_append (before ++ raw) after
  rw [List.append_assoc] at hdrop
  rw [replaceSlice, htake, hdrop, if_pos (by rw [utf8Size_append]; omega)]

/-- The slice between two places is the text between them. -/
theorem slice?_append (before s rest : Text) :
    slice? before.utf8Size (before ++ s).utf8Size (before ++ (s ++ rest)) = some s :=
  slice?_eq_some_iff.mpr ⟨before, rest, rfl, rfl, rfl⟩

/-- A slice can start one character earlier. -/
theorem slice?_cons
    (h : slice? (before.utf8Size + c.utf8Size) stop (before ++ c :: rest) = some s) :
    slice? before.utf8Size stop (before ++ c :: rest) = some (c :: s) := by
  obtain ⟨front, back, htext, hstart, hstop⟩ := slice?_eq_some_iff.mp h
  have hsize : (before ++ [c]).utf8Size = front.utf8Size := by
    rw [utf8Size_append, hstart]
    rfl
  rw [← List.singleton_append, ← List.append_assoc] at htext
  obtain ⟨rfl, hback⟩ := append_inj_of_utf8Size htext hsize
  refine slice?_eq_some_iff.mpr ⟨before, back, ?_, rfl, ?_⟩
  · rw [hback, List.cons_append]
  · rw [← hstop, List.append_assoc, List.singleton_append]

end Text

/-! ### Rewriting from the left -/

/-- The **text between tokens** from byte `start` on, as it is, and for each token the text
that it stands for, or its own where it stands for none. -/
def interleave (text? : Token → Option Text) (t : Text) (start : Nat) :
    List Token → Option Text
  | [] => t.slice? start t.utf8Size
  | token :: tokens => do
    let gap ← t.slice? start token.offset
    let own ← t.slice? token.offset token.stop
    let rest ← interleave text? t token.stop tokens
    pure (gap ++ ((text? token).getD own ++ rest))

/-- The rewriting can start one character earlier. -/
theorem interleave_cons
    (h : interleave text? (before ++ c :: rest) (before.utf8Size + c.utf8Size) tokens =
      some result) :
    interleave text? (before ++ c :: rest) before.utf8Size tokens = some (c :: result) := by
  cases tokens with
  | nil => exact slice?_cons h
  | cons token tokens =>
    simp only [interleave, Option.bind_eq_bind, Option.bind_eq_some_iff, Option.pure_def,
      Option.some.injEq] at h ⊢
    obtain ⟨gap, hgap, own, hown, later, hlater, rfl⟩ := h
    exact ⟨c :: gap, slice?_cons hgap, own, hown, later, hlater, rfl⟩

/-! ### Splicing from the end -/

/-- A token is replaced where it stands, whatever stands behind it by now. -/
theorem replaceIn_append (text? : Token → Option Text)
    (hbefore : before.utf8Size = token.offset) (after : Text) :
    token.replaceIn text? (before ++ (token.raw ++ after)) =
      .ok (before ++ ((text? token).getD token.raw ++ after)) := by
  have hstop : (before ++ token.raw).utf8Size = token.stop := by
    rw [utf8Size_append, hbefore, Token.stop]
  rw [Token.replaceIn]
  cases text? token with
  | none => rfl
  | some text =>
    have hsplice := replaceSlice_append before token.raw after text
    rwa [hbefore, hstop] at hsplice

/-- The first token is the last one to be replaced. -/
theorem replaceBackward_cons_of_ok (h : replaceBackward text? tokens t = .ok s)
    (token : Token) : replaceBackward text? (token :: tokens) t = token.replaceIn text? s := by
  rw [replaceBackward, List.reverse_cons, List.foldlM_append]
  change (replaceBackward text? tokens t >>= _) = _
  rw [h]
  change Token.replaceIn text? s token >>= pure = _
  rw [bind_pure]

/-- **Tokens in their places** are replaced without a fault, and what comes out is the text
between them with the replacements in between. -/
theorem replaceBackward_eq_interleave (text? : Token → Option Text)
    (h : Token.Located offset t tokens) (hbefore : before.utf8Size = offset) :
    ∃ result, replaceBackward text? tokens (before ++ t) = .ok (before ++ result) ∧
      interleave text? (before ++ t) offset tokens = some result := by
  -- Behind `before` the working text has been rewritten, and in front of it nothing has
  -- changed.
  induction h generalizing before with
  | nil offset t =>
    have hslice := slice?_append before t []
    rw [List.append_nil, hbefore] at hslice
    exact ⟨t, rfl, hslice⟩
  | @cons offset gap rest token tokens hoffset _ ih =>
    have hfront : (before ++ gap).utf8Size = token.offset := by
      rw [utf8Size_append, hbefore, hoffset]
    have hstop : (before ++ gap ++ token.raw).utf8Size = token.stop := by
      rw [utf8Size_append, hfront, Token.stop]
    have htext : before ++ gap ++ token.raw ++ rest =
        before ++ (gap ++ (token.raw ++ rest)) := by
      simp only [List.append_assoc]
    obtain ⟨result, hreplace, hinterleave⟩ := ih hstop
    rw [htext] at hreplace hinterleave
    refine ⟨gap ++ ((text? token).getD token.raw ++ result), ?_, ?_⟩
    · rw [replaceBackward_cons_of_ok hreplace, List.append_assoc (before ++ gap),
        replaceIn_append text? hfront, List.append_assoc]
    · have hgap := slice?_append before gap (token.raw ++ rest)
      have hown := slice?_append (before ++ gap) token.raw rest
      rw [hbefore, hfront] at hgap
      rw [hfront, hstop, List.append_assoc] at hown
      rw [interleave, hgap, hown, hinterleave]
      rfl

/-! ### Escapes -/

/-- The tokens of escapes are escapes, each with its digits and their encoding. -/
theorem decoded?_of_mem_ofFamily (h : token ∈ Token.ofFamily .hex t) :
    ∃ encoding digits braced, token.placeholder = .hex encoding digits braced ∧
      token.decoded? = some (encoding.decodeHex digits) := by
  have hfamily : token.family = .hex := Token.family_of_mem_scan h
  rw [Token.family] at hfamily
  cases hplaceholder : token.placeholder with
  | named => simp [hplaceholder, family] at hfamily
  | indexed => simp [hplaceholder, family] at hfamily
  | hex encoding digits braced =>
    exact ⟨encoding, digits, braced, rfl, by rw [Token.decoded?, hplaceholder]⟩

/-- A token that has been read as an escape is replaced by what the escape decodes to. -/
theorem decoded?_of_read? {placeholder : Placeholder}
    (h : read? .hex t = some (placeholder, rest)) (raw : Text) (offset : Nat) :
    Token.decoded? ⟨placeholder, raw, offset⟩ = some (escapeText placeholder) := by
  have hfamily := Token.family_of_read? h
  cases placeholder with
  | named => simp [family] at hfamily
  | indexed => simp [family] at hfamily
  | hex => rfl

/-- **The escapes of a text**, between the text around them, are the decoded text. -/
theorem interleave_scan (t before : Text) (hbefore : before.utf8Size = offset) :
    interleave Token.decoded? (before ++ t) offset (Token.scan .hex offset t) =
      some (decodeEscapes t) := by
  fun_induction Token.scan .hex offset t generalizing before with
  | case1 offset =>
    rw [decodeEscapes, interleave, List.append_nil, hbefore]
    exact slice?_eq_some_iff.mpr ⟨before, [], by simp, hbefore, by simp [hbefore]⟩
  | case2 offset c rest hread ih =>
    have hrest := ih (before ++ [c]) (by rw [utf8Size_append, hbefore]; rfl)
    rw [List.append_assoc, List.singleton_append, ← hbefore] at hrest
    rw [decodeEscapes_of_read?_eq_none hread, ← hbefore]
    exact interleave_cons hrest
  | case3 offset c rest placeholder after hread raw ih =>
    obtain ⟨raw', hraw'⟩ := Token.exists_append_of_read? hread
    have hraw : raw = raw' := by simp [raw, hraw']
    rw [← hraw] at hraw'
    have hstop : (before ++ raw).utf8Size = offset + raw.utf8Size := by
      rw [utf8Size_append, hbefore]
    have hrest := ih (before ++ raw) hstop
    have hgap := slice?_append before [] (raw ++ after)
    have hown := slice?_append before raw after
    rw [List.append_nil, List.nil_append, hbefore] at hgap
    rw [hbefore, hstop] at hown
    rw [List.append_assoc] at hrest
    rw [decodeEscapes_of_read?_eq_some hread, hraw', interleave, hgap]
    simp only [Token.stop, hown, hrest, decoded?_of_read? hread]
    rfl

/-- **The pass over the escapes is a rewriting from the left.** Decoding the escapes of a text
from the last to the first never faults, and its outcome is the concatenation, from left to
right, of the text between them and of what the digits of each of them decode to in its
encoding. The same holds of every choice of texts for the tokens of a family, of whatever
lengths: none is looked at again, and none moves what is still to be replaced. -/
theorem decodeBackward_eq_decodeEscapes (t : Text) :
    decodeBackward t = .ok (decodeEscapes t) ∧
    interleave Token.decoded? t 0 (Token.ofFamily .hex t) = some (decodeEscapes t) ∧
    (∀ token ∈ Token.ofFamily .hex t, ∃ encoding digits braced,
      token.placeholder = .hex encoding digits braced ∧
      token.decoded? = some (encoding.decodeHex digits)) ∧
    ∀ family (text? : Token → Option Text), ∃ result,
      replaceBackward text? (Token.ofFamily family t) t = .ok result ∧
      interleave text? t 0 (Token.ofFamily family t) = some result := by
  have hescapes := interleave_scan t [] rfl
  have hbackward (family : Family) (text? : Token → Option Text) : ∃ result,
      replaceBackward text? (Token.ofFamily family t) t = .ok result ∧
        interleave text? t 0 (Token.ofFamily family t) = some result := by
    have hnone : Text.utf8Size [] = 0 := rfl
    exact replaceBackward_eq_interleave text? (Token.located_scan family 0 t) hnone
  refine ⟨?_, hescapes, fun token => decoded?_of_mem_ofFamily, hbackward⟩
  have hwalk : Token.walk .hex t = .ok (Token.ofFamily .hex t) :=
    Token.walkFrom_anchors .hex 0 t [] 0 rfl le_rfl
  obtain ⟨result, hreplace, hresult⟩ := hbackward .hex Token.decoded?
  obtain rfl := Option.some.inj (hresult.symm.trans hescapes)
  rw [decodeBackward, hwalk]
  exact hreplace

-- What an escape decodes to may look like an escape itself, but it stays.
example : decodeBackward "#\x7b23\x7d41".toList = .ok "#41".toList ∧
    decodeBackward "#41".toList = .ok "A".toList := by
  constructor <;> cbv

end Stencil
