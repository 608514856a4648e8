import Mathlib.Data.List.Infix
import Mathlib.Data.List.Perm.Basic
import Stencil.Placeholder.Scan
import Stencil.Proofs.Placeholder.Brace

/-!
# The tokens of a template

The scan of a family leaves its tokens one behind the other: the text consists of the tokens'
own texts with gaps between them. Ordering the tokens of all families by offset mixes the three
lists but keeps each of them as it is.

## Main definitions

* `Stencil.Token.InOrder`: tokens whose texts stand one behind the other in a text.
* `Stencil.Token.Located`: tokens that do so, each at its offset.

## Main results

* `located_ofFamily`: so do the tokens of a family.
* `spelled_of_mem_ofFamily`: a named or indexed token is spelled by the text between its
  braces.
* `filter_family_ofText`: the tokens of a family among the tokens of all families.
-/

namespace Stencil.Token

open Placeholder Text

variable {family : Family} {offset : Nat} {s t rest raw gap body : Text} {token : Token}
  {tokens later : List Token} {placeholder : Placeholder}

/-- The key of a named token. -/
def key? (token : Token) : Option Text :=
  match token.placeholder with
  | .named key _ _ => some key
  | .indexed .. | .hex .. => none

/-! ### The steps of a scan -/

@[simp] theorem scan_nil (family : Family) (offset : Nat) : scan family offset [] = [] := by
  rw [scan]

/-- Where no placeholder starts, the scan goes on behind the character. -/
theorem scan_of_read?_eq_none {c : Char} (h : read? family (c :: rest) = none) :
    scan family offset (c :: rest) = scan family (offset + c.utf8Size) rest := by
  rw [scan]
  split <;> simp_all

/-- Where a placeholder starts, the scan goes on behind it. -/
theorem scan_of_read?_eq_some (h : read? family (raw ++ rest) = some (placeholder, rest)) :
    scan family offset (raw ++ rest) =
      ⟨placeholder, raw, offset⟩ :: scan family (offset + raw.utf8Size) rest := by
  cases ht : raw ++ rest with
  | nil => simp [ht] at h
  | cons c tail =>
    rw [scan]
    split
    · simp_all
    · next p after hread =>
      obtain ⟨rfl, rfl⟩ : p = placeholder ∧ after = rest := by simp_all
      simp [← ht]

/-- Named and indexed tokens start at a `{`. -/
theorem scan_append_of_not_mem (hfamily : family ≠ .hex) (hs : '{' ∉ s) (offset : Nat)
    (t : Text) : scan family offset (s ++ t) = scan family (offset + s.utf8Size) t := by
  induction s generalizing offset with
  | nil => simp
  | cons c s ih =>
    rw [List.mem_cons, not_or] at hs
    rw [List.cons_append, scan_of_read?_eq_none (read?_eq_none_of_ne hfamily (Ne.symm hs.1) _),
      ih hs.2, utf8Size_cons, Nat.add_assoc]

/-- Behind a `{` that nothing closes there are no tokens. -/
theorem scan_stray (hfamily : family ≠ .hex) (hopen : '{' ∉ rest) (hclose : '}' ∉ rest)
    (offset : Nat) : scan family offset ('{' :: rest) = [] := by
  have hread : read? family ('{' :: rest) = none := by
    rw [Option.eq_none_iff_forall_ne_some]
    rintro ⟨placeholder, after⟩ h
    obtain ⟨tail, htail, hmem⟩ := exists_cons_of_read? hfamily h
    exact hclose ((List.cons.inj htail).2 ▸ hmem)
  have hscan := scan_append_of_not_mem hfamily hopen (offset + '{'.utf8Size) []
  rw [List.append_nil, scan_nil] at hscan
  rw [scan_of_read?_eq_none hread, hscan]

/-- A group that spells a placeholder of the family is a token. -/
theorem scan_group_of_some (hfamily : family ≠ .hex) (hclose : '}' ∉ body)
    (h : inner? family body = some placeholder) (offset : Nat) (rest : Text) :
    scan family offset (braced body ++ rest) =
      ⟨placeholder, braced body, offset⟩ ::
        scan family (offset + (braced body).utf8Size) rest := by
  refine scan_of_read?_eq_some ?_
  rw [read?_braced hfamily hclose, h]
  rfl

/-- Any other group is passed over. -/
theorem scan_group_of_none (hfamily : family ≠ .hex) (hopen : '{' ∉ body) (hclose : '}' ∉ body)
    (h : inner? family body = none) (offset : Nat) (rest : Text) :
    scan family offset (braced body ++ rest) =
      scan family (offset + (braced body).utf8Size) rest := by
  have hread : read? family ('{' :: (body ++ '}' :: rest)) = none := by
    rw [← braced_append, read?_braced hfamily hclose, h]
    rfl
  have hsize : (braced body).utf8Size = '{'.utf8Size + (body ++ ['}']).utf8Size := rfl
  have hscan := scan_append_of_not_mem (s := body ++ ['}']) hfamily (by simp [hopen])
    (offset + '{'.utf8Size) rest
  rw [List.append_assoc, List.singleton_append] at hscan
  rw [braced_append, scan_of_read?_eq_none hread, hscan, hsize, Nat.add_assoc]

/-- What a reader consumes and what it leaves make up the text. -/
theorem exists_append_of_read? (h : read? family t = some (placeholder, rest)) :
    ∃ raw, t = raw ++ rest := by
  obtain ⟨raw, hraw⟩ := (read?_suffix h).trans (List.tail_suffix t)
  exact ⟨raw, hraw.symm⟩

/-- A reader yields placeholders of its own family. -/
theorem family_of_read? (h : read? family t = some (placeholder, rest)) :
    placeholder.family = family := by
  by_cases hfamily : family = .hex
  · subst hfamily
    simp only [read?, hex?] at h
    split at h
    · simp only [Option.map_eq_some_iff, Prod.mk.injEq, Prod.exists] at h
      obtain ⟨_, _, _, -, rfl, -⟩ := h
      rfl
    · simp at h
  · obtain ⟨x, -, -, hinner⟩ := exists_inner?_of_read? hfamily h
    exact family_of_inner? hinner

/-! ### Tokens in order -/

/-- **Tokens in order**: a text holds the texts of `tokens` one behind the other. -/
inductive InOrder : Text → List Token → Prop
  | nil (t : Text) : InOrder t []
  | cons {gap rest : Text} {token : Token} {tokens : List Token} :
      InOrder rest tokens → InOrder (gap ++ (token.raw ++ rest)) (token :: tokens)

/-- More text may stand in front. -/
theorem InOrder.append_left (h : InOrder t tokens) (gap : Text) :
    InOrder (gap ++ t) tokens := by
  cases h with
  | nil => exact .nil _
  | cons hrest =>
    rw [← List.append_assoc]
    exact .cons hrest

/-- The first of some tokens in order are in order. -/
theorem InOrder.of_append (h : InOrder t (tokens ++ later)) : InOrder t tokens := by
  generalize hall : tokens ++ later = all at h
  induction h generalizing tokens with
  | nil =>
    obtain ⟨rfl, -⟩ := List.append_eq_nil_iff.mp hall
    exact .nil _
  | cons _ ih =>
    rcases List.append_eq_cons_iff.mp hall with ⟨rfl, -⟩ | ⟨tokens, rfl, htokens⟩
    · exact .nil _
    · exact .cons (ih htokens.symm)

/-! ### Tokens in their places -/

/-- **Tokens in their places**: a text that starts at byte `offset` holds the texts of `tokens`
one behind the other, each at the offset of its token. -/
inductive Located : Nat → Text → List Token → Prop
  | nil (offset : Nat) (t : Text) : Located offset t []
  | cons {offset : Nat} {gap rest : Text} {token : Token} {tokens : List Token} :
      token.offset = offset + gap.utf8Size → Located token.stop rest tokens →
      Located offset (gap ++ (token.raw ++ rest)) (token :: tokens)

/-- Tokens in their places are in order. -/
theorem Located.inOrder (h : Located offset t tokens) : InOrder t tokens := by
  induction h with
  | nil => exact .nil _
  | cons _ _ ih => exact .cons ih

/-- A gap in front of tokens moves them along. -/
theorem Located.append_left (gap : Text) (h : Located (offset + gap.utf8Size) t tokens) :
    Located offset (gap ++ t) tokens := by
  cases h with
  | nil => exact .nil _ _
  | @cons _ gap' rest token tokens hoffset hrest =>
    rw [← List.append_assoc]
    exact .cons (by rw [hoffset, utf8Size_append, Nat.add_assoc]) hrest

/-- The scan of a family leaves its tokens in their places. -/
theorem located_scan (family : Family) (offset : Nat) (t : Text) :
    Located offset t (scan family offset t) := by
  fun_induction scan family offset t with
  | case1 => exact .nil _ _
  | case2 offset c rest hread ih => exact ih.append_left [c]
  | case3 offset c rest placeholder after hread raw ih =>
    obtain ⟨raw', hraw'⟩ := exists_append_of_read? hread
    have hraw : raw = raw' := by simp [raw, hraw']
    rw [hraw', ← hraw]
    exact @Located.cons offset [] after ⟨placeholder, raw, offset⟩ _ rfl ih

/-- A token of a scan was read where it stands. -/
theorem exists_read?_of_mem_scan (h : token ∈ scan family offset t) :
    ∃ before after, t = before ++ (token.raw ++ after) ∧
      offset + before.utf8Size = token.offset ∧
      read? family (token.raw ++ after) = some (token.placeholder, after) := by
  fun_induction scan family offset t with
  | case1 => simp at h
  | case2 offset c rest hread ih =>
    obtain ⟨before, after, rfl, hoffset, hfound⟩ := ih h
    exact ⟨c :: before, after, rfl, by rw [utf8Size_cons, ← Nat.add_assoc, hoffset], hfound⟩
  | case3 offset c rest placeholder after hread raw ih =>
    obtain ⟨raw', hraw'⟩ := exists_append_of_read? hread
    have hraw : raw = raw' := by simp [raw, hraw']
    rw [hraw', ← hraw] at hread ⊢
    rcases List.mem_cons.mp h with rfl | h
    · exact ⟨[], after, rfl, rfl, hread⟩
    · obtain ⟨before, after', rfl, hoffset, hfound⟩ := ih h
      refine ⟨raw ++ before, after', by rw [List.append_assoc], ?_, hfound⟩
      rw [utf8Size_append, ← Nat.add_assoc, hoffset]

/-- The tokens of a scan belong to the family. -/
theorem family_of_mem_scan (h : token ∈ scan family offset t) : token.family = family := by
  obtain ⟨_, _, -, -, hread⟩ := exists_read?_of_mem_scan h
  exact family_of_read? hread

/-- A named or indexed token of a scan is spelled by the text between its braces. -/
theorem spelled_of_mem_scan (hfamily : family ≠ .hex) (h : token ∈ scan family offset t) :
    token.Spelled := by
  obtain ⟨_, after, -, -, hread⟩ := exists_read?_of_mem_scan h
  obtain ⟨x, hx, hraw, hinner⟩ := exists_inner?_of_read? hfamily hread
  refine ⟨x, hx, List.append_cancel_right hraw, ?_⟩
  rw [family_of_mem_scan h, hinner]

/-- No token is empty. -/
theorem offset_lt_stop_of_mem_scan (h : token ∈ scan family offset t) :
    token.offset < token.stop := by
  obtain ⟨_, after, -, -, hread⟩ := exists_read?_of_mem_scan h
  have hlength := length_lt_of_read? hread
  rw [stop]
  cases hraw : token.raw with
  | nil => simp [hraw] at hlength
  | cons c tail =>
    have hpos := c.utf8Size_pos
    rw [utf8Size_cons]
    omega

/-- A token stands at its offset. -/
theorem Located.exists_append (h : Located offset t tokens) (hmem : token ∈ tokens) :
    ∃ before after, t = before ++ (token.raw ++ after) ∧
      offset + before.utf8Size = token.offset := by
  induction h with
  | nil => simp at hmem
  | @cons offset gap rest first tokens hoffset _ ih =>
    rcases List.mem_cons.mp hmem with rfl | hmem
    · exact ⟨gap, rest, rfl, hoffset.symm⟩
    · obtain ⟨before, after, rfl, hsize⟩ := ih hmem
      refine ⟨gap ++ (first.raw ++ before), after, by simp only [List.append_assoc], ?_⟩
      rw [← hsize, stop, hoffset, utf8Size_append, utf8Size_append]
      omega

/-- The text of a token stands in the text. -/
theorem Located.raw_occurs (h : Located offset t tokens) (hmem : token ∈ tokens) :
    token.raw <:+: t := by
  obtain ⟨before, after, rfl, -⟩ := h.exists_append hmem
  exact List.infix_append' before token.raw after

/-- Offsets grow along tokens in their places. -/
theorem Located.le_offset (h : Located offset t tokens) (hmem : token ∈ tokens) :
    offset ≤ token.offset := by
  induction h with
  | nil => simp at hmem
  | cons hoffset _ ih =>
    rcases List.mem_cons.mp hmem with rfl | hmem
    · omega
    · have := ih hmem
      rw [stop] at this
      omega

/-- Tokens in their places do not overlap. -/
theorem Located.pairwise (h : Located offset t tokens) :
    tokens.Pairwise fun a b => a.stop ≤ b.offset := by
  induction h with
  | nil => exact .nil
  | cons _ hrest ih => exact .cons (fun _ hmem => hrest.le_offset hmem) ih

/-- A text without `{` has no named or indexed tokens. -/
theorem ofFamily_eq_nil (hfamily : family ≠ .hex) (ht : '{' ∉ t) : ofFamily family t = [] := by
  rw [List.eq_nil_iff_forall_not_mem]
  intro token hmem
  obtain ⟨x, -, hraw, -⟩ := spelled_of_mem_scan hfamily hmem
  have hoccurs := (located_scan family 0 t).raw_occurs hmem
  rw [hraw] at hoccurs
  exact ht (hoccurs.subset List.mem_cons_self)

/-- Tokens of one family are all tokens of that family. -/
theorem filter_family_eq_self (h : ∀ token ∈ tokens, token.family = family) :
    tokens.filter (·.family = family) = tokens :=
  List.filter_eq_self.mpr fun token hmem => decide_eq_true (h token hmem)

/-- Tokens of one family are none of another. -/
theorem filter_family_eq_nil {other : Family} (hne : other ≠ family)
    (h : ∀ token ∈ tokens, token.family = other) : tokens.filter (·.family = family) = [] :=
  List.filter_eq_nil_iff.mpr fun token hmem => by simp [h token hmem, hne]

/-! ### The order of offsets -/

/-- Offsets are ordered transitively. -/
theorem offset_le_trans (a b c : Token) (hab : decide (a.offset ≤ b.offset) = true)
    (hbc : decide (b.offset ≤ c.offset) = true) : decide (a.offset ≤ c.offset) = true :=
  decide_eq_true ((of_decide_eq_true hab).trans (of_decide_eq_true hbc))

/-- Any two offsets are ordered. -/
theorem offset_le_total (a b : Token) :
    (decide (a.offset ≤ b.offset) || decide (b.offset ≤ a.offset)) = true := by
  rw [Bool.or_eq_true, decide_eq_true_eq, decide_eq_true_eq]
  exact Nat.le_total _ _

/-- The tokens of all families are ordered by offset. -/
theorem pairwise_offset_ofText (t : Text) :
    (ofText t).Pairwise fun a b => a.offset ≤ b.offset :=
  (List.pairwise_mergeSort offset_le_trans offset_le_total _).imp of_decide_eq_true

/-- Ordering the tokens of all families keeps those of each family as they were scanned. -/
theorem filter_family_ofText (family : Family) (t : Text) :
    (ofText t).filter (·.family = family) = ofFamily family t := by
  set all := ofFamily .named t ++ ofFamily .hex t ++ ofFamily .indexed t with hall
  have hmem : ∀ family, ∀ token ∈ ofFamily family t, token.family = family :=
    fun _ _ => family_of_mem_scan
  have hfilter : all.filter (·.family = family) = ofFamily family t := by
    rw [hall, List.filter_append, List.filter_append]
    cases family
    · rw [filter_family_eq_self (hmem _), filter_family_eq_nil (by decide) (hmem .hex),
        filter_family_eq_nil (by decide) (hmem .indexed), List.append_nil, List.append_nil]
    · rw [filter_family_eq_self (hmem _), filter_family_eq_nil (by decide) (hmem .hex),
        filter_family_eq_nil (by decide) (hmem .named), List.nil_append, List.nil_append]
    · rw [filter_family_eq_self (hmem _), filter_family_eq_nil (by decide) (hmem .named),
        filter_family_eq_nil (by decide) (hmem .indexed), List.append_nil, List.nil_append]
  have hsorted : (ofFamily family t).Pairwise fun a b => decide (a.offset ≤ b.offset) = true :=
    (located_scan family 0 t).pairwise.imp fun {a b} h => by
      rw [stop] at h
      exact decide_eq_true (by omega)
  -- The order of offsets is total, so the sorted list keeps every ordered part of the whole.
  have hsub : (ofFamily family t).Sublist (ofText t) :=
    List.sublist_mergeSort offset_le_trans offset_le_total hsorted
      (hfilter ▸ List.filter_sublist)
  have hperm : ((ofText t).filter (·.family = family)).Perm (ofFamily family t) :=
    hfilter ▸ (List.mergeSort_perm all _).filter _
  have hself := hsub.filter (·.family = family)
  rw [filter_family_eq_self (hmem family)] at hself
  exact (hself.eq_of_length hperm.length_eq.symm).symm

end Stencil.Token
