import Mathlib
import Stencil.Proofs.Expansion.Evaluation

/-!
# Expansion by position

An expansion never looks at the offsets of tokens: it searches the working text for their
texts. The texts that tokens are replaced by, other tokens and stray braces may all get in the
way of such a search. In a template whose braces are separated, and with replacements that
bring no `{` along, nothing does: the expansion is the template with the spans of its tokens
replaced.

The invariant is about the part of the working text before the next token. It is settled, so no
token can begin in it and end behind it, and the texts of the tokens that are still to come do
not occur in it.

## Main definitions

* `Stencil.splice`: a text with the spans of tokens replaced, character by character.
* `Stencil.Edits`: texts for the tokens of a family that stand for something.

## Main results

* `replaceAll_splice`: replacing first occurrences replaces spans.
* `expand_eq_splice`: what an expansion returns, and the error it fails with.
-/

namespace Stencil

open Placeholder Text

variable {edits others done later : List (Token × Text)} {edit : Token × Text} {token : Token}
  {text front s t body rest : Text} {offset : Nat} {c : Char}

/-! ### Splicing -/

/-- Whether a byte of the template belongs to a token. -/
def Token.covers (token : Token) (offset : Nat) : Bool :=
  token.offset ≤ offset && offset < token.stop

/-- A text that starts at byte `offset` with the spans of tokens replaced. A character outside
of all spans stays as it is. The first character of a span gives way to the text for the token,
the other ones to nothing. -/
def splice (edits : List (Token × Text)) (offset : Nat) : Text → Text
  | [] => []
  | c :: rest =>
    (match edits.find? fun edit => edit.1.covers offset with
      | none => [c]
      | some (token, text) => if token.offset = offset then text else []) ++
      splice edits (offset + c.utf8Size) rest

@[simp] theorem splice_nil (edits : List (Token × Text)) (offset : Nat) :
    splice edits offset [] = [] := rfl

/-- A span covers no byte in front of it. -/
theorem Token.covers_of_lt (h : offset < token.offset) : token.covers offset = false := by
  simp only [covers, Bool.and_eq_false_iff, decide_eq_false_iff_not]
  omega

/-- A span covers no byte behind it. -/
theorem Token.covers_of_stop_le (h : token.stop ≤ offset) : token.covers offset = false := by
  simp only [covers, Bool.and_eq_false_iff, decide_eq_false_iff_not]
  omega

/-- Text before all spans stays as it is. -/
theorem splice_append (h : ∀ edit ∈ edits, offset + s.utf8Size ≤ edit.1.offset) (t : Text) :
    splice edits offset (s ++ t) = s ++ splice edits (offset + s.utf8Size) t := by
  induction s generalizing offset with
  | nil => simp
  | cons c s ih =>
    have hpos := Char.utf8Size_pos c
    have hfind : edits.find? (fun edit => edit.1.covers offset) = none := by
      rw [List.find?_eq_none]
      intro edit hmem
      have hle := h edit hmem
      rw [utf8Size_cons] at hle
      rw [Token.covers_of_lt (by omega)]
      exact Bool.false_ne_true
    rw [List.cons_append, splice, hfind, ih fun edit hmem => ?_]
    · simp [Nat.add_assoc]
    · have hle := h edit hmem
      rw [utf8Size_cons] at hle
      omega

/-- Without edits the text stays. -/
@[simp] theorem splice_of_no_edits (offset : Nat) (t : Text) : splice [] offset t = t := by
  simpa using @splice_append [] t offset (by simp) []

/-- A span that lies behind has no effect. -/
theorem splice_past (h : token.stop ≤ offset) (text t : Text) :
    splice (done ++ (token, text) :: later) offset t = splice (done ++ later) offset t := by
  induction t generalizing offset with
  | nil => rfl
  | cons c t ih =>
    have hfind : (done ++ (token, text) :: later).find? (fun edit => edit.1.covers offset) =
        (done ++ later).find? (fun edit => edit.1.covers offset) := by
      rw [List.find?_append, List.find?_append,
        List.find?_cons_of_neg (by rw [Token.covers_of_stop_le h]; exact Bool.false_ne_true)]
    rw [splice, splice, hfind, ih (by omega)]

/-- Within a span, the span is the only one that matters. -/
theorem find?_covers (h : ∀ edit ∈ done ++ later, token.stop ≤ edit.1.offset)
    (hcovers : token.covers offset = true) :
    (done ++ (token, text) :: later).find? (fun edit => edit.1.covers offset) =
      some (token, text) := by
  have hlt : offset < token.stop := by
    simp only [Token.covers, Bool.and_eq_true, decide_eq_true_eq] at hcovers
    exact hcovers.2
  have hdone : done.find? (fun edit => edit.1.covers offset) = none := by
    rw [List.find?_eq_none]
    intro edit hmem
    have hle := h edit (List.mem_append_left later hmem)
    rw [Token.covers_of_lt (by omega)]
    exact Bool.false_ne_true
  rw [List.find?_append, hdone, Option.none_or]
  exact List.find?_cons_of_pos hcovers

/-- What is left of a span gives way to nothing. -/
theorem splice_inside (h : ∀ edit ∈ done ++ later, token.stop ≤ edit.1.offset)
    (hstart : token.offset < offset) (hstop : offset + s.utf8Size = token.stop)
    (text t : Text) :
    splice (done ++ (token, text) :: later) offset (s ++ t) =
      splice (done ++ later) token.stop t := by
  induction s generalizing offset with
  | nil =>
    rw [utf8Size_nil, Nat.add_zero] at hstop
    rw [List.nil_append, hstop, splice_past le_rfl]
  | cons c s ih =>
    have hpos := Char.utf8Size_pos c
    rw [utf8Size_cons] at hstop
    have hcovers : token.covers offset = true := by
      simp only [Token.covers, Bool.and_eq_true, decide_eq_true_eq]
      omega
    rw [List.cons_append, splice, find?_covers h hcovers, ih (by omega) (by omega)]
    simp [hstart.ne]

/-- **A span** gives way to the text for its token. -/
theorem splice_hole (hraw : token.raw ≠ [])
    (h : ∀ edit ∈ done ++ later, token.stop ≤ edit.1.offset) (text t : Text) :
    splice (done ++ (token, text) :: later) token.offset (token.raw ++ t) =
      text ++ splice (done ++ later) token.stop t := by
  obtain ⟨c, s, hs⟩ := List.exists_cons_of_ne_nil hraw
  have hpos := Char.utf8Size_pos c
  have hstop : token.offset + (c.utf8Size + utf8Size s) = token.stop := by
    rw [Token.stop, hs, utf8Size_cons]
  have hcovers : token.covers token.offset = true := by
    simp only [Token.covers, Bool.and_eq_true, decide_eq_true_eq]
    omega
  rw [hs, List.cons_append, splice, find?_covers h hcovers,
    splice_inside h (by omega) (by omega)]
  simp

/-- A character comes from the text or from a replacement. -/
theorem mem_splice (h : c ∈ splice edits offset t) : c ∈ t ∨ ∃ edit ∈ edits, c ∈ edit.2 := by
  induction t generalizing offset with
  | nil => simp at h
  | cons d t ih =>
    rw [splice, List.mem_append] at h
    rcases h with h | h
    · split at h
      · exact Or.inl (List.mem_cons.mpr (Or.inl (List.mem_singleton.mp h)))
      · next token text hfind =>
        split at h
        · exact Or.inr ⟨_, List.mem_of_find?_eq_some hfind, h⟩
        · simp at h
    · exact (ih h).imp_left (List.mem_cons_of_mem d)

/-! ### Texts for tokens -/

variable {family other : Family} {known known' : Placeholder → Bool}

/-- **Edits** for a text that starts at byte `offset`: a text for each token of a family that
is known to stand for something, in the order of the tokens. -/
def Edits (family : Family) (known : Placeholder → Bool) (offset : Nat) (t : Text)
    (edits : List (Token × Text)) : Prop :=
  edits.map Prod.fst = (Token.scan family offset t).filter fun token => known token.placeholder

/-- Where nothing is known to stand for anything, there are no edits. -/
theorem edits_nil (family : Family) (offset : Nat) (t : Text) :
    Edits family (fun _ => false) offset t [] := by
  simp [Edits]

namespace Edits

/-- The token of an edit is a token of the text, and known. -/
theorem mem_scan (h : Edits family known offset t edits) (hmem : edit ∈ edits) :
    edit.1 ∈ Token.scan family offset t ∧ known edit.1.placeholder = true := by
  have hmem : edit.1 ∈ edits.map Prod.fst := List.mem_map_of_mem hmem
  rw [h] at hmem
  exact List.mem_filter.mp hmem

/-- The token of an edit does not begin before the text. -/
theorem le_offset (h : Edits family known offset t edits) (hmem : edit ∈ edits) :
    offset ≤ edit.1.offset :=
  (Token.located_scan family offset t).le_offset (h.mem_scan hmem).1

/-- The text of the token of an edit spells a placeholder that is known. -/
theorem exists_body (h : Edits family known offset t edits) (hfamily : family ≠ .hex)
    (hmem : edit ∈ edits) :
    ∃ body placeholder, '}' ∉ body ∧ edit.1.raw = braced body ∧
      inner? family body = some placeholder ∧ known placeholder = true := by
  obtain ⟨hscan, hknown⟩ := h.mem_scan hmem
  obtain ⟨body, hbody, hraw, hinner⟩ := Token.spelled_of_mem_scan hfamily hscan
  rw [Token.family_of_mem_scan hscan] at hinner
  exact ⟨body, _, hbody, hraw, hinner, hknown⟩

/-- Text without `{` takes no edits. -/
theorem of_append (h : Edits family known offset (s ++ t) edits) (hfamily : family ≠ .hex)
    (hs : '{' ∉ s) : Edits family known (offset + s.utf8Size) t edits := by
  rwa [Edits, Token.scan_append_of_not_mem hfamily hs] at h

/-- A brace without its partner takes no edits. -/
theorem eq_nil_of_stray (h : Edits family known offset ('{' :: rest) edits)
    (hfamily : family ≠ .hex) (hopen : '{' ∉ rest) (hclose : '}' ∉ rest) : edits = [] := by
  rw [Edits, Token.scan_stray hfamily hopen hclose] at h
  exact List.map_eq_nil_iff.mp h

/-- A group takes the first edit if it spells a placeholder that is known, and none
otherwise. -/
theorem of_group (h : Edits family known offset (braced body ++ rest) edits)
    (hfamily : family ≠ .hex) (hopen : '{' ∉ body) (hclose : '}' ∉ body) :
    ((∀ placeholder, inner? family body = some placeholder → known placeholder = false) ∧
        Edits family known (offset + (braced body).utf8Size) rest edits) ∨
      ∃ placeholder text later, inner? family body = some placeholder ∧
        edits = (⟨placeholder, braced body, offset⟩, text) :: later ∧
        Edits family known (offset + (braced body).utf8Size) rest later := by
  cases hinner : inner? family body with
  | none =>
    rw [Edits, Token.scan_group_of_none hfamily hopen hclose hinner] at h
    exact Or.inl ⟨by simp, h⟩
  | some placeholder =>
    rw [Edits, Token.scan_group_of_some hfamily hclose hinner] at h
    by_cases hknown : known placeholder = true
    · simp only [List.filter_cons, hknown, if_true, List.map_eq_cons_iff] at h
      obtain ⟨⟨token, text⟩, later, rfl, rfl, hlater⟩ := h
      exact Or.inr ⟨placeholder, text, later, rfl, rfl, hlater⟩
    · simp only [List.filter_cons, hknown, Bool.false_eq_true, if_false] at h
      refine Or.inl ⟨fun found hfound => ?_, h⟩
      obtain rfl := Option.some.inj hfound
      exact eq_false_of_ne_true hknown

end Edits

/-- Edits of two families lie behind the start of the text. -/
theorem le_offset_append (hothers : Edits other known' offset t others)
    (hedits : Edits family known offset t edits) :
    ∀ edit ∈ others ++ edits, offset ≤ edit.1.offset := by
  intro edit hmem
  rcases List.mem_append.mp hmem with hmem | hmem
  · exact hothers.le_offset hmem
  · exact hedits.le_offset hmem

/-! ### Replacing first occurrences -/

/-- **The invariant** of a part of the working text behind which edits are still to come: it is
settled, and the texts of their tokens do not occur in it. -/
def Clear (edits : List (Token × Text)) (front : Text) : Prop :=
  Settled front ∧ ∀ edit ∈ edits, ¬ edit.1.raw <:+: front

namespace Clear

/-- In front of the text nothing can be in the way. -/
theorem nil (hedits : Edits family known offset t edits) (hfamily : family ≠ .hex) :
    Clear edits [] := by
  refine ⟨settled_of_not_mem List.not_mem_nil, fun edit hmem hoccurs => ?_⟩
  obtain ⟨body, -, -, hraw, -⟩ := hedits.exists_body hfamily hmem
  rw [hraw, List.infix_nil] at hoccurs
  exact List.cons_ne_nil _ _ hoccurs

/-- A part that is clear of edits is clear of the later ones. -/
theorem of_cons (h : Clear (edit :: edits) front) : Clear edits front :=
  ⟨h.1, fun later hmem => h.2 later (List.mem_cons_of_mem _ hmem)⟩

/-- A settled text that holds none of the tokens' texts may follow. -/
theorem append (h : Clear edits front) (hedits : Edits family known offset t edits)
    (hfamily : family ≠ .hex) (hs : Clear edits s) : Clear edits (front ++ s) := by
  refine ⟨h.1.append hs.1, fun edit hmem hoccurs => ?_⟩
  obtain ⟨body, -, hclose, hraw, -⟩ := hedits.exists_body hfamily hmem
  have hfront := h.2 edit hmem
  have hback := hs.2 edit hmem
  rw [hraw] at hoccurs hfront hback
  exact (h.1.infix_append hclose hoccurs).elim hfront hback

/-- Text without `{` may follow. -/
theorem append_plain (h : Clear edits front) (hedits : Edits family known offset t edits)
    (hfamily : family ≠ .hex) (hs : '{' ∉ s) : Clear edits (front ++ s) := by
  refine h.append hedits hfamily ⟨settled_of_not_mem hs, fun edit hmem hoccurs => ?_⟩
  obtain ⟨body, -, -, hraw, -⟩ := hedits.exists_body hfamily hmem
  rw [hraw] at hoccurs
  exact hs (hoccurs.subset List.mem_cons_self)

/-- A group may follow that spells no placeholder with an edit. -/
theorem append_group (h : Clear edits front) (hedits : Edits family known offset t edits)
    (hfamily : family ≠ .hex) (hopen : '{' ∉ body) (hclose : '}' ∉ body)
    (hunknown : ∀ placeholder, inner? family body = some placeholder →
      known placeholder = false) : Clear edits (front ++ braced body) := by
  refine h.append hedits hfamily ⟨settled_concat ('{' :: body), fun edit hmem hoccurs => ?_⟩
  obtain ⟨body', placeholder, -, hraw, hinner, hknown⟩ := hedits.exists_body hfamily hmem
  rw [hraw] at hoccurs
  obtain rfl := eq_of_braced_infix hopen hclose hoccurs
  rw [hunknown placeholder hinner] at hknown
  exact Bool.false_ne_true hknown

end Clear

/-- The span of a group that is a token gives way to the text for it. -/
theorem splice_group {placeholder : Placeholder}
    (h : ∀ edit ∈ done ++ later, offset + (braced body).utf8Size ≤ edit.1.offset)
    (text rest : Text) :
    splice (done ++ (⟨placeholder, braced body, offset⟩, text) :: later) offset
        (braced body ++ rest) =
      text ++ splice (done ++ later) (offset + (braced body).utf8Size) rest :=
  @splice_hole done later ⟨placeholder, braced body, offset⟩ (List.cons_ne_nil _ _) h text rest

/-- So does the span of the first token, if its edit comes first. -/
theorem splice_group_first {placeholder : Placeholder}
    (h : ∀ edit ∈ later, offset + (braced body).utf8Size ≤ edit.1.offset) (text rest : Text) :
    splice ((⟨placeholder, braced body, offset⟩, text) :: later) offset (braced body ++ rest) =
      text ++ splice later (offset + (braced body).utf8Size) rest :=
  @splice_group [] later body offset placeholder h text rest

/-- **First occurrences are spans.** Edits of one family, with the spans of the other family's
edits replaced already: replacing first occurrences replaces the spans of the edits. -/
theorem replaceAll_splice (ht : Grouped t) (hfamily : family ≠ .hex) (hother : other ≠ .hex)
    (hne : other ≠ family) (hothers : Edits other known' offset t others)
    (hedits : Edits family known offset t edits) (hplain' : ∀ edit ∈ others, '{' ∉ edit.2)
    (hplain : ∀ edit ∈ edits, '{' ∉ edit.2) (hfront : Clear edits front) :
    replaceAll edits (front ++ splice others offset t) =
      front ++ splice (others ++ edits) offset t := by
  induction ht generalizing offset others edits front with
  | nil =>
    obtain rfl : edits = [] := by simpa [Edits] using hedits
    simp
  | @skip c rest hc _ ih =>
    have hs : '{' ∉ [c] := by simpa using Ne.symm hc
    have hothers' : Edits other known' (offset + utf8Size [c]) rest others :=
      hothers.of_append hother hs
    have hedits' : Edits family known (offset + utf8Size [c]) rest edits :=
      hedits.of_append hfamily hs
    have hnext := ih hothers' hedits' hplain' hplain (hfront.append_plain hedits hfamily hs)
    rw [← List.singleton_append, splice_append fun _ => hothers'.le_offset,
      splice_append (le_offset_append hothers' hedits'), ← List.append_assoc, hnext,
      List.append_assoc]
  | @stray rest hopen hclose =>
    obtain rfl := hedits.eq_nil_of_stray hfamily hopen hclose
    rw [List.append_nil, replaceAll_nil]
  | @group body rest hopen hclose _ ih =>
    rcases hothers.of_group hother hopen hclose with
      ⟨-, hothers'⟩ | ⟨placeholder, text, others', hinner, rfl, hothers'⟩
    · rcases hedits.of_group hfamily hopen hclose with
        ⟨hunknown, hedits'⟩ | ⟨placeholder, text, edits', -, rfl, hedits'⟩
      · have hnext := ih hothers' hedits' hplain' hplain
          (hfront.append_group hedits hfamily hopen hclose hunknown)
        rw [splice_append fun _ => hothers'.le_offset,
          splice_append (le_offset_append hothers' hedits'), ← List.append_assoc, hnext,
          List.append_assoc]
      · rw [List.forall_mem_cons] at hplain
        have hcut := (closed_braced hclose).cutAround_append (hfront.2 _ List.mem_cons_self)
          (splice others (offset + (braced body).utf8Size) rest)
        have hnext := ih hothers' hedits' hplain' hplain.2
          (hfront.of_cons.append_plain hedits' hfamily hplain.1)
        rw [splice_append fun _ => hothers'.le_offset, replaceAll_cons,
          replaceFirst_of_cutAround hcut, splice_group (le_offset_append hothers' hedits'),
          ← List.append_assoc, hnext, List.append_assoc]
    · have hnone : inner? family body = none := inner?_eq_none_of_ne hne.symm hinner
      have hedits' : Edits family known (offset + (braced body).utf8Size) rest edits := by
        rwa [Edits, Token.scan_group_of_none hfamily hopen hclose hnone] at hedits
      rw [List.forall_mem_cons] at hplain'
      have hnext := ih hothers' hedits' hplain'.2 hplain
        (hfront.append_plain hedits hfamily hplain'.1)
      rw [splice_group_first fun _ => hothers'.le_offset, List.cons_append,
        splice_group_first (le_offset_append hothers' hedits'), ← List.append_assoc, hnext,
        List.append_assoc]

/-- The tokens of a family are in order in a text with the spans of the other family's edits
replaced. -/
theorem inOrder_splice (ht : Grouped t) (hfamily : family ≠ .hex) (hother : other ≠ .hex)
    (hne : other ≠ family) (hothers : Edits other known' offset t others) :
    Token.InOrder (splice others offset t) (Token.scan family offset t) := by
  induction ht generalizing offset others with
  | nil =>
    rw [Token.scan_nil]
    exact .nil _
  | @skip c rest hc _ ih =>
    have hs : '{' ∉ [c] := by simpa using Ne.symm hc
    have hothers' : Edits other known' (offset + utf8Size [c]) rest others :=
      hothers.of_append hother hs
    rw [← List.singleton_append, splice_append fun _ => hothers'.le_offset,
      Token.scan_append_of_not_mem hfamily hs]
    exact (ih hothers').append_left [c]
  | @stray rest hopen hclose =>
    rw [Token.scan_stray hfamily hopen hclose]
    exact .nil _
  | @group body rest hopen hclose _ ih =>
    rcases hothers.of_group hother hopen hclose with
      ⟨-, hothers'⟩ | ⟨placeholder, text, others', hinner, rfl, hothers'⟩
    · rw [splice_append fun _ => hothers'.le_offset]
      cases hinner : inner? family body with
      | none =>
        rw [Token.scan_group_of_none hfamily hopen hclose hinner]
        exact (ih hothers').append_left (braced body)
      | some placeholder =>
        rw [Token.scan_group_of_some hfamily hclose hinner]
        exact @Token.InOrder.cons [] _ ⟨placeholder, braced body, offset⟩ _ (ih hothers')
    · have hnone : inner? family body = none := inner?_eq_none_of_ne hne.symm hinner
      rw [splice_group_first fun _ => hothers'.le_offset,
        Token.scan_group_of_none hfamily hopen hclose hnone]
      exact (ih hothers').append_left text

/-! ### Expansion -/

variable {σ : Type}

/-- **Expansion by position.** In a template with separated braces and without `#`, an
expansion evaluates the named and then the indexed tokens, each from left to right, and puts
what they stand for in their places; everything else stays as it is. It fails with the first
failing evaluation. The texts for named tokens must be free of `{` and `#`, those for indexed
tokens of `{`. -/
theorem expand_eq_splice (s : Session σ) (env : Environment) (template : Text)
    (named : NamedValues σ) (args : List Value) (hseparated : Separated template)
    (hhash : '#' ∉ template)
    (hplain : ∀ names s', (evaluateAll (namedText? env (lookup named s.registry) args)
        (Token.ofFamily .named template)).run s = (.ok names, s') →
      (∀ edit ∈ names, '{' ∉ edit.2 ∧ '#' ∉ edit.2) ∧
      ∀ values s'', (evaluateAll (indexedText? args)
          (Token.ofFamily .indexed template)).run s' = (.ok values, s'') →
        ∀ edit ∈ values, '{' ∉ edit.2) :
    s.expand env template named args = Action.run (do
      let names ← evaluateAll (namedText? env (lookup named s.registry) args)
        (Token.ofFamily .named template)
      let values ← evaluateAll (indexedText? args) (Token.ofFamily .indexed template)
      pure (splice (names ++ values) 0 template)) s := by
  rw [expand_eq]
  rcases hnames : (evaluateAll (namedText? env (lookup named s.registry) args)
    (Token.ofFamily .named template)).run s with ⟨e | names, s'⟩
  · rw [Action.run_bind_of_error hnames, Action.run_bind_of_error hnames]
  rw [Action.run_bind_of_ok hnames, Action.run_bind_of_ok hnames]
  obtain ⟨hnamed, hindexed⟩ := hplain names s' hnames
  have hedits : Edits .named (fun placeholder =>
      (namedText? env (lookup named s.registry) args ⟨placeholder, [], 0⟩).isSome) 0 template
      names := evaluateAll_tokens hnames
  have hresolved : replaceAll names template = splice names 0 template := by
    have hpass := replaceAll_splice hseparated.grouped (by decide) (by decide) (by decide)
      (edits_nil .indexed 0 template) hedits (by simp) (fun edit hmem => (hnamed edit hmem).1)
      (.nil hedits (by decide))
    simpa using hpass
  have hdecoded : decodeEscapes (replaceAll names template) = splice names 0 template := by
    rw [hresolved, decodeEscapes_eq_self]
    intro hmem
    rcases mem_splice hmem with hmem | ⟨edit, hedit, hmem⟩
    · exact hhash hmem
    · exact (hnamed edit hedit).2 hmem
  have horder : Token.InOrder (splice names 0 template) (Token.ofFamily .indexed template) :=
    inOrder_splice hseparated.grouped (by decide) (by decide) (by decide) hedits
  have hpass :=
    substituteAll_eq_replaceAll (indexedText? args : _ → Option (Action σ Text)) horder
    (fun token hmem => closed_of_mem_ofFamily (by decide) hmem) []
  rw [hdecoded, ← List.nil_append (splice names 0 template), hpass, map_eq_pure_bind]
  rcases hvalues : (evaluateAll (indexedText? args)
    (Token.ofFamily .indexed template)).run s' with ⟨e | values, s''⟩
  · rw [Action.run_bind_of_error hvalues, Action.run_bind_of_error hvalues]
  have hedits' : Edits .indexed (fun placeholder =>
      (indexedText? args ⟨placeholder, [], 0⟩ : Option (Action σ Text)).isSome) 0 template
      values := evaluateAll_tokens hvalues
  rw [Action.run_bind_of_ok hvalues, Action.run_bind_of_ok hvalues,
    replaceAll_splice hseparated.grouped (by decide) (by decide) (by decide) hedits hedits'
      (fun edit hmem => (hnamed edit hmem).1) (hindexed values s'' hvalues)
      (.nil hedits' (by decide)), List.nil_append]

/-- A template with a width, an unknown name, and a width with a limit. -/
def paddedTemplate : Text := "{A,3}{B}{0,-4,3}".toList

/-- A named and an indexed token are replaced, padded and cut, and an unknown name stays. -/
theorem expand_eq_splice_mixed :
    Session.small.expand .still paddedTemplate ∅ [.str "yz".toList] =
      (.ok "  x{B}yz ".toList, .small) := by
  have hseparated : Separated paddedTemplate :=
    (@Grouped.group "A,3".toList _ (by decide) (by decide) <|
      @Grouped.group "B".toList _ (by decide) (by decide) <|
        @Grouped.group "0,-4,3".toList _ (by decide) (by decide) .nil).separated
  have hnamed : Token.ofFamily .named paddedTemplate =
      [⟨.named ['A'] none ⟨some 3, none, none⟩, "{A,3}".toList, 0⟩,
        ⟨.named ['B'] none .plain, "{B}".toList, 5⟩] := by
    decide +kernel
  have hindexed : Token.ofFamily .indexed paddedTemplate =
      [⟨.indexed 0 ⟨some (-4), some 3, none⟩, "{0,-4,3}".toList, 8⟩] := by
    decide +kernel
  have hnames : (evaluateAll (namedText? .still (lookup ∅ Session.small.registry)
      [.str "yz".toList]) (Token.ofFamily .named paddedTemplate)).run .small =
      (.ok [(⟨.named ['A'] none ⟨some 3, none, none⟩, "{A,3}".toList, 0⟩, "  x".toList)],
        .small) := by
    rw [hnamed]
    cbv
  have hvalues : ∀ s : Session Unit, (evaluateAll (indexedText? [.str "yz".toList])
      (Token.ofFamily .indexed paddedTemplate)).run s =
      (.ok [(⟨.indexed 0 ⟨some (-4), some 3, none⟩, "{0,-4,3}".toList, 8⟩, "yz ".toList)],
        s) := fun s => by
    rw [hindexed]
    cbv
  rw [expand_eq_splice _ _ _ _ _ hseparated (by decide), Action.run_bind_of_ok hnames,
    Action.run_bind_of_ok (hvalues _)]
  · cbv
  · intro names s' h
    rw [hnames] at h
    obtain ⟨rfl, -⟩ : [_] = names ∧ _ = s' := by simpa using h
    refine ⟨by decide, fun values s'' h' => ?_⟩
    rw [hvalues] at h'
    obtain ⟨rfl, -⟩ : [_] = values ∧ _ = s'' := by simpa using h'
    decide

end Stencil
