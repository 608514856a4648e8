import Mathlib.Data.List.Infix
import Stencil.Text

/-!
# Braces

A text in which a `}` stands between any two consecutive `{` falls apart into groups `{…}`
without a brace inside, characters between the groups and perhaps a last `{` that nothing
closes. A text is settled if no `{` is still open at its end. What is put behind a settled text
cannot complete a group that begins inside it.

## Main definitions

* `Stencil.Text.braced`: a text between braces.
* `Stencil.Text.Separated`: a `}` stands between any two consecutive `{`.
* `Stencil.Text.Grouped`: the groups of a text, read from left to right.
* `Stencil.Text.Settled`: every `{` of a text is closed.

## Main results

* `Separated.grouped`, `Grouped.separated`: a text falls apart into groups exactly if it is
  separated.
* `Settled.infix_append`: a group occurs in one of two texts put together, the first one
  settled.
-/

namespace Stencil.Text

variable {s t u body : Text}

/-- A text between braces. -/
def braced (body : Text) : Text := '{' :: (body ++ ['}'])

/-- The braces of a text, written out in front of another text. -/
theorem braced_append (body rest : Text) :
    braced body ++ rest = '{' :: (body ++ '}' :: rest) := by
  simp [braced]

/-- Nothing between braces stands in a text between braces but the text itself, if there is no
brace inside. -/
theorem eq_of_braced_infix {inner : Text} (hopen : '{' ∉ body) (hclose : '}' ∉ body)
    (h : braced inner <:+: braced body) : inner = body := by
  obtain ⟨before, after, heq⟩ := h
  rw [List.append_assoc, braced_append] at heq
  rcases before with _ | ⟨c, before⟩
  · have htail : inner ++ '}' :: after = body ++ ['}'] := (List.cons.inj heq).2
    rcases List.append_eq_append_iff.mp htail with ⟨more, rfl, hmore⟩ | ⟨more, rfl, hmore⟩
    · rcases List.cons_eq_append_iff.mp hmore with ⟨rfl, -⟩ | ⟨more, rfl, -⟩
      · rw [List.append_nil]
      · exact absurd (by simp) hclose
    · rcases List.cons_eq_append_iff.mp hmore with ⟨rfl, -⟩ | ⟨more, rfl, hnil⟩
      · rw [List.append_nil]
      · simp at hnil
  · have htail : before ++ '{' :: (inner ++ '}' :: after) = body ++ ['}'] :=
      (List.cons.inj heq).2
    have hmem : '{' ∈ body ++ ['}'] := htail ▸ List.mem_append_right before List.mem_cons_self
    rcases List.mem_append.mp hmem with hmem | hmem
    · exact absurd hmem hopen
    · simp at hmem

/-! ### Groups -/

/-- A text is **separated** if a `}` stands between any two consecutive `{` of it. -/
def Separated (t : Text) : Prop :=
  ∀ before between after : Text,
    t = before ++ '{' :: (between ++ '{' :: after) → '{' ∉ between → '}' ∈ between

/-- The groups of a text from left to right: a character between the groups, a group without a
brace inside, or a `{` behind which there is no other brace. -/
inductive Grouped : Text → Prop
  | nil : Grouped []
  | skip {c : Char} {rest : Text} : c ≠ '{' → Grouped rest → Grouped (c :: rest)
  | stray {rest : Text} : '{' ∉ rest → '}' ∉ rest → Grouped ('{' :: rest)
  | group {body rest : Text} : '{' ∉ body → '}' ∉ body → Grouped rest →
      Grouped (braced body ++ rest)

/-- Text behind a `{` has no further `{` before the next `}`. -/
theorem Separated.not_mem (h : Separated ('{' :: (body ++ t))) (hbody : '}' ∉ body) :
    '{' ∉ body := by
  intro hmem
  obtain ⟨between, after, rfl, hbetween⟩ := List.eq_append_cons_of_mem hmem
  exact hbody (List.mem_append_left _ (h [] between (after ++ t) (by simp) hbetween))

/-- What stands behind a part of a separated text is separated, too. -/
theorem Separated.of_append (h : Separated (s ++ t)) : Separated t := by
  rintro before between after rfl
  exact h (s ++ before) between after (by simp)

/-- A separated text falls apart into groups. -/
theorem Separated.grouped (h : Separated t) : Grouped t := by
  induction hlength : t.length using Nat.strong_induction_on generalizing t with
  | _ n ih =>
    subst hlength
    rcases t with _ | ⟨c, rest⟩
    · exact .nil
    by_cases hc : c = '{'
    · subst hc
      by_cases hclose : '}' ∈ rest
      · obtain ⟨body, after, rfl, hbody⟩ := List.eq_append_cons_of_mem hclose
        have hafter : Separated after :=
          Separated.of_append (s := braced body) (braced_append body after ▸ h)
        rw [← braced_append]
        refine .group (h.not_mem hbody) hbody (ih after.length ?_ hafter rfl)
        simp only [List.length_cons, List.length_append]
        omega
      · refine .stray (Separated.not_mem (t := []) ?_ hclose) hclose
        rwa [List.append_nil]
    · exact .skip hc (ih rest.length (by simp) (Separated.of_append (s := [c]) h) rfl)

/-- Nothing else falls apart into groups. -/
theorem Grouped.separated (h : Grouped t) : Separated t := by
  induction h with
  | nil =>
    intro before between after heq
    simp at heq
  | @skip c rest hc _ ih =>
    intro before between after heq
    rcases List.cons_eq_append_iff.mp heq with ⟨-, hhead⟩ | ⟨before, -, hrest⟩
    · exact absurd (List.cons.inj hhead).1.symm hc
    · exact ih before between after hrest
  | @stray rest hopen _ =>
    intro before between after heq
    refine absurd ?_ hopen
    rcases List.cons_eq_append_iff.mp heq with ⟨-, hhead⟩ | ⟨before, -, rfl⟩
    · rw [← (List.cons.inj hhead).2]
      simp
    · simp
  | @group body rest hopen _ _ ih =>
    intro before between after heq
    -- A `{` behind the first one stands behind the closing brace of the group.
    have hbehind : ∀ before after : Text, body ++ '}' :: rest = before ++ '{' :: after →
        ∃ middle, before = body ++ '}' :: middle ∧ rest = middle ++ '{' :: after := by
      intro before after heq
      rcases List.append_eq_append_iff.mp heq with ⟨more, rfl, hmore⟩ | ⟨more, rfl, hmore⟩
      · rcases List.cons_eq_append_iff.mp hmore with ⟨-, hhead⟩ | ⟨middle, rfl, hrest⟩
        · exact absurd (List.cons.inj hhead).1 (by decide)
        · exact ⟨middle, rfl, hrest⟩
      · rcases List.cons_eq_append_iff.mp hmore with ⟨-, hhead⟩ | ⟨middle, rfl, -⟩
        · exact absurd (List.cons.inj hhead).1 (by decide)
        · exact absurd (by simp) hopen
    rw [braced_append] at heq
    intro hbetween
    rcases List.cons_eq_append_iff.mp heq with ⟨-, hhead⟩ | ⟨before, -, hrest⟩
    · obtain ⟨middle, rfl, -⟩ := hbehind between after (List.cons.inj hhead).2.symm
      simp
    · obtain ⟨middle, -, hmiddle⟩ := hbehind before _ hrest
      exact ih middle between after hmiddle hbetween

/-! ### Settled texts -/

/-- A text is **settled** if a `}` follows on each of its `{`. -/
def Settled (t : Text) : Prop :=
  ∀ before after : Text, t = before ++ '{' :: after → '}' ∈ after

/-- A text without `{` is settled, since no token begins in it. -/
theorem settled_of_not_mem (h : '{' ∉ t) : Settled t := by
  rintro before after rfl
  exact absurd (by simp) h

/-- A closing brace settles everything before it. -/
theorem settled_concat (t : Text) : Settled (t ++ ['}']) := by
  intro before after h
  have hlast : ('{' :: after).getLast? = some '}' := by
    rw [← List.getLast?_append_of_ne_nil before (List.cons_ne_nil _ _), ← h]
    simp
  rcases List.mem_cons.mp (List.mem_of_getLast? hlast) with heq | hmem
  · exact absurd heq (by decide)
  · exact hmem

/-- Settled texts are settled one behind the other. -/
theorem Settled.append (hs : Settled s) (ht : Settled t) : Settled (s ++ t) := by
  intro before after h
  rcases List.append_eq_append_iff.mp h with ⟨middle, rfl, hmiddle⟩ | ⟨middle, hmiddle, htail⟩
  · exact ht middle after hmiddle
  · rcases List.cons_eq_append_iff.mp htail with ⟨rfl, hback⟩ | ⟨middle, rfl, rfl⟩
    · exact ht [] after (by rw [hback, List.nil_append])
    · exact List.mem_append_left t (hs before middle hmiddle)

/-- A group occurs in one of two texts put together, if the first one is settled. -/
theorem Settled.infix_append (hs : Settled s) (hbody : '}' ∉ body)
    (h : braced body <:+: s ++ t) : braced body <:+: s ∨ braced body <:+: t := by
  obtain ⟨before, after, heq⟩ := h
  rw [List.append_assoc] at heq
  rcases List.append_eq_append_iff.mp heq with ⟨front, rfl, hfront⟩ | ⟨front, rfl, hfront⟩
  · rcases List.append_eq_append_iff.mp hfront with ⟨tail, rfl, -⟩ | ⟨tail, htail, rfl⟩
    · exact Or.inl (List.infix_append' before _ tail)
    · rcases List.cons_eq_append_iff.mp htail with ⟨rfl, rfl⟩ | ⟨opened, rfl, hopened⟩
      · exact Or.inr (List.prefix_append _ after).isInfix
      · -- The group begins in `s`, so its brace stands in `s` too and nothing of it is left.
        have hclose : '}' ∈ opened := hs before opened rfl
        rcases List.append_eq_append_iff.mp hopened with ⟨more, rfl, hmore⟩ | ⟨more, hmore, -⟩
        · obtain ⟨rfl, rfl⟩ : more = ['}'] ∧ tail = [] := by
            rcases more with _ | ⟨d, more⟩
            · simp_all
            · simpa [eq_comm, and_assoc] using hmore
          exact Or.inl ⟨before, [], by simp [braced]⟩
        · exact absurd (hmore ▸ List.mem_append_left more hclose) hbody
  · exact Or.inr ⟨front, after, by rw [List.append_assoc, hfront]⟩

end Stencil.Text
