import Mathlib.Data.List.Infix
import Stencil.Proofs.Text.Braces

/-!
# Occurrences of closed texts

The text of a brace token ends with `}` and has no other `}`. Such **closed** texts cannot
overlap: where one of them occurs, no other starts before it and ends inside it. So a search
for a closed text is settled by what stands in front of its own place, and replacing a closed
text takes away at most one occurrence of any other.

## Main results

* `Closed.cutAround_append`: a closed text is found at its own place unless it occurs before.
* `Closed.cutAround_of_append`: it is found at its own place or completely before it.
* `Closed.occurrences_le_replaced`: what replacing a closed text costs another closed text.
-/

namespace Stencil.Text

/-! ### Closed texts -/

/-- A text is **closed** if `}` is its last character and stands nowhere else in it. -/
def Closed (t : Text) : Prop := ∃ body : Text, '}' ∉ body ∧ t = body ++ ['}']

variable {p q raw s t u x y before after : Text}

/-- A text without `}` is closed once it stands between braces. -/
theorem closed_braced {body : Text} (h : '}' ∉ body) : Closed (braced body) :=
  ⟨'{' :: body, by simp [h], rfl⟩

/-- A closed text has a `}`. -/
theorem Closed.mem (h : Closed t) : '}' ∈ t := by
  obtain ⟨body, -, rfl⟩ := h
  simp

/-- No closed text is empty. -/
theorem Closed.ne_nil (h : Closed t) : t ≠ [] := List.ne_nil_of_mem h.mem

/-- What is left of a closed text without its last characters has no brace. -/
theorem Closed.not_mem_of_prefix (h : Closed t) (hp : p <+: t) (hne : p ≠ t) : '}' ∉ p := by
  obtain ⟨body, hbody, rfl⟩ := h
  rcases List.prefix_concat_iff.mp hp with rfl | hp
  · exact absurd rfl hne
  · exact fun hmem => hbody (hp.subset hmem)

/-- The first brace of a text settles which closed text it starts with. -/
theorem Closed.prefix_append_iff (h : Closed raw) (hp : '}' ∈ p) :
    raw <+: p ++ s ↔ raw <+: p := by
  refine ⟨fun hraw => ?_, fun hraw => hraw.trans (List.prefix_append p s)⟩
  rcases List.prefix_or_prefix_of_prefix hraw (List.prefix_append p s) with hle | hle
  · exact hle
  · by_cases heq : p = raw
    · exact heq ▸ List.prefix_rfl
    · exact absurd hp (h.not_mem_of_prefix hle heq)

/-! ### Searching -/

/-- A search fails exactly if the pattern does not occur. -/
theorem cutAround_eq_none_iff : cutAround p t = none ↔ ¬ p <:+: t := by
  induction t with
  | nil => by_cases hp : p = [] <;> simp [cutAround, hp]
  | cons c rest ih =>
    rw [cutAround, List.infix_cons_iff]
    cases h : after? p (c :: rest) with
    | some tail =>
      rw [after?_eq_some_iff] at h
      simp [h]
    | none =>
      have hstart : ¬ p <+: c :: rest := by
        rintro ⟨tail, htail⟩
        rw [after?_eq_some_iff.mpr htail.symm] at h
        exact absurd h (by simp)
      simp [hstart, ih]

/-- A search in a longer text finds what a search in its beginning finds. -/
theorem cutAround_append (h : cutAround p t = some (before, after)) (u : Text) :
    cutAround p (t ++ u) = some (before, after ++ u) := by
  induction t generalizing before with
  | nil =>
    simp only [cutAround, List.isEmpty_iff, Option.ite_none_right_eq_some] at h
    obtain ⟨rfl, h⟩ := h
    cases u <;> simp_all [cutAround, after?]
  | cons c rest ih =>
    rw [cutAround] at h
    rw [List.cons_append, cutAround]
    cases hafter : after? p (c :: rest) with
    | some tail =>
      have hlong : after? p (c :: (rest ++ u)) = some (tail ++ u) := by
        rw [after?_eq_some_iff, ← List.cons_append, after?_eq_some_iff.mp hafter,
          List.append_assoc]
      simp only [hafter, Option.some.injEq, Prod.mk.injEq] at h
      rw [hlong, ← h.1, ← h.2]
    | none =>
      simp only [hafter, Option.map_eq_some_iff, Prod.mk.injEq, Prod.exists] at h
      obtain ⟨b, a, hcut, rfl, rfl⟩ := h
      have hlen : p.length ≤ (c :: rest).length := by
        rw [cutAround_eq_some hcut]
        simp
        omega
      have hlong : after? p (c :: (rest ++ u)) = none := by
        rw [Option.eq_none_iff_forall_ne_some]
        intro tail htail
        rw [after?_eq_some_iff, ← List.cons_append] at htail
        obtain ⟨tail', htail'⟩ := List.prefix_of_prefix_length_le ⟨tail, htail.symm⟩
          (List.prefix_append (c :: rest) u) hlen
        rw [after?_eq_some_iff.mpr htail'.symm] at hafter
        exact absurd hafter (by simp)
      simp [hlong, ih hcut]

/-- Two copies of a closed text cannot overlap. -/
theorem Closed.not_prefix_append (h : Closed raw) (hne : p ≠ []) (hp : ¬ raw <+: p) :
    ¬ raw <+: p ++ (raw ++ s) := by
  rw [← List.append_assoc, h.prefix_append_iff (List.mem_append_right p h.mem)]
  intro hraw
  rcases List.prefix_or_prefix_of_prefix hraw (List.prefix_append p raw) with hle | hle
  · exact hp hle
  · obtain ⟨middle, hmiddle⟩ := hle
    have hstart : middle <+: raw := by
      rw [← hmiddle] at hraw
      exact (List.prefix_append_right_inj p).mp (hmiddle ▸ hraw)
    have hshort : middle ≠ raw := by
      rintro rfl
      simp_all
    -- The first copy ends in `middle`, with which the second one starts.
    refine h.not_mem_of_prefix hstart hshort ?_
    obtain ⟨body, -, hbody⟩ := h
    have hlast : middle ≠ [] := by
      rintro rfl
      exact hp (by rw [← hmiddle, List.append_nil])
    have : (p ++ middle).getLast? = some '}' := by rw [hmiddle, hbody]; simp
    rw [List.getLast?_append_of_ne_nil _ hlast] at this
    exact List.mem_of_getLast? this

/-- A closed text is found at its own place if it does not occur before. -/
theorem Closed.cutAround_append (h : Closed raw) (hx : ¬ raw <:+: x) (s : Text) :
    cutAround raw (x ++ (raw ++ s)) = some (x, s) := by
  induction x with
  | nil =>
    obtain ⟨c, rest, rfl⟩ := List.exists_cons_of_ne_nil h.ne_nil
    rw [List.nil_append, List.cons_append, cutAround, ← List.cons_append,
      after?_eq_some_iff.mpr rfl]
  | cons c rest ih =>
    rw [List.infix_cons_iff, not_or] at hx
    have hafter : after? raw (c :: (rest ++ (raw ++ s))) = none := by
      rw [Option.eq_none_iff_forall_ne_some]
      intro tail htail
      exact h.not_prefix_append (List.cons_ne_nil c rest) hx.1
        ⟨tail, (after?_eq_some_iff.mp htail).symm⟩
    rw [List.cons_append, cutAround, hafter, ih hx.2]
    rfl

/-- A closed text is found at its own place or completely before it. -/
theorem Closed.cutAround_of_append (h : Closed raw) (x s : Text) :
    cutAround raw (x ++ (raw ++ s)) = some (x, s) ∨
      ∃ before between, x = before ++ (raw ++ between) ∧
        cutAround raw (x ++ (raw ++ s)) = some (before, between ++ (raw ++ s)) := by
  by_cases hx : raw <:+: x
  · right
    cases hcut : cutAround raw x with
    | none => exact absurd hx (cutAround_eq_none_iff.mp hcut)
    | some found =>
      obtain ⟨before, between⟩ := found
      exact ⟨before, between, cutAround_eq_some hcut, Text.cutAround_append hcut _⟩
  · exact Or.inl (h.cutAround_append hx s)

/-- A search for a closed text succeeds where the text stands, and what follows stays behind
what it finds. -/
theorem Closed.exists_cutAround (h : Closed raw) (x s : Text) :
    ∃ front kept, cutAround raw (x ++ (raw ++ s)) = some (front, kept ++ s) := by
  rcases h.cutAround_of_append x s with hcut | ⟨before, between, -, hcut⟩
  · exact ⟨x, [], hcut⟩
  · exact ⟨before, between ++ raw, by rw [hcut, List.append_assoc]⟩

/-! ### Counting -/

/-- The number of places at which a text occurs in another. -/
def occurrences (p : Text) : Text → Nat
  | [] => if p = [] then 1 else 0
  | c :: rest => (if p <+: c :: rest then 1 else 0) + occurrences p rest

@[simp] theorem occurrences_nil (hp : p ≠ []) : occurrences p [] = 0 := by
  simp [occurrences, hp]

/-- A text occurs at least once exactly if it is a part of the other one. -/
theorem occurrences_pos_iff : 0 < occurrences p t ↔ p <:+: t := by
  induction t with
  | nil => by_cases hp : p = [] <;> simp [occurrences, hp]
  | cons c rest ih =>
    rw [occurrences, List.infix_cons_iff, ← ih]
    by_cases h : p <+: c :: rest
    · simp only [h, if_true, true_or, iff_true]
      omega
    · simp [h]

/-- What occurs in either part of a text occurs in the text. -/
theorem add_occurrences_le_append (hp : p ≠ []) (s t : Text) :
    occurrences p s + occurrences p t ≤ occurrences p (s ++ t) := by
  induction s with
  | nil => simp [hp]
  | cons c rest ih =>
    rw [List.cons_append, occurrences, occurrences]
    by_cases h : p <+: c :: rest
    · have hlong : p <+: c :: (rest ++ t) := h.trans (List.prefix_append (c :: rest) t)
      rw [if_pos h, if_pos hlong]
      omega
    · rw [if_neg h]
      omega

/-- A further character completes one occurrence at most. -/
theorem occurrences_concat (hp : p ≠ []) (t : Text) (c : Char) :
    occurrences p (t ++ [c]) = occurrences p t + if p <:+ t ++ [c] then 1 else 0 := by
  induction t with
  | nil =>
    have hstart : p <+: [c] ↔ p = [c] := by
      simpa [hp] using @List.prefix_concat_iff _ p [] c
    have hsuffix : p <:+ [c] ↔ p = [c] := by simp [List.suffix_cons_iff, hp]
    simp [occurrences, hp, hstart, hsuffix]
  | cons x rest ih =>
    have hstart : p <+: x :: (rest ++ [c]) ↔ p = x :: (rest ++ [c]) ∨ p <+: x :: rest :=
      @List.prefix_concat_iff _ p (x :: rest) c
    rw [List.cons_append, occurrences, occurrences, ih]
    simp only [hstart, List.suffix_cons_iff]
    by_cases heq : p = x :: (rest ++ [c])
    · have hshort : ¬ x :: (rest ++ [c]) <+: x :: rest := fun h => by
        have := h.length_le
        simp only [List.length_cons, List.length_append, List.length_nil] at this
        omega
      have hshort' : ¬ x :: (rest ++ [c]) <:+ rest ++ [c] := fun h => by
        have := h.length_le
        simp only [List.length_cons, List.length_append, List.length_nil] at this
        omega
      simp only [heq, hshort, hshort', or_false, if_true, if_false]
      omega
    · simp only [heq, false_or]
      omega

namespace Closed

/-- Text without a brace does not complete an occurrence. -/
theorem occurrences_append_of_not_mem (h : Closed p) (hs : '}' ∉ s) (t : Text) :
    occurrences p (t ++ s) = occurrences p t := by
  induction s using List.reverseRecOn with
  | nil => rw [List.append_nil]
  | append_singleton s c ih =>
    have hnot : ¬ p <:+ t ++ s ++ [c] := by
      obtain ⟨body, -, rfl⟩ := h
      rintro ⟨front, hfront⟩
      rw [← List.append_assoc] at hfront
      have := (List.append_inj' hfront rfl).2
      simp_all
    rw [← List.append_assoc, occurrences_concat h.ne_nil, if_neg hnot, Nat.add_zero,
      ih (by simp_all)]

/-- No occurrence reaches across a brace. -/
theorem occurrences_append (h : Closed p) (s t : Text) :
    occurrences p (s ++ ['}'] ++ t) = occurrences p (s ++ ['}']) + occurrences p t := by
  induction s with
  | nil =>
    have hp : p <+: ['}'] ++ t ↔ p <+: ['}'] := h.prefix_append_iff (by simp)
    simp only [List.nil_append, List.cons_append] at hp ⊢
    simp [occurrences, hp, h.ne_nil]
  | cons c rest ih =>
    have hp : p <+: c :: rest ++ ['}'] ++ t ↔ p <+: c :: rest ++ ['}'] :=
      h.prefix_append_iff (by simp)
    simp only [List.cons_append] at hp ⊢
    rw [occurrences, occurrences, ih]
    simp only [hp]
    omega

/-- **What a replacement costs.** Replacing an occurrence of a closed text takes away at most
one occurrence of another, and none unless one of the two ends the other. -/
theorem occurrences_le_replaced (hp : Closed p) (hq : Closed q)
    (before replacement after : Text) :
    occurrences p (before ++ (q ++ after)) ≤
      occurrences p (before ++ (replacement ++ after)) +
        if p <:+ q ∨ q <:+ p then 1 else 0 := by
  have hcost : occurrences p (before ++ q) ≤
      occurrences p before + if p <:+ q ∨ q <:+ p then 1 else 0 := by
    obtain ⟨body, hbody, rfl⟩ := hq
    rw [← List.append_assoc, occurrences_concat hp.ne_nil,
      hp.occurrences_append_of_not_mem hbody, List.append_assoc]
    by_cases hend : p <:+ before ++ (body ++ ['}'])
    · rw [if_pos hend, if_pos (List.suffix_or_suffix_of_suffix hend (List.suffix_append ..))]
    · simp [hend]
  have hcross : occurrences p (before ++ q ++ after) =
      occurrences p (before ++ q) + occurrences p after := by
    obtain ⟨body, -, rfl⟩ := hq
    simpa only [List.append_assoc] using hp.occurrences_append (before ++ body) after
  calc occurrences p (before ++ (q ++ after))
      = occurrences p (before ++ q) + occurrences p after := by
        rw [← List.append_assoc, hcross]
    _ ≤ occurrences p before + occurrences p after +
          if p <:+ q ∨ q <:+ p then 1 else 0 := by omega
    _ ≤ occurrences p before + occurrences p (replacement ++ after) +
          if p <:+ q ∨ q <:+ p then 1 else 0 := by
        have := add_occurrences_le_append hp.ne_nil replacement after
        omega
    _ ≤ occurrences p (before ++ (replacement ++ after)) +
          if p <:+ q ∨ q <:+ p then 1 else 0 := by
        have := add_occurrences_le_append hp.ne_nil before (replacement ++ after)
        omega

end Closed

end Stencil.Text
