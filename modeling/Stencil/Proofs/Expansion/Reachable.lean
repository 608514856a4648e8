import Mathlib
import Stencil.Proofs.Expansion.Overlay
import Stencil.Proofs.Placeholder.Forms
import Stencil.Proofs.Registry
import Stencil.Value.Argument

/-!
# Names that a template can reach

A name can be bound to an expander whatever its characters are, but a template only asks for
names that can be keys. A key between braces is a placeholder by itself: it is the only token
of that text, and expanding it evaluates what the key stands for. A name that is no key is out
of reach, since an expansion depends on the bindings through the keys of its template alone.

## Main results

* `isKey_of_mem_ofFamily`: every named token has a key.
* `ofFamily_named_braced`: a key between braces is one token.
* `expand_braced`: its expansion is what the key stands for.
* `expand_insert_of_not_isKey`, `expand_register_of_not_isKey`: a binding of a name that is no
  key makes no difference.
* `isKey_iff_reachable`: the names that can be keys are the names that templates can reach.
-/

namespace Stencil

open Text Placeholder Token

variable {σ : Type} {name : Text}

/-! ### Keys are reached -/

/-- **Every named token has a key.** -/
theorem isKey_of_mem_ofFamily {t key : Text} {token : Token}
    (hmem : token ∈ Token.ofFamily .named t) (hkey : token.key? = some key) :
    isKey key = true := by
  obtain ⟨before, after, -, -, hread⟩ := exists_read?_of_mem_scan hmem
  obtain ⟨raw, -, -, hwritten⟩ := (read?_brace_iff (by decide)).mp hread
  obtain ⟨placeholder, tokenRaw, offset⟩ := token
  cases hwritten with
  | named _ hisKey =>
    obtain rfl := Option.some.inj hkey
    exact hisKey
  | indexed | bracedHex | bareHex => exact nomatch hkey

/-- A key spells a placeholder without an index and without options. -/
theorem inner?_named_of_isKey (h : isKey name = true) :
    inner? .named name = some (.named name none .plain) :=
  inner?_named_iff.mpr ⟨name, none, .none, none, h, nofun, trivial, nofun,
    by simp [bindingPart, CommaGroups.text, formatPart], rfl⟩

/-- **A key between braces** is one token, which spans the text. -/
theorem ofFamily_named_braced (h : isKey name = true) :
    Token.ofFamily .named (braced name) = [⟨.named name none .plain, braced name, 0⟩] := by
  have hscan := scan_group_of_some (by decide) (not_mem_key h (by decide))
    (inner?_named_of_isKey h) 0 []
  rw [List.append_nil, scan_nil] at hscan
  exact hscan

/-- A key between braces is no indexed token. -/
theorem ofFamily_indexed_braced (h : isKey name = true) :
    Token.ofFamily .indexed (braced name) = [] := by
  have hnone : inner? .indexed name = none :=
    inner?_eq_none_of_ne (by decide) (inner?_named_of_isKey h)
  have hscan := scan_group_of_none (by decide) (not_mem_key h (by decide))
    (not_mem_key h (by decide)) hnone 0 []
  rw [List.append_nil, scan_nil] at hscan
  exact hscan

/-- A text is replaced by another as a whole. -/
theorem replaceFirst_self (raw text : Text) : replaceFirst raw text raw = text := by
  have hafter : after? raw raw = some [] := after?_eq_some_iff.mpr (List.append_nil raw).symm
  have hcut : cutAround raw raw = some ([], []) := by
    cases raw with
    | nil => rfl
    | cons c raw => rw [cutAround, hafter]
  rw [replaceFirst_of_cutAround hcut, List.append_nil, List.nil_append]

/-- **The expansion of a key between braces** is what the key stands for, evaluated without a
format, with the escapes decoded. -/
theorem expand_braced (hname : isKey name = true) (s : Session σ) (env : Environment)
    (named : NamedValues σ) (args : List Value) {e : Expander σ}
    (he : lookup named s.registry name = some e) :
    s.expand env (braced name) named args =
      Action.run (decodeEscapes <$> e.run env ⟨name, [], none, env.now⟩) s := by
  have htext : namedText? env (lookup named s.registry) args
      ⟨.named name none .plain, braced name, 0⟩ =
        some (Layout.plain.fit <$> e.run env ⟨name, [], none, env.now⟩) := by
    simp only [namedText?, he, Option.map_some]
    rfl
  rw [expand_eq, ofFamily_named_braced hname, ofFamily_indexed_braced hname,
    evaluateAll_cons_of_some htext, evaluateAll]
  simp only [bind_assoc, pure_bind, map_eq_pure_bind, replaceAll_cons, replaceAll_nil,
    replaceFirst_self, substituteAll_nil]
  rfl

/-- The name of an assignment is a key. -/
theorem isKey_of_ofText {t : Text} {a : Assignment} (h : Assignment.ofText t = .ok a) :
    isKey a.name = true := by
  rw [Assignment.ofText] at h
  split at h
  · exact nomatch h
  · split at h
    · next hkey =>
      obtain rfl := Except.ok.inj h
      exact hkey
    · exact nomatch h

/-! ### Other names are not -/

variable {key : Text}

/-- A name that is no key differs from every key. -/
theorem ne_of_not_isKey (hname : isKey name = false) (hkey : isKey key = true) : name ≠ key :=
  fun h => by
    rw [h, hkey] at hname
    exact nomatch hname

/-- To bind one name for the call leaves the meaning of the others. -/
theorem lookup_insert_of_ne (named : NamedValues σ) (r : Registry σ) (e : Expander σ)
    (hne : name ≠ key) : lookup (named.insert name e) r key = lookup named r key := by
  rw [lookup, lookup, Std.ExtTreeMap.getElem?_insert, if_neg]
  exact fun h => hne (Std.LawfulEqCmp.eq_of_compare h)

/-- To bind one name in the registry leaves the meaning of the others. -/
theorem lookup_register_of_ne (named : NamedValues σ) (r : Registry σ) (e : Expander σ)
    (hne : name ≠ key) : lookup named (r.register name e) key = lookup named r key := by
  rw [lookup, lookup, Registry.resolve?_register, if_neg hne]

/-- **A binding of the call** under a name that is no key makes no difference. -/
theorem expand_insert_of_not_isKey (hname : isKey name = false) (s : Session σ)
    (env : Environment) (template : Text) (named : NamedValues σ) (args : List Value)
    (e : Expander σ) :
    s.expand env template (named.insert name e) args = s.expand env template named args := by
  rw [expand_eq, expand_eq,
    evaluateAll_congr fun token hmem => namedText?_congr fun key hkey =>
    lookup_insert_of_ne named s.registry e
      (ne_of_not_isKey hname (isKey_of_mem_ofFamily hmem hkey))]

/-- **A binding of the registry** under a name that is no key makes no difference but that it
is there afterwards too. -/
theorem expand_register_of_not_isKey (hname : isKey name = false) (s : Session σ)
    (env : Environment) (template : Text) (named : NamedValues σ) (args : List Value)
    (e : Expander σ) :
    Session.expand { s with registry := s.registry.register name e } env template named args =
      ((s.expand env template named args).1,
        { (s.expand env template named args).2 with
          registry := (s.expand env template named args).2.registry.register name e }) := by
  have hkeys : ∀ token ∈ Token.ofFamily .named template, ∀ key, token.key? = some key →
      lookup named (s.rebind (s.registry.register name e).entries).registry key =
        lookup named s.registry key := fun token hmem key hkey =>
    lookup_register_of_ne named s.registry e
      (ne_of_not_isKey hname (isKey_of_mem_ofFamily hmem hkey))
  refine (expand_rebind_of_keys hkeys env args).trans ?_
  rw [Session.rebind, Registry.register, Registry.register, entries_expand]

/-- **The names that can be keys are the names that templates can reach.** A name is a key if
and only if some text has a named token with that key. A key between braces is one token, which
spans the text, without an index and without options, and its expansion is what the key stands
for; so a name that an assignment accepts is the name that its placeholder looks up. To bind a
name that is no key, for one call or in the registry, changes the outcome of no expansion, nor
anything else that the expansion leaves behind. Handlers of the caller's own are among what
names are bound to. They see their call and their own state but neither bindings nor the
counter, so a name that no template reaches is not reached through one of them either. -/
theorem isKey_iff_reachable (name : Text) :
    (isKey name = true ↔ ∃ t, ∃ token ∈ Token.ofFamily .named t, token.key? = some name) ∧
    (isKey name = true →
      Token.ofFamily .named (braced name) = [⟨.named name none .plain, braced name, 0⟩] ∧
      ∀ (s : Session σ) (env : Environment) (named : NamedValues σ) (args : List Value)
        (e : Expander σ), lookup named s.registry name = some e →
        s.expand env (braced name) named args =
          Action.run (decodeEscapes <$> e.run env ⟨name, [], none, env.now⟩) s) ∧
    (∀ t value, Assignment.ofText t = .ok ⟨name, value⟩ → isKey name = true) ∧
    (isKey name = false → ∀ (s : Session σ) (env : Environment) (template : Text)
        (named : NamedValues σ) (args : List Value) (e : Expander σ),
      s.expand env template (named.insert name e) args = s.expand env template named args ∧
      Session.expand { s with registry := s.registry.register name e } env template named
          args =
        ((s.expand env template named args).1,
          { (s.expand env template named args).2 with
            registry := (s.expand env template named args).2.registry.register name e })) := by
  refine ⟨⟨fun h => ?_, ?_⟩, fun h => ⟨ofFamily_named_braced h, ?_⟩, ?_, ?_⟩
  · exact ⟨braced name, ⟨.named name none .plain, braced name, 0⟩,
      ofFamily_named_braced h ▸ List.mem_cons_self, rfl⟩
  · rintro ⟨t, token, hmem, hkey⟩
    exact isKey_of_mem_ofFamily hmem hkey
  · intro s env named args e he
    exact expand_braced h s env named args he
  · intro t value h
    exact isKey_of_ofText h
  · intro h s env template named args e
    exact ⟨expand_insert_of_not_isKey h s env template named args e,
      expand_register_of_not_isKey h s env template named args e⟩

end Stencil
