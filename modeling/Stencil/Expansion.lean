import Stencil.Builtin
import Stencil.Placeholder.Scan

/-!
# Expansion

A template is expanded in three passes: its named placeholders, through the bindings of the
call and then those of the registry; the hexadecimal escapes of the text so far; and, if there
are arguments, its indexed placeholders. A named or indexed placeholder replaces the first
remaining occurrence of its exact text. One whose text does not occur any more is passed over
without being evaluated, and so is one that stands for nothing.

## Main definitions

* `Stencil.decodeEscapes`: a text with its hexadecimal escapes decoded.
* `Stencil.substituteAll`: tokens replaced one after the other in a working text.
* `Stencil.Action.expand`: the expansion of a template.
-/

namespace Stencil

/-! ### Hexadecimal escapes -/

/-- The text of an escape. -/
def escapeText : Placeholder → Text
  | .hex encoding digits _ => encoding.decodeHex digits
  | .named .. | .indexed .. => []

/-- A text with its hexadecimal escapes decoded from left to right; what an escape decodes to
is not looked at again. -/
def decodeEscapes (t : Text) : Text :=
  match t with
  | [] => []
  | c :: rest =>
    match _h : Placeholder.read? .hex (c :: rest) with
    | none => c :: decodeEscapes rest
    | some (placeholder, after) => escapeText placeholder ++ decodeEscapes after
termination_by t.length
decreasing_by
  · simp
  · exact Placeholder.length_lt_of_read? _h

/-! ### Evaluation -/

variable {σ : Type}

/-- The text of an expander for a call. -/
def Expander.run (env : Environment) (call : HandlerCall) : Expander σ → Action σ Text
  | value v => .ofResult (v.format call.format)
  | builtin b => b.run env call
  | custom handler => .onCustom (handler call)

/-- What a named token is replaced by, or nothing where its key is not bound. -/
def namedText? (env : Environment) (lookup : Text → Option (Expander σ)) (args : List Value)
    (token : Token) : Option (Action σ Text) :=
  match token.placeholder with
  | .named key index layout =>
    (lookup key).map fun expander =>
      layout.fit <$> expander.run env ⟨key, layout.formatText, index.bind (args[·]?), env.now⟩
  | .indexed .. | .hex .. => none

/-- What an indexed token is replaced by, or nothing where there is no such argument. -/
def indexedText? (args : List Value) (token : Token) : Option (Action σ Text) :=
  match token.placeholder with
  | .indexed index layout =>
    args[index]?.map fun v => layout.fit <$> .ofResult (v.format layout.formatText)
  | .named .. | .hex .. => none

/-! ### Substitution -/

/-- A text with the first occurrence of `raw` replaced by the outcome of an action, which does
not take place where there is no occurrence. -/
def substitute (raw : Text) (replacement : Action σ Text) (working : Text) : Action σ Text :=
  match Text.cutAround raw working with
  | none => pure working
  | some (before, after) => (fun text => before ++ (text ++ after)) <$> replacement

/-- Tokens replaced one after the other in a working text. -/
def substituteAll (text? : Token → Option (Action σ Text)) (tokens : List Token)
    (working : Text) : Action σ Text :=
  tokens.foldlM (fun working token =>
    match text? token with
    | none => pure working
    | some replacement => substitute token.raw replacement working) working

/-! ### Templates -/

/-- What a key stands for: its binding for the call, or else its binding in the registry. -/
def lookup (named : NamedValues σ) (registry : Registry σ) (key : Text) :
    Option (Expander σ) :=
  named[key]?.or (registry.resolve? key)

/-- The expansion of a template with bindings of its own and positional arguments. A blank
template is left as it is. -/
def Action.expand (env : Environment) (template : Text) (named : NamedValues σ)
    (args : List Value) : Action σ Text := do
  if template.trim = [] then pure template
  else
    let session ← get
    let tokens := Token.ofText template
    let resolved ← substituteAll (namedText? env (lookup named session.registry) args)
      (tokens.filter (·.family = .named)) template
    let decoded := decodeEscapes resolved
    if args = [] then pure decoded
    else substituteAll (indexedText? args) (tokens.filter (·.family = .indexed)) decoded

namespace Session

/-- The outcome of an expansion and the session after it. -/
def expand (s : Session σ) (env : Environment) (template : Text) (named : NamedValues σ)
    (args : List Value) : ExpandResult Text × Session σ :=
  Action.expand env template named args s

end Session

end Stencil
