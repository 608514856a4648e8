import Stencil.Expansion

/-!
# The shared session

A session that a whole program works with. It is set up once, and nothing can be expanded
before that.

## Main definitions

* `Stencil.Shared`: a session that may not be set up yet.
* `Stencil.Shared.init`, `Stencil.Shared.get`, `Stencil.Shared.expand`: setting it up and using
  it.
-/

namespace Stencil

/-- A **shared session**, or none before it is set up. -/
structure Shared (σ : Type) where
  /-- The session. -/
  session? : Option (Session σ)

namespace Shared

variable {σ : Type}

/-- The shared session before it is set up. -/
def unset : Shared σ := ⟨none⟩

/-- The session. -/
def get (s : Shared σ) : ExpandResult (Session σ) :=
  match s.session? with
  | some session => .ok session
  | none => .error .globalNotInitialized

/-- Sets up the session, which only the first call does. -/
def init (s : Shared σ) (session : Session σ) : ExpandResult (Session σ) × Shared σ :=
  match s.session? with
  | none => (.ok session, ⟨some session⟩)
  | some _ => (.error .globalAlreadyInitialized, s)

/-- The outcome of an expansion in the session, and the session after it. -/
def expand (s : Shared σ) (env : Environment) (template : Text) (named : NamedValues σ)
    (args : List Value) : ExpandResult Text × Shared σ :=
  match s.get with
  | .error e => (.error e, s)
  | .ok session =>
    let (result, session) := session.expand env template named args
    (result, ⟨some session⟩)

end Shared

end Stencil
