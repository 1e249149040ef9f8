import CloudScope.Context

/-!
# Actions

What runs in the course of a dispatch acts on a session: the context of the logical request, and
whatever else the parts of the dispatch share. An action that fails keeps what it did before.
-/

namespace CloudScope

/-- What the parts of a dispatch act on. -/
structure Session (σ : Type) where
  context : Context
  /-- What the parts share beside the context. -/
  shared : σ

/-- Acts on a session and comes to a value or an error. -/
abbrev Action (σ ε : Type) := ExceptT ε (StateM (Session σ))

namespace Action

variable {σ ε α : Type}

/-- Comes to a given result and changes nothing. -/
def ofExcept (result : Except ε α) : Action σ ε α := fun s =>
  (result, s)

/-- Runs an action inside a frame. However the action ends, the stack of frames is then cut back to
its depth before the frame. -/
def inFrame (ofScopeError : ScopeError → ε) (serviceType endpoint : String)
    (action : Action σ ε α) : Action σ ε α := fun s =>
  match s.context.push serviceType endpoint with
  | .error e => (.error (ofScopeError e), s)
  | .ok (guard, context) =>
    let (result, s) := action { s with context }
    (result, { s with context := s.context.release guard })

end Action

end CloudScope
