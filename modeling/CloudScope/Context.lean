import CloudScope.Http.ScopeHeader

/-!
# Execution contexts

The context of one logical request: the shell scope, written once, and a stack of frames that name
the endpoint each running part of a dispatch is for. Whoever pushes a frame gets a guard; releasing
it cuts the stack back to its depth at that time.
-/

namespace CloudScope

/-- The endpoint that a part of a dispatch is for. -/
structure Frame where
  serviceType : String
  endpoint : String
deriving DecidableEq, Repr

/-- How a message speaks of a frame. -/
def Frame.text (f : Frame) : String :=
  f.serviceType ++ "@" ++ f.endpoint

structure Context where
  /-- The scope of the session, once it is set. -/
  shell : Option Scope := none
  /-- The stack of frames, the outermost first. -/
  frames : List Frame := []
deriving DecidableEq, Repr

/-- The right to cut a stack of frames back to a depth. -/
structure Guard where
  depth : Nat
deriving DecidableEq, Repr

namespace Context

/-- The context without shell scope and frames. -/
def empty : Context := {}

instance : EmptyCollection Context := ⟨empty⟩

/-- Writes the shell scope, unless it is set or the new one is empty, and says whether it was
written. -/
def setShell (ctx : Context) (s : Scope) : Bool × Context :=
  if s.isEmpty then (false, ctx)
  else
    match ctx.shell with
    | some _ => (false, ctx)
    | none => (true, { ctx with shell := some s })

/-- Writes the shell scope from JSON, which has to be a scope even if it is not written. -/
def setShellJson (ctx : Context) (j : Json) : Except ScopeError (Bool × Context) :=
  match Scope.ofJson j with
  | .ok s => .ok (ctx.setShell s)
  | .error fault => .error (.invalidContextWrite (.scope fault))

/-- The context with the given shell scope. -/
def ofShell (s : Scope) : Context :=
  (empty.setShell s).2

def shellScope (ctx : Context) : Except ScopeError Scope :=
  match ctx.shell with
  | some s => .ok s
  | none => .error .shellScopeUnset

def depth (ctx : Context) : Nat :=
  ctx.frames.length

def peek? (ctx : Context) : Option Frame :=
  ctx.frames.getLast?

/-- Puts a frame on the stack. Its endpoint has to be a single one. -/
def push (ctx : Context) (serviceType endpoint : String) : Except ScopeError (Guard × Context) :=
  if Text.isAllBlank endpoint then .error (.invalidContextWrite .blankEndpoint)
  else if isAtomic endpoint then
    .ok (⟨ctx.depth⟩, { ctx with frames := ctx.frames ++ [⟨serviceType, endpoint⟩] })
  else .error (.invalidContextWrite (.compoundEndpoint endpoint))

/-- Takes the innermost frame off the stack. -/
def pop (ctx : Context) : Option Frame × Context :=
  (ctx.peek?, { ctx with frames := ctx.frames.dropLast })

/-- Cuts the stack back to the depth of a guard. -/
def release (ctx : Context) (g : Guard) : Context :=
  { ctx with frames := ctx.frames.take g.depth }

/-- The shell scope with the endpoint of the innermost frame in the place of its service type. -/
def effectiveScope (ctx : Context) : Except ScopeError Scope := do
  let scope ← ctx.shellScope
  match ctx.peek? with
  | some frame => return scope.insert frame.serviceType frame.endpoint
  | none => return scope

/-- Puts the effective scope into the headers of a request. -/
def inject (ctx : Context) (r : Request) : Except ScopeError Unit × Request :=
  match ctx.effectiveScope with
  | .error e => (.error e, r)
  | .ok scope =>
    let (result, headers) := r.headers.writeScope scope
    (result, { r with headers })

end Context

end CloudScope
