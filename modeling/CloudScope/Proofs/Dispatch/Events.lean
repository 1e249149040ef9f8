import CloudScope.Dispatch.Sender
import CloudScope.Proofs.Dispatch.Trace

/-!
# Events of sending

A traced sender does what the sender does, and notes each run of the transport and of the functions
of its interceptors, with what it is given and what it comes to. Actions under a trace are compared
with those without it by the events they add (`Action.Notes`).
-/

namespace CloudScope

variable {σ ε υ α β : Type}

/-! ## What actions note -/

/-- Puts a computation under a trace, and notes there what it comes to. -/
def Session.recorded (note : β → υ) (x : StateM (Session σ) β) :
    StateM (Session (σ × List υ)) β := fun s =>
  let (b, after) := x s.untraced
  (b, after.traced (s.trace ++ [note b]))

namespace Action

/-- Under a trace, an action comes to the same as without it, and the events that it adds suit what
it comes to. -/
def Notes (x' : Action (σ × List υ) ε β) (x : Action σ ε β)
    (suits : List υ → Except ε β → Prop) : Prop :=
  ∀ s trace, ∃ events, x' (s.traced trace) = ((x s).1, (x s).2.traced (trace ++ events)) ∧
    suits events (x s).1

section

variable {x' : Action (σ × List υ) ε α} {x : Action σ ε α}
  {suits : List υ → Except ε β → Prop}

theorem Notes.ofExcept {result : Except ε β} (h : suits [] result) :
    (Action.ofExcept result : Action (σ × List υ) ε β).Notes (Action.ofExcept result) suits := by
  intro s trace
  exact ⟨[], by rw [List.append_nil]; rfl, h⟩

theorem Notes.pure {b : β} (h : suits [] (.ok b)) :
    (pure b : Action (σ × List υ) ε β).Notes (pure b) suits := by
  change Notes (Action.ofExcept (.ok b)) (Action.ofExcept (.ok b)) suits
  exact .ofExcept h

theorem Notes.ofExcept_bind {φ : Type} {result : Except φ α} {ofError : φ → ε}
    {f' : α → Action (σ × List υ) ε β} {f : α → Action σ ε β}
    (herror : ∀ e, result = .error e → suits [] (.error (ofError e)))
    (hok : ∀ a, result = .ok a → (f' a).Notes (f a) suits) :
    Notes (Action.ofExcept (result.mapError ofError) >>= f')
      (Action.ofExcept (result.mapError ofError) >>= f) suits := by
  cases result with
  | error e => exact .ofExcept (herror e rfl)
  | ok a => exact hok a rfl

/-- What a sequence notes is what its first part notes, followed by what the second part notes if
there is one. -/
theorem Notes.bind {f' : α → Action (σ × List υ) ε β} {f : α → Action σ ε β}
    {suits' : List υ → Except ε α → Prop} (hx : x'.Notes x suits')
    (herror : ∀ events e, suits' events (.error e) → suits events (.error e))
    (hok : ∀ events a, suits' events (.ok a) →
      (f' a).Notes (f a) fun events' => suits (events ++ events')) :
    (x' >>= f').Notes (x >>= f) suits := by
  intro s trace
  obtain ⟨events, hx', hsuits⟩ := hx s trace
  rcases hs : x s with ⟨e | a, t⟩ <;> rw [hs] at hx' hsuits
  · rw [bind_error hx', bind_error hs]
    exact ⟨events, rfl, herror events e hsuits⟩
  · rw [bind_ok hx', bind_ok hs]
    obtain ⟨events', hf, hsuits'⟩ := hok events a hsuits t (trace ++ events)
    exact ⟨events ++ events', by rw [hf, List.append_assoc], hsuits'⟩

theorem Notes.map {f : α → β} (h : x'.Notes x fun events result => suits events (f <$> result)) :
    (f <$> x').Notes (f <$> x) suits := by
  rw [map_eq_pure_bind, map_eq_pure_bind]
  refine h.bind (fun _ _ => id) fun events a hsuits => .pure ?_
  rwa [List.append_nil]

/-- A first part that notes its result adds one event. -/
theorem Notes.recorded_bind {φ : Type} {note : Except ε α → υ} {ofError : ε → φ}
    {f' : α → Action (σ × List υ) φ β} {f : α → Action σ φ β}
    {suits : List υ → Except φ β → Prop}
    (herror : ∀ e, suits [note (.error e)] (.error (ofError e)))
    (hok : ∀ a, (f' a).Notes (f a) fun events => suits (note (.ok a) :: events)) :
    Notes (ExceptT.adapt ofError (Session.recorded note x) >>= f')
      (ExceptT.adapt ofError x >>= f) suits := by
  have hx : Notes (ExceptT.adapt ofError (Session.recorded note x)) (ExceptT.adapt ofError x)
      fun events result => ∃ answer, events = [note answer] ∧ answer.mapError ofError = result :=
    fun s _ => ⟨[note (x s).1], rfl, (x s).1, rfl, rfl⟩
  refine hx.bind ?_ ?_
  · rintro _ _ ⟨e | a, rfl, h⟩ <;> cases h
    exact herror e
  · rintro _ a ⟨e | _, rfl, h⟩ <;> cases h
    exact hok a

theorem Notes.recorded_lift_bind {event : υ} {x : StateM (Session σ) α}
    {f' : α → Action (σ × List υ) ε β} {f : α → Action σ ε β}
    (h : ∀ a, (f' a).Notes (f a) fun events => suits (event :: events)) :
    Notes (liftM (Session.recorded (fun _ => event) x) >>= f') (liftM x >>= f) suits := by
  have hx : Notes (liftM (Session.recorded (fun _ => event) x) : Action (σ × List υ) ε α)
      (liftM x) fun events result => events = [event] ∧ ∃ a, result = .ok a :=
    fun s _ => ⟨[event], rfl, rfl, (x s).1, rfl⟩
  refine hx.bind ?_ ?_
  · rintro _ _ ⟨-, _, h⟩
    cases h
  · rintro _ a ⟨rfl, -⟩
    exact h a

theorem Notes.mono {suits suits' : List υ → Except ε α → Prop} (h : x'.Notes x suits)
    (hsuits : ∀ events result, suits events result → suits' events result) :
    x'.Notes x suits' := by
  intro s trace
  obtain ⟨events, hx', h'⟩ := h s trace
  exact ⟨events, hx', hsuits _ _ h'⟩

theorem inFrame_of_push {s : Session σ} {guard : Guard} {context : Context}
    {serviceType endpoint : String} (ofScopeError : ScopeError → ε)
    (h : s.context.push serviceType endpoint = .ok (guard, context)) :
    inFrame ofScopeError serviceType endpoint x s =
      let after := x { s with context }
      (after.1, { after.2 with context := after.2.context.release guard }) := by
  simp only [inFrame, h]
  rfl

/-- Inside a frame that is not refused, an action notes what it notes outside. -/
theorem Notes.inFrame {suits : List υ → Except ε α → Prop} (h : x'.Notes x suits)
    {serviceType endpoint : String} (ofScopeError : ScopeError → ε)
    (hpush : ∀ ctx : Context, ∃ framed, ctx.push serviceType endpoint = .ok framed) :
    (inFrame ofScopeError serviceType endpoint x').Notes
      (inFrame ofScopeError serviceType endpoint x) suits := by
  intro s trace
  obtain ⟨⟨guard, context⟩, hframed⟩ := hpush s.context
  obtain ⟨events, hx', hsuits⟩ := h { s with context } trace
  refine ⟨events, ?_, ?_⟩
  · rw [inFrame_of_push ofScopeError hframed, inFrame_of_push (s := s.traced trace) _ hframed]
    exact congrArg (fun after : Except ε α × Session (σ × List υ) =>
      (after.1, { after.2 with context := after.2.context.release guard })) hx'
  · rwa [inFrame_of_push ofScopeError hframed]

end

end Action

/-! ## Traced senders -/

namespace Sender

/-- A run of a function that a sender is given. Interceptors are told apart by their positions. -/
inductive Event where
  /-- An interceptor saw a request before it was dispatched. -/
  | prepared (index : Nat) (r : Request) (result : Except ScopeError Request)
  | transmitted (r : Request) (result : Except Report Response)
  /-- An interceptor saw an exchange. -/
  | received (index : Nat) (r : Request) (response : Response)

end Sender

open Sender

/-- The interceptor that notes the runs of its functions. -/
def Interceptor.traced (index : Nat) (i : Interceptor σ) : Interceptor (σ × List Event) where
  beforeSend r := Session.recorded (.prepared index r) (i.beforeSend r)
  afterReceive r response :=
    Session.recorded (fun _ => .received index r response) (i.afterReceive r response)

def Interceptor.tracedFrom (start : Nat) (interceptors : List (Interceptor σ)) :
    List (Interceptor (σ × List Event)) :=
  (interceptors.zipIdx start).map fun p => p.1.traced p.2

/-- The sender that notes the runs of its transport and of the functions of its interceptors. -/
def Sender.traced (sender : Sender σ) : Sender (σ × List Event) where
  catalog := sender.catalog
  transport r := Session.recorded (.transmitted r) (sender.transport r)
  interceptors := Interceptor.tracedFrom 0 sender.interceptors

/-- The requests that were given to the transport, with what it made of them. -/
def Sender.exchanges (events : List Event) : List (Request × Except Report Response) :=
  events.filterMap fun
    | .transmitted r result => some (r, result)
    | _ => none

/-- The requests that were given to the transport. -/
def Sender.transmitted (events : List Event) : List Request :=
  (exchanges events).map Prod.fst

section

variable (events events' : List Event)

theorem Sender.exchanges_append :
    exchanges (events ++ events') = exchanges events ++ exchanges events' :=
  List.filterMap_append

theorem Sender.transmitted_append :
    transmitted (events ++ events') = transmitted events ++ transmitted events' := by
  rw [transmitted, exchanges_append, List.map_append]
  rfl

end

/-! ## Before and after the transmission -/

/-- What the interceptors from one position to another note of a request before it is dispatched.
Each is shown what the one before it made of the request, and none after one that refuses it. -/
inductive Prepares (stop : Nat) : Nat → Request → List Event → Except SendError Request → Prop where
  | done {r : Request} : Prepares stop stop r [] (.ok r)
  | refused {index : Nat} {r : Request} {e : ScopeError} : index < stop →
    Prepares stop index r [.prepared index r (.error e)] (.error (.scope e))
  | next {index : Nat} {r r' : Request} {events : List Event} {result : Except SendError Request} :
    index < stop → Prepares stop (index + 1) r' events result →
    Prepares stop index r (.prepared index r (.ok r') :: events) result

/-- What an exchange notes among a number of interceptors. All of them see a response in order. -/
inductive Exchanges (interceptors : Nat) (r : Request) :
    List Event → Except SendError Response → Prop where
  | failed (report : Report) :
    Exchanges interceptors r [.transmitted r (.error report)] (.error (.transport report))
  | answered (response : Response) :
    Exchanges interceptors r
      (.transmitted r (.ok response) ::
        (List.range interceptors).map fun index => .received index r response)
      (.ok response)

theorem Prepares.exchanges_eq {stop index : Nat} {r : Request} {events : List Event}
    {result : Except SendError Request} (h : Prepares stop index r events result) :
    exchanges events = [] := by
  induction h with
  | done | refused => rfl
  | next _ _ ih => exact ih

theorem exchanges_received (indices : List Nat) (r : Request) (response : Response) :
    exchanges (indices.map fun index => .received index r response) = [] := by
  simp [exchanges]

namespace Sender

/-- What a sender does to a request before it is dispatched, by some interceptors. -/
theorem notes_beforeSend (interceptors : List (Interceptor σ)) (start : Nat) (r : Request) :
    Action.Notes
      ((Interceptor.tracedFrom start interceptors).foldlM
        (fun r (i : Interceptor (σ × List Event)) => (i.beforeSend r).adapt SendError.scope) r)
      (interceptors.foldlM (fun r i => (i.beforeSend r).adapt SendError.scope) r)
      (Prepares (start + interceptors.length) start r) := by
  induction interceptors generalizing start r with
  | nil => exact .pure .done
  | cons i interceptors ih =>
    have hlength : start + (i :: interceptors).length = start + 1 + interceptors.length := by
      simp only [List.length_cons]
      omega
    have hstart : start < start + 1 + interceptors.length := by omega
    rw [hlength, List.foldlM_cons]
    exact .recorded_bind (fun e => .refused hstart) fun r' =>
      (ih (start + 1) r').mono fun events result => .next hstart

/-- What a sender shows to some interceptors after an exchange. -/
theorem notes_afterReceive (interceptors : List (Interceptor σ)) (start : Nat) (r : Request)
    (response : Response) :
    Action.Notes
      ((Interceptor.tracedFrom start interceptors).forM fun (i : Interceptor (σ × List Event)) =>
        (liftM (i.afterReceive r response) : Action (σ × List Event) SendError Unit))
      (interceptors.forM fun i => liftM (i.afterReceive r response))
      fun events result => result = .ok () ∧
        events = (List.range' start interceptors.length).map (.received · r response) := by
  induction interceptors generalizing start with
  | nil => exact .pure ⟨rfl, rfl⟩
  | cons i interceptors ih =>
    refine .recorded_lift_bind fun _ => (ih (start + 1)).mono ?_
    rintro _ _ ⟨rfl, rfl⟩
    exact ⟨rfl, rfl⟩

theorem notes_prepare (sender : Sender σ) (r : Request) :
    (sender.traced.prepare r).Notes (sender.prepare r)
      (Prepares sender.interceptors.length 0 r) := by
  have h := notes_beforeSend sender.interceptors 0 r
  rwa [Nat.zero_add] at h

theorem notes_exchange (sender : Sender σ) (r : Request) :
    (sender.traced.exchange r).Notes (sender.exchange r)
      (Exchanges sender.interceptors.length r) := by
  refine .recorded_bind (fun report => .failed report) fun response => ?_
  refine (notes_afterReceive sender.interceptors 0 r response).bind ?_ ?_
  · rintro _ _ ⟨h, -⟩
    cases h
  · rintro _ _ ⟨-, rfl⟩
    refine .pure ?_
    rw [List.append_nil, ← List.range_eq_range']
    exact .answered response

end Sender

end CloudScope
