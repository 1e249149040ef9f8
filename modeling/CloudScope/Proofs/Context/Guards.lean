import CloudScope.Context
import Mathlib

/-!
# Frames and guards over time

Guards may be released in any order, also when their frames are gone. A guard holds nothing but a
depth, and other frames may stand there by then. But these were pushed later than the guard, so no
release takes an older frame away (`Chronicle.sound_run`, `Chronicle.stack_run`).
-/

namespace CloudScope

/-! ## Moves -/

/-- Whether a frame is for a single endpoint: there is more than blanks to it, and no operator. -/
def Frame.IsSingle (f : Frame) : Prop :=
  (∃ c ∈ f.endpoint.toList, Text.isBlank c = false) ∧
    ∀ c ∈ ['&', '|', '^'], c ∉ f.endpoint.toList

/-- A push is accepted if its frame is for a single endpoint, and puts it on the stack. -/
theorem Context.push_eq_ok_iff {ctx : Context} {serviceType endpoint : String}
    {framed : Guard × Context} : ctx.push serviceType endpoint = .ok framed ↔
      (Frame.mk serviceType endpoint).IsSingle ∧
        framed = (⟨ctx.depth⟩, { ctx with frames := ctx.frames ++ [⟨serviceType, endpoint⟩] }) := by
  have hblank : Text.isAllBlank endpoint = false ↔
      ∃ c ∈ endpoint.toList, Text.isBlank c = false := by
    simp [Text.isAllBlank]
  have hatomic : isAtomic endpoint = true ↔ ∀ c ∈ ['&', '|', '^'], c ∉ endpoint.toList := by
    rw [isAtomic, operatorChars, List.all_eq_true]
    grind
  rw [Frame.IsSingle, ← hblank, ← hatomic, Context.push]
  cases Text.isAllBlank endpoint with
  | true => simp
  | false => cases isAtomic endpoint <;> simp [eq_comm]

/-- What is done to a stack of frames. A guard is told by the time of its push. -/
inductive Move where
  | push (serviceType endpoint : String)
  | pop
  | release (time : Nat)
deriving DecidableEq, Repr

/-- A context in the course of moves, with an account of the times of pushes. -/
structure Chronicle where
  context : Context
  /-- The number of moves so far. -/
  time : Nat
  /-- When the frames of the stack were pushed, the outermost frame first. -/
  dates : List Nat
  /-- The guards that are held, by the times of their pushes. -/
  held : Nat → Option Guard

namespace Chronicle

/-- The beginning, with no frames. -/
def start (shell : Option Scope) : Chronicle :=
  ⟨{ shell }, 0, [], fun _ => none⟩

/-- Goes on to the context that a move leaves. A stack changes at its end only: the frames up to
the new depth are those that were there, and one above the old depth is new. -/
def proceed (h : Chronicle) (context : Context) : Chronicle :=
  { h with context, time := h.time + 1, dates := (h.dates ++ [h.time]).take context.depth }

/-- Makes a move. A push that is refused gives no guard, and a guard is released once. -/
def step (h : Chronicle) : Move → Chronicle
  | .push serviceType endpoint =>
    match h.context.push serviceType endpoint with
    | .error _ => h.proceed h.context
    | .ok (guard, context) =>
      { h.proceed context with held := Function.update h.held h.time (some guard) }
  | .pop => h.proceed h.context.pop.2
  | .release time =>
    match h.held time with
    | none => h.proceed h.context
    | some guard =>
      { h.proceed (h.context.release guard) with held := Function.update h.held time none }

def run (h : Chronicle) (moves : List Move) : Chronicle :=
  moves.foldl step h

/-- The frames of the stack with the times of their pushes. -/
def stack (h : Chronicle) : List (Nat × Frame) :=
  h.dates.zip h.context.frames

/-- A move takes a dated frame off the stack: it is a pop that gives the frame, or it releases a
guard that was pushed no later. -/
def Removes (h : Chronicle) (x : Nat × Frame) : Move → Prop
  | .push .. => False
  | .pop => h.stack.getLast? = some x ∧ h.context.pop.1 = some x.2
  | .release time => time ≤ x.1 ∧ ∃ guard, h.held time = some guard

variable {h : Chronicle} {context : Context} {depth time : Nat} {serviceType endpoint : String}
  {guard : Guard} {x : Nat × Frame} {move : Move} {moves : List Move}

/-! ## What a move keeps -/

/-- What holds of a context in the course of moves. Dates ascend along the stack, and from the
depth of a guard on no frame is older than the guard. -/
structure Sound (h : Chronicle) : Prop where
  length_dates : h.dates.length = h.context.depth
  ascending : h.dates.Pairwise (· < ·)
  past : ∀ date ∈ h.dates, date < h.time
  young : ∀ time guard, h.held time = some guard →
    time < h.time ∧ ∀ date ∈ h.dates.drop guard.depth, time ≤ date
  single : ∀ f ∈ h.context.frames, f.IsSingle

theorem Sound.map_fst_stack (hsound : h.Sound) : h.stack.map Prod.fst = h.dates :=
  List.map_fst_zip (Nat.le_of_eq hsound.length_dates)

theorem Sound.map_snd_stack (hsound : h.Sound) : h.stack.map Prod.snd = h.context.frames :=
  List.map_snd_zip (Nat.le_of_eq hsound.length_dates.symm)

theorem sound_start (shell : Option Scope) : (start shell).Sound where
  length_dates := rfl
  ascending := .nil
  past := by simp [start]
  young := by simp [start]
  single := by simp [start]

/-- Going on to an outer part of the stack keeps the dates of that part. -/
theorem Sound.dates_release (hsound : h.Sound) (depth : Nat) :
    (h.proceed (h.context.release ⟨depth⟩)).dates = h.dates.take depth := by
  have hdepth : (h.context.release ⟨depth⟩).depth = min depth h.dates.length := by
    rw [Context.depth, Context.release, List.length_take, hsound.length_dates, Context.depth]
  calc (h.proceed (h.context.release ⟨depth⟩)).dates
      = (h.dates ++ [h.time]).take (min depth h.dates.length) := by rw [← hdepth]; rfl
    _ = h.dates.take (min depth h.dates.length) :=
      List.take_append_of_le_length (Nat.min_le_right ..)
    _ = h.dates.take depth := List.take_eq_take_min.symm

theorem Sound.depth_eq (hsound : h.Sound) : h.stack.length = h.context.depth := by
  rw [← hsound.length_dates, ← hsound.map_fst_stack, List.length_map]

/-! ## One move -/

/-- The course of moves after a push of a frame. -/
def pushed (h : Chronicle) (f : Frame) : Chronicle where
  context := { h.context with frames := h.context.frames ++ [f] }
  time := h.time + 1
  dates := h.dates ++ [h.time]
  held := Function.update h.held h.time (some ⟨h.context.depth⟩)

/-- The course of moves after the stack has been cut back. -/
def cut (h : Chronicle) (depth : Nat) (held : Nat → Option Guard) : Chronicle where
  context := h.context.release ⟨depth⟩
  time := h.time + 1
  dates := h.dates.take depth
  held := held

theorem Sound.step_push (hsound : h.Sound) {f : Frame} (hf : f.IsSingle) :
    h.step (.push f.serviceType f.endpoint) = h.pushed f := by
  have hpush : h.context.push f.serviceType f.endpoint = .ok (⟨h.context.depth⟩,
      { h.context with frames := h.context.frames ++ [f] }) :=
    Context.push_eq_ok_iff.2 ⟨hf, rfl⟩
  simp only [step, hpush, proceed, pushed, Context.depth, List.length_append,
    List.length_singleton]
  rw [List.take_of_length_le (by simp [hsound.length_dates, Context.depth])]

/-- A push that is refused is one for blanks or for a compound. -/
theorem exists_push_eq_error (ctx : Context)
    (hrefused : ¬(Frame.mk serviceType endpoint).IsSingle) :
    ∃ e, ctx.push serviceType endpoint = .error e := by
  cases hpush : ctx.push serviceType endpoint with
  | ok framed => exact absurd (Context.push_eq_ok_iff.1 hpush).1 hrefused
  | error e => exact ⟨e, rfl⟩

theorem Sound.step_idle (hsound : h.Sound) (hmove : h.step move = h.proceed h.context) :
    h.step move = h.cut h.context.depth h.held := by
  have hall : h.context.release ⟨h.context.depth⟩ = h.context := by
    rw [Context.release, Context.depth, List.take_length]
  rw [hmove, cut, ← hsound.dates_release, hall]
  rfl

/-- What a move can do: it pushes a frame for a single endpoint, and gives a guard for the depth so
far, or it cuts the stack back, perhaps by nothing, and gives no guard. -/
theorem Sound.step_cases (hsound : h.Sound) (move : Move) :
    (∃ f : Frame, f.IsSingle ∧ move = .push f.serviceType f.endpoint ∧
      h.step move = h.pushed f) ∨
    ∃ depth held, h.step move = h.cut depth held ∧
      (∀ f : Frame, f.IsSingle → move ≠ .push f.serviceType f.endpoint) ∧
      (∀ time guard, held time = some guard ↔ h.held time = some guard ∧ move ≠ .release time) ∧
      ∀ x ∈ h.stack.drop depth, h.Removes x move := by
  have hnone : h.stack.drop h.context.depth = [] :=
    List.drop_of_length_le (Nat.le_of_eq hsound.depth_eq)
  cases move with
  | push serviceType endpoint =>
    by_cases hf : (Frame.mk serviceType endpoint).IsSingle
    · exact .inl ⟨⟨serviceType, endpoint⟩, hf, rfl, hsound.step_push hf⟩
    · obtain ⟨e, hpush⟩ := exists_push_eq_error h.context hf
      refine .inr ⟨h.context.depth, h.held, hsound.step_idle ?_, ?_, by simp, by simp [hnone]⟩
      · simp only [step, hpush]
      · rintro f hf' ⟨⟩
        exact hf hf'
  | pop =>
    refine .inr ⟨h.context.depth - 1, h.held, ?_, by simp, by simp, fun x hx => ?_⟩
    · simp only [step, Context.pop, List.dropLast_eq_take]
      rw [cut, ← hsound.dates_release]
      rfl
    · have hlast : h.stack.getLast? = some x := by
        rw [← hsound.depth_eq] at hx
        have hlen := List.length_pos_of_mem (List.mem_of_mem_drop hx)
        rw [List.drop_length_sub_one (List.length_pos_iff.1 hlen), List.mem_singleton] at hx
        rw [hx]
        exact List.getLast?_eq_some_getLast _
      refine ⟨hlast, ?_⟩
      rw [Context.pop, Context.peek?, ← hsound.map_snd_stack, List.getLast?_map, hlast]
      rfl
  | release time =>
    cases hheld : h.held time with
    | none =>
      refine .inr ⟨h.context.depth, h.held, hsound.step_idle ?_, by simp, ?_, by simp [hnone]⟩
      · simp only [step, hheld]
      · rintro t guard
        grind
    | some guard =>
      refine .inr ⟨guard.depth, Function.update h.held time none, ?_, by simp, ?_, ?_⟩
      · simp only [step, hheld]
        rw [cut, ← hsound.dates_release]
        rfl
      · intro t guard
        by_cases ht : t = time <;> grind [Function.update]
      · intro x hx
        refine ⟨(hsound.young time guard hheld).2 x.1 ?_, guard, hheld⟩
        rw [← hsound.map_fst_stack, ← List.map_drop]
        exact List.mem_map_of_mem hx

theorem Sound.stack_pushed (hsound : h.Sound) (f : Frame) :
    (h.pushed f).stack = h.stack ++ [(h.time, f)] :=
  List.zip_append hsound.length_dates

theorem stack_cut (h : Chronicle) (depth : Nat) (held : Nat → Option Guard) :
    (h.cut depth held).stack = h.stack.take depth := by
  simp only [stack, cut, Context.release, List.zip_eq_zipWith, List.take_zipWith]

/-- A new frame is younger than the frames it comes upon, and than every guard. -/
theorem Sound.sound_pushed (hsound : h.Sound) {f : Frame} (hf : f.IsSingle) :
    (h.pushed f).Sound where
  length_dates := by simp [pushed, hsound.length_dates, Context.depth]
  ascending := List.pairwise_append.2
    ⟨hsound.ascending, List.pairwise_singleton .., by simpa using hsound.past⟩
  past date hdate := by
    obtain hdate | hdate := List.mem_append.1 hdate
    · exact Nat.lt_succ_of_lt (hsound.past date hdate)
    · exact List.mem_singleton.1 hdate ▸ Nat.lt_succ_self _
  young time guard hguard := by
    by_cases htime : time = h.time
    · obtain rfl : guard = ⟨h.context.depth⟩ := by simpa [pushed, htime] using hguard.symm
      simp [pushed, htime, ← hsound.length_dates]
    · have hguard : h.held time = some guard := by simpa [pushed, htime] using hguard
      obtain ⟨hpast, hyoung⟩ := hsound.young time guard hguard
      refine ⟨Nat.lt_succ_of_lt hpast, fun date hdate => ?_⟩
      rw [pushed, List.drop_append] at hdate
      grind
  single frame hframe := by
    obtain hframe | hframe := List.mem_append.1 hframe
    · exact hsound.single frame hframe
    · exact List.mem_singleton.1 hframe ▸ hf

/-- Cutting the stack back is sound, also if guards are given up. -/
theorem Sound.sound_cut (hsound : h.Sound) (depth : Nat) {held : Nat → Option Guard}
    (hheld : ∀ time guard, held time = some guard → h.held time = some guard) :
    (h.cut depth held).Sound where
  length_dates := by
    simp only [cut, Context.depth, Context.release, List.length_take, hsound.length_dates]
  ascending := hsound.ascending.take
  past date hdate := Nat.lt_succ_of_lt (hsound.past date (List.mem_of_mem_take hdate))
  young time guard hguard := by
    obtain ⟨hpast, hyoung⟩ := hsound.young time guard (hheld time guard hguard)
    refine ⟨Nat.lt_succ_of_lt hpast, fun date hdate => hyoung date ?_⟩
    rw [cut, List.drop_take] at hdate
    exact List.mem_of_mem_take hdate
  single f hf := hsound.single f (List.mem_of_mem_take hf)

theorem sound_step (hsound : h.Sound) (move : Move) : (h.step move).Sound := by
  obtain ⟨f, hf, -, hstep⟩ | ⟨depth, held, hstep, -, hheld, -⟩ := hsound.step_cases move <;>
    rw [hstep]
  · exact hsound.sound_pushed hf
  · exact hsound.sound_cut depth fun time guard hguard => ((hheld time guard).1 hguard).1

theorem sound_run (hsound : h.Sound) (moves : List Move) : (h.run moves).Sound := by
  induction moves generalizing h with
  | nil => exact hsound
  | cons move moves ih => exact ih (sound_step hsound move)

theorem Sound.time_step (hsound : h.Sound) (move : Move) : (h.step move).time = h.time + 1 := by
  obtain ⟨f, -, -, hstep⟩ | ⟨depth, held, hstep, -⟩ := hsound.step_cases move <;> rw [hstep] <;> rfl

/-- A move brings no guard but that of the push that it is. -/
theorem Sound.held_step (hsound : h.Sound) : (h.step move).held time = some guard ↔
    (time = h.time ∧ guard = ⟨h.context.depth⟩ ∧
      ∃ f : Frame, f.IsSingle ∧ move = .push f.serviceType f.endpoint) ∨
    h.held time = some guard ∧ move ≠ .release time := by
  have hpast : h.held h.time ≠ some guard := fun hheld =>
    Nat.lt_irrefl _ (hsound.young h.time guard hheld).1
  obtain ⟨f, hf, rfl, hstep⟩ | ⟨depth, held, hstep, hmove, hheld, -⟩ :=
    hsound.step_cases move <;> rw [hstep]
  · have hupdate : (h.pushed f).held = Function.update h.held h.time (some ⟨h.context.depth⟩) := rfl
    by_cases htime : time = h.time
    · subst htime
      rw [hupdate, Function.update_self]
      grind
    · simp [hupdate, htime]
  · have hheld' : (h.cut depth held).held time = some guard ↔ _ := hheld time guard
    rw [hheld', or_iff_right]
    rintro ⟨-, -, f, hf, hpush⟩
    exact hmove f hf hpush

/-- A move brings no frame but the one it pushes. -/
theorem Sound.mem_stack_step (hsound : h.Sound) (hx : x ∈ (h.step move).stack) :
    x ∈ h.stack ∨ x.1 = h.time ∧ move = .push x.2.serviceType x.2.endpoint := by
  obtain ⟨f, -, rfl, hstep⟩ | ⟨depth, held, hstep, -⟩ := hsound.step_cases move
  · rw [hstep, hsound.stack_pushed, List.mem_append, List.mem_singleton] at hx
    exact hx.imp_right fun h => by simp [h]
  · rw [hstep, stack_cut] at hx
    exact .inl (List.mem_of_mem_take hx)

/-- A frame that is gone after a move has been removed by it. -/
theorem Sound.removes_of_notMem (hsound : h.Sound) (hx : x ∈ h.stack)
    (hgone : x ∉ (h.step move).stack) : h.Removes x move := by
  obtain ⟨f, -, -, hstep⟩ | ⟨depth, held, hstep, -, -, hremoves⟩ := hsound.step_cases move
  · rw [hstep, hsound.stack_pushed] at hgone
    exact absurd (List.mem_append_left _ hx) hgone
  · rw [hstep, stack_cut] at hgone
    rw [← List.take_append_drop depth h.stack, List.mem_append] at hx
    exact hremoves x (hx.resolve_left hgone)

/-! ## Runs -/

@[simp]
theorem run_nil (h : Chronicle) : h.run [] = h :=
  rfl

@[simp]
theorem run_cons (h : Chronicle) (move : Move) (moves : List Move) :
    h.run (move :: moves) = (h.step move).run moves :=
  rfl

theorem run_append (h : Chronicle) (before after : List Move) :
    h.run (before ++ after) = (h.run before).run after :=
  List.foldl_append

theorem Sound.time_run (hsound : h.Sound) (moves : List Move) :
    (h.run moves).time = h.time + moves.length := by
  induction moves generalizing h with
  | nil => rfl
  | cons move moves ih =>
    calc ((h.step move).run moves).time
        = h.time + 1 + moves.length := by rw [ih (sound_step hsound move), hsound.time_step]
      _ = h.time + (moves.length + 1) := by omega

/-- A frame stays until a move takes it off. -/
theorem Sound.mem_stack_run (hsound : h.Sound) (hx : x ∈ h.stack) (moves : List Move) :
    x ∈ (h.run moves).stack ∨ ∃ t move, moves[t]? = some move ∧
      x ∈ (h.run (moves.take t)).stack ∧ x ∉ (h.run (moves.take (t + 1))).stack ∧
      (h.run (moves.take t)).Removes x move := by
  induction moves generalizing h with
  | nil => exact .inl hx
  | cons move moves ih =>
    by_cases hstays : x ∈ (h.step move).stack
    · refine (ih (sound_step hsound move) hstays).imp_right ?_
      rintro ⟨t, m, hm, hgone⟩
      exact ⟨t + 1, m, hm, hgone⟩
    · exact .inr ⟨0, move, rfl, hx, hstays, hsound.removes_of_notMem hx hstays⟩

variable {shell : Option Scope}

theorem time_run_start (shell : Option Scope) (moves : List Move) :
    ((start shell).run moves).time = moves.length :=
  ((sound_start shell).time_run moves).trans (Nat.zero_add _)

theorem run_take_succ (h : Chronicle) (hmove : moves[time]? = some move) :
    h.run (moves.take (time + 1)) = (h.run (moves.take time)).step move := by
  rw [List.take_add_one, hmove, run_append]
  rfl

/-- The frames of the stack are those that were pushed at their times. -/
theorem getElem?_of_mem_stack_run (hx : x ∈ ((start shell).run moves).stack) :
    moves[x.1]? = some (.push x.2.serviceType x.2.endpoint) := by
  induction moves using List.reverseRecOn with
  | nil => exact absurd hx List.not_mem_nil
  | append_singleton moves move ih =>
    rw [run_append] at hx
    obtain hx | ⟨htime, rfl⟩ := (sound_run (sound_start shell) moves).mem_stack_step hx
    · have hmove := ih hx
      rw [List.getElem?_append_left (List.getElem?_eq_some_iff.1 hmove).1, hmove]
    · rw [htime, time_run_start, List.getElem?_concat_length]

/-- The guards that are held are those that accepted pushes gave, for the depths before these, and
that have not been released since. -/
theorem held_run_eq_some_iff : ((start shell).run moves).held time = some guard ↔
    ∃ f : Frame, f.IsSingle ∧ moves[time]? = some (.push f.serviceType f.endpoint) ∧
      guard = ⟨((start shell).run (moves.take time)).context.depth⟩ ∧
      .release time ∉ moves.drop (time + 1) := by
  induction moves using List.reverseRecOn with
  | nil => simp [start]
  | append_singleton moves move ih =>
    rw [run_append, run_cons, run_nil, (sound_run (sound_start shell) moves).held_step,
      time_run_start, ih]
    obtain hlt | rfl | hgt := Nat.lt_trichotomy time moves.length
    · rw [List.getElem?_append_left hlt, List.take_append_of_le_length hlt.le,
        List.drop_append_of_le_length hlt]
      grind
    · have hdrop : (moves ++ [move]).drop (moves.length + 1) = [] := by simp
      rw [List.getElem?_concat_length, List.take_left, hdrop,
        List.getElem?_eq_none (Nat.le_refl _)]
      grind
    · rw [List.getElem?_eq_none hgt.le, List.getElem?_eq_none (by simpa using hgt)]
      simp [hgt.ne']

/-- A frame that is pushed is on the stack until a later move takes it off. -/
theorem mem_stack_run_of_push {f : Frame} (hf : f.IsSingle)
    (hpush : moves[time]? = some (.push f.serviceType f.endpoint)) :
    (time, f) ∈ ((start shell).run moves).stack ∨ ∃ t move, time < t ∧ moves[t]? = some move ∧
      (time, f) ∈ ((start shell).run (moves.take t)).stack ∧
      (time, f) ∉ ((start shell).run (moves.take (t + 1))).stack ∧
      ((start shell).run (moves.take t)).Removes (time, f) move := by
  have hnew : (time, f) ∈ ((start shell).run (moves.take (time + 1))).stack := by
    have hsound := sound_run (sound_start shell) (moves.take time)
    have htime : ((start shell).run (moves.take time)).time = time := by
      rw [time_run_start, List.length_take, Nat.min_eq_left]
      exact (List.getElem?_eq_some_iff.1 hpush).1.le
    rw [run_take_succ _ hpush, hsound.step_push hf, hsound.stack_pushed, htime]
    exact List.mem_append_right _ (List.mem_singleton_self _)
  have htake (t : Nat) : (start shell).run (moves.take (time + 1 + t)) =
      ((start shell).run (moves.take (time + 1))).run ((moves.drop (time + 1)).take t) := by
    rw [List.take_add, run_append]
  have hall : ((start shell).run (moves.take (time + 1))).run (moves.drop (time + 1)) =
      (start shell).run moves := by
    rw [← run_append, List.take_append_drop]
  have hrun := (sound_run (sound_start shell) _).mem_stack_run hnew (moves.drop (time + 1))
  rw [hall] at hrun
  refine hrun.imp_right ?_
  rintro ⟨t, move, hmove, hbefore, hafter, hremoves⟩
  rw [← htake] at hbefore hafter hremoves
  rw [List.getElem?_drop] at hmove
  exact ⟨time + 1 + t, move, by omega, hmove, hbefore, hafter, hremoves⟩

/-- Along any sequence of pushes, pops and releases of the guards, in whatever order and with
whatever frames gone, the stack is one of frames for single endpoints that were pushed at ascending
times. A frame that was pushed is there until it is given by a pop, or until a guard is released
that was pushed no later. A push that is refused changes nothing. The release of a guard leaves the
frames up to its depth, and takes away no frame that is older than the guard. -/
theorem stack_run (shell : Option Scope) (moves : List Move) :
    let h := (start shell).run moves
    h.stack.map Prod.snd = h.context.frames ∧ h.stack.Pairwise (fun x y => x.1 < y.1) ∧
    (∀ f ∈ h.context.frames, f.IsSingle) ∧
    (∀ x ∈ h.stack, moves[x.1]? = some (.push x.2.serviceType x.2.endpoint)) ∧
    (∀ time (f : Frame), moves[time]? = some (.push f.serviceType f.endpoint) → f.IsSingle →
      (time, f) ∈ h.stack ∨ ∃ t move, time < t ∧ moves[t]? = some move ∧
        (time, f) ∈ ((start shell).run (moves.take t)).stack ∧
        (time, f) ∉ ((start shell).run (moves.take (t + 1))).stack ∧
        ((start shell).run (moves.take t)).Removes (time, f) move) ∧
    (∀ serviceType endpoint, ¬(Frame.mk serviceType endpoint).IsSingle →
      (∃ e, h.context.push serviceType endpoint = .error e) ∧
      let after := h.step (.push serviceType endpoint)
      after.context = h.context ∧ after.stack = h.stack ∧ after.held = h.held) ∧
    ∀ time (f : Frame), moves[time]? = some (.push f.serviceType f.endpoint) → f.IsSingle →
      .release time ∉ moves.drop (time + 1) →
      let before := ((start shell).run (moves.take time)).context
      let after := h.step (.release time)
      (∃ context, before.push f.serviceType f.endpoint = .ok (⟨before.depth⟩, context)) ∧
      after.context =
        { h.context with frames := h.context.frames.take (min h.context.depth before.depth) } ∧
      ∀ x ∈ h.stack, x ∉ after.stack → time ≤ x.1 := by
  intro h
  have hsound : h.Sound := sound_run (sound_start shell) moves
  refine ⟨hsound.map_snd_stack, ?ascending, hsound.single,
    fun x hx => getElem?_of_mem_stack_run hx,
    fun time f hpush hf => mem_stack_run_of_push hf hpush, ?refused, ?released⟩
  case ascending =>
    have hdates := hsound.ascending
    rw [← hsound.map_fst_stack] at hdates
    exact List.pairwise_map.1 hdates
  case refused =>
    intro serviceType endpoint hf
    obtain ⟨e, hpush⟩ := exists_push_eq_error h.context hf
    have hproceed : h.step (.push serviceType endpoint) = h.proceed h.context := by
      simp only [step, hpush]
    refine ⟨⟨e, hpush⟩, by rw [hproceed]; rfl, ?_, by rw [hproceed]; rfl⟩
    rw [hsound.step_idle hproceed, stack_cut]
    exact List.take_of_length_le hsound.depth_eq.le
  case released =>
    intro time f hpush hf hrelease before after
    have hheld : h.held time = some ⟨before.depth⟩ :=
      held_run_eq_some_iff.2 ⟨f, hf, hpush, rfl, hrelease⟩
    refine ⟨⟨_, Context.push_eq_ok_iff.2 ⟨hf, rfl⟩⟩, ?_, ?_⟩
    · have hafter : after.context = h.context.release ⟨before.depth⟩ := by
        simp only [after, step, hheld]
        rfl
      rw [hafter, Context.release, List.take_eq_take_min, Nat.min_comm]
      rfl
    · intro x hx hgone
      exact (hsound.removes_of_notMem hx hgone).1

/-- A guard whose frame is gone takes a younger frame off. -/
example : ((start none).run [.push "compute" "A", .pop, .push "compute" "B",
    .release 0]).context.frames = [] := by
  cbv

end Chronicle

end CloudScope
