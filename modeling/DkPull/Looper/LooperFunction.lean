import DkPull.Looper.Looper
import DkPull.Reactive.Process

/-!
# The looper with its function

Here the looper is closed: its function is given, and after `Start()` nobody
else calls a handle.  The function is a program that acts on some world and
calls `next()` as often as it likes.  What it does next may depend on the world
at that moment, also behind a call of `next()`.

The plain trampoline runs the same function: one invocation after the other,
for as long as the last one has called `next()`.
-/

namespace DkPull

open DkPull.Reactive

namespace Looper

universe u v w

/-- What an invocation of the looper function does next: something that changes
the world, a call of its handle, or a return. -/
inductive Move (World : Type u) (Body : Type v) (Effect : Type w) where
  | perform (effect : Effect) (world : World) (rest : Body)
  | next (rest : Body)
  | returned
  deriving Repr

/-- A looper function that does not throw: the body of an invocation, and what
a body does next. -/
structure LooperFunction
    (World : Type u) (Body : Type v) (Effect : Type w) where
  entry : Body
  move : World → Body → Move World Body Effect

/-- What can be seen of a run behind the first invocation's beginning. -/
inductive Observation (Effect : Type w) where
  | began
  | performed (effect : Effect)
  | finished
  deriving DecidableEq, Repr

variable {World : Type u} {Body : Type v} {Effect : Type w}
  {function : LooperFunction World Body Effect}

/-- An active invocation: its handle and what is left of its body. -/
structure Frame (Body : Type v) where
  handle : Nat
  rest : Body
  deriving Repr

/-- The looper and the active invocations of its function, innermost first. -/
structure LooperRun (World : Type u) (Body : Type v) where
  world : World
  config : Configuration
  frames : List (Frame Body)
  deriving Repr

def LooperFunction.invoke
    (function : LooperFunction World Body Effect) :
    LooperOutput → Frame Body
  | .invoked handle => ⟨handle, function.entry⟩

/-- The innermost invocation makes its next move.  Without an invocation
`Start()` has returned. -/
def looperProcess (function : LooperFunction World Body Effect) :
    Process (LooperRun World Body) (Observation Effect) where
  step run :=
    match run.frames with
    | [] => none
    | frame :: others =>
        match function.move run.world frame.rest with
        | .perform effect world rest =>
            some
              ({ run with world, frames := { frame with rest } :: others },
                [.performed effect])
        | .next rest =>
            (looperMachine.step run.config (.next frame.handle)).map
              fun (config, outputs) =>
                ({ run with
                    config
                    frames :=
                      outputs.map function.invoke ++
                        { frame with rest } :: others },
                  outputs.map fun _ => .began)
        | .returned =>
            (looperMachine.step run.config .returned).map
              fun (config, outputs) =>
                let frames := outputs.map function.invoke ++ others
                ({ run with config, frames },
                  (outputs.map fun _ => .began) ++
                    if frames.isEmpty then [.finished] else [])

def LooperRun.started
    (function : LooperFunction World Body Effect) (world : World) :
    LooperRun World Body :=
  let (config, outputs) := Configuration.create.start
  ⟨world, config, outputs.map function.invoke⟩

/-- The only active invocation and whether it has called `next()`. -/
structure Trampoline (World : Type u) (Body : Type v) where
  world : World
  called : Bool
  body : Option Body
  deriving Repr

/-- `repeat { called := false; fn(next) } while called`. -/
def trampoline (function : LooperFunction World Body Effect) :
    Process (Trampoline World Body) (Observation Effect) where
  step state :=
    match state.body with
    | none => none
    | some body =>
        match function.move state.world body with
        | .perform effect world rest =>
            some ({ state with world, body := some rest },
              [.performed effect])
        | .next rest =>
            some ({ state with called := true, body := some rest }, [])
        | .returned =>
            if state.called then
              some
                ({ state with called := false, body := some function.entry },
                  [.began])
            else some ({ state with body := none }, [.finished])

def Trampoline.started
    (function : LooperFunction World Body Effect) (world : World) :
    Trampoline World Body :=
  ⟨world, false, some function.entry⟩

/-- `Start()` is in its invocation, and no loop is in progress. -/
def FirstRuns
    (run : LooperRun World Body) (world : World) (body : Body) : Prop :=
  ∃ handle handles,
    handle < handles ∧
      run =
        ⟨world, ⟨⟨false, true⟩, [.start], handles⟩, [⟨handle, body⟩]⟩

/-- The invocation made by `Start()` waits for a loop in a call of `next()`,
with `rest` left to do. -/
def LoopRuns
    (run : LooperRun World Body) (world : World) (called : Bool)
    (body rest : Body) : Prop :=
  ∃ handle waiting handles,
    handle < handles ∧ waiting < handles ∧
      run =
        ⟨world, ⟨⟨called, false⟩, [.loop, .start], handles⟩,
          [⟨handle, body⟩, ⟨waiting, rest⟩]⟩

theorem firstRuns_started (world : World) :
    FirstRuns (.started function world) world function.entry :=
  ⟨0, 1, Nat.one_pos, rfl⟩

variable {run : LooperRun World Body} {world : World} {called : Bool}
  {body rest : Body}

theorem FirstRuns.perform
    (runs : FirstRuns run world body) {effect : Effect} {after : World}
    (moves : function.move world body = .perform effect after rest) :
    ∃ target,
      (looperProcess function).step run =
          some (target, [.performed effect]) ∧
        FirstRuns target after rest := by
  obtain ⟨handle, handles, made, rfl⟩ := runs
  exact
    ⟨_, by simp only [looperProcess, moves],
      ⟨handle, handles, made, rfl⟩⟩

/-- A call of `next()` from the invocation made by `Start()` begins another one
at once. -/
theorem FirstRuns.next
    (runs : FirstRuns run world body)
    (moves : function.move world body = .next rest) :
    ∃ target,
      (looperProcess function).step run = some (target, [.began]) ∧
        LoopRuns target world false function.entry rest := by
  obtain ⟨handle, handles, made, rfl⟩ := runs
  have entered := looperStep_iff.mpr
    (@LooperStep.entered ⟨⟨false, true⟩, [.start], handles⟩ handle made rfl)
  refine
    ⟨_, by
      simp only [looperProcess, moves, entered, Option.map_some,
        List.map_cons, List.map_nil]
      rfl, ?_⟩
  exact
    ⟨handles, handle, handles + 1, Nat.lt_succ_self _,
      Nat.lt_succ_of_lt made, rfl⟩

theorem FirstRuns.returned
    (runs : FirstRuns run world body)
    (moves : function.move world body = .returned) :
    ∃ target,
      (looperProcess function).step run = some (target, [.finished]) ∧
        target.frames = [] := by
  obtain ⟨handle, handles, made, rfl⟩ := runs
  have left := looperStep_iff.mpr
    (@LooperStep.startReturned ⟨⟨false, true⟩, [.start], handles⟩ [] rfl)
  refine
    ⟨_, by
      simp only [looperProcess, moves, left, Option.map_some,
        List.map_nil, List.nil_append, List.isEmpty_nil, if_true]
      rfl, rfl⟩

theorem LoopRuns.perform
    {more : Body} (runs : LoopRuns run world called body rest)
    {effect : Effect} {after : World}
    (moves : function.move world body = .perform effect after more) :
    ∃ target,
      (looperProcess function).step run =
          some (target, [.performed effect]) ∧
        LoopRuns target after called more rest := by
  obtain ⟨handle, waiting, handles, made, waits, rfl⟩ := runs
  exact
    ⟨_, by simp only [looperProcess, moves],
      ⟨handle, waiting, handles, made, waits, rfl⟩⟩

theorem LoopRuns.next
    {more : Body} (runs : LoopRuns run world called body rest)
    (moves : function.move world body = .next more) :
    ∃ target,
      (looperProcess function).step run = some (target, []) ∧
        LoopRuns target world true more rest := by
  obtain ⟨handle, waiting, handles, made, waits, rfl⟩ := runs
  have noted := looperStep_iff.mpr
    (@LooperStep.noted ⟨⟨called, false⟩, [.loop, .start], handles⟩ handle
      made rfl)
  refine
    ⟨_, by
      simp only [looperProcess, moves, noted, Option.map_some,
        List.map_nil, List.nil_append]
      rfl, ?_⟩
  exact ⟨handle, waiting, handles, made, waits, rfl⟩

theorem LoopRuns.repeated
    (runs : LoopRuns run world true body rest)
    (moves : function.move world body = .returned) :
    ∃ target,
      (looperProcess function).step run = some (target, [.began]) ∧
        LoopRuns target world false function.entry rest := by
  obtain ⟨handle, waiting, handles, made, waits, rfl⟩ := runs
  have again := looperStep_iff.mpr
    (@LooperStep.repeated ⟨⟨true, false⟩, [.loop, .start], handles⟩
      [.start] rfl rfl)
  refine
    ⟨_, by
      simp only [looperProcess, moves, again, Option.map_some,
        List.map_cons, List.map_nil, List.cons_append, List.nil_append,
        List.isEmpty_cons, Bool.false_eq_true, if_false]
      rfl, ?_⟩
  exact
    ⟨handles, waiting, handles + 1, Nat.lt_succ_self _,
      Nat.lt_succ_of_lt waits, rfl⟩

/-- Behind its last pass the loop gives control back to the invocation made by
`Start()`. -/
theorem LoopRuns.finished
    (runs : LoopRuns run world false body rest)
    (moves : function.move world body = .returned) :
    ∃ target,
      (looperProcess function).step run = some (target, []) ∧
        FirstRuns target world rest := by
  obtain ⟨handle, waiting, handles, made, waits, rfl⟩ := runs
  have popped := looperStep_iff.mpr
    (@LooperStep.finished ⟨⟨false, false⟩, [.loop, .start], handles⟩
      [.start] rfl rfl)
  refine
    ⟨_, by
      simp only [looperProcess, moves, popped, Option.map_some,
        List.map_nil, List.nil_append, List.isEmpty_cons,
        Bool.false_eq_true, if_false]
      rfl, ?_⟩
  exact ⟨waiting, handles, waits, rfl⟩

theorem step_of_noFrames (returned : run.frames = []) :
    (looperProcess function).step run = none := by
  simp only [looperProcess, returned]

end Looper

end DkPull
