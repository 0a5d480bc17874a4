import DkPull.Looper.LooperFunction

/-!
# The looper against the plain trampoline

From its first call of `next()` on, the invocation made by `Start()` is
suspended until the loop begun by this call is over.  So the looper runs as the
plain trampoline does as long as that invocation has nothing left to do when it
calls `next()`.
-/

namespace DkPull

open DkPull.Reactive
open DkPull.Reactive.Process

namespace Looper

universe u v w

variable {World : Type u} {Body : Type v} {Effect : Type w}

/-- An invocation with this body calls `next()` for the first time in the world
`calledIn`, with `rest` left to do. -/
inductive FirstCall (function : LooperFunction World Body Effect)
    (calledIn : World) (rest : Body) : World → Body → Prop where
  | here {body : Body}
      (moves : function.move calledIn body = .next rest) :
      FirstCall function calledIn rest calledIn body
  | later {world after : World} {body more : Body} {effect : Effect}
      (moves : function.move world body = .perform effect after more)
      (call : FirstCall function calledIn rest after more) :
      FirstCall function calledIn rest world body

inductive OnlyCallsNext (function : LooperFunction World Body Effect)
    (world : World) : Body → Prop where
  | returned {body : Body}
      (moves : function.move world body = .returned) :
      OnlyCallsNext function world body
  | next {body rest : Body}
      (moves : function.move world body = .next rest)
      (only : OnlyCallsNext function world rest) :
      OnlyCallsNext function world body

def EndsIn (function : LooperFunction World Body Effect)
    (state : Trampoline World Body) (last : World) : Prop :=
  (trampoline function).Reaches state ⟨last, false, none⟩

/-- The call of `next()` with `rest` left to do is the last thing that matters:
nothing but more calls of `next()` follow it, and if the invocations begun by
it come to an end, the rest returns at once in the world that they leave. -/
def LeavesNothing (function : LooperFunction World Body Effect)
    (calledIn : World) (rest : Body) : Prop :=
  OnlyCallsNext function calledIn rest ∧
    ∀ last, EndsIn function (.started function calledIn) last →
      function.move last rest = .returned

/-- The first invocation does nothing behind its first call of `next()`. -/
def CallsNextLast
    (function : LooperFunction World Body Effect) (world : World) : Prop :=
  ∀ calledIn rest,
    FirstCall function calledIn rest world function.entry →
      LeavesNothing function calledIn rest

variable {function : LooperFunction World Body Effect}
  {world : World} {called : Bool} {body rest : Body}
  {run : LooperRun World Body}

private theorem trampoline_perform
    {effect : Effect} {after : World}
    (moves : function.move world body = .perform effect after rest) :
    (trampoline function).step ⟨world, called, some body⟩ =
      some (⟨after, called, some rest⟩, [.performed effect]) := by
  simp only [trampoline, moves]

private theorem trampoline_next
    (moves : function.move world body = .next rest) :
    (trampoline function).step ⟨world, called, some body⟩ =
      some (⟨world, true, some rest⟩, []) := by
  simp only [trampoline, moves]

private theorem trampoline_repeated
    (moves : function.move world body = .returned) :
    (trampoline function).step ⟨world, true, some body⟩ =
      some (.started function world, [.began]) := by
  simp only [trampoline, moves, if_true, Trampoline.started]

private theorem trampoline_finished
    (moves : function.move world body = .returned) :
    (trampoline function).step ⟨world, false, some body⟩ =
      some (⟨world, false, none⟩, [.finished]) := by
  simp only [trampoline, moves, Bool.false_eq_true, if_false]

private theorem trampoline_over (world : World) (called : Bool) :
    (trampoline function).step ⟨world, called, none⟩ = none :=
  rfl

private theorem endsIn_over_iff
    {last : World} :
    EndsIn function ⟨world, called, none⟩ last ↔
      world = last ∧ called = false := by
  constructor
  · intro ends
    rcases Relation.ReflTransGen.cases_head ends with
      same | ⟨next, ⟨shown, stepped⟩, _⟩
    · cases same
      exact ⟨rfl, rfl⟩
    · rw [trampoline_over] at stepped
      cases stepped
  · rintro ⟨rfl, rfl⟩
    exact Relation.ReflTransGen.refl

/-- Calls of `next()` behind the first one only delay the next invocation of
the trampoline. -/
theorem OnlyCallsNext.sameCourse_iff
    {State : Type*} {process : Process State (Observation Effect)}
    {state next : State} (only : OnlyCallsNext function world rest)
    (begins : process.step state = some (next, [.began])) :
    SameCourse process state (trampoline function)
        ⟨world, true, some rest⟩ ↔
      SameCourse process next (trampoline function)
        (.started function world) := by
  induction only with
  | returned moves =>
      exact sameCourse_step_iff begins (trampoline_repeated moves)
  | next moves only inductionHypothesis =>
      rw [sameCourse_silent_right_iff (trampoline_next moves)]
      exact inductionHypothesis

/-- The trampoline begins the next invocation right after a call of `next()`
only if nothing but further calls follow it. -/
theorem onlyCallsNext_of_shows
    (begins :
      (trampoline function).Shows ⟨world, true, some rest⟩ [.began]) :
    OnlyCallsNext function world rest := by
  obtain ⟨steps, ahead⟩ := begins
  induction steps generalizing rest with
  | zero =>
      simp [course] at ahead
  | succ steps inductionHypothesis =>
      cases moves : function.move world rest with
      | perform effect after more =>
          rw [course_of_step (trampoline_perform moves)] at ahead
          have same := (List.cons_prefix_cons.mp ahead).1
          cases same
      | next more =>
          rw [course_of_step (trampoline_next moves),
            List.nil_append] at ahead
          exact .next moves (inductionHypothesis ahead)
      | returned =>
          exact .returned moves

/-! ## The looper and the trampoline side by side -/

/-- When the trampoline is over, the looper goes on with what its first
invocation has left to do. -/
theorem FirstRuns.sameCourse_finished_iff
    (runs : FirstRuns run world rest)
    (moves : function.move world body = .returned) :
    SameCourse (looperProcess function) run (trampoline function)
        ⟨world, false, some body⟩ ↔
      function.move world rest = .returned := by
  have ends := trampoline_finished moves
  constructor
  · intro same
    cases moved : function.move world rest with
    | perform effect after more =>
        obtain ⟨target, stepped, _⟩ := runs.perform moved
        exact
          absurd same
            (not_sameCourse_of_heads (by simp) stepped ends)
    | next more =>
        obtain ⟨target, stepped, _⟩ := runs.next moved
        exact
          absurd same
            (not_sameCourse_of_heads (by simp) stepped ends)
    | returned =>
        rfl
  · intro moved
    obtain ⟨target, stepped, left⟩ := runs.returned moved
    rw [sameCourse_step_iff stepped ends]
    exact
      sameCourse_of_halted (step_of_noFrames left) (trampoline_over _ _)

/-- A loop that comes to an end goes on as the trampoline does if and only if
the first invocation then returns at once. -/
theorem LoopRuns.sameCourse_iff
    {last : World} {state : Trampoline World Body}
    (ends : EndsIn function state last)
    (running : state = ⟨world, called, some body⟩)
    (runs : LoopRuns run world called body rest) :
    SameCourse (looperProcess function) run (trampoline function) state ↔
      function.move last rest = .returned := by
  induction ends using Relation.ReflTransGen.head_induction_on generalizing
      run world called body with
  | refl =>
      cases running
  | @head state next leads ends inductionHypothesis =>
      obtain ⟨shown, stepped⟩ := leads
      subst running
      cases moves : function.move world body with
      | perform effect after more =>
          rw [trampoline_perform moves] at stepped
          cases stepped
          obtain ⟨target, looperStepped, goesOn⟩ := runs.perform moves
          rw [sameCourse_step_iff looperStepped (trampoline_perform moves)]
          exact inductionHypothesis rfl goesOn
      | next more =>
          rw [trampoline_next moves] at stepped
          cases stepped
          obtain ⟨target, looperStepped, goesOn⟩ := runs.next moves
          rw [sameCourse_step_iff looperStepped (trampoline_next moves)]
          exact inductionHypothesis rfl goesOn
      | returned =>
          cases called with
          | true =>
              rw [trampoline_repeated moves] at stepped
              cases stepped
              obtain ⟨target, looperStepped, goesOn⟩ := runs.repeated moves
              rw [sameCourse_step_iff looperStepped
                (trampoline_repeated moves)]
              exact inductionHypothesis rfl goesOn
          | false =>
              rw [trampoline_finished moves] at stepped
              cases stepped
              obtain ⟨rfl, _⟩ := endsIn_over_iff.mp ends
              obtain ⟨target, looperStepped, goesOn⟩ := runs.finished moves
              rw [sameCourse_silent_iff looperStepped]
              exact goesOn.sameCourse_finished_iff moves

/-- A loop that never ends goes on as the trampoline does. -/
theorem LoopRuns.sameCourse_of_endless
    {state : Trampoline World Body}
    (endless : ∀ last, ¬ EndsIn function state last)
    (running : state = ⟨world, called, some body⟩)
    (runs : LoopRuns run world called body rest) :
    SameCourse (looperProcess function) run (trampoline function)
      state := by
  refine
    sameCourse_of_lockstep
      (fun run state =>
        (∀ last, ¬ EndsIn function state last) ∧
          ∃ world called body,
            state = ⟨world, called, some body⟩ ∧
              LoopRuns run world called body rest)
      ?_ ⟨endless, world, called, body, running, runs⟩
  rintro run _ ⟨endless, world, called, body, rfl, runs⟩
  have stillEndless
      {next : Trampoline World Body} {shown : List (Observation Effect)}
      (stepped :
        (trampoline function).step ⟨world, called, some body⟩ =
          some (next, shown)) :
      ∀ last, ¬ EndsIn function next last :=
    fun last ends => endless last (.head ⟨shown, stepped⟩ ends)
  right
  cases moves : function.move world body with
  | perform effect after more =>
      obtain ⟨target, stepped, goesOn⟩ := runs.perform moves
      have twin :
          (trampoline function).step ⟨world, called, some body⟩ = _ :=
        trampoline_perform moves
      exact
        ⟨target, _, _, stepped, twin, stillEndless twin, _, _, _, rfl,
          goesOn⟩
  | next more =>
      obtain ⟨target, stepped, goesOn⟩ := runs.next moves
      have twin :
          (trampoline function).step ⟨world, called, some body⟩ = _ :=
        trampoline_next moves
      exact
        ⟨target, _, _, stepped, twin, stillEndless twin, _, _, _, rfl,
          goesOn⟩
  | returned =>
      cases called with
      | true =>
          obtain ⟨target, stepped, goesOn⟩ := runs.repeated moves
          have twin := trampoline_repeated moves
          exact
            ⟨target, _, _, stepped, twin, stillEndless twin, _, _, _, rfl,
              goesOn⟩
      | false =>
          have stopped := stillEndless (trampoline_finished moves)
          exact absurd (endsIn_over_iff.mpr ⟨rfl, rfl⟩) (stopped world)

/-- From its first call of `next()` on, the looper goes on as the trampoline
does if and only if this call leaves nothing to do. -/
theorem FirstRuns.sameCourse_next_iff
    (runs : FirstRuns run world body)
    (moves : function.move world body = .next rest) :
    SameCourse (looperProcess function) run (trampoline function)
        ⟨world, false, some body⟩ ↔
      LeavesNothing function world rest := by
  obtain ⟨target, stepped, loops⟩ := runs.next moves
  rw [sameCourse_silent_right_iff (trampoline_next moves)]
  constructor
  · intro same
    have only : OnlyCallsNext function world rest :=
      onlyCallsNext_of_shows ((same _).mp (shows_of_step stepped))
    rw [only.sameCourse_iff stepped] at same
    exact ⟨only, fun last ends => (loops.sameCourse_iff ends rfl).mp same⟩
  · rintro ⟨only, returns⟩
    rw [only.sameCourse_iff stepped]
    by_cases stops : ∃ last, EndsIn function (.started function world) last
    · obtain ⟨last, ends⟩ := stops
      exact (loops.sameCourse_iff ends rfl).mpr (returns last ends)
    · exact loops.sameCourse_of_endless (not_exists.mp stops) rfl

private theorem FirstCall.sameCourse_iff
    {calledIn : World} (call : FirstCall function calledIn rest world body)
    (runs : FirstRuns run world body) :
    SameCourse (looperProcess function) run (trampoline function)
        ⟨world, false, some body⟩ ↔
      LeavesNothing function calledIn rest := by
  induction call generalizing run with
  | here moves =>
      exact runs.sameCourse_next_iff moves
  | later moves call inductionHypothesis =>
      obtain ⟨target, stepped, goesOn⟩ := runs.perform moves
      rw [sameCourse_step_iff stepped (trampoline_perform moves)]
      exact inductionHypothesis goesOn

/-- Without a call of `next()` there is only one invocation. -/
theorem FirstRuns.sameCourse_of_uncalled
    (uncalled :
      ∀ calledIn rest, ¬ FirstCall function calledIn rest world body)
    (runs : FirstRuns run world body) :
    SameCourse (looperProcess function) run (trampoline function)
      ⟨world, false, some body⟩ := by
  refine
    sameCourse_of_lockstep
      (fun run state =>
        (run.frames = [] ∧ state.body = none) ∨
          ∃ world body,
            state = ⟨world, false, some body⟩ ∧
              FirstRuns run world body ∧
              ∀ calledIn rest,
                ¬ FirstCall function calledIn rest world body)
      ?_ (.inr ⟨world, body, rfl, runs, uncalled⟩)
  rintro run state
    (⟨left, stopped⟩ | ⟨world, body, rfl, runs, uncalled⟩)
  · left
    exact ⟨step_of_noFrames left, by simp only [trampoline, stopped]⟩
  · right
    cases moves : function.move world body with
    | perform effect after more =>
        obtain ⟨target, stepped, goesOn⟩ := runs.perform moves
        exact
          ⟨target, _, _, stepped, trampoline_perform moves,
            .inr ⟨_, _, rfl, goesOn,
              fun calledIn rest call =>
                uncalled calledIn rest (.later moves call)⟩⟩
    | next more =>
        exact absurd (.here moves) (uncalled world more)
    | returned =>
        obtain ⟨target, stepped, left⟩ := runs.returned moves
        exact
          ⟨target, _, _, stepped, trampoline_finished moves,
            .inl ⟨left, rfl⟩⟩

/-- What can be seen of `Start()` is what can be seen of the plain trampoline
if and only if the first invocation does nothing behind its first call of
`next()`. -/
theorem looper_refines_trampoline_iff
    (function : LooperFunction World Body Effect) (world : World) :
    SameCourse (looperProcess function) (.started function world)
        (trampoline function) (.started function world) ↔
      CallsNextLast function world := by
  have runs : FirstRuns (.started function world) world function.entry :=
    firstRuns_started world
  constructor
  · intro same calledIn rest call
    exact (call.sameCourse_iff runs).mp same
  · intro last
    by_cases called :
        ∃ calledIn rest,
          FirstCall function calledIn rest world function.entry
    · obtain ⟨calledIn, rest, call⟩ := called
      exact (call.sameCourse_iff runs).mpr (last calledIn rest call)
    · exact
        runs.sameCourse_of_uncalled fun calledIn rest call =>
          called ⟨calledIn, rest, call⟩

/-- Where an invocation stands with respect to its call of `next()`. -/
inductive Stage where
  | before
  | calling
  | behind
  | finished
  deriving DecidableEq, Repr

/-- Two invocations that work before and behind the place of the call.  Only
the first one calls `next()`.  The world counts the invocations. -/
def worksOnBothSides : LooperFunction Nat (Stage × Nat) (Stage × Nat) where
  entry := (.before, 0)
  move world
    | (.before, _) =>
        .perform (.before, world) (world + 1) (.calling, world)
    | (.calling, 0) => .next (.behind, 0)
    | (.calling, number + 1) =>
        .perform (.behind, number + 1) world (.finished, number + 1)
    | (.behind, number) => .perform (.behind, number) world (.finished, number)
    | (.finished, _) => .returned

/-- The first invocation calls `next()` twice, the others do not call it.  The
body is the number of calls that are left, once it is known. -/
def callsNextTwice : LooperFunction Nat (Option Nat) Nat where
  entry := none
  move world
    | none =>
        .perform world (world + 1) (some (if world = 0 then 2 else 0))
    | some 0 => .returned
    | some (left + 1) => .next (some left)

def looperCourse
    (function : LooperFunction World Body Effect) (world : World)
    (steps : Nat) : List (Observation Effect) :=
  (looperProcess function).course steps (.started function world)

def trampolineCourse
    (function : LooperFunction World Body Effect) (world : World)
    (steps : Nat) : List (Observation Effect) :=
  (trampoline function).course steps (.started function world)

private theorem not_sameCourse_of_courses
    {steps : Nat}
    (incomparable :
      ¬ (looperCourse function world steps <+:
            trampolineCourse function world steps ∨
          trampolineCourse function world steps <+:
            looperCourse function world steps)) :
    ¬ SameCourse (looperProcess function) (.started function world)
      (trampoline function) (.started function world) :=
  not_sameCourse_of_incomparable (shows_course _ _ _) (shows_course _ _ _)
    incomparable

/-- The looper postpones what follows the first call of `next()`, and serves
two calls from the first invocation with two more invocations. -/
theorem looper_departs_from_trampoline :
    looperCourse worksOnBothSides 0 12 =
        [.performed (.before, 0), .began, .performed (.before, 1),
          .performed (.behind, 1), .performed (.behind, 0), .finished] ∧
      trampolineCourse worksOnBothSides 0 12 =
        [.performed (.before, 0), .performed (.behind, 0), .began,
          .performed (.before, 1), .performed (.behind, 1), .finished] ∧
      looperCourse callsNextTwice 0 12 =
        [.performed 0, .began, .performed 1, .began, .performed 2,
          .finished] ∧
      trampolineCourse callsNextTwice 0 12 =
        [.performed 0, .began, .performed 1, .finished] ∧
      ¬ SameCourse (looperProcess worksOnBothSides)
        (.started worksOnBothSides 0) (trampoline worksOnBothSides)
        (.started worksOnBothSides 0) ∧
      ¬ SameCourse (looperProcess callsNextTwice)
        (.started callsNextTwice 0) (trampoline callsNextTwice)
        (.started callsNextTwice 0) :=
  ⟨by decide, by decide, by decide, by decide,
    @not_sameCourse_of_courses _ _ _ worksOnBothSides 0 12 (by decide),
    @not_sameCourse_of_courses _ _ _ callsNextTwice 0 12 (by decide)⟩

end Looper

end DkPull
