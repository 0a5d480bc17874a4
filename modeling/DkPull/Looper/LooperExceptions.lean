import DkPull.Looper.LooperInvariants

/-!
# Exceptions that leave the looper function

An exception that leaves the invocation made by `Start()` does the looper no
harm.  One that leaves an invocation made by the loop skips the assignment
behind the loop: `looperFunctionReturned` stays false, and from then on every
call of `next()` is only noted.
-/

namespace DkPull

open DkPull.Reactive

namespace Looper

/-- Every handle enters the looper function when it is called. -/
def Responsive (config : Configuration) : Prop :=
  ∀ origin, origin < config.handles →
    ∃ target handle,
      looperMachine.step config (.next origin) =
        some (target, [.invoked handle])

/-- The handles respond exactly while no loop is in progress. -/
theorem responsive_iff
    {config : Configuration} (made : 0 < config.handles) :
    Responsive config ↔ config.self.looperFunctionReturned = true := by
  constructor
  · intro responsive
    obtain ⟨target, handle, stepped⟩ := responsive 0 made
    cases looperStep_iff.mp stepped with
    | entered _ _ idle =>
        exact idle
  · intro idle origin handed
    exact ⟨_, _, looperStep_iff.mpr (.entered origin handed idle)⟩

private theorem throwsOnlyFromStart_of_uninvoked
    {events : List LooperEvent} {config : Configuration}
    {outputs : List LooperOutput}
    (ran :
      looperMachine.run .create events = some (config, outputs))
    (uninvoked : config.handles = 0) :
    ThrowsOnlyFromStart events := by
  have unstarted : .start ∉ events := by
    have atLeast := (accounts_of_run ran).atLeast
    rw [← List.count_eq_zero]
    omega
  rintro before event after rfl rfl
  obtain ⟨middle, _, _, _, _, front, stepped, _, _⟩ :=
    Machine.run_split ran
  have empty : middle.stack = [] :=
    ((accounts_of_run front).unstarted fun started =>
      unstarted (List.mem_append_left _ started)).2
  cases looperStep_iff.mp stepped with
  | unwound activation rest innermost =>
      simp [empty] at innermost

/-- When control is outside, the looper has survived everything that its
function threw exactly if no exception has left an invocation made by the
loop. -/
theorem survives_iff_throwsOnlyFromStart
    {events : List LooperEvent} {config : Configuration}
    {outputs : List LooperOutput}
    (ran :
      looperMachine.run .create events = some (config, outputs))
    (outside : config.stack = []) :
    (config.self.looperFunctionReturned = true ∧
        config.self.nextCalled = false ↔
      ThrowsOnlyFromStart events) ∧
    (Responsive config ↔ ThrowsOnlyFromStart events) := by
  have flags := flagsFollow_of_run ran
  have settled := flags.idle (by simp [outside])
  have idleIff :
      config.self.looperFunctionReturned = true ↔
        ThrowsOnlyFromStart events := by
    constructor
    · exact fun idle => (flags.of_idle idle).2
    · intro fromStart
      simp [settled fromStart]
  constructor
  · constructor
    · exact fun atRest => idleIff.mp atRest.1
    · intro fromStart
      simp [settled fromStart]
  · by_cases made : 0 < config.handles
    · rw [responsive_iff made, idleIff]
    · have uninvoked : config.handles = 0 := by
        omega
      refine
        iff_of_true ?_ (throwsOnlyFromStart_of_uninvoked ran uninvoked)
      intro origin handed
      omega

/-- An exception from the invocation made by `Start()` is survived. -/
theorem survives_iff_throwsOnlyFromStart_start :
    (Responsive ⟨⟨false, true⟩, [], 1⟩ ↔
      ThrowsOnlyFromStart [.start, .threw]) :=
  (survives_iff_throwsOnlyFromStart
    (show
      looperMachine.run .create [.start, .threw] =
        some (⟨⟨false, true⟩, [], 1⟩, [.invoked 0])
      from by decide)
    rfl).2

/-- After an exception from the first pass of the loop, a call of either handle
is noted and nothing happens. -/
theorem loop_never_survives :
    looperMachine.run .create [.start, .returned, .next 0, .threw] =
        some (⟨⟨false, false⟩, [], 2⟩, [.invoked 0, .invoked 1]) ∧
      looperMachine.step ⟨⟨false, false⟩, [], 2⟩ (.next 0) =
        some (⟨⟨true, false⟩, [], 2⟩, []) ∧
      looperMachine.step ⟨⟨false, false⟩, [], 2⟩ (.next 1) =
        some (⟨⟨true, false⟩, [], 2⟩, []) ∧
      ¬ Responsive ⟨⟨false, false⟩, [], 2⟩ := by
  refine ⟨by decide, by decide, by decide, ?_⟩
  rw [responsive_iff (by decide)]
  exact Bool.false_ne_true

end Looper

end DkPull
