import DkPull.Looper.LooperInvariants

/-!
# Iterations of the looper

With a single call of `Start()` the looper neither loses nor invents
iterations, and however long it runs, at most two invocations of the looper
function are nested in each other.
-/

namespace DkPull

open DkPull.Reactive

namespace Looper

/-- However the looper function calls `next()`, and whatever it throws, at most
two of its invocations are active at once and at most one loop is. -/
theorem nesting_is_bounded
    {events : List LooperEvent} {config : Configuration}
    {outputs : List LooperOutput}
    (ran :
      looperMachine.run .create events = some (config, outputs))
    (startedOnce : events.count .start ≤ 1) :
    config.stack.length ≤ 2 ∧ config.stack.count .loop ≤ 1 := by
  have oneLoop := (flagsFollow_of_run ran).oneLoop
  have oneStart := (accounts_of_run ran).startFrames
  refine ⟨?_, oneLoop⟩
  rw [length_eq_counts]
  omega

/-- A call of `next()` inside the invocation made by `Start()`, answered by a
second pass in which `next()` is called again. -/
theorem nesting_is_bounded_inside_start :
    ([.loop, .start] : List Activation).length ≤ 2 ∧
      ([.loop, .start] : List Activation).count .loop ≤ 1 :=
  nesting_is_bounded
    (show
      looperMachine.run .create [.start, .next 0, .next 1, .returned] =
        some
          (⟨⟨false, false⟩, [.loop, .start], 3⟩,
            [.invoked 0, .invoked 1, .invoked 2])
      from by decide)
    (by decide)

/-- With a single `Start()` the loop is never hidden below another
invocation. -/
theorem loop_innermost_of_run
    {events : List LooperEvent} {config : Configuration}
    {outputs : List LooperOutput}
    (ran :
      looperMachine.run .create events = some (config, outputs))
    (startedOnce : events.count .start ≤ 1)
    (active : .loop ∈ config.stack) :
    config.stack.head? = some .loop := by
  refine
    Machine.history_invariant
      (fun history _ config =>
        history.count .start ≤ 1 →
        .loop ∈ config.stack → config.stack.head? = some .loop)
      ?_ ?_ ran startedOnce active
  · intro _ impossible
    cases impossible
  intro history outputs config event target emitted front innermostLoop
    stepped startedOnce active
  have oneLoop := (flagsFollow_of_run front).oneLoop
  rw [List.count_append] at startedOnce
  have earlier := innermostLoop (by omega)
  cases looperStep_iff.mp stepped with
  | started =>
      have unstarted : .start ∉ history := by
        rw [← List.count_eq_zero]
        simpa using startedOnce
      simp [((accounts_of_run front).unstarted unstarted).2] at active
  | noted origin handed looping =>
      exact earlier active
  | entered origin handed idle =>
      rfl
  | startReturned rest innermost =>
      simp [innermost, active] at earlier
  | repeated rest innermost called =>
      rfl
  | finished rest innermost uncalled =>
      simp [innermost, List.count_eq_zero] at oneLoop
      exact absurd active oneLoop
  | unwound activation rest innermost =>
      cases activation with
      | start =>
          simp [innermost, active] at earlier
      | loop =>
          simp [innermost, List.count_eq_zero] at oneLoop
          exact absurd active oneLoop

/-- Until the looper function is entered again, a noted call of `next()` stays
noted and the loop stays in the innermost invocation. -/
theorem invoked_or_pending
    {source config : Configuration} {events : List LooperEvent}
    {outputs : List LooperOutput}
    (ran : looperMachine.run source events = some (config, outputs))
    (once : .start ∉ events) (unthrown : .threw ∉ events)
    (noted : source.self = ⟨true, false⟩)
    (innermost : source.stack.head? = some .loop) :
    (∃ handle, .invoked handle ∈ outputs) ∨
      config.self = ⟨true, false⟩ ∧ config.stack.head? = some .loop := by
  refine
    Machine.history_invariant
      (fun history outputs config =>
        .start ∉ history → .threw ∉ history →
          (∃ handle, .invoked handle ∈ outputs) ∨
            config.self = ⟨true, false⟩ ∧
              config.stack.head? = some .loop)
      (fun _ _ => Or.inr ⟨noted, innermost⟩) ?_ ran once unthrown
  intro history outputs config event target emitted _ earlier stepped once
    unthrown
  rw [List.mem_append, not_or] at once unthrown
  rcases earlier once.1 unthrown.1 with
    ⟨handle, invoked⟩ | ⟨stillNoted, stillInnermost⟩
  · exact Or.inl ⟨handle, List.mem_append_left _ invoked⟩
  cases looperStep_iff.mp stepped with
  | started =>
      simp at once
  | noted origin handed looping =>
      exact Or.inr ⟨rfl, stillInnermost⟩
  | entered origin handed idle =>
      simp [stillNoted] at idle
  | startReturned rest top =>
      simp [top] at stillInnermost
  | repeated rest top called =>
      exact Or.inl ⟨config.handles, by simp⟩
  | finished rest top uncalled =>
      simp [stillNoted] at uncalled
  | unwound activation rest top =>
      simp at unthrown

/-- Every call of `next()` is followed by an invocation, at the latest when the
active invocation returns. -/
theorem next_is_served
    {before after : List LooperEvent} {origin : Nat}
    {middle config : Configuration} {early outputs : List LooperOutput}
    (front :
      looperMachine.run .create (.start :: before) = some (middle, early))
    (ran :
      looperMachine.run .create
          (.start :: (before ++ .next origin :: after)) =
        some (config, outputs))
    (once : .start ∉ before ++ .next origin :: after)
    (unthrown : .threw ∉ before ++ .next origin :: after) :
    ∃ later,
      outputs = early ++ later ∧
        ((∃ handle, .invoked handle ∈ later) ∨
          ∃ target handle,
            looperMachine.step config .returned =
              some (target, [.invoked handle])) := by
  rw [← List.cons_append] at ran
  obtain ⟨source, first, next, emitted, late, reached, stepped, continued,
    rfl⟩ := Machine.run_split ran
  rw [front, Option.some.injEq, Prod.mk.injEq] at reached
  obtain ⟨rfl, rfl⟩ := reached
  simp only [List.mem_append, List.mem_cons, reduceCtorEq, false_or, not_or]
    at once unthrown
  refine ⟨emitted ++ late, rfl, ?_⟩
  cases looperStep_iff.mp stepped with
  | entered _ _ idle =>
      exact Or.inl ⟨middle.handles, by simp⟩
  | noted _ _ looping =>
      have fromStart : ThrowsOnlyFromStart (.start :: before) :=
        .of_unthrown (by simp [unthrown.1])
      have active : .loop ∈ middle.stack := by
        by_contra absent
        simp [(flagsFollow_of_run front).idle absent fromStart] at looping
      have innermost :=
        loop_innermost_of_run front
          (by simp [List.count_eq_zero.mpr once.1]) active
      rcases invoked_or_pending continued once.2 unthrown.2 rfl
          innermost with
        invoked | ⟨noted, stillInnermost⟩
      · exact Or.inl (by simpa using invoked)
      · obtain ⟨rest, shape⟩ := List.head?_eq_some_iff.mp stillInnermost
        exact
          Or.inr
            ⟨_, _, looperStep_iff.mpr
              (.repeated rest shape (by rw [noted]))⟩

private theorem nextCalls_le_of_distinct
    {events : List LooperEvent} {limit : Nat}
    (distinct : (origins events).Nodup)
    (made : ∀ origin ∈ origins events, origin < limit) :
    nextCalls events ≤ limit := by
  have contained : origins events ⊆ List.range limit := by
    intro origin member
    exact List.mem_range.mpr (made origin member)
  simpa [nextCalls] using (distinct.subperm contained).length_le

/-- As long as each handle is called at most once, every call of `next()` has
led to an invocation or is still noted. -/
theorem invocations_and_pending
    {events : List LooperEvent} {config : Configuration}
    {outputs : List LooperOutput}
    (ran :
      looperMachine.run .create events = some (config, outputs))
    (startedOnce : events.count .start ≤ 1)
    (distinct : (origins events).Nodup) :
    config.handles + config.pending =
      events.count .start + nextCalls events := by
  refine
    Machine.history_invariant
      (fun history _ config =>
        history.count .start ≤ 1 → (origins history).Nodup →
          config.handles + config.pending =
            history.count .start + nextCalls history)
      (fun _ _ => rfl) ?_ ran startedOnce distinct
  intro history outputs config event target emitted front balance stepped
    startedOnce distinct
  rw [List.count_append] at startedOnce
  rw [origins_append] at distinct
  have earlier := balance (by omega) distinct.of_append_left
  have flags := flagsFollow_of_run front
  cases looperStep_iff.mp stepped with
  | started =>
      simp [Configuration.pending, nextCalls] at earlier ⊢
      omega
  | noted origin handed looping =>
      -- A second note would need more distinct handles than were made.
      have fewer :
          nextCalls (history ++ [.next origin]) ≤ config.handles := by
        apply nextCalls_le_of_distinct
        · simpa using distinct
        · intro called member
          rw [origins_append, List.mem_append] at member
          rcases member with before | now
          · exact (accounts_of_run front).made called before
          · rw [List.mem_singleton.mp now]
            exact handed
      have atMostOne := Bool.toNat_le config.self.nextCalled
      simp [Configuration.pending, nextCalls] at earlier fewer startedOnce ⊢
      omega
  | entered origin handed idle =>
      obtain ⟨absent, fromStart⟩ := flags.of_idle idle
      have settled := flags.idle absent fromStart
      simp [Configuration.pending, nextCalls, settled] at earlier ⊢
      omega
  | startReturned rest innermost =>
      simpa [Configuration.pending, nextCalls] using earlier
  | repeated rest innermost called =>
      simp [Configuration.pending, nextCalls, called] at earlier ⊢
      omega
  | finished rest innermost uncalled =>
      simpa [Configuration.pending, nextCalls, uncalled] using earlier
  | unwound activation rest innermost =>
      simpa [Configuration.pending, nextCalls] using earlier

/-- One `Start()`, any calls of `next()` and no exception: outside the looper
its flags are at rest, every call of `next()` is followed by an invocation (at
the latest by the next pass, once the active one returns), and the invocations
are at most, and for handles called at most once exactly, one more than the
calls. -/
theorem iterations_are_exact
    {rest : List LooperEvent} {config : Configuration}
    {outputs : List LooperOutput}
    (ran :
      looperMachine.run .create (.start :: rest) = some (config, outputs))
    (once : .start ∉ rest) (unthrown : .threw ∉ rest) :
    (config.stack = [] →
      config.self.nextCalled = false ∧
        config.self.looperFunctionReturned = true) ∧
    (∀ before origin after middle early,
      rest = before ++ .next origin :: after →
      looperMachine.run .create (.start :: before) = some (middle, early) →
        ∃ later,
          outputs = early ++ later ∧
            ((∃ handle, .invoked handle ∈ later) ∨
              ∃ target handle,
                looperMachine.step config .returned =
                  some (target, [.invoked handle]))) ∧
    outputs.length ≤ 1 + nextCalls rest ∧
    ((origins rest).Nodup → config.stack = [] →
      outputs.length = 1 + nextCalls rest) := by
  have accounts := accounts_of_run ran
  have flags := flagsFollow_of_run ran
  have fromStart : ThrowsOnlyFromStart (.start :: rest) :=
    .of_unthrown (by simp [unthrown])
  have oneStart : (LooperEvent.start :: rest).count .start = 1 := by
    simp [List.count_eq_zero.mpr once]
  have sameCalls : nextCalls (.start :: rest) = nextCalls rest :=
    rfl
  refine ⟨?_, ?_, ?_, ?_⟩
  · intro outside
    have settled := flags.idle (by simp [outside]) fromStart
    simp [settled]
  · rintro before origin after middle early rfl front
    exact next_is_served front ran once unthrown
  · have atMost := accounts.atMost
    rw [oneStart, sameCalls, ← accounts.invocations] at atMost
    omega
  · intro distinct outside
    have settled := flags.idle (by simp [outside]) fromStart
    have balance :=
      invocations_and_pending ran (Nat.le_of_eq oneStart) distinct
    rw [oneStart, sameCalls, ← accounts.invocations] at balance
    simpa [Configuration.pending, settled] using balance

/-- One call from inside the first invocation and one from outside. -/
theorem iterations_are_exact_mixed :
    ([.invoked 0, .invoked 1, .invoked 2] : List LooperOutput).length =
      1 + nextCalls [.next 0, .returned, .returned, .next 1, .returned] :=
  (iterations_are_exact
    (show
      looperMachine.run .create
          [.start, .next 0, .returned, .returned, .next 1, .returned] =
        some
          (⟨⟨false, true⟩, [], 3⟩,
            [.invoked 0, .invoked 1, .invoked 2])
      from by decide)
    (by decide) (by decide)).2.2.2 (by decide) rfl

end Looper

end DkPull
