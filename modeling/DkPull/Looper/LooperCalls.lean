import DkPull.Looper.LooperInvariants
import DkPull.Reactive.Calls

/-!
# What becomes of the calls of `next()`

However often and whenever `Start()` is called, and whatever is thrown, every
call of `next()` leads to an invocation, waits for one, or is absorbed because
an earlier call already waits.
-/

namespace DkPull

open DkPull.Reactive

namespace Looper

/-- The call of a step, by the number of its handle, when it comes while an
earlier call is noted. -/
def absorbedCalls (config : Configuration) : LooperEvent → List Nat
  | .next origin =>
      if config.self.nextCalled && !config.self.looperFunctionReturned then
        [origin]
      else []
  | _ => []

def absorbed (events : List LooperEvent) : List Nat :=
  looperMachine.callsOf absorbedCalls .create events

/-- One step moves a call from one account to another. -/
theorem LooperStep.balance
    {history : List LooperEvent} {event : LooperEvent}
    {config target : Configuration} {emitted : List LooperOutput}
    (stepped : LooperStep config event target emitted)
    (flags : FlagsFollow history config) :
    target.handles + target.pending +
        (absorbedCalls config event).length =
      config.handles + config.pending + [event].count .start +
        nextCalls [event] := by
  cases stepped with
  | started =>
      simp [Configuration.pending, absorbedCalls, nextCalls]
      omega
  | noted origin made looping =>
      cases noted : config.self.nextCalled <;>
        simp [Configuration.pending, absorbedCalls, nextCalls, looping, noted]
  | entered origin made idle =>
      obtain ⟨absent, fromStart⟩ := flags.of_idle idle
      have rests := flags.idle absent fromStart
      simp [Configuration.pending, absorbedCalls, nextCalls, rests]
  | startReturned =>
      simp [Configuration.pending, absorbedCalls, nextCalls]
  | repeated rest innermost called =>
      simp [Configuration.pending, absorbedCalls, nextCalls, called]
  | finished rest innermost uncalled =>
      simp [Configuration.pending, absorbedCalls, nextCalls, uncalled]
  | unwound =>
      simp [Configuration.pending, absorbedCalls, nextCalls]

/-- Every call of `Start()` or `next()` has led to an invocation, waits for
one, or has been absorbed by a call that waited.  At most one loop is running,
and at rest no call waits unless an exception has left the loop. -/
theorem calls_are_accounted
    {events : List LooperEvent} {config : Configuration}
    {outputs : List LooperOutput}
    (ran :
      looperMachine.run .create events = some (config, outputs)) :
    outputs.length + config.pending + (absorbed events).length =
        events.count .start + nextCalls events ∧
      config.stack.length ≤ config.stack.count .start + 1 ∧
      (ThrowsOnlyFromStart events → .loop ∉ config.stack →
        config.pending = 0) := by
  have flags := flagsFollow_of_run ran
  refine ⟨?_, ?_, ?_⟩
  · rw [(accounts_of_run ran).invocations]
    refine
      Machine.history_invariant
        (fun history _ config =>
          config.handles + config.pending + (absorbed history).length =
            history.count .start + nextCalls history)
        rfl ?_ ran
    intro history outputs config event target emitted front earlier stepped
    have balance :=
      (looperStep_iff.mp stepped).balance (flagsFollow_of_run front)
    rw [absorbed] at earlier ⊢
    rw [Machine.callsOf_concat front stepped, List.length_append,
      List.count_append, nextCalls, origins_append, List.length_append]
    rw [nextCalls] at earlier balance
    omega
  · rw [length_eq_counts]
    have oneLoop := flags.oneLoop
    omega
  · intro fromStart absent
    rw [Configuration.pending, flags.idle absent fromStart]
    rfl

/-- `Start()` is called again inside the loop, and one call is absorbed. -/
theorem calls_are_accounted_startedTwice :
    4 + 0 +
        (absorbed
          [.start, .next 0, .next 1, .next 1, .start, .returned, .returned,
            .returned, .returned]).length =
      5 :=
  (calls_are_accounted
    (show
      looperMachine.run .create
          [.start, .next 0, .next 1, .next 1, .start, .returned, .returned,
            .returned, .returned] =
        some
          (⟨⟨false, true⟩, [], 4⟩,
            [.invoked 0, .invoked 1, .invoked 2, .invoked 3])
      from by decide)).1

end Looper

end DkPull
