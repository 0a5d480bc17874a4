import DkPull.PullStream.CheckerChain
import DkPull.PullStream.ProtocolModes

/-!
# A chain of checkers that throw

The checkers of a chain that throw make up one checker.  It forbids extra
requests when one of them does, and it enforces a termination when one of them
does.  Its first exception is that of the chain.
-/

namespace DkPull.PullStream

open DkPull.Types
open DkPull.Reactive
open ProtocolChecker

variable {T : Type}

/-- What the checkers of a chain demand together. -/
def Options.joined (chain : List Options) : Options where
  forbidExtraRequests := chain.any Options.forbidExtraRequests
  enforceStreamTermination := chain.any Options.enforceStreamTermination
  notifyEagerly := true

def Probe.demanding (probe : Probe) (options : Options) : Probe :=
  { probe with
    self :=
      { probe.self with
        forbidExtraRequests := options.forbidExtraRequests
        enforceStreamTermination := options.enforceStreamTermination } }

/-- An eager checker that has not reported anything, in a session without null
callbacks. -/
structure Unreported (demands : Options) (probe : Probe) : Prop where
  eager : probe.self.notifyEagerly = true
  silent : probe.self.errors = []
  forbids : probe.self.forbidExtraRequests = demands.forbidExtraRequests
  enforces :
    probe.self.enforceStreamTermination = demands.enforceStreamTermination
  wrapped : ∀ position : Nat, probe.callbacks[position]? ≠ some none

variable {chain : List Options} {options : Options} {single : Probe}
  {abort : Abort} {callback : WrappedCallback} {done : Done}
  {err : Message} {rest : List Message}

/-- An eager checker throws the first message that there is to report. -/
theorem step_throws
    {event : SessionEvent T} (eager : single.self.notifyEagerly = true)
    (reported : eventMessages single event = err :: rest) :
    ∃ next,
      sessionMachine.step single event = some (next, [.thrown err]) := by
  have isTwin : single.twin = single := by
    unfold Probe.twin
    rw [← eager]
  have thrown := step_twin_throws reported
  rwa [isTwin] at thrown

/-- A checker that demands less has nothing to say about a request, or says the
same first. -/
theorem requestMessages_demanding
    (weaker :
      options.forbidExtraRequests = true →
        single.self.forbidExtraRequests = true)
    (abort : Abort) :
    requestMessages (single.demanding options).self abort = [] ∨
      (requestMessages (single.demanding options).self abort).head? =
        (requestMessages single.self abort).head? := by
  cases forbids : options.forbidExtraRequests with
  | true =>
      refine .inr ?_
      simp only [requestMessages, Probe.demanding, forbids, weaker forbids]
  | false =>
      cases isAbort : abort.toBool with
      | true =>
          refine .inl ?_
          simp [requestMessages, Probe.demanding, forbids, isAbort]
      | false =>
          refine .inr ?_
          simp only [requestMessages, Probe.demanding, forbids, isAbort]
          split <;> simp

private theorem requestMessages_demanding_of_silent
    (weaker :
      options.forbidExtraRequests = true →
        single.self.forbidExtraRequests = true)
    (silent : requestMessages single.self abort = []) :
    requestMessages (single.demanding options).self abort = [] := by
  rcases requestMessages_demanding weaker abort with none | same
  · exact none
  · rw [silent] at same
    exact List.head?_eq_none_iff.mp same

/-- A checker that forbids as much says the same about a request. -/
theorem requestMessages_demanding_of_same
    (same : options.forbidExtraRequests = single.self.forbidExtraRequests)
    (abort : Abort) :
    requestMessages (single.demanding options).self abort =
      requestMessages single.self abort := by
  simp only [requestMessages, Probe.demanding, same]

private theorem answerMessages_passedDone
    (silent : answerMessages single.self callback done = []) :
    answerMessages (single.demanding options).self callback
        (passedDone single.self done) =
      [] := by
  obtain ⟨value, others⟩ := List.append_eq_nil_iff.mp silent
  refine List.append_eq_nil_iff.mpr ⟨?_, others⟩
  change valueMessages single.self callback.i _ = []
  cases ended : single.self.done.toBool with
  | true => simp [valueMessages, passedDone, ended]
  | false =>
      have same : passedDone single.self done = done := by
        simp [passedDone, ended]
      rw [same]
      exact value

private theorem passedDone_demanding (done : Done) :
    passedDone (single.demanding options).self (passedDone single.self done) =
      passedDone single.self done := by
  change passedDone single.self _ = _
  cases ended : single.self.done.toBool <;> simp [passedDone, ended]

private theorem afterRequest_demanding
    (silent : requestMessages single.self abort = [])
    (alsoSilent : requestMessages (single.demanding options).self abort = []) :
    afterRequest (single.demanding options) abort false =
      (afterRequest single abort false).demanding options := by
  simp only [afterRequest, silent, alsoSilent]
  rfl

private theorem afterAnswer_demanding
    {position : Nat} (silent : answerMessages single.self callback done = []) :
    afterAnswer (single.demanding options) position callback
        (passedDone single.self done) =
      (afterAnswer single position callback done).demanding options := by
  have alsoSilent :
      answerMessages (single.demanding options).self callback
          (passedDone single.self done) =
        [] :=
    answerMessages_passedDone silent
  simp only [afterAnswer, silent, alsoSilent, passedDone_demanding]
  rfl

private theorem step_request_silent
    (silent : requestMessages single.self abort = []) :
    (sessionMachine (T := T)).step single (.request abort false) =
      some (afterRequest single abort false, [.toSource abort]) := by
  have passed : passedAbort single.self abort false = abort := by
    simp [passedAbort]
  rw [step_request_tolerated false (.inr silent), passed]

/-! ## One event -/

private theorem askThrough_silent
    (weaker :
      ∀ options ∈ chain, options.forbidExtraRequests = true →
        single.self.forbidExtraRequests = true)
    (silent : requestMessages single.self abort = []) :
    askThrough (T := T) (chain.map single.demanding) abort false =
      some
        (chain.map (afterRequest single abort false).demanding,
          [.toSource abort]) := by
  induction chain with
  | nil => rfl
  | cons options others inductionHypothesis =>
      have here :=
        requestMessages_demanding_of_silent
          (weaker options List.mem_cons_self) silent
      have behind :=
        inductionHypothesis fun other member =>
          weaker other (List.mem_cons_of_mem options member)
      simp [askThrough, step_request_silent here, behind,
        afterRequest_demanding silent here]

/-- The first checker that has something to say about a request throws. -/
theorem askThrough_throws
    (eager : single.self.notifyEagerly = true)
    (weaker :
      ∀ options ∈ chain, options.forbidExtraRequests = true →
        single.self.forbidExtraRequests = true)
    (strictest :
      ∃ options ∈ chain,
        options.forbidExtraRequests = single.self.forbidExtraRequests)
    (reported : requestMessages single.self abort = err :: rest) :
    ∃ target,
      askThrough (T := T) (chain.map single.demanding) abort false =
        some (target, [.thrown err]) := by
  induction chain with
  | nil =>
      obtain ⟨options, member, -⟩ := strictest
      cases member
  | cons options others inductionHypothesis =>
      cases here : requestMessages (single.demanding options).self abort with
      | nil =>
          have behind :
              ∃ other ∈ others,
                other.forbidExtraRequests =
                  single.self.forbidExtraRequests := by
            obtain ⟨other, member, same⟩ := strictest
            rcases List.mem_cons.mp member with rfl | member
            · rw [requestMessages_demanding_of_same same, reported] at here
              cases here
            · exact ⟨other, member, same⟩
          obtain ⟨target, throws⟩ :=
            inductionHypothesis
              (fun other member =>
                weaker other (List.mem_cons_of_mem options member))
              behind
          refine
            ⟨afterRequest (single.demanding options) abort false :: target, ?_⟩
          simp [askThrough, step_request_silent here, throws]
      | cons first more =>
          have same : first = err := by
            rcases
                requestMessages_demanding
                  (weaker options List.mem_cons_self) abort with
              none | same
            · rw [here] at none
              cases none
            · rw [here, reported] at same
              exact Option.some.inj same
          rw [same] at here
          obtain ⟨target, stepped⟩ :
              ∃ target,
                (sessionMachine (T := T)).step (single.demanding options)
                    (.request abort false) =
                  some (target, [.thrown err]) :=
            step_throws eager here
          refine ⟨target :: others.map single.demanding, ?_⟩
          simp [askThrough, stepped]

private theorem answerThrough_silent
    {position : Nat} (nonempty : chain ≠ [])
    (issued : single.callbacks[position]? = some (some callback))
    (silent : answerMessages single.self callback done = []) (value : T) :
    answerThrough (chain.map single.demanding) position done value =
      some
        (chain.map (afterAnswer single position callback done).demanding,
          [.toConsumer position (passedDone single.self done) value]) := by
  induction chain with
  | nil => exact absurd rfl nonempty
  | cons options others inductionHypothesis =>
      have issuedHere :
          (single.demanding options).callbacks[position]? =
            some (some callback) :=
        issued
      cases others with
      | nil =>
          -- The checker next to the source.
          have stepped :
              sessionMachine.step (single.demanding options)
                  (.answer position done value) =
                some
                  ((afterAnswer single position callback done).demanding
                      options,
                    [.toConsumer position (passedDone single.self done)
                      value]) :=
            step_answer_tolerated value issuedHere (.inr silent)
          simp [answerThrough, stepped]
      | cons next further =>
          have behind := inductionHypothesis (List.cons_ne_nil next further)
          have stepped :
              sessionMachine.step (single.demanding options)
                  (.answer position (passedDone single.self done) value) =
                some
                  (afterAnswer (single.demanding options) position callback
                      (passedDone single.self done),
                    [.toConsumer position
                      (passedDone (single.demanding options).self
                        (passedDone single.self done))
                      value]) :=
            step_answer_tolerated value issuedHere
              (.inr (answerMessages_passedDone silent))
          rw [passedDone_demanding, afterAnswer_demanding silent] at stepped
          rw [List.map_cons, answerThrough, behind]
          simp [stepped]

/-- The checker next to the source throws, and no other one sees the
answer. -/
theorem answerThrough_throws
    {position : Nat} (nonempty : chain ≠ [])
    (eager : single.self.notifyEagerly = true)
    (issued : single.callbacks[position]? = some (some callback))
    (reported : answerMessages single.self callback done = err :: rest)
    (value : T) :
    ∃ target,
      answerThrough (chain.map single.demanding) position done value =
        some (target, [.thrown err]) := by
  induction chain with
  | nil => exact absurd rfl nonempty
  | cons options others inductionHypothesis =>
      cases others with
      | nil =>
          have eagerHere :
              (single.demanding options).self.notifyEagerly = true :=
            eager
          have reportedHere :
              eventMessages (single.demanding options)
                  (.answer position done value) =
                err :: rest := by
            have issuedHere :
                (single.demanding options).callbacks[position]? =
                  some (some callback) :=
              issued
            simp only [eventMessages, issuedHere]
            exact reported
          obtain ⟨target, stepped⟩ := step_throws eagerHere reportedHere
          exact ⟨[target], by simp [answerThrough, stepped]⟩
      | cons next further =>
          obtain ⟨target, throws⟩ :=
            inductionHypothesis (List.cons_ne_nil next further)
          refine ⟨single.demanding options :: target, ?_⟩
          rw [List.map_cons, answerThrough, throws]

/-- An eager checker that has not reported anything throws the first message of
the final checks. -/
theorem terminate_unreported
    (eager : single.self.notifyEagerly = true)
    (silent : single.self.errors = []) :
    (terminate single).1 =
      (terminateMessages single.self).head?.elim (.ok []) .error := by
  cases judged : terminateMessages single.self with
  | nil =>
      rw [terminate_tolerated (.inr judged), silent, judged]
      rfl
  | cons err rest =>
      rw [terminate_eager eager judged]
      rfl

/-- A checker that enforces less passes the final checks, or ends them like the
one that enforces more. -/
theorem terminate_demanding
    (eager : single.self.notifyEagerly = true)
    (silent : single.self.errors = [])
    (weaker :
      options.enforceStreamTermination = true →
        single.self.enforceStreamTermination = true) :
    (terminate (single.demanding options)).1 = .ok [] ∨
      (terminate (single.demanding options)).1 = (terminate single).1 := by
  have here :
      (terminate (single.demanding options)).1 =
        (terminateMessages (single.demanding options).self).head?.elim
          (.ok []) .error :=
    terminate_unreported eager silent
  rw [here, terminate_unreported eager silent]
  cases never : neverInvokedMessages single.self with
  | cons err rest =>
      have neverHere :
          neverInvokedMessages (single.demanding options).self =
            err :: rest :=
        never
      refine .inr ?_
      rw [terminateMessages, terminateMessages, never, neverHere]
      rfl
  | nil =>
      have neverHere :
          neverInvokedMessages (single.demanding options).self = [] :=
        never
      rw [terminateMessages, terminateMessages, never, neverHere]
      cases enforces : options.enforceStreamTermination with
      | false =>
          refine .inl ?_
          simp [terminationMessages, Probe.demanding, enforces]
      | true =>
          refine .inr ?_
          simp [terminationMessages, Probe.demanding, enforces,
            weaker enforces]

private theorem terminate_demanding_of_same
    (same :
      options.enforceStreamTermination =
        single.self.enforceStreamTermination)
    (eager : single.self.notifyEagerly = true)
    (silent : single.self.errors = []) :
    (terminate (single.demanding options)).1 = (terminate single).1 := by
  have here :
      (terminate (single.demanding options)).1 =
        (terminateMessages (single.demanding options).self).head?.elim
          (.ok []) .error :=
    terminate_unreported eager silent
  rw [here, terminate_unreported eager silent]
  simp only [terminateMessages, terminationMessages, Probe.demanding, same]
  rfl

/-! ## Whole sessions -/

/-- One of the checkers makes each of the demands that the joined one makes,
and no checker makes another one. -/
theorem any_spec
    (demand : Options → Bool) (nonempty : chain ≠ []) :
    (∀ options ∈ chain, demand options = true → chain.any demand = true) ∧
      ∃ options ∈ chain, demand options = chain.any demand := by
  refine ⟨?_, ?_⟩
  · intro options member demanded
    exact List.any_eq_true.mpr ⟨options, member, demanded⟩
  · cases found : chain.any demand with
    | true => exact List.any_eq_true.mp found
    | false =>
        obtain ⟨options, others, rfl⟩ := List.exists_cons_of_ne_nil nonempty
        have absent := List.any_eq_false.mp found options List.mem_cons_self
        exact ⟨options, List.mem_cons_self, by simpa using absent⟩

private theorem Unreported.create (options : Options)
    (eager : options.notifyEagerly = true) :
    Unreported options (Probe.create options) where
  eager := eager
  silent := rfl
  forbids := rfl
  enforces := rfl
  wrapped := by
    intro position found
    cases found

private theorem Unreported.step
    {demands : Options} {event : SessionEvent T} {next : Probe}
    {emitted : List (SessionOutput T)}
    (unreported : Unreported demands single)
    (nonNull : ∀ abort, event ≠ .request abort true)
    (stepped : sessionMachine.step single event = some (next, emitted))
    (unthrown : Unthrown emitted) :
    Unreported demands next := by
  obtain ⟨tolerated, errors⟩ := step_errors stepped unthrown
  have silent : next.self.errors = [] := by
    rcases tolerated with collecting | none
    · rw [unreported.eager] at collecting
      cases collecting
    · rw [errors, unreported.silent, none, List.append_nil]
  cases event with
  | request abort isNull =>
      obtain ⟨-, rfl, -⟩ := step_request_cases stepped unthrown
      refine
        ⟨unreported.eager, silent, unreported.forbids, unreported.enforces, ?_⟩
      intro position found
      cases isNull with
      | true => exact nonNull abort rfl
      | false =>
          simp only [afterRequest, List.getElem?_append] at found
          split at found
          · exact unreported.wrapped position found
          · simp [List.getElem?_singleton] at found
  | answer position done value =>
      rcases step_answer_cases stepped unthrown with
        ⟨-, rfl, -⟩ | ⟨callback, issued, -, rfl, -⟩
      · exact unreported
      · refine
          ⟨unreported.eager, silent, unreported.forbids, unreported.enforces,
            ?_⟩
        intro other found
        simp only [afterAnswer, List.getElem?_set] at found
        split at found
        · split at found <;> simp at found
        · exact unreported.wrapped other found

/-- An event has the same effect on the chain as on the single checker. -/
theorem Unreported.chain_step
    {event : SessionEvent T} {next : Probe} {emitted : List (SessionOutput T)}
    (unreported : Unreported (.joined chain) single) (nonempty : chain ≠ [])
    (nonNull : ∀ abort, event ≠ .request abort true)
    (stepped : sessionMachine.step single event = some (next, emitted)) :
    ∃ target,
      chainMachine.step (chain.map single.demanding) event =
          some (target, emitted) ∧
        (Unthrown emitted → target = chain.map next.demanding) := by
  obtain ⟨weaker, strictest⟩ :=
    any_spec Options.forbidExtraRequests nonempty
  have forbids :
      single.self.forbidExtraRequests =
        chain.any Options.forbidExtraRequests :=
    unreported.forbids
  rw [← forbids] at weaker strictest
  cases event with
  | request abort isNull =>
      cases isNull with
      | true => exact absurd rfl (nonNull abort)
      | false =>
          cases messages : requestMessages single.self abort with
          | nil =>
              rw [step_request_silent messages] at stepped
              cases stepped
              exact ⟨_, askThrough_silent weaker messages, fun _ => rfl⟩
          | cons err rest =>
              obtain ⟨thrower, thrown⟩ :
                  ∃ thrower,
                    (sessionMachine (T := T)).step single
                        (.request abort false) =
                      some (thrower, [.thrown err]) :=
                step_throws unreported.eager messages
              rw [thrown] at stepped
              cases stepped
              obtain ⟨target, throws⟩ :=
                askThrough_throws unreported.eager weaker strictest messages
              refine ⟨target, throws, ?_⟩
              intro unthrown
              exact absurd List.mem_cons_self (unthrown err)
  | answer position done value =>
      cases issued : single.callbacks[position]? with
      | none => simp [sessionMachine, issued] at stepped
      | some handed =>
          cases handed with
          | none => exact absurd issued (unreported.wrapped position)
          | some callback =>
              cases messages : answerMessages single.self callback done with
              | nil =>
                  rw [step_answer_tolerated value issued (.inr messages)]
                    at stepped
                  cases stepped
                  exact
                    ⟨_, answerThrough_silent nonempty issued messages value,
                      fun _ => rfl⟩
              | cons err rest =>
                  have reported :
                      eventMessages single (.answer position done value) =
                        err :: rest := by
                    simpa only [eventMessages, issued] using messages
                  obtain ⟨thrower, thrown⟩ :=
                    step_throws unreported.eager reported
                  rw [thrown] at stepped
                  cases stepped
                  obtain ⟨target, throws⟩ :=
                    answerThrough_throws nonempty unreported.eager issued
                      messages value
                  refine ⟨target, throws, ?_⟩
                  intro unthrown
                  exact absurd List.mem_cons_self (unthrown err)

/-- As long as nothing is thrown, the chain makes the run of the single
checker. -/
theorem chain_run_of_joined
    (nonempty : chain ≠ [])
    (eager : ∀ options ∈ chain, options.notifyEagerly = true)
    {events : List (SessionEvent T)} {outputs : List (SessionOutput T)}
    (nonNull : ∀ abort, .request abort true ∉ events)
    (ran :
      sessionMachine.run (Probe.create (.joined chain)) events =
        some (single, outputs))
    (unthrown : Unthrown outputs) :
    Unreported (.joined chain) single ∧
      chainMachine.run (chain.map Probe.create) events =
        some (chain.map single.demanding, outputs) := by
  refine
    Machine.history_invariant
      (fun history outputs single =>
        (∀ abort, .request abort true ∉ history) →
          Unthrown outputs →
            Unreported (.joined chain) single ∧
              chainMachine.run (chain.map Probe.create) history =
                some (chain.map single.demanding, outputs))
      ?_ ?_ ran nonNull unthrown
  · intro _ _
    have same :
        chain.map Probe.create =
          chain.map (Probe.create (.joined chain)).demanding := by
      apply List.map_congr_left
      intro options member
      simp only [Probe.create, ProtocolChecker.create, Probe.demanding,
        eager options member, Options.joined]
    rw [same]
    exact ⟨.create _ rfl, rfl⟩
  · intro history outputs single event next emitted _ earlier stepped nonNull
      unthrown
    obtain ⟨quiet, quietNow⟩ := unthrown.of_append
    obtain ⟨unreported, chainRan⟩ :=
      earlier
        (fun abort member => nonNull abort (List.mem_append_left _ member))
        quiet
    have notNull : ∀ abort, event ≠ .request abort true := by
      rintro abort rfl
      exact nonNull abort (by simp)
    obtain ⟨target, chainStepped, reached⟩ :=
      unreported.chain_step nonempty notNull stepped
    rw [reached quietNow] at chainStepped
    refine ⟨unreported.step notNull stepped quietNow, ?_⟩
    exact
      Machine.run_concat_eq_some.mpr ⟨_, _, _, chainRan, chainStepped, rfl⟩

/-- A chain of eager checkers behaves as the one eager checker that makes all
of their demands, up to and including the first exception; and the final
checks of the chain end like those of this one. -/
theorem eager_chain_joins
    (nonempty : chain ≠ [])
    (eager : ∀ options ∈ chain, options.notifyEagerly = true)
    {events : List (SessionEvent T)} {outputs : List (SessionOutput T)}
    (nonNull : ∀ abort, .request abort true ∉ events)
    (ran :
      sessionMachine.run (Probe.create (.joined chain)) events =
        some (single, outputs))
    (unthrown : Unthrown outputs) :
    chainMachine.run (chain.map Probe.create) events =
        some (chain.map single.demanding, outputs) ∧
      (∀ (event : SessionEvent T) (next : Probe)
          (emitted : List (SessionOutput T)),
        (∀ abort, event ≠ .request abort true) →
          sessionMachine.step single event = some (next, emitted) →
            ∃ target,
              chainMachine.step (chain.map single.demanding) event =
                some (target, emitted)) ∧
      (∀ probe ∈ chain.map single.demanding,
        (terminate probe).1 = .ok [] ∨
          (terminate probe).1 = (terminate single).1) ∧
      ∃ probe ∈ chain.map single.demanding,
        (terminate probe).1 = (terminate single).1 := by
  obtain ⟨unreported, chainRan⟩ :=
    chain_run_of_joined nonempty eager nonNull ran unthrown
  obtain ⟨weaker, strictest⟩ :=
    any_spec Options.enforceStreamTermination nonempty
  have enforces :
      single.self.enforceStreamTermination =
        chain.any Options.enforceStreamTermination :=
    unreported.enforces
  rw [← enforces] at weaker strictest
  refine ⟨chainRan, ?_, ?_, ?_⟩
  · intro event next emitted notNull stepped
    obtain ⟨target, chainStepped, -⟩ :=
      unreported.chain_step nonempty notNull stepped
    exact ⟨target, chainStepped⟩
  · intro probe member
    obtain ⟨options, isOption, rfl⟩ := List.mem_map.mp member
    apply terminate_demanding unreported.eager unreported.silent
    exact weaker options isOption
  · obtain ⟨options, isOption, same⟩ := strictest
    refine ⟨single.demanding options, List.mem_map_of_mem isOption, ?_⟩
    exact
      terminate_demanding_of_same same unreported.eager unreported.silent

/-- Of two checkers, one forbids extra requests. -/
def forbidBehindEnforce : List Options :=
  [{ enforceStreamTermination := true }, { forbidExtraRequests := true }]

private theorem ended_run :
    ∃ single,
      sessionMachine.run (Probe.create (.joined forbidBehindEnforce))
          [.request EndOrError.FALSE false, .answer 0 EndOrError.TRUE 0] =
        some
          (single,
            [.toSource EndOrError.FALSE,
              .toConsumer 0 EndOrError.TRUE 0]) ∧
        ∃ next,
          sessionMachine.step single
              (.request EndOrError.TRUE false : SessionEvent Nat) =
            some (next, [.thrown .requestAfterTerminated]) :=
  ⟨_, rfl, _, rfl⟩

theorem eager_chain_joins_abortBehindEnd :
    ∃ layers target,
      chainMachine.run (forbidBehindEnforce.map Probe.create)
          [.request EndOrError.FALSE false, .answer 0 EndOrError.TRUE 0] =
        some
          (layers,
            [.toSource EndOrError.FALSE,
              .toConsumer 0 EndOrError.TRUE 0]) ∧
        chainMachine.step layers
            (.request EndOrError.TRUE false : SessionEvent Nat) =
          some (target, [.thrown .requestAfterTerminated]) := by
  obtain ⟨single, ran, next, stepped⟩ := ended_run
  obtain ⟨chainRan, steps, -⟩ :=
    eager_chain_joins (by decide) (by decide) (by simp) ran
      (by simp [Unthrown])
  obtain ⟨target, chainStepped⟩ := steps _ _ _ (by simp) stepped
  exact ⟨_, target, chainRan, chainStepped⟩

end DkPull.PullStream
