import DkPull.PullStream.Sources.Count
import DkPull.PullStream.Sources.Empty

/-!
# Sources in the place of each other

A consumer may rely on two habits of a source: it answers an abort with the
same abort, and a null callback does not disturb it.  `Values` and `Count` have
both of them in every state.  `MakeEmpty` has them until it meets the first
error or the first null callback, and so long it cannot be told from `Values`
without elements.
-/

namespace DkPull.PullStream.Sources

open DkPull.Types
open DkPull.Reactive

variable {State T : Type}

/-- Every abort with a callback is answered once, with the abort itself, and
every request with a null callback returns. -/
structure AnswersUniformly (trace : List (RequestEvent T)) : Prop where
  aborts :
    ∀ before abort after,
      trace = before ++ .asked abort false :: after →
      abort.toBool = true →
        (answersOf (asks before).length trace).map Prod.fst = [abort]
  nulls :
    ∀ before abort after,
      trace = before ++ .asked abort true :: after →
        .returned (asks before).length ∈ after

private theorem ReturnsOnce.mem
    {number : Nat} {after : List (RequestEvent T)}
    (returns : ReturnsOnce number after) : .returned number ∈ after := by
  obtain ⟨inside, outside, rfl, -, -⟩ := returns
  exact List.mem_append_right inside List.mem_cons_self

private theorem Served.answersUniformly [Inhabited T]
    {take : State → Option (T × State)} {self target : State}
    {trace : List (RequestEvent T)}
    (served : Served take 0 self trace target) :
    AnswersUniformly trace where
  aborts := by
    intro before abort after shape aborts
    obtain ⟨answers, -⟩ := served.asked shape
    rw [Nat.zero_add] at answers
    rw [answers, reply_of_abort take _ aborts]
    rfl
  nulls := by
    intro before abort after shape
    obtain ⟨-, returns⟩ := served.asked shape
    rw [Nat.zero_add] at returns
    exact returns.mem

/-- Code keeps the events of the trace and adds to them. -/
def Extends (code : SourceM State T PUnit) : Prop :=
  ∀ exchange, exchange.trace <+: (code exchange).2.trace

private theorem Extends.bind
    {code rest : SourceM State T PUnit}
    (first : Extends code) (second : Extends rest) :
    Extends (code >>= fun _ => rest) := by
  intro exchange
  have extended := first exchange
  rcases ran : code exchange with ⟨_ | _, next⟩
  · rw [ran] at extended
    rw [Throwing.bind_of_error ran]
    exact extended
  · rw [ran] at extended
    rw [Throwing.bind_of_ok ran]
    exact extended.trans (second next)

private theorem record_extends (event : RequestEvent T) :
    Extends (record event : SourceM State T PUnit) :=
  fun _ => List.prefix_append _ _

variable [Inhabited T]

private theorem Requests.emptySources_extends (requests : Requests T) :
    Extends (requests.perform emptySources) := by
  induction requests with
  | nil => exact fun _ => List.prefix_rfl
  | silent handle abort rest =>
      rintro ⟨⟨⟩, trace⟩
      rw [emptySources_silent]
      exact List.prefix_append _ _
  | request handle abort callback rest callbackHypothesis restHypothesis =>
      rintro ⟨⟨⟩, trace⟩
      have behind :=
        (callbackHypothesis EndOrError.TRUE default).bind
          ((record_extends (.returned (asks trace).length)).bind
            restHypothesis)
      rw [emptySources_request]
      exact (List.prefix_append trace _).trans (behind ⟨⟨⟩, _⟩)

/-! ## Where the empty source departs -/

/-- A run ended at a null callback, or an error got the answer to a clean
abort. -/
inductive Departs
    (run : Except BadFunctionCall PUnit × Exchange State T) : Prop
  | null (before : List (RequestEvent T)) (abort : Abort)
      (threw : run.1 = .error .badFunctionCall)
      (last : run.2.trace = before ++ [.asked abort true])
  | error (before : List (RequestEvent T)) {abort : Abort} (value : T)
      (isError : abort.isError = true)
      (lost :
        before ++
            [.asked abort false,
              .answered (asks before).length EndOrError.TRUE value] <+:
          run.2.trace)

omit [Inhabited T] in
/-- Nothing that follows makes up for a departure. -/
theorem Departs.bind
    {code rest : SourceM State T PUnit} {exchange : Exchange State T}
    (departs : Departs (code exchange)) (behind : Extends rest) :
    Departs ((code >>= fun _ => rest) exchange) := by
  rcases ran : code exchange with ⟨_ | _, next⟩
  · rw [Throwing.bind_of_error ran]
    rw [ran] at departs
    cases departs with
    | null before abort threw last => exact .null before abort threw last
    | error before value isError lost =>
        exact .error before value isError lost
  · rw [Throwing.bind_of_ok ran]
    rw [ran] at departs
    cases departs with
    | null before abort threw last => cases threw
    | error before value isError lost =>
        exact .error before value isError (lost.trans (behind next))

omit [Inhabited T] in
private theorem Departs.not_answersUniformly
    {run : Except BadFunctionCall PUnit × Exchange State T}
    (departs : Departs run) : ¬ AnswersUniformly run.2.trace := by
  intro uniform
  cases departs with
  | null before abort threw last =>
      cases uniform.nulls before abort [] last
  | @error before abort value isError lost =>
      obtain ⟨after, shape⟩ := lost
      rw [List.append_assoc] at shape
      have aborts : abort.toBool = true := by
        rw [EndOrError.toBool, isError, Bool.or_true]
      have answered :=
        uniform.aborts before abort
          (.answered (asks before).length EndOrError.TRUE value :: after)
          shape.symm aborts
      have member :
          EndOrError.TRUE ∈
            (answersOf (asks before).length run.2.trace).map Prod.fst := by
        rw [← shape]
        simp [answersOf_answered]
      rw [answered, List.mem_singleton] at member
      rw [← member] at isError
      cases isError

/-- Requests that are not plain get to the first null callback or to the first
error. -/
theorem Requests.emptySources_departs
    {requests : Requests T} (notPlain : requests.isPlain = false)
    (trace : List (RequestEvent T)) :
    Departs (requests.perform emptySources ⟨⟨⟩, trace⟩) := by
  induction requests generalizing trace with
  | nil => cases notPlain
  | silent handle abort rest =>
      rw [emptySources_silent]
      exact .null trace abort rfl rfl
  | request handle abort callback rest callbackHypothesis restHypothesis =>
      have inside :=
        (callback EndOrError.TRUE default).emptySources_extends
      have behind :=
        (record_extends (.returned (asks trace).length)).bind
          rest.emptySources_extends
      rw [emptySources_request]
      cases isError : abort.isError with
      | true =>
          exact
            .error trace default isError ((inside.bind behind) ⟨⟨⟩, _⟩)
      | false =>
          rw [isPlain, isError, Bool.not_false, Bool.true_and] at notPlain
          cases callbackPlain :
              (callback EndOrError.TRUE default).isPlain with
          | false =>
              exact (callbackHypothesis _ _ callbackPlain _).bind behind
          | true =>
              rw [callbackPlain, Bool.true_and] at notPlain
              obtain ⟨inner, ran, -⟩ :=
                emptySources_agree callbackPlain
                  (trace ++
                    [.asked abort false,
                      .answered (asks trace).length EndOrError.TRUE
                        default])
              rw [Throwing.bind_of_ok ran]
              exact restHypothesis notPlain _

abbrev Sink (State T : Type) :=
  Source State T → SourceM State T PUnit

def makeAbortNowSink (cb : Option (SourceCallback State T)) :
    Sink State T :=
  fun source => source EndOrError.TRUE cb

/-- A source that hands out a sequence confirms the abort and stays as it
is. -/
theorem Replies.makeAbortNowSink_run
    {take : State → Option (T × State)} {source : Source State T}
    (replies : Replies take source)
    (cb : Option (SourceCallback State T)) (exchange : Exchange State T) :
    makeAbortNowSink cb source exchange =
      (cb.getD fun _ _ => pure ⟨⟩) EndOrError.TRUE default exchange := by
  unfold makeAbortNowSink
  rw [replies, reply_of_abort take _ EndOrError.toBool_TRUE]
  cases cb <;> rfl

theorem makeEmpty_makeAbortNowSink_run
    (cb : Option (SourceCallback PUnit T)) (exchange : Exchange PUnit T) :
    makeAbortNowSink cb makeEmpty exchange =
      (cb.getD fun _ _ => throw .badFunctionCall) EndOrError.TRUE default
        exchange := by
  cases cb <;> rfl

/-- Requests go the same way at `MakeEmpty` and at `Values` without
elements. -/
def SameAnswers (requests : Requests T) : Prop :=
  (requests.perform emptySources ⟨⟨⟩, []⟩).1 =
      (requests.perform Values.sources ⟨Values.create [], []⟩).1 ∧
    requests.traceFrom emptySources ⟨⟩ =
      requests.traceFrom Values.sources (Values.create [])

private theorem Values.answersUniformly
    (values : List T) (requests : Requests T) :
    AnswersUniformly
      (requests.traceFrom Values.sources (Values.create values)) :=
  (requests.perform_from Values.sources_replies
    (Values.create values)).2.answersUniformly

private theorem Count.answersUniformly
    (maximum : UInt64) (requests : Requests UInt64) :
    AnswersUniformly
      (requests.traceFrom Count.sources (Count.create maximum)) :=
  (requests.perform_from Count.sources_replies
    (Count.create maximum)).2.answersUniformly

private theorem sameAnswers_of_isPlain
    {requests : Requests T} (plain : requests.isPlain = true) :
    SameAnswers requests := by
  obtain ⟨later, emptyRan, valuesRan⟩ :=
    Requests.emptySources_agree plain []
  unfold SameAnswers Requests.traceFrom
  rw [emptyRan, valuesRan]
  exact ⟨rfl, rfl⟩

private theorem emptySources_answersUniformly_iff (requests : Requests T) :
    AnswersUniformly (requests.traceFrom emptySources ⟨⟩) ↔
      requests.isPlain = true := by
  constructor
  · intro uniform
    by_contra notPlain
    have departs :=
      Requests.emptySources_departs (Bool.not_eq_true _ ▸ notPlain) []
    exact departs.not_answersUniformly uniform
  · intro plain
    rw [(sameAnswers_of_isPlain plain).2]
    exact Values.answersUniformly [] requests

private theorem sameAnswers_iff (requests : Requests T) :
    SameAnswers requests ↔ requests.isPlain = true := by
  constructor
  · intro same
    rw [← emptySources_answersUniformly_iff, same.2]
    exact Values.answersUniformly [] requests
  · exact sameAnswers_of_isPlain

/-- The message of an error is lost, and a null callback is called. -/
theorem emptySource_departs_from_values :
    (¬ AnswersUniformly
          ((Requests.flat
              [(EndOrError.ofMessage "broken pipe", false)]).traceFrom
            (emptySources (T := Nat)) ⟨⟩) ∧
        ¬ SameAnswers
          (Requests.flat (T := Nat)
            [(EndOrError.ofMessage "broken pipe", false)])) ∧
      ¬ AnswersUniformly
          ((Requests.flat [(EndOrError.TRUE, true)]).traceFrom
            (emptySources (T := Nat)) ⟨⟩) ∧
        ¬ SameAnswers
          (Requests.flat (T := Nat) [(EndOrError.TRUE, true)]) := by
  rw [emptySources_answersUniformly_iff, sameAnswers_iff,
    emptySources_answersUniformly_iff, sameAnswers_iff]
  decide

/-- `Values` and `Count` answer aborts and null callbacks the same way, whatever
is requested of them.  `MakeEmpty` does so, and answers as `Values` without
elements, if and only if all requests have a callback and none carries an
error. -/
theorem sources_interchangeable_iff
    (values : List T) (maximum : UInt64) (requests : Requests T)
    (countRequests : Requests UInt64) :
    AnswersUniformly
        (requests.traceFrom Values.sources (Values.create values)) ∧
      AnswersUniformly
        (countRequests.traceFrom Count.sources (Count.create maximum)) ∧
      (AnswersUniformly (requests.traceFrom emptySources ⟨⟩) ↔
        requests.isPlain = true) ∧
      (SameAnswers requests ↔ requests.isPlain = true) :=
  ⟨Values.answersUniformly values requests,
    Count.answersUniformly maximum countRequests,
    emptySources_answersUniformly_iff requests, sameAnswers_iff requests⟩

end DkPull.PullStream.Sources
