import DkPull.PullStream.Sources.Requests

/-!
# The answers of a source in order

A source answers requests in the order in which they begin, however they are
nested in each other.  What holds between any two answers, one behind the
other, can therefore be read off the sequence of requests.
-/

namespace DkPull.PullStream.Sources

open DkPull.Types

variable {State T : Type}

def answers (trace : List (RequestEvent T)) : List (Done × T) :=
  trace.filterMap fun
    | .answered _ done value => some (done, value)
    | _ => none

@[simp]
theorem answers_append (early late : List (RequestEvent T)) :
    answers (early ++ late) = answers early ++ answers late :=
  List.filterMap_append

@[simp]
theorem answers_asked
    (abort : Abort) (isNull : Bool) (later : List (RequestEvent T)) :
    answers (.asked abort isNull :: later) = answers later :=
  rfl

@[simp]
theorem answers_answered
    (number : Nat) (done : Done) (value : T)
    (later : List (RequestEvent T)) :
    answers (.answered number done value :: later) =
      (done, value) :: answers later :=
  rfl

@[simp]
theorem answers_returned
    (number : Nat) (later : List (RequestEvent T)) :
    answers (.returned number :: later) = answers later :=
  rfl

def handedOut (trace : List (RequestEvent T)) : List T :=
  (answers trace).filterMap fun answer =>
    if answer.1.toBool then none else some answer.2

variable [Inhabited T] (take : State → Option (T × State))

def replies : State → List (Abort × Bool) → List (Done × T)
  | _, [] => []
  | self, (abort, isNull) :: rest =>
      (if isNull then [] else [(reply take self abort).1]) ++
        replies (reply take self abort).2 rest

theorem replies_append
    (self : State) (early late : List (Abort × Bool)) :
    replies take self (early ++ late) =
      replies take self early ++
        replies take (stateAfter take self early) late := by
  induction early generalizing self with
  | nil => rfl
  | cons request rest inductionHypothesis =>
      rw [List.cons_append, replies, replies, inductionHypothesis,
        List.append_assoc]
      rfl

variable {take}

theorem Served.answers_eq
    {number : Nat} {self target : State} {trace : List (RequestEvent T)}
    (served : Served take number self trace target) :
    answers trace = replies take self (asks trace) := by
  induction served with
  | nil => rfl
  | silent _ inductionHypothesis => exact inductionHypothesis
  | request nested _ nestedHypothesis restHypothesis =>
      simp only [answers_asked, answers_answered, answers_append,
        answers_returned, asks_asked, asks_answered, asks_append,
        asks_returned, replies, replies_append]
      rw [nestedHypothesis, restHypothesis, nested.target_eq]
      rfl

private theorem mem_replies_iff
    {self : State} {requests : List (Abort × Bool)}
    {answer : Done × T} :
    answer ∈ replies take self requests ↔
      ∃ before abort after,
        requests = before ++ (abort, false) :: after ∧
          answer = (reply take (stateAfter take self before) abort).1 := by
  induction requests generalizing self with
  | nil => simp [replies]
  | cons request rest inductionHypothesis =>
      obtain ⟨first, isNull⟩ := request
      rw [replies, List.mem_append, inductionHypothesis]
      constructor
      · intro member
        rcases member with now | ⟨before, abort, after, rfl, same⟩
        · cases isNull with
          | true => exact absurd now List.not_mem_nil
          | false =>
              exact
                ⟨[], first, rest, rfl, List.mem_singleton.mp now⟩
        · exact ⟨(first, isNull) :: before, abort, after, rfl, same⟩
      · rintro ⟨_ | ⟨_, before⟩, abort, after, shape, same⟩
        · cases shape
          exact .inl (List.mem_singleton.mpr same)
        · cases shape
          exact .inr ⟨before, abort, after, rfl, same⟩

/-- A relation holds between any two answers when it holds between the answers
to any two requests with callbacks. -/
theorem pairwise_replies_iff
    {related : Done × T → Done × T → Prop} {self : State}
    {requests : List (Abort × Bool)} :
    (replies take self requests).Pairwise related ↔
      ∀ before first between second after,
        requests =
            before ++ (first, false) :: (between ++
              (second, false) :: after) →
          related (reply take (stateAfter take self before) first).1
            (reply take
              (stateAfter take self (before ++ (first, false) :: between))
              second).1 := by
  induction requests generalizing self with
  | nil => simp [replies]
  | cons request rest inductionHypothesis =>
      obtain ⟨abort, isNull⟩ := request
      rw [replies, List.pairwise_append, inductionHypothesis]
      constructor
      · rintro ⟨-, later, now⟩ (_ | ⟨_, before⟩) first between second after
          shape
        · cases shape
          apply now _ (List.mem_singleton.mpr rfl)
          exact mem_replies_iff.mpr ⟨between, second, after, rfl, rfl⟩
        · cases shape
          exact later before first between second after rfl
      · intro every
        refine ⟨?_, ?_, ?_⟩
        · cases isNull with
          | true => exact List.Pairwise.nil
          | false => exact List.pairwise_singleton _ _
        · intro before first between second after shape
          rw [shape] at every
          exact every ((abort, isNull) :: before) first between second after
            rfl
        · intro answer now other later
          cases isNull with
          | true => exact absurd now List.not_mem_nil
          | false =>
              obtain ⟨between, second, after, rfl, rfl⟩ :=
                mem_replies_iff.mp later
              rw [List.mem_singleton.mp now]
              exact every [] abort between second after rfl

end DkPull.PullStream.Sources
