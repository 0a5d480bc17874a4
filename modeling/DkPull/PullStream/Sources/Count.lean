import DkPull.PullStream.Sources.Answers
import Mathlib.Algebra.Group.Nat.Defs
import Mathlib.Data.List.Induction

/-!
# Count

`Count` counts from zero to a maximum with a 64-bit counter.  The counter
stops one behind the maximum, unless the maximum is the greatest number of 64
bits: then the counter wraps, and the stream starts again.
-/

namespace DkPull.PullStream.Sources

open DkPull.Types
open DkPull.Reactive

structure Count where
  i : UInt64 := 0
  maximum : UInt64
  deriving DecidableEq, Repr

namespace Count

def create (maximum : UInt64) : Count where
  maximum := maximum

def source : Source Count UInt64 := fun abort cb => do
  let cb := cb.getD fun _ _ => pure ⟨⟩
  -- `cb` is not null any more.
  if abort.toBool then
    cb abort 0
  else
    let self := (← get).self
    if self.i > self.maximum then
      cb EndOrError.TRUE 0
    else
      let v := self.i
      assignSelf { self with i := self.i + 1 }
      cb EndOrError.FALSE v

/-- Every call of `Count::Source` returns the same function of the shared
object. -/
def sources (_ : Nat) : Source Count UInt64 :=
  source

/-- The next number and the state behind it. -/
def take (self : Count) : Option (UInt64 × Count) :=
  if self.i > self.maximum then none
  else some (self.i, { self with i := self.i + 1 })

/-- Each path through the function ends with the call of the callback, behind
the increment. -/
theorem source_replies : Replies take source := by
  intro abort cb exchange
  obtain ⟨self, trace⟩ := exchange
  cases aborts : abort.toBool with
  | true =>
      cases cb with
      | none => simp [source, reply, aborts]
      | some cb =>
          simp [source, reply, aborts]
          rfl
  | false =>
      by_cases ended : self.i > self.maximum
      · cases cb with
        | none => simp [source, reply, take, aborts, ended]
        | some cb =>
            simp [source, reply, take, aborts, ended]
            rfl
      · cases cb <;>
          simp [source, reply, take, assignSelf, aborts, ended]

theorem sources_replies (handle : Nat) : Replies take (sources handle) :=
  source_replies

/-- The counter behind some number of requests that are not aborts. -/
def counter (maximum : UInt64) : Nat → UInt64
  | 0 => 0
  | earlier + 1 =>
      if counter maximum earlier > maximum then counter maximum earlier
      else counter maximum earlier + 1

theorem stateAfter_create
    (maximum : UInt64) (requests : List (Abort × Bool)) :
    stateAfter take (create maximum) requests =
      { i := counter maximum (nonAborts requests), maximum := maximum } := by
  induction requests using List.reverseRecOn with
  | nil => rfl
  | append_singleton earlier last inductionHypothesis =>
      rw [stateAfter_append, inductionHypothesis, nonAborts_append,
        stateAfter_cons]
      change (reply take _ last.1).2 = _
      cases aborts : last.1.toBool with
      | true => simp [reply, nonAborts, aborts]
      | false =>
          simp only [reply, aborts, take, nonAborts, List.countP_singleton,
            Bool.not_false, if_true, counter]
          by_cases ended :
              counter maximum
                (earlier.countP fun request => !request.1.toBool) >
                maximum
          · simp [ended]
          · simp [ended]

/-- Below the greatest number the counter stops behind the maximum. -/
theorem counter_of_bounded
    {maximum : UInt64} (bounded : maximum.toNat + 1 < 2 ^ 64)
    (earlier : Nat) :
    (counter maximum earlier).toNat = min earlier (maximum.toNat + 1) := by
  induction earlier with
  | zero => rfl
  | succ earlier inductionHypothesis =>
      rw [counter]
      split
      · rename_i ended
        rw [gt_iff_lt, UInt64.lt_iff_toNat_lt] at ended
        omega
      · rename_i running
        rw [gt_iff_lt, UInt64.lt_iff_toNat_lt] at running
        rw [UInt64.toNat_add, inductionHypothesis, UInt64.toNat_one]
        omega

private theorem counter_of_greatest
    {maximum : UInt64} (greatest : maximum.toNat + 1 = 2 ^ 64)
    (earlier : Nat) :
    counter maximum earlier = UInt64.ofNat earlier := by
  induction earlier with
  | zero => rfl
  | succ earlier inductionHypothesis =>
      have bound := (counter maximum earlier).toNat_lt
      rw [counter, if_neg, inductionHypothesis]
      · exact (UInt64.ofNat_add earlier 1).symm
      · rw [gt_iff_lt, UInt64.lt_iff_toNat_lt]
        omega

/-- The answer to a request behind some number of requests that were not
aborts, when the stream counts to its maximum and ends. -/
def answerOf (maximum : UInt64) (earlier : Nat) (abort : Abort) :
    Done × UInt64 :=
  if abort.toBool then (abort, 0)
  else if earlier ≤ maximum.toNat then
    (EndOrError.FALSE, UInt64.ofNat earlier)
  else (EndOrError.TRUE, 0)

/-- The trace of a stream that counts to its maximum and ends. -/
def Enumerates
    (maximum : UInt64) (trace : List (RequestEvent UInt64)) : Prop :=
  (∀ before abort isNull after,
      trace = before ++ .asked abort isNull :: after →
        answersOf (asks before).length trace =
            (if isNull then []
            else
              [answerOf maximum (nonAborts (asks before)) abort]) ∧
          ReturnsOnce (asks before).length after) ∧
    (handedOut trace).Nodup

/-- While it has not wrapped, the counter is the number of requests as long
as this is at most the maximum. -/
theorem counter_le_iff
    {maximum : UInt64} {earlier : Nat}
    (fits : maximum.toNat + 1 < 2 ^ 64 ∨ earlier < 2 ^ 64) :
    (¬ counter maximum earlier > maximum ↔ earlier ≤ maximum.toNat) ∧
      (earlier ≤ maximum.toNat →
        counter maximum earlier = UInt64.ofNat earlier) := by
  have bound := maximum.toNat_lt
  rw [gt_iff_lt, UInt64.lt_iff_toNat_lt, ← UInt64.toNat_inj]
  by_cases bounded : maximum.toNat + 1 < 2 ^ 64
  · rw [counter_of_bounded bounded, UInt64.toNat_ofNat']
    omega
  · have few := fits.resolve_left bounded
    have greatest : maximum.toNat + 1 = 2 ^ 64 := by omega
    rw [counter_of_greatest greatest, UInt64.toNat_ofNat']
    omega

/-- The counter agrees with the number of requests until it wraps. -/
theorem reply_eq_answerOf
    {maximum : UInt64} {earlier : Nat} {abort : Abort}
    (fits :
      abort.toBool = true ∨ maximum.toNat + 1 < 2 ^ 64 ∨
        earlier < 2 ^ 64) :
    (reply take { i := counter maximum earlier, maximum := maximum }
        abort).1 =
      answerOf maximum earlier abort := by
  cases aborts : abort.toBool with
  | true =>
      rw [reply_of_abort take _ aborts, answerOf, if_pos aborts]
      rfl
  | false =>
      rw [aborts] at fits
      obtain ⟨ends, equal⟩ :=
        counter_le_iff (fits.resolve_left Bool.false_ne_true)
      simp only [reply, answerOf, aborts, take]
      by_cases more : earlier ≤ maximum.toNat
      · rw [if_neg (ends.mpr more), if_pos more, equal more]
        rfl
      · rw [if_pos (not_not.mp (mt ends.mp more)), if_neg more]
        rfl

/-- Once it has wrapped, the stream goes on. -/
theorem reply_of_wrapped
    {maximum : UInt64} (greatest : maximum.toNat + 1 = 2 ^ 64)
    (earlier : Nat) {abort : Abort} (asksOn : abort.toBool = false) :
    (reply take { i := counter maximum earlier, maximum := maximum }
        abort).1 =
      (EndOrError.FALSE, UInt64.ofNat earlier) := by
  have bound := (UInt64.ofNat earlier).toNat_lt
  have running : ¬ UInt64.ofNat earlier > maximum := by
    rw [gt_iff_lt, UInt64.lt_iff_toNat_lt]
    omega
  simp only [reply, asksOn, take, counter_of_greatest greatest]
  rw [if_neg running]
  rfl

/-- Behind the requests that make the counter wrap, there is no other value
request. -/
def NeverWraps (maximum : UInt64) (requests : List (Abort × Bool)) :
    Prop :=
  maximum.toNat + 1 < 2 ^ 64 ∨
    ∀ before abort after,
      requests = before ++ (abort, false) :: after →
      abort.toBool = false →
        nonAborts before < 2 ^ 64

private theorem NeverWraps.reply_eq
    {maximum : UInt64} {requests before after : List (Abort × Bool)}
    {abort : Abort}
    (neverWraps : NeverWraps maximum requests)
    (shape : requests = before ++ (abort, false) :: after) :
    (reply take (stateAfter take (create maximum) before) abort).1 =
      answerOf maximum (nonAborts before) abort := by
  rw [stateAfter_create]
  apply reply_eq_answerOf
  cases aborts : abort.toBool with
  | true => exact .inl rfl
  | false =>
      rcases neverWraps with bounded | few
      · exact .inr (.inl bounded)
      · exact .inr (.inr (few before abort after shape aborts))

private theorem value_of_answerOf
    {maximum : UInt64} {earlier : Nat} {abort : Abort} {value : UInt64}
    (isValue :
      (if (answerOf maximum earlier abort).1.toBool then none
        else some (answerOf maximum earlier abort).2) = some value) :
    abort.toBool = false ∧ value.toNat = earlier := by
  have bound := maximum.toNat_lt
  unfold answerOf at isValue
  cases aborts : abort.toBool with
  | true => simp [aborts] at isValue
  | false =>
      refine ⟨rfl, ?_⟩
      by_cases more : earlier ≤ maximum.toNat
      · simp [aborts, more] at isValue
        rw [← isValue, UInt64.toNat_ofNat']
        omega
      · simp [aborts, more] at isValue

private theorem NeverWraps.handedOut_nodup
    {maximum : UInt64} {requests : List (Abort × Bool)}
    (neverWraps : NeverWraps maximum requests) :
    ((replies take (create maximum) requests).filterMap fun answer =>
      if answer.1.toBool then none else some answer.2).Nodup := by
  rw [List.Nodup, List.pairwise_filterMap, pairwise_replies_iff]
  intro before first between second after shape value isValue other
    isOther same
  have regroup :
      requests =
        (before ++ (first, false) :: between) ++ (second, false) :: after := by
    rw [shape]
    simp
  rw [neverWraps.reply_eq shape] at isValue
  rw [neverWraps.reply_eq regroup] at isOther
  obtain ⟨asksOn, valueIs⟩ := value_of_answerOf isValue
  obtain ⟨-, otherIs⟩ := value_of_answerOf isOther
  rw [nonAborts_append, nonAborts_cons (first, false)] at otherIs
  have counted : nonAborts [(first, false)] = 1 := by
    simp [nonAborts, asksOn]
  rw [same] at valueIs
  omega

/-- A value request behind those that make the counter wrap gets a value
again. -/
theorem not_enumerates_of_wrapped
    {maximum : UInt64} {requests : Requests UInt64}
    {before after : List (Abort × Bool)} {abort : Abort}
    (greatest : maximum.toNat + 1 = 2 ^ 64)
    (shape :
      asks (requests.traceFrom sources (create maximum)) =
        before ++ (abort, false) :: after)
    (asksOn : abort.toBool = false) (far : 2 ^ 64 ≤ nonAborts before) :
    ¬ Enumerates maximum (requests.traceFrom sources (create maximum)) := by
  intro enumerates
  obtain ⟨-, served⟩ :=
    requests.perform_from sources_replies (create maximum)
  obtain ⟨early, late, traced, rfl⟩ := exists_asked_of_asks_eq shape
  have expected := (enumerates.1 early abort false late traced).1
  have actual := (served.asked traced).1
  rw [stateAfter_create, reply_of_wrapped greatest _ asksOn,
    Nat.zero_add] at actual
  rw [actual] at expected
  have ended : ¬ nonAborts (asks early) ≤ maximum.toNat := by omega
  simp [answerOf, asksOn, ended, EndOrError.TRUE, EndOrError.FALSE,
    EndOrError.ofBool] at expected

private theorem not_enumerates_replicate {count : Nat} (far : 2 ^ 64 ≤ count) :
    ¬ Enumerates (-1)
      ((Requests.flat
          (List.replicate (count + 1) (EndOrError.FALSE, false))).traceFrom
        sources (create (-1))) := by
  have asked :=
    Requests.asks_flat sources_replies
      (List.replicate (count + 1) (EndOrError.FALSE, false))
      ⟨create (-1), []⟩
  have last :
      asks ([] : List (RequestEvent UInt64)) ++
          List.replicate (count + 1) (EndOrError.FALSE, false) =
        List.replicate count (EndOrError.FALSE, false) ++
          (EndOrError.FALSE, false) :: [] :=
    List.replicate_succ'
  apply not_enumerates_of_wrapped rfl (asked.trans last) rfl
  rw [nonAborts, List.countP_replicate]
  exact far

/-- Counting to the greatest number of 64 bits starts again at zero. -/
theorem not_enumerates_greatest :
    ¬ Enumerates (-1)
      ((Requests.flat
          (List.replicate (2 ^ 64 + 1) (EndOrError.FALSE, false))).traceFrom
        sources (create (-1))) :=
  not_enumerates_replicate (Nat.le_refl _)

/-- `Count` counts to its maximum and ends if and only if the maximum is not
the greatest number of 64 bits or no value is requested behind it. -/
theorem enumerates_iff (maximum : UInt64) (requests : Requests UInt64) :
    Enumerates maximum (requests.traceFrom sources (create maximum)) ↔
      NeverWraps maximum
        (asks (requests.traceFrom sources (create maximum))) := by
  constructor
  · intro enumerates
    by_cases bounded : maximum.toNat + 1 < 2 ^ 64
    · exact .inl bounded
    · have bound := maximum.toNat_lt
      have greatest : maximum.toNat + 1 = 2 ^ 64 := by omega
      refine .inr ?_
      intro before abort after shape asksOn
      by_contra far
      exact
        not_enumerates_of_wrapped greatest shape asksOn
          (Nat.not_lt.mp far) enumerates
  · intro neverWraps
    obtain ⟨-, served⟩ :=
      requests.perform_from sources_replies (create maximum)
    refine ⟨?_, ?_⟩
    · intro before abort isNull after shape
      obtain ⟨answers, returns⟩ := served.asked shape
      rw [Nat.zero_add] at answers returns
      refine ⟨?_, returns⟩
      rw [answers]
      cases isNull with
      | true => rfl
      | false =>
          have asked :
              asks (requests.traceFrom sources (create maximum)) =
                asks before ++ (abort, false) :: asks after := by
            rw [shape]
            simp
          rw [neverWraps.reply_eq asked]
    · unfold handedOut
      rw [served.answers_eq]
      exact neverWraps.handedOut_nodup

end Count

end DkPull.PullStream.Sources
