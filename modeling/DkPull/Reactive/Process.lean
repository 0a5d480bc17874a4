import Mathlib.Data.List.Infix
import Mathlib.Logic.Relation

/-!
# Closed systems and what they show

A component together with its environment is a closed system: it runs on its
own and shows outputs on the way, perhaps forever.  Two such systems behave
alike when every finite beginning of what one shows is a beginning of what the
other shows, although one may take more steps for it than the other.
-/

namespace DkPull.Reactive

universe u v w

/-- A deterministic system that runs on its own, until it halts. -/
structure Process (State : Type u) (Output : Type w) where
  step : State → Option (State × List Output)

namespace Process

section OneSystem

variable {State : Type u} {Output : Type w}
  {process : Process State Output} {state next : State}
  {shown outputs : List Output}

def course (process : Process State Output) : Nat → State → List Output
  | 0, _ => []
  | steps + 1, state =>
      match process.step state with
      | none => []
      | some (next, shown) => shown ++ process.course steps next

/-- The outputs are what the system shows first. -/
def Shows
    (process : Process State Output) (state : State)
    (outputs : List Output) : Prop :=
  ∃ steps, outputs <+: process.course steps state

def Leads (process : Process State Output) (state next : State) : Prop :=
  ∃ shown, process.step state = some (next, shown)

/-- The system comes from a state to another. -/
def Reaches (process : Process State Output) : State → State → Prop :=
  Relation.ReflTransGen process.Leads

theorem course_of_step
    (stepped : process.step state = some (next, shown)) (steps : Nat) :
    process.course (steps + 1) state =
      shown ++ process.course steps next := by
  rw [course, stepped]

private theorem course_of_halted
    (halted : process.step state = none) (steps : Nat) :
    process.course steps state = [] := by
  cases steps with
  | zero =>
      rfl
  | succ steps =>
      rw [course, halted]

private theorem course_prefix_of_le
    {fewer more : Nat} (atMost : fewer ≤ more) (state : State) :
    process.course fewer state <+: process.course more state := by
  induction fewer generalizing more state with
  | zero =>
      exact List.nil_prefix
  | succ fewer inductionHypothesis =>
      obtain ⟨rest, rfl⟩ := Nat.exists_eq_add_of_le' atMost
      have fewerAtMost : fewer ≤ rest + fewer := by omega
      cases stepped : process.step state with
      | none =>
          rw [course_of_halted stepped]
          exact List.nil_prefix
      | some result =>
          obtain ⟨next, shown⟩ := result
          rw [course_of_step stepped, ← Nat.add_assoc,
            course_of_step stepped]
          exact
            (List.prefix_append_right_inj shown).mpr
              (inductionHypothesis fewerAtMost next)

@[simp]
theorem shows_nil (process : Process State Output) (state : State) :
    process.Shows state [] :=
  ⟨0, List.nil_prefix⟩

theorem shows_course
    (process : Process State Output) (state : State) (steps : Nat) :
    process.Shows state (process.course steps state) :=
  ⟨steps, List.prefix_rfl⟩

/-- All that a system shows belongs to one sequence. -/
theorem shows_comparable
    {first second : List Output} (firstShown : process.Shows state first)
    (secondShown : process.Shows state second) :
    first <+: second ∨ second <+: first := by
  obtain ⟨firstSteps, firstAhead⟩ := firstShown
  obtain ⟨secondSteps, secondAhead⟩ := secondShown
  have firstLate :=
    firstAhead.trans
      (course_prefix_of_le (Nat.le_max_left firstSteps secondSteps) state)
  have secondLate :=
    secondAhead.trans
      (course_prefix_of_le (Nat.le_max_right firstSteps secondSteps) state)
  exact List.prefix_or_prefix_of_prefix firstLate secondLate

private theorem shows_of_halted
    (halted : process.step state = none) :
    process.Shows state outputs ↔ outputs = [] := by
  constructor
  · rintro ⟨steps, ahead⟩
    rw [course_of_halted halted] at ahead
    exact List.prefix_nil.mp ahead
  · rintro rfl
    exact shows_nil process state

private theorem shows_append_iff
    (stepped : process.step state = some (next, shown)) :
    process.Shows state (shown ++ outputs) ↔ process.Shows next outputs := by
  constructor
  · rintro ⟨steps, ahead⟩
    cases steps with
    | zero =>
        rw [course, List.prefix_nil, List.append_eq_nil_iff] at ahead
        rw [ahead.2]
        exact shows_nil process next
    | succ steps =>
        rw [course_of_step stepped, List.prefix_append_right_inj] at ahead
        exact ⟨steps, ahead⟩
  · rintro ⟨steps, ahead⟩
    refine ⟨steps + 1, ?_⟩
    rw [course_of_step stepped, List.prefix_append_right_inj]
    exact ahead

theorem shows_of_step
    (stepped : process.step state = some (next, shown)) :
    process.Shows state shown := by
  rw [← List.append_nil shown, shows_append_iff stepped]
  exact shows_nil process next

/-- What is shown first is shown by the step, or continues what the step
shows. -/
theorem shows_iff_of_step
    (stepped : process.step state = some (next, shown)) :
    process.Shows state outputs ↔
      outputs <+: shown ∨
        ∃ rest, outputs = shown ++ rest ∧ process.Shows next rest := by
  have all := shows_of_step stepped
  constructor
  · intro found
    rcases shows_comparable found all with ahead | ⟨rest, rfl⟩
    · exact .inl ahead
    · exact .inr ⟨rest, rfl, (shows_append_iff stepped).mp found⟩
  · rintro (ahead | ⟨rest, rfl, later⟩)
    · obtain ⟨steps, further⟩ := all
      exact ⟨steps, ahead.trans further⟩
    · exact (shows_append_iff stepped).mpr later

end OneSystem

section TwoSystems

variable {State : Type u} {Other : Type v} {Output : Type w}
  {first : Process State Output} {second : Process Other Output}
  {state next : State} {other otherNext : Other} {shown : List Output}

/-- The two systems show the same, however long they run. -/
def SameCourse
    (first : Process State Output) (state : State)
    (second : Process Other Output) (other : Other) : Prop :=
  ∀ outputs, first.Shows state outputs ↔ second.Shows other outputs

private theorem sameCourse_comm :
    SameCourse first state second other ↔
      SameCourse second other first state :=
  forall_congr' fun _ => iff_comm

/-- Steps that show the same may be left out. -/
theorem sameCourse_step_iff
    (stepped : first.step state = some (next, shown))
    (otherStepped : second.step other = some (otherNext, shown)) :
    SameCourse first state second other ↔
      SameCourse first next second otherNext := by
  constructor
  · intro same outputs
    rw [← shows_append_iff stepped, ← shows_append_iff otherStepped]
    exact same (shown ++ outputs)
  · intro same outputs
    rw [shows_iff_of_step stepped, shows_iff_of_step otherStepped]
    simp only [same _]

/-- A step that shows nothing may be left out on one side. -/
theorem sameCourse_silent_iff
    (stepped : first.step state = some (next, [])) :
    SameCourse first state second other ↔
      SameCourse first next second other := by
  have silent (outputs : List Output) :
      first.Shows state outputs ↔ first.Shows next outputs :=
    shows_append_iff stepped
  simp only [SameCourse, silent]

theorem sameCourse_silent_right_iff
    (otherStepped : second.step other = some (otherNext, [])) :
    SameCourse first state second other ↔
      SameCourse first state second otherNext := by
  rw [sameCourse_comm, sameCourse_silent_iff otherStepped, sameCourse_comm]

theorem sameCourse_of_halted
    (halted : first.step state = none)
    (otherHalted : second.step other = none) :
    SameCourse first state second other := by
  intro outputs
  rw [shows_of_halted halted, shows_of_halted otherHalted]

/-- Systems that show what cannot belong to one sequence do not behave
alike. -/
theorem not_sameCourse_of_incomparable
    {outputs otherOutputs : List Output}
    (found : first.Shows state outputs)
    (otherFound : second.Shows other otherOutputs)
    (incomparable :
      ¬ (outputs <+: otherOutputs ∨ otherOutputs <+: outputs)) :
    ¬ SameCourse first state second other :=
  fun same =>
    incomparable (shows_comparable ((same outputs).mp found) otherFound)

theorem not_sameCourse_of_heads
    {head otherHead : Output} (different : head ≠ otherHead)
    (stepped : first.step state = some (next, [head]))
    (otherStepped : second.step other = some (otherNext, [otherHead])) :
    ¬ SameCourse first state second other := by
  refine
    not_sameCourse_of_incomparable (shows_of_step stepped)
      (shows_of_step otherStepped) ?_
  rintro (ahead | ahead)
  · exact different (List.cons_prefix_cons.mp ahead).1
  · exact different (List.cons_prefix_cons.mp ahead).1.symm

/-- Systems that keep in step with each other show the same. -/
theorem sameCourse_of_lockstep
    (related : State → Other → Prop)
    (lockstep :
      ∀ state other, related state other →
        (first.step state = none ∧ second.step other = none) ∨
          ∃ next otherNext shown,
            first.step state = some (next, shown) ∧
              second.step other = some (otherNext, shown) ∧
              related next otherNext)
    (start : related state other) :
    SameCourse first state second other := by
  have sameSteps (steps : Nat) :
      first.course steps state = second.course steps other := by
    induction steps generalizing state other with
    | zero =>
        rfl
    | succ steps inductionHypothesis =>
        rcases lockstep state other start with
          ⟨halted, otherHalted⟩ |
            ⟨next, otherNext, shown, stepped, otherStepped, kept⟩
        · rw [course_of_halted halted, course_of_halted otherHalted]
        · rw [course_of_step stepped, course_of_step otherStepped,
            inductionHypothesis kept]
  intro outputs
  simp only [Shows, sameSteps]

end TwoSystems

end Process

end DkPull.Reactive
