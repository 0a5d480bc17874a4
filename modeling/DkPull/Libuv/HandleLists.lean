import DkPull.Libuv.LinkedLoop
import DkPull.Structures.Links

/-!
# The lists of handles

All handles of a loop are in a ring of `queue.h`, whose head is in the loop.
Those that are closing are in a list of their own that is linked in one
direction, from which `uv__run_closing_handles` takes all of them at once.  The
internal handles of a loop are in the ring, too.
-/

namespace DkPull.Libuv

open DkPull.Reactive
open DkPull.Structures

universe u

section Queue

variable {Cell : Type u} [DecidableEq Cell]

def queueInit (links : Links Cell) (q : Cell) : Links Cell :=
  let links := links.setNext q q
  links.setPrev q q

def queueInsertTail (links : Links Cell) (h q : Cell) : Links Cell :=
  let links := links.setNext q h
  let links := links.setPrev q (links.prev h)
  let links := links.setNext (links.prev q) q
  links.setPrev h q

def queueRemove (links : Links Cell) (q : Cell) : Links Cell :=
  let links := links.setNext (links.prev q) (links.next q)
  links.setPrev (links.next q) (links.prev q)

private theorem queueInit_ring (links : Links Cell) (q : Cell) :
    (queueInit links q).Ring q [] :=
  links.ring_nil q

variable {links : Links Cell} {h q : Cell} {items : List Cell}

private theorem queueInsertTail_ring
    (ring : links.Ring h items) (fresh : q ∉ h :: items) :
    (queueInsertTail links h q).Ring h (items ++ [q]) := by
  obtain ⟨front, shape, -⟩ := ring.last
  have notLast : q ≠ links.prev h := by
    rintro rfl
    rw [shape] at fresh
    exact fresh List.mem_concat_self
  have asJoined :
      queueInsertTail links h q =
        (links.join (links.prev h) q).join q h := by
    simp only [queueInsertTail, Links.join, Links.setNext, Links.setPrev,
      Function.update_self]
    rw [Function.update_comm notLast]
  rw [asJoined]
  exact ring.insert_last fresh

private theorem queueRemove_ring
    (ring : links.Ring h items) (member : q ∈ items) :
    (queueRemove links q).Ring h (items.erase q) := by
  have sameNext :
      Function.update links.next (links.prev q) (links.next q) q =
        links.next q := by
    rw [Function.update_apply]
    exact ite_id _
  have asJoined :
      queueRemove links q =
        links.join (links.prev q) (links.next q) := by
    simp only [queueRemove, Links.join, Links.setNext, Links.setPrev]
    rw [sameNext]
  rw [asJoined]
  exact ring.erase member

end Queue

/-- The head of a ring, or the links in a handle. -/
inductive Cell where
  | head
  | internal (number : Nat)
  | timer (handle : Nat)
  deriving DecidableEq, Repr

/-- `UV_HANDLE_INTERNAL` is not set. -/
def Cell.isOther : Cell → Bool
  | .internal _ => false
  | _ => true

/-- The lists in a `uv_loop_t` through its handles: `handle_queue` with the
links in the handles, `next_closing` of the handles and `closing_handles`.  The
last field is the variable `p` of `uv__run_closing_handles`. -/
structure HandleLists where
  handleQueue : Links Cell
  nextClosing : Nat → Option Nat
  closingHandles : Option Nat
  p : Option Nat

namespace HandleLists

/-- `uv_loop_init`, which also initialises the internal handles. -/
def init (memory : HandleLists) (internals : List Nat) : HandleLists where
  handleQueue :=
    internals.foldl
      (fun links number => queueInsertTail links .head (.internal number))
      (queueInit memory.handleQueue .head)
  nextClosing := memory.nextClosing
  closingHandles := none
  p := none

/-- `uv_loop_close` of a loop without requests, up to the given number of turns
of its loop. -/
def loopClose (lists : HandleLists) (turns : Nat) : Option Int := do
  let found ←
    lists.handleQueue.search .head Cell.isOther turns
      (lists.handleQueue.next .head)
  return if found then UV_EBUSY else 0

end HandleLists

/-- What the calls of libuv do with the lists of handles, and which handles
`uv__run_closing_handles` works off.  The assertions of these calls are about
the flags of the handle, which are not kept here. -/
def handleListCalls : Machine HandleLists TimerCall Nat where
  step lists
    | .timerInit handle =>
        some
          ({ lists with
              handleQueue :=
                queueInsertTail lists.handleQueue .head (.timer handle)
              nextClosing :=
                Function.update lists.nextClosing handle none },
            [])
    | .close handle _ =>
        some
          ({ lists with
              nextClosing :=
                Function.update lists.nextClosing handle
                  lists.closingHandles
              closingHandles := some handle },
            [])
    | .takeClosing =>
        some
          ({ lists with p := lists.closingHandles, closingHandles := none },
            [])
    | .finishClose _ =>
        -- The links alone tell which handle comes next.
        match lists.p with
        | none => none
        | some p =>
            let q := lists.nextClosing p
            some
              ({ lists with
                  handleQueue := queueRemove lists.handleQueue (.timer p)
                  p := q },
                [p])
    | _ => some (lists, [])

def TimerCall.finished : TimerCall → Option Nat
  | .finishClose handle => some handle
  | _ => none

def TimerCall.isListed : TimerCall → Bool
  | .timerInit _ => true
  | .close _ _ => true
  | .takeClosing => true
  | .finishClose _ => true
  | _ => false

/-- The lists contain the internal handles and these ones. -/
structure HandleLists.Represents
    (lists : HandleLists) (internals queue closing taken : List Nat) :
    Prop where
  ring :
    lists.handleQueue.Ring .head
      (internals.map Cell.internal ++ queue.map Cell.timer)
  closing : Follows lists.nextClosing lists.closingHandles closing
  taken : Follows lists.nextClosing lists.p taken

namespace HandleLists

variable {lists : HandleLists} {internals queue closing taken : List Nat}
  {handle : Nat}

theorem Represents.init
    (memory : HandleLists) (distinct : internals.Nodup) :
    (HandleLists.init memory internals).Represents internals [] [] [] where
  ring := by
    have initialised :
        ∀ (links : Links Cell) (before after : List Nat),
          (before ++ after).Nodup →
          links.Ring .head (before.map Cell.internal) →
            (after.foldl
              (fun links number =>
                queueInsertTail links .head (.internal number))
              links).Ring .head ((before ++ after).map Cell.internal) := by
      intro links before after allDistinct ring
      induction after generalizing links before with
      | nil => simpa using ring
      | cons number rest inductionHypothesis =>
          rw [List.append_cons] at allDistinct ⊢
          rw [List.foldl_cons]
          apply inductionHypothesis _ _ allDistinct
          rw [List.map_append]
          apply queueInsertTail_ring ring
          have absent : number ∉ before := fun member =>
            (List.nodup_append.mp
              (List.nodup_append.mp allDistinct).1).2.2 number member number
              (List.mem_singleton_self number) rfl
          simpa using absent
    rw [List.map_nil, List.append_nil]
    exact initialised _ [] internals distinct (queueInit_ring _ _)
  closing := rfl
  taken := rfl

theorem Represents.timerInit
    (represents : lists.Represents internals queue closing taken)
    (fresh : handle ∉ queue) (notWaiting : handle ∉ closing ++ taken) :
    ∃ after,
      handleListCalls.step lists (.timerInit handle) = some (after, []) ∧
        after.Represents internals (queue ++ [handle]) closing taken := by
  rw [List.mem_append, not_or] at notWaiting
  refine ⟨_, rfl, ?_, ?_, ?_⟩
  · rw [List.map_append, ← List.append_assoc]
    apply queueInsertTail_ring represents.ring
    simpa using fresh
  · exact represents.closing.update notWaiting.1
  · exact represents.taken.update notWaiting.2

theorem Represents.close
    (represents : lists.Represents internals queue closing taken)
    (notWaiting : handle ∉ closing ++ taken) (closeCb : Bool) :
    ∃ after,
      handleListCalls.step lists (.close handle closeCb) =
          some (after, []) ∧
        after.Represents internals queue (handle :: closing) taken := by
  rw [List.mem_append, not_or] at notWaiting
  refine ⟨_, rfl, represents.ring, ⟨rfl, ?_⟩, ?_⟩
  · have written :
        Function.update lists.nextClosing handle lists.closingHandles
            handle =
          lists.closingHandles :=
      Function.update_self _ _ _
    dsimp only
    rw [written]
    exact represents.closing.update notWaiting.1
  · exact represents.taken.update notWaiting.2

theorem Represents.takeClosing
    (represents : lists.Represents internals queue closing []) :
    ∃ after,
      handleListCalls.step lists .takeClosing = some (after, []) ∧
        after.Represents internals queue [] closing :=
  ⟨_, rfl, represents.ring, rfl, represents.closing⟩

theorem Represents.finishClose
    (represents :
      lists.Represents internals queue closing (handle :: taken))
    (queued : handle ∈ queue) (called : Nat) :
    ∃ after,
      handleListCalls.step lists (.finishClose called) =
          some (after, [handle]) ∧
        after.Represents internals (queue.erase handle) closing taken := by
  obtain ⟨ring, isClosing, isFirst, behind⟩ := represents
  have stepped :
      handleListCalls.step lists (.finishClose called) =
        some
          ({ lists with
              handleQueue := queueRemove lists.handleQueue (.timer handle)
              p := lists.nextClosing handle },
            [handle]) := by
    simp only [handleListCalls, isFirst]
  refine ⟨_, stepped, ?_, isClosing, behind⟩
  have linked :
      Cell.timer handle ∈
        internals.map Cell.internal ++ queue.map Cell.timer := by
    simpa using queued
  have notInternal :
      Cell.timer handle ∉ internals.map Cell.internal := by simp
  have injective : Function.Injective Cell.timer := by
    rintro first second ⟨⟩
    rfl
  have removed := queueRemove_ring ring linked
  rw [List.erase_append_right _ notInternal, ← List.map_erase injective]
    at removed
  exact removed

/-- The walk of `uv_loop_close` along the ring ends. -/
theorem Represents.loopClose_eq
    (represents : lists.Represents internals queue closing taken)
    {turns : Nat} (enough : internals.length + queue.length < turns) :
    lists.loopClose turns =
      some (if queue.isEmpty then 0 else UV_EBUSY) := by
  have fewer :
      (internals.map Cell.internal ++ queue.map Cell.timer).length <
        turns := by
    simpa using enough
  have noneFound : (internals.map Cell.internal).any Cell.isOther = false := by
    simp [Cell.isOther]
  rw [loopClose, represents.ring.search_eq Cell.isOther fewer,
    List.any_append, noneFound]
  cases queue <;> rfl

end HandleLists

end DkPull.Libuv
