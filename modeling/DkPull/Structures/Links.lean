import Mathlib.Data.List.Chain
import Mathlib.Data.List.Nodup
import Mathlib.Logic.Function.Basic

/-!
# Lists made of links

Cells that know their neighbours form a ring when following the links forwards
from a head leads through all of them and back to the head, and following them
backwards leads back.  Cells are linked in and unlinked by joining two cells at
a time.  A list that is linked in one direction only ends where a link is
missing.
-/

namespace DkPull.Structures

universe u

structure Links (Cell : Type u) where
  next : Cell → Cell
  prev : Cell → Cell

namespace Links

variable {Cell : Type u} {links : Links Cell} {head cell : Cell}
  {items front back : List Cell}

def Joined (links : Links Cell) (first second : Cell) : Prop :=
  links.next first = second ∧ links.prev second = first

/-- The cells behind the head are linked in this order. -/
structure Ring (links : Links Cell) (head : Cell) (items : List Cell) :
    Prop where
  linked : (head :: items ++ [head]).IsChain links.Joined
  nodup : (head :: items).Nodup

section Join

variable [DecidableEq Cell]

def setNext (links : Links Cell) (cell target : Cell) : Links Cell :=
  { links with next := Function.update links.next cell target }

def setPrev (links : Links Cell) (cell target : Cell) : Links Cell :=
  { links with prev := Function.update links.prev cell target }

def join (links : Links Cell) (first second : Cell) : Links Cell :=
  (links.setNext first second).setPrev second first

variable {first second left right : Cell}

private theorem joined_join (links : Links Cell) (first second : Cell) :
    (links.join first second).Joined first second :=
  ⟨Function.update_self _ _ _, Function.update_self _ _ _⟩

theorem Joined.join_of_ne
    (joined : links.Joined left right) (notFirst : left ≠ first)
    (notSecond : right ≠ second) :
    (links.join first second).Joined left right := by
  constructor
  · exact (Function.update_of_ne notFirst _ _).trans joined.1
  · exact (Function.update_of_ne notSecond _ _).trans joined.2

private theorem isChain_join
    (linked : items.IsChain links.Joined) (notFirst : first ∉ items.dropLast)
    (notSecond : second ∉ items.tail) :
    items.IsChain (links.join first second).Joined := by
  rw [List.isChain_iff_forall_rel_of_append_cons_cons] at linked ⊢
  intro left right early late shape
  apply (linked shape).join_of_ne
  · rintro rfl
    apply notFirst
    rw [shape, List.dropLast_append_of_ne_nil (List.cons_ne_nil _ _)]
    simp
  · rintro rfl
    apply notSecond
    rw [shape]
    cases early <;> simp

/-- Two lists become one when the last cell of the one is joined to the first
cell of the other. -/
theorem isChain_joined
    (before : (front ++ [first]).IsChain links.Joined)
    (behind : (second :: back).IsChain links.Joined)
    (firstOnce : first ∉ front)
    (firstAbsent : first ∉ (second :: back).dropLast)
    (secondOnce : second ∉ back)
    (secondAbsent : second ∉ (front ++ [first]).tail) :
    (front ++ first :: second :: back).IsChain
      (links.join first second).Joined := by
  refine List.isChain_append_cons_cons.mpr ⟨?_, joined_join _ _ _, ?_⟩
  · apply isChain_join before _ secondAbsent
    rwa [List.dropLast_concat]
  · exact isChain_join behind firstAbsent secondOnce

end Join

theorem Ring.last (ring : links.Ring head items) :
    ∃ front,
      head :: items = front ++ [links.prev head] ∧
        (front ++ [links.prev head]).IsChain links.Joined := by
  obtain ⟨linked, -⟩ := ring
  obtain impossible | ⟨front, last, shape⟩ :=
    List.eq_nil_or_concat' (head :: items)
  · cases impossible
  · rw [shape, List.append_assoc, List.singleton_append,
      List.isChain_append_cons_cons] at linked
    obtain ⟨before, joined, -⟩ := linked
    rw [joined.2]
    exact ⟨front, shape, before⟩

/-- The neighbours of a cell, with what lies before and behind it. -/
theorem Ring.around (ring : links.Ring head (front ++ cell :: back)) :
    ∃ early late,
      head :: front = early ++ [links.prev cell] ∧
        back ++ [head] = links.next cell :: late ∧
        (early ++ [links.prev cell]).IsChain links.Joined ∧
        (links.next cell :: late).IsChain links.Joined := by
  obtain ⟨linked, -⟩ := ring
  obtain impossible | ⟨early, before, frontShape⟩ :=
    List.eq_nil_or_concat' (head :: front)
  · cases impossible
  · have nonempty : back ++ [head] ≠ [] := by simp
    obtain ⟨behind, late, backShape⟩ := List.exists_cons_of_ne_nil nonempty
    have shape :
        head :: (front ++ cell :: back) ++ [head] =
          early ++ before :: cell :: behind :: late := by
      rw [← List.cons_append, frontShape, ← backShape]
      simp
    rw [shape, List.isChain_append_cons_cons, List.isChain_cons_cons]
      at linked
    obtain ⟨isBefore, joined, joinedBehind, isBehind⟩ := linked
    rw [joined.2, joinedBehind.1]
    exact ⟨early, late, frontShape, backShape, isBefore, isBehind⟩

section Edit

variable [DecidableEq Cell]

theorem ring_nil (links : Links Cell) (head : Cell) :
    (links.join head head).Ring head [] where
  linked := List.isChain_pair.mpr (joined_join links head head)
  nodup := List.nodup_singleton head

/-- A cell is linked in between the last one and the head. -/
theorem Ring.insert_last
    (ring : links.Ring head items) (fresh : cell ∉ head :: items) :
    ((links.join (links.prev head) cell).join cell head).Ring head
      (items ++ [cell]) := by
  obtain ⟨front, shape, before⟩ := ring.last
  have nodup := ring.nodup
  have grown : (head :: items ++ [cell]).Nodup :=
    List.nodup_append.mpr
      ⟨nodup, List.nodup_singleton cell, fun other member last isLast => by
        rw [List.mem_singleton.mp isLast]
        rintro rfl
        exact fresh member⟩
  have absent : cell ∉ items := fun member =>
    fresh (List.mem_cons_of_mem head member)
  have behindLast :
      (front ++ links.prev head :: [cell]).IsChain
        (links.join (links.prev head) cell).Joined := by
    rw [shape] at nodup
    apply isChain_joined before (List.isChain_singleton cell)
    · exact fun member =>
        (List.nodup_append.mp nodup).2.2 _ member _
          (List.mem_singleton_self _) rfl
    · exact List.not_mem_nil
    · exact List.not_mem_nil
    · rw [← shape]
      exact absent
  constructor
  case linked =>
    have whole :
        head :: (items ++ [cell]) ++ [head] =
          (head :: items) ++ cell :: head :: [] := by
      simp
    rw [whole]
    apply isChain_joined _ (List.isChain_singleton head) fresh
    · exact List.not_mem_nil
    · exact List.not_mem_nil
    · exact (List.nodup_cons.mp grown).1
    · rw [shape, List.append_assoc]
      exact behindLast
  case nodup => exact grown

/-- A cell is unlinked by joining its neighbours. -/
theorem Ring.remove
    (ring : links.Ring head (front ++ cell :: back)) :
    (links.join (links.prev cell) (links.next cell)).Ring head
      (front ++ back) := by
  obtain ⟨early, late, frontShape, backShape, before, behind⟩ := ring.around
  have whole : (head :: front ++ cell :: back).Nodup := ring.nodup
  obtain ⟨frontNodup, cellNodup, apart⟩ := List.nodup_append.mp whole
  have backNodup := (List.nodup_cons.mp cellNodup).2
  have apartBack :
      ∀ other ∈ head :: front, other ∉ back := fun other isFront isBack =>
    apart other isFront other (List.mem_cons_of_mem cell isBack) rfl
  have closed : (back ++ [head]).Nodup := by
    rw [List.nodup_append_comm, List.singleton_append, List.nodup_cons]
    exact ⟨apartBack head List.mem_cons_self, backNodup⟩
  constructor
  case linked =>
    have shape :
        head :: (front ++ back) ++ [head] =
          early ++ links.prev cell :: links.next cell :: late := by
      calc
        head :: (front ++ back) ++ [head] =
            head :: front ++ (back ++ [head]) := by simp
        _ = early ++ [links.prev cell] ++ links.next cell :: late := by
          rw [frontShape, backShape]
        _ = early ++ links.prev cell :: links.next cell :: late := by simp
    have isFront : links.prev cell ∈ head :: front := by
      rw [frontShape]
      exact List.mem_concat_self
    have isBack : links.next cell ∈ back ++ [head] := by
      rw [backShape]
      exact List.mem_cons_self
    rw [shape]
    apply isChain_joined before behind
    · rw [frontShape, List.nodup_append_comm] at frontNodup
      exact (List.nodup_cons.mp frontNodup).1
    · rw [← backShape, List.dropLast_concat]
      exact apartBack _ isFront
    · rw [backShape] at closed
      exact (List.nodup_cons.mp closed).1
    · rw [← frontShape, List.tail_cons]
      intro member
      rcases List.mem_append.mp isBack with inBack | isHead
      · exact apartBack _ (List.mem_cons_of_mem head member) inBack
      · rw [List.mem_singleton.mp isHead] at member
        exact (List.nodup_cons.mp frontNodup).1 member
  case nodup =>
    rw [← List.cons_append, List.nodup_append]
    refine ⟨frontNodup, backNodup, ?_⟩
    rintro other isFront _ isBack rfl
    exact apartBack other isFront isBack

theorem Ring.erase
    (ring : links.Ring head items) (member : cell ∈ items) :
    (links.join (links.prev cell) (links.next cell)).Ring head
      (items.erase cell) := by
  obtain ⟨front, back, -, rfl, shape⟩ := List.exists_erase_eq member
  rw [shape]
  exact ring.remove

end Edit

/-- Follow the links from a cell up to the head, for at most so many turns,
until a cell is found. -/
def search (links : Links Cell) [DecidableEq Cell] (head : Cell)
    (found : Cell → Bool) : Nat → Cell → Option Bool
  | 0, _ => none
  | turns + 1, cell =>
      if cell = head then some false
      else if found cell then some true
      else links.search head found turns (links.next cell)

theorem Ring.search_eq
    [DecidableEq Cell] (ring : links.Ring head items) (found : Cell → Bool)
    {turns : Nat} (enough : items.length < turns) :
    links.search head found turns (links.next head) =
      some (items.any found) := by
  obtain ⟨linked, nodup⟩ := ring
  rw [List.nodup_cons] at nodup
  have absent := nodup.1
  rw [List.cons_append] at linked
  -- The induction is about a walk that starts at any cell.
  have start :
      ∀ first, (first :: (items ++ [head])).IsChain links.Joined →
        links.search head found turns (links.next first) =
          some (items.any found) := by
    clear linked nodup
    induction items generalizing turns with
    | nil =>
        intro first linked
        obtain ⟨joined, -⟩ := List.isChain_cons_cons.mp linked
        obtain ⟨more, rfl⟩ := Nat.exists_eq_add_one_of_ne_zero
          (Nat.ne_of_gt enough)
        rw [joined.1, search, if_pos rfl]
        rfl
    | cons cell rest inductionHypothesis =>
        intro first linked
        obtain ⟨joined, behind⟩ := List.isChain_cons_cons.mp linked
        rw [List.mem_cons, not_or] at absent
        obtain ⟨more, rfl⟩ := Nat.exists_eq_add_one_of_ne_zero
          (Nat.ne_of_gt (Nat.zero_lt_of_lt enough))
        rw [joined.1, search, if_neg (Ne.symm absent.1), List.any_cons]
        have later :=
          inductionHypothesis (Nat.lt_of_succ_lt_succ enough) absent.2 cell
            behind
        rw [later]
        cases found cell <;> rfl
  exact start head linked

end Links

/-- Following the links from a start leads through the nodes and ends there. -/
def Follows {Node : Type u} (next : Node → Option Node) :
    Option Node → List Node → Prop
  | start, [] => start = none
  | start, node :: rest => start = some node ∧ Follows next (next node) rest

/-- A link that is written elsewhere does not matter. -/
theorem Follows.update
    {Node : Type u} [DecidableEq Node] {next : Node → Option Node}
    {start target : Option Node} {nodes : List Node} {written : Node}
    (follows : Follows next start nodes) (elsewhere : written ∉ nodes) :
    Follows (Function.update next written target) start nodes := by
  induction nodes generalizing start with
  | nil => exact follows
  | cons node rest inductionHypothesis =>
      rw [List.mem_cons, not_or] at elsewhere
      obtain ⟨isStart, behind⟩ := follows
      refine ⟨isStart, ?_⟩
      rw [Function.update_of_ne (Ne.symm elsewhere.1)]
      exact inductionHypothesis behind elsewhere.2

end DkPull.Structures
