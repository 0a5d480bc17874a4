import DkPull.Libuv.TimerOrder

/-!
# How long to poll

Between two passes over the timers libuv waits for events, until the first
timer is due at the latest.
-/

namespace DkPull.Libuv

def INT_MAX : UInt64 := 2147483647

namespace Loop

def nextTimeout (loop : Loop) : Int :=
  match heapMin loop.handles loop.timerHeap with
  | none => -1
  | some handle =>
      if (loop.handles handle).timeout ≤ loop.time then 0
      else
        let diff := (loop.handles handle).timeout - loop.time
        let diff := if diff > INT_MAX then INT_MAX else diff
        diff.toNat

/-- `uv_backend_timeout` of a loop that has nothing but timers. -/
def backendTimeout (loop : Loop) : Int :=
  if loop.activeHandles = 0 then 0
  else if !loop.closingHandles.isEmpty then 0
  else loop.nextTimeout

def timerSetRepeat (loop : Loop) (handle : Nat) (repeatTime : UInt64) :
    Loop :=
  loop.update handle fun timer => { timer with repeatTime := repeatTime }

def timerGetDueIn (loop : Loop) (handle : Nat) : UInt64 :=
  if loop.time ≥ (loop.handles handle).timeout then 0
  else (loop.handles handle).timeout - loop.time

variable {loop : Loop} {handle : Nat}

theorem timeout_le_of_heapMin
    (least : heapMin loop.handles loop.timerHeap = some handle) {other : Nat}
    (member : other ∈ loop.timerHeap) :
    (loop.handles handle).timeout.toNat ≤
      (loop.handles other).timeout.toNat := by
  have before := heapMin_le least member
  rw [Handle.key, Handle.key, Prod.Lex.toLex_le_toLex] at before
  dsimp only at before
  omega

theorem nextTimer_eq_none_iff :
    loop.nextTimer = none ↔
      ∀ handle ∈ loop.timerHeap,
        loop.time < (loop.handles handle).timeout := by
  unfold nextTimer
  cases found : heapMin loop.handles loop.timerHeap with
  | none =>
      rw [heapMin_eq_none_iff] at found
      simp [found]
  | some least =>
      have member := mem_of_heapMin found
      dsimp only
      split_ifs with early
      · refine iff_of_true rfl ?_
        intro handle isMember
        have first := timeout_le_of_heapMin found isMember
        rw [gt_iff_lt, UInt64.lt_iff_toNat_lt] at early
        rw [UInt64.lt_iff_toNat_lt]
        omega
      · refine iff_of_false id ?_
        intro allEarly
        exact early (allEarly least member)

/-- The time until the least timer is due, up to `INT_MAX`. -/
theorem nextTimeout_of_heapMin
    (least : heapMin loop.handles loop.timerHeap = some handle)
    (early : loop.time < (loop.handles handle).timeout) :
    loop.nextTimeout =
      min ((loop.handles handle).timeout.toNat - loop.time.toNat : Int)
        2147483647 := by
  have notDue : ¬ (loop.handles handle).timeout ≤ loop.time :=
    UInt64.not_le.mpr early
  have difference :
      ((loop.handles handle).timeout - loop.time).toNat =
        (loop.handles handle).timeout.toNat - loop.time.toNat :=
    UInt64.toNat_sub_of_le _ _ (UInt64.le_of_lt early)
  rw [UInt64.lt_iff_toNat_lt] at early
  simp only [nextTimeout, least, if_neg notDue]
  split_ifs with large
  · rw [gt_iff_lt, UInt64.lt_iff_toNat_lt, difference] at large
    change 2147483647 < _ at large
    change (2147483647 : Int) = _
    omega
  · rw [gt_iff_lt, UInt64.lt_iff_toNat_lt, difference] at large
    change ¬ 2147483647 < _ at large
    rw [difference]
    omega

theorem backendTimeout_of_idle (idle : loop.activeHandles = 0) :
    loop.backendTimeout = 0 := if_pos idle

/-- A handle that waits to be closed does not have to wait any longer. -/
theorem backendTimeout_of_waiting (waiting : loop.closingHandles ≠ []) :
    loop.backendTimeout = 0 := by
  have isWaiting : (!loop.closingHandles.isEmpty) = true := by
    simpa using waiting
  rw [backendTimeout, if_pos isWaiting, ite_self]

theorem backendTimeout_of_heapMin
    (least : heapMin loop.handles loop.timerHeap = some handle)
    (early : loop.time < (loop.handles handle).timeout)
    (busy : loop.activeHandles ≠ 0) (noneWaiting : loop.closingHandles = []) :
    loop.backendTimeout =
      min ((loop.handles handle).timeout.toNat - loop.time.toNat : Int)
        2147483647 := by
  rw [backendTimeout, if_neg busy, noneWaiting]
  exact nextTimeout_of_heapMin least early

end Loop

end DkPull.Libuv
