/-
  The timer of the main loop (joylink_utils.c, joylink_dev_sdk.c).

  `joylink_main_loop` asks in every turn whether the time to the next call of
  `joylink_proc_server_st` is out, and what it does is a run of the session: in each
  turn the timer, if it is out by the interval that the last call returned, and then
  the packets and controls (`main_loop_run`).  The clock it reads has 31 bits.  While the
  clock does not start again, the timer is the one it is meant to be
  (`main_loop_timer`).  When it does, the comparison is the other way round: the
  time is out as long as it should not be, and it is no more once it should be
  (`time_out_iff`).  So a turn after the clock has started again and before the
  time is due makes the call too soon; without such a turn there is no call for the
  rest of the 31 bits (`main_loop_no_call_iff`).
-/
import MxchipSpp.JoylinkSession

namespace MxchipSpp

open Memory

/-! ## The clock -/

/-- `joylink_util_getsys_ms`, after so many milliseconds. -/
def joylinkUtilGetsysMs (ms : ℕ) : BitVec 32 := BitVec.ofNat 32 ms

/-- `joylink_util_timer_reset` -/
def joylinkUtilTimerReset (ms : ℕ) : BitVec 32 := joylinkUtilGetsysMs ms &&& 0x7FFFFFFF

/-- `joylink_util_is_time_out` -/
def joylinkUtilIsTimeOut (timestamp timeout : BitVec 32) (ms : ℕ) : Bool :=
  let unix_time_value := joylinkUtilGetsysMs ms &&& 0x7FFFFFFF
  let ret := (timestamp + timeout) - unix_time_value
  decide (ret.toInt ≤ 0)

/-! ## The loop -/

/-- A turn of `joylink_main_loop`: the clock when it asks whether the time is out and when it sets the
    timer again, and what `joylink_proc_server_st` returns if it is called. -/
structure LoopTurn where
  ms : ℕ
  set : ℕ
  interval : ℕ
  short : interval ≤ 15000

/-- `serverTimer` and `interval` -/
structure LoopTimer where
  serverTimer : BitVec 32
  interval : ℕ
  short : interval ≤ 15000

/-- The timer that is set at a time. -/
def LoopTimer.setAt (set : ℕ) {interval : ℕ} (short : interval ≤ 15000) : LoopTimer :=
  ⟨joylinkUtilTimerReset set, interval, short⟩

/-- The head of a turn, and whether it calls `joylink_proc_server_st`. -/
def loopTurn (turn : LoopTurn) (t : LoopTimer) : LoopTimer × Bool :=
  if joylinkUtilIsTimeOut t.serverTimer (BitVec.ofNat 32 t.interval) turn.ms then
    (.setAt turn.set turn.short, true)
  else (t, false)

/-- The times at which `joylink_proc_server_st` is called. -/
def loopCalls : List LoopTurn → LoopTimer → List ℕ
  | [], _ => []
  | turn :: turns, t =>
    let (t, called) := loopTurn turn t
    if called then turn.ms :: loopCalls turns t else loopCalls turns t

/-- What the timer is for: the turns that come when the time is due, where it was set at `set`. -/
def dueCalls : List LoopTurn → (set interval : ℕ) → List ℕ
  | [], _, _ => []
  | turn :: turns, set, interval =>
    if set + interval ≤ turn.ms then turn.ms :: dueCalls turns turn.set turn.interval
    else dueCalls turns set interval

/-- What `joylink_proc_server_st` returns is short. -/
theorem joylinkProcServerSt_short {jlp : JLPInfo} {fd : ℤ} {ok : Bool} {time_v : BitVec 32}
    {p p' : JLDevice} {interval : ℕ} {calls : List SockCall}
    (h : joylinkProcServerSt jlp fd ok time_v p = some (interval, p', calls)) :
    interval ≤ 15000 := by
  unfold joylinkProcServerSt at h
  cases hst : (joylinkServerStTimeOutCheck p).1.serverSt with
  | init =>
    simp only [hst] at h
    cases h
    decide
  | auth =>
    simp only [hst] at h
    obtain ⟨_, -, h⟩ := Option.bind_eq_some_iff.1 h
    cases h
    decide
  | work =>
    simp only [hst] at h
    obtain ⟨_, -, h⟩ := Option.bind_eq_some_iff.1 h
    cases h
    decide

/-! ## When the time is out -/

section
variable {set ms interval : ℕ}

theorem toNat_timerReset (ms : ℕ) : (joylinkUtilTimerReset ms).toNat = ms % 2 ^ 31 := by
  have hmask : (0x7FFFFFFF : BitVec 32).toNat = 2 ^ 31 - 1 := by decide
  rw [joylinkUtilTimerReset, joylinkUtilGetsysMs, BitVec.toNat_and, BitVec.toNat_ofNat, hmask,
    Nat.and_two_pow_sub_one_eq_mod]
  omega

theorem toInt_le_zero_iff (d : BitVec 32) : d.toInt ≤ 0 ↔ d.toNat = 0 ∨ 2 ^ 31 ≤ d.toNat := by
  rw [BitVec.toInt_eq_toNat_cond]
  split_ifs <;> omega

/-- **When the time is out.**  In the half of the clock in which the timer was set, from when it is
    due; in the other half, until then. -/
theorem time_out_iff (hinterval : interval < 2 ^ 31) (hset : set ≤ ms) (hms : ms < set + 2 ^ 31) :
    joylinkUtilIsTimeOut (joylinkUtilTimerReset set) (BitVec.ofNat 32 interval) ms ↔
      (ms / 2 ^ 31 = set / 2 ^ 31 ∧ set + interval ≤ ms) ∨
        (ms / 2 ^ 31 ≠ set / 2 ^ 31 ∧ ms ≤ set + interval) := by
  have hhalf : ms / 2 ^ 31 = set / 2 ^ 31 ∨ ms / 2 ^ 31 = set / 2 ^ 31 + 1 := by omega
  -- what is left of the time, modulo the width of the subtraction
  have hleft : (joylinkUtilTimerReset set + BitVec.ofNat 32 interval -
      joylinkUtilTimerReset ms).toNat =
        (2 ^ 32 - ms % 2 ^ 31 + (set % 2 ^ 31 + interval)) % 2 ^ 32 := by
    have hsum : (set % 2 ^ 31 + interval % 2 ^ 32) % 2 ^ 32 = set % 2 ^ 31 + interval := by omega
    rw [BitVec.toNat_sub, BitVec.toNat_add, BitVec.toNat_ofNat, toNat_timerReset,
      toNat_timerReset, hsum]
  have hout : joylinkUtilIsTimeOut (joylinkUtilTimerReset set) (BitVec.ofNat 32 interval) ms ↔
      (joylinkUtilTimerReset set + BitVec.ofNat 32 interval - joylinkUtilTimerReset ms).toInt ≤ 0 :=
    decide_eq_true_iff
  rw [hout, toInt_le_zero_iff, hleft]
  rcases hhalf with h | h <;> rw [h] <;> omega

/-! ## Runs of the loop -/

variable (short : interval ≤ 15000)

/-- A turn within 2^31 ms from when the timer was set. -/
theorem loopTurn_setAt {turn : LoopTurn} (hset : set ≤ turn.ms) (hms : turn.ms < set + 2 ^ 31) :
    loopTurn turn (.setAt set short) =
      if (turn.ms / 2 ^ 31 = set / 2 ^ 31 ∧ set + interval ≤ turn.ms) ∨
          (turn.ms / 2 ^ 31 ≠ set / 2 ^ 31 ∧ turn.ms ≤ set + interval) then
        (.setAt turn.set turn.short, true)
      else (.setAt set short, false) := by
  have hinterval : interval < 2 ^ 31 := by omega
  rw [loopTurn]
  exact if_congr (time_out_iff hinterval hset hms) rfl rfl

/-- **When there is no call.**  Over turns of 2^31 ms from when the timer was set, there is none if and
    only if the turns in the same half of the clock come before it is due, and those in the other half
    after it is due. -/
theorem main_loop_no_call_iff {turns : List LoopTurn}
    (hturns : ∀ turn ∈ turns, set ≤ turn.ms ∧ turn.ms < set + 2 ^ 31) :
    loopCalls turns (.setAt set short) = [] ↔ ∀ turn ∈ turns,
      (turn.ms / 2 ^ 31 = set / 2 ^ 31 ∧ turn.ms < set + interval) ∨
        (turn.ms / 2 ^ 31 ≠ set / 2 ^ 31 ∧ set + interval < turn.ms) := by
  induction turns with
  | nil => simp [loopCalls]
  | cons turn turns ih =>
    obtain ⟨hset, hms⟩ := hturns turn List.mem_cons_self
    rw [List.forall_mem_cons, ← ih fun t ht => hturns t (List.mem_cons_of_mem _ ht), loopCalls,
      loopTurn_setAt short hset hms]
    split_ifs with h
    · constructor
      · intro hnil
        cases hnil
      · rintro ⟨hno, -⟩
        omega
    · constructor
      · intro hnil
        exact ⟨by omega, hnil⟩
      · rintro ⟨-, hnil⟩
        exact hnil

/-- A timer that is lost: no turn comes between the start of the clock and 14 s later. -/
theorem main_loop_no_call_lost : loopCalls
    [⟨2 ^ 31 - 500, 2 ^ 31 - 500, 5000, by decide⟩, ⟨2 ^ 31 + 14001, 2 ^ 31 + 14001, 5000, by decide⟩,
      ⟨2 ^ 32 - 1001, 2 ^ 32 - 1001, 5000, by decide⟩]
    (.setAt (2 ^ 31 - 1000) (le_refl 15000)) = [] :=
  (main_loop_no_call_iff (le_refl 15000) (by simp)).2 (by simp)

/-- The clock goes on over these turns, in one half. -/
def InHalf (half : ℕ) : ℕ → List LoopTurn → Prop
  | _, [] => True
  | now, turn :: turns => now ≤ turn.ms ∧ turn.ms ≤ turn.set ∧ turn.set / 2 ^ 31 = half ∧
      InHalf half turn.set turns

theorem loopCalls_of_inHalf {half : ℕ} (turns : List LoopTurn) : ∀ {now set interval : ℕ}
    (short : interval ≤ 15000), set / 2 ^ 31 = half → set ≤ now → InHalf half now turns →
      loopCalls turns (.setAt set short) = dueCalls turns set interval := by
  induction turns with
  | nil => intros; rfl
  | cons turn turns ih =>
    intro now set interval short hhalf hnow hin
    obtain ⟨hms, hset, hturn, hin⟩ := hin
    have hdue : (turn.ms / 2 ^ 31 = set / 2 ^ 31 ∧ set + interval ≤ turn.ms) ∨
        (turn.ms / 2 ^ 31 ≠ set / 2 ^ 31 ∧ turn.ms ≤ set + interval) ↔
          set + interval ≤ turn.ms := by omega
    rw [loopCalls, dueCalls, loopTurn_setAt short (hnow.trans hms) (by omega), if_congr hdue rfl rfl]
    split_ifs
    · exact congrArg _ (ih turn.short hturn le_rfl hin)
    · exact ih short hhalf (by omega) hin

/-- **The timer of the loop**: in one half of the clock, `joylink_proc_server_st` is called at the first
    turn that comes when the time is due, each time. -/
theorem main_loop_timer {turns : List LoopTurn} (hturns : InHalf (set / 2 ^ 31) set turns) :
    loopCalls turns (.setAt set short) = dueCalls turns set interval :=
  loopCalls_of_inHalf turns short rfl le_rfl hturns

theorem main_loop_timer_three : loopCalls [⟨1000, 1000, 5000, by decide⟩,
    ⟨2010, 2015, 5000, by decide⟩, ⟨7015, 7016, 5000, by decide⟩]
      (.setAt 0 (show 2000 ≤ 15000 by decide)) = [2010, 7015] :=
  main_loop_timer _ (by simp [InHalf])

end

/-! ## The loop and the session -/

/-- A turn of `joylink_main_loop` with what it meets: what `socket` gives and whether `connect`
    succeeds, and the packets and controls that are handled behind its head. -/
structure MainTurn where
  ms : ℕ
  set : ℕ
  fd : ℤ
  ok : Bool
  time_v : BitVec 32
  rest : List SessionEvent
  noTimer : timers rest = 0

section
variable (jlp : JLPInfo)

/-- The head of a turn. -/
def mainHead (turn : MainTurn) (t : LoopTimer) (p : JLDevice) :
    Option (LoopTimer × JLDevice × List SockCall) :=
  if joylinkUtilIsTimeOut t.serverTimer (BitVec.ofNat 32 t.interval) turn.ms then
    match h : joylinkProcServerSt jlp turn.fd turn.ok turn.time_v p with
    | none => none
    | some (_, p, calls) => some (.setAt turn.set (joylinkProcServerSt_short h), p, calls)
  else some (t, p, [])

/-- Turns one behind the other, and the calls they make. -/
def mainRun : List MainTurn → LoopTimer → JLDevice → Option (LoopTimer × JLDevice × List SockCall)
  | [], t, p => some (t, p, [])
  | turn :: turns, t, p => do
    let (t, p, calls) ← mainHead jlp turn t p
    let (p, calls') ← sessionRun jlp turn.rest p
    let (t, p, calls'') ← mainRun turns t p
    return (t, p, calls ++ (calls' ++ calls''))

end

section
variable {jlp : JLPInfo} {t t' : LoopTimer} {p p' : JLDevice} {calls : List SockCall}

theorem sessionRun_append {es es' : List SessionEvent} {q : JLDevice} {calls' : List SockCall}
    (h : sessionRun jlp es p = some (q, calls)) (h' : sessionRun jlp es' q = some (p', calls')) :
    sessionRun jlp (es ++ es') p = some (p', calls ++ calls') := by
  induction es generalizing p calls with
  | nil =>
    cases h
    exact h'
  | cons e es ih =>
    obtain ⟨⟨r, c⟩, hstep, h⟩ := Option.bind_eq_some_iff.1 h
    obtain ⟨⟨r', c'⟩, hrun, h⟩ := Option.bind_eq_some_iff.1 h
    cases h
    rw [List.cons_append, sessionRun, hstep]
    simp only [Option.bind_eq_bind, Option.bind_some, ih hrun, Option.pure_def, List.append_assoc]

/-- The events of a turn: the timer, if it is out, and what comes behind its head. -/
def MainTurn.events (turn : MainTurn) (called : Bool) : List SessionEvent :=
  (if called then [.timer turn.fd turn.ok turn.time_v] else []) ++ turn.rest

/-- The events of the turns, by what the loop's timer does at their heads. -/
def mainEvents : List MainTurn → List LoopTurn → LoopTimer → List SessionEvent
  | turn :: turns, head :: heads, t =>
    turn.events (loopTurn head t).2 ++ mainEvents turns heads (loopTurn head t).1
  | _, _, _ => []

/-- These are the heads of the turns: they have their times, and where `joylink_proc_server_st` is called
    the interval that it returns, in the state that the turns before have left. -/
def Heads (jlp : JLPInfo) : List MainTurn → List LoopTurn → LoopTimer → JLDevice → Prop
  | [], [], _, _ => True
  | turn :: turns, head :: heads, t, p =>
    head.ms = turn.ms ∧ head.set = turn.set ∧
    ((loopTurn head t).2 = true → ∃ q c,
      joylinkProcServerSt jlp turn.fd turn.ok turn.time_v p = some (head.interval, q, c)) ∧
    ∃ q c, sessionRun jlp (turn.events (loopTurn head t).2) p = some (q, c) ∧
      Heads jlp turns heads (loopTurn head t).1 q
  | _, _, _, _ => False

/-- The head of a turn is a timer of the session, if it is one of the loop. -/
theorem mainHead_cases {turn : MainTurn} (h : mainHead jlp turn t p = some (t', p', calls)) :
    ∃ head : LoopTurn, head.ms = turn.ms ∧ head.set = turn.set ∧ (loopTurn head t).1 = t' ∧
      ((loopTurn head t).2 = true → ∃ q c,
        joylinkProcServerSt jlp turn.fd turn.ok turn.time_v p = some (head.interval, q, c)) ∧
      sessionRun jlp (if (loopTurn head t).2 then [.timer turn.fd turn.ok turn.time_v] else []) p =
        some (p', calls) := by
  unfold mainHead at h
  split_ifs at h with hout
  · split at h
    · cases h
    · next interval q c hst =>
      cases h
      refine ⟨⟨turn.ms, turn.set, interval, joylinkProcServerSt_short hst⟩, rfl, rfl, ?_, ?_, ?_⟩ <;>
        rw [loopTurn, if_pos hout]
      · exact fun _ => ⟨p', calls, hst⟩
      · simp [sessionRun, sessionStep, hst]
  · cases h
    refine ⟨⟨turn.ms, turn.set, 0, by decide⟩, rfl, rfl, ?_, ?_, ?_⟩ <;> rw [loopTurn, if_neg hout]
    · exact fun hno => Bool.noConfusion hno
    · rfl

theorem timers_append (es es' : List SessionEvent) : timers (es ++ es') = timers es + timers es' :=
  List.countP_append

/-- The timers among the events are the calls of the loop. -/
theorem timers_mainEvents {turns : List MainTurn} : ∀ {heads : List LoopTurn} {t : LoopTimer}
    {p : JLDevice}, Heads jlp turns heads t p →
      timers (mainEvents turns heads t) = (loopCalls heads t).length := by
  induction turns with
  | nil =>
    intro heads t p h
    cases heads with
    | nil => rfl
    | cons head heads => exact h.elim
  | cons turn turns ih =>
    intro heads t p h
    cases heads with
    | nil => exact h.elim
    | cons head heads =>
      obtain ⟨-, -, -, q, c, -, h⟩ := h
      rw [mainEvents, MainTurn.events, timers_append, timers_append, turn.noTimer, ih h, loopCalls]
      generalize loopTurn head t = r
      obtain ⟨u, called⟩ := r
      cases called with
      | true => exact Nat.add_comm 1 _
      | false => exact Nat.zero_add _

/-- **The loop is a session**: what it does over its turns, a run of the session does that has in each
    turn the timer, when the timer of the loop is out by the intervals that `joylink_proc_server_st`
    returned, and then what the turn meets. -/
theorem main_loop_run {turns : List MainTurn} (h : mainRun jlp turns t p = some (t', p', calls)) :
    ∃ heads : List LoopTurn, Heads jlp turns heads t p ∧
      sessionRun jlp (mainEvents turns heads t) p = some (p', calls) ∧
      heads.foldl (fun t head => (loopTurn head t).1) t = t' ∧
      timers (mainEvents turns heads t) = (loopCalls heads t).length := by
  suffices hrun : ∃ heads : List LoopTurn, Heads jlp turns heads t p ∧
      sessionRun jlp (mainEvents turns heads t) p = some (p', calls) ∧
      heads.foldl (fun t head => (loopTurn head t).1) t = t' by
    obtain ⟨heads, hheads, hevents, hend⟩ := hrun
    exact ⟨heads, hheads, hevents, hend, timers_mainEvents hheads⟩
  induction turns generalizing t p calls with
  | nil =>
    cases h
    exact ⟨[], trivial, rfl, rfl⟩
  | cons turn turns ih =>
    obtain ⟨⟨u, q, c⟩, hhead, h⟩ := Option.bind_eq_some_iff.1 h
    obtain ⟨⟨r, c'⟩, hrest, h⟩ := Option.bind_eq_some_iff.1 h
    obtain ⟨⟨u', r', c''⟩, hrun, h⟩ := Option.bind_eq_some_iff.1 h
    cases h
    obtain ⟨head, hms, hset, rfl, hinterval, htimer⟩ := mainHead_cases hhead
    obtain ⟨heads, hheads, hevents, hend⟩ := ih hrun
    have hturn := sessionRun_append htimer hrest
    refine ⟨head :: heads, ⟨hms, hset, hinterval, r, c ++ c', hturn, hheads⟩, ?_, hend⟩
    rw [mainEvents, ← List.append_assoc]
    exact sessionRun_append hturn hevents

/-- Five turns, of which the first, the third and the fifth call: a connection after which the time is
    2000 ms, and two authentications after which it is 5000 ms.  The second handles a control. -/
def exampleTurns : List MainTurn :=
  [⟨1000, 1001, 5, true, 0, [], rfl⟩,
    ⟨2000, 2000, 6, true, 0, [.upload ⟨true, Block.fill 72 0⟩ 0], rfl⟩,
    ⟨3005, 3006, 6, true, 0, [], rfl⟩, ⟨6000, 6000, 6, true, 0, [], rfl⟩,
    ⟨8010, 8011, 6, true, 0, [], rfl⟩]

theorem main_loop_run_five : ∃ heads p' calls,
    Heads ⟨[], Block.fill 33 0⟩ exampleTurns heads (.setAt 0 (show 0 ≤ 15000 by decide))
      (exampleDevice (-1) .init 0) ∧
    sessionRun ⟨[], Block.fill 33 0⟩
      (mainEvents exampleTurns heads (.setAt 0 (show 0 ≤ 15000 by decide)))
      (exampleDevice (-1) .init 0) = some (p', calls) ∧
    calls.length = 5 ∧ p'.serverSt = .auth ∧ p'.hbLostCount = 2 := by
  have hrun : (mainRun ⟨[], Block.fill 33 0⟩ exampleTurns (.setAt 0 (show 0 ≤ 15000 by decide))
      (exampleDevice (-1) .init 0)).map (fun r => (r.2.2.length, r.2.1.serverSt, r.2.1.hbLostCount)) =
        some (5, .auth, 2) := by decide +kernel
  obtain ⟨⟨t', p', calls⟩, hrun, hvals⟩ := Option.map_eq_some_iff.1 hrun
  obtain ⟨heads, hheads, hevents, -, -⟩ := main_loop_run hrun
  simp only [Prod.mk.injEq] at hvals
  exact ⟨heads, p', calls, hheads, hevents, hvals⟩

end

end MxchipSpp
