/-
  Retransmissions (`OLD`).

  `SendTimerHandle` sends the last frame again whenever `framesendtimer.state`
  is raised, and does not look at the mailbox.  What a step does to a
  retransmission is said once (`RetryStep`); the bounds on what the UART gets
  follow from it.
-/
import MxchipSpp.Mailbox

namespace MxchipSpp

open Memory Outcome

/-! ## The state of a retransmission -/

/-- The state of a retransmission, and what was sent so far. -/
structure Retry where
  expired : Bool
  resendcnt : ℕ
  state : Byte
  sent : List (List Byte)
  uart : List (List Byte)

def Dev.retry (d : Dev) : Retry :=
  ⟨d.framesendtimer, d.framesendpara.resendcnt, d.datadown.state, d.hist.sent, d.hist.uart⟩

/-- `RevCmdHandle` finds the answer to a command. -/
def Answered (d : Dev) : Prop :=
  d.framerevpara.offset ≠ 0 ∧ d.revCmd.cmd = 0 ∧ (revCmdRead d).revCmd.cmd ∈ answerCmds

/-- The step leaves the send timer expired, a retransmission to come, and no command outstanding. -/
def Strands (d : Dev) : DevEvent → Prop
  | .sendTimerUp => d.framesendpara.resendcnt ≠ resendCnt ∧ d.datadown.state ≠ 3
  | .timerTest => d.framesendtimer = true ∧ d.framesendpara.resendcnt ≠ resendCnt
  | .revCmdHandle => d.framesendtimer = true ∧ d.datadown.state = 3 ∧ Answered d
  | _ => False

/-- What a step does to a retransmission. -/
inductive RetryStep (d : Dev) : DevEvent → Retry → Prop where
  | quiet {ev : DevEvent} (h : ¬ Strands d ev) : RetryStep d ev d.retry
  | expired : RetryStep d .sendTimerUp { d.retry with expired := true }
  | queried : RetryStep d .timerTest { d.retry with state := 2 }
  | taken {ev : DevEvent} (h : ¬ Strands d ev) (hs : d.datadown.state = 0) :
      RetryStep d ev { d.retry with state := 2 }
  | answered (h : Answered d) (hs : d.datadown.state = 3) :
      RetryStep d .revCmdHandle { d.retry with resendcnt := 0, state := 0 }
  | resent {ok : Bool} {uart : List (List Byte)} (ht : d.framesendtimer = true)
      (hn : d.framesendpara.resendcnt ≠ resendCnt)
      (hu : uart = d.hist.uart ∨ ∃ frame, uart = d.hist.uart ++ [frame]) :
      RetryStep d (.sendTimerHandle ok)
        { d.retry with expired := false, resendcnt := u8 (d.framesendpara.resendcnt + 1), uart }
  | givenUp {ok : Bool} (hn : d.framesendpara.resendcnt = resendCnt) :
      RetryStep d (.sendTimerHandle ok)
        { d.retry with expired := false, resendcnt := 0, state := 0 }
  | sent {ok : Bool} {x : Byte} {data frame : List Byte} (hs : d.datadown.state = 2) :
      RetryStep d (.datadownHandle ok)
        { d.retry with state := x, sent := d.hist.sent ++ [data], uart := d.hist.uart ++ [frame] }

section
variable {b : Build} {d e : Dev} {ev : DevEvent}

theorem RetryStep.of_eq (he : e.retry = d.retry) (h : ¬ Strands d ev) : RetryStep d ev e.retry := by
  rw [he]; exact .quiet h

theorem retry_of_tx (h : e.tx = d.tx) : e.retry = d.retry :=
  congrArg (fun t : Tx => (⟨t.framesendtimer, t.framesendpara.resendcnt, t.datadown.state, t.sent,
    t.uart⟩ : Retry)) h

theorem retry_dataDownWr (data : List Byte) :
    (dataDownWr d data).1.retry = d.retry ∨
      d.datadown.state = 0 ∧ (dataDownWr d data).1.retry = { d.retry with state := 2 } := by
  by_cases hc : d.datadown.state = 0 ∧ data.length ≤ 128
  · obtain ⟨s, h, hst⟩ := dataDownWr_taken hc.1 hc.2
    refine Or.inr ⟨hc.1, ?_⟩
    rw [h, ← hst.state]
    rfl
  · rw [dataDownWr_refused hc]
    exact Or.inl rfl

theorem retry_queryCmd (h : d.datadown.state = 0) :
    (dataDownWr d queryCmd).1.retry = { d.retry with state := 2 } := by
  have hl : queryCmd.length ≤ 128 := by decide
  obtain ⟨s, hs, hst⟩ := dataDownWr_taken h hl
  rw [hs, ← hst.state]
  rfl

theorem retry_timerTest : (timerTest d).retry = { d.retry with state := 2 } :=
  retry_queryCmd (d := d.setDatadownState 0) (DataInterfaceStu.state_setState _ _)

theorem retry_sendData {first ok : Bool} {r : Dev × Bool} (h : sendData b first ok d = some r) :
    (r.2 = false ∧ r.1.retry = d.retry) ∨
      r.2 = true ∧ ∃ frame, r.1.retry = { d.retry with uart := d.hist.uart ++ [frame] } := by
  obtain ⟨s, rfl | ⟨frame, rfl⟩⟩ := sendData_cases h
  · exact Or.inl ⟨rfl, rfl⟩
  · exact Or.inr ⟨rfl, frame, rfl⟩

theorem retryStep_sendTimerHandle {ok : Bool} (he : sendTimerHandle .old ok d = some e) :
    RetryStep d (.sendTimerHandle ok) e.retry := by
  unfold sendTimerHandle at he
  split_ifs at he with ht hn
  · obtain ⟨r, hr, rfl⟩ := Option.map_eq_some_iff.1 he
    rcases retry_sendData hr with ⟨-, h⟩ | ⟨-, frame, h⟩
    · rw [h]
      exact .resent ht hn (Or.inl rfl)
    · rw [h]
      exact .resent ht hn (Or.inr ⟨frame, rfl⟩)
  · cases he
    have hs : (d.setDatadownState 0).datadown.state = 0 := DataInterfaceStu.state_setState _ _
    have h : RetryStep d (.sendTimerHandle ok)
        { d.retry with expired := false, resendcnt := 0, state := 0 } := .givenUp (not_not.1 hn)
    rw [← hs] at h
    exact h
  · cases he
    exact .quiet id

theorem retry_datadownSent : ∃ x, (datadownSent .old d).retry = { d.retry with state := x } := by
  unfold datadownSent
  simp only
  split_ifs
  · exact ⟨_, rfl⟩
  · refine ⟨2, ?_⟩
    rw [retry_queryCmd (d := (d.setDatadownState 0).stopSendTimer) (DataInterfaceStu.state_setState _ _)]
    rfl

theorem retryStep_datadownHandle {ok : Bool} (he : datadownHandle .old ok d = some e) :
    RetryStep d (.datadownHandle ok) e.retry := by
  unfold datadownHandle at he
  split_ifs at he with hs
  · obtain ⟨r, hr, rfl⟩ := Option.map_eq_some_iff.1 he
    rcases retry_sendData hr with ⟨hf, h⟩ | ⟨ht, frame, h⟩
    · rw [hf, if_neg (by decide)]
      exact .of_eq h id
    · rw [ht, if_pos rfl]
      obtain ⟨x, hx⟩ := retry_datadownSent (d := r.1.noteSent)
      have hn : r.1.noteSent.retry =
          { r.1.retry with sent := r.1.retry.sent ++ [r.1.datadown.command] } := rfl
      rw [hx, hn, h]
      exact .sent hs
  · cases he
    exact .quiet id

theorem retryStep_sendCmdHandle : RetryStep d .sendCmdHandle (sendCmdHandle d).retry := by
  rcases sendCmdHandle_cases d with h | ⟨-, data, clear, h⟩
  · exact .of_eq (by rw [h]) id
  · have hr : (reply d data clear).retry = (dataDownWr d data).1.retry := by
      rw [reply]
      simp only
      split_ifs <;> rfl
    rw [h, hr]
    rcases retry_dataDownWr (d := d) data with h | ⟨hs, h⟩
    · rw [h]; exact .quiet id
    · rw [h]; exact .taken id hs

theorem retryStep_revCmdHandle :
    Post (revCmdHandle d) (fun _ => True) fun e => RetryStep d .revCmdHandle e.retry := by
  refine tx_revCmdHandle.mono (fun _ _ => trivial) fun e he => ?_
  rw [retry_of_tx he]
  split_ifs with hc
  · unfold revCmdSwitch
    split_ifs with ha
    · change RetryStep d .revCmdHandle (stopResend (revCmdRead d)).retry
      unfold stopResend
      split_ifs with hs
      · have h : RetryStep d .revCmdHandle { d.retry with resendcnt := 0, state := 0 } :=
          .answered ⟨hc.1, hc.2, ha⟩ hs
        rw [← DataInterfaceStu.state_setState d.datadown 0] at h
        exact h
      · exact .quiet fun h => hs h.2.1
    all_goals exact .of_eq rfl fun h => ha h.2.2.2.2
  · exact .quiet fun h => hc ⟨h.2.2.1, h.2.2.2.1⟩

/-- **One step**, of those `FrameHandle` is made of and the others. -/
theorem retryStep_step (hframe : ∀ ok₁ ok₂, ev ≠ .frameHandle ok₁ ok₂)
    (he : step .old d ev = .ok e) : RetryStep d ev e.retry := by
  have hquiet : ∀ {x : Except Dev Dev}, Post x (fun e => e.tx = d.tx) (fun e => e.tx = d.tx) →
      x = .ok e → ¬ Strands d ev → RetryStep d ev e.retry := fun h hx hn =>
    .of_eq (retry_of_tx (h.of_ok hx)) hn
  cases ev with
  | rev data => exact hquiet (rxInv_tx.revDataWrFifo rfl data) he id
  | revTimerUp => cases he; exact .quiet id
  | sendTimerUp => cases he; exact .expired
  | timerTest =>
    cases he
    rw [retry_timerTest]; exact .queried
  | dataDownWr data =>
    cases he
    rcases retry_dataDownWr (d := d) data with h | ⟨hs, h⟩
    · rw [h]; exact .quiet id
    · rw [h]; exact .taken id hs
  | dataupHandle => cases he; exact .of_eq (retry_of_tx tx_dataupHandle) id
  | revCmdHandle => exact retryStep_revCmdHandle.of_ok he
  | revTimerHandle => exact hquiet (rxInv_tx.revTimerHandle rfl) he id
  | sendTimerHandle ok => exact retryStep_sendTimerHandle (orFault_eq_ok he)
  | datadownHandle ok => exact retryStep_datadownHandle (orFault_eq_ok he)
  | sendCmdHandle => cases he; exact retryStep_sendCmdHandle
  | frameHandle ok₁ ok₂ => exact absurd rfl (hframe ok₁ ok₂)

end

/-! ## What a step keeps -/

/-- If the send timer is expired and a retransmission is to come, a command is outstanding. -/
def Retry.Outstanding (r : Retry) : Prop :=
  r.expired = true → r.resendcnt ≠ resendCnt → r.state = 3

/-- The retransmissions left to the command outstanding. -/
def Retry.budget (r : Retry) : ℕ := if r.state = 3 then resendCnt - r.resendcnt else 0

/-- From `r` to `s` the UART got no more frames than the budget allows, if no other command was
    sent. -/
structure Retry.Spends (r s : Retry) : Prop where
  sent : r.sent.length ≤ s.sent.length
  uart : r.uart <+: s.uart
  budget : s.sent.length = r.sent.length → s.uart.length + s.budget ≤ r.uart.length + r.budget

namespace Retry
variable {r s t : Retry}

theorem budget_le (r : Retry) : r.budget ≤ resendCnt := by
  unfold budget
  split_ifs
  · exact Nat.sub_le _ _
  · exact Nat.zero_le _

theorem budget_of_ne (h : r.state ≠ 3) : r.budget = 0 := if_neg h

theorem Spends.refl (r : Retry) : r.Spends r := ⟨le_rfl, List.prefix_rfl, fun _ => le_rfl⟩

theorem Spends.trans (h : r.Spends s) (h' : s.Spends t) : r.Spends t := by
  refine ⟨h.sent.trans h'.sent, h.uart.trans h'.uart, fun heq => ?_⟩
  have h₁ := h.sent
  have h₂ := h'.sent
  exact (h'.budget (by omega)).trans (h.budget (by omega))

/-- Nothing was given to the UART, and nothing more can be. -/
theorem Spends.of_idle (hs : s.sent = r.sent) (hu : s.uart = r.uart) (hb : s.budget = 0) :
    r.Spends s := by
  refine ⟨by rw [hs], by rw [hu], fun _ => ?_⟩
  rw [hu, hb]
  exact Nat.le_add_right _ _

end Retry

section
variable {d : Dev} {ev : DevEvent} {r : Retry}

/-- A step keeps the timer to a command outstanding exactly if it does not strand it. -/
theorem RetryStep.outstanding (h : RetryStep d ev r) (hd : d.retry.Outstanding) :
    r.Outstanding ↔ ¬ Strands d ev := by
  cases h with
  | quiet h => exact ⟨fun _ => h, fun _ => hd⟩
  | expired =>
    constructor
    · exact fun hr ⟨hn, hs⟩ => hs (hr rfl hn)
    · exact fun hn _ hc => by_contra fun hs => hn ⟨hc, hs⟩
  | queried =>
    constructor
    · exact fun hr ⟨ht, hn⟩ => absurd (show (2 : Byte) = 3 from hr ht hn) (by decide)
    · exact fun hn ht hc => absurd ⟨ht, hc⟩ hn
  | taken h hs =>
    refine ⟨fun _ => h, fun _ ht hn => ?_⟩
    have h3 : d.datadown.state = 3 := hd ht hn
    rw [hs] at h3
    cases h3
  | answered h hs =>
    constructor
    · exact fun hr ⟨ht, _⟩ =>
        absurd (show (0 : Byte) = 3 from hr ht (show 0 ≠ resendCnt by decide)) (by decide)
    · exact fun hn ht _ => absurd ⟨ht, hs, h⟩ hn
  | resent => exact ⟨fun _ => id, fun _ => nofun⟩
  | givenUp => exact ⟨fun _ => id, fun _ => nofun⟩
  | sent hs =>
    refine ⟨fun _ => id, fun _ ht hn => ?_⟩
    have h3 : d.datadown.state = 3 := hd ht hn
    rw [hs] at h3
    cases h3

/-- A retransmission that is not the last one allowed is counted. -/
theorem succ_resendcnt_le {n : ℕ} (h : n ≤ resendCnt) (hn : n ≠ resendCnt) :
    u8 (n + 1) = n + 1 ∧ n + 1 ≤ resendCnt := by
  have h2 : resendCnt = 2 := rfl
  exact ⟨u8_eq (by push_cast; rfl) (by omega), by omega⟩

theorem RetryStep.resendcnt_le (h : RetryStep d ev r) (hd : d.framesendpara.resendcnt ≤ resendCnt) :
    r.resendcnt ≤ resendCnt := by
  cases h with
  | resent ht hn hu =>
    obtain ⟨hu8, hle⟩ := succ_resendcnt_le hd hn
    exact hu8.trans_le hle
  | answered | givenUp => exact Nat.zero_le _
  | _ => exact hd

theorem RetryStep.spends (h : RetryStep d ev r) (hd : d.retry.Outstanding)
    (hc : d.framesendpara.resendcnt ≤ resendCnt) : d.retry.Spends r := by
  cases h with
  | quiet => exact .refl _
  | expired => exact ⟨le_rfl, List.prefix_rfl, fun _ => le_rfl⟩
  | queried => exact .of_idle rfl rfl rfl
  | taken h hs => exact .of_idle rfl rfl rfl
  | answered h hs => exact .of_idle rfl rfl rfl
  | givenUp hn => exact .of_idle rfl rfl rfl
  | sent hs =>
    refine ⟨by simp [Dev.retry], ⟨_, rfl⟩, fun heq => ?_⟩
    simp [Dev.retry] at heq
  | @resent ok uart ht hn hu =>
    -- the frame is paid for by the retransmission counted
    have h3 : d.datadown.state = 3 := hd ht hn
    obtain ⟨hu8, hle⟩ := succ_resendcnt_le hc hn
    have hb : d.retry.budget = resendCnt - d.framesendpara.resendcnt := if_pos h3
    have hb' : ({ d.retry with
        expired := false
        resendcnt := u8 (d.framesendpara.resendcnt + 1)
        uart } : Retry).budget = resendCnt - (d.framesendpara.resendcnt + 1) := by
      rw [← hu8]; exact if_pos h3
    refine ⟨le_rfl, ?_, fun _ => ?_⟩
    · rcases hu with rfl | ⟨frame, rfl⟩
      · exact List.prefix_rfl
      · exact ⟨_, rfl⟩
    · rw [hb, hb']
      change uart.length + _ ≤ d.hist.uart.length + _
      have hl : uart.length ≤ d.hist.uart.length + 1 := by
        rcases hu with rfl | ⟨frame, rfl⟩
        · exact Nat.le_succ _
        · simp
      omega

/-- The step that sends a command gives one frame to the UART. -/
theorem RetryStep.sends (h : RetryStep d ev r) (hne : r.sent ≠ d.hist.sent) :
    r.uart.length = d.hist.uart.length + 1 := by
  cases h with
  | sent => simp
  | _ => exact absurd rfl hne

end

/-! ## Runs, with `FrameHandle` in its parts -/

/-- The parts of `FrameHandle`; any other step is its own part. -/
def DevEvent.parts (b : Build) : DevEvent → List DevEvent
  | .frameHandle ok₁ ok₂ => frameHandleParts b ok₁ ok₂
  | ev => [ev]

theorem run_parts (b : Build) (evs : List DevEvent) :
    ∀ d, run b d (evs.flatMap (DevEvent.parts b)) = run b d evs := by
  have hsingle : ∀ d ev, run b d [ev] = step b d ev := by
    intro d ev
    rw [run, List.foldlM_cons]
    cases step b d ev <;> rfl
  have hone : ∀ d ev, run b d (DevEvent.parts b ev) = step b d ev := by
    intro d ev
    cases ev with
    | frameHandle ok₁ ok₂ => exact (frameHandle_eq_run b ok₁ ok₂ d).symm
    | _ => exact hsingle d _
  induction evs with
  | nil => exact fun _ => rfl
  | cons ev evs ih =>
    intro d
    rw [List.flatMap_cons, run_append, hone, run, List.foldlM_cons]
    congr 1; funext e
    exact ih e

theorem ne_frameHandle_of_mem_parts {b : Build} {evs : List DevEvent} {ev : DevEvent}
    (h : ev ∈ evs.flatMap (DevEvent.parts b)) (ok₁ ok₂ : Bool) : ev ≠ .frameHandle ok₁ ok₂ := by
  obtain ⟨ev', -, hev⟩ := List.mem_flatMap.1 h
  cases ev' with
  | frameHandle o₁ o₂ => exact (ne_of_mem_frameHandleParts hev).2.2 ok₁ ok₂
  | _ =>
    cases List.mem_singleton.1 hev
    exact nofun

/-- The step is `SendTimerHandle`, and it calls `SendData(0)`. -/
def Resends (d : Dev) (ev : DevEvent) : Prop :=
  (∃ ok, ev = .sendTimerHandle ok) ∧ d.framesendtimer = true ∧
    d.framesendpara.resendcnt ≠ resendCnt

/-- Retransmissions in the states of a run are those of the command outstanding. -/
structure OnlyOutstanding (evs : List DevEvent) : Prop where
  /-- whatever step comes next, `SendData(0)` is called for a command outstanding -/
  outstanding : ∀ n d ev, run .old devParaInit (evs.take n) = .ok d → Resends d ev →
    d.datadown.state = 3
  /-- while none is, the UART gets nothing until the next command is sent -/
  done : ∀ i j d e, i ≤ j → run .old devParaInit (evs.take i) = .ok d →
    run .old devParaInit (evs.take j) = .ok e → e.hist.sent = d.hist.sent →
      d.datadown.state ≠ 3 → e.hist.uart = d.hist.uart
  /-- from the step that sends a command until the next is sent, it gets `1 + RESENDCNT` frames at
      most -/
  bounded : ∀ i j d d' e, i < j → run .old devParaInit (evs.take i) = .ok d →
    run .old devParaInit (evs.take (i + 1)) = .ok d' → run .old devParaInit (evs.take j) = .ok e →
      d'.hist.sent ≠ d.hist.sent → e.hist.sent = d'.hist.sent →
        e.hist.uart.length ≤ d.hist.uart.length + (1 + resendCnt)

section
variable {evs : List DevEvent} (hev : ∀ ev ∈ evs, ∀ ok₁ ok₂, ev ≠ .frameHandle ok₁ ok₂)
include hev

theorem resendcnt_run {n : ℕ} {d : Dev} (hd : run .old devParaInit (evs.take n) = .ok d) :
    d.framesendpara.resendcnt ≤ resendCnt := by
  have hrun : Post (run .old devParaInit (evs.take n)) (fun _ => True)
      fun d => d.framesendpara.resendcnt ≤ resendCnt := by
    refine Post.foldlM (fun ev hmem d hd => ?_) (Nat.zero_le _)
    cases he : step .old d ev with
    | error e => trivial
    | ok e => exact (retryStep_step (hev ev (List.mem_of_mem_take hmem)) he).resendcnt_le hd
  exact hrun.of_ok hd

theorem spends_run (hout : ∀ n d, run .old devParaInit (evs.take n) = .ok d → d.retry.Outstanding)
    {i j : ℕ} (hij : i ≤ j) {d e : Dev} (hd : run .old devParaInit (evs.take i) = .ok d)
    (he : run .old devParaInit (evs.take j) = .ok e) : d.retry.Spends e.retry := by
  refine prefixes_rel (R := fun d e : Dev => d.retry.Spends e.retry) (fun d => .refl _)
    (fun h h' => h.trans h') (fun n ev d e ha hd he => ?_) hij hd he
  exact (retryStep_step (hev ev (List.mem_of_getElem? ha)) he).spends (hout n d hd)
    (resendcnt_run hev hd)

theorem onlyOutstanding_of_outstanding
    (hout : ∀ n d, run .old devParaInit (evs.take n) = .ok d → d.retry.Outstanding) :
    OnlyOutstanding evs where
  outstanding n d ev hd hr := hout n d hd hr.2.1 hr.2.2
  done i j d e hij hd he hs hne := by
    have h := spends_run hev hout hij hd he
    have hb := h.budget (congrArg List.length hs)
    have h0 : d.retry.budget = 0 := Retry.budget_of_ne hne
    exact (h.uart.eq_of_length_le (by omega)).symm
  bounded i j d d' e hij hd hd' he hne hs := by
    have h := spends_run hev hout (show i + 1 ≤ j from hij) hd' he
    have hb := h.budget (congrArg List.length hs)
    have hle := d'.retry.budget_le
    rcases foldlM_take_succ_ok hd' with ⟨-, hd'⟩ | ⟨ev, d₀, ha, -, hd₀, hstep⟩
    · cases hd.symm.trans hd'
      exact absurd rfl hne
    · cases hd.symm.trans hd₀
      have hsend := (retryStep_step (hev ev (List.mem_of_getElem? ha)) hstep).sends hne
      change e.hist.uart.length + _ ≤ _ at hb
      omega

end

/-- All states of a run keep the timer to a command outstanding exactly if no step strands it. -/
theorem outstanding_iff {evs : List DevEvent}
    (hev : ∀ ev ∈ evs, ∀ ok₁ ok₂, ev ≠ .frameHandle ok₁ ok₂) :
    (∀ n d, run .old devParaInit (evs.take n) = .ok d → d.retry.Outstanding) ↔
      ∀ n ev d e, evs[n]? = some ev → run .old devParaInit (evs.take n) = .ok d →
        step .old d ev = .ok e → ¬ Strands d ev := by
  have h₀ : devParaInit.retry.Outstanding := fun h => by cases h
  exact prefixes_iff (I := fun _ d => d.retry.Outstanding) (f := step .old) h₀
    fun ev hmem _ _ _ hd he => (retryStep_step (hev ev hmem) he).outstanding hd

/-- **Retransmissions are those of the command outstanding**, in a run with `FrameHandle` in its
    parts, exactly if none of its steps strands the send timer. -/
theorem onlyOutstanding_iff (evs : List DevEvent) :
    OnlyOutstanding (evs.flatMap (DevEvent.parts .old)) ↔
      ∀ n ev d e, (evs.flatMap (DevEvent.parts .old))[n]? = some ev →
        run .old devParaInit ((evs.flatMap (DevEvent.parts .old)).take n) = .ok d →
          step .old d ev = .ok e → ¬ Strands d ev := by
  have hev : ∀ ev ∈ evs.flatMap (DevEvent.parts .old), ∀ ok₁ ok₂, ev ≠ .frameHandle ok₁ ok₂ :=
    fun ev h => ne_frameHandle_of_mem_parts h
  constructor
  · intro h
    exact (outstanding_iff hev).1 fun n d hd ht hn =>
      h.outstanding n d (.sendTimerHandle true) hd ⟨⟨_, rfl⟩, ht, hn⟩
  · intro h
    exact onlyOutstanding_of_outstanding hev ((outstanding_iff hev).2 h)

theorem RetryStep.resendcnt_datadownHandle {d : Dev} {ok : Bool} {r : Retry}
    (h : RetryStep d (.datadownHandle ok) r) : r.resendcnt = d.framesendpara.resendcnt := by
  cases h <;> rfl

/-- The first `FrameHandle` after `TimerTest` sends the query. -/
theorem frameHandle_timerTest :
    ∃ d, frameHandle .old true true (timerTest devParaInit) = .ok d ∧
      d.framesendpara.resendcnt = 0 := by
  have hrx : (timerTest devParaInit).rx = devParaInit.rx := sendStep_timerTest.rx
  have hretry : (timerTest devParaInit).retry = { devParaInit.retry with state := 2 } :=
    retry_timerTest
  obtain ⟨d, hd, -⟩ := datadownHandle_old true (d := timerTest devParaInit)
    (by rw [timerTest, sendData_dataDownWr]; exact sendReady_devParaInit)
  have hdataup : dataupHandle (timerTest devParaInit) = timerTest devParaInit := by
    refine if_neg ?_
    rw [show (timerTest devParaInit).dataup = devParaInit.dataup from congrArg Rx.dataup hrx]
    decide
  have hrevCmd : step .old (timerTest devParaInit) .revCmdHandle = .ok (timerTest devParaInit) := by
    rw [step, revCmdHandle]
    refine if_neg ?_
    rw [show (timerTest devParaInit).framerevpara = devParaInit.framerevpara from
      congrArg Rx.framerevpara hrx]
    decide
  have hrevTimer : step .old (timerTest devParaInit) .revTimerHandle =
      .ok (timerTest devParaInit) := by
    rw [step, revTimerHandle]
    refine if_neg ?_
    rw [sendStep_timerTest.framerevtimer]
    decide
  have hsendTimer : sendTimerHandle .old true (timerTest devParaInit) = some (timerTest devParaInit) := by
    refine if_neg ?_
    rw [show (timerTest devParaInit).framesendtimer = false from congrArg Retry.expired hretry]
    decide
  refine ⟨d, ?_, ?_⟩
  · have h₁ : step .old (timerTest devParaInit) .dataupHandle = .ok (timerTest devParaInit) := by
      rw [step, hdataup]
    have h₂ : step .old (timerTest devParaInit) (.sendTimerHandle true) =
        .ok (timerTest devParaInit) := by
      rw [step, hsendTimer]; rfl
    have h₃ : step .old (timerTest devParaInit) (.datadownHandle true) = .ok d := by
      rw [step, hd]; rfl
    rw [frameHandle_eq_run]
    change run .old (timerTest devParaInit)
      [.dataupHandle, .revCmdHandle, .revTimerHandle, .sendTimerHandle true, .datadownHandle true] = _
    rw [run_cons_ok h₁, run_cons_ok hrevCmd, run_cons_ok hrevTimer, run_cons_ok h₂, run_cons_ok h₃]
    rfl
  · exact (retryStep_datadownHandle hd).resendcnt_datadownHandle.trans (congrArg Retry.resendcnt hretry)

/-- The query of `TimerTest` is sent, the send timer expires, and `TimerTest` is called again
    before `FrameHandle`. -/
theorem timerTest_resends :
    ¬ OnlyOutstanding
      (([.timerTest, .frameHandle true true, .sendTimerUp, .timerTest] : List DevEvent).flatMap
        (DevEvent.parts .old)) := by
  intro h
  obtain ⟨d, hd, hc⟩ := frameHandle_timerTest
  have hr : (timerTest (sendTimerUp d)).retry = { (sendTimerUp d).retry with state := 2 } :=
    retry_timerTest
  have hrun : run .old devParaInit [.timerTest, .frameHandle true true, .sendTimerUp, .timerTest] =
      .ok (timerTest (sendTimerUp d)) := by
    rw [run_cons_ok (show step .old devParaInit .timerTest = .ok (timerTest devParaInit) from rfl),
      run_cons_ok (show step .old (timerTest devParaInit) (.frameHandle true true) = .ok d from hd)]
    rfl
  rw [← run_parts, ← List.take_length (l := List.flatMap _ _)] at hrun
  have h3 := h.outstanding _ _ (.sendTimerHandle true) hrun ⟨⟨_, rfl⟩, congrArg Retry.expired hr, by
    rw [show (timerTest (sendTimerUp d)).framesendpara.resendcnt = 0 from
      (congrArg Retry.resendcnt hr).trans hc]
    decide⟩
  have h2 : (timerTest (sendTimerUp d)).datadown.state = 2 := congrArg Retry.state hr
  rw [h2] at h3
  cases h3

end MxchipSpp
