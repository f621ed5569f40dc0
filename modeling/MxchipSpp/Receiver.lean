/-
  Runs of the device side, and what their steps can do to the receiver.

  Between two calls of `FrameDataHandle` the receiver only puts raw bytes
  behind the records or throws them away (`RawStep`); `RxInv` reduces an
  invariant of the receive functions to these two kinds of step.  The send
  functions leave the receiver alone (`Dev.rx`).
-/
import MxchipSpp.Lib.Outcome
import MxchipSpp.Control

namespace MxchipSpp

open Memory Outcome

/-! ## Raw bytes -/

/-- `e` is `d` after raw bytes were put behind the records, or thrown away. -/
structure RawStep (d e : Dev) : Prop where
  offset : e.framerevpara.offset = d.framerevpara.offset
  keep : d.framerevpara.offset ≤ d.framerevfifo.datalen →
    ∃ raw, e.framerevfifo.contents = d.framerevfifo.contents.take d.framerevpara.offset ++ raw
  rest : e = { d with
    framerevfifo := e.framerevfifo
    framerevpara := e.framerevpara
    framerevtimer := e.framerevtimer }

namespace RawStep
variable {d e f : Dev}

theorem le (h : RawStep d e) (hd : d.framerevpara.offset ≤ d.framerevfifo.datalen) :
    e.framerevpara.offset ≤ e.framerevfifo.datalen := by
  obtain ⟨raw, hr⟩ := h.keep hd
  rw [h.offset, ← Fifo.length_contents, hr]
  simp; omega

theorem take_offset (h : RawStep d e) (hd : d.framerevpara.offset ≤ d.framerevfifo.datalen) :
    e.framerevfifo.contents.take e.framerevpara.offset =
      d.framerevfifo.contents.take d.framerevpara.offset := by
  obtain ⟨raw, hr⟩ := h.keep hd
  rw [h.offset, hr, List.take_append_of_le_length (by simp; omega), List.take_take, Nat.min_self]

theorem trans (h : RawStep d e) (h' : RawStep e f) : RawStep d f := by
  refine ⟨h'.offset.trans h.offset, fun hd => ?_, ?_⟩
  · obtain ⟨raw, hr⟩ := h'.keep (h.le hd)
    exact ⟨raw, by rw [hr, h.take_offset hd]⟩
  · have h₁ := h.rest
    have h₂ := h'.rest
    rw [h₂, h₁]

/-- Changes of the receiver's variables, and of its timer, that leave the FIFO. -/
theorem of_para (h : e.framerevpara.offset = d.framerevpara.offset)
    (hf : e.framerevfifo = d.framerevfifo)
    (hr : e = { d with framerevpara := e.framerevpara, framerevtimer := e.framerevtimer }) :
    RawStep d e :=
  ⟨h, fun _ => ⟨_, by rw [hf, List.take_append_drop]⟩, by rw [hf]; exact hr⟩

theorem refl (d : Dev) : RawStep d d := of_para rfl rfl rfl

theorem setWordstate (n : ℕ) : RawStep d (d.setWordstate n) := of_para rfl rfl rfl

theorem setRevData : RawStep d d.setRevData := of_para rfl rfl rfl

theorem setError (n : ℕ) : RawStep d (d.setError n) := of_para rfl rfl rfl

theorem frameRevInit : RawStep d (frameRevInit d) := of_para rfl rfl rfl

theorem revTimerUp : RawStep d (revTimerUp d) := of_para rfl rfl rfl

theorem clearRevTimer : RawStep d d.clearRevTimer := of_para rfl rfl rfl

theorem push (x : Byte) : RawStep d (d.push x) := by
  refine ⟨rfl, fun _ => ?_, rfl⟩
  have h : (d.push x).framerevfifo.contents =
      if d.framerevfifo.datalen < revFifoLen then d.framerevfifo.contents ++ [x]
      else d.framerevfifo.contents := Fifo.contents_pushOneByte _ _
  rw [h]
  split_ifs
  · exact ⟨d.framerevfifo.contents.drop d.framerevpara.offset ++ [x], by
      rw [← List.append_assoc, List.take_append_drop]⟩
  · exact ⟨_, (List.take_append_drop _ _).symm⟩

theorem pushHeader (n : ℕ) : ∀ {d : Dev},
    RawStep d { d with framerevfifo := MxchipSpp.pushHeader n d.framerevfifo } := by
  induction n with
  | zero => exact fun {d} => refl d
  | succ n ih => exact fun {d} => (push frameHeader).trans ih

theorem flushWord : RawStep d (flushWord d) :=
  (pushHeader d.framerevpara.wordstate).trans (of_para rfl rfl rfl)

theorem dropPending : RawStep d d.dropPending := by
  refine ⟨rfl, fun hd => ⟨[], ?_⟩, rfl⟩
  have hl := d.framerevfifo.datalen_le
  have hp : u16 d.pending = d.framerevfifo.datalen - d.framerevpara.offset :=
    u16_eq (by unfold Dev.pending; omega)
      (by have : revFifoLen = 1024 := rfl; omega)
  rw [Dev.dropPending, Fifo.contents_deletHead, hp, List.append_nil]
  congr 1; omega

end RawStep

/-! ## Invariants of the receive functions -/

/-- An invariant of the receive functions: raw bytes keep it, and so does `FrameDataHandle`. -/
structure RxInv (b : Build) (E I : Dev → Prop) : Prop where
  raw : ∀ {d e}, I d → RawStep d e → I e
  frame : ∀ {d}, I d → Post (frameDataHandle b d) E I

namespace RxInv
variable {b : Build} {E I : Dev → Prop} {d : Dev}

theorem revByte (h : RxInv b E I) (hd : I d) (x : Byte) :
    Post (revByte b d x) E fun r => I r.1 := by
  unfold MxchipSpp.revByte
  cases d.framerevpara.datastate with
  | revHead =>
    simp only
    split_ifs
    · exact h.raw hd (((RawStep.setWordstate _).trans .flushWord).trans .setRevData)
    · exact h.raw hd (.setWordstate _)
    · exact h.raw hd (.setWordstate _)
  | revData =>
    simp only
    split_ifs
    · exact (h.frame (h.raw hd (.setWordstate _))).bind fun e he => h.raw he .flushWord
    · exact h.raw hd (.setWordstate _)
    · exact h.raw hd ((RawStep.dropPending.trans (.setError _)).trans .frameRevInit)
    · exact h.raw hd (RawStep.flushWord.trans (.push x))

theorem revBytes (h : RxInv b E I) (xs : List Byte) :
    ∀ {d : Dev}, I d → Post (revBytes b d xs) E I := by
  induction xs with
  | nil => exact fun hd => hd
  | cons x xs ih =>
    intro d hd
    refine (h.revByte hd x).bind fun r hr => ?_
    obtain ⟨e, more⟩ := r
    cases more
    · exact hr
    · exact ih hr

theorem revDataWrFifo (h : RxInv b E I) (hd : I d) (data : List Byte) :
    Post (revDataWrFifo b d data) E I := h.revBytes _ hd

theorem revTimerUp (h : RxInv b E I) (hd : I d) : I (revTimerUp d) := h.raw hd .revTimerUp

theorem revTimerHandle (h : RxInv b E I) (hd : I d) : Post (revTimerHandle b d) E I := by
  unfold MxchipSpp.revTimerHandle
  split_ifs
  · exact h.frame (h.raw hd .clearRevTimer)
  · exact hd

end RxInv

/-! ## The send functions leave the receiver alone -/

/-- The variables of the receiver, and what its history says. -/
structure Rx where
  framerevfifo : Fifo revFifoLen
  framerevpara : FrameRevPara
  dataup : DataInterfaceStu
  revCmd : RevCmdStatics
  calls : List FdhCall
  accepted : List (List Byte)
  delivered : List (List Byte)

def Dev.rx (d : Dev) : Rx :=
  ⟨d.framerevfifo, d.framerevpara, d.dataup, d.revCmd, d.hist.calls, d.hist.accepted,
    d.hist.delivered⟩

section
variable {b : Build} {ok first : Bool} {d e : Dev}

/-- `e` is `d` after a function of the send side. -/
def SendStep (d e : Dev) : Prop :=
  e = { d with
    datadown := e.datadown
    framesendtimer := e.framesendtimer
    sendTimerStarted := e.sendTimerStarted
    framesendpara := e.framesendpara
    sendData := e.sendData
    hist.taken := e.hist.taken
    hist.sent := e.hist.sent
    hist.uart := e.hist.uart }

theorem SendStep.trans {f : Dev} (h : SendStep d e) (h' : SendStep e f) : SendStep d f := by
  unfold SendStep at *
  rw [h', h]

theorem SendStep.rx (h : SendStep d e) : e.rx = d.rx := by
  rw [h]; rfl

theorem SendStep.framerevtimer (h : SendStep d e) : e.framerevtimer = d.framerevtimer := by
  rw [h]

/-- `SendData` changes its buffer, and gives a frame to the UART if it succeeds. -/
theorem sendData_cases {r : Dev × Bool} (h : sendData b first ok d = some r) :
    ∃ sendData, r = ({ d with sendData }, false) ∨
      ∃ frame, r = ({ d with sendData, hist.uart := d.hist.uart ++ [frame] }, true) := by
  have hwr : ∀ {d : Dev}, wrUartBuf ok d = some r →
      r = (d, false) ∨ ∃ frame, r = ({ d with hist.uart := d.hist.uart ++ [frame] }, true) := by
    intro d h
    obtain ⟨frame, -, rfl⟩ := Option.map_eq_some_iff.1 h
    split_ifs
    · exact Or.inr ⟨frame, rfl⟩
    · exact Or.inl rfl
  unfold sendData at h
  split_ifs at h
  · obtain ⟨p, -, h⟩ := Option.bind_eq_some_iff.1 h
    exact ⟨⟨p.2, p.1⟩, hwr h⟩
  · exact ⟨d.sendData, hwr h⟩

theorem sendStep_sendData {r : Dev × Bool} (h : sendData b first ok d = some r) : SendStep d r.1 := by
  obtain ⟨s, rfl | ⟨frame, rfl⟩⟩ := sendData_cases h <;> rfl

theorem sendStep_dataDownWr (data : List Byte) : SendStep d (dataDownWr d data).1 := by
  unfold dataDownWr; split_ifs <;> rfl

theorem sendStep_timerTest : SendStep d (timerTest d) := by
  have h₁ : SendStep d (d.setDatadownState 0) := rfl
  exact h₁.trans (sendStep_dataDownWr _)

theorem sendStep_sendTimerHandle (h : sendTimerHandle b ok d = some e) : SendStep d e := by
  unfold sendTimerHandle at h
  split_ifs at h
  · obtain ⟨r, hr, rfl⟩ := Option.map_eq_some_iff.1 h
    have h₁ : SendStep d { d with
        framesendtimer := false
        framesendpara.resendcnt := u8 (d.framesendpara.resendcnt + 1) } := rfl
    exact h₁.trans (sendStep_sendData hr)
  · cases h; rfl
  · cases h; rfl

theorem sendStep_datadownSent : SendStep d (datadownSent b d) := by
  have hstart : ∀ x, SendStep d (d.setDatadownState x).startSendTimer := fun _ => rfl
  have hstop : ∀ x, SendStep d (d.setDatadownState x).stopSendTimer := fun _ => rfl
  unfold datadownSent
  cases b with
  | old =>
    simp only
    split_ifs
    · exact hstart _
    · exact (hstop _).trans (sendStep_dataDownWr _)
  | new f => simp only; split_ifs <;> rfl

theorem sendStep_datadownHandle (h : datadownHandle b ok d = some e) : SendStep d e := by
  unfold datadownHandle at h
  split_ifs at h
  · obtain ⟨r, hr, rfl⟩ := Option.map_eq_some_iff.1 h
    have h₁ := sendStep_sendData hr
    split_ifs
    · have h₂ : SendStep r.1 r.1.noteSent := rfl
      exact (h₁.trans h₂).trans sendStep_datadownSent
    · exact h₁
  · cases h; rfl

theorem sendCmdHandle_cases (d : Dev) :
    sendCmdHandle d = d ∨ d.datadown.state = 0 ∧ ∃ data clear, sendCmdHandle d = reply d data clear := by
  unfold sendCmdHandle
  split_ifs with h <;> first | exact Or.inl rfl | exact Or.inr ⟨h, _, _, rfl⟩

theorem sendStep_sendCmdHandle : SendStep d (sendCmdHandle d) := by
  rcases sendCmdHandle_cases d with h | ⟨-, data, clear, h⟩
  · rw [h]; rfl
  · rw [h, reply]
    have h₁ := sendStep_dataDownWr (d := d) data
    have h₂ : ∀ e : Dev, SendStep e { e with framesendpara.sendcmd := clear e.framesendpara.sendcmd } :=
      fun _ => rfl
    simp only
    split_ifs
    · exact h₁.trans (h₂ _)
    · exact h₁

end

/-! ## Records taken out -/

section
variable {d e : Dev}

/-- `e` is `d` after a function that takes records out of the FIFO or of `dataup`. -/
structure TakeStep (d e : Dev) : Prop where
  offset : e.framerevpara.offset = d.framerevpara.offset ∨ e.framerevpara.offset < 65536
  rest : e = { d with
    framerevfifo := e.framerevfifo
    framerevpara := e.framerevpara
    dataup := e.dataup
    datadown := e.datadown
    sendTimerStarted := e.sendTimerStarted
    framesendpara := e.framesendpara
    revCmd := e.revCmd
    hist.delivered := e.hist.delivered }

namespace TakeStep

theorem refl (d : Dev) : TakeStep d d := ⟨Or.inl rfl, rfl⟩

theorem trans {f : Dev} (h : TakeStep d e) (h' : TakeStep e f) : TakeStep d f := by
  refine ⟨?_, ?_⟩
  · rcases h'.offset with ho | ho
    · rw [ho]; exact h.offset
    · exact Or.inr ho
  · have h₁ := h.rest
    have h₂ := h'.rest
    rw [h₂, h₁]

theorem sendData (h : TakeStep d e) : e.sendData = d.sendData := by
  rw [h.rest]

theorem calls (h : TakeStep d e) : e.hist.calls = d.hist.calls := by
  rw [h.rest]

end TakeStep

theorem takeStep_dataupHandle : TakeStep d (dataupHandle d) := by
  unfold dataupHandle; split_ifs <;> exact ⟨Or.inl rfl, rfl⟩

theorem takeStep_revCmdSwitch : TakeStep d (revCmdSwitch d) := by
  unfold revCmdSwitch stopResend
  split_ifs <;> exact ⟨Or.inl rfl, rfl⟩

theorem takeStep_revCmdCopy : Post (revCmdCopy d) (TakeStep d) (TakeStep d) := by
  unfold revCmdCopy
  split_ifs
  · cases d.dataup.write 0 (d.framerevfifo.copy 0 d.revCmd.templen) <;> exact ⟨Or.inl rfl, rfl⟩
  · exact .refl d

theorem takeStep_revCmdDelete : TakeStep d (revCmdDelete d) := by
  unfold revCmdDelete
  split_ifs
  · exact ⟨Or.inr (u16_lt _), rfl⟩
  · exact .refl d

theorem takeStep_revCmdHandle : Post (revCmdHandle d) (TakeStep d) (TakeStep d) := by
  have hcopy : ∀ {d' : Dev}, TakeStep d d' →
      Post (revCmdCopy d' >>= fun e => pure (revCmdDelete e)) (TakeStep d) (TakeStep d) := fun h =>
    (takeStep_revCmdCopy.mono (fun _ h' => h.trans h') fun _ h' => h.trans h').bind fun e he =>
      he.trans takeStep_revCmdDelete
  have hread : TakeStep d (revCmdRead d) := ⟨Or.inl rfl, rfl⟩
  unfold revCmdHandle
  split_ifs
  · exact hcopy (hread.trans takeStep_revCmdSwitch)
  · exact hcopy (.refl d)
  · exact .refl d

end

/-! ## The receive functions leave the sender alone -/

/-- The variables of the sender, and what its history says. -/
structure Tx where
  datadown : DataInterfaceStu
  framesendtimer : Bool
  sendTimerStarted : Bool
  framesendpara : FrameSendPara
  sendData : SendDataStatics
  taken : List (List Byte)
  sent : List (List Byte)
  uart : List (List Byte)

def Dev.tx (d : Dev) : Tx :=
  ⟨d.datadown, d.framesendtimer, d.sendTimerStarted, d.framesendpara, d.sendData, d.hist.taken,
    d.hist.sent, d.hist.uart⟩

section
variable {b : Build} {d e : Dev} {t : Tx}

/-- `e` is `d` after a function that works on a frame. -/
def FrameStep (d e : Dev) : Prop :=
  e = { d with
    framerevfifo := e.framerevfifo
    framerevpara := e.framerevpara
    laststate := e.laststate
    hist.accepted := e.hist.accepted }

theorem FrameStep.trans {f : Dev} (h : FrameStep d e) (h' : FrameStep e f) : FrameStep d f := by
  unfold FrameStep at *
  rw [h', h]

theorem frameStep_inputRecord {buf : Block Byte 136} (h : inputRecord d buf = some e) :
    FrameStep d e := by
  simp only [inputRecord, Option.bind_eq_bind, Option.pure_def] at h
  obtain ⟨src, -, h⟩ := Option.bind_eq_some_iff.1 h
  obtain ⟨⟨taken, fifo⟩, -, h⟩ := Option.bind_eq_some_iff.1 h
  cases taken <;> cases h <;> rfl

theorem frameStep_endHandle {n : ℕ} {buf : Block Byte 136} (h : endHandle d n buf = some e) :
    FrameStep d e := by
  unfold endHandle at h
  split_ifs at h
  · have h₁ : FrameStep d (d.setError 4) := rfl
    exact h₁.trans (frameStep_inputRecord h)
  · cases h; rfl

theorem frameStep_oldToNew {buf : Block Byte 136} {old : Block Byte 250} {r : Dev × Block Byte 136}
    (h : oldToNew d buf old = some r) : FrameStep d r.1 := by
  simp only [oldToNew, Option.bind_eq_bind, Option.pure_def] at h
  split_ifs at h
  · obtain ⟨buf₁, -, h⟩ := Option.bind_eq_some_iff.1 h
    obtain ⟨d₁, hd₁, h⟩ := Option.bind_eq_some_iff.1 h
    simp only [Option.bind_some] at h
    obtain ⟨buf₂, -, h⟩ := Option.bind_eq_some_iff.1 h
    cases h
    exact frameStep_inputRecord hd₁
  · simp only [Option.bind_some] at h
    obtain ⟨buf₁, -, h⟩ := Option.bind_eq_some_iff.1 h
    cases h; rfl

theorem frameStep_frameDataOld {old : Block Byte 250} {n : ℕ} (h : frameDataOld d old n = some e) :
    FrameStep d e := by
  simp only [frameDataOld, Option.bind_eq_bind] at h
  obtain ⟨hi, -, h⟩ := Option.bind_eq_some_iff.1 h
  obtain ⟨lo, -, h⟩ := Option.bind_eq_some_iff.1 h
  obtain ⟨body, -, h⟩ := Option.bind_eq_some_iff.1 h
  split_ifs at h
  · exact frameStep_endHandle h
  · obtain ⟨src, -, h⟩ := Option.bind_eq_some_iff.1 h
    obtain ⟨laststate, -, h⟩ := Option.bind_eq_some_iff.1 h
    obtain ⟨⟨d', buf⟩, hn, h⟩ := Option.bind_eq_some_iff.1 h
    have h₁ : FrameStep d (d.setLaststate laststate) := rfl
    exact (h₁.trans (frameStep_oldToNew hn)).trans (frameStep_endHandle h)

theorem frameStep_frameDataNew {f : Bool} {raw : Block Byte 250} {n : ℕ}
    (h : frameDataNew f d raw n = some e) : FrameStep d e := by
  simp only [frameDataNew, Option.bind_eq_bind] at h
  obtain ⟨buf₁, -, h⟩ := Option.bind_eq_some_iff.1 h
  obtain ⟨buf₂, -, h⟩ := Option.bind_eq_some_iff.1 h
  obtain ⟨r, -, h⟩ := Option.bind_eq_some_iff.1 h
  obtain ⟨hi, -, h⟩ := Option.bind_eq_some_iff.1 h
  obtain ⟨buf₃, -, h⟩ := Option.bind_eq_some_iff.1 h
  obtain ⟨lo, -, h⟩ := Option.bind_eq_some_iff.1 h
  obtain ⟨buf₄, -, h⟩ := Option.bind_eq_some_iff.1 h
  split_ifs at h
  · exact frameStep_endHandle h
  all_goals first
    | exact frameStep_endHandle h
    | obtain ⟨body, -, h⟩ := Option.bind_eq_some_iff.1 h; exact frameStep_endHandle h

/-- `FrameDataHandle` ends with `FrameRevInit`. -/
theorem frameData_eq_some (h : frameData b d = some e) : ∃ e', FrameStep d e' ∧ e = frameRevInit e' := by
  simp only [frameData, Option.bind_eq_bind, Option.pure_def] at h
  obtain ⟨buf, -, h⟩ := Option.bind_eq_some_iff.1 h
  have h₁ : FrameStep d d.dropRaw := rfl
  cases b with
  | old =>
    obtain ⟨e', he', h⟩ := Option.bind_eq_some_iff.1 h
    cases h
    exact ⟨e', h₁.trans (frameStep_frameDataOld he'), rfl⟩
  | new f =>
    obtain ⟨e', he', h⟩ := Option.bind_eq_some_iff.1 h
    cases h
    exact ⟨e', h₁.trans (frameStep_frameDataNew he'), rfl⟩

theorem frameData_revHead (h : frameData b d = some e) :
    e.framerevpara.datastate = .revHead ∧ e.framerevpara.wordstate = 0 := by
  obtain ⟨e', -, rfl⟩ := frameData_eq_some h
  exact ⟨rfl, rfl⟩

theorem calls_frameData (h : frameData b d = some e) : e.hist.calls = d.hist.calls := by
  obtain ⟨e', he', rfl⟩ := frameData_eq_some h
  change e'.hist.calls = _
  rw [he']

/-- `e` is `d` after a call of `FrameDataHandle`. -/
def FrameCall (d e : Dev) : Prop := ∃ e' after, FrameStep d e' ∧ e = e'.noteCall d.pending after

theorem frameCall_frameDataHandle :
    Post (frameDataHandle b d) (FrameCall d) fun e =>
      FrameCall d e ∧ e.framerevpara.datastate = .revHead ∧ e.framerevpara.wordstate = 0 := by
  unfold frameDataHandle
  cases hf : frameData b d with
  | none => exact ⟨d, none, rfl, rfl⟩
  | some e =>
    obtain ⟨e', he', rfl⟩ := frameData_eq_some hf
    have h₁ : FrameStep e' (frameRevInit e') := rfl
    exact ⟨⟨_, _, he'.trans h₁, rfl⟩, rfl, rfl⟩

theorem FrameCall.tx (h : FrameCall d e) : e.tx = d.tx := by
  obtain ⟨e', after, he', rfl⟩ := h
  rw [he']; rfl

theorem FrameCall.framerevtimer (h : FrameCall d e) : e.framerevtimer = d.framerevtimer := by
  obtain ⟨e', after, he', rfl⟩ := h
  change e'.framerevtimer = _
  rw [he']

theorem RawStep.tx (h : RawStep d e) : e.tx = d.tx := by
  rw [h.rest]; rfl

theorem rxInv_tx : RxInv b (fun e => e.tx = t) fun d => d.tx = t where
  raw hd h := h.tx.trans hd
  frame {d} hd := (frameCall_frameDataHandle (b := b) (d := d)).mono (fun _ h => h.tx.trans hd)
    fun _ h => h.1.tx.trans hd

theorem tx_dataupHandle : (dataupHandle d).tx = d.tx := by
  unfold dataupHandle; split_ifs <;> rfl

/-- Of `RevCmdHandle`, only the `switch` works on the sender. -/
theorem tx_revCmdHandle :
    Post (revCmdHandle d) (fun _ => True) fun e =>
      e.tx = (if d.framerevpara.offset ≠ 0 ∧ d.revCmd.cmd = 0 then revCmdSwitch (revCmdRead d)
        else d).tx := by
  have hrest : ∀ d : Dev, Post (revCmdCopy d >>= fun e => pure (revCmdDelete e)) (fun _ => True)
      fun e => e.tx = d.tx := by
    intro d
    have hcopy : Post (revCmdCopy d) (fun _ => True) fun e => e.tx = d.tx := by
      unfold revCmdCopy
      split_ifs
      · cases d.dataup.write 0 (d.framerevfifo.copy 0 d.revCmd.templen)
        · trivial
        · rfl
      · rfl
    refine hcopy.bind fun e he => ?_
    have hdelete : (revCmdDelete e).tx = e.tx := by
      unfold revCmdDelete
      split_ifs <;> rfl
    exact hdelete.trans he
  rw [revCmdHandle]
  by_cases ho : d.framerevpara.offset ≠ 0
  · rw [if_pos ho]
    by_cases hc : d.revCmd.cmd = 0
    · rw [if_pos hc, if_pos ⟨ho, hc⟩]
      exact hrest _
    · rw [if_neg hc, if_neg fun h => hc h.2]
      exact hrest _
  · rw [if_neg ho, if_neg fun h => ho h.1]
    rfl

end

/-! ## Runs -/

/-- The steps of the device side: calls from the UART thread, callbacks of the RTOS, calls from
    the network, and the parts of `FrameHandle`. -/
inductive DevEvent where
  | rev (data : List Byte)
  | revTimerUp
  | sendTimerUp
  | timerTest
  | dataDownWr (data : List Byte)
  | dataupHandle
  | revCmdHandle
  | revTimerHandle
  | sendTimerHandle (ok : Bool)
  | datadownHandle (ok : Bool)
  | sendCmdHandle
  | frameHandle (ok₁ ok₂ : Bool)

/-- One step. -/
def step (b : Build) (d : Dev) : DevEvent → Except Dev Dev
  | .rev data => revDataWrFifo b d data
  | .revTimerUp => .ok (revTimerUp d)
  | .sendTimerUp => .ok (sendTimerUp d)
  | .timerTest => .ok (timerTest d)
  | .dataDownWr data => .ok (dataDownWr d data).1
  | .dataupHandle => .ok (dataupHandle d)
  | .revCmdHandle => revCmdHandle d
  | .revTimerHandle => revTimerHandle b d
  | .sendTimerHandle ok => orFault d (sendTimerHandle b ok d)
  | .datadownHandle ok => orFault d (datadownHandle b ok d)
  | .sendCmdHandle => .ok (sendCmdHandle d)
  | .frameHandle ok₁ ok₂ => frameHandle b ok₁ ok₂ d

theorem orFault_eq_ok {d e : Dev} {x : Option Dev} (h : orFault d x = .ok e) : x = some e := by
  cases x with
  | none => cases h
  | some e' => cases h; rfl

theorem post_orFault {d : Dev} {x : Option Dev} {E P : Dev → Prop} (hd : E d)
    (hx : ∀ e, x = some e → P e) : Post (orFault d x) E P := by
  cases x with
  | none => exact hd
  | some e => exact hx e rfl

/-- A run. -/
def run (b : Build) (d : Dev) (evs : List DevEvent) : Except Dev Dev := evs.foldlM (step b) d

/-- The parts of `FrameHandle`, in order. -/
def frameHandleParts (b : Build) (ok₁ ok₂ : Bool) : List DevEvent :=
  [.dataupHandle, .revCmdHandle, .revTimerHandle, .sendTimerHandle ok₁, .datadownHandle ok₂] ++
    match b with
    | .old => []
    | .new _ => [.sendCmdHandle]

/-- `FrameHandle` is the run of its parts. -/
theorem frameHandle_eq_run (b : Build) (ok₁ ok₂ : Bool) (d : Dev) :
    frameHandle b ok₁ ok₂ d = run b d (frameHandleParts b ok₁ ok₂) := by
  cases b <;>
    simp only [frameHandle, run, frameHandleParts, List.cons_append, List.nil_append,
      List.append_nil, List.foldlM_cons, List.foldlM_nil, step] <;> rfl

/-- The parts are not steps of another thread, nor `FrameHandle` itself. -/
theorem ne_of_mem_frameHandleParts {b : Build} {ok₁ ok₂ : Bool} {ev : DevEvent}
    (h : ev ∈ frameHandleParts b ok₁ ok₂) :
    (∀ data, ev ≠ .rev data) ∧ ev ≠ .revTimerUp ∧ ∀ o₁ o₂, ev ≠ .frameHandle o₁ o₂ := by
  refine ⟨?_, ?_, ?_⟩ <;> intros <;> rintro rfl <;> cases b <;> simp [frameHandleParts] at h

/-- An invariant of the parts of `FrameHandle` and of the other steps is one of all steps. -/
theorem post_step {b : Build} {E I : Dev → Prop}
    (h : ∀ ev, (∀ ok₁ ok₂, ev ≠ .frameHandle ok₁ ok₂) → ∀ d, I d → Post (step b d ev) E I)
    (ev : DevEvent) {d : Dev} (hd : I d) : Post (step b d ev) E I := by
  cases ev with
  | frameHandle ok₁ ok₂ =>
    rw [step, frameHandle_eq_run]
    exact Post.foldlM (fun ev hev d hd => h ev (ne_of_mem_frameHandleParts hev).2.2 d hd) hd
  | _ => exact h _ (by rintro o₁ o₂ h; cases h) d hd

/-! ## Invariants of all steps, in the active build -/

section
variable {ok first : Bool} {d : Dev}

@[simp] theorem sendData_dataDownWr (data : List Byte) :
    (dataDownWr d data).1.sendData = d.sendData := by
  unfold dataDownWr; split_ifs <;> rfl

theorem sendTimerHandle_old (ok : Bool) (h : SendReady d.sendData) :
    ∃ e, sendTimerHandle .old ok d = some e ∧ SendReady e.sendData := by
  unfold sendTimerHandle
  split_ifs
  · obtain ⟨r, hr, hs⟩ := sendData_old false ok
      (d := { d with
        framesendtimer := false
        framesendpara.resendcnt := u8 (d.framesendpara.resendcnt + 1) }) h
    exact ⟨r.1, by rw [hr]; rfl, hs⟩
  · exact ⟨_, rfl, h⟩
  · exact ⟨_, rfl, h⟩

theorem datadownHandle_old (ok : Bool) (h : SendReady d.sendData) :
    ∃ e, datadownHandle .old ok d = some e ∧ SendReady e.sendData := by
  unfold datadownHandle
  split_ifs
  · obtain ⟨r, hr, hs⟩ := sendData_old true ok h
    refine ⟨_, by rw [hr]; rfl, ?_⟩
    simp only
    split_ifs
    · unfold datadownSent
      simp only
      split_ifs
      · exact hs
      · rw [sendData_dataDownWr]; exact hs
    · exact hs
  · exact ⟨d, rfl, h⟩

theorem sendData_sendCmdHandle : (sendCmdHandle d).sendData = d.sendData := by
  rcases sendCmdHandle_cases d with h | ⟨-, data, clear, h⟩
  · rw [h]
  · rw [h, reply]
    have h₁ := sendData_dataDownWr (d := d) data
    simp only
    split_ifs <;> exact h₁

theorem sendReady_devParaInit : SendReady devParaInit.sendData := ⟨Nat.zero_le _, _, rfl⟩

/-- An invariant of the receiver's variables that all steps keep. -/
structure DevInv (E : Dev → Prop) (J : Rx → Prop) : Prop where
  rx : RxInv .old E fun d => J d.rx
  dataup : ∀ {d : Dev}, J d.rx → J (dataupHandle d).rx
  revCmd : ∀ {d : Dev}, J d.rx → Post (revCmdHandle d) E fun e => J e.rx

theorem DevInv.step {E : Dev → Prop} {J : Rx → Prop} (h : DevInv E J) (ev : DevEvent)
    (hd : J d.rx ∧ SendReady d.sendData) :
    Post (step .old d ev) E fun e => J e.rx ∧ SendReady e.sendData := by
  refine post_step (fun ev hev d ⟨hd, hi⟩ => ?_) ev hd
  -- the receive functions keep what the sender has
  have htx : ∀ {x : Except Dev Dev}, Post x (fun e => e.tx = d.tx) (fun e => e.tx = d.tx) →
      Post x E (fun e => J e.rx) → Post x E fun e => J e.rx ∧ SendReady e.sendData := by
    intro x h₁ h₂
    refine (h₂.and h₁).mono (fun _ h => h) fun e ⟨h₃, h₄⟩ => ⟨h₃, ?_⟩
    rw [show e.sendData = d.sendData from congrArg Tx.sendData h₄]
    exact hi
  have hkeep : ∀ {e : Dev}, e.rx = d.rx → SendReady e.sendData →
      J e.rx ∧ SendReady e.sendData := fun h₁ h₂ => ⟨h₁ ▸ hd, h₂⟩
  cases ev with
  | rev data => exact htx (rxInv_tx.revDataWrFifo rfl data) (h.rx.revDataWrFifo hd data)
  | revTimerUp => exact ⟨h.rx.revTimerUp hd, hi⟩
  | sendTimerUp => exact ⟨hd, hi⟩
  | timerTest => exact hkeep sendStep_timerTest.rx (by rw [timerTest, sendData_dataDownWr]; exact hi)
  | dataDownWr data => exact hkeep (sendStep_dataDownWr data).rx (by rw [sendData_dataDownWr]; exact hi)
  | dataupHandle => exact ⟨h.dataup hd, by rw [takeStep_dataupHandle.sendData]; exact hi⟩
  | revCmdHandle =>
    refine ((h.revCmd hd).and takeStep_revCmdHandle).mono (fun _ h => h) fun e he => ⟨he.1, ?_⟩
    rw [he.2.sendData]; exact hi
  | revTimerHandle => exact htx (rxInv_tx.revTimerHandle rfl) (h.rx.revTimerHandle hd)
  | sendTimerHandle ok =>
    obtain ⟨e, he, hs⟩ := sendTimerHandle_old ok hi
    rw [MxchipSpp.step, he]
    exact hkeep (sendStep_sendTimerHandle he).rx hs
  | datadownHandle ok =>
    obtain ⟨e, he, hs⟩ := datadownHandle_old ok hi
    rw [MxchipSpp.step, he]
    exact hkeep (sendStep_datadownHandle he).rx hs
  | sendCmdHandle => exact hkeep sendStep_sendCmdHandle.rx (by rw [sendData_sendCmdHandle]; exact hi)
  | frameHandle ok₁ ok₂ => exact absurd rfl (hev ok₁ ok₂)

/-- **The run rule of the device side.** -/
theorem DevInv.run {E : Dev → Prop} {J : Rx → Prop} (h : DevInv E J) (h₀ : J devParaInit.rx)
    (evs : List DevEvent) : Post (run .old devParaInit evs) E fun e => J e.rx :=
  (Post.foldlM (fun ev _ _ hd => h.step ev hd) ⟨h₀, sendReady_devParaInit⟩).mono (fun _ h => h)
    fun _ h => h.1

/-- `SendData` finds its static variables as it needs them, in every run. -/
theorem sendReady_run {evs : List DevEvent} (h : run .old devParaInit evs = .ok d) :
    SendReady d.sendData := by
  have hinv : DevInv (fun _ => True) fun _ => True :=
    ⟨⟨fun _ _ => trivial, fun _ => post_true _⟩, fun _ => trivial, fun _ => post_true _⟩
  have hrun : Post (run .old devParaInit evs) (fun _ => True) fun e => True ∧ SendReady e.sendData :=
    Post.foldlM (fun ev _ _ hd => hinv.step ev hd) ⟨trivial, sendReady_devParaInit⟩
  rw [h] at hrun
  exact hrun.2

end

end MxchipSpp
