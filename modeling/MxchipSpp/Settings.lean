/-
  The settings of the device, from its status frames to the control frames
  (`OLD`).

  `laststate` changes only where `FrameDataHandle` accepts a frame.  The calls
  of `FrameDataHandle` in a run are listed by `callsRun`; what is folded over
  them is known at the end of the run (`CallFold.run`), so that `laststate` is
  that of the last frame accepted.
-/
import MxchipSpp.FrameData
import MxchipSpp.Receiver

namespace MxchipSpp

open Memory Outcome

/-! ## The calls of `FrameDataHandle` -/

/-- The state in which a byte makes `RevDataWrFifo` call `FrameDataHandle`, if it does. -/
def callsByte (b : Build) (d : Dev) (x : Byte) : List Dev :=
  let wordstate := u8 (d.framerevpara.wordstate + 1)
  if d.framerevpara.datastate = .revData ∧ x = frameHeader ∧ wordstate = headNumer b then
    [d.setWordstate wordstate]
  else []

def callsBytes (b : Build) : Dev → List Byte → List Dev
  | _, [] => []
  | d, x :: xs =>
    callsByte b d x ++
      match revByte b d x with
      | .ok (e, true) => callsBytes b e xs
      | _ => []

def callsTimer (d : Dev) : List Dev := if d.framerevtimer then [d.clearRevTimer] else []

def callsStep (b : Build) (d : Dev) : DevEvent → List Dev
  | .rev data => callsBytes b d (data.take (u8 data.length))
  | .revTimerHandle => callsTimer d
  | .frameHandle _ _ =>
    match revCmdHandle (dataupHandle d) with
    | .ok e => callsTimer e
    | .error _ => []
  | _ => []

/-- The states in which a run calls `FrameDataHandle`. -/
def callsRun (b : Build) : Dev → List DevEvent → List Dev
  | _, [] => []
  | d, ev :: evs =>
    callsStep b d ev ++
      match step b d ev with
      | .ok e => callsRun b e evs
      | .error _ => []

/-- `φ` changes only where `FrameDataHandle` is called, and there by `g`. -/
structure CallFold {α : Type} (b : Build) (φ : Dev → α) (g : α → Dev → α) : Prop where
  raw : ∀ {d e}, RawStep d e → φ e = φ d
  send : ∀ {d e}, SendStep d e → φ e = φ d
  take : ∀ {d e}, TakeStep d e → φ e = φ d
  frame : ∀ {d e}, frameDataHandle b d = .ok e → φ e = g (φ d) d

namespace CallFold
variable {α : Type} {b : Build} {φ : Dev → α} {g : α → Dev → α} {d e : Dev}

theorem revByte (h : CallFold b φ g) {x : Byte} {more : Bool} (hx : revByte b d x = .ok (e, more)) :
    φ e = (callsByte b d x).foldl g (φ d) := by
  unfold MxchipSpp.revByte at hx
  unfold callsByte
  cases hds : d.framerevpara.datastate with
  | revHead =>
    rw [hds] at hx
    rw [if_neg (by simp)]
    simp only at hx
    split_ifs at hx <;> cases hx
    · exact h.raw (((RawStep.setWordstate _).trans .flushWord).trans .setRevData)
    · exact h.raw (.setWordstate _)
    · exact h.raw (.setWordstate _)
  | revData =>
    rw [hds] at hx
    simp only at hx
    split_ifs at hx with h₁ h₂ h₃
    · rw [if_pos ⟨rfl, h₁, h₂⟩]
      obtain ⟨e', hf, hx⟩ := exists_of_bind_eq_ok hx
      cases hx
      rw [h.raw .flushWord, h.frame hf, h.raw (RawStep.setWordstate _)]
      rfl
    · cases hx
      rw [if_neg fun hc => h₂ hc.2.2]
      exact h.raw (.setWordstate _)
    · cases hx
      rw [if_neg fun hc => h₁ hc.2.1]
      exact h.raw ((RawStep.dropPending.trans (.setError _)).trans .frameRevInit)
    · cases hx
      rw [if_neg fun hc => h₁ hc.2.1]
      exact h.raw (RawStep.flushWord.trans (.push x))

theorem revBytes (h : CallFold b φ g) (xs : List Byte) : ∀ {d : Dev},
    revBytes b d xs = .ok e → φ e = (callsBytes b d xs).foldl g (φ d) := by
  induction xs with
  | nil => intro d hx; cases hx; rfl
  | cons x xs ih =>
    intro d hx
    obtain ⟨⟨e₁, more⟩, hb, hx⟩ := exists_of_bind_eq_ok hx
    rw [callsBytes, hb, List.foldl_append, ← h.revByte hb]
    cases more with
    | false => cases hx; rfl
    | true => exact ih hx

theorem revTimerHandle (h : CallFold b φ g) (hx : revTimerHandle b d = .ok e) :
    φ e = (callsTimer d).foldl g (φ d) := by
  unfold MxchipSpp.revTimerHandle at hx
  unfold callsTimer
  split_ifs at hx ⊢ with ht
  · rw [h.frame hx, h.raw RawStep.clearRevTimer]
    rfl
  · cases hx
    rfl

theorem step (h : CallFold b φ g) {ev : DevEvent} (hx : step b d ev = .ok e) :
    φ e = (callsStep b d ev).foldl g (φ d) := by
  cases ev with
  | rev data => exact h.revBytes _ hx
  | revTimerUp => cases hx; exact h.raw .revTimerUp
  | sendTimerUp => cases hx; exact h.send rfl
  | timerTest => cases hx; exact h.send sendStep_timerTest
  | dataDownWr data => cases hx; exact h.send (sendStep_dataDownWr data)
  | dataupHandle => cases hx; exact h.take takeStep_dataupHandle
  | revCmdHandle => exact h.take (takeStep_revCmdHandle.of_ok hx)
  | revTimerHandle => exact h.revTimerHandle hx
  | sendTimerHandle ok => exact h.send (sendStep_sendTimerHandle (orFault_eq_ok hx))
  | datadownHandle ok => exact h.send (sendStep_datadownHandle (orFault_eq_ok hx))
  | sendCmdHandle => cases hx; exact h.send sendStep_sendCmdHandle
  | frameHandle ok₁ ok₂ =>
    obtain ⟨d₁, h₁, hx⟩ := exists_of_bind_eq_ok hx
    obtain ⟨d₂, h₂, hx⟩ := exists_of_bind_eq_ok hx
    obtain ⟨d₃, h₃, hx⟩ := exists_of_bind_eq_ok hx
    obtain ⟨d₄, h₄, hx⟩ := exists_of_bind_eq_ok hx
    have hsend : SendStep d₂ e := by
      refine ((sendStep_sendTimerHandle (orFault_eq_ok h₃)).trans
        (sendStep_datadownHandle (orFault_eq_ok h₄))).trans ?_
      cases b <;> cases hx
      · rfl
      · exact sendStep_sendCmdHandle
    rw [h.send hsend, h.revTimerHandle h₂,
      h.take (takeStep_dataupHandle.trans (takeStep_revCmdHandle.of_ok h₁)), callsStep, h₁]

/-- **The rule for what the calls determine.** -/
theorem run (h : CallFold b φ g) (evs : List DevEvent) : ∀ {d : Dev},
    run b d evs = .ok e → φ e = (callsRun b d evs).foldl g (φ d) := by
  induction evs with
  | nil => intro d hx; cases hx; rfl
  | cons ev evs ih =>
    intro d hx
    rw [MxchipSpp.run, List.foldlM_cons] at hx
    obtain ⟨e₁, hs, hx⟩ := exists_of_bind_eq_ok hx
    rw [callsRun, hs, List.foldl_append, ← h.step hs]
    exact ih hx

end CallFold

/-! ## `laststate` -/

/-- The frames that `FrameDataHandle` accepted in a run, in order. -/
def framesAccepted (evs : List DevEvent) : List (List Byte) :=
  (callsRun .old devParaInit evs).filterMap fun d =>
    if OldValid (bufferOf d.raw) (u8 d.pending) then some d.raw else none

/-- Bytes 12 to 15 of a frame. -/
def settingsOf (f : List Byte) : List Byte := [f.getD 12 0, f.getD 13 0, f.getD 14 0, f.getD 15 0]

/-- The settings of the last frame accepted; zeros before the first. -/
def lastSettings (evs : List DevEvent) : List Byte :=
  ((framesAccepted evs).getLast?.map settingsOf).getD [0, 0, 0, 0]

/-- The index of a control command: bytes 3 and 4. -/
def commandIndex (data : List Byte) : BitVec 16 := data.getD 3 0 ++ data.getD 4 0

section
variable {d e : Dev} {evs : List DevEvent}

theorem cells_laststateOf (f : List Byte) : (laststateOf (bufferOf f)).cells = settingsOf f := by
  have hget : ∀ i < 4, ((bufferOf f).cells.drop 12)[i]? = some (f.getD (12 + i) 0) := by
    intro i hi
    rw [List.getElem?_drop, getElem?_bufferOf (by omega)]
  change ((bufferOf f).cells.drop 12).take 4 = _
  refine List.ext_getElem? fun i => ?_
  rcases Nat.lt_or_ge i 4 with hi | hi
  · rw [List.getElem?_take_of_lt hi, hget i hi]
    interval_cases i <;> rfl
  · rw [List.getElem?_eq_none (by simp; omega), List.getElem?_eq_none (by simp [settingsOf]; omega)]

/-- **`laststate` is set where a frame is accepted**, and nowhere else. -/
theorem callFold_laststate : CallFold .old (fun d => d.laststate.cells) fun last d =>
    if OldValid (bufferOf d.raw) (u8 d.pending) then settingsOf d.raw else last where
  raw h := by rw [h.rest]
  send h := by rw [h]
  take h := by rw [h.rest]
  frame {d e} h := by
    cases hf : frameData .old d with
    | none => rw [frameDataHandle, hf] at h; cases h
    | some e' =>
      rw [frameDataHandle, hf] at h
      cases h
      obtain ⟨hv, rfl⟩ | ⟨hv, e₀, rfl, ho⟩ := frameData_cases hf
      · rw [if_neg hv]
        rfl
      · rw [if_pos hv, ← cells_laststateOf]
        change e₀.laststate.cells = _
        rw [ho.rest]
        rfl

theorem foldl_filterMap_last {α : Type} {p : Dev → Prop} [DecidablePred p] (f : Dev → List Byte)
    (s : List Byte → α) (x : α) (ds : List Dev) :
    ds.foldl (fun last d => if p d then s (f d) else last) x =
      (((ds.filterMap fun d => if p d then some (f d) else none).getLast?).map s).getD x := by
  induction ds using List.reverseRecOn with
  | nil => rfl
  | append_singleton ds d ih =>
    rw [List.foldl_append, List.filterMap_append, ih]
    by_cases hp : p d <;> simp [hp]

/-- **`laststate` holds the settings of the last frame accepted**, in every run. -/
theorem laststate_run (h : run .old devParaInit evs = .ok d) : d.laststate.cells = lastSettings evs := by
  rw [callFold_laststate.run evs h, foldl_filterMap_last Dev.raw settingsOf]
  rfl

/-! ## The control frame -/

theorem getD_command {s : DataInterfaceStu} {j : Fin 131} (h : (j : ℕ) < s.command.length) :
    s.command.getD j 0 = s.data j := by
  have hj : (j : ℕ) < s.datalen.toNat - 2 := by
    rw [DataInterfaceStu.command, List.length_take] at h
    omega
  rw [List.getD_eq_getElem?_getD, DataInterfaceStu.command, List.getElem?_take_of_lt hj,
    List.getElem?_drop]
  exact congrArg (·.getD 0) (Block.getElem?_eq_get s.bytes ⟨4 + j, by omega⟩)

theorem powerByte_ne_zero {idx : BitVec 16} {v : Byte} : powerByte idx v ≠ 0 ↔ idx = 31 := by
  unfold powerByte
  by_cases h : idx = 31
  · rw [if_pos h]
    exact ⟨fun _ => h, fun _ => by split_ifs <;> decide⟩
  · rw [if_neg h]
    exact ⟨fun hc => absurd rfl hc, fun hc => absurd hc h⟩

/-- **Setting one attribute preserves the others.**  In every run, for a command in the slot with its
    value, other than the query, `SendData(1)` sends the settings of the last frame accepted, with
    the one replaced that the index of the command names. -/
theorem emits_settings (hrun : run .old devParaInit evs = .ok d)
    (h₆ : 6 ≤ d.datadown.command.length) (hidx : commandIndex d.datadown.command ≠ 11) :
    ∃ power body, (power ≠ 0 ↔ commandIndex d.datadown.command = 31) ∧
      body = [0xF5, 0xF5, 0xF5, 0xF5, 0x00, 0x01, 0x03, 0x0B, 0x01, 0x00, power] ++
        newSettings (lastSettings evs) (commandIndex d.datadown.command)
          (d.datadown.command.getD 5 0) ++ [0x00, 0x00, 0x00, 0x0B] ∧
      body.length = 19 ∧
      Emits .old d (body ++ [(crcCal body).extractLsb' 8 8, (crcCal body).extractLsb' 0 8]) := by
  have hsend := emits_controlFrame (sendReady_run hrun)
  have h₃ := getD_command (s := d.datadown) (j := 3) (by change 3 < _; omega)
  have h₄ := getD_command (s := d.datadown) (j := 4) (by change 4 < _; omega)
  have h₅ := getD_command (s := d.datadown) (j := 5) (by change 5 < _; omega)
  have hfun : funindex d = commandIndex d.datadown.command :=
    (congrArg₂ (fun x y : Byte => (x ++ y : BitVec 16)) h₃ h₄).symm
  have hval : ctrlValue d = d.datadown.command.getD 5 0 := h₅.symm
  have hlen : (lastSettings evs).length = 4 := by
    rw [← laststate_run hrun]
    exact d.laststate.size
  rw [laststate_run hrun, hfun, hval, controlFrame, if_neg hidx] at hsend
  exact ⟨_, _, powerByte_ne_zero, rfl, (drop_setBody hlen _ _).2, hsend⟩

end

/-- The command to set the mode (index 5005) to 7 changes byte 11 of the frame; bytes 12 to 14 are those of
    the status frame before. -/
theorem emits_settings_sampleFrame :
    ∃ d, run .old devParaInit [.rev sampleFrame, .revTimerUp, .revTimerHandle,
        .dataDownWr [cmdControl, 0, 0, 0x13, 0x8D, 7]] = .ok d ∧
      ∃ crc, Emits .old d
        ([0xF5, 0xF5, 0xF5, 0xF5, 0, 1, 3, 11, 1, 0, 0, 7, 16, 2, 0, 0, 0, 0, 11] ++ crc) := by
  have hrun : (run .old devParaInit [.rev sampleFrame, .revTimerUp, .revTimerHandle,
      .dataDownWr [cmdControl, 0, 0, 0x13, 0x8D, 7]]).toOption.map (fun d => d.datadown.command) =
      some [cmdControl, 0, 0, 0x13, 0x8D, 7] := by decide +kernel
  have hlast : lastSettings [.rev sampleFrame, .revTimerUp, .revTimerHandle,
      .dataDownWr [cmdControl, 0, 0, 0x13, 0x8D, 7]] = [1, 16, 2, 0] := by decide +kernel
  obtain ⟨d, hd, hcmd⟩ := exists_ok_of_map hrun
  obtain ⟨power, body, hpower, hbody, -, hemits⟩ := emits_settings hd (by rw [hcmd]; decide)
    (by rw [hcmd]; decide)
  obtain rfl : power = 0 := by
    by_contra h
    exact absurd (hpower.1 h) (by rw [hcmd]; decide)
  rw [hcmd, hlast] at hbody
  refine ⟨d, hd, [(crcCal body).extractLsb' 8 8, (crcCal body).extractLsb' 0 8], ?_⟩
  have hnew : newSettings [1, 16, 2, 0] (commandIndex [cmdControl, 0, 0, 0x13, 0x8D, 7])
      ([cmdControl, 0, 0, 0x13, 0x8D, 7].getD 5 0) = [7, 16, 2, 0] := by decide
  rw [hnew] at hbody
  rw [hbody] at hemits ⊢
  exact hemits

end MxchipSpp
