/-
  What a control frame keeps of earlier commands (`OLD`).

  `DataDownWr` copies as many bytes as the command has; `SendData` reads bytes
  3 to 5 of the slot whatever the command's length.  A command of less than 6
  bytes is completed by what an earlier one left there, unless the bytes it
  has already decide that these do not matter (`independent_iff`).

  What is left there depends on the RTOS: if it calls `SendTimerUp` only while
  the send timer is started, a command is not given up before it is sent, and
  behind each one that is sent comes the query, which leaves the low byte of
  its own index (`inTime_timelyRun`).
-/
import MxchipSpp.FrameData
import MxchipSpp.Stream

namespace MxchipSpp

open Memory Outcome

/-! ## Runs -/

/-- A step with an RTOS that calls `SendTimerUp` only while the send timer is started. -/
def timelyStep (d : Dev) : DevEvent → Except Dev Dev
  | .sendTimerUp => if d.sendTimerStarted then .ok (sendTimerUp d) else .error d
  | ev => step .old d ev

/-- A run with such an RTOS. -/
def timelyRun (d : Dev) (evs : List DevEvent) : Except Dev Dev := evs.foldlM timelyStep d

/-- The control frame for `data` is the same after any two of these runs that end with the same
    `laststate` and an empty slot. -/
def Independent (runs : Dev → List DevEvent → Except Dev Dev) (data : List Byte) : Prop :=
  ∀ (evs₁ evs₂ : List DevEvent) (d₁ d₂ : Dev), runs devParaInit evs₁ = .ok d₁ →
    runs devParaInit evs₂ = .ok d₂ → d₁.laststate = d₂.laststate →
    d₁.datadown.state = 0 → d₂.datadown.state = 0 →
    ∃ frame, frame.length = 21 ∧ Emits .old (dataDownWr d₁ data).1 frame ∧
      Emits .old (dataDownWr d₂ data).1 frame

/-- The variable indices for which `SendData` reads the value. -/
def valueIndices : List (BitVec 16) := [31, 5005, 5022, 608, 5023]

/-- The command has the bytes that `SendData` reads, or shows without them that they do not matter: an
    index that takes no value, or a high byte that is none of those with which what may be left over
    makes an index. -/
def Complete (his data : List Byte) : Prop :=
  6 ≤ data.length ∨
    data.length = 5 ∧ (data.getD 3 0 ++ data.getD 4 0 : BitVec 16) ∉ valueIndices ∨
    data.length = 4 ∧ data.getD 3 0 ∉ his

section
variable {d e : Dev} {data : List Byte}

/-- A byte of the slot once a command is in it. -/
theorem data_dataDownWr (hs : d.datadown.state = 0) (hl : data.length ≤ 128) (j : Fin 131) :
    (dataDownWr d data).1.datadown.data j = data.getD j (d.datadown.data j) := by
  have h : 3 + (BitVec.ofNat 8 (data.length + 2) :: data).length ≤ 136 := by simp; omega
  have hj := j.isLt
  have hget : (dataDownWr d data).1.datadown.data j =
      (d.datadown.bytes.put 3 (BitVec.ofNat 8 (data.length + 2) :: data) h).get ⟨4 + j, by omega⟩ := by
    rw [dataDownWr, dif_pos ⟨hs, hl⟩]
    refine Block.get_set_ne _ _ fun heq => ?_
    have := congrArg Fin.val heq
    change 4 + (j : ℕ) = 135 at this
    omega
  rw [hget]
  apply Block.get_eq_of_getElem?
  rw [Block.put_getElem?, if_neg (by simp; omega)]
  simp only [List.length_cons]
  by_cases hjl : (j : ℕ) < data.length
  · rw [if_pos (by omega), show 4 + (j : ℕ) - 3 = j + 1 by omega, List.getElem?_cons_succ,
      List.getElem?_eq_getElem hjl, List.getD_eq_getElem _ _ hjl]
  · rw [if_neg (by omega), List.getD_eq_default _ _ (by omega)]
    exact Block.getElem?_eq_get d.datadown.bytes ⟨4 + j, by omega⟩

/-- **What is sent for a command**: its own bytes, completed by those of the slot. -/
theorem emits_dataDownWr (h : SendReady d.sendData) (hs : d.datadown.state = 0)
    (hl : data.length ≤ 128) : Emits .old (dataDownWr d data).1
      (controlFrame d.laststate.cells
        (data.getD 3 (d.datadown.data 3) ++ data.getD 4 (d.datadown.data 4))
        (data.getD 5 (d.datadown.data 5))) := by
  have hsend := emits_controlFrame (d := (dataDownWr d data).1) (by rwa [sendData_dataDownWr])
  have hlast : (dataDownWr d data).1.laststate = d.laststate := by
    rw [sendStep_dataDownWr data]
  have hidx : funindex (dataDownWr d data).1 =
      data.getD 3 (d.datadown.data 3) ++ data.getD 4 (d.datadown.data 4) := by
    rw [funindex, data_dataDownWr hs hl, data_dataDownWr hs hl]
    rfl
  have hval : ctrlValue (dataDownWr d data).1 = data.getD 5 (d.datadown.data 5) :=
    data_dataDownWr hs hl 5
  rwa [hlast, hidx, hval] at hsend

/-! ## Callbacks in time -/

/-- The expiries of the send timer that are counted, and the one that is not handled yet. -/
def Tx.expiries (t : Tx) : ℕ := t.framesendpara.resendcnt + t.framesendtimer.toNat

/-- The send timer is started for a query only, and what it has counted when it is stopped is not
    enough to give up the next command. -/
structure InTime (t : Tx) : Prop where
  free : t.datadown.state = 0 → t.datadown.data 4 = 0 ∨ t.datadown.data 4 = 11
  waits : t.datadown.state = 3 → t.datadown.data 4 = 11
  started : t.sendTimerStarted = true → t.datadown.state ≠ 0 ∧ t.datadown.data 4 = 11
  stopped : t.sendTimerStarted = false → t.expiries ≤ 1

theorem inTime_devParaInit : InTime devParaInit.tx where
  free _ := .inl (by decide)
  waits h := absurd h (by decide)
  started h := absurd h (by decide)
  stopped _ := by decide

theorem InTime.congr {t t' : Tx} (h : InTime t) (hd : t'.datadown = t.datadown)
    (hs : t'.sendTimerStarted = t.sendTimerStarted) (he : t'.expiries ≤ t.expiries) : InTime t' :=
  ⟨by rw [hd]; exact h.free, by rw [hd]; exact h.waits, by rw [hs, hd]; exact h.started,
    fun hoff => he.trans (h.stopped (hs.symm.trans hoff))⟩

theorem data_setState (s : DataInterfaceStu) (x : Byte) : (s.setState x).data 4 = s.data 4 :=
  Block.get_set_ne _ _ (by decide)

theorem inTime_of_taken {t : Tx} (h₂ : t.datadown.state = 2)
    (hon : t.sendTimerStarted = true → t.datadown.data 4 = 11)
    (hoff : t.sendTimerStarted = false → t.expiries ≤ 1) : InTime t where
  free h₀ := absurd (h₂.symm.trans h₀) (by decide)
  waits h₃ := absurd (h₂.symm.trans h₃) (by decide)
  started h := ⟨fun h₀ => absurd (h₂.symm.trans h₀) (by decide), hon h⟩
  stopped := hoff

/-- With the query in the slot the timer may be started. -/
theorem inTime_query (hs : d.datadown.state = 0)
    (h : d.sendTimerStarted = false → d.tx.expiries ≤ 1) : InTime (dataDownWr d queryCmd).1.tx := by
  have hl : queryCmd.length ≤ 128 := by decide
  have hdata := data_dataDownWr hs hl 4
  obtain ⟨s, he, hst⟩ := dataDownWr_taken hs hl
  rw [he] at hdata ⊢
  exact inTime_of_taken hst.state (fun _ => hdata) h

theorem InTime.dataDownWr (h : InTime d.tx) (data : List Byte) : InTime (dataDownWr d data).1.tx := by
  by_cases hc : d.datadown.state = 0 ∧ data.length ≤ 128
  · have hoff : d.sendTimerStarted = false := Bool.eq_false_iff.2 fun hon => (h.started hon).1 hc.1
    obtain ⟨s, he, hst⟩ := dataDownWr_taken hc.1 hc.2
    rw [he]
    exact inTime_of_taken hst.state (fun hon => absurd (hoff.symm.trans hon) Bool.false_ne_true)
      h.stopped
  · rw [dataDownWr_refused hc]
    exact h

theorem InTime.stopResend (h : InTime d.tx) : InTime (stopResend d).tx := by
  unfold MxchipSpp.stopResend
  split_ifs with hs
  · have hdata : (d.datadown.setState 0).data 4 = 11 := (data_setState _ _).trans (h.waits hs)
    refine ⟨fun _ => .inr hdata, fun _ => hdata, fun hon => absurd hon Bool.false_ne_true, fun _ => ?_⟩
    change 0 + d.framesendtimer.toNat ≤ 1
    have := Bool.toNat_le d.framesendtimer
    omega
  · exact h

theorem InTime.revCmdHandle (h : InTime d.tx) :
    Post (revCmdHandle d) (fun _ => True) fun e => InTime e.tx := by
  refine tx_revCmdHandle.mono (fun _ _ => trivial) fun e he => ?_
  rw [he]
  split_ifs
  · have hread : InTime (revCmdRead d).tx := h
    unfold revCmdSwitch
    split_ifs
    · exact hread.stopResend
    all_goals exact hread.congr rfl rfl le_rfl
  · exact h

theorem InTime.sendData {first ok : Bool} {r : Dev × Bool} (h : InTime d.tx)
    (hr : sendData .old first ok d = some r) : InTime r.1.tx := by
  obtain ⟨s, rfl | ⟨frame, rfl⟩⟩ := sendData_cases hr <;> exact h.congr rfl rfl le_rfl

/-- Only a query is given up. -/
theorem InTime.sendTimerHandle {ok : Bool} (h : InTime d.tx)
    (he : sendTimerHandle .old ok d = some e) : InTime e.tx := by
  unfold MxchipSpp.sendTimerHandle at he
  split_ifs at he with ht hn
  · obtain ⟨r, hr, rfl⟩ := Option.map_eq_some_iff.1 he
    have hle : u8 (d.framesendpara.resendcnt + 1) + 0 ≤
        d.framesendpara.resendcnt + d.framesendtimer.toNat := by
      have := u8_le (x := d.framesendpara.resendcnt + 1) (by omega)
      rw [ht, Bool.toNat_true]
      omega
    have hcount : InTime { d.tx with
        framesendtimer := false
        framesendpara.resendcnt := u8 (d.framesendpara.resendcnt + 1) } := h.congr rfl rfl hle
    exact InTime.sendData hcount hr
  · cases he
    have hon : d.sendTimerStarted = true := by
      refine Bool.eq_true_of_not_eq_false fun hoff => ?_
      have hle : d.framesendpara.resendcnt + d.framesendtimer.toNat ≤ 1 := h.stopped hoff
      rw [not_not.1 hn, ht] at hle
      exact absurd hle (by decide)
    have hdata : (d.datadown.setState 0).data 4 = 11 := (data_setState _ _).trans (h.started hon).2
    exact ⟨fun _ => .inr hdata, fun _ => hdata, fun hon' => absurd hon' Bool.false_ne_true,
      fun _ => Nat.zero_le _⟩
  · cases he
    exact h

theorem InTime.datadownHandle {ok : Bool} (h : InTime d.tx)
    (he : datadownHandle .old ok d = some e) : InTime e.tx := by
  unfold MxchipSpp.datadownHandle at he
  split_ifs at he
  · obtain ⟨r, hr, rfl⟩ := Option.map_eq_some_iff.1 he
    have hr : InTime r.1.tx := h.sendData hr
    split_ifs
    · unfold datadownSent
      dsimp only
      split_ifs with hquery
      · -- the query is sent, and the timer started
        have hdata : (r.1.datadown.setState 3).data 4 = 11 := (data_setState _ _).trans hquery
        have hstate : (r.1.datadown.setState 3).state = 3 := DataInterfaceStu.state_setState _ _
        refine ⟨fun h₀ => ?_, fun _ => hdata, fun _ => ⟨?_, hdata⟩,
          fun hoff => absurd hoff.symm Bool.false_ne_true⟩
        · exact absurd (hstate.symm.trans h₀) (by decide)
        · exact fun h₀ => absurd (hstate.symm.trans h₀) (by decide)
      · have hoff : r.1.sendTimerStarted = false :=
          Bool.eq_false_iff.2 fun hon => hquery (hr.started hon).2
        exact inTime_query (d := (r.1.noteSent.setDatadownState 0).stopSendTimer)
          (DataInterfaceStu.state_setState _ _) fun _ => hr.stopped hoff
    · exact hr
  · cases he
    exact h

theorem InTime.sendCmdHandle (h : InTime d.tx) : InTime (sendCmdHandle d).tx := by
  rcases sendCmdHandle_cases d with hc | ⟨-, data, clear, hc⟩
  · rw [hc]
    exact h
  · rw [hc, reply]
    have h₁ := h.dataDownWr data
    dsimp only
    split_ifs
    · exact h₁.congr rfl rfl le_rfl
    · exact h₁

theorem InTime.part (h : InTime d.tx) {ev : DevEvent} (hup : ev ≠ .sendTimerUp)
    (hframe : ∀ ok₁ ok₂, ev ≠ .frameHandle ok₁ ok₂) :
    Post (step .old d ev) (fun _ => True) fun e => InTime e.tx := by
  have hsame : ∀ {x : Except Dev Dev}, Post x (fun e => e.tx = d.tx) (fun e => e.tx = d.tx) →
      Post x (fun _ => True) fun e => InTime e.tx := fun hx =>
    hx.mono (fun _ _ => trivial) fun e he => by rw [he]; exact h
  cases ev with
  | rev data => exact hsame (rxInv_tx.revDataWrFifo rfl data)
  | revTimerUp => exact h
  | sendTimerUp => exact absurd rfl hup
  | timerTest =>
    exact inTime_query (d := d.setDatadownState 0) (DataInterfaceStu.state_setState _ _) h.stopped
  | dataDownWr data => exact h.dataDownWr data
  | dataupHandle => exact (congrArg InTime tx_dataupHandle).mpr h
  | revCmdHandle => exact h.revCmdHandle
  | revTimerHandle => exact hsame (rxInv_tx.revTimerHandle rfl)
  | sendTimerHandle ok => exact post_orFault trivial fun _ he => h.sendTimerHandle he
  | datadownHandle ok => exact post_orFault trivial fun _ he => h.datadownHandle he
  | sendCmdHandle => exact h.sendCmdHandle
  | frameHandle ok₁ ok₂ => exact absurd rfl (hframe ok₁ ok₂)

theorem timelyStep_of_ne {ev : DevEvent} (hup : ev ≠ .sendTimerUp) :
    timelyStep d ev = step .old d ev := by
  cases ev with
  | sendTimerUp => exact absurd rfl hup
  | _ => rfl

theorem InTime.timelyStep (h : InTime d.tx) (ev : DevEvent) :
    Post (timelyStep d ev) (fun _ => True) fun e => InTime e.tx := by
  by_cases hup : ev = .sendTimerUp
  · subst hup
    rw [MxchipSpp.timelyStep]
    split_ifs with hon
    · exact ⟨h.free, h.waits, h.started, fun hoff => absurd (hoff.symm.trans hon) Bool.false_ne_true⟩
    · trivial
  rw [timelyStep_of_ne hup]
  by_cases hframe : ∃ ok₁ ok₂, ev = .frameHandle ok₁ ok₂
  · obtain ⟨ok₁, ok₂, rfl⟩ := hframe
    rw [step, frameHandle_eq_run]
    refine Post.foldlM (fun ev hev d hd => hd.part ?_ (ne_of_mem_frameHandleParts hev).2.2) h
    rintro rfl
    simp [frameHandleParts] at hev
  · exact h.part hup fun ok₁ ok₂ hev => hframe ⟨ok₁, ok₂, hev⟩

/-- **What is left over if callbacks come in time.** -/
theorem inTime_timelyRun {evs : List DevEvent} (h : timelyRun devParaInit evs = .ok d) :
    InTime d.tx := by
  have hrun : Post (timelyRun devParaInit evs) (fun _ => True) fun e => InTime e.tx :=
    Post.foldlM (fun ev _ d hd => hd.timelyStep ev) inTime_devParaInit
  rw [h] at hrun
  exact hrun

/-! ## The frame as a function of the three bytes -/

theorem length_controlFrame {settings : List Byte} (hs : settings.length = 4) (idx : BitVec 16)
    (v : Byte) : (controlFrame settings idx v).length = 21 := by
  have hlen : (if idx = 11 then queryBody else setBody settings idx v).length = 19 := by
    split_ifs
    · rfl
    · exact (drop_setBody hs idx v).2
  rw [controlFrame, withCrc, List.length_append, hlen]
  rfl

theorem controlFrame_value {idx : BitVec 16} (h : idx ∉ valueIndices) (settings : List Byte)
    (v v' : Byte) : controlFrame settings idx v = controlFrame settings idx v' := by
  simp only [valueIndices, List.mem_cons, List.not_mem_nil, or_false, not_or] at h
  obtain ⟨h₁, h₂, h₃, h₄, h₅⟩ := h
  simp only [controlFrame, setBody, powerByte, newSettings, if_neg h₁, if_neg h₂, if_neg h₃, if_neg h₄,
    if_neg h₅]

theorem controlFrame_other {idx idx' : BitVec 16} (h : idx ∉ 11 :: valueIndices)
    (h' : idx' ∉ 11 :: valueIndices) (settings : List Byte) (v v' : Byte) :
    controlFrame settings idx v = controlFrame settings idx' v' := by
  have heq : ∀ {idx : BitVec 16}, idx ∉ 11 :: valueIndices → ∀ v : Byte, controlFrame settings idx v =
      withCrc ([0xF5, 0xF5, 0xF5, 0xF5, 0, 1, 0x03, 0x0B, 1, 0, 0] ++ settings ++
        [0, 0, 0, 0x0B]) := by
    intro idx h v
    simp only [valueIndices, List.mem_cons, List.not_mem_nil, or_false, not_or] at h
    obtain ⟨h₀, h₁, h₂, h₃, h₄, h₅⟩ := h
    simp only [controlFrame, setBody, powerByte, newSettings, if_neg h₀, if_neg h₁, if_neg h₂, if_neg h₃,
      if_neg h₄, if_neg h₅]
  rw [heq h, heq h']

/-! ## Which commands stand for themselves -/

theorem run_of_timelyRun {evs : List DevEvent} : ∀ {d : Dev}, timelyRun d evs = .ok e →
    run .old d evs = .ok e := by
  have hstep : ∀ {d e : Dev} {ev : DevEvent}, timelyStep d ev = .ok e → step .old d ev = .ok e := by
    intro d e ev h
    by_cases hup : ev = .sendTimerUp
    · subst hup
      rw [timelyStep] at h
      split_ifs at h
      exact h
    · rwa [timelyStep_of_ne hup] at h
  induction evs with
  | nil => exact fun h => h
  | cons ev evs ih =>
    intro d h
    rw [timelyRun, List.foldlM_cons] at h
    obtain ⟨d₁, h₁, h⟩ := exists_of_bind_eq_ok h
    rw [run_cons_ok (hstep h₁)]
    exact ih h

/-- With any other high byte than these, what is left over in the low byte makes no index. -/
structure Remains (runs : Dev → List DevEvent → Except Dev Dev) (his : List Byte) : Prop where
  ready : ∀ {evs : List DevEvent} {d : Dev}, runs devParaInit evs = .ok d → SendReady d.sendData
  other : ∀ {evs : List DevEvent} {d : Dev}, runs devParaInit evs = .ok d → d.datadown.state = 0 →
    ∀ hi ∉ his, (hi ++ d.datadown.data 4 : BitVec 16) ∉ 11 :: valueIndices

theorem remains_run : Remains (run .old) [0x00, 0x02, 0x13] where
  ready := sendReady_run
  other {_ d} _ _ hi hhi hmem := by
    have hext : (hi ++ d.datadown.data 4 : BitVec 16).extractLsb' 8 8 = hi :=
      BitVec.extractLsb'_append_eq_left
    rw [← hext] at hhi
    generalize (hi ++ d.datadown.data 4 : BitVec 16) = idx at hmem hhi
    revert hhi
    simp only [valueIndices, List.mem_cons, List.not_mem_nil, or_false] at hmem
    rcases hmem with rfl | rfl | rfl | rfl | rfl | rfl <;> decide

theorem remains_timelyRun : Remains timelyRun [0x00] where
  ready h := sendReady_run (run_of_timelyRun h)
  other {_ d} h hs hi hhi := by
    have hnot : ∀ hi : Byte, hi ∉ [0x00] → (hi ++ (0 : Byte) : BitVec 16) ∉ 11 :: valueIndices ∧
        (hi ++ (11 : Byte) : BitVec 16) ∉ 11 :: valueIndices := by decide +kernel
    rcases (inTime_timelyRun h).free hs with h₄ | h₄
    · have h₄' : d.datadown.data 4 = 0 := h₄
      rw [h₄']
      exact (hnot hi hhi).1
    · have h₄' : d.datadown.data 4 = 11 := h₄
      rw [h₄']
      exact (hnot hi hhi).2

theorem independent_of_complete {runs : Dev → List DevEvent → Except Dev Dev} {his : List Byte}
    (hr : Remains runs his) (hl : data.length ≤ 128) (h : Complete his data) :
    Independent runs data := by
  intro evs₁ evs₂ d₁ d₂ h₁ h₂ hlast hs₁ hs₂
  have he₁ := emits_dataDownWr (hr.ready h₁) hs₁ hl
  have he₂ := emits_dataDownWr (hr.ready h₂) hs₂ hl
  refine ⟨_, length_controlFrame d₁.laststate.size _ _, he₁, ?_⟩
  rw [hlast]
  have hget : ∀ j < data.length, ∀ x y : Byte, data.getD j x = data.getD j y := by
    intro j hj x y
    rw [List.getD_eq_getElem _ _ hj, List.getD_eq_getElem _ _ hj]
  rcases h with h | ⟨h, hidx⟩ | ⟨h, hhi⟩
  · rw [hget 3 (by omega) _ (d₂.datadown.data 3), hget 4 (by omega) _ (d₂.datadown.data 4),
      hget 5 (by omega) _ (d₂.datadown.data 5)]
    exact he₂
  · rw [hget 3 (by omega) _ (d₂.datadown.data 3), hget 4 (by omega) _ (d₂.datadown.data 4)]
    rw [hget 3 (by omega) _ (d₂.datadown.data 3), hget 4 (by omega) _ (d₂.datadown.data 4)] at hidx
    rwa [controlFrame_value hidx _ _ (data.getD 5 (d₂.datadown.data 5))]
  · -- the low byte is left over in both runs
    have hidx₁ := hr.other h₁ hs₁ _ hhi
    have hidx₂ := hr.other h₂ hs₂ _ hhi
    rw [hget 3 (by omega) _ (d₁.datadown.data 3)] at hidx₁
    rw [hget 3 (by omega) _ (d₂.datadown.data 3)] at hidx₂
    have hlow : ∀ x : Byte, data.getD 4 x = x := fun x => List.getD_eq_default _ _ (by omega)
    rw [hlow] at he₂ ⊢
    rwa [controlFrame_other hidx₁ hidx₂ _ _ (data.getD 5 (d₂.datadown.data 5))]

/-- A query that has a byte more is sent three times and given up. -/
def givenUp : List DevEvent :=
  [.dataDownWr [cmdControl, 0, 0, 0, 11, 1], .frameHandle true true, .sendTimerUp,
    .frameHandle true true, .sendTimerUp, .frameHandle true true, .sendTimerUp,
    .frameHandle true true]

theorem exists_givenUp : ∃ d, timelyRun devParaInit givenUp = .ok d ∧
    d.laststate = devParaInit.laststate ∧ d.datadown.state = 0 ∧ d.datadown.data 3 = 0 ∧
    d.datadown.data 4 = 11 ∧ d.datadown.data 5 = 1 := by
  have hrun : (timelyRun devParaInit givenUp).toOption.map (fun d => (d.laststate.cells,
      d.datadown.state, d.datadown.data 3, d.datadown.data 4, d.datadown.data 5)) =
      some ([0, 0, 0, 0], 0, 0, 11, 1) := by decide +kernel
  obtain ⟨d, hd, hvals⟩ := exists_ok_of_map hrun
  simp only [Prod.mk.injEq] at hvals
  obtain ⟨hl, hrest⟩ := hvals
  exact ⟨d, hd, Block.ext hl, hrest⟩

/-- Two frames for the same command, after nothing and after the query that was given up. -/
theorem not_independent (hl : data.length ≤ 128)
    (hne : controlFrame [0, 0, 0, 0] (data.getD 3 0 ++ data.getD 4 0) (data.getD 5 0) ≠
      controlFrame [0, 0, 0, 0] (data.getD 3 0 ++ data.getD 4 11) (data.getD 5 1)) :
    ¬ Independent timelyRun data := by
  intro h
  obtain ⟨d, hd, hlast, hs, h₃, h₄, h₅⟩ := exists_givenUp
  obtain ⟨frame, -, he₁, he₂⟩ := h [] _ _ _ rfl hd hlast.symm rfl hs
  have he₁' := emits_dataDownWr (d := devParaInit) sendReady_devParaInit rfl hl
  have he₂' := emits_dataDownWr (remains_timelyRun.ready hd) hs hl
  rw [hlast, h₃, h₄, h₅] at he₂'
  exact hne ((he₁'.unique he₁).trans (he₂.unique he₂'))

theorem not_independent_of_not_complete (hl : data.length ≤ 128) (hc : ¬ Complete [0x00] data) :
    ¬ Independent timelyRun data := by
  simp only [Complete, not_or, not_and, not_not, Nat.not_le] at hc
  obtain ⟨h₆, h₅, h₄⟩ := hc
  have hdef : ∀ {j}, data.length ≤ j → ∀ x : Byte, data.getD j x = x := fun hj x =>
    List.getD_eq_default _ _ hj
  refine not_independent hl ?_
  rcases Nat.lt_or_ge 3 data.length with hlt | hge
  · rcases Nat.lt_or_ge 4 data.length with hlt' | hge'
    · -- the value is left over
      have hidx := h₅ (by omega)
      have hget : ∀ x y : Byte, data.getD 4 x = data.getD 4 y := by
        intro x y
        rw [List.getD_eq_getElem _ _ hlt', List.getD_eq_getElem _ _ hlt']
      rw [hget 11 0, hdef (j := 5) (by omega), hdef (j := 5) (by omega)]
      generalize (data.getD 3 0 ++ data.getD 4 0 : BitVec 16) = idx at hidx ⊢
      simp only [valueIndices, List.mem_cons, List.not_mem_nil, or_false] at hidx
      rcases hidx with rfl | rfl | rfl | rfl | rfl <;> decide +kernel
    · -- so is the low byte of the index
      have hhi := List.mem_singleton.1 (h₄ (by omega))
      rw [hhi, hdef hge', hdef hge', hdef (j := 5) (by omega), hdef (j := 5) (by omega)]
      decide +kernel
  · rw [hdef hge, hdef (j := 4) (by omega), hdef (j := 5) (by omega), hdef (j := 4) (by omega),
      hdef (j := 5) (by omega)]
    decide +kernel

/-- **Which commands stand for themselves.**  The frame for a command that `DataDownWr` takes is the same
    after any two runs, with the same `laststate` at the end, exactly if the command is complete, where a
    0 or the low byte of the query's index may be left over.  If `SendTimerUp` may come at any time, a
    command can be given up before it is sent and leave its own; what is complete then too stands for
    itself in all runs. -/
theorem independent_iff (hl : data.length ≤ 128) :
    (Independent timelyRun data ↔ Complete [0x00] data) ∧
      (Complete [0x00, 0x02, 0x13] data → Independent (run .old) data) :=
  ⟨⟨fun h => by_contra fun hc => not_independent_of_not_complete hl hc h,
    independent_of_complete remains_timelyRun hl⟩, independent_of_complete remains_run hl⟩

end

/-- The command to switch the device on. -/
theorem independent_switchOn : Independent timelyRun [cmdControl, 0, 0, 0, 31, 1] ∧
    Independent (run .old) [cmdControl, 0, 0, 0, 31, 1] := by
  have hlen : [cmdControl, 0, 0, 0, 31, 1].length ≤ 128 := by decide
  exact ⟨(independent_iff hlen).1.2 (.inl (by decide)), (independent_iff hlen).2 (.inl (by decide))⟩

/-- A status frame, and the two turns of `FrameHandle` that take it as the answer to a query. -/
def answered : List DevEvent :=
  [.rev sampleFrame, .revTimerUp, .frameHandle true true, .frameHandle true true]

/-- A command for the power without a value switches the device on again, if that was the last command,
    and off if there was none. -/
theorem short_command_repeats : ¬ Independent timelyRun [cmdControl, 0, 0, 0, 31] := by
  intro h
  have hrun : ∀ evs v, (timelyRun devParaInit evs).toOption.map (fun d => (d.laststate.cells,
      d.datadown.state, d.datadown.data 5)) = some ([1, 16, 2, 0], 0, v) →
      ∃ d, timelyRun devParaInit evs = .ok d ∧ d.laststate.cells = [1, 16, 2, 0] ∧
        d.datadown.state = 0 ∧ d.datadown.data 5 = v := by
    intro evs v hrun
    obtain ⟨d, hd, hvals⟩ := exists_ok_of_map hrun
    simp only [Prod.mk.injEq] at hvals
    exact ⟨d, hd, hvals⟩
  obtain ⟨d₁, h₁, hl₁, hs₁, hv₁⟩ := hrun answered 0 (by decide +kernel)
  obtain ⟨d₂, h₂, hl₂, hs₂, hv₂⟩ := hrun
    ([.dataDownWr [cmdControl, 0, 0, 0, 31, 1], .frameHandle true true, .frameHandle true true] ++
      answered) 1 (by decide +kernel)
  obtain ⟨frame, -, he₁, he₂⟩ := h _ _ _ _ h₁ h₂ (Block.ext (hl₁.trans hl₂.symm)) hs₁ hs₂
  have hlen : [cmdControl, 0, 0, 0, 31].length ≤ 128 := by decide
  have he₁' := emits_dataDownWr (remains_timelyRun.ready h₁) hs₁ hlen
  have he₂' := emits_dataDownWr (remains_timelyRun.ready h₂) hs₂ hlen
  rw [hl₁, hv₁] at he₁'
  rw [hl₂, hv₂] at he₂'
  have hne : controlFrame [1, 16, 2, 0] ((0 : Byte) ++ (31 : Byte)) 0 ≠
      controlFrame [1, 16, 2, 0] ((0 : Byte) ++ (31 : Byte)) 1 := by decide +kernel
  exact hne ((he₁'.unique he₁).trans (he₂.unique he₂'))

end MxchipSpp
