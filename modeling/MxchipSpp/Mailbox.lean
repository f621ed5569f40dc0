/-
  The one-slot mailbox `datadown` (`OLD`): when a command `DataDownWr` took can
  be lost.

  Between the call that takes a command and the transmission of it by
  `DatadownHandle` the slot must not be touched.  Two steps touch it: the
  callback `TimerTest` always does, and `SendTimerHandle` does when it gives up
  a retransmission.
-/
import MxchipSpp.Stream

namespace MxchipSpp

open Memory Outcome

/-! ## The slot -/

/-- The command in the slot, if it waits to be sent. -/
def DataInterfaceStu.waiting (s : DataInterfaceStu) : List (List Byte) :=
  if s.state = 2 then [s.command] else []

/-- Every command taken was sent, in order, but for the one that waits. -/
def Lossless (d : Dev) : Prop := d.hist.taken = d.hist.sent ++ d.datadown.waiting

section
variable {d e : Dev} {data : List Byte}

theorem DataInterfaceStu.waiting_of_ne {s : DataInterfaceStu} (h : s.state ≠ 2) :
    s.waiting = [] := if_neg h

theorem waiting_dataDownWr (data : List Byte) (hs : d.datadown.state = 0)
    (hl : data.length ≤ 128) :
    (dataDownWr d data).1.hist = { d.hist with taken := d.hist.taken ++ [data] } ∧
      (dataDownWr d data).1.datadown.waiting = [data] := by
  obtain ⟨s, h, hst⟩ := dataDownWr_taken hs hl
  rw [h]
  refine ⟨rfl, ?_⟩
  rw [DataInterfaceStu.waiting, if_pos hst.state, hst.command]

/-! ## Steps that keep the slot -/

theorem Lossless.of_tx (h : Lossless d) (he : e.tx = d.tx) : Lossless e := by
  have h₁ : e.hist.taken = d.hist.taken := congrArg Tx.taken he
  have h₂ : e.hist.sent = d.hist.sent := congrArg Tx.sent he
  have h₃ : e.datadown = d.datadown := congrArg Tx.datadown he
  rw [Lossless, h₁, h₂, h₃]; exact h

theorem Lossless.dataDownWr (h : Lossless d) (data : List Byte) :
    Lossless (dataDownWr d data).1 := by
  by_cases hc : d.datadown.state = 0 ∧ data.length ≤ 128
  · obtain ⟨h₁, h₂⟩ := waiting_dataDownWr data hc.1 hc.2
    have hw : d.datadown.waiting = [] :=
      DataInterfaceStu.waiting_of_ne (by rw [hc.1]; decide)
    rw [Lossless, h₁, h₂]
    rw [Lossless, hw, List.append_nil] at h
    rw [h]
  · rw [dataDownWr_refused hc]; exact h

theorem Lossless.setDatadownState (h : Lossless d) (hs : d.datadown.state ≠ 2) {x : Byte}
    (hx : x ≠ 2) : Lossless (d.setDatadownState x) := by
  have h₁ : (d.setDatadownState x).datadown.waiting = [] :=
    DataInterfaceStu.waiting_of_ne (by
      rw [show (d.setDatadownState x).datadown.state = x from
        DataInterfaceStu.state_setState _ _]; exact hx)
  rw [Lossless, h₁, ← DataInterfaceStu.waiting_of_ne hs]
  exact h

/-- `SendData` leaves the slot alone. -/
theorem box_sendData {b : Build} {first ok : Bool} {r : Dev × Bool}
    (h : sendData b first ok d = some r) : r.1.datadown = d.datadown ∧
      r.1.hist.taken = d.hist.taken ∧ r.1.hist.sent = d.hist.sent := by
  obtain ⟨s, rfl | ⟨frame, rfl⟩⟩ := sendData_cases h <;> exact ⟨rfl, rfl, rfl⟩

theorem Lossless.datadownHandle {ok : Bool} (h : Lossless d)
    (he : datadownHandle .old ok d = some e) : Lossless e := by
  unfold MxchipSpp.datadownHandle at he
  split_ifs at he with hs
  · obtain ⟨r, hr, rfl⟩ := Option.map_eq_some_iff.1 he
    obtain ⟨h₁, h₂, h₃⟩ := box_sendData hr
    have hw : d.datadown.waiting = [d.datadown.command] := if_pos hs
    have ht : r.1.hist.taken = r.1.hist.sent ++ [r.1.datadown.command] := by
      rw [h₂, h₃, h₁, ← hw]; exact h
    split_ifs
    · -- the command moves from the slot to those sent
      have hsent : ∀ x : Byte, x ≠ 2 → Lossless (r.1.noteSent.setDatadownState x) := by
        intro x hx
        have h₄ : (r.1.noteSent.setDatadownState x).datadown.waiting = [] :=
          DataInterfaceStu.waiting_of_ne (by
            rwa [show (r.1.noteSent.setDatadownState x).datadown.state = x from
              DataInterfaceStu.state_setState _ _])
        rw [Lossless, h₄, List.append_nil]
        exact ht
      unfold datadownSent
      simp only
      split_ifs
      · exact hsent 3 (by decide)
      · exact Lossless.dataDownWr (d := (r.1.noteSent.setDatadownState 0).stopSendTimer)
          (hsent 0 (by decide)) _
    · rw [Lossless, h₂, h₃, h₁]; exact h
  · cases he; exact h

theorem Lossless.sendCmdHandle (h : Lossless d) : Lossless (sendCmdHandle d) := by
  rcases sendCmdHandle_cases d with hc | ⟨-, data, clear, hc⟩
  · rw [hc]; exact h
  · rw [hc, reply]
    have h₁ := h.dataDownWr data
    simp only
    split_ifs <;> exact h₁

/-! ## Steps that lose a command -/

/-- A retransmission that is about to be given up while a command waits. -/
def Armed (t : Tx) : Prop :=
  t.datadown.state = 2 ∧ t.framesendtimer = true ∧ t.framesendpara.resendcnt = resendCnt

/-- The step throws away the command in the slot. -/
def Loses (d : Dev) : DevEvent → Prop
  | .timerTest => d.datadown.state = 2
  | .sendTimerHandle _ | .frameHandle _ _ => Armed d.tx
  | _ => False

theorem lossless_timerTest (h : Lossless d) :
    Lossless (timerTest d) ↔ d.datadown.state ≠ 2 := by
  constructor
  · intro h' hs
    obtain ⟨h₁, h₂⟩ := waiting_dataDownWr (d := d.setDatadownState 0) queryCmd
      (DataInterfaceStu.state_setState _ _) (by decide)
    have hw : d.datadown.waiting = [d.datadown.command] := if_pos hs
    have hl := congrArg List.length h'
    rw [timerTest, h₁, h₂] at hl
    have hl' := congrArg List.length h
    rw [hw] at hl'
    change (d.hist.taken ++ [queryCmd]).length = (d.hist.sent ++ [queryCmd]).length at hl
    simp only [List.length_append, List.length_singleton] at hl hl'
    omega
  · exact fun hs => (h.setDatadownState hs (by decide)).dataDownWr _

theorem lossless_sendTimerHandle {ok : Bool} (h : Lossless d)
    (he : sendTimerHandle .old ok d = some e) : Lossless e ↔ ¬ Armed d.tx := by
  unfold sendTimerHandle at he
  split_ifs at he with ht hn
  · obtain ⟨r, hr, rfl⟩ := Option.map_eq_some_iff.1 he
    obtain ⟨h₁, h₂, h₃⟩ := box_sendData hr
    refine ⟨fun _ ha => hn ha.2.2, fun _ => ?_⟩
    rw [Lossless, h₁, h₂, h₃]; exact h
  · cases he
    have h₁ : (d.datadown.setState 0).waiting = [] :=
      DataInterfaceStu.waiting_of_ne (by rw [DataInterfaceStu.state_setState]; decide)
    change d.hist.taken = d.hist.sent ++ (d.datadown.setState 0).waiting ↔ _
    rw [h₁]
    by_cases hs : d.datadown.state = 2
    · have hw : d.datadown.waiting = [d.datadown.command] := if_pos hs
      refine ⟨fun h' => ?_, fun h' => absurd ⟨hs, ht, not_not.1 hn⟩ h'⟩
      rw [Lossless, hw, h', List.append_nil] at h
      have := congrArg List.length h
      simp at this
    · refine ⟨fun _ ha => hs ha.1, fun _ => ?_⟩
      rw [← DataInterfaceStu.waiting_of_ne hs]; exact h
  · cases he
    exact ⟨fun _ ha => ht ha.2.1, fun _ => h⟩

/-! ## All steps -/

/-- `d` has lost no command yet, and `a` says whether it is `Armed`. -/
def Slot (a : Prop) (d : Dev) : Prop := Lossless d ∧ (Armed d.tx ↔ a)

variable {a : Prop}

theorem Slot.of_tx (h : Slot a d) (he : e.tx = d.tx) : Slot a e :=
  ⟨h.1.of_tx he, by rw [he]; exact h.2⟩

/-- `RevCmdHandle` stops a retransmission, which leaves nothing to give up. -/
theorem Slot.stopResend (h : Slot a d) : Slot a (stopResend d) := by
  unfold MxchipSpp.stopResend
  split_ifs with hs
  · have hne : d.datadown.state ≠ 2 := by rw [hs]; decide
    refine ⟨h.1.setDatadownState hne (x := 0) (by decide), ?_⟩
    rw [← h.2]
    constructor
    · intro ha
      have : (d.datadown.setState 0).state = 2 := ha.1
      rw [DataInterfaceStu.state_setState] at this
      cases this
    · exact fun ha => absurd ha.1 hne
  · exact h

theorem Slot.revCmdHandle (h : Slot a d) : Post (revCmdHandle d) (fun _ => True) (Slot a) := by
  refine tx_revCmdHandle.mono (fun _ _ => trivial) fun e he => Slot.of_tx ?_ he
  have hread : Slot a (revCmdRead d) := h
  unfold revCmdSwitch
  split_ifs
  · exact hread.stopResend
  all_goals exact h

/-- Once a command is lost, nothing is left for `DatadownHandle` to send. -/
theorem sendTimerHandle_armed {ok : Bool} (ha : Armed d.tx)
    (he : sendTimerHandle .old ok d = some e) : e.datadown.state = 0 := by
  have h₁ : d.framesendtimer = true := ha.2.1
  have h₂ : d.framesendpara.resendcnt = resendCnt := ha.2.2
  unfold sendTimerHandle at he
  rw [if_pos h₁, if_neg (not_not.2 h₂)] at he
  cases he
  exact DataInterfaceStu.state_setState _ _

theorem lossless_frameHandle {ok₁ ok₂ : Bool} (h : Lossless d)
    (he : frameHandle .old ok₁ ok₂ d = .ok e) : Lossless e ↔ ¬ Armed d.tx := by
  have h₀ : Slot (Armed d.tx) (dataupHandle d) :=
    Slot.of_tx (d := d) ⟨h, Iff.rfl⟩ tx_dataupHandle
  have hrev : ∀ {d' : Dev}, Slot (Armed d.tx) d' →
      Post (revTimerHandle .old d') (fun _ => True) (Slot (Armed d.tx)) := fun h' =>
    (rxInv_tx.revTimerHandle rfl).mono (fun _ _ => trivial) fun e' he' => h'.of_tx he'
  have hpost : Post (frameHandle .old ok₁ ok₂ d) (fun _ => True)
      fun e => Lossless e ↔ ¬ Armed d.tx := by
    refine h₀.revCmdHandle.bind fun d₁ h₁ => (hrev h₁).bind fun d₂ h₂ => ?_
    cases hs : sendTimerHandle .old ok₁ d₂ with
    | none => trivial
    | some d₃ =>
      have h₃ := lossless_sendTimerHandle h₂.1 hs
      rw [h₂.2] at h₃
      change Post ((orFault d₃ (datadownHandle .old ok₂ d₃)).bind _) _ _
      cases hd : datadownHandle .old ok₂ d₃ with
      | none => trivial
      | some d₄ =>
        change Lossless d₄ ↔ _
        rw [← h₃]
        by_cases ha : Armed d.tx
        · have h0 := sendTimerHandle_armed (h₂.2.2 ha) hs
          rw [datadownHandle, if_neg (by rw [h0]; decide)] at hd
          cases hd; rfl
        · have hl := h₃.2 ha
          exact ⟨fun _ => hl, fun _ => hl.datadownHandle hd⟩
  exact hpost.of_ok he

/-- **One step.**  It loses a command exactly if it is one of the two kinds that do. -/
theorem lossless_step {ev : DevEvent} (h : Lossless d) (he : step .old d ev = .ok e) :
    Lossless e ↔ ¬ Loses d ev := by
  have hkeep : Lossless e → ¬ False → (Lossless e ↔ ¬ False) := fun h₁ h₂ => ⟨fun _ => h₂, fun _ => h₁⟩
  have hpost : ∀ {x : Except Dev Dev}, Post x (fun e => e.tx = d.tx) (fun e => e.tx = d.tx) →
      x = .ok e → Lossless e := fun h₁ hx => h.of_tx (h₁.of_ok hx)
  cases ev with
  | rev data => exact hkeep (hpost (rxInv_tx.revDataWrFifo rfl data) he) id
  | revTimerUp => cases he; exact hkeep h id
  | sendTimerUp => cases he; exact hkeep h id
  | timerTest => cases he; exact lossless_timerTest h
  | dataDownWr data => cases he; exact hkeep (h.dataDownWr data) id
  | dataupHandle => cases he; exact hkeep (h.of_tx tx_dataupHandle) id
  | revCmdHandle =>
    exact hkeep ((Slot.revCmdHandle (d := d) ⟨h, Iff.rfl⟩).of_ok he).1 id
  | revTimerHandle => exact hkeep (hpost (rxInv_tx.revTimerHandle rfl) he) id
  | sendTimerHandle ok => exact lossless_sendTimerHandle h (orFault_eq_ok he)
  | datadownHandle ok => exact hkeep (h.datadownHandle (orFault_eq_ok he)) id
  | sendCmdHandle => cases he; exact hkeep h.sendCmdHandle id
  | frameHandle ok₁ ok₂ => exact lossless_frameHandle h he

end

/-! ## Runs -/

theorem lossless_devParaInit : Lossless devParaInit := by
  have h : devParaInit.datadown.waiting = [] := DataInterfaceStu.waiting_of_ne (by decide)
  rw [Lossless, h]; rfl

/-- **No command taken is lost**, in every state of a run, exactly if in no step of it `TimerTest`
    is called while a command waits, and no retransmission is given up while one does. -/
theorem commands_kept_iff (evs : List DevEvent) :
    (∀ n d, run .old devParaInit (evs.take n) = .ok d → Lossless d) ↔
      ∀ n ev d e, evs[n]? = some ev → run .old devParaInit (evs.take n) = .ok d →
        step .old d ev = .ok e → ¬ Loses d ev :=
  prefixes_iff (I := fun _ d => Lossless d) lossless_devParaInit fun _ _ _ _ _ h he => lossless_step h he

/-- A command of the user, and the periodic query before it is sent. -/
theorem timerTest_loses_command :
    ¬ ∀ n d, run .old devParaInit
        (([.dataDownWr [0x01, 0, 0, 0, 31, 1], .timerTest] : List DevEvent).take n) = .ok d →
      Lossless d := by
  intro h
  have h₁ : Lossless (dataDownWr devParaInit [0x01, 0, 0, 0, 31, 1]).1 :=
    lossless_devParaInit.dataDownWr _
  have h₂ := (waiting_dataDownWr (d := devParaInit) [0x01, 0, 0, 0, 31, 1] (by decide)
    (by decide)).2
  refine (lossless_timerTest h₁).1 (h 2 _ rfl) ?_
  by_contra hs
  rw [DataInterfaceStu.waiting_of_ne hs] at h₂
  cases h₂

end MxchipSpp
