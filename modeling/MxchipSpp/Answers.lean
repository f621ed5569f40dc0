/-
  What each handler of the gateway sends.

  One lemma for each function that sends: it returns, and `sendto` was called
  once, with a message whose header is known.  The handlers that answer a
  request edit it in place, so their header is that of the request but for the
  netids, which change places, the command and the length.
-/
import MxchipSpp.Gateway

namespace MxchipSpp

open Memory Endian

/-! ## Buffers -/

section
variable {n : ℕ} {β : Type}

theorem Packet.write_of_le (p : Packet n) {i : ℕ} {src : List Byte} (h : i + src.length ≤ n) :
    p.write i src = some { p with body := p.body.put i src h } := by
  rw [Packet.write, Block.write_of_le _ h]; rfl

/-- A write within the bounds, in a function that goes on with the buffer; the header stays. -/
theorem Packet.write_bind {p : Packet n} {f : Packet n → Option β} {R : β → Prop} {i : ℕ}
    {src : List Byte} (h : i + src.length ≤ n)
    (hf : ∀ p' : Packet n, p'.head = p.head → ∃ r, f p' = some r ∧ R r) :
    ∃ r, p.write i src >>= f = some r ∧ R r := by
  rw [p.write_of_le h]
  exact hf _ rfl

/-- `m` is the header `h` and `k` bytes more. -/
def IsMessage (h : IotHead) (k : ℕ) (m : List Byte) : Prop :=
  ∃ body, body.length = k ∧ m = h.bytes ++ body

theorem IsMessage.length {h : IotHead} {k : ℕ} {m : List Byte} (hm : IsMessage h k m) :
    m.length = 20 + k := by
  obtain ⟨body, hk, rfl⟩ := hm
  rw [List.length_append, IotHead.length_bytes, hk]

/-- The command of a message. -/
def command (msg : List Byte) : BitVec 16 := msg.getD 16 0 ++ msg.getD 17 0

theorem IsMessage.command {h : IotHead} {k : ℕ} {m : List Byte} (hm : IsMessage h k m) :
    command m = htons h.cmd := by
  obtain ⟨body, -, rfl⟩ := hm
  rfl

theorem IsMessage.netids {h : IotHead} {k : ℕ} {m : List Byte} (hm : IsMessage h k m) :
    (IotHead.ofBytes m).snetid = h.snetid ∧ (IotHead.ofBytes m).dnetid = h.dnetid := by
  obtain ⟨body, -, rfl⟩ := hm
  have hget (x : BitVec 32) (i : ℕ) (tail : List Byte)
      (hd : (h.bytes ++ body).drop i = le32 x ++ tail) : get32 (h.bytes ++ body) i = x := by
    rw [← Nat.add_zero i, ← get32_drop, hd, get32_le32]
  exact ⟨hget h.snetid 8 _ rfl, hget h.dnetid 4 _ rfl⟩

theorem Packet.message_eq (p : Packet n) {k : ℕ} (h : k ≤ n) :
    ∃ m, p.message k = some m ∧ IsMessage p.head k m :=
  ⟨_, p.message_of_le h, _, by simp; omega, rfl⟩

end

variable {P : Platform} {w w' : World P}

/-! ## One message sent -/

/-- `w'` is `w` after `mySend` or `mySend_uart` sent a message of the header `h` and `k` bytes
    more. -/
def SentOne (w : World P) (h : IotHead) (k : ℕ) (addr : SockAddr) (w' : World P) : Prop :=
  ∃ m, IsMessage h k m ∧ w' = w.sendto m (base64Frame m) addr

theorem mySend_of_le {m : List Byte} {addr : SockAddr} (h : (base64Frame m).length ≤ 1024) :
    mySend w m addr = some (w.sendto m (base64Frame m) addr) := if_pos h

/-- The end of most handlers: the message is taken from the buffer and sent. -/
theorem message_mySend {n k : ℕ} (p : Packet n) (hk : k ≤ n) (hfit : k ≤ 740) (addr : SockAddr) :
    ∃ w', (p.message k >>= fun dt => mySend w dt addr) = some w' ∧ SentOne w p.head k addr w' := by
  obtain ⟨m, hm, h⟩ := p.message_eq hk
  refine ⟨w.sendto m (base64Frame m) addr, ?_, m, h, rfl⟩
  rw [hm, Option.bind_eq_bind, Option.bind_some, mySend_of_le]
  rw [length_base64Frame, h.length]
  omega

/-! ## Answers -/

/-- The header of an answer to a request with the header `req`. -/
def answerHead (req : IotHead) (cmd len : BitVec 16) : IotHead :=
  { swapSourceDest req with cmd := htons cmd, len := len }

variable (w) (buf : Buf) (addr : SockAddr)

theorem tclManageRegisteredAck_spec :
    ∃ w', tclManageRegisteredAck w buf addr = some w' ∧
      SentOne w (answerHead buf.head linkBundingAck (htons 44)) 44 addr w' := by
  refine Packet.write_bind (by simp) fun b hb => Packet.write_bind (by simp) fun b' hb' => ?_
  rw [show answerHead buf.head linkBundingAck (htons 44) = b'.head by rw [hb', hb]; rfl]
  exact message_mySend b' (by decide) (by decide) addr

theorem tclManageBroadcastAck_spec :
    ∃ w', tclManageBroadcastAck w buf addr = some w' ∧
      SentOne w (answerHead buf.head manageBroadcastAck 124) 124 addr w' := by
  refine Packet.write_bind (by simp) fun b hb => ?_
  rw [show answerHead buf.head manageBroadcastAck 124 = b.head by rw [hb]; rfl]
  exact message_mySend b (by decide) (by decide) addr

theorem tclDiscoveryDeviceAck_spec :
    ∃ w', tclDiscoveryDeviceAck w buf addr = some w' ∧
      SentOne w (answerHead buf.head defineDiscoveryAnswer (htons 124)) 124 addr w' := by
  have hname : deviceName.length = 8 := by decide
  refine Packet.write_bind (by simp) fun b₁ h₁ => Packet.write_bind (by simp) fun b₂ h₂ =>
    Packet.write_bind (by simp) fun b₃ h₃ => Packet.write_bind (by simp [hname]) fun b₄ h₄ =>
      Packet.write_bind (by simp) fun b₅ h₅ => ?_
  rw [show answerHead buf.head defineDiscoveryAnswer (htons 124) = b₅.head by
    rw [h₅, h₄, h₃, h₂, h₁]; rfl]
  exact message_mySend b₅ (by decide) (by decide) addr

theorem tclManageDeleteAck_spec :
    ∃ w', tclManageDeleteAck w buf addr = some w' ∧
      SentOne w (answerHead buf.head manageDeleteAck (htons 44)) 44 addr w' := by
  refine Packet.write_bind (by simp) fun b₁ h₁ => Packet.write_bind (by simp) fun b₂ h₂ =>
    Packet.write_bind (by simp) fun b₃ h₃ => ?_
  rw [show answerHead buf.head manageDeleteAck (htons 44) = b₃.head by rw [h₃, h₂, h₁]; rfl]
  exact message_mySend b₃ (by decide) (by decide) addr

theorem tclModleLinkAck_spec :
    ∃ w', tclModleLinkAck w buf addr = some w' ∧
      SentOne w (answerHead buf.head linkAck (htons 8)) 8 addr w' := by
  refine Packet.write_bind (by simp) fun b hb => ?_
  rw [show answerHead buf.head linkAck (htons 8) = b.head by rw [hb]; rfl]
  exact message_mySend b (by decide) (by decide) addr

theorem tclManageReadAck_spec :
    ∃ w', tclManageReadAck w buf addr = some w' ∧
      SentOne w (answerHead buf.head linkInformationAck (htons 14)) 14 addr w' := by
  refine Packet.write_bind (by simp) fun b₁ h₁ => Packet.write_bind (by simp) fun b₂ h₂ => ?_
  rw [show answerHead buf.head linkInformationAck (htons 14) = b₂.head by rw [h₂, h₁]; rfl]
  exact message_mySend b₂ (by decide) (by decide) addr

/-! ## Messages of the module itself -/

/-- The header of `LINK_UPGRADE_ACK`. -/
def upgradeAckHead : IotHead where
  ctrl := htons 0x0100
  informationType := htons 0
  dnetid := htonl 0
  snetid := htonl 0
  sn := htonl 0
  cmd := htons linkUpgradeAck
  len := htons 12

theorem upgradeAck_spec {n : ℕ} (hn : 12 ≤ n) (codenumber codeType codeVer : BitVec 32) :
    ∃ m, upgradeAck n codenumber codeType codeVer = some m ∧
      m = upgradeAckHead.bytes ++
        (le32 (htonl codeType) ++ le32 (htonl codeVer) ++ le32 (htonl codenumber)) := by
  have hl : 0 + (le32 (htonl codeType) ++ le32 (htonl codeVer) ++ le32 (htonl codenumber)).length ≤
      n := by simpa using hn
  refine ⟨_, ?_, rfl⟩
  simp only [upgradeAck, iotSetOtaAck, if_pos hn, Packet.write_of_le _ hl, Option.getD_some]
  rw [Packet.message_of_le _ hn]
  refine congrArg some (congrArg₂ (· ++ ·) rfl ?_)
  change (Block.cells (Block.put _ 0 _ hl)).take 12 = _
  rw [Block.cells_put_zero]
  rfl

/-- The header of the heartbeat. -/
def questionHead (w : World P) : IotHead where
  ctrl := 0
  informationType := htons typeLink
  dnetid := w.userconfig.dnetid
  snetid := w.userconfig.snetid
  sn := htonl (w.userconfig.loc_sn + 1)
  cmd := htons linkQuestion
  len := htons 12

/-- The heartbeat goes out without the last character of its message. -/
theorem tclManageLinkQuestion_spec :
    ∃ w', tclManageLinkQuestion w addr = some w' ∧ ∃ m, IsMessage (questionHead w) 12 m ∧
      w' = { w with userconfig.loc_sn := w.userconfig.loc_sn + 1 }.sendto m
        (((caret :: iotBase64encode m).set (iotBase64encode m).length amp).take
          ((iotBase64encode m).length + 1)) { addr with s_port := routUdpPort } := by
  refine Packet.write_bind (by simp) fun b hb => ?_
  obtain ⟨m, hm, h⟩ := Packet.message_eq { b with head := { b.head with
    sn := htonl (w.userconfig.loc_sn + 1)
    informationType := htons typeLink
    cmd := htons linkQuestion
    len := htons 12
    snetid := w.userconfig.snetid
    dnetid := w.userconfig.dnetid } } (k := 12) (by decide)
  refine ⟨_, ?_, m, ?_, rfl⟩
  · simp only [hm, Option.bind_eq_bind, Option.bind_some]
    rfl
  · rw [hb] at h; exact h

/-! ## What a step sends -/

/-- Between `w` and `w'`, `sendto` was only called for what `Q` allows, and the update was only
    worked on if `U` allows it. -/
structure Sends (U : Prop) (Q : Sent → Prop) (w w' : World P) : Prop where
  cause : w'.cause = w.cause
  status : w'.uartStats.status = w.uartStats.status
  ota : ¬ U → w'.ota = w.ota
  sent : ∃ news, w'.sent = w.sent ++ news ∧ ∀ s ∈ news, s.cause = w.cause ∧ Q s

section
variable {U U' : Prop} {Q Q' : Sent → Prop} {w w₁ w' : World P} {addr : SockAddr} {hd : IotHead}
  {k : ℕ}

theorem Sends.silent (hc : w'.cause = w.cause) (hs : w'.uartStats.status = w.uartStats.status)
    (ho : ¬ U → w'.ota = w.ota) (h : w'.sent = w.sent) : Sends U Q w w' :=
  ⟨hc, hs, ho, [], by simp [h], by simp⟩

theorem Sends.refl (w : World P) : Sends U Q w w := .silent rfl rfl (fun _ => rfl) rfl

theorem Sends.trans (h : Sends U Q w w₁) (h' : Sends U Q w₁ w') : Sends U Q w w' := by
  obtain ⟨n₁, e₁, q₁⟩ := h.sent
  obtain ⟨n₂, e₂, q₂⟩ := h'.sent
  refine ⟨h'.cause.trans h.cause, h'.status.trans h.status,
    fun hu => (h'.ota hu).trans (h.ota hu), n₁ ++ n₂, ?_, fun s hs => ?_⟩
  · rw [e₂, e₁, List.append_assoc]
  · rcases List.mem_append.1 hs with hs | hs
    · exact q₁ s hs
    · exact ⟨(q₂ s hs).1.trans h.cause, (q₂ s hs).2⟩

theorem Sends.mono (h : Sends U Q w w') (hu : U → U') (hq : ∀ s, Q s → Q' s) :
    Sends U' Q' w w' := by
  obtain ⟨n, e, q⟩ := h.sent
  exact ⟨h.cause, h.status, fun hu' => h.ota fun h' => hu' (hu h'), n, e,
    fun s hs => ⟨(q s hs).1, hq s (q s hs).2⟩⟩

theorem Sends.sendto {m bytes : List Byte} (hq : Q ⟨w.cause, m, bytes, addr⟩) :
    Sends U Q w (w.sendto m bytes addr) :=
  ⟨rfl, rfl, fun _ => rfl, _, rfl, fun s hs => by rw [List.mem_singleton.1 hs]; exact ⟨rfl, hq⟩⟩

/-- A message of a known header, between its marks. -/
structure Framed (h : IotHead) (k : ℕ) (s : Sent) : Prop where
  message : IsMessage h k s.message
  bytes : s.bytes = base64Frame s.message

theorem SentOne.sends (h : SentOne w hd k addr w') (hq : ∀ s, Framed hd k s → Q s) :
    Sends U Q w w' := by
  obtain ⟨m, hm, rfl⟩ := h
  exact .sendto (hq _ ⟨hm, rfl⟩)

/-- A spec of the form above, on a call that returned. -/
theorem sends_of_spec {f : Option (World P)} (hf : ∃ w₁, f = some w₁ ∧ SentOne w hd k addr w₁)
    (h : f = some w') (hq : ∀ s, Framed hd k s → Q s) : Sends U Q w w' := by
  obtain ⟨w₁, h₁, h₂⟩ := hf
  rw [h₁] at h
  cases h
  exact h₂.sends hq

end

/-- The commands of the messages the module sends of its own accord. -/
def unsolicited : List (BitVec 16) := [alamData, reportData, linkQuestion]

/-- `s` has the netids of `c`, which are those of a binding, and goes to its address. -/
structure Reports (c : UserConfig) (s : Sent) : Prop where
  flag : c.flag = true
  snetid : (IotHead.ofBytes s.message).snetid = c.snetid
  dnetid : (IotHead.ofBytes s.message).dnetid = c.dnetid
  addr : s.addr = { c.addr with s_port := routUdpPort }

/-- What `iotProcess` sends for a request, whose header is `req` when the `switch` reads it. -/
inductive Reply (req : IotHead) (s : Sent) : Prop where
  | answer (cmd : BitVec 16) (k : ℕ) (hk : k < 65536) (hc : cmd ≠ linkUpgradeAck)
      (hb : req.cmd ≠ manageBroadcast) (hu : req.cmd ≠ manageUpgradeCode)
      (h : Framed (answerHead req cmd (htons (BitVec.ofNat 16 k))) k s)
  | broadcast (hb : req.cmd = manageBroadcast)
      (h : Framed (answerHead req manageBroadcastAck 124) 124 s)
  | upgrade (hu : req.cmd = manageUpgradeCode) (h : Framed upgradeAckHead 12 s)

section
variable {w w' : World P} {buf : Buf} {addr : SockAddr} {malloc : Bool} {len : ℕ}

theorem sends_otaStart (codenumber : BitVec 32) (fota : IotFota) {Q : Sent → Prop} :
    Sends True Q w (otaStart w codenumber fota) := by
  unfold otaStart
  split_ifs
  · exact .silent rfl rfl (absurd trivial) rfl
  · exact .refl w

theorem sends_otaEnd {Q : Sent → Prop} : Sends True Q w (otaEnd malloc w) := by
  unfold otaEnd micoOtaFinished
  dsimp only
  split_ifs
  · exact .refl w
  · exact .silent rfl rfl (absurd trivial) rfl
  · exact .silent rfl rfl (absurd trivial) rfl

theorem sends_otaFinish (codenumber totalnumber : BitVec 32) {Q : Sent → Prop} :
    Sends True Q w (otaFinish malloc w codenumber totalnumber) := by
  unfold otaFinish
  split_ifs
  · exact sends_otaEnd
  · exact .refl w

/-- The packet that is due is stored and answered; then the update may end. -/
theorem otaAccept_eq (malloc : Bool) (w : World P) (fota : IotFota) (data : List Byte) :
    ∃ m, m = upgradeAckHead.bytes ++
        (le32 (htonl (otaStart w (htonl fota.codeNumber) fota).ota.codeType) ++
          le32 (htonl (otaStart w (htonl fota.codeNumber) fota).ota.codeVer) ++
          le32 fota.codeNumber) ∧
      otaAccept malloc w fota data = some (otaFinish malloc
        ((otaStore (otaStart w (htonl fota.codeNumber) fota) data).sendto m (base64Frame m)
          (otaStart w (htonl fota.codeNumber) fota).ota.otaaddr)
        (htonl fota.codeNumber) (htonl fota.codeTotal)) := by
  set w₁ := otaStore (otaStart w (htonl fota.codeNumber) fota) data with hw₁
  obtain ⟨m, hm, hm'⟩ := upgradeAck_spec (n := 236) (by decide) (htonl fota.codeNumber)
    w₁.ota.codeType w₁.ota.codeVer
  have hmsg : IsMessage upgradeAckHead 12 m := ⟨_, rfl, hm'⟩
  rw [htonl, htonl, htonl, swap32_swap32] at hm'
  refine ⟨m, hm', ?_⟩
  simp only [otaAccept, ← hw₁, hm, Option.bind_eq_bind, Option.bind_some,
    mySend_of_le (show (base64Frame m).length ≤ 1024 by
      rw [length_base64Frame, hmsg.length]; decide)]
  rfl

theorem sends_tclOtaData (h : tclOtaData malloc w buf len addr = some w') :
    Sends True (Framed upgradeAckHead 12) w w' := by
  unfold tclOtaData at h
  cases hg : iotGetOtaData buf len with
  | none => rw [hg] at h; cases h; exact .refl w
  | some r =>
    obtain ⟨fota, datalen⟩ := r
    rw [hg] at h
    dsimp only at h
    have h₀ : Sends True (Framed upgradeAckHead 12) w (w.setOtaaddr addr) :=
      .silent rfl rfl (absurd trivial) rfl
    by_cases hne : htonl fota.codeNumber ≠ w.ota.upcodenumber
    · rw [if_pos hne] at h; cases h; exact h₀
    · rw [if_neg hne] at h
      obtain ⟨data, -, h⟩ := Option.bind_eq_some_iff.1 h
      obtain ⟨m, hm, he⟩ := otaAccept_eq malloc (w.setOtaaddr addr) fota data
      rw [he] at h
      cases h
      have h₁ : Sends True (Framed upgradeAckHead 12) (w.setOtaaddr addr)
          (otaStore (otaStart (w.setOtaaddr addr) (htonl fota.codeNumber) fota) data) :=
        (sends_otaStart _ _).trans (.silent rfl rfl (absurd trivial) rfl)
      exact h₀.trans (h₁.trans ((Sends.sendto ⟨⟨_, rfl, hm⟩, rfl⟩).trans (sends_otaFinish _ _)))

/-- `tcl_data_push` sends nothing. -/
theorem sends_tclDataPush {U : Prop} {Q : Sent → Prop} (h : tclDataPush w buf = some w') :
    Sends U Q w w' := by
  obtain ⟨src, -, h⟩ := Option.bind_eq_some_iff.1 h
  obtain ⟨uart, -, h⟩ := Option.bind_eq_some_iff.1 h
  obtain ⟨data, -, h⟩ := Option.bind_eq_some_iff.1 h
  cases h
  exact .silent rfl rfl (fun _ => rfl) rfl

theorem sends_tclAlamStop {U : Prop} {Q : Sent → Prop} (h : tclAlamStop w buf = some w') :
    Sends U Q w w' := by
  obtain ⟨src, -, h⟩ := Option.bind_eq_some_iff.1 h
  obtain ⟨uart, -, h⟩ := Option.bind_eq_some_iff.1 h
  obtain ⟨frame, -, h⟩ := Option.bind_eq_some_iff.1 h
  cases h
  exact .silent rfl rfl (fun _ => rfl) rfl

/-- `tcl_data_tpyeid_ack` copies 37 bytes out of 31. -/
theorem tclDataTpyeidAck_eq (w : World P) : tclDataTpyeidAck w = none := by
  have h : ∀ b : Block Byte 31, b.slice 0 37 = none := by
    intro b
    rw [← Option.not_isSome_iff_eq_none, Block.slice_isSome]; omega
  unfold tclDataTpyeidAck
  simp only [h, Option.bind_eq_bind, Option.bind_none]
  cases (Block.fill 31 (0 : Byte)).write 0 [0x0D] with
  | none => rfl
  | some b => simp

theorem sends_tclManageRegistered {U : Prop} {Q : Sent → Prop} {ok : Bool}
    (h : tclManageRegistered w buf addr = some (w', ok)) : Sends U Q w w' := by
  obtain ⟨eq, -, h⟩ := Option.bind_eq_some_iff.1 h
  dsimp only at h
  split_ifs at h <;> cases h <;> exact .silent rfl rfl (fun _ => rfl) rfl

section
variable {req : IotHead} {cmd : BitVec 16} {k : ℕ}

/-- A handler of a request that answers it in place. -/
theorem sends_answer {U : Prop} {f : Option (World P)} (hk : k < 65536)
    (hc : cmd ≠ linkUpgradeAck) (hb : req.cmd ≠ manageBroadcast)
    (hu : req.cmd ≠ manageUpgradeCode)
    (hf : ∃ w₁, f = some w₁ ∧
      SentOne w (answerHead req cmd (htons (BitVec.ofNat 16 k))) k addr w₁)
    (hq : cmd ∉ unsolicited) (h : f = some w') :
    Sends U (fun s => Reply req s ∧ command s.message ∉ unsolicited) w w' := by
  refine sends_of_spec hf h fun s hs => ⟨.answer cmd k hk hc hb hu hs, ?_⟩
  rw [hs.message.command, answerHead, htons, swap16_swap16]
  exact hq

end

/-- **What a request is answered with.** -/
theorem sends_iotSwitch (h : iotSwitch malloc w buf len addr = some w') :
    Sends (buf.head.cmd = manageUpgradeCode)
      (fun s => Reply buf.head s ∧ command s.message ∉ unsolicited) w w' := by
  unfold iotSwitch at h
  dsimp only at h
  by_cases hu : buf.head.cmd = manageUpgradeCode
  · rw [if_pos hu] at h
    refine (sends_tclOtaData h).mono (fun _ => hu) fun s hs => ⟨.upgrade hu hs, ?_⟩
    rw [hs.message.command]
    decide
  rw [if_neg hu] at h
  by_cases hd : buf.head.cmd = dataData
  · rw [if_pos hd] at h
    have hb : buf.head.cmd ≠ manageBroadcast := by rw [hd]; decide
    obtain ⟨w₁, h₁, h⟩ := Option.bind_eq_some_iff.1 h
    obtain ⟨w₂, h₂, h⟩ := Option.bind_eq_some_iff.1 h
    rw [tclDataTpyeidAck_eq] at h
    have h₃ := (sends_tclDataPush h₁).trans (sends_answer (U := buf.head.cmd = manageUpgradeCode)
      (by decide) (by decide) hb hu (tclModleLinkAck_spec w₁ buf addr) (by decide) h₂)
    split_ifs at h
    cases h
    exact h₃
  rw [if_neg hd] at h
  by_cases hb : buf.head.cmd = manageBroadcast
  · rw [if_pos hb] at h
    refine sends_of_spec (tclManageBroadcastAck_spec w buf addr) h fun s hs => ⟨.broadcast hb hs, ?_⟩
    rw [hs.message.command, answerHead, htons, swap16_swap16]
    decide
  rw [if_neg hb] at h
  split_ifs at h with hq hl hr hdel hi ha
  · exact sends_answer (by decide) (by decide) hb hu (tclDiscoveryDeviceAck_spec w buf addr) (by decide) h
  · obtain ⟨⟨w₁, ok⟩, h₁, h⟩ := Option.bind_eq_some_iff.1 h
    have h₂ : Sends (buf.head.cmd = manageUpgradeCode)
        (fun s => Reply buf.head s ∧ command s.message ∉ unsolicited) w w₁ :=
      sends_tclManageRegistered h₁
    cases ok with
    | true =>
      exact h₂.trans (sends_answer (by decide) (by decide) hb hu (tclManageRegisteredAck_spec w₁ buf addr)
        (by decide) h)
    | false => cases h; exact h₂
  · obtain ⟨w₁, h₁, h⟩ := Option.bind_eq_some_iff.1 h
    cases h
    exact (sends_answer (by decide) (by decide) hb hu (tclModleLinkAck_spec w buf addr) (by decide)
      h₁).trans (.silent rfl rfl (fun _ => rfl) rfl)
  · obtain ⟨eq, -, h⟩ := Option.bind_eq_some_iff.1 h
    cases eq with
    | true =>
      obtain ⟨w₁, h₁, h⟩ := Option.bind_eq_some_iff.1 h
      cases h
      exact (sends_answer (by decide) (by decide) hb hu (tclManageDeleteAck_spec w buf addr)
        (by decide) h₁).trans (.silent rfl rfl (fun _ => rfl) rfl)
    | false => cases h; exact .refl w
  · exact sends_answer (by decide) (by decide) hb hu (tclManageReadAck_spec w buf addr) (by decide) h
  · exact sends_tclAlamStop h
  · cases h; exact .refl w

/-! ## The other steps -/

/-- A report or an alarm. -/
def IsReport (s : Sent) : Prop :=
  ∃ h k, k < 65536 ∧ (h.cmd = htons alamData ∨ h.cmd = htons reportData) ∧
    h.len = htons (BitVec.ofNat 16 k) ∧ Framed h k s

/-- A heartbeat. -/
def IsQuestion (s : Sent) : Prop :=
  ∃ h, h.cmd = htons linkQuestion ∧ h.len = htons 12 ∧ IsMessage h 12 s.message ∧
    s.bytes = ((caret :: iotBase64encode s.message).set (iotBase64encode s.message).length amp).take
      ((iotBase64encode s.message).length + 1)

/-- The state in which a report is sent. -/
def uploadState (w : World P) : World P :=
  { w with userconfig.addr.s_port := routUdpPort, uartStats.flag := false }

/-- A report that is sent is one message, between its marks. -/
theorem uploadSend_eq (h : uploadSend w = some w') :
    0 ≤ uploadLen w ∧ (uploadLen w).toNat ≤ 252 ∧ ∃ m,
      IsMessage (uploadHead w) (uploadLen w).toNat m ∧
      w' = (uploadState w).sendto m (base64Frame m) (uploadState w).userconfig.addr := by
  obtain ⟨src, hsrc, h⟩ := Option.bind_eq_some_iff.1 h
  obtain ⟨buf, -, h⟩ := Option.bind_eq_some_iff.1 h
  obtain ⟨dt, hdt, h⟩ := Option.bind_eq_some_iff.1 h
  obtain ⟨hn, hk⟩ : 0 ≤ uploadLen w ∧ (uploadLen w).toNat ≤ 252 := by
    unfold uploadData at hsrc
    split_ifs at hsrc with hn
    have := (w.mySendBufLast.get 3).isLt
    unfold uploadLen at hn ⊢
    omega
  obtain ⟨m, hm, hmsg⟩ := Packet.message_eq { buf with head := uploadHead w }
    (show (uploadLen w).toNat ≤ 492 by omega)
  rw [hdt] at hm
  cases hm
  refine ⟨hn, hk, dt, hmsg, ?_⟩
  unfold mySendUart at h
  split_ifs at h
  exact (Option.some.inj h).symm

theorem cmd_uploadHead (w : World P) :
    (uploadHead w).cmd = htons alamData ∨ (uploadHead w).cmd = htons reportData := by
  unfold uploadHead
  dsimp only
  split_ifs
  · exact .inl rfl
  · exact .inr rfl

theorem sends_uploadSend (h : uploadSend w = some w') (hf : w.userconfig.flag = true) :
    Sends False (fun s => IsReport s ∧ Reports w.userconfig s) w w' := by
  obtain ⟨hn, hk, m, hmsg, rfl⟩ := uploadSend_eq h
  have hlen : (uploadHead w).len = htons (BitVec.ofNat 16 (uploadLen w).toNat) := by
    change htons (BitVec.ofInt 16 (uploadLen w)) = _
    rw [← BitVec.ofInt_natCast, Int.toNat_of_nonneg hn]
  have h₀ : Sends False (fun s => IsReport s ∧ Reports w.userconfig s) w (uploadState w) :=
    .silent rfl rfl (fun _ => rfl) rfl
  exact h₀.trans (.sendto ⟨⟨uploadHead w, _, by omega, cmd_uploadHead w, hlen, hmsg, rfl⟩,
    hf, hmsg.netids.1, hmsg.netids.2, rfl⟩)

/-- What a step of the device side does to the module: no report is due; or one is counted and not
    sent, as the module is not bound; or it is sent and counted. -/
inductive DevStepped (w w' : World P) (ev : DevEvent) : Prop where
  | quiet (hd : ¬ (ev.delivers ∧ w.dev.dataup.state = 2)) (hw : ∃ dev, w' = { w with dev })
  | unbound (hd : ev.delivers ∧ w.dev.dataup.state = 2) (hf : w.userconfig.flag = false)
      (hw : ∃ dev last, w' = { w.countSn with dev, mySendBufLast := last })
  | sent (hd : ev.delivers ∧ w.dev.dataup.state = 2) (hf : w.userconfig.flag = true)
      (hw : ∃ dev last w₁, uploadSend { w with mySendBufLast := last } = some w₁ ∧
        w' = { w₁.countSn with dev })

theorem devStep_cases {ev : DevEvent} (h : devStep w ev = some w') : DevStepped w w' ev := by
  obtain ⟨w₁, h₁, h⟩ := Option.bind_eq_some_iff.1 h
  obtain ⟨dev, -, h⟩ := Option.bind_eq_some_iff.1 h
  cases h
  unfold deliver at h₁
  split_ifs at h₁ with hd
  · obtain ⟨data, -, h₁⟩ := Option.bind_eq_some_iff.1 h₁
    obtain ⟨last, -, h₁⟩ := Option.bind_eq_some_iff.1 h₁
    unfold tclDataUpload at h₁
    split_ifs at h₁ with hf
    · cases h₁
      exact .unbound hd hf ⟨dev, last, rfl⟩
    · obtain ⟨w₂, h₂, rfl⟩ := Option.map_eq_some_iff.1 h₁
      exact .sent hd (Bool.eq_true_of_not_eq_false hf) ⟨dev, last, w₂, h₂, rfl⟩
  · cases h₁
    exact .quiet hd ⟨dev, rfl⟩

theorem sends_devStep {ev : DevEvent} (h : devStep w ev = some w') :
    Sends False (fun s => IsReport s ∧ Reports w.userconfig s) w w' := by
  rcases devStep_cases h with ⟨-, dev, rfl⟩ | ⟨-, -, dev, last, rfl⟩ | ⟨-, hf, dev, last, w₁, h₁, rfl⟩
  · exact .silent rfl rfl (fun _ => rfl) rfl
  · exact .silent rfl rfl (fun _ => rfl) rfl
  · have h₀ : Sends False (fun s => IsReport s ∧ Reports w.userconfig s) w
        { w with mySendBufLast := last } := .silent rfl rfl (fun _ => rfl) rfl
    have h₂ := sends_uploadSend h₁ hf
    exact (h₀.trans h₂).trans (.silent rfl rfl (fun _ => rfl) rfl)

/-- The heartbeat of a bound module. -/
theorem dataUploadTimer_cases (h : dataUploadTimer w = some w') :
    (w.userconfig.flag = true ∧ ∃ m, IsMessage (questionHead w) 12 m ∧
      w' = { w with userconfig.loc_sn := w.userconfig.loc_sn + 1 }.sendto m
        (((caret :: iotBase64encode m).set (iotBase64encode m).length amp).take
          ((iotBase64encode m).length + 1)) { w.userconfig.addr with s_port := routUdpPort }) ∨
      (w.userconfig.flag = false ∧ w' = w) := by
  unfold dataUploadTimer at h
  split_ifs at h with hf
  · obtain ⟨w₁, h₁, m, hm, rfl⟩ := tclManageLinkQuestion_spec w w.userconfig.addr
    rw [h₁] at h
    cases h
    exact .inl ⟨hf, m, hm, rfl⟩
  · cases h
    exact .inr ⟨Bool.eq_false_of_not_eq_true hf, rfl⟩

theorem sends_dataUploadTimer (h : dataUploadTimer w = some w') :
    Sends False (fun s => IsQuestion s ∧ Reports w.userconfig s) w w' := by
  rcases dataUploadTimer_cases h with ⟨hf, m, hm, rfl⟩ | ⟨-, rfl⟩
  · have h₀ : Sends False (fun s => IsQuestion s ∧ Reports w.userconfig s) w
        { w with userconfig.loc_sn := w.userconfig.loc_sn + 1 } := .silent rfl rfl (fun _ => rfl) rfl
    exact h₀.trans (.sendto ⟨⟨questionHead w, rfl, rfl, hm, rfl⟩, hf, hm.netids.1, hm.netids.2, rfl⟩)
  · exact .refl _

/-- The idle answer, which acknowledges the last packet again. -/
def idleAck (w : World P) : List Byte :=
  upgradeAckHead.bytes ++ (le32 (htonl w.ota.codeType) ++ le32 (htonl w.ota.codeVer) ++
    le32 (htonl (w.ota.upcodenumber - 1)))

/-- It is sent while an update is going on. -/
theorem selectTimeout_eq (w : World P) :
    selectTimeout w = some (if 0 < w.ota.upcodenumber.toInt then
      w.sendto (idleAck w) (base64Frame (idleAck w)) w.ota.otaaddr else w) := by
  unfold selectTimeout
  split_ifs with hpos
  · obtain ⟨m, hm, hm'⟩ := upgradeAck_spec (n := 1004) (by decide) (w.ota.upcodenumber - 1)
      w.ota.codeType w.ota.codeVer
    have hmsg : IsMessage upgradeAckHead 12 m := ⟨_, rfl, hm'⟩
    rw [hm, Option.bind_eq_bind, Option.bind_some,
      mySend_of_le (by rw [length_base64Frame, hmsg.length]; decide), hm']
    rfl
  · rfl

theorem selectTimeout_cases (h : selectTimeout w = some w') :
    (0 < w.ota.upcodenumber.toInt ∧
      w' = w.sendto (idleAck w) (base64Frame (idleAck w)) w.ota.otaaddr) ∨ w' = w := by
  rw [selectTimeout_eq] at h
  split_ifs at h with hpos
  · exact .inl ⟨hpos, (Option.some.inj h).symm⟩
  · exact .inr (Option.some.inj h).symm

theorem sends_selectTimeout (h : selectTimeout w = some w') :
    Sends False (Framed upgradeAckHead 12) w w' := by
  rcases selectTimeout_cases h with ⟨-, rfl⟩ | rfl
  · exact .sendto ⟨⟨_, rfl, rfl⟩, rfl⟩
  · exact .refl _

/-! ## Requests -/

/-- The message of the datagram of a step. -/
def Event.request : Event → Option (List Byte)
  | .udp _ datagram _ =>
    if (datagram.take 1024).head? = some caret then decodeDatagram (datagram.take 1024) else none
  | _ => none

/-- The header of a message, as the `switch` reads it. -/
def requestHead (msg : List Byte) : IotHead := headLogPrintf (.ofBytes msg)

theorem cmd_requestHead (msg : List Byte) : (requestHead msg).cmd = command msg :=
  swap16_append _ _

/-- The field `len` of a message, read big-endian. -/
def lenField (m : List Byte) : BitVec 16 := m.getD 18 0 ++ m.getD 19 0

theorem len_requestHead (msg : List Byte) : (requestHead msg).len = lenField msg :=
  swap16_append _ _

theorem IotHead.ofBytes_congr {l l' : List Byte} (h : ∀ i < 20, l.getD i 0 = l'.getD i 0) :
    IotHead.ofBytes l = .ofBytes l' := by
  simp only [IotHead.ofBytes, get16, get32, Nat.zero_add, Nat.reduceAdd]
  simp only [h 0 (by decide), h 1 (by decide), h 2 (by decide), h 3 (by decide), h 4 (by decide),
    h 5 (by decide), h 6 (by decide), h 7 (by decide), h 8 (by decide), h 9 (by decide),
    h 10 (by decide), h 11 (by decide), h 12 (by decide), h 13 (by decide), h 14 (by decide),
    h 15 (by decide), h 16 (by decide), h 17 (by decide), h 18 (by decide), h 19 (by decide)]

/-- The zeros behind a message do not show in its header. -/
theorem head_ofMessage {msg : List Byte} {b : Buf} (h : Buf.ofMessage msg = some b) :
    b.head = .ofBytes msg := by
  obtain ⟨a, ha, rfl⟩ := Option.map_eq_some_iff.1 h
  obtain ⟨hl, rfl⟩ := Block.write_eq_some.1 ha
  refine IotHead.ofBytes_congr fun i hi => ?_
  have hz : (Block.fill 1024 (0 : Byte)).cells[i]? = some 0 :=
    List.getElem?_replicate_of_lt (by omega)
  rw [List.getD_eq_getElem?_getD, List.getElem?_take_of_lt hi, Block.put_getElem?,
    if_neg (Nat.not_lt_zero i), Nat.zero_add, Nat.sub_zero, List.getD_eq_getElem?_getD, hz]
  split_ifs with hm
  · rfl
  · rw [List.getElem?_eq_none (by omega)]
    rfl

theorem udpReceive_of_request {datagram msg : List Byte}
    (hr : (Event.udp addr datagram malloc).request = some msg) :
    udpReceive malloc w datagram addr = receive malloc w msg addr := by
  rw [Event.request] at hr
  split_ifs at hr with hc
  rw [udpReceive, if_pos hc, hr, Option.bind_eq_bind, Option.bind_some]

/-- A datagram that is not a request is dropped; a request goes to the `switch`. -/
theorem udpReceive_cases {datagram : List Byte} (h : udpReceive malloc w datagram addr = some w') :
    ((Event.udp addr datagram malloc).request = none ∧ w' = w) ∨
      ∃ msg buf, (Event.udp addr datagram malloc).request = some msg ∧
        Buf.ofMessage msg = some buf ∧ ¬ msg.length < sizeofIotHead ∧
        iotSwitch malloc w { buf with head := headLogPrintf buf.head } msg.length addr = some w' := by
  unfold udpReceive at h
  split_ifs at h with hc
  · obtain ⟨msg, hm, h⟩ := Option.bind_eq_some_iff.1 h
    obtain ⟨buf, hb, h⟩ := Option.bind_eq_some_iff.1 h
    unfold iotProcess at h
    split_ifs at h with hl
    exact .inr ⟨msg, buf, by rw [Event.request, if_pos hc, hm], hb, hl, h⟩
  · cases h
    exact .inl ⟨by rw [Event.request, if_neg hc], rfl⟩

theorem sends_udpReceive {datagram : List Byte}
    (h : udpReceive malloc w datagram addr = some w') :
    Sends (∃ msg, (Event.udp addr datagram malloc).request = some msg ∧
        command msg = manageUpgradeCode)
      (fun s => ∃ msg, (Event.udp addr datagram malloc).request = some msg ∧
        20 ≤ msg.length ∧ Reply (requestHead msg) s ∧ command s.message ∉ unsolicited) w w' := by
  rcases udpReceive_cases h with ⟨-, rfl⟩ | ⟨msg, buf, hreq, hb, hl, hsw⟩
  · exact .refl _
  · have hhead : headLogPrintf buf.head = requestHead msg := by rw [head_ofMessage hb]; rfl
    have hsw := sends_iotSwitch hsw
    simp only [hhead, cmd_requestHead] at hsw
    exact hsw.mono (fun hu => ⟨msg, hreq, hu⟩) fun s hs => ⟨msg, hreq, not_lt.1 hl, hs⟩

/-! ## Runs -/

/-- What a step may send. -/
def Event.Allows : Event → Sent → Prop
  | .dev _, s => IsReport s
  | .udp addr datagram malloc, s => ∃ msg, (Event.udp addr datagram malloc).request = some msg ∧
      20 ≤ msg.length ∧ Reply (requestHead msg) s
  | .selectTimeout, s => Framed upgradeAckHead 12 s
  | .dataUploadTimer, s => IsQuestion s
  | .checkDevice, _ => False

/-- What is sent in a step with a request replies to it. -/
theorem Event.Allows.reply {ev : Event} {s : Sent} {msg : List Byte} (h : ev.Allows s)
    (hr : ev.request = some msg) : 20 ≤ msg.length ∧ Reply (requestHead msg) s := by
  cases ev with
  | udp addr datagram malloc =>
    obtain ⟨msg', hr', hs⟩ := h
    rw [hr] at hr'
    cases hr'
    exact hs
  | _ => cases hr

/-- The steps with a packet of an update. -/
def Event.Upgrades (ev : Event) : Prop :=
  ∃ msg, ev.request = some msg ∧ command msg = manageUpgradeCode

theorem sends_step {ev : Event} (h : w.step ev = some w') :
    Sends ev.Upgrades ev.Allows { w with cause := ev } w' := by
  cases ev with
  | dev ev => exact (sends_devStep h).mono False.elim fun _ hs => hs.1
  | udp addr datagram malloc =>
    exact (sends_udpReceive h).mono id fun s ⟨msg, hr, hl, hs, _⟩ => ⟨msg, hr, hl, hs⟩
  | selectTimeout => exact (sends_selectTimeout h).mono False.elim fun _ => id
  | dataUploadTimer => exact (sends_dataUploadTimer h).mono False.elim fun _ hs => hs.1
  | checkDevice => cases h; exact .silent rfl rfl (fun _ => rfl) rfl

/-- What a step sends of its own accord is what a bound module says. -/
theorem unsolicited_step {ev : Event} (h : w.step ev = some w') :
    Sends True (fun s => command s.message ∈ unsolicited → Reports w.userconfig s)
      { w with cause := ev } w' := by
  cases ev with
  | dev ev => exact (sends_devStep h).mono False.elim fun _ hs _ => hs.2
  | udp addr datagram malloc =>
    exact (sends_udpReceive h).mono (fun _ => trivial) fun s ⟨_, _, _, _, hs⟩ hc => absurd hc hs
  | selectTimeout =>
    refine (sends_selectTimeout h).mono False.elim fun s hs hc => absurd hc ?_
    rw [hs.message.command]
    decide
  | dataUploadTimer => exact (sends_dataUploadTimer h).mono False.elim fun _ hs _ => hs.2
  | checkDevice => cases h; exact .silent rfl rfl (fun _ => rfl) rfl

/-- What holds of every state of a run: nothing has set `status`, and each message was allowed by
    the step that sent it. -/
structure History (w : World P) : Prop where
  status : w.uartStats.status = 0
  sent : ∀ s ∈ w.sent, s.cause.Allows s

theorem history_init (deviceid : DeviceId) : History (World.init P deviceid) :=
  ⟨rfl, fun _ hs => absurd hs List.not_mem_nil⟩

theorem History.step {ev : Event} (hw : History w) (h : w.step ev = some w') : History w' := by
  have hs := sends_step h
  obtain ⟨news, e, q⟩ := hs.sent
  refine ⟨hs.status.trans hw.status, fun s hmem => ?_⟩
  rw [e] at hmem
  rcases List.mem_append.1 hmem with hold | hnew
  · exact hw.sent s hold
  · rw [(q s hnew).1]
    exact (q s hnew).2

/-- **Every run.**  Each message sent was allowed by the step it was sent in. -/
theorem history_run {deviceid : DeviceId} {evs : List Event}
    (h : (World.init P deviceid).run evs = some w) : History w :=
  Outcome.foldlM_some (fun _ _ _ _ hw hs => hw.step hs) (history_init deviceid) h

end

end MxchipSpp
