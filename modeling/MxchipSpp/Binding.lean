/-
  Who the module reports to.

  A bind is accepted once; until a deletion is, what the module sends of its
  own accord has the netids of that bind.  Its address is kept less well: it is
  stored before the bind is looked at, also from one meant for another module.
-/
import MxchipSpp.Datagram

namespace MxchipSpp

open Memory Endian Outcome

/-! ## Binds and deletions -/

/-- The packet of a step, which has a whole header, as the `switch` reads it, and its sender. -/
def Event.packet : Event → Option (Buf × SockAddr)
  | .udp addr datagram malloc => do
    let msg ← (Event.udp addr datagram malloc).request
    if msg.length < sizeofIotHead then none
    else (Buf.ofMessage msg).map fun buf => ({ buf with head := headLogPrintf buf.head }, addr)
  | _ => none

/-- What the module can accept: a bind, with its sender and the netids it carries, or a deletion. -/
inductive Accepted where
  | bind (addr : SockAddr) (deviceNetid gatewayNetid : BitVec 32)
  | delete

variable {P : Platform}

/-- What is accepted in a step: `tcl_manage_registered` or `tcl_manage_delete` returns 1. -/
def World.accepts (w : World P) (ev : Event) : Option Accepted := do
  let (buf, addr) ← ev.packet
  if buf.head.cmd = linkOrderBunding then
    let (_, ok) ← tclManageRegistered w buf addr
    if ok then some (.bind addr (get32 buf.body.cells 36) (get32 buf.body.cells 40)) else none
  else if buf.head.cmd = manageDelete then
    if ← tclManageDelete w buf then some .delete else none
  else none

/-- What is accepted in a run, in order. -/
def accepted (w : World P) (evs : List Event) : List Accepted := trace World.step World.accepts w evs

/-- A bind that is for another module: `tcl_manage_registered` returns 0. -/
structure Misdirected (w : World P) (ev : Event) (addr : SockAddr) : Prop where
  packet : ∃ buf, ev.packet = some (buf, addr) ∧ buf.head.cmd = linkOrderBunding ∧
    strcmpEq buf.body.cells w.userconfig.deviceid.block.cells = some false

/-- A bind `tcl_manage_registered` returns 0 for, for either reason. -/
structure Rejected (w : World P) (ev : Event) (addr : SockAddr) : Prop where
  packet : ∃ buf, ev.packet = some (buf, addr) ∧ buf.head.cmd = linkOrderBunding ∧
    ∃ w', tclManageRegistered w buf addr = some (w', false)

section
variable {w w' : World P} {ev : Event} {buf : Buf} {addr : SockAddr}

/-- A packet goes to the `switch`. -/
theorem step_packet (hp : ev.packet = some (buf, addr)) :
    ∃ malloc len, w.step ev = iotSwitch malloc { w with cause := ev } buf len addr := by
  cases ev with
  | udp a datagram malloc =>
    rw [Event.packet] at hp
    obtain ⟨msg, hm, hp⟩ := Option.bind_eq_some_iff.1 hp
    split_ifs at hp with hl
    obtain ⟨b, hb, he⟩ := Option.map_eq_some_iff.1 hp
    cases he
    refine ⟨malloc, msg.length, ?_⟩
    rw [World.step, World.handle, udpReceive_of_request hm, receive, hb, Option.bind_eq_bind,
      Option.bind_some, iotProcess, if_neg hl]
  | _ => cases hp

/-- A datagram that is not a packet is dropped. -/
theorem step_no_packet {datagram : List Byte} {malloc : Bool}
    (hp : (Event.udp addr datagram malloc).packet = none)
    (h : w.step (.udp addr datagram malloc) = some w') :
    w' = { w with cause := .udp addr datagram malloc } := by
  have h : udpReceive malloc { w with cause := .udp addr datagram malloc } datagram addr = some w' := h
  rcases udpReceive_cases h with ⟨-, rfl⟩ | ⟨msg, buf, hm, hb, hl, -⟩
  · rfl
  · rw [Event.packet, hm, Option.bind_eq_bind, Option.bind_some, if_neg hl, hb] at hp
    cases hp

/-! ## What a step does to `g_userconfig` -/

/-- What `g_userconfig` is after a step. -/
inductive Configures (w : World P) (ev : Event) (c : UserConfig) : Prop where
  | bind (addr : SockAddr) (deviceNetid gatewayNetid : BitVec 32)
      (ha : w.accepts ev = some (.bind addr deviceNetid gatewayNetid))
      (hc : c = { w.userconfig with
        addr, flag := true, deviceNetid, gatewayNetid, snetid := deviceNetid, dnetid := gatewayNetid })
  | delete (ha : w.accepts ev = some .delete) (hc : c = { w.userconfig with flag := false })
  | reject (addr : SockAddr) (ha : w.accepts ev = none) (hr : Rejected w ev addr)
      (hc : c = { w.userconfig with addr })
  | other (ha : w.accepts ev = none)
      (hc : ∃ sn loc_sn s_port, c = { w.userconfig with sn, loc_sn, addr.s_port := s_port })

theorem Configures.same (ha : w.accepts ev = none) {c : UserConfig} (hc : c = w.userconfig) :
    Configures w ev c :=
  .other ha ⟨_, _, _, hc⟩

theorem SentOne.userconfig {hd : IotHead} {k : ℕ} (h : SentOne w hd k addr w') :
    w'.userconfig = w.userconfig := by
  obtain ⟨m, -, rfl⟩ := h
  rfl

/-- A spec of the form `SentOne`, on a call that returned. -/
theorem userconfig_of_spec {f : Option (World P)} {hd : IotHead} {k : ℕ}
    (hf : ∃ w₁, f = some w₁ ∧ SentOne w hd k addr w₁) (h : f = some w') :
    w'.userconfig = w.userconfig := by
  obtain ⟨w₁, h₁, h₂⟩ := hf
  rw [h₁] at h
  cases h
  exact h₂.userconfig

theorem userconfig_otaStart (number : BitVec 32) (fota : IotFota) :
    (otaStart w number fota).userconfig = w.userconfig := by
  unfold otaStart
  split_ifs <;> rfl

theorem userconfig_otaFinish (malloc : Bool) (number total : BitVec 32) :
    (otaFinish malloc w number total).userconfig = w.userconfig := by
  unfold otaFinish otaEnd micoOtaFinished
  dsimp only
  split_ifs <;> rfl

theorem userconfig_tclOtaData {malloc : Bool} {len : ℕ}
    (h : tclOtaData malloc w buf len addr = some w') : w'.userconfig = w.userconfig := by
  unfold tclOtaData at h
  cases hg : iotGetOtaData buf len with
  | none => rw [hg] at h; cases h; rfl
  | some r =>
    obtain ⟨fota, datalen⟩ := r
    rw [hg] at h
    dsimp only at h
    split_ifs at h
    · cases h; rfl
    · obtain ⟨data, -, h⟩ := Option.bind_eq_some_iff.1 h
      obtain ⟨m, -, he⟩ := otaAccept_eq malloc (w.setOtaaddr addr) fota data
      rw [he] at h
      cases h
      rw [userconfig_otaFinish]
      exact userconfig_otaStart _ _

/-- A bind that is looked at: it is accepted or rejected, and in both cases its sender is stored. -/
theorem tclManageRegistered_cases (w : World P) (buf : Buf) (addr : SockAddr) :
    (strcmpEq buf.body.cells w.userconfig.deviceid.block.cells = some true ∧
      w.userconfig.flag = false ∧
      tclManageRegistered w buf addr = some ({ w with userconfig := { w.userconfig with
        addr, flag := true
        deviceNetid := get32 buf.body.cells 36, gatewayNetid := get32 buf.body.cells 40
        snetid := get32 buf.body.cells 36, dnetid := get32 buf.body.cells 40 } }, true)) ∨
    ((strcmpEq buf.body.cells w.userconfig.deviceid.block.cells = some false ∨
        w.userconfig.flag = true) ∧
      tclManageRegistered w buf addr =
        some ({ w with userconfig := { w.userconfig with addr } }, false)) := by
  obtain ⟨eq, heq⟩ := strcmp_deviceid w buf
  have hreg : tclManageRegistered w buf addr = some (if eq ∧ w.userconfig.flag = false then
      ({ w with userconfig := { w.userconfig with
        addr, flag := true
        deviceNetid := get32 buf.body.cells 36, gatewayNetid := get32 buf.body.cells 40
        snetid := get32 buf.body.cells 36, dnetid := get32 buf.body.cells 40 } }, true)
      else ({ w with userconfig := { w.userconfig with addr } }, false)) := by
    simp only [tclManageRegistered, heq, Option.bind_eq_bind, Option.bind_some]
    split_ifs <;> rfl
  rw [hreg, heq]
  cases eq <;> cases hf : w.userconfig.flag <;> simp [hf]

theorem accepts_of_packet (hp : ev.packet = some (buf, addr)) :
    w.accepts ev =
      if buf.head.cmd = linkOrderBunding then
        if strcmpEq buf.body.cells w.userconfig.deviceid.block.cells = some true ∧
            w.userconfig.flag = false then
          some (.bind addr (get32 buf.body.cells 36) (get32 buf.body.cells 40))
        else none
      else if buf.head.cmd = manageDelete ∧
          strcmpEq buf.body.cells w.userconfig.deviceid.block.cells = some true then
        some .delete
      else none := by
  rw [World.accepts, hp, Option.bind_eq_bind, Option.bind_some]
  dsimp only
  split_ifs with hb hacc hd hdel hdel
  · rcases tclManageRegistered_cases w buf addr with ⟨-, -, h⟩ | ⟨h | h, -⟩
    · rw [h]; rfl
    · rw [hacc.1] at h; cases h
    · rw [hacc.2] at h; cases h
  · rcases tclManageRegistered_cases w buf addr with ⟨h₁, h₂, -⟩ | ⟨-, h⟩
    · exact absurd ⟨h₁, h₂⟩ hacc
    · rw [h]; rfl
  · rw [tclManageDelete, hdel.2]; rfl
  · obtain ⟨eq, heq⟩ := strcmp_deviceid w buf
    cases eq with
    | true => exact absurd ⟨hd, heq⟩ hdel
    | false => rw [tclManageDelete, heq]; rfl
  · exact absurd hdel.1 hd
  · rfl

theorem iotSwitch_bunding {malloc : Bool} {len : ℕ} (hb : buf.head.cmd = linkOrderBunding) :
    iotSwitch malloc w buf len addr = tclManageRegistered w buf addr >>= fun r =>
      if r.2 then tclManageRegisteredAck r.1 buf addr else some r.1 := by
  rw [iotSwitch, hb]; rfl

theorem iotSwitch_delete {malloc : Bool} {len : ℕ} (hd : buf.head.cmd = manageDelete) :
    iotSwitch malloc w buf len addr = tclManageDelete w buf >>= fun r =>
      if r then tclManageDeleteAck w buf addr >>= fun w => some (clearGateinfo w) else some w := by
  rw [iotSwitch, hd]; rfl

/-- Only binds and deletions change `g_userconfig`. -/
theorem userconfig_iotSwitch {malloc : Bool} {len : ℕ} (hb : buf.head.cmd ≠ linkOrderBunding)
    (hd : buf.head.cmd ≠ manageDelete) (h : iotSwitch malloc w buf len addr = some w') :
    w'.userconfig = w.userconfig := by
  unfold iotSwitch at h
  dsimp only at h
  split_ifs at h
  · exact userconfig_tclOtaData h
  · obtain ⟨w₁, h₁, h⟩ := Option.bind_eq_some_iff.1 h
    obtain ⟨w₂, h₂, h⟩ := Option.bind_eq_some_iff.1 h
    rw [tclDataTpyeidAck_eq] at h
    split_ifs at h
    cases h
    rw [userconfig_of_spec (tclModleLinkAck_spec w₁ buf addr) h₂]
    obtain ⟨src, -, h⟩ := Option.bind_eq_some_iff.1 h₁
    obtain ⟨uart, -, h⟩ := Option.bind_eq_some_iff.1 h
    obtain ⟨data, -, h⟩ := Option.bind_eq_some_iff.1 h
    cases h
    rfl
  · exact userconfig_of_spec (tclManageBroadcastAck_spec w buf addr) h
  · exact userconfig_of_spec (tclDiscoveryDeviceAck_spec w buf addr) h
  · obtain ⟨w₁, h₁, h⟩ := Option.bind_eq_some_iff.1 h
    cases h
    exact (userconfig_of_spec (tclModleLinkAck_spec w buf addr) h₁ : w₁.userconfig = w.userconfig)
  · exact userconfig_of_spec (tclManageReadAck_spec w buf addr) h
  · obtain ⟨src, -, h⟩ := Option.bind_eq_some_iff.1 h
    obtain ⟨uart, -, h⟩ := Option.bind_eq_some_iff.1 h
    obtain ⟨frame, -, h⟩ := Option.bind_eq_some_iff.1 h
    cases h
    rfl
  · cases h; rfl

theorem configures_iotSwitch {malloc : Bool} {len : ℕ} (hp : ev.packet = some (buf, addr))
    (h : iotSwitch malloc w buf len addr = some w') : Configures w ev w'.userconfig := by
  have ha := accepts_of_packet (w := w) hp
  by_cases hb : buf.head.cmd = linkOrderBunding
  · rw [iotSwitch_bunding hb] at h
    rw [if_pos hb] at ha
    rcases tclManageRegistered_cases w buf addr with ⟨h₁, h₂, hreg⟩ | ⟨hne, hreg⟩
    · rw [if_pos ⟨h₁, h₂⟩] at ha
      rw [hreg, Option.bind_eq_bind, Option.bind_some, if_pos rfl] at h
      exact .bind addr _ _ ha (userconfig_of_spec (tclManageRegisteredAck_spec _ buf addr) h)
    · rw [if_neg (by rintro ⟨h₁, h₂⟩; rcases hne with h | h <;> simp [h] at h₁ h₂)] at ha
      rw [hreg] at h
      cases h
      exact .reject addr ha ⟨buf, hp, hb, _, hreg⟩ rfl
  by_cases hd : buf.head.cmd = manageDelete
  · rw [iotSwitch_delete hd] at h
    rw [if_neg hb] at ha
    obtain ⟨eq, heq⟩ := strcmp_deviceid w buf
    rw [tclManageDelete, heq, Option.bind_eq_bind, Option.bind_some] at h
    cases eq with
    | true =>
      rw [if_pos ⟨hd, heq⟩] at ha
      obtain ⟨w₁, h₁, h⟩ := Option.bind_eq_some_iff.1 h
      cases h
      have hc := userconfig_of_spec (tclManageDeleteAck_spec w buf addr) h₁
      exact .delete ha (by rw [clearGateinfo, hc])
    | false =>
      rw [if_neg (by rw [heq]; rintro ⟨-, h⟩; cases h)] at ha
      cases h
      exact .same ha rfl
  rw [if_neg hb, if_neg fun h => hd h.1] at ha
  exact .same ha (userconfig_iotSwitch hb hd h)

theorem accepts_congr {w₁ : World P} (h : w₁.userconfig = w.userconfig) :
    w₁.accepts ev = w.accepts ev := by
  cases hp : ev.packet with
  | none => simp [World.accepts, hp]
  | some r => rw [accepts_of_packet hp, accepts_of_packet hp, h]

/-- `tcl_manage_registered` returns 0 for another identifier, and if the module is bound. -/
theorem rejected_iff : (∃ w', tclManageRegistered w buf addr = some (w', false)) ↔
    strcmpEq buf.body.cells w.userconfig.deviceid.block.cells = some false ∨
      w.userconfig.flag = true := by
  rcases tclManageRegistered_cases w buf addr with ⟨h₁, h₂, h⟩ | ⟨hne, h⟩
  · rw [h, h₁, h₂]; simp
  · exact iff_of_true ⟨_, h⟩ hne

theorem Rejected.congr {w₁ : World P} (h : w₁.userconfig = w.userconfig) (hr : Rejected w₁ ev addr) :
    Rejected w ev addr := by
  obtain ⟨buf, hp, hb, hreg⟩ := hr.packet
  rw [rejected_iff, h, ← rejected_iff] at hreg
  exact ⟨buf, hp, hb, hreg⟩

theorem Configures.congr {w₁ : World P} {c : UserConfig} (hc : Configures w₁ ev c)
    (h : w₁.userconfig = w.userconfig) : Configures w ev c := by
  rcases hc with ⟨addr, d, g, ha, hc⟩ | ⟨ha, hc⟩ | ⟨addr, ha, hr, hc⟩ | ⟨ha, hc⟩ <;>
    rw [accepts_congr h] at ha <;> rw [h] at hc
  · exact .bind addr d g ha hc
  · exact .delete ha hc
  · exact .reject addr ha (hr.congr h) hc
  · exact .other ha hc

theorem configures_devStep {e : DevEvent} (h : devStep w e = some w') :
    Configures w (.dev e) w'.userconfig := by
  have same {c : UserConfig} (hc : ∃ sn loc_sn s_port,
      c = { w.userconfig with sn, loc_sn, addr.s_port := s_port }) : Configures w (.dev e) c :=
    .other rfl hc
  rcases devStep_cases h with ⟨-, dev, rfl⟩ | ⟨-, -, dev, last, rfl⟩ | ⟨-, -, dev, last, w₁, h₁, rfl⟩
  · exact same ⟨_, _, _, rfl⟩
  · exact same ⟨_, _, _, rfl⟩
  · obtain ⟨-, -, m, -, rfl⟩ := uploadSend_eq h₁
    exact same ⟨_, _, _, rfl⟩

theorem userconfig_selectTimeout (h : selectTimeout w = some w') :
    w'.userconfig = w.userconfig := by
  rcases selectTimeout_cases h with ⟨-, rfl⟩ | rfl <;> rfl

theorem configures_step (h : w.step ev = some w') : Configures w ev w'.userconfig := by
  cases ev with
  | dev e => exact (configures_devStep h).congr rfl
  | udp addr datagram malloc =>
    cases hp : (Event.udp addr datagram malloc).packet with
    | none =>
      rw [step_no_packet hp h]
      exact .same (by simp [World.accepts, hp]) rfl
    | some r =>
      obtain ⟨malloc', len, hs⟩ := step_packet (w := w) hp
      rw [hs] at h
      exact (configures_iotSwitch hp h).congr rfl
  | selectTimeout =>
    have h : selectTimeout { w with cause := .selectTimeout } = some w' := h
    exact .same rfl ((userconfig_selectTimeout h).trans rfl)
  | dataUploadTimer =>
    have h : dataUploadTimer { w with cause := .dataUploadTimer } = some w' := h
    rcases dataUploadTimer_cases h with ⟨-, m, -, rfl⟩ | ⟨-, rfl⟩
    · exact .other rfl ⟨_, _, _, rfl⟩
    · exact .same rfl rfl
  | checkDevice => cases h; exact .same rfl rfl

/-- No step changes the identifier. -/
theorem deviceid_step (h : w.step ev = some w') : w'.userconfig.deviceid = w.userconfig.deviceid := by
  rcases configures_step h with ⟨addr, d, g, -, hc⟩ | ⟨-, hc⟩ | ⟨addr, -, -, hc⟩ | ⟨-, sn, loc_sn, s_port, hc⟩ <;>
    rw [hc]

theorem deviceid_run {deviceid : DeviceId} {evs : List Event}
    (h : (World.init P deviceid).run evs = some w) : w.userconfig.deviceid = deviceid :=
  foldlM_some (I := fun w => w.userconfig.deviceid = deviceid)
    (fun _ _ _ _ hw hs => (deviceid_step hs).trans hw) rfl h

/-! ## Runs -/

/-- What every step keeps of the state and what was accepted last, every run keeps. -/
theorem run_accepted {I : World P → Option Accepted → Prop} {C : World P → Event → Prop}
    (hstep : ∀ {w w' : World P} {ev : Event} {last : Option Accepted}, I w last → C w ev →
      w.step ev = some w' → I w' ((w.accepts ev).or last)) {evs : List Event}
    (hi : I w none) (hc : Along World.step C w evs) (h : w.run evs = some w') :
    I w' (accepted w evs).getLast? := by
  rw [accepted, ← List.nil_append (trace _ _ _ _)]
  refine foldlM_trace (I := fun w l => I w l.getLast?) (fun {w w' ev l} hi hc hs => ?_) hi hc h
  have hlast : (l ++ (w.accepts ev).toList).getLast? = (w.accepts ev).or l.getLast? := by
    rw [List.getLast?_append]
    cases w.accepts ev <;> rfl
  rw [hlast]
  exact hstep hi hc hs

/-- The module is bound, with the netids of `last`, if `last` is a bind, and else it is not. -/
def Bound (w : World P) : Option Accepted → Prop
  | some (.bind _ deviceNetid gatewayNetid) => w.userconfig.flag = true ∧
      w.userconfig.snetid = deviceNetid ∧ w.userconfig.dnetid = gatewayNetid
  | _ => w.userconfig.flag = false

theorem Bound.step {last : Option Accepted} (hi : Bound w last) (h : w.step ev = some w') :
    Bound w' ((w.accepts ev).or last) := by
  have hsame {c : UserConfig} (hw : w'.userconfig = c) (hf : c.flag = w.userconfig.flag)
      (hs : c.snetid = w.userconfig.snetid) (hd : c.dnetid = w.userconfig.dnetid) :
      Bound w' last := by
    subst hw
    rcases last with _ | ⟨addr, d, g⟩ | _
    · exact hf.trans hi
    · exact ⟨hf.trans hi.1, hs.trans hi.2.1, hd.trans hi.2.2⟩
    · exact hf.trans hi
  rcases configures_step h with ⟨addr, d, g, ha, hc⟩ | ⟨ha, hc⟩ | ⟨addr, ha, -, hc⟩ |
    ⟨ha, sn, loc_sn, s_port, hc⟩
  · rw [ha, Option.some_or]
    exact ⟨by rw [hc], by rw [hc], by rw [hc]⟩
  · rw [ha, Option.some_or]
    exact congrArg UserConfig.flag hc
  · rw [ha, Option.none_or]
    exact hsame hc rfl rfl rfl
  · rw [ha, Option.none_or]
    exact hsame hc rfl rfl rfl

theorem bound_run {deviceid : DeviceId} {evs : List Event}
    (h : (World.init P deviceid).run evs = some w) :
    Bound w (accepted (World.init P deviceid) evs).getLast? :=
  run_accepted (C := fun _ _ => True) (fun hi _ hs => hi.step hs) rfl
    (.of_forall fun _ _ => trivial) h

/-- A state in which a bound module speaks. -/
theorem Bound.isBind {last : Option Accepted} (hi : Bound w last) (hf : w.userconfig.flag = true) :
    ∃ addr, last = some (.bind addr w.userconfig.snetid w.userconfig.dnetid) := by
  rcases last with _ | ⟨addr, d, g⟩ | _
  · exact absurd (hf.symm.trans hi) (by decide)
  · obtain ⟨-, rfl, rfl⟩ := hi
    exact ⟨addr, rfl⟩
  · exact absurd (hf.symm.trans hi) (by decide)

/-- What a step sends of its own accord. -/
theorem reports_of_mem_drop (h : w.step ev = some w') {s : Sent}
    (hs : s ∈ w'.sent.drop w.sent.length) (hc : command s.message ∈ unsolicited) :
    Reports w.userconfig s := by
  obtain ⟨news, hn, hq⟩ := (unsolicited_step h).sent
  rw [hn] at hs
  exact (hq s (by simpa using hs)).2 hc

/-- **Unsolicited messages.**  A report, an alarm or a heartbeat is sent while what was accepted
    last is a bind, and has the netids of that bind; `tcl_data_tpyeid_ack` is never called. -/
theorem unsolicited_while_bound {deviceid : DeviceId} {evs : List Event}
    (h : (World.init P deviceid).run evs = some w) (hs : w.step ev = some w') :
    w.uartStats.status ≠ typeid ∧
    ∀ s ∈ w'.sent.drop w.sent.length, command s.message ∈ unsolicited →
      ∃ addr deviceNetid gatewayNetid,
        (accepted (World.init P deviceid) evs).getLast? =
          some (.bind addr deviceNetid gatewayNetid) ∧
        (IotHead.ofBytes s.message).snetid = deviceNetid ∧
        (IotHead.ofBytes s.message).dnetid = gatewayNetid := by
  refine ⟨fun ht => ?_, fun s hmem hc => ?_⟩
  · rw [(history_run h).status] at ht
    exact absurd ht (by decide)
  · have hr := reports_of_mem_drop hs hmem hc
    obtain ⟨addr, hl⟩ := (bound_run h).isBind hr.flag
    exact ⟨addr, _, _, hl, hr.snetid, hr.dnetid⟩

/-- A bind with netids 1 and 2. -/
def bindMessage : List Byte :=
  { IotHead.zero with cmd := htons linkOrderBunding }.bytes ++ List.replicate 36 0 ++ le32 1 ++ le32 2

def bindRequest : Event := .udp ⟨0xC0A80001, 8671⟩ (base64Frame bindMessage) true

/-- The heartbeat after a bind. -/
theorem unsolicited_while_bound_heartbeat :
    ∃ w w' s, (World.init .sample sampleId).run [bindRequest] = some w ∧
      w.step .dataUploadTimer = some w' ∧ s ∈ w'.sent.drop w.sent.length ∧
      command s.message = linkQuestion ∧ w.uartStats.status ≠ typeid ∧
      ∃ addr deviceNetid gatewayNetid,
        (accepted (World.init .sample sampleId) [bindRequest]).getLast? =
          some (.bind addr deviceNetid gatewayNetid) ∧
        (IotHead.ofBytes s.message).snetid = deviceNetid ∧
        (IotHead.ofBytes s.message).dnetid = gatewayNetid := by
  have hrun : ((World.init .sample sampleId).run [bindRequest]).bind (fun w =>
      (w.step .dataUploadTimer).map fun w' =>
        (w'.sent.drop w.sent.length).map fun s => command s.message) = some [linkQuestion] := by
    decide +kernel
  obtain ⟨w, hw, hrun⟩ := Option.bind_eq_some_iff.1 hrun
  obtain ⟨w', hw', hl⟩ := Option.map_eq_some_iff.1 hrun
  obtain ⟨s, ss, hs, hc, -⟩ := List.map_eq_cons_iff.1 hl
  have hmem : s ∈ w'.sent.drop w.sent.length := by rw [hs]; exact List.mem_cons_self
  obtain ⟨hstatus, hsent⟩ := unsolicited_while_bound hw hw'
  exact ⟨w, w', s, hw, hw', hmem, hc, hstatus, hsent s hmem (by rw [hc]; decide)⟩

/-! ## Rejected binds -/

/-- A bind for another module leaves its sender in `g_userconfig`. -/
theorem misdirected_step (hm : Misdirected w ev addr) :
    ∃ w', w.step ev = some w' ∧ w'.userconfig = { w.userconfig with addr } := by
  obtain ⟨buf, hp, hb, hne⟩ := hm.packet
  obtain ⟨malloc, len, hs⟩ := step_packet (w := w) hp
  rw [hs, iotSwitch_bunding hb]
  rcases tclManageRegistered_cases { w with cause := ev } buf addr with ⟨heq, -, -⟩ | ⟨-, hreg⟩
  · rw [hne] at heq
    cases heq
  · rw [hreg]
    exact ⟨_, rfl, rfl⟩

/-- A bind rejected while the module is bound comes from the host it is bound to. -/
def FromBound (w : World P) (ev : Event) : Prop :=
  ∀ addr, Rejected w ev addr → w.userconfig.flag = true → addr.s_ip = w.userconfig.addr.s_ip

/-- The host in `g_userconfig` is the one `last` came from, if `last` is a bind. -/
def BoundTo (w : World P) : Option Accepted → Prop
  | some (.bind addr _ _) => w.userconfig.addr.s_ip = addr.s_ip
  | _ => True

theorem BoundTo.step {last : Option Accepted} (hb : Bound w last) (ht : BoundTo w last)
    (hf : FromBound w ev) (h : w.step ev = some w') : BoundTo w' ((w.accepts ev).or last) := by
  have hsame {c : UserConfig} (hw : w'.userconfig = c)
      (ha : w.userconfig.flag = true → c.addr.s_ip = w.userconfig.addr.s_ip) : BoundTo w' last := by
    subst hw
    rcases last with _ | ⟨addr, d, g⟩ | _
    · trivial
    · exact (ha hb.1).trans ht
    · trivial
  rcases configures_step h with ⟨addr, d, g, ha, hc⟩ | ⟨ha, hc⟩ | ⟨addr, ha, hr, hc⟩ |
    ⟨ha, sn, loc_sn, s_port, hc⟩
  · rw [ha, Option.some_or]
    exact congrArg (fun c => c.addr.s_ip) hc
  · rw [ha, Option.some_or]
    trivial
  · rw [ha, Option.none_or]
    exact hsame hc fun hflag => hf addr hr hflag
  · rw [ha, Option.none_or]
    exact hsame hc fun _ => rfl

theorem boundTo_run {deviceid : DeviceId} {evs : List Event}
    (hf : Along World.step FromBound (World.init P deviceid) evs)
    (h : (World.init P deviceid).run evs = some w) :
    BoundTo w (accepted (World.init P deviceid) evs).getLast? :=
  (run_accepted (I := fun w last => Bound w last ∧ BoundTo w last) (C := FromBound)
    (fun hi hc hs => ⟨hi.1.step hs, hi.2.step hi.1 hc hs⟩) ⟨by rfl, trivial⟩ hf h).2

/-- **Rejected binds.**  In every reachable state a bind for another module leaves `g_userconfig`
    as it was exactly if it comes from the address there; and the module reports to the host of the
    last accepted bind, as long as the binds it rejects while it is bound come from there. -/
theorem rejected_bind_keeps_iff {deviceid : DeviceId} {evs : List Event}
    (h : (World.init P deviceid).run evs = some w) :
    (∀ ev addr, Misdirected w ev addr → ∃ w', w.step ev = some w' ∧
      (w'.userconfig = w.userconfig ↔ addr = w.userconfig.addr)) ∧
    (Along World.step FromBound (World.init P deviceid) evs → ∀ ev w', w.step ev = some w' →
      ∀ s ∈ w'.sent.drop w.sent.length, command s.message ∈ unsolicited →
        ∃ addr deviceNetid gatewayNetid,
          (accepted (World.init P deviceid) evs).getLast? =
            some (.bind addr deviceNetid gatewayNetid) ∧
          s.addr = { addr with s_port := routUdpPort }) := by
  refine ⟨fun ev addr hm => ?_, fun hf ev w' hs s hmem hc => ?_⟩
  · obtain ⟨w', hs, hconf⟩ := misdirected_step hm
    refine ⟨w', hs, ?_⟩
    rw [hconf]
    exact ⟨fun he => congrArg UserConfig.addr he, fun he => by rw [he]⟩
  · have hr := reports_of_mem_drop hs hmem hc
    obtain ⟨addr, hl⟩ := (bound_run h).isBind hr.flag
    have ht := boundTo_run hf h
    rw [hl] at ht
    refine ⟨addr, _, _, hl, ?_⟩
    rw [hr.addr, ← show w.userconfig.addr.s_ip = addr.s_ip from ht]

/-- A bind for another module. -/
def strangerMessage : List Byte :=
  { IotHead.zero with cmd := htons linkOrderBunding }.bytes ++ 0x58 :: List.replicate 43 0

def strangerBind (addr : SockAddr) : Event := .udp addr (base64Frame strangerMessage) true

theorem misdirected_strangerBind {evs : List Event} {w : World .sample}
    (h : (World.init .sample sampleId).run evs = some w) (addr : SockAddr)
    (hp : ((strangerBind addr).packet.map fun r =>
      (r.1.head.cmd, strcmpEq r.1.body.cells sampleId.block.cells, r.2.s_ip, r.2.s_port)) =
      some (linkOrderBunding, some false, addr.s_ip, addr.s_port)) :
    Misdirected w (strangerBind addr) addr := by
  obtain ⟨⟨buf, a⟩, hpacket, hr⟩ := Option.map_eq_some_iff.1 hp
  simp only [Prod.mk.injEq] at hr
  obtain ⟨hb, hne, hip, hport⟩ := hr
  have ha : a = addr := by
    cases a; cases addr
    rw [SockAddr.mk.injEq]
    exact ⟨hip, hport⟩
  subst ha
  exact ⟨buf, hpacket, hb, by rw [deviceid_run h]; exact hne⟩

/-- One that comes from the host the module is bound to. -/
theorem rejected_bind_keeps_same_host : ∃ w w',
    (World.init .sample sampleId).run [bindRequest] = some w ∧
      w.step (strangerBind ⟨0xC0A80001, 8671⟩) = some w' ∧ w'.userconfig = w.userconfig := by
  have hrun : ((World.init .sample sampleId).run [bindRequest]).map (fun w =>
      (w.userconfig.addr.s_ip, w.userconfig.addr.s_port)) = some (0xC0A80001, 8671) := by
    decide +kernel
  obtain ⟨w, hw, hr⟩ := Option.map_eq_some_iff.1 hrun
  obtain ⟨hip, hport⟩ := Prod.mk.inj hr
  have haddr : (⟨0xC0A80001, 8671⟩ : SockAddr) = w.userconfig.addr := by rw [← hip, ← hport]
  have hm := misdirected_strangerBind hw ⟨0xC0A80001, 8671⟩ (by decide +kernel)
  obtain ⟨w', hw', hiff⟩ := (rejected_bind_keeps_iff hw).1 _ _ hm
  exact ⟨w, w', hw, hw', hiff.2 haddr⟩

/-- One from another host: the heartbeat goes there from then on. -/
theorem stranger_takes_heartbeat : ∃ w w' w'' s,
    (World.init .sample sampleId).run [bindRequest] = some w ∧
      Misdirected w (strangerBind ⟨0xC0A80002, 4000⟩) ⟨0xC0A80002, 4000⟩ ∧
      w.step (strangerBind ⟨0xC0A80002, 4000⟩) = some w' ∧ w'.userconfig ≠ w.userconfig ∧
      w'.step .dataUploadTimer = some w'' ∧ s ∈ w''.sent.drop w'.sent.length ∧
      command s.message = linkQuestion ∧ s.addr.s_ip = 0xC0A80002 := by
  have hrun : ((World.init .sample sampleId).run [bindRequest]).bind (fun w =>
      (w.step (strangerBind ⟨0xC0A80002, 4000⟩)).bind fun w' =>
        (w'.step .dataUploadTimer).map fun w'' => (w.userconfig.addr.s_ip, w'.userconfig.addr.s_ip,
          (w''.sent.drop w'.sent.length).map fun s => (command s.message, s.addr.s_ip))) =
      some (0xC0A80001, 0xC0A80002, [(linkQuestion, 0xC0A80002)]) := by decide +kernel
  obtain ⟨w, hw, hrun⟩ := Option.bind_eq_some_iff.1 hrun
  obtain ⟨w', hw', hrun⟩ := Option.bind_eq_some_iff.1 hrun
  obtain ⟨w'', hw'', hr⟩ := Option.map_eq_some_iff.1 hrun
  simp only [Prod.mk.injEq] at hr
  obtain ⟨hip, hip', hl⟩ := hr
  obtain ⟨s, ss, hs, hc, -⟩ := List.map_eq_cons_iff.1 hl
  obtain ⟨hcmd, haddr⟩ := Prod.mk.inj hc
  have hm := misdirected_strangerBind hw ⟨0xC0A80002, 4000⟩ (by decide +kernel)
  refine ⟨w, w', w'', s, hw, hm, hw', fun he => ?_, hw'', by rw [hs]; exact List.mem_cons_self,
    hcmd, haddr⟩
  rw [he, hip] at hip'
  exact absurd hip' (by decide)

end

end MxchipSpp
