/-
  Sessions of updates.

  A packet of an update is looked at for its number only, and no variable of an
  update is ever set back: the packets the module takes are numbered 0, 1, 2
  and so on from its start, whoever sent them and of whatever image they are
  (`counts_run`).  The address of the sender is stored before the number is
  looked at, and the idle answer goes there (`ota_session`).  An update that
  failed cannot be started again before the module restarts
  (`failed_update_retried_iff`).
-/
import MxchipSpp.Ota

namespace MxchipSpp

open Memory Endian Outcome

/-! ## Packets -/

/-- A packet of an update: its fields, data and sender, and the answer of `malloc`. -/
structure OtaPacket where
  fota : IotFota
  data : List Byte
  addr : SockAddr
  malloc : Bool

namespace OtaPacket
variable (p : OtaPacket)

def codenumber : BitVec 32 := htonl p.fota.codeNumber
def totalnumber : BitVec 32 := htonl p.fota.codeTotal
def codeType : BitVec 32 := htonl p.fota.codeType
def codeVer : BitVec 32 := htonl p.fota.codeVer

end OtaPacket

/-- The packet of a step. -/
def Event.otaPacket : Event → Option OtaPacket
  | .udp addr datagram malloc => do
    let msg ← (Event.udp addr datagram malloc).request
    let b ← Buf.ofMessage msg
    let buf : Buf := { b with head := headLogPrintf b.head }
    if msg.length < sizeofIotHead ∨ buf.head.cmd ≠ manageUpgradeCode then none
    else do
      let (fota, datalen) ← iotGetOtaData buf msg.length
      let data ← otaPayload buf datalen
      return ⟨fota, data, addr, malloc⟩
  | _ => none

/-- The sender `tcl_ota_data` stores: of any packet of an update that `iotGetOtaData` finds, before its
    number is looked at. -/
def Event.otaSender : Event → Option SockAddr
  | .udp addr datagram malloc => do
    let msg ← (Event.udp addr datagram malloc).request
    let b ← Buf.ofMessage msg
    let buf : Buf := { b with head := headLogPrintf b.head }
    if msg.length < sizeofIotHead ∨ buf.head.cmd ≠ manageUpgradeCode then none
    else (iotGetOtaData buf msg.length).map fun _ => addr
  | _ => none

variable {P : Platform}

/-- The packet of a step, if it is the one that is due: `tcl_ota_data` looks no further. -/
def World.due (w : World P) (ev : Event) : Option OtaPacket :=
  ev.otaPacket.filter fun p => p.codenumber = w.ota.upcodenumber

/-- The packets taken in a run, in order. -/
def counted (w : World P) (evs : List Event) : List OtaPacket := trace World.step World.due w evs

section
variable {w w' : World P} {ev : Event} {p : OtaPacket}

/-- What `tcl_ota_data` does with a packet. -/
theorem step_otaPacket (hp : ev.otaPacket = some p) :
    w.step ev = if p.codenumber ≠ w.ota.upcodenumber then
        some ({ w with cause := ev }.setOtaaddr p.addr)
      else otaAccept p.malloc ({ w with cause := ev }.setOtaaddr p.addr) p.fota p.data := by
  cases ev with
  | udp addr datagram malloc =>
    obtain ⟨msg, hm, hp⟩ := Option.bind_eq_some_iff.1 hp
    obtain ⟨b, hb, hp⟩ := Option.bind_eq_some_iff.1 hp
    dsimp only at hp
    split_ifs at hp with hc
    obtain ⟨hl, hcmd⟩ := not_or.1 hc
    obtain ⟨⟨fota, datalen⟩, hget, hp⟩ := Option.bind_eq_some_iff.1 hp
    obtain ⟨data, hdata, hp⟩ := Option.bind_eq_some_iff.1 hp
    cases hp
    rw [World.step, World.handle, udpReceive_of_request hm, receive, hb, Option.bind_eq_bind,
      Option.bind_some, iotProcess, if_neg hl, iotSwitch, if_pos (not_not.1 hcmd), tclOtaData, hget]
    simp only [hdata, Option.bind_some]
    rfl
  | _ => cases hp

theorem otaSender_of_otaPacket (hp : ev.otaPacket = some p) : ev.otaSender = some p.addr := by
  cases ev with
  | udp addr datagram malloc =>
    obtain ⟨msg, hm, hp⟩ := Option.bind_eq_some_iff.1 hp
    obtain ⟨b, hb, hp⟩ := Option.bind_eq_some_iff.1 hp
    dsimp only at hp
    split_ifs at hp with hc
    obtain ⟨⟨fota, datalen⟩, hget, hp⟩ := Option.bind_eq_some_iff.1 hp
    obtain ⟨data, -, hp⟩ := Option.bind_eq_some_iff.1 hp
    cases hp
    rw [Event.otaSender, hm, Option.bind_eq_bind, Option.bind_some, hb, Option.bind_eq_bind,
      Option.bind_some, if_neg hc, hget]
    rfl
  | _ => cases hp

theorem otaSender_of_not_upgrades (hu : ¬ ev.Upgrades) : ev.otaSender = none := by
  cases ev with
  | udp addr datagram malloc =>
    rw [Event.otaSender, Option.bind_eq_bind, Option.bind_eq_none_iff]
    intro msg hr
    rw [Option.bind_eq_bind, Option.bind_eq_none_iff]
    intro b hb
    refine if_pos (.inr fun hc => hu ⟨msg, hr, ?_⟩)
    rw [← cmd_requestHead, requestHead, ← head_ofMessage hb]
    exact hc
  | _ => rfl

/-- Without a packet the update stays as it is, but for the address, and what is not a packet of an
    update is not answered as one. -/
theorem step_no_otaPacket (hp : ev.otaPacket = none) (h : w.step ev = some w') :
    w'.ota = { w.ota with otaaddr := ev.otaSender.getD w.ota.otaaddr } ∧
      (ev.Upgrades → w'.sent = w.sent) := by
  by_cases hu : ev.Upgrades
  · obtain ⟨msg, hr, hc⟩ := hu
    cases ev with
    | udp addr datagram malloc =>
      rw [Event.otaPacket, hr, Option.bind_eq_bind, Option.bind_some] at hp
      rw [Event.otaSender, hr, Option.bind_eq_bind, Option.bind_some]
      rw [World.step, World.handle, udpReceive_of_request hr] at h
      obtain ⟨b, hb, h⟩ := Option.bind_eq_some_iff.1 h
      unfold iotProcess at h
      split_ifs at h with hl
      have hcmd : (headLogPrintf b.head).cmd = manageUpgradeCode := by
        rw [head_ofMessage hb]
        exact (cmd_requestHead msg).trans hc
      rw [iotSwitch, if_pos hcmd, tclOtaData] at h
      rw [hb, Option.bind_eq_bind, Option.bind_some] at hp ⊢
      simp only [hcmd, hl, ne_eq, not_true, or_self, if_false] at hp ⊢
      cases hg : iotGetOtaData { b with head := headLogPrintf b.head } msg.length with
      | none =>
        rw [hg] at h
        cases h
        exact ⟨rfl, fun _ => rfl⟩
      | some r =>
        obtain ⟨fota, datalen⟩ := r
        rw [hg] at h hp
        dsimp only at h
        split_ifs at h
        · cases h
          exact ⟨rfl, fun _ => rfl⟩
        · obtain ⟨data, hdata, -⟩ := Option.bind_eq_some_iff.1 h
          simp only [hdata, Option.bind_eq_bind, Option.bind_some] at hp
          cases hp
    | _ => cases hr
  · refine ⟨?_, fun h => absurd h hu⟩
    rw [otaSender_of_not_upgrades hu]
    exact (sends_step h).ota hu

/-! ## The packet that is due -/

/-- The state after the data of the packet is stored. -/
def World.stored (w : World P) (p : OtaPacket) : World P :=
  otaStore (otaStart w p.codenumber p.fota) p.data

/-- `tcl_ota_data` calls `ota_end` for the packet. -/
structure Ends (w : World P) (p : OtaPacket) : Prop where
  due : p.codenumber = w.ota.upcodenumber
  last : p.codenumber = p.totalnumber - 1
  flag : (w.stored p).ota.upgradeFlag = true
  size : 1024 < (w.stored p).ota.recvsize.toInt

instance decidableEnds (w : World P) (p : OtaPacket) : Decidable (Ends w p) :=
  decidable_of_iff (p.codenumber = w.ota.upcodenumber ∧ p.codenumber = p.totalnumber - 1 ∧
      (w.stored p).ota.upgradeFlag = true ∧ 1024 < (w.stored p).ota.recvsize.toInt)
    ⟨fun ⟨h₁, h₂, h₃, h₄⟩ => ⟨h₁, h₂, h₃, h₄⟩, fun h => ⟨h.due, h.last, h.flag, h.size⟩⟩

/-- The message that acknowledges the packet, with the type and version of `o`. -/
def ackMessage (o : Ota P) (p : OtaPacket) : List Byte :=
  upgradeAckHead.bytes ++ (le32 (htonl o.codeType) ++ le32 (htonl o.codeVer) ++ le32 p.fota.codeNumber)

/-- The packet that is due is stored and acknowledged to its sender. -/
structure Takes (w : World P) (p : OtaPacket) (w' : World P) : Prop where
  ota : ∃ bootTables, w'.ota = { (w.stored p).ota with otaaddr := p.addr, bootTables }
  sent : ∃ s, w'.sent = w.sent ++ [s] ∧ s.message = ackMessage w'.ota p ∧ s.addr = p.addr

theorem ota_otaFinish (malloc : Bool) (number total : BitVec 32) :
    (∃ bootTables, (otaFinish malloc w number total).ota = { w.ota with bootTables }) ∧
      (otaFinish malloc w number total).sent = w.sent := by
  unfold otaFinish otaEnd micoOtaFinished
  dsimp only
  split_ifs <;> exact ⟨⟨_, rfl⟩, rfl⟩

theorem stored_setOtaaddr (ev : Event) (addr : SockAddr) :
    (({ w with cause := ev }.setOtaaddr addr).stored p).ota =
        { (w.stored p).ota with otaaddr := addr } ∧
      (({ w with cause := ev }.setOtaaddr addr).stored p).sent = w.sent := by
  unfold World.stored otaStart
  split_ifs with h₁ h₂ h₂
  · exact ⟨rfl, rfl⟩
  · exact absurd h₁ h₂
  · exact absurd h₂ h₁
  · exact ⟨rfl, rfl⟩

theorem takes_otaAccept (ev : Event) : ∃ w',
    otaAccept p.malloc ({ w with cause := ev }.setOtaaddr p.addr) p.fota p.data = some w' ∧
      Takes w p w' := by
  obtain ⟨hota, hsent⟩ := stored_setOtaaddr (w := w) (p := p) ev p.addr
  set w₀ := { w with cause := ev }.setOtaaddr p.addr
  obtain ⟨m, hm, he⟩ := otaAccept_eq p.malloc w₀ p.fota p.data
  set w₁ := (w₀.stored p).sendto m (base64Frame m) (w₀.stored p).ota.otaaddr with hw₁
  obtain ⟨⟨bootTables, ho⟩, hs⟩ := ota_otaFinish (w := w₁) p.malloc p.codenumber p.totalnumber
  have ho₁ : w₁.ota = { (w.stored p).ota with otaaddr := p.addr } := hota
  rw [ho₁] at ho
  refine ⟨otaFinish p.malloc w₁ p.codenumber p.totalnumber, he, ⟨bootTables, ho⟩,
    ⟨(w₀.stored p).cause, m, base64Frame m, p.addr⟩, ?_, ?_, rfl⟩
  · refine hs.trans ?_
    rw [hw₁, World.sendto, hsent, hota]
  · have hack : m = ackMessage (w₀.stored p).ota p := hm
    rw [hota] at hack
    exact hack.trans (by rw [ackMessage, ackMessage, ho])

/-- A packet is taken if it is due, and else dropped. -/
theorem step_takes (hp : ev.otaPacket = some p) : ∃ w', w.step ev = some w' ∧
    (p.codenumber = w.ota.upcodenumber → Takes w p w') ∧
    (p.codenumber ≠ w.ota.upcodenumber →
      w'.ota = { w.ota with otaaddr := p.addr } ∧ w'.sent = w.sent) := by
  rw [step_otaPacket hp]
  split_ifs with hne
  · exact ⟨_, rfl, fun h => absurd h hne, fun _ => ⟨rfl, rfl⟩⟩
  · obtain ⟨w', hw', ht⟩ := takes_otaAccept (w := w) (p := p) ev
    exact ⟨w', hw', fun _ => ht, fun h => absurd h hne⟩

/-- A step takes the packet that is due, or leaves the update as it is but for the address. -/
theorem step_due (h : w.step ev = some w') :
    (w.due ev = none ∧ ∃ addr, w'.ota = { w.ota with otaaddr := addr }) ∨
      ∃ p, w.due ev = some p ∧ p.codenumber = w.ota.upcodenumber ∧ Takes w p w' := by
  cases hp : ev.otaPacket with
  | none => exact .inl ⟨by rw [World.due, hp]; rfl, _, (step_no_otaPacket hp h).1⟩
  | some p =>
    obtain ⟨w₁, h₁, htake, hdrop⟩ := step_takes (w := w) hp
    rw [h] at h₁
    cases h₁
    by_cases hn : p.codenumber = w.ota.upcodenumber
    · exact .inr ⟨p, by rw [World.due, hp, Option.filter_some, if_pos (by simpa using hn)], hn, htake hn⟩
    · exact .inl ⟨by rw [World.due, hp, Option.filter_some, if_neg (by simpa using hn)], _, (hdrop hn).1⟩

/-! ## What is counted -/

/-- `ps` are the packets counted in `g_recvsize`: they are numbered from 0 on, and the type and the
    version are those of the first. -/
structure Counts (ps : List OtaPacket) (o : Ota P) : Prop where
  upcodenumber : o.upcodenumber = BitVec.ofNat 32 ps.length
  recvsize : o.recvsize = BitVec.ofNat 32 (ps.map fun p => p.data.length).sum
  numbers : ∀ i p, ps[i]? = some p → p.codenumber = BitVec.ofNat 32 i
  flag : o.upgradeFlag = true ↔ ps ≠ []
  latched : ∀ p ∈ ps.head?, o.codeType = p.codeType ∧ o.codeVer = p.codeVer

theorem counts_nil (deviceid : DeviceId) : Counts [] (World.init P deviceid).ota where
  upcodenumber := rfl
  recvsize := rfl
  numbers _ _ h := by cases h
  flag := by simp [World.init]
  latched _ h := by cases h

/-- The address, the flash and the boot tables do not count. -/
theorem Counts.congr {ps : List OtaPacket} {o o' : Ota P} (h : Counts ps o)
    (hu : o'.upcodenumber = o.upcodenumber) (hr : o'.recvsize = o.recvsize)
    (hf : o'.upgradeFlag = o.upgradeFlag) (ht : o'.codeType = o.codeType)
    (hv : o'.codeVer = o.codeVer) : Counts ps o' :=
  ⟨hu ▸ h.upcodenumber, hr ▸ h.recvsize, h.numbers, hf ▸ h.flag, by rw [ht, hv]; exact h.latched⟩

/-- The first packet starts a session. -/
theorem Counts.otaStart (h : Counts [] w.ota) (hn : p.codenumber = 0) :
    otaStart w p.codenumber p.fota = { w with
      ota.recvsize := 0
      ota.upgradeFlag := true
      ota.codeType := htonl p.fota.codeType
      ota.codeVer := htonl p.fota.codeVer } := by
  have hflag : w.ota.upgradeFlag = false := by
    have := h.flag
    simpa using this
  exact if_pos ⟨hn, hflag⟩

theorem Counts.stored {ps : List OtaPacket} (h : Counts ps w.ota)
    (hn : p.codenumber = w.ota.upcodenumber) : Counts (ps ++ [p]) (w.stored p).ota := by
  have hnumbers : ∀ i q, (ps ++ [p])[i]? = some q → q.codenumber = BitVec.ofNat 32 i := by
    intro i q hq
    rw [List.getElem?_append] at hq
    split_ifs at hq with hi
    · exact h.numbers i q hq
    · obtain ⟨hlt, rfl⟩ := List.getElem?_eq_some_iff.1 hq
      have hi' : i = ps.length := by simp at hlt; omega
      subst hi'
      rw [List.getElem_singleton, hn, h.upcodenumber]
  have hcount : w.ota.upcodenumber + 1 = BitVec.ofNat 32 (ps ++ [p]).length := by
    rw [h.upcodenumber, List.length_append, List.length_singleton, BitVec.ofNat_add]
    rfl
  have hsize : w.ota.recvsize + BitVec.ofNat 32 p.data.length =
      BitVec.ofNat 32 ((ps ++ [p]).map fun p => p.data.length).sum := by
    rw [h.recvsize, List.map_append, List.sum_append, BitVec.ofNat_add]
    simp
  by_cases hps : ps = []
  · subst hps
    have hzero : p.codenumber = 0 := by rw [hn, h.upcodenumber]; rfl
    have hrecv : w.ota.recvsize = 0 := h.recvsize
    rw [World.stored, h.otaStart hzero]
    refine ⟨hcount, ?_, hnumbers, by simp [otaStore], fun q hq => ?_⟩
    · rw [← hsize, hrecv]
      rfl
    · cases hq
      exact ⟨rfl, rfl⟩
  · have hflag : w.ota.upgradeFlag = true := h.flag.2 hps
    have hstart : MxchipSpp.otaStart w p.codenumber p.fota = w :=
      if_neg fun hc => by rw [hflag] at hc; exact absurd hc.2 (by decide)
    rw [World.stored, hstart]
    refine ⟨hcount, hsize, hnumbers, iff_of_true hflag (by simp), fun q hq => h.latched q ?_⟩
    rwa [List.head?_append_of_ne_nil _ hps] at hq

theorem Counts.step {ps : List OtaPacket} (h : Counts ps w.ota) (hs : w.step ev = some w') :
    Counts (ps ++ (w.due ev).toList) w'.ota := by
  rcases step_due hs with ⟨hd, addr, ho⟩ | ⟨p, hd, hn, ht⟩
  · rw [hd, Option.toList_none, List.append_nil]
    exact h.congr (by rw [ho]) (by rw [ho]) (by rw [ho]) (by rw [ho]) (by rw [ho])
  · obtain ⟨bootTables, ho⟩ := ht.ota
    rw [hd, Option.toList_some]
    exact (h.stored hn).congr (by rw [ho]) (by rw [ho]) (by rw [ho]) (by rw [ho]) (by rw [ho])

theorem counts_run {deviceid : DeviceId} {evs : List Event}
    (h : (World.init P deviceid).run evs = some w) :
    Counts (counted (World.init P deviceid) evs) w.ota := by
  rw [counted, ← List.nil_append (trace _ _ _ _)]
  exact foldlM_trace (I := fun w ps => Counts ps w.ota) (C := fun _ _ => True)
    (fun hi _ hs => hi.step hs) (counts_nil deviceid) (.of_forall fun _ _ => trivial) h

/-! ## Who is answered -/

/-- The address of the update is that of the last packet that came, taken or not. -/
theorem otaaddr_step (h : w.step ev = some w') : w'.ota.otaaddr = ev.otaSender.getD w.ota.otaaddr := by
  cases hp : ev.otaPacket with
  | none => rw [(step_no_otaPacket hp h).1]
  | some p =>
    obtain ⟨w₁, h₁, htake, hdrop⟩ := step_takes (w := w) hp
    rw [h] at h₁
    cases h₁
    rw [otaSender_of_otaPacket hp, Option.getD_some]
    by_cases hn : p.codenumber = w.ota.upcodenumber
    · obtain ⟨bootTables, ho⟩ := (htake hn).ota
      rw [ho]
    · rw [(hdrop hn).1]

theorem otaaddr_run {evs : List Event} (h : w.run evs = some w') :
    w'.ota.otaaddr = ((evs.filterMap Event.otaSender).getLast?).getD w.ota.otaaddr := by
  induction evs generalizing w with
  | nil =>
    cases h
    rfl
  | cons ev evs ih =>
    rw [World.run, List.foldlM_cons] at h
    obtain ⟨w₁, h₁, h⟩ := Option.bind_eq_some_iff.1 h
    rw [ih h, otaaddr_step h₁]
    cases hs : ev.otaSender with
    | none => rw [List.filterMap_cons_none hs, Option.getD_none]
    | some addr =>
      rw [List.filterMap_cons_some hs, List.getLast?_cons, Option.getD_some, Option.getD_some]

theorem counted_of_no_otaSender {evs : List Event} (h : evs.filterMap Event.otaSender = []) :
    counted w evs = [] := by
  induction evs generalizing w with
  | nil => rfl
  | cons ev evs ih =>
    have hs : ev.otaSender = none := by
      rw [List.filterMap_eq_nil_iff] at h
      exact h ev List.mem_cons_self
    rw [List.filterMap_cons_none hs] at h
    have hd : w.due ev = none := by
      cases hp : ev.otaPacket with
      | none => rw [World.due, hp]; rfl
      | some p =>
        rw [otaSender_of_otaPacket hp] at hs
        cases hs
    rw [counted, trace, hd]
    cases w.step ev with
    | none => rfl
    | some w₁ => exact ih h

/-- The last packet taken is the one the idle answer acknowledges. -/
theorem Counts.idleAck {ps : List OtaPacket} (h : Counts ps w.ota)
    (hpos : 0 < w.ota.upcodenumber.toInt) :
    ∃ p, ps.getLast? = some p ∧ MxchipSpp.idleAck w = ackMessage w.ota p := by
  rcases List.eq_nil_or_concat ps with rfl | ⟨ps, p, rfl⟩
  · rw [h.upcodenumber] at hpos
    exact absurd hpos (by decide)
  rw [List.concat_eq_append] at h ⊢
  refine ⟨p, List.getLast?_concat, ?_⟩
  have hp := h.numbers ps.length p (by simp)
  have hup : w.ota.upcodenumber - 1 = p.codenumber := by
    rw [hp, h.upcodenumber, List.length_append, List.length_singleton, BitVec.ofNat_add]
    exact BitVec.add_sub_cancel _ _
  have hnumber : htonl p.codenumber = p.fota.codeNumber := swap32_swap32 _
  rw [MxchipSpp.idleAck, hup, hnumber, ackMessage]

/-! ## The state of an update -/

/-- What the packets that came before make of the update, and what each step may do with it. -/
structure OtaSession (deviceid : DeviceId) (evs : List Event) (w : World P) : Prop where
  counts : Counts (counted (World.init P deviceid) evs) w.ota
  /-- in the step that receives it, a packet is stored and acknowledged, to its sender and with the type
      and version of the first packet taken, exactly if its number is due; when `ota_end` is called for
      it, the packets counted are as many as it says there are -/
  packet : ∀ {ev : Event} {p : OtaPacket}, ev.otaPacket = some p → ∃ w', w.step ev = some w' ∧
    (p.codenumber ≠ w.ota.upcodenumber →
      w'.ota = { w.ota with otaaddr := p.addr } ∧ w'.sent = w.sent) ∧
    (p.codenumber = w.ota.upcodenumber →
      Takes w p w' ∧ Counts (counted (World.init P deviceid) evs ++ [p]) w'.ota) ∧
    (Ends w p → p.totalnumber =
      BitVec.ofNat 32 (counted (World.init P deviceid) evs ++ [p]).length)
  /-- the idle answer acknowledges the last packet taken once more, to the sender of the last packet that
      came, be it taken or not -/
  idle : ∃ w', w.step .selectTimeout = some w' ∧ w'.ota = w.ota ∧
    if 0 < w.ota.upcodenumber.toInt then
      ∃ p addr, (counted (World.init P deviceid) evs).getLast? = some p ∧
        (evs.filterMap Event.otaSender).getLast? = some addr ∧
        w'.sent = w.sent ++
          [⟨.selectTimeout, ackMessage w.ota p, base64Frame (ackMessage w.ota p), addr⟩]
    else w'.sent = w.sent
  /-- any other step leaves the update as it is, but for the address, and acknowledges nothing -/
  other : ∀ {ev : Event} {w' : World P}, ev.otaPacket = none → ev ≠ .selectTimeout →
    w.step ev = some w' → w'.ota = { w.ota with otaaddr := ev.otaSender.getD w.ota.otaaddr } ∧
      ∀ s ∈ w'.sent.drop w.sent.length, command s.message ≠ linkUpgradeAck

/-- A step without a packet acknowledges nothing. -/
theorem not_ack_of_no_otaPacket (hp : ev.otaPacket = none) (ht : ev ≠ .selectTimeout)
    (h : w.step ev = some w') :
    ∀ s ∈ w'.sent.drop w.sent.length, command s.message ≠ linkUpgradeAck := by
  intro s hs
  by_cases hu : ev.Upgrades
  · rw [(step_no_otaPacket hp h).2 hu, List.drop_length] at hs
    exact absurd hs List.not_mem_nil
  · obtain ⟨news, e, hnews⟩ := (sends_step h).sent
    rw [e, List.drop_left] at hs
    exact (hnews s hs).2.not_ack hu ht

/-- **Sessions.**  The number is the only gate, whoever sent a packet and of whatever image it is; but
    the address of its sender is stored before. -/
theorem ota_session {deviceid : DeviceId} {evs : List Event}
    (h : (World.init P deviceid).run evs = some w) : OtaSession deviceid evs w := by
  have hcounts := counts_run h
  refine ⟨hcounts, fun {ev p} hp => ?_, ?_, fun hp ht hs =>
    ⟨(step_no_otaPacket hp hs).1, not_ack_of_no_otaPacket hp ht hs⟩⟩
  · obtain ⟨w', hs, htake, hdrop⟩ := step_takes (w := w) hp
    refine ⟨w', hs, hdrop, fun hn => ⟨htake hn, ?_⟩, fun he => ?_⟩
    · obtain ⟨bootTables, ho⟩ := (htake hn).ota
      exact (hcounts.stored hn).congr (by rw [ho]) (by rw [ho]) (by rw [ho]) (by rw [ho]) (by rw [ho])
    · rw [List.length_append, List.length_singleton, BitVec.ofNat_add, ← hcounts.upcodenumber, ← he.due,
        he.last]
      exact (BitVec.sub_add_cancel _ _).symm
  · refine ⟨_, selectTimeout_eq _, ?_⟩
    split_ifs with hpos
    · obtain ⟨p, hlast, hack⟩ := hcounts.idleAck hpos
      have hsender : evs.filterMap Event.otaSender ≠ [] := fun hn => by
        rw [counted_of_no_otaSender hn] at hlast
        cases hlast
      have haddr := List.getLast?_eq_some_getLast hsender
      have hota := otaaddr_run h
      rw [haddr, Option.getD_some] at hota
      refine ⟨rfl, p, _, hlast, haddr, ?_⟩
      rw [World.sendto, ← hota]
      change w.sent ++ [⟨_, idleAck w, base64Frame (idleAck w), _⟩] = _
      rw [hack]
    · exact ⟨rfl, rfl⟩

/-- A packet with 600 bytes of data, of which the last is given. -/
def longPacket (codeType codeVer codeTotal codeNumber : BitVec 32) (last : Byte) : List Byte :=
  { IotHead.zero with cmd := htons manageUpgradeCode, len := htons 616 }.bytes ++
    (IotFota.bytes ⟨htonl codeType, htonl codeVer, htonl codeTotal, htonl codeNumber⟩ ++
      (List.replicate 599 0 ++ [last]))

/-- Packet 0 of nine, from one host, and the two packets of another image, from another host. -/
def firstOfNine : Event := .udp ⟨0xC0A80001, 8671⟩ (base64Frame (longPacket 1 1 9 0 0)) true
def firstOfTwo : Event := .udp ⟨0xC0A80002, 8671⟩ (base64Frame (longPacket 2 2 2 0 0)) true
def lastOfTwo (last : Byte) : Event :=
  .udp ⟨0xC0A80002, 8671⟩ (base64Frame (longPacket 2 2 2 1 last)) true

/-- Of the first two, one is taken; the idle answer acknowledges it to the sender of the other, whose next
    packet is then taken. -/
theorem ota_session_mixed : ∃ w q p w', (World.init .sample sampleId).run
      [firstOfNine, firstOfTwo, .selectTimeout] = some w ∧
    OtaSession sampleId [firstOfNine, firstOfTwo, .selectTimeout] w ∧
    counted (World.init .sample sampleId) [firstOfNine, firstOfTwo, .selectTimeout] = [q] ∧
    q.addr.s_ip = 0xC0A80001 ∧
    w.sent.map (fun s => (s.addr.s_ip, ackNumber s.message)) = [(0xC0A80001, 0), (0xC0A80002, 0)] ∧
    (lastOfTwo 0).otaPacket = some p ∧ w.step (lastOfTwo 0) = some w' ∧ Takes w p w' := by
  have hrun : ((World.init .sample sampleId).run [firstOfNine, firstOfTwo, .selectTimeout]).map
      (fun w => (w.ota.upcodenumber, w.sent.map fun s => (s.addr.s_ip, ackNumber s.message))) =
      some (1, [(0xC0A80001, 0), (0xC0A80002, 0)]) := by decide +kernel
  have hq : (counted (World.init .sample sampleId) [firstOfNine, firstOfTwo, .selectTimeout]).map
      (fun q => q.addr.s_ip) = [0xC0A80001] := by decide +kernel
  have hp : ((lastOfTwo 0).otaPacket.map OtaPacket.codenumber) = some 1 := by decide +kernel
  obtain ⟨w, hw, hrun⟩ := Option.map_eq_some_iff.1 hrun
  obtain ⟨hup, hsent⟩ := Prod.mk.inj hrun
  obtain ⟨q, qs, hcounted, hq, hqs⟩ := List.map_eq_cons_iff.1 hq
  rw [List.map_eq_nil_iff] at hqs
  obtain ⟨p, hpacket, hn⟩ := Option.map_eq_some_iff.1 hp
  have hsession := ota_session hw
  obtain ⟨w', hs, -, htake, -⟩ := hsession.packet hpacket
  exact ⟨w, q, p, w', hw, hsession, by rw [hcounted, hqs], hq, hsent, hpacket, hs,
    (htake (hn.trans hup.symm)).1⟩

/-- Both are taken as one session. -/
theorem mixed_session : ∃ w w' p q, (World.init .sample sampleId).run [firstOfNine] = some w ∧
    counted (World.init .sample sampleId) [firstOfNine] = [q] ∧
    (lastOfTwo 0).otaPacket = some p ∧ Ends w p ∧
    w.step (lastOfTwo 0) = some w' ∧ w'.sent.length = w.sent.length + 1 ∧
    w'.ota.recvsize.toNat = q.data.length + p.data.length ∧
    (p.codeType ≠ q.codeType ∧ p.codeType ≠ w'.ota.codeType) ∧
    (p.codeVer ≠ q.codeVer ∧ p.codeVer ≠ w'.ota.codeVer) ∧
    p.totalnumber ≠ q.totalnumber ∧ p.addr.s_ip ≠ q.addr.s_ip := by
  have hp : ((lastOfTwo 0).otaPacket.bind fun p =>
      ((World.init .sample sampleId).run [firstOfNine]).bind fun w =>
        (w.step (lastOfTwo 0)).map fun w' =>
          (decide (Ends w p), w.sent.length, w'.sent.length, w'.ota.recvsize.toNat, w'.ota.codeType,
            w'.ota.codeVer)) = some (true, 1, 2, 1200, 1, 1) := by decide +kernel
  have hp' : ((lastOfTwo 0).otaPacket.map fun p =>
      (p.codeType, p.codeVer, p.totalnumber, p.addr.s_ip, p.data.length)) =
      some (2, 2, 2, 0xC0A80002, 600) := by decide +kernel
  have hq : (counted (World.init .sample sampleId) [firstOfNine]).map (fun q =>
      (q.codeType, q.codeVer, q.totalnumber, q.addr.s_ip, q.data.length)) =
      [(1, 1, 9, 0xC0A80001, 600)] := by decide +kernel
  obtain ⟨p, hpacket, hp⟩ := Option.bind_eq_some_iff.1 hp
  obtain ⟨w, hw, hp⟩ := Option.bind_eq_some_iff.1 hp
  obtain ⟨w', hw', hp⟩ := Option.map_eq_some_iff.1 hp
  obtain ⟨q, qs, hcounted, hq, hqs⟩ := List.map_eq_cons_iff.1 hq
  rw [List.map_eq_nil_iff] at hqs
  rw [hpacket, Option.map_some, Option.some.injEq] at hp'
  simp only [Prod.mk.injEq, decide_eq_true_eq] at hp hp' hq
  obtain ⟨hends, hs, hs', hsize, htype, hver⟩ := hp
  obtain ⟨pt, pv, pn, pa, pl⟩ := hp'
  obtain ⟨qt, qv, qn, qa, ql⟩ := hq
  refine ⟨w, w', p, q, hw, by rw [hcounted, hqs], hpacket, hends, hw', by rw [hs, hs'],
    by rw [hsize, pl, ql], ?_, ?_, ?_, ?_⟩
  · rw [pt, qt, htype]; decide
  · rw [pv, qv, hver]; decide
  · rw [pn, qn]; decide
  · rw [pa, qa]; decide

/-! ## After a failed update -/

/-- `ota_end` calculates another digest than the one received. -/
def Mismatch (w : World P) : Prop :=
  let filelen := w.ota.recvsize - 16
  P.md5Final (md5Loop w.ota.flash filelen.toInt.toNat 0 P.initMd5) ≠
    (P.flashRead w.ota.flash filelen.toNat 16).1

instance decidableMismatch (w : World P) : Decidable (Mismatch w) :=
  inferInstanceAs (Decidable (_ ≠ _))

/-- The step calls `ota_end`, which rejects the image. -/
structure FailsCheck (w : World P) (ev : Event) : Prop where
  packet : ∃ p, ev.otaPacket = some p ∧ Ends w p ∧ p.malloc = true ∧ Mismatch (w.stored p)

/-- The packet is taken as the first of an update: its data is written at offset 0 and acknowledged,
    and it is all that is counted. -/
structure Restarts (w : World P) (p : OtaPacket) (w' : World P) : Prop where
  written : w'.ota.flash = P.flashWrite w.ota.flash 0 p.data
  acked : ∃ s ∈ w'.sent.drop w.sent.length,
    command s.message = linkUpgradeAck ∧ ackNumber s.message = p.codenumber
  counts : Counts [p] w'.ota

/-- So it is on a module that has taken no packet yet. -/
theorem restarts_of_counts_nil (h : Counts [] w.ota) (hp : ev.otaPacket = some p)
    (hn : p.codenumber = 0) : ∃ w', w.step ev = some w' ∧ Restarts w p w' := by
  obtain ⟨w', hs, htake, -⟩ := step_takes (w := w) hp
  have hdue : p.codenumber = w.ota.upcodenumber := hn.trans h.upcodenumber.symm
  obtain ⟨⟨bootTables, ho⟩, s, hsent, hm, -⟩ := htake hdue
  refine ⟨w', hs, ?_, ⟨s, by rw [hsent]; simp, ?_, ?_⟩, ?_⟩
  · rw [ho, World.stored, h.otaStart hn]
    rfl
  · rw [hm]
    exact (IsMessage.command (k := 12) ⟨_, rfl, rfl⟩)
  · rw [hm, ackMessage, ackNumber_ack]
    rfl
  · exact (h.stored hdue).congr (by rw [ho]) (by rw [ho]) (by rw [ho]) (by rw [ho]) (by rw [ho])

/-- The state after a restart: of the update the flash is left, with the boot table in it. -/
def World.restart (w : World P) : World P :=
  { World.init P w.userconfig.deviceid with
    ota.flash := w.ota.flash
    ota.bootTables := w.ota.bootTables
    sent := w.sent }

theorem counts_restart : Counts [] w.restart.ota :=
  (counts_nil w.userconfig.deviceid).congr rfl rfl rfl rfl rfl

/-- The module goes on, without a packet of an update, and restarts some time after it was asked to;
    `restarted` says whether it has. -/
inductive Lives (w : World P) : (restarted : Bool) → World P → Prop where
  | start : Lives w false w
  | step {restarted : Bool} {w₁ w₂ : World P} {ev : Event} (h : Lives w restarted w₁)
      (hu : ¬ ev.Upgrades) (hs : w₁.step ev = some w₂) : Lives w restarted w₂
  | restart {restarted : Bool} {w₁ : World P} (h : Lives w restarted w₁)
      (hr : w₁.restarting = true) : Lives w true w₁.restart

/-- Without a restart the update stays as it is, and with one nothing of it is counted. -/
theorem Lives.ota {restarted : Bool} (h : Lives w restarted w') :
    if restarted then Counts [] w'.ota else w'.ota = w.ota := by
  induction h with
  | start => simp
  | step _ hu hs ih => rwa [(sends_step hs).ota hu]
  | restart _ _ _ => exact counts_restart

/-- What a rejected image leaves behind. -/
theorem FailsCheck.leaves {deviceid : DeviceId} {evs : List Event} (hf : FailsCheck w ev)
    (h : (World.init P deviceid).run evs = some w) (hs : w.step ev = some w') :
    ∃ n : ℕ, 0 < n ∧ n ≤ evs.length + 1 ∧ w'.ota.upcodenumber = BitVec.ofNat 32 n ∧
      w'.ota.upgradeFlag = true ∧ 1024 < w'.ota.recvsize.toInt := by
  obtain ⟨p, hp, hends, -, -⟩ := hf.packet
  obtain ⟨w₁, hs₁, htake, -⟩ := step_takes (w := w) hp
  rw [hs, Option.some.injEq] at hs₁
  subst hs₁
  obtain ⟨bootTables, ho⟩ := (htake hends.due).ota
  have hle : (counted (World.init P deviceid) evs).length ≤ evs.length := length_trace_le evs _
  refine ⟨(counted (World.init P deviceid) evs ++ [p]).length, by simp, by simp [hle], ?_⟩
  rw [ho]
  exact ⟨((counts_run h).stored hends.due).upcodenumber, hends.flag, hends.size⟩

/-- Once an image was rejected, packet 0 is not taken as the first of an update. -/
theorem not_restarts_of_flag (hflag : w.ota.upgradeFlag = true) (hsize : 1024 < w.ota.recvsize.toInt)
    (hp : ev.otaPacket = some p) (hs : w.step ev = some w') : ¬ Restarts w p w' := by
  intro hr
  obtain ⟨w₁, hs₁, htake, hdrop⟩ := step_takes (w := w) hp
  rw [hs, Option.some.injEq] at hs₁
  subst hs₁
  by_cases hdue : p.codenumber = w.ota.upcodenumber
  · -- it is stored behind the rejected image
    obtain ⟨bootTables, ho⟩ := (htake hdue).ota
    have hstart : otaStart w p.codenumber p.fota = w :=
      if_neg fun hc => by rw [hflag] at hc; exact absurd hc.2 (by decide)
    have hrecv : w'.ota.recvsize = w.ota.recvsize + BitVec.ofNat 32 p.data.length := by
      rw [ho, World.stored, hstart]
      rfl
    have hcount : w'.ota.recvsize = BitVec.ofNat 32 p.data.length := by
      simpa using hr.counts.recvsize
    have hzero : w.ota.recvsize = 0 := by
      have := congrArg (· - BitVec.ofNat 32 p.data.length) (hrecv.symm.trans hcount)
      simp only [BitVec.add_sub_cancel, BitVec.sub_self] at this
      exact this
    rw [hzero] at hsize
    exact absurd hsize (by decide)
  · obtain ⟨s, hmem, -⟩ := hr.acked
    rw [(hdrop hdue).2, List.drop_length] at hmem
    exact absurd hmem List.not_mem_nil

/-- **A failed update.**  After `ota_end` has rejected an image, packet 0 starts an update again exactly
    if the module has restarted in between; else, short of 2^32 packets, it is neither written nor
    acknowledged. -/
theorem failed_update_retried_iff {deviceid : DeviceId} {evs : List Event} {w₁ w₂ : World P}
    {ev' : Event} {restarted : Bool} (h : (World.init P deviceid).run evs = some w)
    (hf : FailsCheck w ev) (h₁ : w.step ev = some w₁) (hg : Lives w₁ restarted w₂)
    (hp : ev'.otaPacket = some p) (hn : p.codenumber = 0) :
    ∃ w', w₂.step ev' = some w' ∧ (Restarts w₂ p w' ↔ restarted = true) ∧
      (restarted = false → evs.length + 1 < 2 ^ 32 →
        w'.ota = { w₂.ota with otaaddr := p.addr } ∧ w'.sent = w₂.sent) := by
  have hota := hg.ota
  cases restarted with
  | true =>
    obtain ⟨w', hs, hr⟩ := restarts_of_counts_nil hota hp hn
    exact ⟨w', hs, iff_of_true hr rfl, fun hno => Bool.noConfusion hno⟩
  | false =>
    obtain ⟨n, hpos, hle, hup, hflag, hsize⟩ := hf.leaves h h₁
    have ho : w₂.ota = w₁.ota := hota
    rw [← ho] at hup hflag hsize
    obtain ⟨w', hs, -, hdrop⟩ := step_takes (w := w₂) hp
    refine ⟨w', hs, iff_of_false (not_restarts_of_flag hflag hsize hp hs) Bool.false_ne_true,
      fun _ hlen => hdrop fun hdue => ?_⟩
    rw [hn, hup] at hdue
    have hz := congrArg BitVec.toNat hdue
    rw [BitVec.toNat_ofNat] at hz
    have h₀ : (0 : BitVec 32).toNat = 0 := rfl
    omega

/-- A request to restart. -/
def rebootRequest : Event :=
  .udp ⟨0xC0A80002, 8671⟩ (base64Frame { IotHead.zero with cmd := htons manageModelReboot }.bytes) true

/-- The image of two packets fails the check, then a restart is asked for; packet 0 comes again. -/
theorem failed_sample : ∃ w w₁ w₂ p, (World.init .sample sampleId).run [firstOfTwo] = some w ∧
    FailsCheck w (lastOfTwo 1) ∧ w.step (lastOfTwo 1) = some w₁ ∧ w₁.ota.upcodenumber = 2 ∧
    w₁.step rebootRequest = some w₂ ∧ w₂.restarting = true ∧ ¬ rebootRequest.Upgrades ∧
    firstOfTwo.otaPacket = some p ∧ p.codenumber = 0 := by
  have hp : (firstOfTwo.otaPacket.map OtaPacket.codenumber) = some 0 := by decide +kernel
  have hf : ((lastOfTwo 1).otaPacket.bind fun p =>
      ((World.init .sample sampleId).run [firstOfTwo]).bind fun w =>
        (w.step (lastOfTwo 1)).bind fun w₁ => (w₁.step rebootRequest).map fun w₂ =>
          (decide (Ends w p ∧ p.malloc = true ∧ Mismatch (w.stored p)), w₁.ota.upcodenumber,
            w₂.restarting)) = some (true, 2, true) := by decide +kernel
  have hu : (rebootRequest.request.map command) = some manageModelReboot := by decide +kernel
  obtain ⟨p, hpacket, hn⟩ := Option.map_eq_some_iff.1 hp
  obtain ⟨p₁, hp₁, hf⟩ := Option.bind_eq_some_iff.1 hf
  obtain ⟨w, hw, hf⟩ := Option.bind_eq_some_iff.1 hf
  obtain ⟨w₁, hw₁, hf⟩ := Option.bind_eq_some_iff.1 hf
  obtain ⟨w₂, hw₂, hf⟩ := Option.map_eq_some_iff.1 hf
  simp only [Prod.mk.injEq, decide_eq_true_eq] at hf
  obtain ⟨hf, hup, hr⟩ := hf
  refine ⟨w, w₁, w₂, p, hw, ⟨p₁, hp₁, hf⟩, hw₁, hup, hw₂, hr, ?_, hpacket, hn⟩
  rintro ⟨msg, hmsg, hc⟩
  rw [hmsg, Option.map_some, hc] at hu
  exact absurd hu (by decide)

/-- After the restart the packet is taken, and without it dropped. -/
theorem failed_update_retried_sample : ∃ w w₁ w₂ w' w'' p,
    (World.init .sample sampleId).run [firstOfTwo] = some w ∧ FailsCheck w (lastOfTwo 1) ∧
    w.step (lastOfTwo 1) = some w₁ ∧ w₁.step rebootRequest = some w₂ ∧
    firstOfTwo.otaPacket = some p ∧ w₂.step firstOfTwo = some w' ∧ w'.sent = w₂.sent ∧
    w₂.restart.step firstOfTwo = some w'' ∧ Restarts w₂.restart p w'' := by
  obtain ⟨w, w₁, w₂, p, hw, hf, hw₁, -, hw₂, hr, hu, hp, hn⟩ := failed_sample
  have hg : Lives w₁ false w₂ := .step .start hu hw₂
  obtain ⟨w', hs, -, hdrop⟩ := failed_update_retried_iff hw hf hw₁ hg hp hn
  obtain ⟨w'', hs', hiff, -⟩ := failed_update_retried_iff hw hf hw₁ (hg.restart hr) hp hn
  exact ⟨w, w₁, w₂, w', w'', p, hw, hf, hw₁, hw₂, hp, hs, (hdrop rfl (by norm_num)).2, hs',
    hiff.2 rfl⟩

/-- It is dropped. -/
theorem retry_dropped : ∃ w w₁ w' p,
    (World.init .sample sampleId).run [firstOfTwo] = some w ∧ FailsCheck w (lastOfTwo 1) ∧
    w.step (lastOfTwo 1) = some w₁ ∧ firstOfTwo.otaPacket = some p ∧ p.codenumber = 0 ∧
    w₁.step firstOfTwo = some w' ∧ ¬ Restarts w₁ p w' := by
  obtain ⟨w, w₁, -, p, hw, hf, hw₁, hup, -, -, -, hp, hn⟩ := failed_sample
  obtain ⟨w', hs, -, hdrop⟩ := step_takes (w := w₁) hp
  obtain ⟨-, hsent⟩ := hdrop (by rw [hn, hup]; decide)
  refine ⟨w, w₁, w', p, hw, hf, hw₁, hp, hn, hs, fun hr => ?_⟩
  obtain ⟨s, hmem, -⟩ := hr.acked
  rw [hsent, List.drop_length] at hmem
  exact absurd hmem List.not_mem_nil

end

end MxchipSpp
