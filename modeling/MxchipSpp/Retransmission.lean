/-
  Requests that come twice.

  A handler answers from the identifier and the netids, which a search, a
  deletion or a reading of the versions leaves as they are: the second copy of
  such a request gets the answer of the first.  A bind is accepted by a module
  that is not bound, so its second copy is not.
-/
import MxchipSpp.CommandAck

namespace MxchipSpp

open Memory Endian

variable {P : Platform}

/-- The datagrams sent between `w` and `w'`, with their destinations. -/
def answers (w w' : World P) : List (List Byte × SockAddr) :=
  (w'.sent.drop w.sent.length).map fun s => (s.bytes, s.addr)

/-- `x` and `x₁` send the same message from `w` and from `w₁`. -/
def SendSame (w w₁ : World P) (addr : SockAddr) (x x₁ : Option (World P)) : Prop :=
  ∃ m, x = some (w.sendto m (base64Frame m) addr) ∧ x₁ = some (w₁.sendto m (base64Frame m) addr)

section
variable {w w₁ w' : World P} {buf : Buf} {addr : SockAddr} {x x₁ : Option (World P)}

/-! ## One handler in two states -/

/-- The same bytes written, in a handler that goes on with the buffer. -/
theorem SendSame.write {n i : ℕ} {p : Packet n} {f f₁ : Packet n → Option (World P)} {src : List Byte}
    (h : i + src.length ≤ n) (hf : ∀ p' : Packet n, SendSame w w₁ addr (f p') (f₁ p')) :
    SendSame w w₁ addr (p.write i src >>= f) (p.write i src >>= f₁) := by
  rw [p.write_of_le h]
  exact hf _

/-- The end of the handler. -/
theorem SendSame.message {n k : ℕ} (p : Packet n) (hk : k ≤ n) (hfit : k ≤ 740) :
    SendSame w w₁ addr (p.message k >>= fun dt => mySend w dt addr)
      (p.message k >>= fun dt => mySend w₁ dt addr) := by
  obtain ⟨m, hm, h⟩ := p.message_eq hk
  have hlen : (base64Frame m).length ≤ 1024 := by
    rw [length_base64Frame, h.length]
    omega
  rw [hm]
  exact ⟨m, mySend_of_le hlen, mySend_of_le hlen⟩

theorem sendSame_discovery (hid : w₁.userconfig.deviceid = w.userconfig.deviceid) :
    SendSame w w₁ addr (tclDiscoveryDeviceAck w buf addr) (tclDiscoveryDeviceAck w₁ buf addr) := by
  have hname : deviceName.length = 8 := by decide
  rw [tclDiscoveryDeviceAck, tclDiscoveryDeviceAck, hid]
  refine .write (by simp) fun _ => .write (by simp) fun _ => .write (by simp) fun _ => ?_
  refine .write (by simp [hname]) fun _ => .write (by simp) fun b => ?_
  exact .message b (by decide) (by decide)

theorem sendSame_delete (hid : w₁.userconfig.deviceid = w.userconfig.deviceid)
    (hnet : w₁.userconfig.deviceNetid = w.userconfig.deviceNetid) :
    SendSame w w₁ addr (tclManageDeleteAck w buf addr) (tclManageDeleteAck w₁ buf addr) := by
  rw [tclManageDeleteAck, tclManageDeleteAck, hid, hnet]
  refine .write (by simp) fun _ => .write (by simp) fun _ => .write (by simp) fun b => ?_
  exact .message b (by decide) (by decide)

theorem sendSame_read :
    SendSame w w₁ addr (tclManageReadAck w buf addr) (tclManageReadAck w₁ buf addr) := by
  refine .write (by simp) fun _ => .write (by simp) fun b => ?_
  exact .message b (by decide) (by decide)

/-! ## The `switch` -/

variable {malloc malloc' : Bool} {len len' : ℕ}

theorem iotSwitch_discovery (hc : buf.head.cmd = defineDiscoveryQuestion) :
    iotSwitch malloc w buf len addr = tclDiscoveryDeviceAck w buf addr := by
  rw [iotSwitch, hc]; rfl

theorem iotSwitch_read (hc : buf.head.cmd = linkReadInformation) :
    iotSwitch malloc w buf len addr = tclManageReadAck w buf addr := by
  rw [iotSwitch, hc]; rfl

theorem answers_sendto (w : World P) (m bytes : List Byte) (addr : SockAddr) :
    answers w (w.sendto m bytes addr) = [(bytes, addr)] := by
  simp [answers, World.sendto]

/-- A handler that keeps `g_userconfig`, in the state it left. -/
theorem SendSame.twice (h : SendSame w w₁ addr x x₁) (hx : x = some w') :
    ∃ w'', x₁ = some w'' ∧ w''.userconfig = w₁.userconfig ∧ w'.userconfig = w.userconfig ∧
      answers w₁ w'' = answers w w' := by
  obtain ⟨m, hw, hw₁⟩ := h
  rw [hx] at hw
  cases hw
  exact ⟨_, hw₁, rfl, rfl, by rw [answers_sendto, answers_sendto]⟩

/-- The requests that are looked at: a search, a bind, a deletion, and a reading of the versions. -/
def manageRequests : List (BitVec 16) :=
  [defineDiscoveryQuestion, linkOrderBunding, manageDelete, linkReadInformation]

/-- **One request in the state its first copy left.** -/
theorem iotSwitch_twice (hc : buf.head.cmd ∈ manageRequests)
    (h : iotSwitch malloc w buf len addr = some w') (ha : answers w w' ≠ [])
    (hcfg : w₁.userconfig = w'.userconfig) :
    ∃ w'', iotSwitch malloc' w₁ buf len' addr = some w'' ∧ w''.userconfig = w₁.userconfig ∧
      answers w₁ w'' = if buf.head.cmd = linkOrderBunding then [] else answers w w' := by
  simp only [manageRequests, List.mem_cons, List.not_mem_nil, or_false] at hc
  rcases hc with hc | hc | hc | hc
  · rw [iotSwitch_discovery hc] at h ⊢
    rw [hc, if_neg (by decide)]
    have hid : w₁.userconfig.deviceid = w.userconfig.deviceid := by
      rw [hcfg, userconfig_of_spec (tclDiscoveryDeviceAck_spec w buf addr) h]
    obtain ⟨w'', h₁, hu, -, hans⟩ := (sendSame_discovery hid).twice h
    exact ⟨w'', h₁, hu, hans⟩
  · rw [iotSwitch_bunding hc] at h ⊢
    rw [if_pos hc]
    rcases tclManageRegistered_cases w buf addr with ⟨-, -, hreg⟩ | ⟨-, hreg⟩
    · rw [hreg, Option.bind_eq_bind, Option.bind_some, if_pos rfl] at h
      have hw' := userconfig_of_spec (tclManageRegisteredAck_spec _ buf addr) h
      -- the first copy has bound the module, and stored its sender
      have hflag : w₁.userconfig.flag = true := by rw [hcfg, hw']
      have haddr : w₁.userconfig.addr = addr := by rw [hcfg, hw']
      rcases tclManageRegistered_cases w₁ buf addr with ⟨-, hf, -⟩ | ⟨-, hreg₁⟩
      · rw [hflag] at hf
        cases hf
      · rw [hreg₁]
        refine ⟨_, rfl, ?_, by simp [answers]⟩
        change { w₁.userconfig with addr } = w₁.userconfig
        rw [← haddr]
    · rw [hreg] at h
      cases h
      exact absurd (by simp [answers]) ha
  · rw [iotSwitch_delete hc] at h ⊢
    rw [hc, if_neg (by decide)]
    obtain ⟨eq, heq⟩ := strcmp_deviceid w buf
    rw [tclManageDelete, heq, Option.bind_eq_bind, Option.bind_some] at h
    cases eq with
    | false =>
      cases h
      exact absurd (by simp [answers]) ha
    | true =>
      obtain ⟨w₂, h₂, h⟩ := Option.bind_eq_some_iff.1 h
      cases h
      have hw₂ := userconfig_of_spec (tclManageDeleteAck_spec w buf addr) h₂
      have hcfg : w₁.userconfig = { w.userconfig with flag := false } := by
        rw [hcfg, clearGateinfo, hw₂]
      have hid : w₁.userconfig.deviceid = w.userconfig.deviceid := by rw [hcfg]
      have hnet : w₁.userconfig.deviceNetid = w.userconfig.deviceNetid := by rw [hcfg]
      obtain ⟨w'', h₁, hu, -, hans⟩ := (sendSame_delete hid hnet).twice h₂
      refine ⟨clearGateinfo w'', ?_, ?_, hans⟩
      · rw [tclManageDelete, hid, heq, Option.bind_eq_bind, Option.bind_some, if_pos rfl, h₁]
        rfl
      · rw [clearGateinfo, hu, hcfg]
  · rw [iotSwitch_read hc] at h ⊢
    rw [hc, if_neg (by decide)]
    obtain ⟨w'', h₁, hu, -, hans⟩ := sendSame_read.twice h
    exact ⟨w'', h₁, hu, hans⟩

/-! ## Retransmitted requests -/

/-- **Retransmitted requests.**  From every state, a search, a bind, a deletion or a reading that is
    answered and comes again from the same sender leaves `g_userconfig` as its first copy did, and
    is answered with the same datagram, but for the bind: it is not answered again. -/
theorem retransmitted_request {datagram : List Byte} {buf : Buf} {paddr addr : SockAddr}
    {malloc malloc' : Bool} (hp : (Event.udp paddr datagram malloc).packet = some (buf, addr))
    (hc : buf.head.cmd ∈ manageRequests) (h : w.step (.udp paddr datagram malloc) = some w')
    (ha : answers w w' ≠ []) :
    ∃ w'', w'.step (.udp paddr datagram malloc') = some w'' ∧ w''.userconfig = w'.userconfig ∧
      answers w' w'' = if buf.head.cmd = linkOrderBunding then [] else answers w w' := by
  have hp' : (Event.udp paddr datagram malloc').packet = some (buf, addr) := hp
  obtain ⟨m, len, hs⟩ := step_packet (w := w) hp
  obtain ⟨m', len', hs'⟩ := step_packet (w := w') hp'
  rw [hs] at h
  rw [hs']
  set w₀ : World P := { w with cause := .udp paddr datagram malloc }
  set w₁ : World P := { w' with cause := .udp paddr datagram malloc' }
  have ha₀ : answers w₀ w' ≠ [] := ha
  have hcfg : w₁.userconfig = w'.userconfig := rfl
  obtain ⟨w'', h'', hu, hans⟩ := iotSwitch_twice hc h ha₀ hcfg
  exact ⟨w'', h'', hu, hans⟩

/-- A deletion that is answered twice. -/
theorem retransmitted_request_delete : ∃ (w w' w'' : World .sample) (a : List Byte × SockAddr),
    (World.init .sample sampleId).run [bindRequest] = some w ∧
      w.step (sampleRequest 0 manageDelete) = some w' ∧ answers w w' = [a] ∧
      w'.step (sampleRequest 0 manageDelete) = some w'' ∧ w''.userconfig = w'.userconfig ∧
      answers w' w'' = [a] := by
  have hpacket : ((sampleRequest 0 manageDelete).packet.map fun r => r.1.head.cmd) =
      some manageDelete := by decide +kernel
  have hrun : ((World.init .sample sampleId).run [bindRequest]).bind (fun w =>
      (w.step (sampleRequest 0 manageDelete)).map fun w' => (answers w w').length) = some 1 := by
    decide +kernel
  obtain ⟨⟨buf, addr⟩, hp, hc⟩ := Option.map_eq_some_iff.1 hpacket
  obtain ⟨w, hw, hrun⟩ := Option.bind_eq_some_iff.1 hrun
  obtain ⟨w', hw', hlen⟩ := Option.map_eq_some_iff.1 hrun
  obtain ⟨a, ha⟩ := List.length_eq_one_iff.1 hlen
  have hc : buf.head.cmd = manageDelete := hc
  obtain ⟨w'', hw'', hu, hans⟩ := retransmitted_request hp (by rw [hc]; decide) hw'
    (by rw [ha]; exact List.cons_ne_nil _ _)
  rw [hc, if_neg (by decide), ha] at hans
  exact ⟨w, w', w'', a, hw, hw', ha, hw'', hu, hans⟩

/-- A bind that comes twice: the module is bound, and the second copy gets no answer. -/
theorem second_bind_not_answered : ∃ (w w' w'' : World .sample) (buf : Buf) (addr : SockAddr),
    (World.init .sample sampleId).run [] = some w ∧ bindRequest.packet = some (buf, addr) ∧
      buf.head.cmd = linkOrderBunding ∧ w.step bindRequest = some w' ∧ answers w w' ≠ [] ∧
      w'.step bindRequest = some w'' ∧ answers w' w'' ≠ answers w w' := by
  have hpacket : (bindRequest.packet.map fun r => r.1.head.cmd) = some linkOrderBunding := by
    decide +kernel
  have hrun : ((World.init .sample sampleId).run []).bind (fun w => (w.step bindRequest).bind fun w' =>
      (w'.step bindRequest).map fun w'' => ((answers w w').length, (answers w' w'').length)) =
      some (1, 0) := by decide +kernel
  obtain ⟨⟨buf, addr⟩, hp, hc⟩ := Option.map_eq_some_iff.1 hpacket
  obtain ⟨w, hw, hrun⟩ := Option.bind_eq_some_iff.1 hrun
  obtain ⟨w', hw', hrun⟩ := Option.bind_eq_some_iff.1 hrun
  obtain ⟨w'', hw'', hlen⟩ := Option.map_eq_some_iff.1 hrun
  obtain ⟨h₁, h₂⟩ := Prod.mk.inj hlen
  refine ⟨w, w', w'', buf, addr, hw, hp, hc, hw', fun h => ?_, hw'', fun h => ?_⟩
  · rw [h] at h₁
    cases h₁
  · rw [h, h₁] at h₂
    cases h₂

end

end MxchipSpp
