/-
  The form of the datagrams the gateway is sent.

  A datagram should be its message between the marks, and the message should
  say how long it is.  Two senders drift from that: the heartbeat, which loses
  the last character of its message, and the answer to a search, which gives
  its length in the order of the device.
-/
import MxchipSpp.Answers

namespace MxchipSpp

open Memory Endian

/-! ## Well-formed datagrams -/

theorem IsMessage.lenField {h : IotHead} {k : ℕ} {m : List Byte} (hm : IsMessage h k m) :
    lenField m = htons h.len := by
  obtain ⟨body, -, rfl⟩ := hm
  rfl

/-- The datagram is the message between the marks and is read back as it, and the header says how
    long it is. -/
structure Sent.WellFormed (s : Sent) : Prop where
  frame : s.bytes = caret :: iotBase64encode s.message ++ [amp]
  read : ∀ binlength, s.bytes.length ≤ binlength →
    iotBase64ToData s.bytes binlength = some s.message
  len : (lenField s.message).toNat + sizeofIotHead = s.message.length

/-- The steps whose datagrams drift: the heartbeat, and the answer to a search. -/
def Event.Drifts (ev : Event) : Prop :=
  ev = .dataUploadTimer ∨ ∃ msg, ev.request = some msg ∧ command msg = manageBroadcast

/-! ## The senders -/

section
variable {s : Sent} {h : IotHead} {k : ℕ}

/-- What `mySend` and `mySend_uart` send is well-formed if the header is right. -/
theorem Framed.wellFormed_iff (hs : Framed h k s) :
    s.WellFormed ↔ (htons h.len).toNat = k := by
  have hlen : (lenField s.message).toNat + sizeofIotHead = s.message.length ↔
      (htons h.len).toNat = k := by
    rw [hs.message.lenField, hs.message.length, Nat.add_comm 20 k]
    exact Nat.add_right_cancel_iff
  refine ⟨fun hw => hlen.1 hw.len, fun hk => ⟨hs.bytes, fun n hn => ?_, hlen.2 hk⟩⟩
  rw [hs.bytes] at hn ⊢
  exact iotBase64ToData_base64Frame s.message hn

theorem Framed.wellFormed (hs : Framed h k s) (hk : k < 65536)
    (hl : h.len = htons (BitVec.ofNat 16 k)) : s.WellFormed := by
  rw [hs.wellFormed_iff, hl, htons, htons, swap16_swap16, BitVec.toNat_ofNat]
  omega

theorem wellFormed_ack (hs : Framed upgradeAckHead 12 s) : s.WellFormed :=
  hs.wellFormed (by decide) rfl

/-- The heartbeat is one character short. -/
theorem IsQuestion.not_wellFormed (hs : IsQuestion s) : ¬ s.WellFormed := by
  obtain ⟨h, -, -, -, hb⟩ := hs
  intro hw
  have hlen := congrArg List.length (hb.symm.trans hw.frame)
  simp at hlen

/-- A reply is well-formed unless it answers a search. -/
theorem Reply.wellFormed_iff {req : IotHead} (hs : Reply req s) :
    s.WellFormed ↔ req.cmd ≠ manageBroadcast := by
  rcases hs with ⟨cmd, k, hk, -, hb, -, hf⟩ | ⟨hb, hf⟩ | ⟨hu, hf⟩
  · exact iff_of_true (hf.wellFormed hk rfl) hb
  · refine iff_of_false ?_ (not_not.2 hb)
    rw [hf.wellFormed_iff]
    change ¬ (htons 124).toNat = 124
    decide
  · refine iff_of_true (wellFormed_ack hf) ?_
    rw [hu]
    decide

theorem Event.Allows.wellFormed_iff {ev : Event} (hs : ev.Allows s) :
    s.WellFormed ↔ ¬ ev.Drifts := by
  cases ev with
  | dev ev =>
    obtain ⟨h, k, hk, -, hl, hf⟩ := hs
    refine iff_of_true (hf.wellFormed hk hl) ?_
    rintro (hd | ⟨msg, hr, -⟩)
    · cases hd
    · cases hr
  | udp addr datagram malloc =>
    obtain ⟨msg, hr, -, hreply⟩ := hs
    rw [hreply.wellFormed_iff, cmd_requestHead, not_iff_not, Event.Drifts, hr]
    simp
  | selectTimeout =>
    refine iff_of_true (wellFormed_ack hs) ?_
    rintro (hd | ⟨msg, hr, -⟩)
    · cases hd
    · cases hr
  | dataUploadTimer => exact iff_of_false hs.not_wellFormed (not_not.2 (.inl rfl))
  | checkDevice => exact hs.elim

end

/-! ## Runs -/

/-- **The datagrams of a run.**  The well-formed ones are those that neither the heartbeat nor the
    answer to a search sent. -/
theorem sent_wellFormed_iff {P : Platform} {deviceid : DeviceId} {evs : List Event} {w : World P}
    (h : (World.init P deviceid).run evs = some w) :
    ∀ s ∈ w.sent, s.WellFormed ↔ ¬ s.cause.Drifts :=
  fun s hs => ((history_run h).sent s hs).wellFormed_iff

/-- The empty identifier. -/
def sampleId : DeviceId := ⟨.fill 36 0, by simp [Block.fill]⟩

/-- A request with a number, a command and 44 zeros. -/
def sampleMessage (sn : BitVec 32) (cmd : BitVec 16) : List Byte :=
  { IotHead.zero with sn := htonl sn, cmd := htons cmd }.bytes ++ List.replicate 44 0

def sampleRequest (sn : BitVec 32) (cmd : BitVec 16) : Event :=
  .udp ⟨0xC0A80001, 8671⟩ (base64Frame (sampleMessage sn cmd)) true

theorem sampleRequest_answered :
    ∃ w, (World.init .sample sampleId).run [sampleRequest 0 linkReadInformation] = some w ∧
      ∃ s ∈ w.sent, s.cause.request = some (sampleMessage 0 linkReadInformation) := by
  have hrun : ((World.init .sample sampleId).run [sampleRequest 0 linkReadInformation]).map
      (fun w => w.sent.map fun s => s.cause.request) =
      some [some (sampleMessage 0 linkReadInformation)] := by decide +kernel
  obtain ⟨w, hw, hl⟩ := Option.map_eq_some_iff.1 hrun
  obtain ⟨s, ss, hs, hr, -⟩ := List.map_eq_cons_iff.1 hl
  exact ⟨w, hw, s, by rw [hs]; exact List.mem_cons_self, hr⟩

theorem sent_wellFormed_sampleRequest :
    ∃ w, (World.init .sample sampleId).run [sampleRequest 0 linkReadInformation] = some w ∧
      ∃ s ∈ w.sent, s.WellFormed := by
  obtain ⟨w, hw, s, hmem, hr⟩ := sampleRequest_answered
  refine ⟨w, hw, s, hmem, (sent_wellFormed_iff hw s hmem).2 ?_⟩
  rintro (hd | ⟨msg, hr', hc⟩)
  · rw [hd] at hr; cases hr
  · rw [hr, Option.some.injEq] at hr'
    subst hr'
    exact absurd hc (by decide +kernel)

/-- A bound module sends a heartbeat and answers a search; neither datagram is well-formed. -/
theorem heartbeat_and_search_drift :
    ∃ w, (World.init .sample sampleId).run [sampleRequest 0 linkOrderBunding, .dataUploadTimer,
        sampleRequest 0 manageBroadcast] = some w ∧
      ∃ a b c, w.sent = [a, b, c] ∧ ¬ b.WellFormed ∧ ¬ c.WellFormed := by
  have hrun : ((World.init .sample sampleId).run [sampleRequest 0 linkOrderBunding,
      .dataUploadTimer, sampleRequest 0 manageBroadcast]).map (fun w => w.sent.map fun s =>
        (s.message.length, s.bytes.length, (lenField s.message).toNat)) =
      some [(64, 90, 44), (32, 45, 12), (144, 194, 0x7C00)] := by decide +kernel
  obtain ⟨w, hw, hl⟩ := Option.map_eq_some_iff.1 hrun
  obtain ⟨a, as, hs, -, hl⟩ := List.map_eq_cons_iff.1 hl
  obtain ⟨b, bs, rfl, hb, hl⟩ := List.map_eq_cons_iff.1 hl
  obtain ⟨c, cs, rfl, hc, hl⟩ := List.map_eq_cons_iff.1 hl
  rw [List.map_eq_nil_iff] at hl
  subst hl
  simp only [Prod.mk.injEq] at hb hc
  refine ⟨w, hw, a, b, c, hs, fun h => ?_, fun h => ?_⟩
  · -- '^' and '&' leave 43 characters, which is not a multiple of 4
    have hf : b.bytes.length = 4 * ((b.message.length + 2) / 3) + 2 := by
      rw [h.frame, ← length_base64Frame, base64Frame]
    omega
  · have hlen := h.len
    omega

end MxchipSpp
