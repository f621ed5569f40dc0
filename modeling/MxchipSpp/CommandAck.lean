/-
  What an acknowledgement of a command means.

  `iotProcess` acknowledges every command for the device with
  `MESSAGE_DATA_GOOD`, whatever `DataDownWr` returned for it.
-/
import MxchipSpp.Binding

namespace MxchipSpp

open Memory Endian

/-! ## The command and its acknowledgement -/

/-- The command in a packet: `0x01` and as many bytes as its header says. -/
def pushedCommand (buf : Buf) : List Byte := 0x01 :: buf.body.cells.take buf.head.len.toNat

/-- The answer to a command with the header `req`. -/
def goodAck (req : IotHead) : List Byte :=
  (answerHead req linkAck (htons 8)).bytes ++ (le32 (htonl messageDataGood) ++ le32 0)

variable {P : Platform}

/-- Between `w` and `w'` an `IotDataAck` was sent whose `state` is `MESSAGE_DATA_GOOD`. -/
def AckedGood (w w' : World P) : Prop :=
  ∃ s ∈ w'.sent.drop w.sent.length, command s.message = linkAck ∧
    htonl (get32 s.message 20) = messageDataGood

/-- Between `w` and `w'` `DataDownWr` returned 1 for `data`, and `datadown` holds it. -/
structure Taken (w w' : World P) (data : List Byte) : Prop where
  taken : w'.dev.hist.taken = w.dev.hist.taken ++ [data]
  state : w'.dev.datadown.state = 2
  command : w'.dev.datadown.command = data

section
variable {w w' : World P} {ev : Event} {buf : Buf} {addr : SockAddr}

theorem command_goodAck (req : IotHead) : command (goodAck req) = linkAck :=
  (IsMessage.command ⟨_, rfl, rfl⟩).trans (swap16_swap16 _)

theorem state_goodAck (req : IotHead) : htonl (get32 (goodAck req) 20) = messageDataGood := by
  have h : get32 (goodAck req) 20 = htonl messageDataGood := by
    rw [show 20 = 20 + 0 from rfl, ← get32_drop]
    exact get32_le32 _ _
  rw [h]
  rfl

theorem tclModleLinkAck_eq (w : World P) (buf : Buf) (addr : SockAddr) :
    tclModleLinkAck w buf addr =
      some (w.sendto (goodAck buf.head) (base64Frame (goodAck buf.head)) addr) := by
  have hl : 0 + (le32 (htonl messageDataGood) ++ le32 0).length ≤ 1004 := by simp
  simp only [tclModleLinkAck, Packet.write_of_le _ hl, Option.bind_eq_bind, Option.bind_some]
  rw [Packet.message_of_le _ (by decide), Option.bind_some]
  have hlen : (le32 (htonl messageDataGood) ++ le32 0).length = 8 := rfl
  have hcells : (Block.cells (buf.body.put 0 _ hl)).take 8 =
      le32 (htonl messageDataGood) ++ le32 0 := by
    rw [Block.cells_put_zero]
    rfl
  rw [hcells]
  refine mySend_of_le ?_
  rw [length_base64Frame, List.length_append, IotHead.length_bytes, hlen]
  decide

/-- `DataDownWr` gets the command whole, if `uart_data` has room for it. -/
theorem tclDataPush_eq (h : tclDataPush w buf = some w') :
    buf.head.len.toNat ≤ 59 ∧ w' = { w with
      dev := (dataDownWr w.dev (pushedCommand buf)).1
      uartStats.flag := true } := by
  have hlen : buf.head.len.toNat ≤ 59 := tclDataPush_isSome.1 (by rw [h]; rfl)
  refine ⟨hlen, ?_⟩
  obtain ⟨src, hsrc, h⟩ := Option.bind_eq_some_iff.1 h
  obtain ⟨uart, huart, h⟩ := Option.bind_eq_some_iff.1 h
  obtain ⟨data, hdata, h⟩ := Option.bind_eq_some_iff.1 h
  cases h
  obtain ⟨hl, rfl⟩ := Block.write_eq_some.1 huart
  have hsl := Block.length_of_slice hsrc
  rw [Block.slice_of_le _ (by omega), List.drop_zero] at hsrc
  obtain rfl := Option.some.inj hsrc
  rw [u8_eq (n := buf.head.len.toNat + 1) (by push_cast; rfl) (by omega),
    Block.slice_of_le _ (by omega)] at hdata
  have hcommand : (((Block.fill 64 0).put 5 _ hl).set 4 0x01).cells.drop 4 =
      pushedCommand buf ++ (Block.fill 64 (0 : Byte)).cells.drop (5 + _) := rfl
  rw [hcommand, List.take_left' (by rw [pushedCommand, List.length_cons, hsl])] at hdata
  cases hdata
  rfl

/-- **One command.**  It is given to `DataDownWr`, and acknowledged. -/
theorem step_dataData (hp : ev.packet = some (buf, addr)) (hc : buf.head.cmd = dataData)
    (h : w.step ev = some w') : buf.head.len.toNat ≤ 59 ∧
      w'.dev = (dataDownWr w.dev (pushedCommand buf)).1 ∧
      w'.sent = w.sent ++ [⟨ev, goodAck buf.head, base64Frame (goodAck buf.head), addr⟩] := by
  obtain ⟨malloc, len, hs⟩ := step_packet (w := w) hp
  rw [hs, iotSwitch] at h
  dsimp only at h
  rw [if_neg (by rw [hc]; decide), if_pos hc] at h
  obtain ⟨w₁, h₁, h⟩ := Option.bind_eq_some_iff.1 h
  obtain ⟨hlen, rfl⟩ := tclDataPush_eq h₁
  rw [tclModleLinkAck_eq, Option.bind_eq_bind, Option.bind_some, tclDataTpyeidAck_eq] at h
  split_ifs at h
  cases h
  exact ⟨hlen, rfl, rfl⟩

/-- Every command is acknowledged. -/
theorem ackedGood_dataData (hp : ev.packet = some (buf, addr)) (hc : buf.head.cmd = dataData)
    (h : w.step ev = some w') : AckedGood w w' := by
  obtain ⟨-, -, hsent⟩ := step_dataData hp hc h
  refine ⟨⟨ev, goodAck buf.head, base64Frame (goodAck buf.head), addr⟩, ?_, command_goodAck _,
    state_goodAck _⟩
  rw [hsent, List.drop_left]
  exact List.mem_singleton_self _

/-- **A good acknowledgement means that the command was taken** exactly if the mailbox was free. -/
theorem ackedGood_taken_iff (hp : ev.packet = some (buf, addr)) (hc : buf.head.cmd = dataData)
    (h : w.step ev = some w') :
    (AckedGood w w' → Taken w w' (pushedCommand buf)) ↔ w.dev.datadown.state = 0 := by
  obtain ⟨hlen, hdev, -⟩ := step_dataData hp hc h
  have hl : (pushedCommand buf).length ≤ 128 := by
    rw [pushedCommand, List.length_cons, List.length_take]
    omega
  constructor
  · intro htaken
    by_contra hs
    have ht := (htaken (ackedGood_dataData hp hc h)).taken
    rw [hdev, dataDownWr_refused fun hc => hs hc.1] at ht
    simp at ht
  · intro hs _
    obtain ⟨s, hd, hst⟩ := dataDownWr_taken hs hl
    rw [hd] at hdev
    exact ⟨by rw [hdev], by rw [hdev]; exact hst.state, by rw [hdev]; exact hst.command⟩

/-- A command that turns the device on. -/
def powerOn : Event :=
  .udp ⟨0xC0A80001, 8671⟩
    (base64Frame ({ IotHead.zero with cmd := htons dataData, len := htons 5 }.bytes ++ [0, 0, 0, 31, 1]))
    true

theorem ackedGood_taken_powerOn : ∃ (w : World .sample) (w' : World .sample) (buf : Buf)
    (addr : SockAddr), (World.init .sample sampleId).run [] = some w ∧
      powerOn.packet = some (buf, addr) ∧ buf.head.cmd = dataData ∧ w.step powerOn = some w' ∧
      AckedGood w w' ∧ Taken w w' (pushedCommand buf) := by
  have hpacket : (powerOn.packet.map fun r => r.1.head.cmd) = some dataData := by decide +kernel
  have hstep : ((World.init .sample sampleId).step powerOn).isSome := by decide +kernel
  obtain ⟨⟨buf, addr⟩, hp, hc⟩ := Option.map_eq_some_iff.1 hpacket
  obtain ⟨w', hw'⟩ := Option.isSome_iff_exists.1 hstep
  have hack := ackedGood_dataData hp hc hw'
  exact ⟨_, w', buf, addr, rfl, hp, hc, hw', hack, (ackedGood_taken_iff hp hc hw').2 (by decide) hack⟩

/-- The same command again, before the first was sent. -/
theorem second_command_acked : ∃ (w : World .sample) (w' : World .sample) (buf : Buf)
    (addr : SockAddr), (World.init .sample sampleId).run [powerOn] = some w ∧
      powerOn.packet = some (buf, addr) ∧ buf.head.cmd = dataData ∧ w.step powerOn = some w' ∧
      AckedGood w w' ∧ ¬ Taken w w' (pushedCommand buf) := by
  have hpacket : (powerOn.packet.map fun r => r.1.head.cmd) = some dataData := by decide +kernel
  have hrun : ((World.init .sample sampleId).run [powerOn]).bind (fun w =>
      (w.step powerOn).map fun w' => (w.dev.hist.taken.length, w'.dev.hist.taken.length)) =
      some (1, 1) := by decide +kernel
  obtain ⟨⟨buf, addr⟩, hp, hc⟩ := Option.map_eq_some_iff.1 hpacket
  obtain ⟨w, hw, hrun⟩ := Option.bind_eq_some_iff.1 hrun
  obtain ⟨w', hw', hlen⟩ := Option.map_eq_some_iff.1 hrun
  obtain ⟨h₁, h₂⟩ := Prod.mk.inj hlen
  refine ⟨w, w', buf, addr, hw, hp, hc, hw', ackedGood_dataData hp hc hw', fun ht => ?_⟩
  have h₃ := congrArg List.length ht.taken
  rw [List.length_append, h₁, h₂] at h₃
  cases h₃

end

end MxchipSpp
