/-
  Records of the device, uploaded (`AppHandleCallback`, `tcl_data_upload`,
  `mySend_uart`).

  A record is copied to `g_mySendBuf_last` behind a byte for its length, its
  first byte chooses between an alarm and a report, and the rest is sent behind
  a header.  The 256 bytes of `mySend_uart` are enough for every record of the
  protocol; the 72 of `g_mySendBuf_last` are not (`uploads_iff`).
-/
import MxchipSpp.Framing

namespace MxchipSpp

open Memory Endian

variable {P : Platform} {w w' : World P} {data : List Byte}

/-- One datagram was sent: the header of a report or an alarm, and the record `data` without its
    first byte. -/
def SentRecord (w w' : World P) (data : List Byte) : Prop :=
  ∃ (s : Sent) (h : IotHead), w'.sent = w.sent ++ [s] ∧
    iotBase64ToData s.bytes s.bytes.length = some (h.bytes ++ data.tail) ∧
    h.cmd = htons (if data.head? = some frameWarn then alamData else reportData) ∧
    h.len = htons (BitVec.ofNat 16 (data.length - 1))

/-- `AppHandleCallback`, on a record and in a state in which it does not leave its buffers. -/
def Uploads (w : World P) (data : List Byte) : Prop :=
  ∃ w', appHandleCallback w data = some w' ∧ SentRecord w w' data

/-! ## The buffer for the record -/

/-- The state in which the record is in `g_mySendBuf_last`. -/
def copied (w : World P) (data : List Byte) (h : 4 + data.length ≤ 72) : World P :=
  { w with mySendBufLast :=
      (w.mySendBufLast.set ⟨3, by decide⟩ (BitVec.ofNat 8 (data.length + 2))).put 4 data h }

theorem appHandleCallback_of_le (w : World P) (h : 4 + data.length ≤ 72) :
    appHandleCallback w data = tclDataUpload (copied w data h) := by
  rw [appHandleCallback, Block.write_of_le _ h]
  rfl

theorem appHandleCallback_eq_none (w : World P) (h : ¬ 4 + data.length ≤ 72) :
    appHandleCallback w data = none := by
  rw [appHandleCallback, Block.write, dif_neg h]
  rfl

section
variable (w) (h : 4 + data.length ≤ 72)

theorem uploadLen_copied : uploadLen (copied w data h) = data.length - 1 := by
  have hget : (copied w data h).mySendBufLast.get 3 = BitVec.ofNat 8 (data.length + 2) :=
    (Block.get_put_of_lt _ h _ (by decide)).trans (Block.get_set_self _ _ _)
  rw [uploadLen, hget, BitVec.toNat_ofNat, Nat.mod_eq_of_lt (by omega)]
  push_cast
  ring

theorem command_copied (hpos : data ≠ []) :
    (copied w data h).mySendBufLast.get 4 = frameWarn ↔ data.head? = some frameWarn := by
  obtain ⟨x, xs, rfl⟩ := List.exists_cons_of_ne_nil hpos
  have hget : (copied w (x :: xs) h).mySendBufLast.get 4 = x := by
    refine Block.get_eq_of_getElem? ?_
    rw [copied, Block.put_getElem?, if_neg (by decide), if_pos (by simp)]
    rfl
  rw [hget, List.head?_cons, Option.some_inj]

theorem uploadData_copied (hpos : data ≠ []) :
    uploadData (copied w data h) = some data.tail := by
  have hl := List.length_pos_iff.2 hpos
  rw [uploadData, uploadLen_copied, if_pos (by omega), Block.slice_of_le _ (by omega)]
  refine congrArg some (List.ext_getElem? fun i => ?_)
  have hn : ((data.length : ℤ) - 1).toNat = data.length - 1 := by omega
  rw [hn, List.getElem?_take, List.getElem?_drop, copied, Block.put_getElem?, List.getElem?_tail]
  split_ifs with h₁ h₂ h₃
  · omega
  · congr 1; omega
  · omega
  · rw [List.getElem?_eq_none (by omega)]

end

/-! ## The datagram -/

/-- The message of a record. -/
def recordMessage (w : World P) (data : List Byte) : List Byte := (uploadHead w).bytes ++ data.tail

/-- A record of the protocol fits the 256 bytes of `mySend_uart`. -/
theorem length_base64Frame_record (w : World P) (hl : data.length ≤ 129) :
    (base64Frame (recordMessage w data)).length ≤ 256 := by
  have h₂₀ : (uploadHead w).bytes.length = 20 := IotHead.length_bytes _
  rw [length_base64Frame, recordMessage, List.length_append, List.length_tail]
  omega

theorem uploadSend_copied (w : World P) (h : 4 + data.length ≤ 72) (hpos : data ≠ []) :
    uploadSend (copied w data h) = some ((uploadState (copied w data h)).sendto
      (recordMessage (copied w data h) data) (base64Frame (recordMessage (copied w data h) data))
      (uploadState (copied w data h)).userconfig.addr) := by
  have hn : (uploadLen (copied w data h)).toNat = data.tail.length := by
    rw [uploadLen_copied, List.length_tail]; omega
  have hfit : 0 + data.tail.length ≤ 492 := by rw [List.length_tail]; omega
  have hmsg : Packet.message (n := 492) ⟨uploadHead (copied w data h), (Block.fill 492 0).put 0 data.tail hfit⟩
      data.tail.length = some (recordMessage (copied w data h) data) := by
    rw [Packet.message_of_le _ (by omega), Block.cells_put_zero, List.take_left]
    rfl
  rw [uploadSend, uploadData_copied w h hpos, hn]
  simp only [Option.bind_eq_bind, Option.bind_some, Packet.write, Packet.zero,
    Block.write_of_le _ hfit, Option.map_some, hmsg, mySendUart,
    if_pos (length_base64Frame_record (copied w data h) (show data.length ≤ 129 by omega))]
  rfl

/-- **Records that are uploaded.**  Bound and with its socket open, the module uploads a record of
    the protocol whole, and within its buffers, if the record has at most 68 bytes. -/
theorem uploads_iff (hf : w.userconfig.flag = true) (hpos : 1 ≤ data.length)
    (hmax : data.length ≤ 129) : Uploads w data ↔ data.length ≤ 68 := by
  have hne : data ≠ [] := List.length_pos_iff.1 hpos
  by_cases h : 4 + data.length ≤ 72
  · refine iff_of_true ?_ (by omega)
    have hsent := uploadSend_copied w h hne
    have hcall : appHandleCallback w data = (uploadSend (copied w data h)).map World.countSn := by
      rw [appHandleCallback_of_le w h, tclDataUpload, if_neg (by simp [copied, hf])]
    rw [hsent] at hcall
    refine ⟨_, hcall, _, uploadHead (copied w data h), rfl, ?_, ?_, ?_⟩
    · exact iotBase64ToData_base64Frame _ le_rfl
    · simp only [uploadHead, command_copied w h hne]
      split_ifs <;> rfl
    · have hlen : uploadLen (copied w data h) = (data.length - 1 : ℕ) := by
        rw [uploadLen_copied]; omega
      simp only [uploadHead, hlen, BitVec.ofInt_natCast]
  · refine iff_of_false ?_ (by omega)
    rintro ⟨w', hw', -⟩
    rw [appHandleCallback_eq_none w h] at hw'
    cases hw'

/-- A module that is bound. -/
def sampleBound : World .sample :=
  let w := World.init .sample sampleId
  { w with userconfig.flag := true }

theorem uploads_alarm : Uploads sampleBound [0x04, 0x01] :=
  (uploads_iff rfl (by decide) (by decide)).2 (by decide)

/-- A record of 69 bytes, of the 129 there may be, is written behind the end of
    `g_mySendBuf_last`. -/
theorem long_record_overruns : sampleBound.userconfig.flag = true ∧
    appHandleCallback sampleBound (List.replicate 69 0x01) = none ∧
    ¬ Uploads sampleBound (List.replicate 69 0x01) := by
  have hnone : appHandleCallback sampleBound (List.replicate 69 0x01) = none := by decide +kernel
  refine ⟨rfl, hnone, ?_⟩
  rintro ⟨w', hw', -⟩
  rw [hnone] at hw'
  cases hw'

end MxchipSpp
