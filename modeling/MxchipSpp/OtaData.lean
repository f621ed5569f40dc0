/-
  The packets of an update that are accepted (`iotGetOtaData`, and
  `tcl_ota_data` for what it hands to the flash).

  The length a packet declares must be the one it has, be positive and at most
  1024; it is not compared with the size of `IotFota`, so that a packet of less
  is accepted with a negative length of its data (`ota_packets_iff`).
-/
import MxchipSpp.Ota

namespace MxchipSpp

open Memory Endian

/-! ## Accepted packets -/

section
variable {n : ℕ}

/-- The length a message declares, which is in the order of the device by now. -/
def declared (p : Packet n) : ℕ := p.head.len.toNat

/-- What the answers of `iotGetOtaData` to a message of `len` bytes are to be. -/
structure AcceptsOta (p : Packet n) (len : ℕ) : Prop where
  accepts : (iotGetOtaData p len).isSome ↔
    len = sizeofIotHead + declared p ∧ sizeofIotFota ≤ declared p ∧ declared p ≤ 1024
  block : ∀ {fota datalen}, iotGetOtaData p len = some (fota, datalen) →
    0 ≤ datalen ∧ datalen = declared p - sizeofIotFota ∧
      (sizeofIotHead : ℤ) + sizeofIotFota + datalen ≤ len
  fields : ∀ {q : Packet n} {codenumber codeTotal codeType codeVer : BitVec 32} {data : List Byte},
    sizeofIotFota + data.length ≤ n →
    p.body = (iotSetOtaTypeVer (iotSetOta q codenumber codeTotal data).1 codeType codeVer).body →
    ∀ {fota datalen}, iotGetOtaData p len = some (fota, datalen) →
      htonl fota.codeType = codeType ∧ htonl fota.codeVer = codeVer ∧
        htonl fota.codeTotal = codeTotal ∧ htonl fota.codeNumber = codenumber ∧
        (p.body.cells.drop sizeofIotFota).take data.length = data

/-- A message that declares its length, but less than an `IotFota`. -/
def Short (p : Packet n) (len : ℕ) : Prop :=
  len = sizeofIotHead + declared p ∧ 0 < declared p ∧ declared p < sizeofIotFota

theorem iotGetOtaData_isSome (p : Packet n) (len : ℕ) : (iotGetOtaData p len).isSome ↔
    len = sizeofIotHead + declared p ∧ 0 < declared p ∧ declared p ≤ 1024 := by
  have h₂₀ : sizeofIotHead = 20 := rfl
  unfold iotGetOtaData declared
  dsimp only
  split_ifs with h
  · exact iff_of_false (by simp) (by omega)
  · exact iff_of_true rfl (by omega)

theorem iotGetOtaData_eq {p : Packet n} {len : ℕ} {fota : IotFota} {datalen : ℤ}
    (h : iotGetOtaData p len = some (fota, datalen)) :
    fota = .ofBytes p.body.cells ∧ datalen = declared p - sizeofIotFota := by
  unfold iotGetOtaData at h
  dsimp only at h
  split_ifs at h
  cases h
  exact ⟨rfl, rfl⟩

theorem body_built {q : Packet n} {codenumber codeTotal codeType codeVer : BitVec 32}
    {data : List Byte} (hfit : sizeofIotFota + data.length ≤ n) :
    ∃ rest, (iotSetOtaTypeVer (iotSetOta q codenumber codeTotal data).1 codeType codeVer).body.cells =
      (IotFota.mk (htonl codeType) (htonl codeVer) (htonl codeTotal) (htonl codenumber)).bytes ++
        (data ++ rest) := by
  have htake := take_body_built q codenumber codeTotal codeType codeVer hfit
  refine ⟨(iotSetOtaTypeVer (iotSetOta q codenumber codeTotal data).1 codeType
    codeVer).body.cells.drop (sizeofIotFota + data.length), ?_⟩
  rw [← List.append_assoc, ← htake, List.take_append_drop]

/-- **Which messages are accepted rightly**: all but those that are too short for an `IotFota`. -/
theorem acceptsOta_iff (p : Packet n) (len : ℕ) : AcceptsOta p len ↔ ¬ Short p len := by
  have hs : sizeofIotFota = 16 := rfl
  constructor
  · rintro h ⟨hlen, hpos, hshort⟩
    have hacc := h.accepts.1 ((iotGetOtaData_isSome p len).2 ⟨hlen, hpos, by omega⟩)
    omega
  · intro h
    have hlow : len = sizeofIotHead + declared p → 0 < declared p → 16 ≤ declared p := by
      intro hlen hpos
      by_contra hlt
      exact h ⟨hlen, hpos, by omega⟩
    refine ⟨?_, fun {fota datalen} hget => ?_, fun {q _ _ _ _ data} hfit hbody fota datalen hget => ?_⟩
    · rw [iotGetOtaData_isSome]
      constructor
      · rintro ⟨hlen, hpos, hmax⟩
        exact ⟨hlen, hlow hlen hpos, hmax⟩
      · rintro ⟨hlen, hmin, hmax⟩
        exact ⟨hlen, by omega, hmax⟩
    · obtain ⟨hlen, hpos, -⟩ := (iotGetOtaData_isSome p len).1 (by rw [hget]; rfl)
      have hmin := hlow hlen hpos
      obtain ⟨-, hdl⟩ := iotGetOtaData_eq hget
      refine ⟨by omega, hdl, by omega⟩
    · obtain ⟨rest, hcells⟩ := body_built (q := q) hfit
      obtain ⟨hfota, -⟩ := iotGetOtaData_eq hget
      rw [← hbody] at hcells
      rw [hcells, IotFota.ofBytes_bytes] at hfota
      have hdrop : (p.body.cells.drop sizeofIotFota).take data.length = data := by
        rw [hcells]
        exact List.take_left
      rw [hfota]
      exact ⟨swap32_swap32 _, swap32_swap32 _, swap32_swap32 _, swap32_swap32 _, hdrop⟩

end

/-! ## What is stored -/

/-- What `tcl_ota_data` does with a message, if it never passes a negative length to
    `MicoFlashWrite`: it leaves `g_recvsize`, or adds the length to it, after `ota_start`. -/
def StoresOta (P : Platform) (buf : Buf) (len : ℕ) : Prop :=
  ∀ (malloc : Bool) (w : World P) (addr : SockAddr), ∃ w',
    tclOtaData malloc w buf len addr = some w' ∧
      (w'.ota.recvsize = w.ota.recvsize ∨
        ∃ fota datalen, iotGetOtaData buf len = some (fota, datalen) ∧ 0 ≤ datalen ∧
          w'.ota.recvsize = (otaStart w (htonl fota.codeNumber) fota).ota.recvsize +
            BitVec.ofInt 32 datalen)

section
variable {P : Platform} {buf : Buf} {len : ℕ}

theorem recvsize_otaFinish (malloc : Bool) (w : World P) (number total : BitVec 32) :
    (otaFinish malloc w number total).ota.recvsize = w.ota.recvsize := by
  unfold otaFinish otaEnd micoOtaFinished
  dsimp only
  split_ifs <;> rfl

theorem recvsize_otaStart (w : World P) (addr : SockAddr) (number : BitVec 32) (fota : IotFota) :
    (otaStart (w.setOtaaddr addr) number fota).ota.recvsize =
      (otaStart w number fota).ota.recvsize := by
  unfold otaStart World.setOtaaddr
  dsimp only
  split_ifs <;> rfl

theorem recvsize_tclOtaData {malloc : Bool} {w w' : World P} {addr : SockAddr}
    (h : tclOtaData malloc w buf len addr = some w') : w'.ota.recvsize = w.ota.recvsize ∨
      ∃ fota datalen, iotGetOtaData buf len = some (fota, datalen) ∧ 0 ≤ datalen ∧
        w'.ota.recvsize = (otaStart w (htonl fota.codeNumber) fota).ota.recvsize +
          BitVec.ofInt 32 datalen := by
  unfold tclOtaData at h
  cases hget : iotGetOtaData buf len with
  | none =>
    rw [hget] at h
    cases h
    exact .inl rfl
  | some r =>
    obtain ⟨fota, datalen⟩ := r
    rw [hget] at h
    dsimp only at h
    split_ifs at h with hnum
    · cases h
      exact .inl rfl
    · obtain ⟨data, hdata, h⟩ := Option.bind_eq_some_iff.1 h
      have hlen : 0 ≤ datalen ∧ data.length = datalen.toNat := by
        unfold otaPayload at hdata
        split_ifs at hdata with hpos
        exact ⟨hpos, Block.length_of_slice hdata⟩
      obtain ⟨m, -, he⟩ := otaAccept_eq malloc (w.setOtaaddr addr) fota data
      rw [he] at h
      cases h
      refine .inr ⟨fota, datalen, rfl, hlen.1, ?_⟩
      have hint : BitVec.ofInt 32 datalen = BitVec.ofNat 32 data.length := by
        rw [hlen.2, ← BitVec.ofInt_natCast, Int.toNat_of_nonneg hlen.1]
      rw [recvsize_otaFinish, hint, ← recvsize_otaStart w addr]
      rfl

theorem storesOta_iff (deviceid : DeviceId) (hlen : len ≤ 1024) :
    StoresOta P buf len ↔ ¬ Short buf len := by
  constructor
  · rintro h ⟨hl, hpos, hshort⟩
    -- a module that waits for this packet
    set w : World P := { World.init P deviceid with
      ota.upcodenumber := htonl (get32 buf.body.cells 12) } with hw
    obtain ⟨w', hw', -⟩ := h true w ⟨0, 0⟩
    have hsome : (tclOtaData true w buf len ⟨0, 0⟩).isSome := by rw [hw']; rfl
    have hmin := (tclOtaData_isSome hlen).1 hsome hl hpos rfl
    exact absurd hshort (Nat.not_lt.2 hmin)
  · intro h malloc w addr
    have hsome : (tclOtaData malloc w buf len addr).isSome :=
      (tclOtaData_isSome hlen).2 fun hl hpos _ => by
        by_contra hlt
        exact h ⟨hl, hpos, Nat.lt_of_not_le hlt⟩
    obtain ⟨w', hw'⟩ := Option.isSome_iff_exists.1 hsome
    exact ⟨w', hw', recvsize_tclOtaData hw'⟩

/-- **The packets of an update.**  A message is accepted, and its data stored, as the packets that
    `iotSetOta` builds are, exactly when it is not too short for an `IotFota`. -/
theorem ota_packets_iff {n : ℕ} (p : Packet n) (len : ℕ) (P : Platform) (buf : Buf) {len' : ℕ}
    (hlen : len' ≤ 1024) :
    (AcceptsOta p len ↔ ¬ Short p len) ∧ (StoresOta P buf len' ↔ ¬ Short buf len') :=
  ⟨acceptsOta_iff p len, storesOta_iff sampleId hlen⟩

/-- The second of two packets, as it is received. -/
def secondPacket : Buf :=
  { iotSetOtaTypeVer (iotSetOta (.zero 1004) 1 2 [0x11, 0x22, 0x33]).1 7 8 with
    head := { IotHead.zero with len := 19 } }

/-- It is accepted, and its fields and its data are read back. -/
theorem ota_packets_iff_second : AcceptsOta secondPacket 39 ∧ StoresOta .sample secondPacket 39 ∧
    ∃ fota, iotGetOtaData secondPacket 39 = some (fota, 3) ∧
      htonl fota.codeType = 7 ∧ htonl fota.codeVer = 8 ∧ htonl fota.codeTotal = 2 ∧
      htonl fota.codeNumber = 1 ∧
      (secondPacket.body.cells.drop sizeofIotFota).take 3 = [0x11, 0x22, 0x33] := by
  have hshort : ¬ Short secondPacket 39 := fun h => absurd h.2.2 (by decide)
  obtain ⟨haccepts, hstores⟩ :=
    ota_packets_iff secondPacket 39 .sample secondPacket (show 39 ≤ 1024 by decide)
  obtain ⟨⟨fota, datalen⟩, hget⟩ := Option.isSome_iff_exists.1
    ((haccepts.2 hshort).accepts.2 ⟨rfl, by decide, by decide⟩)
  obtain rfl : datalen = 3 := ((haccepts.2 hshort).block hget).2.1
  exact ⟨haccepts.2 hshort, hstores.2 hshort, fota, hget, (haccepts.2 hshort).fields
    (show sizeofIotFota + [0x11, 0x22, 0x33].length ≤ 1004 by decide) rfl hget⟩

/-- A message whose header declares one byte. -/
def shortPacket : Buf := ⟨{ IotHead.zero with len := 1 }, .fill 1004 0⟩

/-- It is accepted with a length of -15. -/
theorem short_packet_accepted : (iotGetOtaData shortPacket 21).map Prod.snd = some (-15) ∧
    ¬ AcceptsOta shortPacket 21 ∧ ¬ StoresOta .sample shortPacket 21 := by
  have hshort : Short shortPacket 21 := ⟨by decide, by decide, by decide⟩
  exact ⟨rfl, fun h => (acceptsOta_iff _ _).1 h hshort,
    fun h => (storesOta_iff sampleId (by decide)).1 h hshort⟩

end

end MxchipSpp
