/-
  An update over a network that loses, repeats and reorders packets.

  The update is a receiver that takes a block when its number is due
  (`World.received`, `tclOtaData_packet`): the flash holds the blocks that
  came, each once and in order, whatever else the module does in between.
  What is acknowledged has been stored, and a boot table is only written for
  an image that carries its own digest.
-/
import MxchipSpp.Lib.Reassembly
import MxchipSpp.Datagram

namespace MxchipSpp

open Memory Endian Reassembly

/-! ## The platform -/

/-- The digest of some data. -/
def Platform.md5 (P : Platform) (data : List Byte) : List Byte :=
  P.md5Final (P.md5Update P.initMd5 data)

/-- The first bytes of the partition of the update. -/
def Platform.firstBytes (P : Platform) (flash : P.Flash) (n : ℕ) : List Byte :=
  (List.range n).map (P.byte flash)

theorem length_firstBytes {P : Platform} (flash : P.Flash) (n : ℕ) :
    (P.firstBytes flash n).length = n := by
  simp [Platform.firstBytes]

theorem take_firstBytes {P : Platform} (flash : P.Flash) {k n : ℕ} (h : k ≤ n) :
    (P.firstBytes flash n).take k = P.firstBytes flash k := by
  rw [Platform.firstBytes, ← List.map_take, List.take_range, min_eq_left h]
  rfl

/-- What an update relies on. -/
structure Platform.Lawful (P : Platform) : Prop where
  /-- a write stores its bytes at its address, and no other byte -/
  byte_flashWrite : ∀ flash addr data i, P.byte (P.flashWrite flash addr data) i =
    if addr ≤ i ∧ i < addr + data.length then data.getD (i - addr) 0 else P.byte flash i
  /-- a read returns the bytes at its address, and moves it behind them -/
  flashRead_eq : ∀ flash addr n,
    P.flashRead flash addr n = ((List.range n).map fun i => P.byte flash (addr + i), addr + n)
  /-- the digest depends on the concatenation of what was fed -/
  md5 : ∀ pieces : List (List Byte),
    P.md5Final (pieces.foldl P.md5Update P.initMd5) = P.md5 pieces.flatten

section
variable {P : Platform} (hP : P.Lawful)
include hP

theorem firstBytes_flashWrite (flash : P.Flash) (n : ℕ) (data : List Byte) :
    P.firstBytes (P.flashWrite flash n data) (n + data.length) = P.firstBytes flash n ++ data := by
  refine List.ext_getElem (by simp [Platform.firstBytes]) fun i h₁ h₂ => ?_
  simp only [Platform.firstBytes, List.length_map, List.length_range] at h₁
  simp only [Platform.firstBytes, List.getElem_map, List.getElem_range, hP.byte_flashWrite,
    List.getElem_append, List.length_map, List.length_range]
  split_ifs with h h' h'
  · omega
  · exact List.getD_eq_getElem data 0 (by omega)
  · rfl
  · omega

theorem flashRead_firstBytes (flash : P.Flash) (addr n : ℕ) :
    (P.flashRead flash addr n).1 = (P.firstBytes flash (addr + n)).drop addr := by
  rw [hP.flashRead_eq]
  refine List.ext_getElem (by simp [Platform.firstBytes]) fun i h₁ h₂ => ?_
  simp [Platform.firstBytes]

/-- The loop of `ota_end` feeds the bytes it has left, in pieces. -/
theorem md5Loop_pieces (flash : P.Flash) (left : ℕ) : ∀ (addr : ℕ) (ctx : P.Md5),
    ∃ pieces : List (List Byte), md5Loop flash left addr ctx = pieces.foldl P.md5Update ctx ∧
      pieces.flatten = (P.firstBytes flash (addr + left)).drop addr := by
  induction left using Nat.strong_induction_on with
  | _ left ih =>
    intro addr ctx
    by_cases h : 0 < left
    · have hlt : left - min left 512 < left := by omega
      obtain ⟨pieces, hf, hp⟩ := ih _ hlt (addr + min left 512)
        (P.md5Update ctx (P.flashRead flash addr (min left 512)).1)
      refine ⟨(P.flashRead flash addr (min left 512)).1 :: pieces, ?_, ?_⟩
      · rw [md5Loop, if_pos h, List.foldl_cons, ← hf]
        simp only [hP.flashRead_eq]
      · set l := P.firstBytes flash (addr + left) with hl
        have hm : (P.flashRead flash addr (min left 512)).1 = (l.drop addr).take (min left 512) := by
          rw [flashRead_firstBytes hP, ← take_firstBytes flash (n := addr + left) (by omega),
            ← hl, List.drop_take, Nat.add_sub_cancel_left]
        have hr : addr + min left 512 + (left - min left 512) = addr + left := by omega
        rw [List.flatten_cons, hp, hr, ← hl, hm, ← List.drop_drop, List.take_append_drop]
    · have h₀ : left = 0 := by omega
      subst h₀
      refine ⟨[], ?_, ?_⟩
      · rw [md5Loop, if_neg h]; rfl
      · simp [Platform.firstBytes]

end

/-! ## The sender -/

/-- An image cut into blocks, as packets can number them and the flash can hold them: packet
    numbers and addresses have 32 bits. -/
structure Image where
  blocks : List (List Byte)
  count_lt : blocks.length < 2 ^ 32
  size_lt : blocks.flatten.length < 2 ^ 32

/-- The packet of a block, built in a buffer. -/
def Image.packet (img : Image) {n : ℕ} (buf : Packet n) (number : ℕ)
    (sn codeType codeVer : BitVec 32) : Option (List Byte) := do
  let data ← img.blocks[number]?
  let (buf, fotasize) :=
    iotSetOta buf (BitVec.ofNat 32 number) (BitVec.ofNat 32 img.blocks.length) data
  let buf := iotSetOtaTypeVer buf codeType codeVer
  (iotSetHeadCmd buf sn linkUpgradeCode (BitVec.ofNat 16 fotasize)).message fotasize

/-- The sender can send `msg` as the packet of a block, from any buffer. -/
def Image.IsPacket (img : Image) (number : ℕ) (msg : List Byte) : Prop :=
  ∃ (n : ℕ) (buf : Packet n) (sn codeType codeVer : BitVec 32),
    img.packet buf number sn codeType codeVer = some msg

/-- The packet fields in front of the data. -/
def IotFota.bytes (fota : IotFota) : List Byte :=
  le32 fota.codeType ++ le32 fota.codeVer ++ le32 fota.codeTotal ++ le32 fota.codeNumber

theorem IotFota.ofBytes_bytes (fota : IotFota) (rest : List Byte) :
    IotFota.ofBytes (fota.bytes ++ rest) = fota := by
  have h : ∀ (x : BitVec 32) (k : ℕ) (tail : List Byte),
      (fota.bytes ++ rest).drop k = le32 x ++ tail → get32 (fota.bytes ++ rest) k = x := by
    intro x k tail hk
    have := get32_le32 x tail
    rwa [← hk, get32_drop] at this
  rw [IotFota.ofBytes, h fota.codeType 0 _ rfl, h fota.codeVer 4 _ rfl, h fota.codeTotal 8 _ rfl,
    h fota.codeNumber 12 _ rfl]

/-- The parts of a packet; one that did not fit its buffer has no body. -/
structure PacketParts (img : Image) (number : ℕ) (data body msg : List Byte) (head : IotHead)
    (fota : IotFota) : Prop where
  block : img.blocks[number]? = some data
  msg : msg = head.bytes ++ body
  cmd : head.cmd = htons linkUpgradeCode
  len : head.len = htons (BitVec.ofNat 16 body.length)
  body : body = [] ∨ body = fota.bytes ++ data
  number : htonl fota.codeNumber = BitVec.ofNat 32 number
  total : htonl fota.codeTotal = BitVec.ofNat 32 img.blocks.length

/-- What `iotSetOta` and `iotSetOtaTypeVer` leave in front of a body. -/
theorem take_put_fota {n : ℕ} (body : Block Byte n) (fota : IotFota) (data : List Byte)
    (h₈ : 8 + (le32 fota.codeTotal ++ le32 fota.codeNumber ++ data).length ≤ n)
    (h₀ : 0 + (le32 fota.codeType ++ le32 fota.codeVer).length ≤ n) :
    ((body.put 8 (le32 fota.codeTotal ++ le32 fota.codeNumber ++ data) h₈).put 0
      (le32 fota.codeType ++ le32 fota.codeVer) h₀).cells.take (sizeofIotFota + data.length) =
      fota.bytes ++ data := by
  have hn : (body.cells.take 8).length = 8 := by
    rw [List.length_take, Block.length_cells]
    omega
  have hl : (le32 fota.codeType ++ le32 fota.codeVer ++
      (le32 fota.codeTotal ++ le32 fota.codeNumber ++ data)).length =
      sizeofIotFota + data.length := by
    simp only [List.length_append, length_le32, sizeofIotFota]
    omega
  rw [Block.cells_put_zero, Block.cells_put,
    show (le32 fota.codeType ++ le32 fota.codeVer).length = 8 from rfl, List.drop_left' hn,
    ← List.append_assoc, List.take_left' hl, IotFota.bytes]
  simp only [List.append_assoc]

/-- A packet that was built holds its fields and its data. -/
theorem take_body_built {n : ℕ} (q : Packet n) (codenumber codeTotal codeType codeVer : BitVec 32)
    {data : List Byte} (hfit : sizeofIotFota + data.length ≤ n) :
    (iotSetOtaTypeVer (iotSetOta q codenumber codeTotal data).1 codeType codeVer).body.cells.take
        (sizeofIotFota + data.length) =
      (IotFota.mk (htonl codeType) (htonl codeVer) (htonl codeTotal) (htonl codenumber)).bytes ++
        data := by
  set fota : IotFota := ⟨htonl codeType, htonl codeVer, htonl codeTotal, htonl codenumber⟩
  have hs : sizeofIotFota = 16 := rfl
  have h₈ : 8 + (le32 fota.codeTotal ++ le32 fota.codeNumber ++ data).length ≤ n := by
    simp only [List.length_append, length_le32]
    omega
  have h₀ : 0 + (le32 fota.codeType ++ le32 fota.codeVer).length ≤ n := by
    simp only [List.length_append, length_le32]
    omega
  have hset : (iotSetOta q codenumber codeTotal data).1 = { q with body := q.body.put 8 _ h₈ } := by
    rw [iotSetOta, if_pos hfit]
    exact congrArg (Option.getD · q) (Packet.write_of_le q h₈)
  rw [hset, iotSetOtaTypeVer, if_pos (by omega), show htonl codeType = fota.codeType from rfl,
    show htonl codeVer = fota.codeVer from rfl, Packet.write_of_le _ h₀, Option.getD_some]
  exact take_put_fota q.body fota data h₈ h₀

theorem Image.IsPacket.parts {img : Image} {number : ℕ} {msg : List Byte}
    (h : img.IsPacket number msg) :
    ∃ data body head fota, PacketParts img number data body msg head fota := by
  obtain ⟨n, buf, sn, codeType, codeVer, h⟩ := h
  obtain ⟨data, hd, h⟩ := Option.bind_eq_some_iff.1 h
  set fota : IotFota := ⟨htonl codeType, htonl codeVer, htonl (BitVec.ofNat 32 img.blocks.length),
    htonl (BitVec.ofNat 32 number)⟩ with hfota
  have hn : htonl fota.codeNumber = BitVec.ofNat 32 number := swap32_swap32 _
  have ht : htonl fota.codeTotal = BitVec.ofNat 32 img.blocks.length := swap32_swap32 _
  by_cases hfit : sizeofIotFota + data.length ≤ n
  · have hsize : (iotSetOta buf (BitVec.ofNat 32 number) (BitVec.ofNat 32 img.blocks.length)
        data).2 = sizeofIotFota + data.length := by
      rw [iotSetOta, if_pos hfit]
    have hbody := take_body_built buf (BitVec.ofNat 32 number) (BitVec.ofNat 32 img.blocks.length)
      codeType codeVer hfit
    generalize iotSetOta buf (BitVec.ofNat 32 number) (BitVec.ofNat 32 img.blocks.length) data = r
      at h hsize hbody
    obtain ⟨p, fotasize⟩ := r
    dsimp only at h hsize hbody
    rw [hsize, Packet.message_of_le _ hfit, Option.some.injEq] at h
    have hmsg := h.symm.trans (congrArg _ hbody)
    exact ⟨data, fota.bytes ++ data, _, fota, hd, hmsg, rfl, by rw [List.length_append]; rfl,
      .inr rfl, hn, ht⟩
  · simp only [iotSetOta, if_neg hfit] at h
    rw [Packet.message_of_le _ (Nat.zero_le n), Option.some.injEq] at h
    exact ⟨data, [], _, fota, hd, h.symm, rfl, rfl, .inl rfl, hn, ht⟩

namespace PacketParts
variable {img : Image} {number : ℕ} {data body msg : List Byte} {head : IotHead} {fota : IotFota}

theorem isMessage (h : PacketParts img number data body msg head fota) :
    IsMessage head body.length msg := ⟨body, rfl, h.msg⟩

theorem command_eq (h : PacketParts img number data body msg head fota) :
    command msg = manageUpgradeCode := by
  rw [h.isMessage.command, h.cmd, htons, htons, swap16_swap16]
  rfl

theorem lenField_toNat (h : PacketParts img number data body msg head fota)
    (hlen : msg.length ≤ 1023) : (lenField msg).toNat = body.length := by
  have hl := h.isMessage.length
  rw [h.isMessage.lenField, h.len, htons, htons, swap16_swap16, BitVec.toNat_ofNat]
  omega

/-- A packet of the sender is always received, if a datagram can hold it. -/
theorem fits {P : Platform} (h : PacketParts img number data body msg head fota)
    (hlen : msg.length ≤ 1023) (w : World P) : Fits w msg := by
  have hl := h.isMessage.length
  have hcmd := h.command_eq
  refine ⟨by rw [hl]; exact Nat.le_add_right _ _, fun hc => ?_, fun hc => ?_, fun _ _ hpos _ => ?_⟩
  · exact absurd (hcmd.symm.trans hc) (by decide)
  · exact absurd (hcmd.symm.trans hc) (by decide)
  · rw [h.lenField_toNat hlen] at hpos ⊢
    rcases h.body with hb | hb
    · rw [hb] at hpos
      exact absurd hpos (by decide)
    · rw [hb, List.length_append]
      exact Nat.le_add_right 16 _

end PacketParts

/-! ## The update as a receiver of blocks -/

section
variable {P : Platform}

/-- The first `g_recvsize` bytes of the partition. -/
def World.partition (w : World P) : List Byte := P.firstBytes w.ota.flash w.ota.recvsize.toNat

/-- The update as a receiver of numbered blocks. -/
def World.received (w : World P) : State Byte := ⟨w.ota.upcodenumber.toNat, w.partition⟩

variable {w w' : World P} {img : Image} {fota : IotFota} {data : List Byte} {malloc : Bool}

/-- Before the first block nothing has been stored, and `g_recvsize` is 0 already. -/
theorem received_otaStart (h : Holds img.blocks w.received) {number : BitVec 32}
    (hn : number = w.ota.upcodenumber) : (otaStart w number fota).received = w.received := by
  unfold otaStart
  split_ifs with hc
  · have hup : w.ota.upcodenumber.toNat = 0 := by rw [← hn, hc.1]; rfl
    have hlen : w.partition.length = 0 := by
      have := h.stored
      rw [World.received, hup] at this
      exact congrArg List.length this
    rw [World.partition, length_firstBytes] at hlen
    have hz : w.ota.recvsize = 0 := BitVec.eq_of_toNat_eq hlen
    simp only [World.received, World.partition, hz]
  · rfl

theorem received_otaStore (hP : P.Lawful) (hc : w.ota.upcodenumber.toNat + 1 < 2 ^ 32)
    (hs : w.ota.recvsize.toNat + data.length < 2 ^ 32) :
    (otaStore w data).received = ⟨w.received.count + 1, w.received.stored ++ data⟩ := by
  have hsize : (w.ota.recvsize + BitVec.ofNat 32 data.length).toNat =
      w.ota.recvsize.toNat + data.length := by
    rw [BitVec.toNat_add, BitVec.toNat_ofNat]
    omega
  have hcount : (w.ota.upcodenumber + 1).toNat = w.ota.upcodenumber.toNat + 1 := by
    rw [BitVec.toNat_add]
    exact Nat.mod_eq_of_lt hc
  simp only [World.received, World.partition, otaStore, hsize, hcount,
    firstBytes_flashWrite hP]

theorem received_otaFinish (malloc : Bool) (w : World P) (number total : BitVec 32) :
    (otaFinish malloc w number total).received = w.received ∧
      (otaFinish malloc w number total).ota.recvsize = w.ota.recvsize ∧
      (otaFinish malloc w number total).sent = w.sent := by
  unfold otaFinish otaEnd micoOtaFinished
  dsimp only
  split_ifs <;> exact ⟨rfl, rfl, rfl⟩

theorem filelen_eq {recvsize : BitVec 32} (h : 1024 < recvsize.toInt) :
    (recvsize - 16).toNat + 16 = recvsize.toNat ∧
      (recvsize - 16).toInt.toNat = (recvsize - 16).toNat := by
  have h₁ : recvsize.toNat < 2 ^ 31 ∧ 1024 < recvsize.toNat := by
    rw [BitVec.toInt_eq_toNat_cond] at h
    split_ifs at h <;> omega
  have h₂ : (recvsize - 16).toNat = recvsize.toNat - 16 := by
    rw [BitVec.toNat_sub]
    have : (16 : BitVec 32).toNat = 16 := rfl
    omega
  refine ⟨by omega, ?_⟩
  rw [BitVec.toInt_eq_toNat_cond, if_pos (by omega), Int.toNat_natCast]

/-- `ota_end` compares the digest of what was received, but for its last 16 bytes, with these. -/
theorem bootTables_otaFinish (hP : P.Lawful) (number total : BitVec 32) {b : BootTable}
    (hb : b ∈ (otaFinish malloc w number total).ota.bootTables) :
    b ∈ w.ota.bootTables ∨ number = total - 1 ∧ b.length.toNat + 16 = w.ota.recvsize.toNat ∧
      P.md5 (w.partition.take b.length.toNat) = w.partition.drop b.length.toNat := by
  unfold otaFinish at hb
  split_ifs at hb with hc
  · unfold otaEnd micoOtaFinished at hb
    dsimp only at hb
    split_ifs at hb with hmalloc hm
    · exact .inl hb
    · exact .inl hb
    · rcases List.mem_append.1 hb with hb | hb
      · exact .inl hb
      · refine .inr ⟨hc.1, ?_⟩
        rw [List.mem_singleton.1 hb]
        obtain ⟨hsize, hleft⟩ := filelen_eq hc.2.2
        obtain ⟨pieces, hf, hp⟩ := md5Loop_pieces hP w.ota.flash (w.ota.recvsize - 16).toNat 0 P.initMd5
        rw [Nat.zero_add, List.drop_zero] at hp
        have hread := flashRead_firstBytes hP w.ota.flash (w.ota.recvsize - 16).toNat 16
        rw [hsize] at hread
        have hcalc := not_not.1 hm
        rw [hleft, hf, hP.md5, hp, hread] at hcalc
        refine ⟨hsize, ?_⟩
        change P.md5 (w.partition.take (w.ota.recvsize - 16).toNat) = _
        rw [World.partition, take_firstBytes _ (by omega)]
        exact hcalc
  · exact .inl hb

end

/-! ## The receiver -/

section
variable {P : Platform} {w w' : World P} {img : Image} {number : ℕ} {data body msg : List Byte}
  {head : IotHead} {fota : IotFota} {addr : SockAddr} {malloc : Bool}

/-- What `tcl_ota_data` does with a packet of the sender: it drops it, or stores its data. -/
theorem receive_packet (h : PacketParts img number data body msg head fota)
    (hlen : msg.length ≤ 1023) :
    receive malloc w msg addr = some w ∨
      receive malloc w msg addr =
        if BitVec.ofNat 32 number ≠ w.ota.upcodenumber then some (w.setOtaaddr addr)
        else otaAccept malloc (w.setOtaaddr addr) fota data := by
  have hl := h.isMessage.length
  obtain ⟨b, hb, hcells⟩ := ofMessage_isSome (show msg.length ≤ 1024 by omega)
  have hhead : headLogPrintf b.head = requestHead msg := by rw [head_ofMessage hb]; rfl
  have hcmd : (requestHead msg).cmd = manageUpgradeCode :=
    (cmd_requestHead msg).trans h.command_eq
  have hpack : (requestHead msg).len.toNat = body.length := by
    rw [len_requestHead, h.lenField_toNat hlen]
  have hsw : receive malloc w msg addr =
      tclOtaData malloc w { b with head := requestHead msg } msg.length addr := by
    rw [receive, hb, Option.bind_eq_bind, Option.bind_some, iotProcess,
      if_neg (not_lt.2 (show 20 ≤ msg.length by omega)), hhead, iotSwitch]
    exact if_pos hcmd
  rcases h.body with rfl | hbody
  · refine .inl ?_
    rw [hsw, tclOtaData, iotGetOtaData]
    simp only [hpack, List.length_nil, true_or, or_true, if_true]
  · refine .inr ?_
    have hbl : body.length = 16 + data.length := by rw [hbody, List.length_append]; rfl
    have hcells : b.body.cells =
        fota.bytes ++ (data ++ List.replicate (1024 - msg.length) 0) := by
      rw [hcells, h.msg, hbody, List.append_assoc, List.drop_left' (IotHead.length_bytes _),
        List.append_assoc]
    have hfota : IotFota.ofBytes b.body.cells = fota := by rw [hcells, IotFota.ofBytes_bytes]
    have hget : iotGetOtaData { b with head := requestHead msg } msg.length =
        some (fota, (data.length : ℤ)) := by
      have h₂₀ : sizeofIotHead = 20 := rfl
      rw [iotGetOtaData]
      simp only [hpack, hfota]
      rw [if_neg (by omega), hbl]
      refine congrArg (fun l => some (fota, l)) ?_
      push_cast
      omega
    have hpay : otaPayload { b with head := requestHead msg } (data.length : ℤ) = some data := by
      rw [otaPayload, if_pos (Int.natCast_nonneg _), Int.toNat_natCast,
        Block.slice_of_le _ (show 16 + data.length ≤ 1004 by omega), hcells,
        List.drop_left' (show fota.bytes.length = 16 from rfl), List.take_left]
    rw [hsw, tclOtaData, hget]
    simp only [h.number, hpay, Option.bind_some]

end

/-! ## Runs -/

/-- The number `LINK_UPGRADE_ACK` acknowledges. -/
def ackNumber (m : List Byte) : BitVec 32 := htonl (get32 m 28)

/-- The boot table of a whole image that ends in its digest. -/
structure Verified {P : Platform} (img : Image) (w : World P) (b : BootTable) : Prop where
  complete : w.ota.upcodenumber.toNat = img.blocks.length
  length : b.length.toNat + 16 = w.ota.recvsize.toNat
  digest : P.md5 (w.partition.take b.length.toNat) = w.partition.drop b.length.toNat

/-- What holds of an update in every state. -/
structure Reassembled {P : Platform} (img : Image) (w : World P) : Prop where
  count : w.ota.upcodenumber.toNat ≤ img.blocks.length
  /-- the partition holds the blocks before the one that is due, each once and in order -/
  partition : w.partition = (img.blocks.take w.ota.upcodenumber.toNat).flatten
  /-- a block is acknowledged when it and those before it are in the partition -/
  acks : ∀ s ∈ w.sent, command s.message = linkUpgradeAck →
    (ackNumber s.message).toNat < w.ota.upcodenumber.toNat
  boots : ∀ b ∈ w.ota.bootTables, Verified img w b

/-- The packets of an update the network brings are the sender's, lost, repeated or reordered. -/
def Event.FromSender (img : Image) (ev : Event) : Prop :=
  ∀ msg, ev.request = some msg → command msg = manageUpgradeCode → ∃ number, img.IsPacket number msg

section
variable {P : Platform} {w w' : World P} {img : Image} {ev : Event}

theorem Reassembled.holds (h : Reassembled img w) : Holds img.blocks w.received :=
  ⟨h.count, h.partition⟩

theorem ackNumber_ack (codeType codeVer codenumber : BitVec 32) :
    ackNumber (upgradeAckHead.bytes ++ (le32 codeType ++ le32 codeVer ++ le32 codenumber)) =
      htonl codenumber := by
  have hdrop : (upgradeAckHead.bytes ++ (le32 codeType ++ le32 codeVer ++ le32 codenumber)).drop 28 =
      le32 codenumber ++ [] := rfl
  rw [ackNumber, ← Nat.add_zero 28, ← get32_drop, hdrop, get32_le32]

theorem otaStart_history (w : World P) (number : BitVec 32) (fota : IotFota) :
    (otaStart w number fota).sent = w.sent ∧
      (otaStart w number fota).ota.bootTables = w.ota.bootTables := by
  unfold otaStart
  split_ifs <;> exact ⟨rfl, rfl⟩

/-- A step that leaves the update as it is, but for the address. -/
theorem Reassembled.of_ota_eq (h : Reassembled img w)
    (ho : ∃ addr, w'.ota = { w.ota with otaaddr := addr })
    (hs : ∀ s ∈ w'.sent, s ∈ w.sent ∨ (command s.message = linkUpgradeAck →
      (ackNumber s.message).toNat < w.ota.upcodenumber.toNat)) : Reassembled img w' := by
  obtain ⟨addr, ho⟩ := ho
  have hup : w'.ota.upcodenumber = w.ota.upcodenumber := by rw [ho]
  have hsize : w'.ota.recvsize = w.ota.recvsize := by rw [ho]
  have hpart : w'.partition = w.partition := by rw [World.partition, ho]; rfl
  refine ⟨hup ▸ h.count, ?_, fun s hmem hc => ?_, fun b hb => ?_⟩
  · rw [hpart, hup]; exact h.partition
  · rw [hup]
    rcases hs s hmem with hold | hnew
    · exact h.acks s hold hc
    · exact hnew hc
  · rw [ho] at hb
    obtain ⟨h₁, h₂, h₃⟩ := h.boots b hb
    exact ⟨hup ▸ h₁, hsize ▸ h₂, hpart ▸ h₃⟩

/-- The packet that is due. -/
theorem Reassembled.otaAccept (hP : P.Lawful) (h : Reassembled img w) {number : ℕ}
    {data body msg : List Byte} {head : IotHead} {fota : IotFota} {malloc : Bool}
    (hp : PacketParts img number data body msg head fota)
    (hdue : BitVec.ofNat 32 number = w.ota.upcodenumber)
    (ha : otaAccept malloc w fota data = some w') : Reassembled img w' := by
  have hlt : number < img.blocks.length := (List.getElem?_eq_some_iff.1 hp.block).1
  have hN := img.count_lt
  have hnum : number = w.ota.upcodenumber.toNat := by
    rw [← hdue, BitVec.toNat_ofNat]
    omega
  have hdue' : htonl fota.codeNumber = w.ota.upcodenumber := hp.number.trans hdue
  obtain ⟨m, hm, he⟩ := otaAccept_eq malloc w fota data
  rw [he, Option.some.injEq] at ha
  -- `ota_start`
  set w₁ := otaStart w (htonl fota.codeNumber) fota with hw₁
  obtain ⟨hsent₁, hboots₁⟩ := otaStart_history w (htonl fota.codeNumber) fota
  have h₁ : w₁.received = w.received := received_otaStart h.holds hdue'
  have hcount₁ : w₁.ota.upcodenumber.toNat = number := (congrArg State.count h₁).trans hnum.symm
  have hsize₁ : w₁.ota.recvsize.toNat = w.received.stored.length := by
    rw [← h₁]
    exact (length_firstBytes _ _).symm
  -- the data is stored
  have hreceive : w.received.receive number data =
      ⟨w.received.count + 1, w.received.stored ++ data⟩ := by
    rw [hnum]
    exact receive_count w.received data
  have hholds := h.holds.receive hp.block
  rw [hreceive] at hholds
  have hfit := hholds.length_le
  rw [List.length_append] at hfit
  have hsize := img.size_lt
  have h₂ : (otaStore w₁ data).received = ⟨w₁.received.count + 1, w₁.received.stored ++ data⟩ :=
    received_otaStore hP (by omega) (by omega)
  rw [h₁] at h₂
  -- the answer is sent, and the update may end
  set w₃ := (otaStore w₁ data).sendto m (base64Frame m) w₁.ota.otaaddr with hw₃
  obtain ⟨h₃, hsize₃, hsent₃⟩ := received_otaFinish malloc w₃ (htonl fota.codeNumber)
    (htonl fota.codeTotal)
  rw [ha] at h₃ hsize₃ hsent₃
  have hw' : w'.received = ⟨w.received.count + 1, w.received.stored ++ data⟩ := h₃.trans h₂
  have hup : w'.ota.upcodenumber.toNat = number + 1 := by
    rw [hnum]
    exact congrArg State.count hw'
  rw [← hw'] at hholds
  refine ⟨hholds.count, hholds.stored, fun s hs hc => ?_, fun b hb => ?_⟩
  · have hs' : s ∈ w.sent ++ [⟨w₁.cause, m, base64Frame m, w₁.ota.otaaddr⟩] := by
      rw [hsent₃] at hs
      rw [← hsent₁, ← hw₁]
      exact hs
    rw [hup]
    rcases List.mem_append.1 hs' with hold | hnew
    · have := h.acks s hold hc
      omega
    · rw [List.mem_singleton.1 hnew, hm, ackNumber_ack, hp.number, BitVec.toNat_ofNat]
      omega
  · rw [← ha] at hb
    rcases bootTables_otaFinish hP _ _ hb with hold | ⟨hlast, hlen, hmd⟩
    · have hold' : b ∈ w.ota.bootTables := by
        rw [← hboots₁, ← hw₁]
        exact hold
      have := (h.boots b hold').complete
      omega
    · refine ⟨?_, by rw [hsize₃]; exact hlen, ?_⟩
      · rw [hp.number, hp.total] at hlast
        have hlast := congrArg BitVec.toNat hlast
        rw [BitVec.toNat_sub, BitVec.toNat_ofNat, BitVec.toNat_ofNat] at hlast
        have h₁' : (1 : BitVec 32).toNat = 1 := rfl
        omega
      · rw [show w'.partition = w₃.partition from congrArg State.stored h₃]
        exact hmd

/-- A step with a packet of the sender. -/
theorem Reassembled.step_upgrade (hP : P.Lawful) (h : Reassembled img w) (hev : ev.FromSender img)
    (hu : ev.Upgrades) (hs : w.step ev = some w') : Reassembled img w' := by
  obtain ⟨msg, hr, hc⟩ := hu
  obtain ⟨number, hpacket⟩ := hev msg hr hc
  obtain ⟨data, body, head, fota, hp⟩ := hpacket.parts
  cases ev with
  | udp addr datagram malloc =>
    set w₀ : World P := { w with cause := .udp addr datagram malloc } with hw₀
    have h₀ : Reassembled img w₀ := ⟨h.count, h.partition, h.acks, fun b hb => by
      obtain ⟨h₁, h₂, h₃⟩ := h.boots b hb
      exact ⟨h₁, h₂, h₃⟩⟩
    have hs : udpReceive malloc w₀ datagram addr = some w' := hs
    rw [udpReceive_of_request hr] at hs
    rw [Event.request] at hr
    split_ifs at hr with hd
    rcases receive_packet hp (length_of_decodeDatagram hr) with he | he <;> rw [he] at hs
    · exact Option.some.inj hs ▸ h₀
    · have h₁ : Reassembled img (w₀.setOtaaddr addr) :=
        h₀.of_ota_eq ⟨addr, rfl⟩ fun s hs => .inl hs
      split_ifs at hs with hne
      · exact Option.some.inj hs ▸ h₁
      · exact h₁.otaAccept hP hp (not_not.1 hne) hs
  | _ => cases hr

/-- The idle answer repeats the last one. -/
theorem Reassembled.selectTimeout (h : Reassembled img w) (hs : selectTimeout w = some w') :
    Reassembled img w' := by
  rcases selectTimeout_cases hs with ⟨hpos, rfl⟩ | rfl
  · refine h.of_ota_eq ⟨_, rfl⟩ fun s hs => ?_
    rcases List.mem_append.1 hs with hold | hnew
    · exact .inl hold
    · refine .inr fun _ => ?_
      have hup : 0 < w.ota.upcodenumber.toNat := by
        rcases Nat.eq_zero_or_pos w.ota.upcodenumber.toNat with hz | hz
        · rw [BitVec.eq_of_toNat_eq (y := 0) hz] at hpos
          exact absurd hpos (by decide)
        · exact hz
      rw [List.mem_singleton.1 hnew, idleAck, ackNumber_ack, htonl, htonl, swap32_swap32,
        BitVec.toNat_sub]
      have h₁ : (1 : BitVec 32).toNat = 1 := rfl
      have := w.ota.upcodenumber.isLt
      omega
  · exact h

/-- Only a packet of an update and the idle answer acknowledge. -/
theorem Event.Allows.not_ack {s : Sent} (h : ev.Allows s) (hu : ¬ ev.Upgrades)
    (ht : ev ≠ .selectTimeout) : command s.message ≠ linkUpgradeAck := by
  have hne : ∀ {hd : IotHead} {k : ℕ} {c : BitVec 16}, IsMessage hd k s.message →
      hd.cmd = htons c → c ≠ linkUpgradeAck → command s.message ≠ linkUpgradeAck := by
    intro hd k c hm hc hne
    rw [hm.command, hc, htons, htons, swap16_swap16]
    exact hne
  cases ev with
  | dev ev =>
    obtain ⟨hd, k, -, hc, -, hf⟩ := h
    rcases hc with hc | hc
    · exact hne hf.message hc (by decide)
    · exact hne hf.message hc (by decide)
  | udp addr datagram malloc =>
    obtain ⟨msg, hr, -, hreply⟩ := h
    rcases hreply with ⟨cmd, k, -, hc, -, -, hf⟩ | ⟨-, hf⟩ | ⟨hup, -⟩
    · exact hne hf.message rfl hc
    · exact hne hf.message rfl (by decide)
    · exact absurd ⟨msg, hr, (cmd_requestHead msg).symm.trans hup⟩ hu
  | selectTimeout => exact absurd rfl ht
  | dataUploadTimer =>
    obtain ⟨hd, hc, -, hm, -⟩ := h
    exact hne hm hc (by decide)
  | checkDevice => exact h.elim

theorem Reassembled.step (hP : P.Lawful) (h : Reassembled img w) (hev : ev.FromSender img)
    (hs : w.step ev = some w') : Reassembled img w' := by
  by_cases hu : ev.Upgrades
  · exact h.step_upgrade hP hev hu hs
  have h₀ : Reassembled img { w with cause := ev } :=
    h.of_ota_eq ⟨_, rfl⟩ fun s hs => .inl hs
  by_cases ht : ev = .selectTimeout
  · subst ht
    exact h₀.selectTimeout hs
  -- any other step leaves the update alone
  have hsends := sends_step hs
  obtain ⟨news, e, q⟩ := hsends.sent
  refine h₀.of_ota_eq ⟨_, hsends.ota hu⟩ fun s hmem => ?_
  rw [e] at hmem
  rcases List.mem_append.1 hmem with hold | hnew
  · exact .inl hold
  · exact .inr fun hc => absurd hc ((q s hnew).2.not_ack hu ht)

/-- A packet of the sender is received in every state of a run. -/
theorem packet_isSome {deviceid : DeviceId} {evs : List Event}
    (h : (World.init P deviceid).run evs = some w) {addr : SockAddr} {datagram msg : List Byte}
    {malloc : Bool} {number : ℕ} (hp : img.IsPacket number msg)
    (hr : (Event.udp addr datagram malloc).request = some msg) :
    (w.step (.udp addr datagram malloc)).isSome := by
  obtain ⟨data, body, head, fota, hp⟩ := hp.parts
  rw [Event.request] at hr
  split_ifs at hr with hd
  have hstatus : w.uartStats.status = 0 := (history_run h).status
  exact (udpReceive_isSome (w := { w with cause := .udp addr datagram malloc }) hstatus).2 fun _ =>
    ⟨msg, hr, hp.fits (length_of_decodeDatagram hr) _⟩

/-- **The update over a lossy network.**  In every state of a run in which the packets of the
    update are the sender's, the partition holds the blocks before the one that is due, only these
    were acknowledged, and a boot table was only written for the whole image. -/
theorem reassembled_run (hP : P.Lawful) {deviceid : DeviceId} {evs : List Event}
    (hnet : ∀ ev ∈ evs, ev.FromSender img) (h : (World.init P deviceid).run evs = some w) :
    Reassembled img w := by
  have hinit : Reassembled img (World.init P deviceid) :=
    ⟨Holds.zero.count, Holds.zero.stored, fun s hs => absurd hs List.not_mem_nil,
      fun b hb => absurd hb List.not_mem_nil⟩
  exact Outcome.foldlM_some (fun ev hmem _ _ hw hs => hw.step hP (hnet ev hmem) hs) hinit h

end

/-! ## A sample update -/

theorem lawful_sample : Platform.sample.Lawful where
  byte_flashWrite flash addr data i := by
    change (if i < addr then flash i else data.getD (i - addr) (flash i)) =
      if addr ≤ i ∧ i < addr + data.length then data.getD (i - addr) 0 else flash i
    rw [List.getD_eq_getElem?_getD, List.getD_eq_getElem?_getD]
    split_ifs with h h' h'
    · omega
    · rfl
    · rw [List.getElem?_eq_getElem (by omega)]; rfl
    · rw [List.getElem?_eq_none (by omega)]; rfl
  flashRead_eq flash addr n := rfl
  md5 pieces := by
    have h : ∀ (l : List (List Byte)) (fed : List Byte), l.foldl (· ++ ·) fed = fed ++ l.flatten := by
      intro l
      induction l with
      | nil => exact fun fed => (List.append_nil fed).symm
      | cons x l ih =>
        intro fed
        rw [List.foldl_cons, ih, List.flatten_cons, List.append_assoc]
    exact congrArg (fun fed : List Byte => fed.drop (fed.length - 16)) (h pieces [])

/-- Two blocks of 600 bytes, of which the last 16 are the digest of the rest. -/
def sampleImage : Image where
  blocks := [List.replicate 600 0x5A, List.replicate 600 0x5A]
  count_lt := by decide
  size_lt := by
    simp only [List.flatten_cons, List.flatten_nil, List.length_append, List.length_replicate,
      List.length_nil]
    decide

/-- A packet of the sample image. -/
def samplePacket (number : ℕ) : List Byte := (sampleImage.packet (.zero 1004) number 0 1 1).getD []

def sampleUpgrade (number : ℕ) : Event :=
  .udp ⟨0xC0A80001, 8671⟩ (base64Frame (samplePacket number)) true

/-- The second packet overtakes the first, which comes twice; then the image is accepted. -/
theorem reassembled_sampleImage :
    ∃ w b, (World.init .sample sampleId).run [sampleUpgrade 1, sampleUpgrade 0, sampleUpgrade 0,
        .selectTimeout, sampleUpgrade 1] = some w ∧
      w.ota.upcodenumber = 2 ∧ w.sent.length = 3 ∧ w.ota.bootTables = [b] ∧ b.length = 1184 ∧
      Reassembled sampleImage w := by
  have hrun : ((World.init .sample sampleId).run [sampleUpgrade 1, sampleUpgrade 0, sampleUpgrade 0,
      .selectTimeout, sampleUpgrade 1]).map (fun w =>
        (w.ota.upcodenumber, w.sent.length, w.ota.bootTables.map BootTable.length)) =
      some (2, 3, [1184]) := by decide +kernel
  have hpacket : ∀ k < 2, (sampleUpgrade k).FromSender sampleImage := by
    intro k hk msg hr hc
    have h₁ : ∀ k < 2, (sampleUpgrade k).request = some (samplePacket k) := by decide +kernel
    have h₂ : ∀ k < 2, sampleImage.packet (.zero 1004) k 0 1 1 = some (samplePacket k) := by
      decide +kernel
    rw [h₁ k hk, Option.some.injEq] at hr
    exact ⟨k, 1004, .zero 1004, 0, 1, 1, (h₂ k hk).trans (congrArg some hr)⟩
  obtain ⟨w, hw, hl⟩ := Option.map_eq_some_iff.1 hrun
  simp only [Prod.mk.injEq] at hl
  obtain ⟨hup, hsent, hboots⟩ := hl
  obtain ⟨b, bs, hb, hlength, hbs⟩ := List.map_eq_cons_iff.1 hboots
  rw [List.map_eq_nil_iff] at hbs
  refine ⟨w, b, hw, hup, hsent, by rw [hb, hbs], hlength,
    reassembled_run lawful_sample (fun ev hev => ?_) hw⟩
  simp only [List.mem_cons, List.not_mem_nil, or_false] at hev
  rcases hev with rfl | rfl | rfl | rfl | rfl
  · exact hpacket 1 (by decide)
  · exact hpacket 0 (by decide)
  · exact hpacket 0 (by decide)
  · intro msg hr
    cases hr
  · exact hpacket 1 (by decide)

end MxchipSpp
