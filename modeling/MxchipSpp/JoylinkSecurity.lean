/-
  The packets of joylink (joylink_security.c).

  A packet is a head of 16 bytes, `optlen` bytes of options and `payloadlen`
  bytes, which the two ends encrypt.  What `joylink_encrypt_lan_basic` and
  `joylink_encypt_server_rsp` build is read back (`lan_round_trip`,
  `server_round_trip`); the CRC of the head is never looked at.  A request from
  the server is decrypted without a fault whatever its bytes are
  (`dencyptServerReq_isSome`).  A request from the network is copied with the
  length that its last byte leaves, also when that is negative, and that byte
  can be one that no key has touched (`joylink_dencypt_lan_req_isSome`).
-/
import MxchipSpp.AesCbc

namespace MxchipSpp

open Endian Memory

/-! ## The head -/

/-- `JLPacketHead_t` -/
@[ext] structure JLPacketHead where
  magic : BitVec 32
  optlen : BitVec 16
  payloadlen : BitVec 16
  version : Byte
  type : Byte
  total : Byte
  index : Byte
  enctype : Byte
  reserved : Byte
  crc : BitVec 16
  deriving DecidableEq

namespace JLPacketHead

/-- The head in memory. -/
def toBytes (head : JLPacketHead) : List Byte :=
  le32 head.magic ++ (le16 head.optlen ++ (le16 head.payloadlen ++
    ([head.version, head.type, head.total, head.index, head.enctype, head.reserved] ++
      le16 head.crc)))

/-- The head that starts a memory. -/
def ofBytes (l : List Byte) : JLPacketHead where
  magic := get32 l 0
  optlen := get16 l 4
  payloadlen := get16 l 6
  version := l.getD 8 0
  type := l.getD 9 0
  total := l.getD 10 0
  index := l.getD 11 0
  enctype := l.getD 12 0
  reserved := l.getD 13 0
  crc := get16 l 14

@[simp] theorem length_toBytes (head : JLPacketHead) : head.toBytes.length = 16 := rfl

/-- A head is read back, whatever is behind it. -/
theorem ofBytes_toBytes (head : JLPacketHead) (l : List Byte) :
    ofBytes (head.toBytes ++ l) = head := by
  have h16 : ∀ x : BitVec 16, (x.extractLsb' 8 8 ++ x.extractLsb' 0 8 : BitVec 16) = x := fun x =>
    get16_le16 x []
  have h32 : ∀ x : BitVec 32, (x.extractLsb' 24 8 ++ x.extractLsb' 16 8 ++ x.extractLsb' 8 8 ++
      x.extractLsb' 0 8 : BitVec 32) = x := fun x => get32_le32 x []
  ext1
  · exact h32 head.magic
  · exact h16 head.optlen
  · exact h16 head.payloadlen
  · rfl
  · rfl
  · rfl
  · rfl
  · rfl
  · rfl
  · exact h16 head.crc

theorem ofBytes_self (head : JLPacketHead) : ofBytes head.toBytes = head := by
  rw [← List.append_nil head.toBytes, ofBytes_toBytes]

end JLPacketHead

/-- A turn of `CRC16` (crc.c). -/
def crc16Step (crc : BitVec 16) (x : Byte) : BitVec 16 :=
  let crc := (crc >>> 8) ||| (crc <<< 8)
  let crc := crc ^^^ x.setWidth 16
  let crc := crc ^^^ ((crc.setWidth 8 : Byte) >>> 4).setWidth 16
  let crc := crc ^^^ (crc <<< 12)
  crc ^^^ ((crc &&& 0xFF) <<< 5)

/-- `CRC16` -/
def crc16 (buffer : List Byte) : BitVec 16 := buffer.foldl crc16Step 0xFFFF

/-- `E_EncType` -/
inductive EncType where
  | nothing
  | pskAes
  | ecdh
  | accessKeyAes
  | sessionKeyAes
  deriving DecidableEq

def EncType.toByte : EncType → Byte
  | nothing => 0
  | pskAes => 1
  | ecdh => 2
  | accessKeyAes => 3
  | sessionKeyAes => 4

/-- `E_PacketType` -/
inductive PacketType where
  | unknown
  | scan
  | writeAccessKey
  | jsonControl
  | scriptControl
  | otaOrder
  | otaUpload
  | auth
  | beat
  | serverControl
  | upload
  | subAuth
  | subLanJson
  | subLanScript
  | subAdd
  | subHb
  | subCloudCtrl
  | subUpload
  | subUnbind
  deriving DecidableEq

def PacketType.toByte : PacketType → Byte
  | unknown => 0
  | scan => 1
  | writeAccessKey => 2
  | jsonControl => 3
  | scriptControl => 4
  | otaOrder => 7
  | otaUpload => 8
  | auth => 9
  | beat => 10
  | serverControl => 11
  | upload => 12
  | subAuth => 102
  | subLanJson => 103
  | subLanScript => 104
  | subAdd => 105
  | subHb => 110
  | subCloudCtrl => 111
  | subUpload => 112
  | subUnbind => 113

theorem PacketType.toByte_injective {a b : PacketType} (h : a.toByte = b.toByte) : a = b := by
  cases a <;> cases b <;> first | rfl | cases h

/-! ## Building a packet -/

/-- `JL_MAX_PACKET_LEN` -/
def jlMaxPacketLen : ℕ := 1400

/-- `__g_ekey`: the device's public key, compressed, and the secret that `uECC_decompress` and
    `uECC_shared_secret` make of the compressed key of a peer and the device's private key. -/
structure JLEccContex where
  devPubKeyC : List Byte
  secret : List Byte → List Byte

/-- The head a packet starts from. -/
def newHead (magic : BitVec 32) (type enctype : Byte) : JLPacketHead where
  magic := magic
  optlen := 0
  payloadlen := 0
  version := 1
  type := type
  total := 0
  index := 0
  enctype := enctype
  reserved := 0
  crc := 0

section
variable {n k : ℕ}

/-- The last lines of the functions that build a packet: `pOut` is where it ends. -/
def finishPacket (head : JLPacketHead) (pBuf : Block Byte n) (pOut : ℤ) :
    Option (ℤ × Block Byte n) := do
  -- a size below zero is one of 2 ^ 32
  if pOut < 16 then none
  else
    let crc := crc16 (← pBuf.slice 16 (pOut.toNat - 16))
    let pBuf ← pBuf.write 0 { head with crc := crc }.toBytes
    return (pOut, pBuf)

/-- `joylink_encrypt_lan_basic` -/
def joylinkEncryptLanBasic (ekey : JLEccContex) (pBuf : Block Byte n) (enctype : EncType)
    (cmd : PacketType) (key : Block Byte k) (payload : List Byte) : Option (ℤ × Block Byte n) := do
  let head := newHead 0x123455BB cmd.toByte enctype.toByte
  match enctype with
  | .nothing | .pskAes =>
    let pBuf ← pBuf.write 16 payload
    finishPacket { head with payloadlen := BitVec.ofNat 16 payload.length } pBuf
      (16 + payload.length)
  | .accessKeyAes =>
    let (length, pBuf) ← deviceAesEncrypt (← key.slice 0 16) (← key.slice 16 16) payload pBuf 16
      (payload.length + 16)
    finishPacket { head with payloadlen := BitVec.ofInt 16 length } pBuf (16 + length)
  | .ecdh =>
    let pBuf ← pBuf.write 16 ekey.devPubKeyC
    let secret := ekey.secret (← key.slice 0 21)
    let (length, pBuf) ← deviceAesEncrypt (secret.take 16) (← key.slice 4 16) payload pBuf (16 + 21)
      (payload.length + 16)
    finishPacket { head with optlen := 21, payloadlen := BitVec.ofInt 16 length } pBuf
      (16 + 21 + length)
  | .sessionKeyAes => finishPacket head pBuf 16

/-- `joylink_encypt_server_rsp`.  Of the payload, `PT_AUTH` reads the 4 bytes of `random_unm` from the
    fifth on; the caller's payload has them.  Of a shorter one the code reads what is behind it in the
    memory, and here only what there is of it is written. -/
def joylinkEncyptServerRsp (feedid : List Byte) (pBuf : Block Byte n) (cmd : PacketType)
    (key : Block Byte k) (payload : List Byte) : Option (ℤ × Block Byte n) := do
  if cmd = .auth then
    let head := newHead 0x123455CC cmd.toByte EncType.accessKeyAes.toByte
    let pBuf ← pBuf.write 16 feedid
    let pBuf ← pBuf.write (16 + feedid.length) ((payload.drop 4).take 4)
    let (len, pBuf) ← deviceAesEncrypt (← key.slice 0 16) (← key.slice 16 16) payload pBuf
      (16 + (feedid.length + 4)) jlMaxPacketLen
    finishPacket { head with optlen := BitVec.ofNat 16 (feedid.length + 4),
                             payloadlen := BitVec.ofInt 16 len } pBuf
      (16 + (feedid.length + 4 : ℕ) + len)
  else
    let head := newHead 0x123455CC cmd.toByte EncType.sessionKeyAes.toByte
    let (len, pBuf) ← deviceAesEncrypt (← key.slice 0 16) (← key.slice 16 16) payload pBuf 16
      jlMaxPacketLen
    finishPacket { head with payloadlen := BitVec.ofInt 16 len } pBuf (16 + len)

end

/-! ## Reading a packet -/

/-- `JLPacketParam_t` -/
structure JLPacketParam where
  version : ℕ
  type : Byte
  deriving DecidableEq

section
variable {n m k : ℕ}

/-- `memcpy(pOut, p, retLen)`: a length below zero is one of 2 ^ 32. -/
def copyOut (pOut : Block Byte m) (mem : Block Byte n) (p : ℕ) (retLen : ℤ) :
    Option (Block Byte m) := do
  if retLen < 0 then none else pOut.write 0 (← mem.slice p retLen.toNat)

/-- `joylink_dencypt_lan_req`: its result, `*pParam`, the request that is decrypted where it stands,
    and `pOut`. -/
def joylinkDencyptLanReq (ekey : JLEccContex) (localkey : Block Byte 33) (pIn : Block Byte n)
    (length : ℕ) (pOut : Block Byte m) (maxlen : ℤ) :
    Option (ℤ × JLPacketParam × Block Byte n × Block Byte m) := do
  let pPack := JLPacketHead.ofBytes (← pIn.slice 0 16)
  let optlen := pPack.optlen.toNat
  let payloadlen := pPack.payloadlen.toNat
  if pPack.magic ≠ 0x123455BB ∨ length ≠ optlen + payloadlen + 16 ∨ payloadlen > jlMaxPacketLen then
    return (0, ⟨0, 0⟩, pIn, pOut)
  else
    let param : JLPacketParam := ⟨pPack.version.toNat, pPack.type⟩
    if pPack.enctype = EncType.nothing.toByte then
      let pOut ← copyOut pOut pIn (16 + optlen) payloadlen
      return (payloadlen, param, pIn, pOut)
    else if pPack.enctype = EncType.accessKeyAes.toByte then
      let (retLen, pIn) ← deviceAesDecrypt (← localkey.slice 0 16) (← localkey.slice 16 16) pIn
        (16 + optlen) payloadlen (16 + optlen) maxlen
      let pOut ← copyOut pOut pIn (16 + optlen) retLen
      return (retLen, param, pIn, pOut)
    else if pPack.enctype = EncType.ecdh.toByte then
      let secret := ekey.secret (← pIn.slice 16 21)
      let (retLen, pIn) ← deviceAesDecrypt (secret.take 16) ((secret.drop 4).take 16) pIn
        (16 + optlen) payloadlen (16 + optlen) maxlen
      let pOut ← copyOut pOut pIn (16 + optlen) retLen
      return (retLen, param, pIn, pOut)
    else
      return (0, ⟨pPack.version.toNat, 0⟩, pIn, pOut)

/-- `joylink_dencypt_server_req`, with the two keys it chooses from. -/
def joylinkDencyptServerReq (accesskey sessionKey : Block Byte 33) (pIn : Block Byte n)
    (pOut : Block Byte m) (maxlen : ℤ) :
    Option (ℤ × Option JLPacketParam × Block Byte n × Block Byte m) := do
  let pPack := JLPacketHead.ofBytes (← pIn.slice 0 16)
  if pPack.magic ≠ 0x123455CC then
    return (0, none, pIn, pOut)
  else
    let param : JLPacketParam := ⟨1, pPack.type⟩
    let key := if pPack.type = PacketType.auth.toByte then accesskey else sessionKey
    let p := 16 + pPack.optlen.toNat
    let (retLen, pIn) ← deviceAesDecrypt (← key.slice 0 16) (← key.slice 16 16) pIn p
      pPack.payloadlen.toNat p maxlen
    if retLen > 0 then
      let pOut ← copyOut pOut pIn p retLen
      let pIn ← pIn.write 6 (le16 (BitVec.ofInt 16 retLen))
      return (retLen, some param, pIn, pOut)
    else
      return (0, some param, pIn, pOut)

end

/-! ## What is built is read back -/

section
variable {n m : ℕ}

/-- The head is put in front of a body that is there. -/
theorem finishPacket_of_slice {pBuf : Block Byte n} {body : List Byte}
    (h : pBuf.slice 16 body.length = some body) (head : JLPacketHead) :
    ∃ pBuf', finishPacket head pBuf ((16 + body.length : ℕ) : ℤ) =
        some (((16 + body.length : ℕ) : ℤ), pBuf') ∧
      pBuf'.slice 0 (16 + body.length) =
        some ({ head with crc := crc16 body }.toBytes ++ body) := by
  obtain ⟨hfit, -⟩ := Block.slice_eq_some.1 h
  have hhead : 0 + ({ head with crc := crc16 body } : JLPacketHead).toBytes.length ≤ n := by
    rw [JLPacketHead.length_toBytes]
    omega
  refine ⟨pBuf.put 0 _ hhead, ?_, ?_⟩
  · rw [finishPacket, if_neg (by omega), Int.toNat_natCast, Nat.add_sub_cancel_left, h]
    simp only [Option.bind_eq_bind, Option.bind_some]
    rw [Block.write_of_le _ hhead]
    rfl
  · refine Block.slice_of_append (Block.slice_put pBuf hhead) ?_
    rw [Block.slice_put_of_le _ _ (by simp)]
    exact h

/-- The packet of a payload that is encrypted behind `j` bytes of options. -/
theorem finishPacket_of_encrypt {pBuf pBuf' mem' : Block Byte n} {j : ℕ} {k iv l : List Byte}
    {maxOutLen retLen len : ℤ} {head : JLPacketHead} (hiv : iv.length = 16)
    (henc : deviceAesEncrypt k iv l pBuf (16 + j) maxOutLen = some (retLen, pBuf'))
    (hret : retLen ≠ -1) (h : finishPacket head pBuf' (16 + j + retLen) = some (len, mem')) :
    ∃ opt enc, opt.length = j ∧ aesSetKey k iv .encryption = some enc ∧
      retLen = ((cipherText enc l).length : ℕ) ∧
      len = (16 + (opt ++ cipherText enc l).length : ℕ) ∧
      mem'.slice 0 (16 + (opt ++ cipherText enc l).length) =
        some ({ head with crc := crc16 (opt ++ cipherText enc l) }.toBytes ++
          (opt ++ cipherText enc l)) := by
  obtain ⟨enc, haes, rfl, hc⟩ := slice_of_deviceAesEncrypt hiv henc hret
  rw [← length_cipherText enc l] at hc h ⊢
  obtain ⟨hfit, -⟩ := Block.slice_eq_some.1 hc
  obtain ⟨opt, hopt⟩ := Option.isSome_iff_exists.1
    (Block.slice_isSome.2 (show 16 + j ≤ n by omega) : (pBuf'.slice 16 j).isSome)
  have hlen := Block.length_of_slice hopt
  have hbody := Block.slice_of_append hopt hc
  rw [← hlen, ← List.length_append] at hbody
  obtain ⟨mem'', hfin, hslice⟩ := finishPacket_of_slice hbody head
  rw [show (16 : ℤ) + j + ((cipherText enc l).length : ℕ) =
    ((16 + (opt ++ cipherText enc l).length : ℕ) : ℤ) by rw [List.length_append]; omega, hfin,
    Option.some.injEq] at h
  obtain ⟨rfl, rfl⟩ := Prod.mk.inj h
  exact ⟨opt, enc, hlen, haes, rfl, rfl, hslice⟩

/-- A packet for the network, as it is built with the local key or without a key: a head and, behind
    it, the payload or the payload under the cipher. -/
theorem lan_packet {ekey : JLEccContex} {mem mem' : Block Byte 1400} {enctype : EncType}
    {cmd : PacketType} {key : Block Byte 33} {l : List Byte} {len : ℤ}
    (hkind : enctype = .nothing ∨ enctype = .accessKeyAes)
    (h : joylinkEncryptLanBasic ekey mem enctype cmd key l = some (len, mem')) :
    ∃ body, 16 + body.length ≤ 1400 ∧ len = (16 + body.length : ℕ) ∧
      mem'.slice 0 (16 + body.length) =
        some ({ newHead 0x123455BB cmd.toByte enctype.toByte with
                payloadlen := BitVec.ofNat 16 body.length, crc := crc16 body }.toBytes ++ body) ∧
      (enctype = .nothing → body = l) ∧
      (enctype = .accessKeyAes → ∃ k iv enc, key.slice 0 16 = some k ∧ key.slice 16 16 = some iv ∧
        aesSetKey k iv .encryption = some enc ∧ body = cipherText enc l) := by
  rcases hkind with rfl | rfl
  · rw [joylinkEncryptLanBasic] at h
    obtain ⟨pBuf, hw, h⟩ := Option.bind_eq_some_iff.1 h
    obtain ⟨hfit, rfl⟩ := Block.write_eq_some.1 hw
    obtain ⟨pBuf', hfin, hslice⟩ := finishPacket_of_slice (Block.slice_put mem hfit)
      { newHead 0x123455BB cmd.toByte EncType.nothing.toByte with
        payloadlen := BitVec.ofNat 16 l.length }
    rw [show (16 : ℤ) + (l.length : ℤ) = ((16 + l.length : ℕ) : ℤ) by omega, hfin,
      Option.some.injEq] at h
    obtain ⟨rfl, rfl⟩ := Prod.mk.inj h
    exact ⟨l, hfit, rfl, hslice, fun _ => rfl, by simp⟩
  · rw [joylinkEncryptLanBasic] at h
    obtain ⟨k, hk, h⟩ := Option.bind_eq_some_iff.1 h
    obtain ⟨iv, hiv, h⟩ := Option.bind_eq_some_iff.1 h
    obtain ⟨⟨len', pBuf⟩, henc, h⟩ := Option.bind_eq_some_iff.1 h
    dsimp only at h
    have hne : len' ≠ -1 := by
      rintro rfl
      simp [finishPacket] at h
    obtain ⟨opt, enc, hopt, haes, rfl, rfl, hslice⟩ :=
      finishPacket_of_encrypt (j := 0) (Block.length_of_slice hiv) henc hne
        (by rw [Nat.cast_zero, add_zero]; exact h)
    rw [List.length_eq_zero_iff.1 hopt, List.nil_append] at hslice ⊢
    rw [BitVec.ofInt_natCast] at hslice
    exact ⟨cipherText enc l, by simpa using (Block.slice_eq_some.1 hslice).1, rfl, hslice, by simp,
      fun _ => ⟨k, iv, enc, hk, hiv, haes, rfl⟩⟩

/-- A packet for the server: the head, the options, and the payload under the cipher. -/
theorem server_packet {feedid : List Byte} {mem mem' : Block Byte 1400} {cmd : PacketType}
    {key : Block Byte 33} {l : List Byte} {len : ℤ} (hauth : cmd = .auth → l.length ≤ 1392)
    (h : joylinkEncyptServerRsp feedid mem cmd key l = some (len, mem')) :
    ∃ (head : JLPacketHead) (opt k iv : List Byte) (enc : Aes),
      head.magic = 0x123455CC ∧ head.type = cmd.toByte ∧ (cmd ≠ .auth → opt = []) ∧
      head.optlen.toNat = opt.length ∧ head.payloadlen.toNat = (cipherText enc l).length ∧
      key.slice 0 16 = some k ∧ key.slice 16 16 = some iv ∧
      aesSetKey k iv .encryption = some enc ∧
      len = (16 + (opt ++ cipherText enc l).length : ℕ) ∧
      mem'.slice 0 (16 + (opt ++ cipherText enc l).length) =
        some (head.toBytes ++ (opt ++ cipherText enc l)) := by
  have hmod : ∀ k, k ≤ 1400 → (BitVec.ofNat 16 k).toNat = k := by
    intro k hk
    rw [BitVec.toNat_ofNat]
    omega
  rw [joylinkEncyptServerRsp] at h
  split_ifs at h with hcmd
  · obtain ⟨pBuf₁, -, h⟩ := Option.bind_eq_some_iff.1 h
    obtain ⟨pBuf₂, -, h⟩ := Option.bind_eq_some_iff.1 h
    obtain ⟨k, hk, h⟩ := Option.bind_eq_some_iff.1 h
    obtain ⟨iv, hiv, h⟩ := Option.bind_eq_some_iff.1 h
    obtain ⟨⟨retLen, pBuf⟩, henc, h⟩ := Option.bind_eq_some_iff.1 h
    have hret : retLen ≠ -1 := by
      rintro rfl
      refine deviceAesEncrypt_ne ?_ henc rfl
      have := hauth hcmd
      rw [datLen, jlMaxPacketLen]
      split_ifs <;> omega
    obtain ⟨opt, enc, hopt, haes, rfl, rfl, hslice⟩ :=
      finishPacket_of_encrypt (Block.length_of_slice hiv) henc hret h
    obtain ⟨hfit, -⟩ := Block.slice_eq_some.1 hslice
    rw [List.length_append] at hfit
    refine ⟨_, opt, k, iv, enc, rfl, rfl, fun h => absurd hcmd h, ?_, ?_, hk, hiv, haes, rfl, hslice⟩
    · rw [hopt]
      exact hmod _ (by omega)
    · rw [BitVec.ofInt_natCast]
      exact hmod _ (by omega)
  · obtain ⟨k, hk, h⟩ := Option.bind_eq_some_iff.1 h
    obtain ⟨iv, hiv, h⟩ := Option.bind_eq_some_iff.1 h
    obtain ⟨⟨retLen, pBuf⟩, henc, h⟩ := Option.bind_eq_some_iff.1 h
    have hret : retLen ≠ -1 := by
      rintro rfl
      simp [finishPacket] at h
    obtain ⟨opt, enc, hopt, haes, rfl, rfl, hslice⟩ :=
      finishPacket_of_encrypt (j := 0) (Block.length_of_slice hiv) henc hret
        (by rw [Nat.cast_zero, add_zero]; exact h)
    obtain ⟨hfit, -⟩ := Block.slice_eq_some.1 hslice
    rw [List.length_append] at hfit
    refine ⟨_, opt, k, iv, enc, rfl, rfl, fun _ => List.length_eq_zero_iff.1 hopt, ?_, ?_, hk, hiv,
      haes, rfl, hslice⟩
    · rw [hopt]
      rfl
    · rw [BitVec.ofInt_natCast]
      exact hmod _ (by omega)

theorem copyOut_natCast {pOut : Block Byte m} {mem : Block Byte n} {p : ℕ} {l : List Byte}
    (h : mem.slice p l.length = some l) (hfit : 0 + l.length ≤ m) :
    copyOut pOut mem p (l.length : ℤ) = some (pOut.put 0 l hfit) := by
  rw [copyOut, if_neg (by omega), Int.toNat_natCast, h]
  simp only [Option.bind_eq_bind, Option.bind_some]
  exact Block.write_of_le _ hfit

/-- What `joylink_encrypt_lan_basic` builds with the local key or without a key, `joylink_dencypt_lan_req`
    takes for the payload and the type it was built with, in whatever buffer it is received. -/
theorem lan_round_trip {ekey : JLEccContex} {mem mem' recv : Block Byte 1400}
    {enctype : EncType} {cmd : PacketType} {key : Block Byte 33} {l : List Byte} {len : ℤ}
    (hkind : enctype = .nothing ∨ enctype = .accessKeyAes)
    (h : joylinkEncryptLanBasic ekey mem enctype cmd key l = some (len, mem'))
    (hrecv : recv.slice 0 len.toNat = mem'.slice 0 len.toNat) (ekey' : JLEccContex)
    (pOut : Block Byte 1400) :
    ∃ recv' pOut', joylinkDencyptLanReq ekey' key recv len.toNat pOut jlMaxPacketLen =
        some ((l.length : ℤ), ⟨1, cmd.toByte⟩, recv', pOut') ∧
      pOut'.slice 0 l.length = some l ∧
      ∃ head : JLPacketHead, recv'.slice 0 16 = some head.toBytes ∧ head.total = 0 := by
  obtain ⟨body, hbody, rfl, hslice, hplain, hcipher⟩ := lan_packet hkind h
  rw [Int.toNat_natCast] at hrecv ⊢
  rw [← hrecv] at hslice
  obtain ⟨hhead, hdata⟩ := Block.slice_append (JLPacketHead.length_toBytes _) hslice
  rw [Nat.zero_add] at hdata
  have hlen : (BitVec.ofNat 16 body.length).toNat = body.length := by
    rw [BitVec.toNat_ofNat]
    omega
  rw [joylinkDencyptLanReq, hhead]
  simp only [Option.bind_eq_bind, Option.bind_some]
  rw [JLPacketHead.ofBytes_self]
  simp only [newHead, hlen, show 16 + (0 : BitVec 16).toNat = 16 from rfl]
  rw [if_neg (by simp [jlMaxPacketLen]; omega)]
  rcases hkind with rfl | rfl
  · obtain rfl := hplain rfl
    rw [if_pos rfl]
    refine ⟨recv, pOut.put 0 body (by omega), ?_, Block.slice_put_zero _ _, _, hhead, rfl⟩
    rw [copyOut_natCast hdata]
    rfl
  · obtain ⟨k, iv, enc, hk, hiv, haes, rfl⟩ := hcipher rfl
    rw [length_cipherText] at hbody hdata ⊢
    have hfit : 16 + (padded l).length ≤ 1400 := by
      rw [length_padded]
      omega
    have hl : 0 + l.length ≤ 1400 := by omega
    refine ⟨recv.put 16 (padded l) hfit, pOut.put 0 l hl, ?_, Block.slice_put_zero _ _, _,
      (Block.slice_put_before _ hfit le_rfl).trans hhead, rfl⟩
    rw [if_neg (by decide), if_pos rfl, hk]
    simp only [Option.bind_some, hiv]
    rw [deviceAesDecrypt_cipherText haes (Block.length_of_slice hiv) l hdata
      (by rw [jlMaxPacketLen]; omega), Block.write_of_le _ hfit]
    simp only [Option.map_some, Option.bind_some]
    rw [copyOut_natCast (slice_of_slice_padded (Block.slice_put recv hfit)) hl]
    rfl

theorem lan_round_trip_three : ∃ (mem : Block Byte 1400) (recv' pOut' : Block Byte 1400),
    joylinkEncryptLanBasic ⟨[], id⟩ (Block.fill 1400 0) .accessKeyAes .scriptControl (Block.fill 33 7)
      [1, 2, 3] = some (32, mem) ∧
    joylinkDencyptLanReq ⟨[], id⟩ (Block.fill 33 7) mem 32 (Block.fill 1400 0) jlMaxPacketLen =
      some (3, ⟨1, PacketType.scriptControl.toByte⟩, recv', pOut') ∧
    pOut'.slice 0 3 = some [1, 2, 3] := by
  have hlen : (joylinkEncryptLanBasic ⟨[], id⟩ (Block.fill 1400 0 : Block Byte 1400) .accessKeyAes
      .scriptControl (Block.fill 33 7) [1, 2, 3]).map Prod.fst = some 32 := by decide +kernel
  obtain ⟨⟨len, mem⟩, h, rfl⟩ := Option.map_eq_some_iff.1 hlen
  obtain ⟨recv', pOut', hdec, hout, -⟩ := lan_round_trip (.inr rfl) h rfl ⟨[], id⟩ (Block.fill 1400 0)
  exact ⟨mem, recv', pOut', h, hdec, hout⟩

/-- What `joylink_encypt_server_rsp` builds with the access key (`PT_AUTH`) or the session key is read
    by the end that holds the same keys. -/
theorem server_round_trip {feedid : List Byte} {mem mem' : Block Byte 1400} {cmd : PacketType}
    {key accesskey sessionKey : Block Byte 33} {l : List Byte} {len : ℤ} (hne : l ≠ [])
    (hauth : cmd = .auth → l.length ≤ 1392)
    (hkey : key = if cmd = .auth then accesskey else sessionKey)
    (h : joylinkEncyptServerRsp feedid mem cmd key l = some (len, mem'))
    {recv : Block Byte 2800} (hrecv : recv.slice 0 len.toNat = mem'.slice 0 len.toNat)
    (pOut : Block Byte 2816) :
    ∃ recv' pOut', joylinkDencyptServerReq accesskey sessionKey recv pOut jlMaxPacketLen =
        some ((l.length : ℤ), some ⟨1, cmd.toByte⟩, recv', pOut') ∧
      pOut.write 0 l = some pOut' := by
  obtain ⟨head, opt, k, iv, enc, hmagic, htype, -, hopt, hpay, hk, hiv, haes, rfl, hslice⟩ :=
    server_packet hauth h
  rw [Int.toNat_natCast] at hrecv
  rw [← hrecv] at hslice
  have hlen : (opt ++ cipherText enc l).length = opt.length + (cipherText enc l).length :=
    List.length_append
  obtain ⟨hhead, hdata⟩ := Block.slice_append (JLPacketHead.length_toBytes _) hslice
  rw [hlen] at hdata
  have hcipher := (Block.slice_append rfl hdata).2
  rw [length_cipherText, Nat.zero_add] at hcipher
  have hfit : 16 + opt.length + (padded l).length ≤ 2800 := by
    rw [length_padded]
    exact (Block.slice_eq_some.1 hcipher).1
  have hshort : 16 * (l.length / 16 + 1) ≤ 1400 := by
    have := (Block.slice_eq_some.1 (hrecv ▸ hslice)).1
    rw [hlen, length_cipherText] at this
    omega
  have hl : 0 + l.length ≤ 2816 := by omega
  have hplain := slice_of_slice_padded (Block.slice_put recv hfit)
  have hsel : (if head.type = PacketType.auth.toByte then accesskey else sessionKey) = key := by
    rw [hkey, htype]
    by_cases hc : cmd = .auth
    · rw [if_pos hc, if_pos (congrArg _ hc)]
    · rw [if_neg hc, if_neg fun he => hc (PacketType.toByte_injective he)]
  have hpos : (0 : ℤ) < l.length := by
    have := List.length_pos_iff.2 hne
    omega
  have hwrite : 6 + (le16 (BitVec.ofInt 16 l.length)).length ≤ 2800 := by simp
  refine ⟨(recv.put (16 + opt.length) (padded l) hfit).put 6 _ hwrite, pOut.put 0 l hl, ?_,
    Block.write_of_le _ hl⟩
  rw [joylinkDencyptServerReq, hhead]
  simp only [Option.bind_eq_bind, Option.bind_some]
  rw [JLPacketHead.ofBytes_self, hmagic, hsel, hopt,
    hpay, if_neg (not_not.2 rfl), hk]
  simp only [Option.bind_some, hiv]
  rw [length_cipherText, deviceAesDecrypt_cipherText haes (Block.length_of_slice hiv) l hcipher
    (by rw [jlMaxPacketLen]; omega), Block.write_of_le _ hfit]
  simp only [Option.map_some, Option.bind_some]
  rw [if_pos hpos, copyOut_natCast hplain hl, Option.bind_some, Block.write_of_le _ hwrite, htype]
  rfl

end

/-! ## What stays in bounds -/

section
variable {n m : ℕ}

/-- Bytes are copied as long as they are there and have a place, and are not fewer than none. -/
theorem copyOut_isSome {pOut : Block Byte m} {mem : Block Byte n} {p : ℕ} {retLen : ℤ} :
    (copyOut pOut mem p retLen).isSome ↔ 0 ≤ retLen ∧ p + retLen.toNat ≤ n ∧ retLen.toNat ≤ m := by
  rw [copyOut]
  split_ifs with hneg
  · exact iff_of_false (by simp) fun h => absurd h.1 (by omega)
  · by_cases hfit : p + retLen.toNat ≤ n
    · rw [Block.slice_of_le _ hfit]
      simp only [Option.bind_eq_bind, Option.bind_some, Block.write_isSome, List.length_take,
        List.length_drop, Block.length_cells]
      omega
    · rw [Block.slice, if_neg hfit]
      exact iff_of_false (by simp) fun h => hfit h.2.1

/-- A request of the server is in bounds. -/
theorem dencyptServerReq_isSome (accesskey sessionKey : Block Byte 33)
    {pIn : Block Byte 2800} {l : List Byte} (hl : pIn.slice 0 16 = some l)
    (hfit : 16 + ((JLPacketHead.ofBytes l).optlen.toNat +
      (JLPacketHead.ofBytes l).payloadlen.toNat) ≤ 2800) (pOut : Block Byte 2816) :
    (joylinkDencyptServerReq accesskey sessionKey pIn pOut jlMaxPacketLen).isSome := by
  rw [joylinkDencyptServerReq, hl]
  simp only [Option.bind_eq_bind, Option.bind_some]
  by_cases hmagic : (JLPacketHead.ofBytes l).magic ≠ 0x123455CC
  · rw [if_pos hmagic]
    rfl
  rw [if_neg hmagic]
  generalize (if (JLPacketHead.ofBytes l).type = PacketType.auth.toByte then accesskey
    else sessionKey) = key
  obtain ⟨k, hk⟩ := Option.isSome_iff_exists.1 (Block.slice_isSome.2 (show 0 + 16 ≤ 33 by omega) :
    (key.slice 0 16).isSome)
  obtain ⟨iv, hiv⟩ := Option.isSome_iff_exists.1 (Block.slice_isSome.2 (show 16 + 16 ≤ 33 by omega) :
    (key.slice 16 16).isSome)
  by_cases hmax : ((JLPacketHead.ofBytes l).payloadlen.toNat : ℤ) ≤ jlMaxPacketLen
  · obtain ⟨mem', last, hdec, -, -⟩ := deviceAesDecrypt_of_le (.inl (Block.length_of_slice hk))
      (Block.length_of_slice hiv) pIn (show 16 + (JLPacketHead.ofBytes l).optlen.toNat +
        (JLPacketHead.ofBytes l).payloadlen.toNat ≤ 2800 by omega) (by omega) hmax
    rw [hk, Option.bind_some, hiv, Option.bind_some, hdec, Option.bind_some]
    dsimp only
    split_ifs with hpos
    · obtain ⟨out, hout⟩ : ∃ out, copyOut pOut mem' (16 + (JLPacketHead.ofBytes l).optlen.toNat)
        (((JLPacketHead.ofBytes l).payloadlen.toNat : ℤ) - last.toNat) = some out := by
        exact Option.isSome_iff_exists.1 (copyOut_isSome.2 ⟨by omega, by omega, by omega⟩)
      rw [hout, Option.bind_some, Block.write_of_le _ (by simp)]
      rfl
    · rfl
  · rw [hk, Option.bind_some, hiv, Option.bind_some, deviceAesDecrypt, if_pos (not_le.1 hmax)]
    rfl

/-- **A request that needs no key to fault.**  Where the payload does not fill its last block, its last
    byte is what was sent, not what was decrypted, and it is taken from the length: the request ends
    outside of the memory, with whatever local key, when that byte is more than the length. -/
theorem joylink_dencypt_lan_req_isSome {ekey : JLEccContex} {localkey : Block Byte 33}
    {pIn : Block Byte 1400} {l : List Byte} (hl : pIn.slice 0 16 = some l)
    (hmagic : (JLPacketHead.ofBytes l).magic = 0x123455BB)
    (henc : (JLPacketHead.ofBytes l).enctype = EncType.accessKeyAes.toByte) {length : ℕ}
    (hlen : length = (JLPacketHead.ofBytes l).optlen.toNat +
      (JLPacketHead.ofBytes l).payloadlen.toNat + 16) (hrecv : length ≤ 1400)
    (hpart : (JLPacketHead.ofBytes l).payloadlen.toNat = 0 ∨
      (JLPacketHead.ofBytes l).payloadlen.toNat % 16 ≠ 0) (pOut : Block Byte 1400) :
    (joylinkDencyptLanReq ekey localkey pIn length pOut jlMaxPacketLen).isSome ↔
      (pIn.cells.getD (length - 1) 0).toNat ≤ (JLPacketHead.ofBytes l).payloadlen.toNat := by
  obtain ⟨k, hk⟩ := Option.isSome_iff_exists.1 (Block.slice_isSome.2 (show 0 + 16 ≤ 33 by omega) :
    (localkey.slice 0 16).isSome)
  obtain ⟨iv, hiv⟩ := Option.isSome_iff_exists.1 (Block.slice_isSome.2 (show 16 + 16 ≤ 33 by omega) :
    (localkey.slice 16 16).isSome)
  obtain ⟨mem', last, hdec, hlast, hsame⟩ := deviceAesDecrypt_of_le
    (.inl (Block.length_of_slice hk)) (Block.length_of_slice hiv) pIn
    (show 16 + (JLPacketHead.ofBytes l).optlen.toNat +
      (JLPacketHead.ofBytes l).payloadlen.toNat ≤ 1400 by omega) (by omega)
    (show ((JLPacketHead.ofBytes l).payloadlen.toNat : ℤ) ≤ jlMaxPacketLen by
      rw [jlMaxPacketLen]; omega)
  have hbyte : pIn.cells.getD (length - 1) 0 = last := by
    rw [hsame _ (by omega)] at hlast
    rw [List.getD_eq_getElem?_getD, show length - 1 = 16 + (JLPacketHead.ofBytes l).optlen.toNat +
      (JLPacketHead.ofBytes l).payloadlen.toNat - 1 by omega, hlast]
    rfl
  rw [joylinkDencyptLanReq, hl]
  simp only [Option.bind_eq_bind, Option.bind_some]
  rw [if_neg (by simp [hmagic, jlMaxPacketLen]; omega), henc, if_neg (by decide), if_pos rfl, hk]
  simp only [Option.bind_some, hiv, hdec]
  rw [hbyte]
  constructor
  · intro h
    obtain ⟨out, hout⟩ := Option.isSome_iff_exists.1 h
    obtain ⟨_, hcopy, -⟩ := Option.bind_eq_some_iff.1 hout
    have := (copyOut_isSome.1 (Option.isSome_of_mem hcopy)).1
    omega
  · intro h
    have hcopy : (copyOut pOut mem' (16 + (JLPacketHead.ofBytes l).optlen.toNat)
        (((JLPacketHead.ofBytes l).payloadlen.toNat : ℤ) - last.toNat)).isSome :=
      copyOut_isSome.2 ⟨by omega, by omega, by omega⟩
    obtain ⟨out, hout⟩ := Option.isSome_iff_exists.1 hcopy
    rw [hout]
    rfl

/-- The head alone, with a checksum from 0x100 on. -/
def headAlone : List Byte := { newHead 0x123455BB 4 3 with crc := 0x100 }.toBytes

/-- A head that declares five bytes, and five bytes that end in a six. -/
def fiveBytes : List Byte := { newHead 0x123455BB 4 3 with payloadlen := 5 }.toBytes ++ [1, 2, 3, 4, 6]

/-- Neither is copied within the memory. -/
theorem joylink_dencypt_lan_req_isSome_head :
    ¬ (joylinkDencyptLanReq ⟨[], id⟩ (Block.fill 33 0)
      ((Block.fill 1400 0).put 0 headAlone (by decide) : Block Byte 1400) 16
      (Block.fill 1400 0 : Block Byte 1400) jlMaxPacketLen).isSome ∧
    ¬ (joylinkDencyptLanReq ⟨[], id⟩ (Block.fill 33 0)
      ((Block.fill 1400 0).put 0 fiveBytes (by decide) : Block Byte 1400) 21
      (Block.fill 1400 0 : Block Byte 1400) jlMaxPacketLen).isSome := by
  have hl := Block.slice_put_zero (Block.fill 1400 0) (show 0 + headAlone.length ≤ 1400 by decide)
  obtain ⟨hl', -⟩ := Block.slice_append (k := 5) (JLPacketHead.length_toBytes _)
    (Block.slice_put_zero (Block.fill 1400 0) (show 0 + fiveBytes.length ≤ 1400 by decide))
  constructor
  · exact fun h => absurd ((joylink_dencypt_lan_req_isSome hl (by decide) (by decide) (by decide)
      (by decide) (.inl (by decide)) _).1 h) (by decide +kernel)
  · exact fun h => absurd ((joylink_dencypt_lan_req_isSome hl' (by decide) (by decide) (by decide)
      (by decide) (.inr (by decide)) _).1 h) (by decide +kernel)

end

end MxchipSpp
