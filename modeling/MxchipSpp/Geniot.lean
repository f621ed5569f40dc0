/-
  The messages of the gateway (geniot.h, geniot.c): the header `IotHead`, the
  packets of an update, and base64.

  The device is little-endian and a message is big-endian, so a field holds
  its value only after `iot_ntohs` or `iot_ntohl`.
-/
import MxchipSpp.Lib.Endian
import MxchipSpp.Lib.Memory
import MxchipSpp.Word

namespace MxchipSpp

open Memory Endian

/-! ## Byte order -/

/-- `iot_htons`, `htons` and the inverse functions. -/
abbrev htons (n : BitVec 16) : BitVec 16 := swap16 n

/-- `iot_htonl`, `htonl` and the inverse functions. -/
abbrev htonl (n : BitVec 32) : BitVec 32 := swap32 n

/-! ## Messages -/

/-- `IotHead` -/
structure IotHead where
  ctrl : BitVec 16
  informationType : BitVec 16
  dnetid : BitVec 32
  snetid : BitVec 32
  sn : BitVec 32
  cmd : BitVec 16
  len : BitVec 16

/-- `sizeof(IotHead)` -/
abbrev sizeofIotHead : ℕ := 20

namespace IotHead

/-- The header in memory. -/
def bytes (h : IotHead) : List Byte :=
  le16 h.ctrl ++ le16 h.informationType ++ le32 h.dnetid ++ le32 h.snetid ++ le32 h.sn ++
    le16 h.cmd ++ le16 h.len

/-- The header a memory starts with. -/
def ofBytes (l : List Byte) : IotHead where
  ctrl := get16 l 0
  informationType := get16 l 2
  dnetid := get32 l 4
  snetid := get32 l 8
  sn := get32 l 12
  cmd := get16 l 16
  len := get16 l 18

/-- A header of zeros. -/
def zero : IotHead := ⟨0, 0, 0, 0, 0, 0, 0⟩

@[simp] theorem length_bytes (h : IotHead) : h.bytes.length = sizeofIotHead := rfl

end IotHead

/-- A buffer for a message: the header and `n` bytes more. -/
structure Packet (n : ℕ) where
  head : IotHead
  body : Block Byte n

namespace Packet
variable {n : ℕ}

/-- The buffer `memset` to 0. -/
def zero (n : ℕ) : Packet n := ⟨.zero, .fill n 0⟩

/-- The message of the header and `k` bytes more. -/
def message (p : Packet n) (k : ℕ) : Option (List Byte) := (p.body.slice 0 k).map (p.head.bytes ++ ·)

/-- Bytes written behind the header. -/
def write (p : Packet n) (i : ℕ) (src : List Byte) : Option (Packet n) :=
  (p.body.write i src).map fun body => { p with body }

theorem message_of_le (p : Packet n) {k : ℕ} (h : k ≤ n) :
    p.message k = some (p.head.bytes ++ p.body.cells.take k) := by
  rw [message, Block.slice_of_le _ (by omega), List.drop_zero]; rfl

end Packet

/-- `swap_source_dest`, on the netids of a header. -/
def swapSourceDest (h : IotHead) : IotHead := { h with dnetid := h.snetid, snetid := h.dnetid }

/-! ## Update packets -/

def linkUpgradeCode : BitVec 16 := 0x2007
def linkUpgradeAck : BitVec 16 := 0x2008

/-- `IotFota` -/
structure IotFota where
  codeType : BitVec 32
  codeVer : BitVec 32
  codeTotal : BitVec 32
  codeNumber : BitVec 32

/-- `sizeof(IotFota)` -/
abbrev sizeofIotFota : ℕ := 16

/-- `sizeof(IotFotaAck)` -/
abbrev sizeofIotFotaAck : ℕ := 12

def IotFota.ofBytes (l : List Byte) : IotFota := ⟨get32 l 0, get32 l 4, get32 l 8, get32 l 12⟩

section
variable {n : ℕ}

/-- `iotSetHead`; the control word is always 0x0100. -/
def iotSetHead (p : Packet n) (informationType : BitVec 16) (dnetid snetid : BitVec 32) :
    Packet n :=
  { p with head := { p.head with
    ctrl := htons 0x0100
    informationType := htons informationType
    dnetid := htonl dnetid
    snetid := htonl snetid } }

/-- `iotSetHeadCmd` -/
def iotSetHeadCmd (p : Packet n) (sn : BitVec 32) (cmd datalen : BitVec 16) : Packet n :=
  { p with head := { p.head with sn := htonl sn, cmd := htons cmd, len := htons datalen } }

/-- `iotSetOtaTypeVer`; it does nothing to a buffer that is too small. -/
def iotSetOtaTypeVer (p : Packet n) (codeType codeVer : BitVec 32) : Packet n :=
  if sizeofIotFota ≤ n then
    (p.write 0 (le32 (htonl codeType) ++ le32 (htonl codeVer))).getD p
  else p

/-- `iotSetOta`; 0 is its answer to a buffer that is too small. -/
def iotSetOta (p : Packet n) (codenumber codeTotal : BitVec 32) (data : List Byte) :
    Packet n × ℕ :=
  if sizeofIotFota + data.length ≤ n then
    ((p.write 8 (le32 (htonl codeTotal) ++ le32 (htonl codenumber) ++ data)).getD p,
      sizeofIotFota + data.length)
  else (p, 0)

/-- `iotSetOtaAck`; 0 is its answer to a buffer that is too small. -/
def iotSetOtaAck (p : Packet n) (codenumber codeType codeVer : BitVec 32) : Packet n × ℕ :=
  if sizeofIotFotaAck ≤ n then
    ((p.write 0 (le32 (htonl codeType) ++ le32 (htonl codeVer) ++ le32 (htonl codenumber))).getD p,
      sizeofIotFotaAck)
  else (p, 0)

/-- `iotGetOtaData`, on a message of `len` bytes with the header as `head_log_printf` left it: the
    packet's fields, and the length of its data. -/
def iotGetOtaData (p : Packet n) (len : ℕ) : Option (IotFota × ℤ) :=
  let packlen := p.head.len.toNat
  if len < sizeofIotHead ∨ packlen = 0 ∨ 1024 < packlen ∨ len ≠ sizeofIotHead + packlen then none
  else some (.ofBytes p.body.cells, packlen - sizeofIotFota)

end

/-! ## Base64 -/

/-- `base64char` -/
def base64char : List Byte :=
  "ABCDEFGHIJKLMNOPQRSTUVWXYZabcdefghijklmnopqrstuvwxyz0123456789+/".toList.map fun c =>
    BitVec.ofNat 8 c.toNat

/-- `'='` -/
def base64pad : Byte := 0x3D

def toBase64 (current : Byte) : Byte := base64char.getD current.toNat 0

/-! The values of `current` for the bytes `a`, `b` and `c`; a missing byte adds nothing. -/

def current₀ (a : Byte) : Byte := a >>> 2 &&& 0x3F
def current₁ (a b : Byte) : Byte := a <<< 4 &&& 0x30 ||| b >>> 4 &&& 0x0F
def current₂ (b c : Byte) : Byte := b <<< 2 &&& 0x3C ||| c >>> 6 &&& 0x03
def current₃ (c : Byte) : Byte := c &&& 0x3F

/-- `iotBase64encode` -/
def iotBase64encode : List Byte → List Byte
  | [] => []
  | [a] => [toBase64 (current₀ a), toBase64 (current₁ a 0), base64pad, base64pad]
  | [a, b] =>
    [toBase64 (current₀ a), toBase64 (current₁ a b), toBase64 (current₂ b 0), base64pad]
  | a :: b :: c :: rest =>
    toBase64 (current₀ a) :: toBase64 (current₁ a b) :: toBase64 (current₂ b c) ::
      toBase64 (current₃ c) :: iotBase64encode rest

/-- The search of `iotBase64decode` for a character, one `for` loop over `k`. -/
def ofBase64 (c : Byte) : Byte :=
  (List.range 64).foldl (fun temp k => if base64char.getD k 0 = c then BitVec.ofNat 8 k else temp)
    0xFF

/-! The bytes of the values of four characters. -/

def bindata₀ (t₀ t₁ : Byte) : Byte := t₀ <<< 2 &&& 0xFC ||| t₁ >>> 4 &&& 0x03
def bindata₁ (t₁ t₂ : Byte) : Byte := t₁ <<< 4 &&& 0xF0 ||| t₂ >>> 2 &&& 0x0F
def bindata₂ (t₂ t₃ : Byte) : Byte := t₂ <<< 6 &&& 0xF0 ||| t₃ &&& 0x3F

/-- The body of the loop of `iotBase64decode`: the bytes of four characters, and whether the loop
    goes on. -/
def decodeGroup (c₀ c₁ c₂ c₃ : Byte) : List Byte × Bool :=
  let b₀ := bindata₀ (ofBase64 c₀) (ofBase64 c₁)
  let b₁ := bindata₁ (ofBase64 c₁) (ofBase64 c₂)
  let b₂ := bindata₂ (ofBase64 c₂) (ofBase64 c₃)
  if c₂ = base64pad then ([b₀], false)
  else if c₃ = base64pad then ([b₀, b₁], false)
  else ([b₀, b₁, b₂], true)

/-- `iotBase64decode` on `base64len` characters of a memory; `none` is a read behind it. -/
def iotBase64decode : ℕ → List Byte → Option (List Byte)
  | 0, _ => some []
  | n + 1, c₀ :: c₁ :: c₂ :: c₃ :: rest =>
    let (out, more) := decodeGroup c₀ c₁ c₂ c₃
    if more then (iotBase64decode (n - 3) rest).map (out ++ ·) else some out
  | _ + 1, _ => none

/-- `iotBase64decode_str`, on the memory from the string on. -/
def iotBase64decodeStr : List Byte → Option (List Byte)
  | c₀ :: c₁ :: c₂ :: c₃ :: rest =>
    if c₀ = 0 then some [] else
      let (out, more) := decodeGroup c₀ c₁ c₂ c₃
      if more then (iotBase64decodeStr rest).map (out ++ ·) else some out
  | c₀ :: _ => if c₀ = 0 then some [] else none
  | [] => none

/-- `'^'` and `'&'` -/
def caret : Byte := 0x5E
def amp : Byte := 0x26

/-- A message between its marks. -/
def base64Frame (m : List Byte) : List Byte := caret :: iotBase64encode m ++ [amp]

/-- `iotBase64ToData`, on the characters of a string, behind which there is a 0.  It answers a
    buffer of `binlength` bytes that is too small, and a string without the two marks, with no
    bytes. -/
def iotBase64ToData (base64 : List Byte) (binlength : ℕ) : Option (List Byte) :=
  if binlength < base64.length then some []
  else if base64.head? = some caret ∧ base64.getLast? = some amp then
    iotBase64decode (base64.length - 2) (base64 ++ [0]).tail
  else some []

/-! ## Base64 is read back -/

theorem ofBase64_toBase64 : ∀ k : Byte, k.toNat < 64 →
    ofBase64 (toBase64 k) = k ∧ toBase64 k ≠ base64pad := by
  decide +kernel

theorem and_lt_64 (x : Byte) {m : Byte} (h : m.toNat < 64) : (x &&& m).toNat < 64 := by
  rw [BitVec.toNat_and]
  exact Nat.and_le_right.trans_lt h

theorem or_lt_64 {x y : Byte} (hx : x.toNat < 64) (hy : y.toNat < 64) : (x ||| y).toNat < 64 := by
  rw [BitVec.toNat_or]
  exact Nat.or_lt_two_pow (n := 6) hx hy

section
variable (a b c : Byte)

theorem current_lt :
    (current₀ a).toNat < 64 ∧ (current₁ a b).toNat < 64 ∧ (current₂ b c).toNat < 64 ∧
      (current₃ c).toNat < 64 :=
  ⟨and_lt_64 _ (by decide), or_lt_64 (and_lt_64 _ (by decide)) (and_lt_64 _ (by decide)),
    or_lt_64 (and_lt_64 _ (by decide)) (and_lt_64 _ (by decide)), and_lt_64 _ (by decide)⟩

/-! The bits of the bytes, shared out to the characters, are put together again. -/

theorem bindata₀_current : bindata₀ (current₀ a) (current₁ a b) = a := by
  unfold bindata₀ current₀ current₁
  ext i hi
  interval_cases i <;> simp

theorem bindata₁_current : bindata₁ (current₁ a b) (current₂ b c) = b := by
  unfold bindata₁ current₁ current₂
  ext i hi
  interval_cases i <;> simp

theorem bindata₂_current : bindata₂ (current₂ b c) (current₃ c) = c := by
  unfold bindata₂ current₂ current₃
  ext i hi
  interval_cases i <;> simp

theorem decodeGroup_three :
    decodeGroup (toBase64 (current₀ a)) (toBase64 (current₁ a b)) (toBase64 (current₂ b c))
      (toBase64 (current₃ c)) = ([a, b, c], true) := by
  obtain ⟨h₀, h₁, h₂, h₃⟩ := current_lt a b c
  obtain ⟨o₀, -⟩ := ofBase64_toBase64 _ h₀
  obtain ⟨o₁, -⟩ := ofBase64_toBase64 _ h₁
  obtain ⟨o₂, p₂⟩ := ofBase64_toBase64 _ h₂
  obtain ⟨o₃, p₃⟩ := ofBase64_toBase64 _ h₃
  simp only [decodeGroup, o₀, o₁, o₂, o₃, p₂, p₃, bindata₀_current, bindata₁_current,
    bindata₂_current, if_false]

theorem decodeGroup_two :
    decodeGroup (toBase64 (current₀ a)) (toBase64 (current₁ a b)) (toBase64 (current₂ b c))
      base64pad = ([a, b], false) := by
  obtain ⟨h₀, h₁, h₂, -⟩ := current_lt a b c
  obtain ⟨o₀, -⟩ := ofBase64_toBase64 _ h₀
  obtain ⟨o₁, -⟩ := ofBase64_toBase64 _ h₁
  obtain ⟨o₂, p₂⟩ := ofBase64_toBase64 _ h₂
  simp only [decodeGroup, o₀, o₁, o₂, p₂, bindata₀_current, bindata₁_current, if_false, if_true]

theorem decodeGroup_one :
    decodeGroup (toBase64 (current₀ a)) (toBase64 (current₁ a b)) base64pad base64pad =
      ([a], false) := by
  obtain ⟨h₀, h₁, -, -⟩ := current_lt a b 0
  obtain ⟨o₀, -⟩ := ofBase64_toBase64 _ h₀
  obtain ⟨o₁, -⟩ := ofBase64_toBase64 _ h₁
  simp only [decodeGroup, o₀, o₁, bindata₀_current, if_true]

end

theorem iotBase64decode_encode (m rest : List Byte) :
    iotBase64decode (iotBase64encode m).length (iotBase64encode m ++ rest) = some m := by
  induction m using iotBase64encode.induct with
  | case1 => rw [iotBase64encode, List.length_nil, iotBase64decode]
  | case2 a => simp [iotBase64encode, iotBase64decode, decodeGroup_one]
  | case3 a b => simp [iotBase64encode, iotBase64decode, decodeGroup_two]
  | case4 a b c m ih => simp [iotBase64encode, iotBase64decode, decodeGroup_three, ih]

theorem length_iotBase64encode (m : List Byte) :
    (iotBase64encode m).length = 4 * ((m.length + 2) / 3) := by
  induction m using iotBase64encode.induct with
  | case1 => rfl
  | case2 a => simp [iotBase64encode]
  | case3 a b => simp [iotBase64encode]
  | case4 a b c m ih =>
    simp only [iotBase64encode, List.length_cons, ih]
    omega

theorem length_base64Frame (m : List Byte) :
    (base64Frame m).length = 4 * ((m.length + 2) / 3) + 2 := by
  simp [base64Frame, length_iotBase64encode]

/-- **A frame is read back as its message**, by a buffer that is large enough. -/
theorem iotBase64ToData_base64Frame (m : List Byte) {binlength : ℕ}
    (h : (base64Frame m).length ≤ binlength) : iotBase64ToData (base64Frame m) binlength = some m := by
  have hl : (base64Frame m).length - 2 = (iotBase64encode m).length := by simp [base64Frame]
  have hh : (base64Frame m).head? = some caret ∧ (base64Frame m).getLast? = some amp := by
    constructor
    · rfl
    · rw [base64Frame, List.getLast?_concat]
  rw [iotBase64ToData, if_neg (by omega), if_pos hh, hl]
  have ht : (base64Frame m ++ [0]).tail = iotBase64encode m ++ ([amp] ++ [0]) := by
    simp [base64Frame]
  rw [ht, iotBase64decode_encode]

end MxchipSpp
