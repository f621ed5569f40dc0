/-
  Whole messages under the cipher (aes.c): chains of blocks in memory, and the
  padding of `device_aes_encrypt`.

  A chain replaces the blocks of a memory where they stand
  (`cbcLoop_in_place`).  A message is padded to
  whole blocks, and what is encrypted is decrypted (`device_aes_round_trip`).
  A message that fills its blocks gets a block more, but the loop that fills it
  writes two, behind the bound that was checked (`device_aes_encrypt_isSome`).
-/
import MxchipSpp.Aes
import MxchipSpp.Lib.Memory

namespace MxchipSpp

open Endian Memory

/-! ## The functions -/

/-- `xorbuf` -/
def xorbuf (buf mask : List Byte) : List Byte := List.zipWith (· ^^^ ·) buf mask

section
variable {n : ℕ}

/-- The loop of `AesCbcEncrypt` and of `AesCbcDecrypt`, with `out` and `in` in one memory: `turn`
    makes the block that is written and the next `reg` of `reg` and the block that is read. -/
def cbcLoop (turn : List Byte → List Byte → List Byte × List Byte) :
    ℕ → List Byte → Block Byte n → ℕ → ℕ → Option (Block Byte n)
  | 0, _, mem, _, _ => some mem
  | blocks + 1, reg, mem, out, inn => do
    let made := turn reg (← mem.slice inn 16)
    let mem ← mem.write out made.1
    cbcLoop turn blocks made.2 mem (out + 16) (inn + 16)

/-- A block in `AesCbcEncrypt`. -/
def encTurn (aes : Aes) (reg inBlock : List Byte) : List Byte × List Byte :=
  let reg := aesEncrypt aes (xorbuf reg inBlock)
  (reg, reg)

/-- A block in `AesCbcDecrypt`. -/
def decTurn (aes : Aes) (reg tmp : List Byte) : List Byte × List Byte :=
  (xorbuf (aesDecrypt aes tmp) reg, tmp)

def aesCbcEncrypt (aes : Aes) (mem : Block Byte n) (out inn sz : ℕ) : Option (Block Byte n) :=
  cbcLoop (encTurn aes) (sz / 16) aes.reg mem out inn

def aesCbcDecrypt (aes : Aes) (mem : Block Byte n) (out inn sz : ℕ) : Option (Block Byte n) :=
  cbcLoop (decTurn aes) (sz / 16) aes.reg mem out inn

/-- `dat_len`: the message's length, rounded up to whole blocks. -/
def datLen (plainLength : ℕ) : ℕ :=
  if plainLength ≠ plainLength / 16 * 16 then (plainLength / 16 + 1) * 16 else plainLength

/-- The loops that pad: `dat_len` behind them, and the bytes they write.  The second one starts when
    `dat_len` is 16 more already, and ends 16 behind that. -/
def padLoop (plainLength : ℕ) : ℕ × List Byte :=
  let dat_len := datLen plainLength
  let pad := dat_len - plainLength
  if 0 < pad then (dat_len, List.replicate pad (BitVec.ofNat 8 pad))
  else (dat_len + 16, List.replicate (dat_len + 16 + 16 - plainLength) 0x10)

/-- `device_aes_encrypt`, for a message outside of the memory that `pEncOut` points into. -/
def deviceAesEncrypt (key iv pPlainIn : List Byte) (mem : Block Byte n) (pEncOut : ℕ)
    (maxOutLen : ℤ) : Option (ℤ × Block Byte n) := do
  let plainLength := pPlainIn.length
  if maxOutLen < datLen plainLength then
    return (-1, mem)
  else
    let mem ← mem.write pEncOut pPlainIn
    let mem ← mem.write (pEncOut + plainLength) (padLoop plainLength).2
    let dat_len := (padLoop plainLength).1
    let enc ← aesSetKey key iv .encryption
    let mem ← aesCbcEncrypt enc mem pEncOut pEncOut dat_len
    return (dat_len, mem)

/-- `device_aes_decrypt`, for two places in one memory. -/
def deviceAesDecrypt (key iv : List Byte) (mem : Block Byte n) (pEncIn encLength pPlainOut : ℕ)
    (maxOutLen : ℤ) : Option (ℤ × Block Byte n) := do
  if maxOutLen < encLength then
    return (-1, mem)
  else
    let dec ← aesSetKey key iv .decryption
    let mem ← aesCbcDecrypt dec mem pPlainOut pEncIn encLength
    let last ← mem.read (pPlainOut + encLength - 1)
    return (encLength - last.toNat, mem)

end

/-! ## Blocks and their bytes -/

theorem byteReverseWord32_swap (x : BitVec 32) : byteReverseWord32 x = swap32 x := by
  rw [byteReverseWord32_eq]
  simp only [getByte_eq]
  rfl

theorem byteReverseWord32_xor (x y : BitVec 32) :
    byteReverseWord32 (x ^^^ y) = byteReverseWord32 x ^^^ byteReverseWord32 y := by
  simp only [byteReverseWord32_eq, ofBytes_xor, getByte_xor]

theorem get32_xorbuf {a b : List Byte} {i : ℕ} (ha : i + 4 ≤ a.length) (hb : i + 4 ≤ b.length) :
    get32 (xorbuf a b) i = get32 a i ^^^ get32 b i := by
  have hget : ∀ k < 4, (xorbuf a b).getD (i + k) 0 = a.getD (i + k) 0 ^^^ b.getD (i + k) 0 := by
    intro k hk
    have hlen : i + k < (xorbuf a b).length := by simp [xorbuf]; omega
    rw [List.getD_eq_getElem _ _ hlen, List.getD_eq_getElem _ _ (by omega),
      List.getD_eq_getElem _ _ (by omega)]
    exact List.getElem_zipWith
  have h₀ := hget 0 (by decide)
  simp only [get32, hget 3 (by decide), hget 2 (by decide), hget 1 (by decide)]
  rw [Nat.add_zero] at h₀
  rw [h₀]
  exact (ofBytes_xor _ _ _ _ _ _ _ _).symm

namespace AesState

@[simp] theorem length_store (s : AesState) : s.store.length = 16 := rfl

@[simp] theorem load_store (s : AesState) : load s.store = s := by
  have h₀ : get32 s.store 0 = swap32 s.s0 := by
    rw [store, List.append_assoc, List.append_assoc, get32_le32, byteReverseWord32_swap]
  have h₄ : get32 s.store 4 = swap32 s.s1 := by
    rw [store, List.append_assoc, List.append_assoc, get32_append (length_le32 _), get32_le32,
      byteReverseWord32_swap]
  have h₈ : get32 s.store 8 = swap32 s.s2 := by
    rw [store, List.append_assoc, get32_append (by simp), get32_le32, byteReverseWord32_swap]
  have h₁₂ : get32 s.store 12 = swap32 s.s3 := by
    rw [store, get32_append (by simp), ← List.append_nil (le32 _), get32_le32,
      byteReverseWord32_swap]
  rw [load, h₀, h₄, h₈, h₁₂]
  simp only [map, byteReverseWord32_swap, swap32_swap32]

theorem store_load {b : List Byte} (h : b.length = 16) : (load b).store = b := by
  have htake : ∀ i, i + 4 ≤ 16 → le32 (get32 b i) = (b.drop i).take 4 := fun i hi =>
    le32_get32_eq_take (by omega)
  simp only [load, store, map, byteReverseWord32_swap, swap32_swap32, htake 0 (by decide),
    htake 4 (by decide), htake 8 (by decide), htake 12 (by decide)]
  simp only [← List.take_add, List.drop_zero]
  exact List.take_of_length_le h.le

theorem load_xorbuf {a b : List Byte} (ha : a.length = 16) (hb : b.length = 16) :
    load (xorbuf a b) = (load a).xor (load b) := by
  simp only [load, map, xor, ← byteReverseWord32_xor]
  rw [get32_xorbuf (by omega) (by omega), get32_xorbuf (by omega) (by omega),
    get32_xorbuf (by omega) (by omega), get32_xorbuf (by omega) (by omega)]

theorem xor_cancel (a b : AesState) : (a.xor b).xor a = b := by
  have hword : ∀ x y : BitVec 32, x ^^^ y ^^^ x = y := by
    intro x y
    rw [BitVec.xor_comm, ← BitVec.xor_assoc, BitVec.xor_self, BitVec.zero_xor]
  ext1 <;> exact hword _ _

theorem xorbuf_store (s t : AesState) : xorbuf s.store t.store = (s.xor t).store := by
  have hlen : (xorbuf s.store t.store).length = 16 := by simp [xorbuf]
  rw [← store_load hlen, load_xorbuf s.length_store t.length_store, load_store, load_store]

end AesState

/-- **A block is decrypted** to what was encrypted, for every key that `AesSetKey` takes. -/
theorem aesDecrypt_aesEncrypt {key iv iv' block : List Byte} {enc dec : Aes}
    (henc : aesSetKey key iv .encryption = some enc)
    (hdec : aesSetKey key iv' .decryption = some dec) (hblock : block.length = 16) :
    aesDecrypt dec (aesEncrypt enc block) = block := by
  rw [aesDecrypt, aesEncrypt, AesState.load_store, decryptState_encryptState henc hdec,
    AesState.store_load hblock]

theorem aesDecrypt_aesEncrypt_zeros : ∃ enc dec,
    aesSetKey (List.replicate 24 0) [] .encryption = some enc ∧
      aesDecrypt dec (aesEncrypt enc (List.replicate 16 7)) = List.replicate 16 7 := by
  have hkey : (List.replicate 24 (0 : Byte)).length = 16 ∨ (List.replicate 24 (0 : Byte)).length = 24 ∨
      (List.replicate 24 (0 : Byte)).length = 32 := by decide
  obtain ⟨enc, henc⟩ := exists_aesSetKey hkey [] .encryption
  obtain ⟨dec, hdec⟩ := exists_aesSetKey hkey [] .decryption
  exact ⟨enc, dec, henc, aesDecrypt_aesEncrypt henc hdec (by decide)⟩

/-! ## Chains in memory -/

/-- The bytes of blocks that stand one behind the other. -/
def bytes (xs : List AesState) : List Byte := xs.flatMap AesState.store

@[simp] theorem length_bytes (xs : List AesState) : (bytes xs).length = 16 * xs.length := by
  induction xs with
  | nil => rfl
  | cons x xs ih =>
    rw [bytes, List.flatMap_cons, List.length_append, ← bytes, ih, AesState.length_store,
      List.length_cons]
    omega

section
variable {n : ℕ} {turn : List Byte → List Byte → List Byte × List Byte}
  {f : AesState → AesState → AesState × AesState}
  (hturn : ∀ reg x, turn reg.store x.store = ((f reg x).1.store, (f reg x).2.store))
include hturn

/-- **A chain replaces its blocks where they stand.** -/
theorem cbcLoop_in_place (xs : List AesState) : ∀ (reg : AesState) (mem : Block Byte n) (p : ℕ),
    mem.slice p (16 * xs.length) = some (bytes xs) →
      cbcLoop turn xs.length reg.store mem p p =
        mem.write p (bytes (Cipher.chain f reg xs)) := by
  induction xs with
  | nil =>
    intro reg mem p h
    obtain ⟨hfit, -⟩ := Block.slice_eq_some.1 h
    rw [Cipher.chain, bytes, List.flatMap_nil, Block.write_of_le _ (by simpa using hfit),
      Block.put_nil]
    rfl
  | cons x xs ih =>
    intro reg mem p h
    obtain ⟨hfit, -⟩ := Block.slice_eq_some.1 h
    rw [List.length_cons, Nat.mul_succ] at hfit
    rw [List.length_cons, Nat.mul_succ, Nat.add_comm] at h
    obtain ⟨hx, hxs⟩ := Block.slice_append (AesState.length_store x) h
    have hfit₁ : p + (f reg x).1.store.length ≤ n := by rw [AesState.length_store]; omega
    have hfit₂ : p + 16 + (bytes (Cipher.chain f (f reg x).2 xs)).length ≤ n := by
      rw [length_bytes, Cipher.length_chain]; omega
    have hrest : (mem.put p (f reg x).1.store hfit₁).slice (p + 16) (16 * xs.length) =
        some (bytes xs) := by
      rw [Block.slice_put_of_le _ _ (by simp)]
      exact hxs
    have hall : p + (bytes (Cipher.chain f reg (x :: xs))).length ≤ n := by
      rw [length_bytes, Cipher.length_chain, List.length_cons]; omega
    rw [List.length_cons, cbcLoop, hx]
    simp only [Option.bind_eq_bind, Option.bind_some, hturn, Block.write_of_le _ hfit₁]
    rw [ih _ _ _ hrest, Block.write_of_le _ hfit₂, Block.write_of_le _ hall,
      Block.put_put _ _ _ (by simp) (by simpa [Cipher.chain, bytes] using hall)]
    rfl

end

/-- The blocks of `16 * k` bytes. -/
def blocks : ℕ → List Byte → List AesState
  | 0, _ => []
  | k + 1, l => .load (l.take 16) :: blocks k (l.drop 16)

@[simp] theorem length_blocks (k : ℕ) : ∀ l, (blocks k l).length = k := by
  induction k with
  | zero => intro l; rfl
  | succ k ih => intro l; rw [blocks, List.length_cons, ih]

theorem bytes_blocks (k : ℕ) : ∀ {l : List Byte}, l.length = 16 * k → bytes (blocks k l) = l := by
  induction k with
  | zero => intro l h; exact (List.length_eq_zero_iff.1 h).symm
  | succ k ih =>
    intro l h
    have hrest := ih (l := l.drop 16) (by simp; omega)
    rw [blocks, bytes, List.flatMap_cons, ← bytes, hrest, AesState.store_load (by simp; omega),
      List.take_append_drop]

theorem blocks_bytes (xs : List AesState) : blocks xs.length (bytes xs) = xs := by
  induction xs with
  | nil => rfl
  | cons x xs ih =>
    rw [List.length_cons, blocks, bytes, List.flatMap_cons, List.take_left' x.length_store,
      List.drop_left' x.length_store, AesState.load_store, ← bytes, ih]

/-- The blocks of a chain that is encrypted. -/
def encChain (aes : Aes) (xs : List AesState) : List AesState :=
  Cipher.chain (Cipher.encBlock AesState.xor aes.encryptState) (.load aes.reg) xs

/-- The blocks of a chain that is decrypted. -/
def decChain (aes : Aes) (xs : List AesState) : List AesState :=
  Cipher.chain (Cipher.decBlock AesState.xor aes.decryptState) (.load aes.reg) xs

@[simp] theorem length_encChain (aes : Aes) (xs : List AesState) :
    (encChain aes xs).length = xs.length := Cipher.length_chain _ _ _

@[simp] theorem length_decChain (aes : Aes) (xs : List AesState) :
    (decChain aes xs).length = xs.length := Cipher.length_chain _ _ _

theorem encTurn_store (aes : Aes) (reg x : AesState) : encTurn aes reg.store x.store =
    ((Cipher.encBlock AesState.xor aes.encryptState reg x).1.store,
      (Cipher.encBlock AesState.xor aes.encryptState reg x).2.store) := by
  rw [encTurn, AesState.xorbuf_store, aesEncrypt, AesState.load_store, Cipher.encBlock]

theorem decTurn_store (aes : Aes) (reg x : AesState) : decTurn aes reg.store x.store =
    ((Cipher.decBlock AesState.xor aes.decryptState reg x).1.store,
      (Cipher.decBlock AesState.xor aes.decryptState reg x).2.store) := by
  rw [decTurn, aesDecrypt, AesState.load_store, AesState.xorbuf_store, Cipher.decBlock]

section
variable {n : ℕ} {aes : Aes} {mem : Block Byte n} {p k : ℕ} {l : List Byte}
  (hreg : aes.reg.length = 16) (hl : mem.slice p (16 * k) = some l)
include hreg hl

theorem aesCbcEncrypt_eq :
    aesCbcEncrypt aes mem p p (16 * k) = mem.write p (bytes (encChain aes (blocks k l))) := by
  have h := cbcLoop_in_place (encTurn_store aes) (blocks k l) (.load aes.reg) mem p
    (by rw [length_blocks, bytes_blocks k (Block.length_of_slice hl)]; exact hl)
  rw [length_blocks, AesState.store_load hreg] at h
  rw [aesCbcEncrypt, Nat.mul_div_cancel_left _ (by decide), h, encChain]

theorem aesCbcDecrypt_eq :
    aesCbcDecrypt aes mem p p (16 * k) = mem.write p (bytes (decChain aes (blocks k l))) := by
  have h := cbcLoop_in_place (decTurn_store aes) (blocks k l) (.load aes.reg) mem p
    (by rw [length_blocks, bytes_blocks k (Block.length_of_slice hl)]; exact hl)
  rw [length_blocks, AesState.store_load hreg] at h
  rw [aesCbcDecrypt, Nat.mul_div_cancel_left _ (by decide), h, decChain]

end

/-! ## Padding -/

/-- A message and its padding. -/
def padded (l : List Byte) : List Byte :=
  l ++ List.replicate (16 - l.length % 16) (BitVec.ofNat 8 (16 - l.length % 16))

/-- What is written behind the padding. -/
def spill (l : List Byte) : List Byte := if l.length % 16 = 0 then List.replicate 16 0x10 else []

theorem length_padded (l : List Byte) : (padded l).length = 16 * (l.length / 16 + 1) := by
  simp [padded]; omega

theorem padLoop_eq (l : List Byte) : (padLoop l.length).1 = 16 * (l.length / 16 + 1) ∧
    l ++ (padLoop l.length).2 = padded l ++ spill l := by
  by_cases h : l.length % 16 = 0
  · have hdat : datLen l.length = l.length := if_neg (by omega)
    have htwo : l.length + 16 + 16 - l.length = 16 + 16 := by omega
    rw [padLoop, hdat, Nat.sub_self, if_neg (by omega), padded, spill, if_pos h, h, htwo,
      ← List.replicate_append_replicate, List.append_assoc]
    exact ⟨by omega, rfl⟩
  · have hdat : datLen l.length = (l.length / 16 + 1) * 16 := if_pos (by omega)
    have hpad : (l.length / 16 + 1) * 16 - l.length = 16 - l.length % 16 := by omega
    rw [padLoop, hdat, hpad, if_pos (by omega), padded, spill, if_neg h, List.append_nil]
    exact ⟨by omega, rfl⟩

/-- What `device_aes_encrypt` leaves of a message. -/
def cipherText (enc : Aes) (l : List Byte) : List Byte :=
  bytes (encChain enc (blocks (l.length / 16 + 1) (padded l)))

@[simp] theorem length_cipherText (enc : Aes) (l : List Byte) :
    (cipherText enc l).length = 16 * (l.length / 16 + 1) := by
  rw [cipherText, length_bytes, length_encChain, length_blocks]

section
variable {n : ℕ} {key iv : List Byte} {enc dec : Aes}

/-- The padded message in memory becomes the message under the cipher. -/
theorem aesCbcEncrypt_padded (hreg : enc.reg.length = 16) (l : List Byte) {mem mem' : Block Byte n}
    {p : ℕ} (hmem : mem.write p (padded l ++ spill l) = some mem') :
    aesCbcEncrypt enc mem' p p (16 * (l.length / 16 + 1)) =
      mem.write p (cipherText enc l ++ spill l) := by
  obtain ⟨hfit, rfl⟩ := Block.write_eq_some.1 hmem
  have hall := Block.slice_put mem hfit
  rw [List.length_append, length_padded] at hall
  rw [aesCbcEncrypt_eq hreg (Block.slice_append (length_padded l) hall).1, ← cipherText,
    Block.put_write _ _ (by rw [length_cipherText, length_padded])]

/-- **`device_aes_encrypt`** writes the message under the cipher and, behind it, what the loop that
    pads writes too much. -/
theorem deviceAesEncrypt_eq (henc : aesSetKey key iv .encryption = some enc) (hiv : iv.length = 16)
    (l : List Byte) (mem : Block Byte n) (p : ℕ) {maxOutLen : ℤ}
    (hmax : datLen l.length ≤ maxOutLen) :
    deviceAesEncrypt key iv l mem p maxOutLen =
      (mem.write p (cipherText enc l ++ spill l)).map fun mem =>
        (((16 * (l.length / 16 + 1) : ℕ) : ℤ), mem) := by
  have hreg : enc.reg.length = 16 := by rw [(aesSetKey_some henc).2.1, hiv]
  obtain ⟨hlen, hfill⟩ := padLoop_eq l
  have hpad := Block.write_bind_write mem (i := p) l (padLoop l.length).2 rfl
  rw [hfill] at hpad
  rw [deviceAesEncrypt]
  dsimp only
  rw [if_neg (by omega), henc, hlen]
  simp only [Option.bind_eq_bind, Option.bind_some]
  rw [← Option.bind_assoc, hpad]
  rcases hmem : mem.write p (padded l ++ spill l) with _ | mem'
  · rw [Block.write_eq_none (by simp [length_padded]) hmem]
    rfl
  · rw [Option.bind_some, aesCbcEncrypt_padded hreg l hmem]
    cases mem.write p (cipherText enc l ++ spill l) <;> rfl

/-- **`device_aes_decrypt`** writes the chain decrypted, and takes the length from its last byte. -/
theorem deviceAesDecrypt_eq (hdec : aesSetKey key iv .decryption = some dec) (hiv : iv.length = 16)
    {mem : Block Byte n} {p k : ℕ} {c : List Byte} (hc : mem.slice p (16 * (k + 1)) = some c)
    {xs : List Byte} {last : Byte} (hplain : bytes (decChain dec (blocks (k + 1) c)) = xs ++ [last])
    {maxOutLen : ℤ} (hmax : ((16 * (k + 1) : ℕ) : ℤ) ≤ maxOutLen) :
    deviceAesDecrypt key iv mem p (16 * (k + 1)) p maxOutLen =
      (mem.write p (xs ++ [last])).map fun mem =>
        (((16 * (k + 1) : ℕ) : ℤ) - last.toNat, mem) := by
  have hreg : dec.reg.length = 16 := by rw [(aesSetKey_some hdec).2.1, hiv]
  have hlen : (xs ++ [last]).length = 16 * (k + 1) := by
    rw [← hplain, length_bytes, length_decChain, length_blocks]
  have hxs : xs.length + 1 = 16 * (k + 1) := by simpa using hlen
  have hfit : p + (xs ++ [last]).length ≤ n := by
    rw [hlen]
    exact (Block.slice_eq_some.1 hc).1
  have hread : (mem.put p (xs ++ [last]) hfit).read ((p : ℤ) + (16 * (k + 1) : ℕ) - 1) =
      some last := by
    rw [show (p : ℤ) + (16 * (k + 1) : ℕ) - 1 = ((p + xs.length : ℕ) : ℤ) by omega,
      Block.read_natCast, Block.put_getElem?, if_neg (by omega), if_pos (by simp),
      Nat.add_sub_cancel_left, List.getElem?_append_right (le_refl _), Nat.sub_self]
    rfl
  rw [deviceAesDecrypt, if_neg (by omega), hdec]
  simp only [Option.bind_eq_bind, Option.bind_some]
  rw [aesCbcDecrypt_eq hreg hc, hplain, Block.write_of_le _ hfit, Option.bind_some, hread]
  rfl

/-- `device_aes_decrypt` of what need not be whole blocks: the blocks that are whole are replaced, and
    the last byte gives the length. -/
theorem deviceAesDecrypt_of_le (hkey : key.length = 16 ∨ key.length = 24 ∨ key.length = 32)
    (hiv : iv.length = 16) (mem : Block Byte n) {p len : ℕ} (hfit : p + len ≤ n) (hpos : 0 < p)
    {maxOutLen : ℤ} (hmax : (len : ℤ) ≤ maxOutLen) :
    ∃ mem' last, deviceAesDecrypt key iv mem p len p maxOutLen =
        some ((len : ℤ) - BitVec.toNat last, mem') ∧ mem'.cells[p + len - 1]? = some last ∧
      ∀ i, i < p ∨ p + 16 * (len / 16) ≤ i → mem'.cells[i]? = mem.cells[i]? := by
  obtain ⟨dec, hdec⟩ := exists_aesSetKey hkey iv .decryption
  have hreg : dec.reg.length = 16 := by rw [(aesSetKey_some hdec).2.1, hiv]
  have hblocks : 16 * (len / 16) ≤ len := by omega
  obtain ⟨c, hc⟩ := Option.isSome_iff_exists.1 (Block.slice_isSome.2
    (show p + 16 * (len / 16) ≤ n by omega) : (mem.slice p (16 * (len / 16))).isSome)
  set plain := bytes (decChain dec (blocks (len / 16) c)) with hplain
  have hlen : plain.length = 16 * (len / 16) := by
    rw [hplain, length_bytes, length_decChain, length_blocks]
  have hput : p + plain.length ≤ n := by omega
  have hcbc : aesCbcDecrypt dec mem p p len = some (mem.put p plain hput) := by
    have h := aesCbcDecrypt_eq hreg hc
    rw [aesCbcDecrypt, Nat.mul_div_cancel_left _ (by decide), Block.write_of_le _ hput] at h
    rw [aesCbcDecrypt, h]
  have hlast : p + len - 1 < (mem.put p plain hput).cells.length := by
    rw [Block.length_cells]
    omega
  refine ⟨mem.put p plain hput, (mem.put p plain hput).cells[p + len - 1], ?_,
    List.getElem?_eq_getElem hlast, fun i hi => ?_⟩
  · rw [deviceAesDecrypt, if_neg (by omega), hdec]
    simp only [Option.bind_eq_bind, Option.bind_some, hcbc]
    rw [show (p : ℤ) + len - 1 = ((p + len - 1 : ℕ) : ℤ) by omega, Block.read_natCast,
      List.getElem?_eq_getElem hlast]
    rfl
  · rw [Block.put_getElem?]
    rcases hi with hi | hi
    · rw [if_pos hi]
    · rw [if_neg (by omega), if_neg (by omega)]

/-- A chain under the cipher is decrypted, with the schedules of one key and one start. -/
theorem decChain_encChain (henc : aesSetKey key iv .encryption = some enc)
    (hdec : aesSetKey key iv .decryption = some dec) (xs : List AesState) :
    decChain dec (encChain enc xs) = xs := by
  rw [decChain, encChain, (aesSetKey_some henc).2.1, (aesSetKey_some hdec).2.1]
  exact Cipher.chain_decBlock_encBlock AesState.xor_cancel (decryptState_encryptState henc hdec) xs _

theorem bytes_decChain_cipherText (henc : aesSetKey key iv .encryption = some enc)
    (hdec : aesSetKey key iv .decryption = some dec) (l : List Byte) :
    bytes (decChain dec (blocks (l.length / 16 + 1) (cipherText enc l))) = padded l := by
  have hblocks := blocks_bytes (encChain enc (blocks (l.length / 16 + 1) (padded l)))
  rw [length_encChain, length_blocks] at hblocks
  rw [cipherText, hblocks, decChain_encChain henc hdec, bytes_blocks _ (length_padded l)]

/-- The last byte of a padded message. -/
theorem padded_eq (l : List Byte) : ∃ xs, padded l = xs ++ [BitVec.ofNat 8 (16 - l.length % 16)] := by
  refine ⟨l ++ List.replicate (16 - l.length % 16 - 1) (BitVec.ofNat 8 (16 - l.length % 16)), ?_⟩
  rw [padded, List.append_assoc, ← List.replicate_succ',
    show 16 - l.length % 16 - 1 + 1 = 16 - l.length % 16 by omega]

/-- Where `device_aes_encrypt` returns a length, it has written the message under the cipher. -/
theorem slice_of_deviceAesEncrypt (hiv : iv.length = 16) {l : List Byte} {mem mem' : Block Byte n}
    {p : ℕ} {maxOutLen len : ℤ}
    (h : deviceAesEncrypt key iv l mem p maxOutLen = some (len, mem')) (hlen : len ≠ -1) :
    ∃ enc, aesSetKey key iv .encryption = some enc ∧ len = (16 * (l.length / 16 + 1) : ℕ) ∧
      mem'.slice p (16 * (l.length / 16 + 1)) = some (cipherText enc l) := by
  by_cases hmax : (datLen l.length : ℤ) ≤ maxOutLen
  · obtain ⟨enc, henc⟩ : ∃ enc, aesSetKey key iv .encryption = some enc := by
      unfold deviceAesEncrypt at h
      dsimp only at h
      rw [if_neg (not_lt.2 hmax)] at h
      simp only [Option.bind_eq_bind, Option.bind_eq_some_iff] at h
      obtain ⟨_, -, _, -, enc, henc, -⟩ := h
      exact ⟨enc, henc⟩
    rw [deviceAesEncrypt_eq henc hiv l mem p hmax, Option.map_eq_some_iff] at h
    obtain ⟨m, hm, hr⟩ := h
    obtain ⟨rfl, rfl⟩ := Prod.mk.inj hr
    obtain ⟨hfit, rfl⟩ := Block.write_eq_some.1 hm
    have hall := Block.slice_put mem hfit
    rw [List.length_append, length_cipherText] at hall
    exact ⟨enc, henc, rfl, (Block.slice_append (length_cipherText enc l) hall).1⟩
  · unfold deviceAesEncrypt at h
    dsimp only at h
    rw [if_pos (not_le.1 hmax)] at h
    cases h
    exact absurd rfl hlen

/-- A message that fits is not refused. -/
theorem deviceAesEncrypt_ne {l : List Byte} {mem mem' : Block Byte n} {p : ℕ} {maxOutLen len : ℤ}
    (hmax : datLen l.length ≤ maxOutLen)
    (h : deviceAesEncrypt key iv l mem p maxOutLen = some (len, mem')) : len ≠ -1 := by
  unfold deviceAesEncrypt at h
  dsimp only at h
  rw [if_neg (not_lt.2 hmax)] at h
  simp only [Option.bind_eq_bind, Option.bind_eq_some_iff] at h
  obtain ⟨_, -, _, -, _, -, _, -, h⟩ := h
  obtain ⟨rfl, -⟩ := Prod.mk.inj (Option.some.inj h)
  omega

/-- The message in front of its padding. -/
theorem slice_of_slice_padded {mem : Block Byte n} {p : ℕ} {l : List Byte}
    (h : mem.slice p (padded l).length = some (padded l)) : mem.slice p l.length = some l := by
  rw [show (padded l).length = l.length + (16 - l.length % 16) by simp [padded]] at h
  exact (Block.slice_append rfl (h.trans (by rw [padded]))).1

/-- A message under the cipher is decrypted where it stands. -/
theorem deviceAesDecrypt_cipherText (henc : aesSetKey key iv .encryption = some enc)
    (hiv : iv.length = 16) (l : List Byte) {mem : Block Byte n} {p : ℕ}
    (hc : mem.slice p (16 * (l.length / 16 + 1)) = some (cipherText enc l)) {maxOutLen : ℤ}
    (hmax : ((16 * (l.length / 16 + 1) : ℕ) : ℤ) ≤ maxOutLen) :
    deviceAesDecrypt key iv mem p (16 * (l.length / 16 + 1)) p maxOutLen =
      (mem.write p (padded l)).map fun mem => ((l.length : ℤ), mem) := by
  obtain ⟨dec, hdec⟩ := exists_aesSetKey (length_of_aesSetKey henc) iv .decryption
  obtain ⟨xs, hxs⟩ := padded_eq l
  have hplain := (bytes_decChain_cipherText henc hdec l).trans hxs
  have hbyte : (BitVec.ofNat 8 (16 - l.length % 16)).toNat = 16 - l.length % 16 := by
    rw [BitVec.toNat_ofNat]
    omega
  have hlen : ((16 * (l.length / 16 + 1) : ℕ) : ℤ) - (16 - l.length % 16 : ℕ) = l.length := by omega
  rw [deviceAesDecrypt_eq hdec hiv hc hplain hmax, hbyte, hlen, hxs]

/-- **What is encrypted is decrypted**: with one key and one start, `device_aes_decrypt` returns the
    length of the message that `device_aes_encrypt` was given, and leaves it. -/
theorem device_aes_round_trip {l : List Byte} {mem mem' : Block Byte n} {p : ℕ}
    {maxOutLen len maxLen : ℤ} (hiv : iv.length = 16)
    (h : deviceAesEncrypt key iv l mem p maxOutLen = some (len, mem')) (hlen : len ≠ -1)
    (hmax : len ≤ maxLen) :
    ∃ mem'', deviceAesDecrypt key iv mem' p len.toNat p maxLen = some ((l.length : ℤ), mem'') ∧
      mem''.slice p l.length = some l := by
  obtain ⟨enc, henc, rfl, hc⟩ := slice_of_deviceAesEncrypt hiv h hlen
  have hfit : p + (padded l).length ≤ n := by
    rw [length_padded]
    exact (Block.slice_eq_some.1 hc).1
  refine ⟨mem'.put p (padded l) hfit, ?_, slice_of_slice_padded (Block.slice_put mem' hfit)⟩
  rw [Int.toNat_natCast, deviceAesDecrypt_cipherText henc hiv l hc hmax, Block.write_of_le _ hfit]
  rfl

theorem device_aes_round_trip_three : ∃ mem mem' : Block Byte 32,
    deviceAesEncrypt (List.replicate 16 7) (List.replicate 16 1) [1, 2, 3] (Block.fill 32 0) 0 32 =
      some (16, mem) ∧
    deviceAesDecrypt (List.replicate 16 7) (List.replicate 16 1) mem 0 16 0 16 = some (3, mem') ∧
    mem'.slice 0 3 = some [1, 2, 3] := by
  have hlen : (deviceAesEncrypt (List.replicate 16 7) (List.replicate 16 1) [1, 2, 3]
      (Block.fill 32 0) 0 32).map Prod.fst = some 16 := by decide +kernel
  obtain ⟨⟨len, mem⟩, h, rfl⟩ := Option.map_eq_some_iff.1 hlen
  obtain ⟨mem', hdec, hmem⟩ := device_aes_round_trip (by decide) h (by decide) le_rfl
  exact ⟨mem, mem', h, hdec, hmem⟩

/-- **Where the padding stays in bounds.**  A caller that passes the room behind `pEncOut` is told
    whether the message fits, but not whether its padding does: the call ends outside of the memory
    when there is room for the message rounded to whole blocks, and not for a block more, or, if the
    message fills its blocks, for two. -/
theorem device_aes_encrypt_isSome {l : List Byte} {mem : Block Byte n} {p : ℕ}
    (hkey : key.length = 16 ∨ key.length = 24 ∨ key.length = 32) (hiv : iv.length = 16) :
    (deviceAesEncrypt key iv l mem p ((n : ℤ) - p)).isSome ↔
      p + l.length + (if l.length % 16 = 0 then 32 else 16 - l.length % 16) ≤ n ∨
        n < p + (l.length + (15 - (l.length + 15) % 16)) := by
  obtain ⟨enc, henc⟩ := exists_aesSetKey hkey iv .encryption
  have hdat : datLen l.length = l.length + (15 - (l.length + 15) % 16) := by
    unfold datLen
    split_ifs <;> omega
  by_cases hmax : (datLen l.length : ℤ) ≤ (n : ℤ) - p
  · rw [deviceAesEncrypt_eq henc hiv l mem p hmax, Option.isSome_map, Block.write_isSome,
      List.length_append, length_cipherText, spill]
    split_ifs with h
    · rw [List.length_replicate]; omega
    · rw [List.length_nil]; omega
  · unfold deviceAesEncrypt
    dsimp only
    rw [if_pos (not_le.1 hmax)]
    exact iff_of_true rfl (.inr (by omega))

/-- 16 bytes in a buffer of 47: there is room for the blocks that are returned, but the call writes
    48. -/
theorem device_aes_encrypt_isSome_47 :
    ¬ (deviceAesEncrypt (List.replicate 16 7) (List.replicate 16 1) (List.replicate 16 0)
      (Block.fill 47 0 : Block Byte 47) 0 ((47 : ℕ) - (0 : ℕ))).isSome :=
  fun h => absurd ((device_aes_encrypt_isSome (by decide) (by decide)).1 h) (by decide)

end

end MxchipSpp
