/-
  The block cipher of the joylink frames (aes.c).

  The rounds look each byte up in a table of words that holds its replacement
  already mixed.  Taken apart, a round replaces and moves the bytes
  (`subShift`), mixes each word (`mixWord`) and adds a key, so the rounds are
  those of `Cipher.encrypt`.  What the tables have to hold for the two
  directions to be inverse is checked byte by byte; the schedule that
  `AesSetKey` leaves for decryption is the one of the inverse cipher
  (`decryptState_encryptState`).
-/
import MxchipSpp.AesTables
import MxchipSpp.Lib.Cipher
import MxchipSpp.Lib.Endian

namespace MxchipSpp

open Endian

/-! ## Words -/

/-- `GETBYTE` -/
def getByte (x : BitVec 32) (y : ℕ) : Byte := (x >>> (8 * y)).setWidth 8

def rotlFixed (x : BitVec 32) (y : ℕ) : BitVec 32 := (x <<< y) ||| (x >>> (32 - y))

def byteReverseWord32 (value : BitVec 32) : BitVec 32 :=
  rotlFixed (((value &&& 0xFF00FF00) >>> 8) ||| ((value &&& 0x00FF00FF) <<< 8)) 16

/-- The four words of a block. -/
@[ext] structure AesState where
  s0 : BitVec 32
  s1 : BitVec 32
  s2 : BitVec 32
  s3 : BitVec 32
  deriving DecidableEq, Inhabited

namespace AesState

/-- `s0 ^= rk[0]` and so on. -/
def xor (a b : AesState) : AesState := ⟨a.s0 ^^^ b.s0, a.s1 ^^^ b.s1, a.s2 ^^^ b.s2, a.s3 ^^^ b.s3⟩

def map (f : BitVec 32 → BitVec 32) (a : AesState) : AesState := ⟨f a.s0, f a.s1, f a.s2, f a.s3⟩

/-- A block is mapped to the state. -/
def load (inBlock : List Byte) : AesState :=
  map byteReverseWord32 ⟨get32 inBlock 0, get32 inBlock 4, get32 inBlock 8, get32 inBlock 12⟩

/-- The state is written out. -/
def store (s : AesState) : List Byte :=
  le32 (byteReverseWord32 s.s0) ++ le32 (byteReverseWord32 s.s1) ++
    le32 (byteReverseWord32 s.s2) ++ le32 (byteReverseWord32 s.s3)

end AesState

/-! ## Rounds -/

section
variable (T : Fin 5 → Byte → BitVec 32)

/-- One word of a round, from the words its bytes come from. -/
def roundWord (a b c d : BitVec 32) : BitVec 32 :=
  T 0 (getByte a 3) ^^^ T 1 (getByte b 2) ^^^ T 2 (getByte c 1) ^^^ T 3 (getByte d 0)

/-- One word of the last round. -/
def lastWord (a b c d : BitVec 32) : BitVec 32 :=
  (T 4 (getByte a 3) &&& 0xff000000) ^^^ (T 4 (getByte b 2) &&& 0x00ff0000) ^^^
    (T 4 (getByte c 1) &&& 0x0000ff00) ^^^ (T 4 (getByte d 0) &&& 0x000000ff)

end

section
variable (word : BitVec 32 → BitVec 32 → BitVec 32 → BitVec 32 → BitVec 32) (s : AesState)

/-- The words of `AesEncrypt`: the bytes come from the words behind. -/
def encShift : AesState :=
  ⟨word s.s0 s.s1 s.s2 s.s3, word s.s1 s.s2 s.s3 s.s0, word s.s2 s.s3 s.s0 s.s1,
    word s.s3 s.s0 s.s1 s.s2⟩

/-- The words of `AesDecrypt`: the bytes come from the words before. -/
def decShift : AesState :=
  ⟨word s.s0 s.s3 s.s2 s.s1, word s.s1 s.s0 s.s3 s.s2, word s.s2 s.s1 s.s0 s.s3,
    word s.s3 s.s2 s.s1 s.s0⟩

end

/-- The loop of `AesEncrypt` and of `AesDecrypt`: `r` double rounds, the second half of the last one
    without mixing.  `rk` points at the round key `p`. -/
def aesLoop (round last : AesState → AesState) (key : List AesState) : ℕ → ℕ → AesState → AesState
  | 0, _, s => s
  | r + 1, p, s =>
    let t := (round s).xor (key.getD (p + 1) default)
    if r = 0 then (last t).xor (key.getD (p + 2) default)
    else aesLoop round last key r (p + 2) ((round t).xor (key.getD (p + 2) default))

/-! ## The schedule -/

/-- What the last word of the key so far contributes to the next one. -/
def rotSub (temp : BitVec 32) : BitVec 32 :=
  (Te 4 (getByte temp 2) &&& 0xff000000) ^^^ (Te 4 (getByte temp 1) &&& 0x00ff0000) ^^^
    (Te 4 (getByte temp 0) &&& 0x0000ff00) ^^^ (Te 4 (getByte temp 3) &&& 0x000000ff)

/-- What it contributes half way between, with a key of 32 bytes. -/
def subOnly (temp : BitVec 32) : BitVec 32 :=
  (Te 4 (getByte temp 3) &&& 0xff000000) ^^^ (Te 4 (getByte temp 2) &&& 0x00ff0000) ^^^
    (Te 4 (getByte temp 1) &&& 0x0000ff00) ^^^ (Te 4 (getByte temp 0) &&& 0x000000ff)

/-- A turn of the loop for 16 bytes.  `key` holds the words written so far, and `rk` points at the
    `4 * i`-th. -/
def expand16 (key : List (BitVec 32)) (i : ℕ) : List (BitVec 32) :=
  let rk := key.drop (4 * i)
  let rk4 := rk.getD 0 0 ^^^ rotSub (rk.getD 3 0) ^^^ rcon.getD i 0
  let rk5 := rk.getD 1 0 ^^^ rk4
  let rk6 := rk.getD 2 0 ^^^ rk5
  let rk7 := rk.getD 3 0 ^^^ rk6
  key ++ [rk4, rk5, rk6, rk7]

/-- A turn of the loop for 24 bytes. -/
def expand24 (key : List (BitVec 32)) (i : ℕ) : List (BitVec 32) :=
  let rk := key.drop (6 * i)
  let rk6 := rk.getD 0 0 ^^^ rotSub (rk.getD 5 0) ^^^ rcon.getD i 0
  let rk7 := rk.getD 1 0 ^^^ rk6
  let rk8 := rk.getD 2 0 ^^^ rk7
  let rk9 := rk.getD 3 0 ^^^ rk8
  if i + 1 = 8 then key ++ [rk6, rk7, rk8, rk9]
  else
    let rk10 := rk.getD 4 0 ^^^ rk9
    let rk11 := rk.getD 5 0 ^^^ rk10
    key ++ [rk6, rk7, rk8, rk9, rk10, rk11]

/-- A turn of the loop for 32 bytes. -/
def expand32 (key : List (BitVec 32)) (i : ℕ) : List (BitVec 32) :=
  let rk := key.drop (8 * i)
  let rk8 := rk.getD 0 0 ^^^ rotSub (rk.getD 7 0) ^^^ rcon.getD i 0
  let rk9 := rk.getD 1 0 ^^^ rk8
  let rk10 := rk.getD 2 0 ^^^ rk9
  let rk11 := rk.getD 3 0 ^^^ rk10
  if i + 1 = 7 then key ++ [rk8, rk9, rk10, rk11]
  else
    let rk12 := rk.getD 4 0 ^^^ subOnly rk11
    let rk13 := rk.getD 5 0 ^^^ rk12
    let rk14 := rk.getD 6 0 ^^^ rk13
    let rk15 := rk.getD 7 0 ^^^ rk14
    key ++ [rk8, rk9, rk10, rk11, rk12, rk13, rk14, rk15]

/-- `XMEMCPY` and `ByteReverseWords`. -/
def keyWords (userKey : List Byte) : List (BitVec 32) :=
  (List.range (userKey.length / 4)).map fun i => byteReverseWord32 (get32 userKey (4 * i))

/-- `aes->key` after the loop.  `AesSetKey` has refused all lengths but 16, 24 and 32. -/
def expandKey (userKey : List Byte) : List (BitVec 32) :=
  if userKey.length = 16 then (List.range 10).foldl expand16 (keyWords userKey)
  else if userKey.length = 24 then (List.range 8).foldl expand24 (keyWords userKey)
  else (List.range 7).foldl expand32 (keyWords userKey)

/-- `aes->key` as the rounds read it: four words for each. -/
def roundKeys (rounds : ℕ) (key : List (BitVec 32)) : List AesState :=
  (List.range (rounds + 1)).map fun i =>
    ⟨key.getD (4 * i) 0, key.getD (4 * i + 1) 0, key.getD (4 * i + 2) 0, key.getD (4 * i + 3) 0⟩

/-- `Te[4][x] & 0xff` -/
def sbox (x : Byte) : Byte := (Te 4 x &&& 0xff).setWidth 8

/-- The inverse of the mixing, for a word of a round key. -/
def invMixWord (rk : BitVec 32) : BitVec 32 :=
  Td 0 (sbox (getByte rk 3)) ^^^ Td 1 (sbox (getByte rk 2)) ^^^ Td 2 (sbox (getByte rk 1)) ^^^
    Td 3 (sbox (getByte rk 0))

/-- The round keys for decryption: the order is inverted, and all but the first and the last are
    mixed back. -/
def invertKeys (rounds : ℕ) (key : List AesState) : List AesState :=
  (List.range (rounds - 1)).foldl
    (fun rk i => rk.set (i + 1) ((rk.getD (i + 1) default).map invMixWord))
    (Cipher.swapEnds (rounds + 1) 0 rounds key)

inductive AesDir where
  | encryption
  | decryption
  deriving DecidableEq

/-- `Aes`, without `tmp`.  The rounds are those of a schedule, so the loops are entered. -/
structure Aes where
  key : List AesState
  rounds : ℕ
  reg : List Byte
  size : key.length = rounds + 1
  even : rounds = 2 * (rounds / 2)
  pos : 0 < rounds / 2
  le : rounds / 2 ≤ 7

@[simp] theorem length_roundKeys (rounds : ℕ) (key : List (BitVec 32)) :
    (roundKeys rounds key).length = rounds + 1 := by
  simp [roundKeys]

@[simp] theorem length_invertKeys (rounds : ℕ) (key : List AesState) :
    (invertKeys rounds key).length = key.length := by
  have hset : ∀ (is : List ℕ) (rk : List AesState), (is.foldl
      (fun rk i => rk.set (i + 1) ((rk.getD (i + 1) default).map invMixWord)) rk).length =
        rk.length := by
    intro is
    induction is with
    | nil => intro rk; rfl
    | cons i is ih => intro rk; rw [List.foldl_cons, ih, List.length_set]
  rw [invertKeys, hset, Cipher.length_swapEnds]

/-- `aes->key` behind `AesSetKeyLocal`. -/
def schedule (userKey : List Byte) : AesDir → List AesState
  | .encryption => roundKeys (userKey.length / 4 + 6) (expandKey userKey)
  | .decryption => invertKeys (userKey.length / 4 + 6)
      (roundKeys (userKey.length / 4 + 6) (expandKey userKey))

/-- `AesSetKey`; none for `BAD_FUNC_ARG`. -/
def aesSetKey (userKey iv : List Byte) (dir : AesDir) : Option Aes :=
  if h : userKey.length = 16 ∨ userKey.length = 24 ∨ userKey.length = 32 then
    some { key := schedule userKey dir
           rounds := userKey.length / 4 + 6
           reg := iv
           size := by cases dir <;> simp [schedule]
           even := by rcases h with h | h | h <;> simp [h]
           pos := by simp
           le := by rcases h with h | h | h <;> simp [h] }
  else none

namespace Aes

/-- The block that `AesEncrypt` makes of a block. -/
def encryptState (aes : Aes) (s : AesState) : AesState :=
  aesLoop (encShift (roundWord Te)) (encShift (lastWord Te)) aes.key (aes.rounds / 2) 0
    (s.xor (aes.key.getD 0 default))

def decryptState (aes : Aes) (s : AesState) : AesState :=
  aesLoop (decShift (roundWord Td)) (decShift (lastWord Td)) aes.key (aes.rounds / 2) 0
    (s.xor (aes.key.getD 0 default))

end Aes

/-- `AesEncrypt` -/
def aesEncrypt (aes : Aes) (inBlock : List Byte) : List Byte :=
  (aes.encryptState (.load inBlock)).store

/-- `AesDecrypt` -/
def aesDecrypt (aes : Aes) (inBlock : List Byte) : List Byte :=
  (aes.decryptState (.load inBlock)).store

/-! ## Words and their bytes -/

theorem getByte_eq (x : BitVec 32) (y : ℕ) : getByte x y = x.extractLsb' (8 * y) 8 := by
  ext i hi
  simp [getByte]

theorem getByte_xor (x y : BitVec 32) (k : ℕ) : getByte (x ^^^ y) k = getByte x k ^^^ getByte y k := by
  ext i hi
  simp [getByte]

theorem getByte_and (x y : BitVec 32) (k : ℕ) : getByte (x &&& y) k = getByte x k &&& getByte y k := by
  ext i hi
  simp [getByte]

theorem getByte_or (x y : BitVec 32) (k : ℕ) : getByte (x ||| y) k = getByte x k ||| getByte y k := by
  ext i hi
  simp [getByte]

theorem getByte_of_le (x : BitVec 32) {k : ℕ} (hk : 4 ≤ k) : getByte x k = 0 := by
  ext i hi
  rw [getByte, BitVec.getElem_setWidth, BitVec.getLsbD_ushiftRight,
    BitVec.getLsbD_of_ge x (8 * k + i) (by omega)]
  simp

theorem getByte_ushiftRight (x : BitVec 32) {m a : ℕ} (hm : m = 8 * a) (k : ℕ) :
    getByte (x >>> m) k = getByte x (a + k) := by
  rw [hm, getByte, getByte, ← BitVec.shiftRight_add, Nat.mul_add]

theorem getByte_shiftLeft (x : BitVec 32) {m a k : ℕ} (hm : m = 8 * a) (hk : k < 4) :
    getByte (x <<< m) k = if k < a then 0 else getByte x (k - a) := by
  subst hm
  ext i hi
  split_ifs with h
  · simp [getByte]; omega
  · have h₁ : 8 * k + i < 32 := by omega
    have h₂ : ¬ 8 * k + i < 8 * a := by omega
    simp only [getByte, BitVec.getElem_setWidth, BitVec.getLsbD_ushiftRight,
      BitVec.getLsbD_shiftLeft, h₁, h₂, decide_true, decide_false, Bool.not_false, Bool.true_and]
    congr 1; omega

section
variable (a b c d : Byte)

/-- The word with the bytes `a`, `b`, `c` and `d`, the highest first. -/
def ofBytes : BitVec 32 := a ++ b ++ c ++ d

theorem getByte_ofBytes : getByte (ofBytes a b c d) 0 = d ∧ getByte (ofBytes a b c d) 1 = c ∧
    getByte (ofBytes a b c d) 2 = b ∧ getByte (ofBytes a b c d) 3 = a := by
  have h := le32_append d c b a
  simp only [le32, List.cons.injEq, and_true] at h
  simp only [getByte_eq]
  exact h

end

/-- A word is known by its bytes. -/
theorem word_ext {x y : BitVec 32} (h₀ : getByte x 0 = getByte y 0) (h₁ : getByte x 1 = getByte y 1)
    (h₂ : getByte x 2 = getByte y 2) (h₃ : getByte x 3 = getByte y 3) : x = y := by
  rw [← le32_inj]
  simp only [getByte_eq] at h₀ h₁ h₂ h₃
  rw [le32, le32, h₀, h₁, h₂, h₃]

theorem ofBytes_getByte (x : BitVec 32) :
    ofBytes (getByte x 3) (getByte x 2) (getByte x 1) (getByte x 0) = x := by
  obtain ⟨h₀, h₁, h₂, h₃⟩ := getByte_ofBytes (getByte x 3) (getByte x 2) (getByte x 1) (getByte x 0)
  exact word_ext h₀ h₁ h₂ h₃

theorem ofBytes_xor (a b c d a' b' c' d' : Byte) :
    ofBytes a b c d ^^^ ofBytes a' b' c' d' =
      ofBytes (a ^^^ a') (b ^^^ b') (c ^^^ c') (d ^^^ d') := by
  apply word_ext <;> simp only [getByte_xor, getByte_ofBytes]

theorem byte_and_255 (x : Byte) : x &&& 255#8 = x := by
  rw [show 255#8 = BitVec.allOnes 8 by decide, BitVec.and_allOnes]

theorem byteReverseWord32_eq (x : BitVec 32) : byteReverseWord32 x =
    ofBytes (getByte x 0) (getByte x 1) (getByte x 2) (getByte x 3) := by
  have hright := fun y => getByte_ushiftRight y (show 8 = 8 * 1 from rfl)
  have hright' := fun y => getByte_ushiftRight y (show 32 - 16 = 8 * 2 from rfl)
  have hleft := fun y => @getByte_shiftLeft y 8 1
  have hleft' := fun y => @getByte_shiftLeft y 16 2
  have hmask : getByte 0xFF00FF00 0 = 0#8 ∧ getByte 0xFF00FF00 1 = 255#8 ∧
      getByte 0xFF00FF00 2 = 0#8 ∧ getByte 0xFF00FF00 3 = 255#8 ∧
      getByte 0x00FF00FF 0 = 255#8 ∧ getByte 0x00FF00FF 1 = 0#8 ∧
      getByte 0x00FF00FF 2 = 255#8 ∧ getByte 0x00FF00FF 3 = 0#8 := by decide
  apply word_ext
  all_goals
    simp (disch := decide) only [byteReverseWord32, rotlFixed, getByte_or, getByte_and, hright,
      hright', hleft, hleft', hmask, byte_and_255, getByte_ofBytes]
    simp [getByte_of_le]

/-! ## A round taken apart -/

/-- `Td[4]`, as bytes. -/
def invSbox (x : Byte) : Byte := (Td 4 x).setWidth 8

/-- The last tables hold one byte four times, and undo each other. -/
theorem table4_checked : ∀ x, Te 4 x = ofBytes (sbox x) (sbox x) (sbox x) (sbox x) ∧
    Td 4 x = ofBytes (invSbox x) (invSbox x) (invSbox x) (invSbox x) ∧
    invSbox (sbox x) = x ∧ sbox (invSbox x) = x := by
  decide +kernel

theorem te4_eq (x : Byte) : Te 4 x = ofBytes (sbox x) (sbox x) (sbox x) (sbox x) :=
  (table4_checked x).1

theorem td4_eq (x : Byte) : Td 4 x = ofBytes (invSbox x) (invSbox x) (invSbox x) (invSbox x) :=
  (table4_checked x).2.1

theorem invSbox_sbox (x : Byte) : invSbox (sbox x) = x := (table4_checked x).2.2.1

theorem sbox_invSbox (x : Byte) : sbox (invSbox x) = x := (table4_checked x).2.2.2

/-- The mixing: what is left of a round when the bytes are replaced and moved already. -/
def mixWord (x : BitVec 32) : BitVec 32 :=
  Te 0 (invSbox (getByte x 3)) ^^^ Te 1 (invSbox (getByte x 2)) ^^^ Te 2 (invSbox (getByte x 1)) ^^^
    Te 3 (invSbox (getByte x 0))

section
variable {T : Fin 5 → Byte → BitVec 32} {f : Byte → Byte}

/-- A word that is put together from the last table. -/
theorem masked_eq (h : ∀ x, T 4 x = ofBytes (f x) (f x) (f x) (f x)) (w x y z : Byte) :
    (T 4 w &&& 0xff000000) ^^^ (T 4 x &&& 0x00ff0000) ^^^ (T 4 y &&& 0x0000ff00) ^^^
      (T 4 z &&& 0x000000ff) = ofBytes (f w) (f x) (f y) (f z) := by
  obtain ⟨h₀, h₁, h₂, h₃⟩ := getByte_ofBytes (f w) (f x) (f y) (f z)
  have hT : ∀ x, getByte (T 4 x) 0 = f x ∧ getByte (T 4 x) 1 = f x ∧ getByte (T 4 x) 2 = f x ∧
      getByte (T 4 x) 3 = f x := by
    intro x
    rw [h]
    exact getByte_ofBytes _ _ _ _
  apply word_ext
  all_goals simp only [getByte_xor, getByte_and, hT, h₀, h₁, h₂, h₃]
  all_goals simp [getByte, byte_and_255]

/-- The last round replaces and moves the bytes. -/
theorem lastWord_eq (h : ∀ x, T 4 x = ofBytes (f x) (f x) (f x) (f x)) (a b c d : BitVec 32) :
    lastWord T a b c d = ofBytes (f (getByte a 3)) (f (getByte b 2)) (f (getByte c 1))
      (f (getByte d 0)) := masked_eq h _ _ _ _

end

theorem roundWord_te (a b c d : BitVec 32) : roundWord Te a b c d = mixWord (lastWord Te a b c d) := by
  simp only [lastWord_eq te4_eq, mixWord, getByte_ofBytes, invSbox_sbox, roundWord]

theorem roundWord_td (a b c d : BitVec 32) :
    roundWord Td a b c d = invMixWord (lastWord Td a b c d) := by
  simp only [lastWord_eq td4_eq, invMixWord, getByte_ofBytes, sbox_invSbox, roundWord]

theorem encShift_roundWord (s : AesState) :
    encShift (roundWord Te) s = (encShift (lastWord Te) s).map mixWord := by
  simp only [encShift, roundWord_te, AesState.map]

theorem decShift_roundWord (s : AesState) :
    decShift (roundWord Td) s = (decShift (lastWord Td) s).map invMixWord := by
  simp only [decShift, roundWord_td, AesState.map]

/-- The bytes are moved back and replaced by what they were. -/
theorem decShift_encShift (s : AesState) :
    decShift (lastWord Td) (encShift (lastWord Te) s) = s := by
  simp only [decShift, encShift, lastWord_eq td4_eq, lastWord_eq te4_eq, getByte_ofBytes,
    invSbox_sbox, ofBytes_getByte]

/-! ## The mixing -/

/-- The byte times 2, in the field the matrix is over. -/
def mul2 (x : Byte) : Byte := (x <<< 1) ^^^ if x.getLsbD 7 then 0x1b else 0

def mul3 (x : Byte) : Byte := mul2 x ^^^ x

def mul9 (x : Byte) : Byte := mul2 (mul2 (mul2 x)) ^^^ x

def mul11 (x : Byte) : Byte := mul2 (mul2 (mul2 x) ^^^ x) ^^^ x

def mul13 (x : Byte) : Byte := mul2 (mul2 (mul2 x ^^^ x)) ^^^ x

def mul14 (x : Byte) : Byte := mul2 (mul2 (mul2 x ^^^ x) ^^^ x)

theorem mul2_xor (x y : Byte) : mul2 (x ^^^ y) = mul2 x ^^^ mul2 y := by
  have hif : ∀ p q : Bool, (if p ^^ q then 0x1b else 0 : Byte) =
      (if p then 0x1b else 0) ^^^ if q then 0x1b else 0 := by
    intro p q
    cases p <;> cases q <;> rfl
  rw [mul2, mul2, mul2, BitVec.shiftLeft_xor_distrib, BitVec.getLsbD_xor, hif]
  ac_rfl

/-- The other tables hold the columns of the matrix. -/
theorem te_invSbox : ∀ x, Te 0 (invSbox x) = ofBytes (mul2 x) x x (mul3 x) ∧
    Te 1 (invSbox x) = ofBytes (mul3 x) (mul2 x) x x ∧
    Te 2 (invSbox x) = ofBytes x (mul3 x) (mul2 x) x ∧
    Te 3 (invSbox x) = ofBytes x x (mul3 x) (mul2 x) := by
  decide +kernel

/-- Those for decryption hold the columns of its inverse. -/
theorem td_sbox : ∀ x, Td 0 (sbox x) = ofBytes (mul14 x) (mul9 x) (mul13 x) (mul11 x) ∧
    Td 1 (sbox x) = ofBytes (mul11 x) (mul14 x) (mul9 x) (mul13 x) ∧
    Td 2 (sbox x) = ofBytes (mul13 x) (mul11 x) (mul14 x) (mul9 x) ∧
    Td 3 (sbox x) = ofBytes (mul9 x) (mul13 x) (mul11 x) (mul14 x) := by
  decide +kernel

theorem invMixWord_ofBytes (a b c d : Byte) : invMixWord (ofBytes a b c d) =
    ofBytes (mul14 a ^^^ mul11 b ^^^ mul13 c ^^^ mul9 d) (mul9 a ^^^ mul14 b ^^^ mul11 c ^^^ mul13 d)
      (mul13 a ^^^ mul9 b ^^^ mul14 c ^^^ mul11 d) (mul11 a ^^^ mul13 b ^^^ mul9 c ^^^ mul14 d) := by
  simp only [invMixWord, getByte_ofBytes, td_sbox, ofBytes_xor]

theorem invMixWord_xor (x y : BitVec 32) :
    invMixWord (x ^^^ y) = invMixWord x ^^^ invMixWord y := by
  rw [← ofBytes_getByte x, ← ofBytes_getByte y, ofBytes_xor]
  simp only [invMixWord_ofBytes, ofBytes_xor, mul9, mul11, mul13, mul14, mul2_xor]
  congr 1 <;> ac_rfl

/-- What is mixed back of one byte. -/
theorem invMixWord_column (x : Byte) :
    invMixWord (ofBytes (mul2 x) x x (mul3 x)) = ofBytes x 0#8 0#8 0#8 ∧
    invMixWord (ofBytes (mul3 x) (mul2 x) x x) = ofBytes 0#8 x 0#8 0#8 ∧
    invMixWord (ofBytes x (mul3 x) (mul2 x) x) = ofBytes 0#8 0#8 x 0#8 ∧
    invMixWord (ofBytes x x (mul3 x) (mul2 x)) = ofBytes 0#8 0#8 0#8 x := by
  simp only [invMixWord_ofBytes, mul3, mul9, mul11, mul13, mul14, mul2_xor]
  -- each multiple of `x` comes an even number of times, but for `x` itself where it stands
  refine ⟨?_, ?_, ?_, ?_⟩
  all_goals
    congr 1 <;>
    · ext i hi
      simp only [BitVec.getElem_xor, BitVec.getElem_zero]
      grind

theorem invMixWord_mixWord (x : BitVec 32) : invMixWord (mixWord x) = x := by
  simp only [mixWord, invMixWord_xor, te_invSbox, invMixWord_column]
  simp only [ofBytes_xor, BitVec.xor_zero, BitVec.zero_xor, ofBytes_getByte]

/-- The two directions of the cipher. -/
theorem aesInverse : Cipher.Inverse AesState.xor (encShift (lastWord Te)) (decShift (lastWord Td))
    (AesState.map mixWord) (AesState.map invMixWord) where
  cancel a b := by
    ext1 <;> simp only [AesState.xor, BitVec.xor_assoc, BitVec.xor_self, BitVec.xor_zero]
  sub := decShift_encShift
  mix x := by simp [AesState.map, invMixWord_mixWord]
  additive a b := by simp [AesState.map, AesState.xor, invMixWord_xor]

/-! ## The two directions -/

section
variable {first last : AesState} {mid : List AesState}

/-- The schedule that is left for decryption. -/
theorem invertKeys_eq :
    invertKeys (mid.length + 1) (first :: mid ++ [last]) =
      last :: mid.reverse.map (AesState.map invMixWord) ++ [first] := by
  have hrev : (first :: mid ++ [last]).reverse = last :: mid.reverse ++ [first] := by simp
  rw [invertKeys, Cipher.swapEnds_eq_reverse (by simp), hrev, Nat.add_sub_cancel,
    ← List.length_reverse, Cipher.foldl_set_eq_map]

/-- The double rounds are those of the cipher. -/
theorem aesLoop_eq {round S M : AesState → AesState} (hround : ∀ s, round s = M (S s))
    {key : List AesState} (r : ℕ) : ∀ (p : ℕ) (mid : List AesState) (s : AesState),
    key.drop (p + 1) = mid ++ [last] → mid.length = 2 * r + 1 →
      aesLoop round S key (r + 1) p s =
        (S (Cipher.rounds AesState.xor S M mid s)).xor last := by
  have hget : ∀ {i : ℕ} {k : AesState} {l}, key.drop i = k :: l → key.getD i default = k := by
    intro i k l h
    rw [List.getD_eq_getElem?_getD, ← Nat.add_zero i, ← List.getElem?_drop, h]
    rfl
  have hdrop : ∀ {i : ℕ} {k : AesState} {l}, key.drop i = k :: l → key.drop (i + 1) = l := by
    intro i k l h
    rw [← List.drop_drop, h]
    rfl
  induction r with
  | zero =>
    intro p mid s hkey hlen
    obtain ⟨k, rfl⟩ := List.length_eq_one_iff.1 hlen
    rw [aesLoop, if_pos rfl, hget hkey, hget (hdrop hkey), hround]
    rfl
  | succ r ih =>
    intro p mid s hkey hlen
    obtain ⟨k, k', mid, rfl⟩ : ∃ k k' l, mid = k :: k' :: l := by
      rcases mid with - | ⟨k, - | ⟨k', l⟩⟩
      · simp at hlen
      · simp at hlen
      · exact ⟨k, k', l, rfl⟩
    rw [aesLoop, if_neg (by omega), hget hkey, hget (hdrop hkey), hround, hround,
      ih (p + 2) mid _ (hdrop (hdrop hkey)) (by simp at hlen; omega)]
    rfl

theorem Aes.exists_key (aes : Aes) : ∃ first mid last,
    aes.key = first :: mid ++ [last] ∧ mid.length = 2 * (aes.rounds / 2 - 1) + 1 := by
  obtain ⟨first, rest, hkey⟩ := List.exists_cons_of_length_eq_add_one aes.size
  have hsize := aes.size
  have heven := aes.even
  have hpos := aes.pos
  rw [hkey, List.length_cons] at hsize
  have hrest : rest ≠ [] := List.ne_nil_of_length_pos (by omega)
  refine ⟨first, rest.dropLast, rest.getLast hrest, ?_, ?_⟩
  · rw [hkey, List.cons_append, List.dropLast_append_getLast]
  · rw [List.length_dropLast]
    omega

section
variable {aes : Aes} (hkey : aes.key = first :: mid ++ [last])
  (hmid : mid.length = 2 * (aes.rounds / 2 - 1) + 1) (x : AesState)
include hkey hmid

theorem Aes.encryptState_eq : aes.encryptState x =
    Cipher.encrypt AesState.xor (encShift (lastWord Te)) (AesState.map mixWord) first mid last x := by
  have hpos := aes.pos
  rw [Aes.encryptState, show aes.rounds / 2 = aes.rounds / 2 - 1 + 1 by omega,
    aesLoop_eq encShift_roundWord _ 0 mid _ (by rw [hkey]; rfl) hmid, hkey]
  rfl

theorem Aes.decryptState_eq : aes.decryptState x =
    Cipher.encrypt AesState.xor (decShift (lastWord Td)) (AesState.map invMixWord)
      first mid last x := by
  have hpos := aes.pos
  rw [Aes.decryptState, show aes.rounds / 2 = aes.rounds / 2 - 1 + 1 by omega,
    aesLoop_eq decShift_roundWord _ 0 mid _ (by rw [hkey]; rfl) hmid, hkey]
  rfl

end

end

/-- What `AesSetKey` leaves for the two directions. -/
theorem aesSetKey_some {userKey iv : List Byte} {dir : AesDir} {aes : Aes}
    (h : aesSetKey userKey iv dir = some aes) :
    aes.rounds = userKey.length / 4 + 6 ∧ aes.reg = iv ∧ aes.key = schedule userKey dir := by
  unfold aesSetKey at h
  split_ifs at h
  cases h
  exact ⟨rfl, rfl, rfl⟩

/-- `AesSetKey` takes keys of 16, 24 and 32 bytes. -/
theorem exists_aesSetKey {userKey : List Byte}
    (h : userKey.length = 16 ∨ userKey.length = 24 ∨ userKey.length = 32) (iv : List Byte)
    (dir : AesDir) : ∃ aes, aesSetKey userKey iv dir = some aes := by
  rw [aesSetKey, dif_pos h]
  exact ⟨_, rfl⟩

theorem length_of_aesSetKey {userKey iv : List Byte} {dir : AesDir} {aes : Aes}
    (h : aesSetKey userKey iv dir = some aes) :
    userKey.length = 16 ∨ userKey.length = 24 ∨ userKey.length = 32 := by
  unfold aesSetKey at h
  split_ifs at h with hlen
  exact hlen

/-- **What is encrypted is decrypted**, with the schedules of one key. -/
theorem decryptState_encryptState {userKey iv iv' : List Byte} {enc dec : Aes}
    (henc : aesSetKey userKey iv .encryption = some enc)
    (hdec : aesSetKey userKey iv' .decryption = some dec) (x : AesState) :
    dec.decryptState (enc.encryptState x) = x := by
  obtain ⟨hrounds, -, hkey⟩ := aesSetKey_some henc
  obtain ⟨hrounds', -, hkey'⟩ := aesSetKey_some hdec
  obtain ⟨first, mid, last, hparts, hmid⟩ := enc.exists_key
  have hsame : dec.rounds = enc.rounds := hrounds'.trans hrounds.symm
  have hlen : enc.rounds = mid.length + 1 := by
    have := enc.even
    have := enc.pos
    omega
  have hinv : dec.key = last :: mid.reverse.map (AesState.map invMixWord) ++ [first] := by
    simp only [schedule] at hkey hkey'
    rw [hkey', ← hkey, hparts, ← hrounds, hlen, invertKeys_eq]
  rw [Aes.encryptState_eq hparts hmid, Aes.decryptState_eq hinv (by simpa [hsame] using hmid)]
  exact Cipher.encrypt_inverse aesInverse first mid last x

end MxchipSpp
