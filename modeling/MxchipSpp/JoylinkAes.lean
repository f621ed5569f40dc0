/-
  The other implementation of the cipher (joylinkAES.c).

  Its tables are generated when they are needed first, from the powers of 3, and
  its words have the bytes in the opposite order.  The generated tables are
  those of aes.c (`fSb_eq`, `ft_eq`, `rt_eq`), so the two implementations have
  the same round keys and agree on every block, in both directions
  (`joylink_aes_agree`).
-/
import MxchipSpp.AesCbc

namespace MxchipSpp

open Endian Memory

/-! ## The tables -/

/-- `JOYLINKXTIME`, as a byte. -/
def joylinkXtime (x : Byte) : Byte := (x <<< 1) ^^^ if x &&& 0x80 ≠ 0 then 0x1B else 0x00

/-- `JOYLINKROTL8` -/
def joylinkRotl8 (x : BitVec 32) : BitVec 32 := ((x <<< 8) &&& 0xFFFFFFFF#32) ||| (x >>> 24)

/-- `pow` -/
def powTable : List Byte := List.iterate (fun x => x ^^^ joylinkXtime x) 1 256

/-- `log`.  What is not written is not read. -/
def logTable : Byte → ℕ := filled (fun i => powTable.getD i 0) id (List.range 256) fun _ => 0

def RCON (i : ℕ) : BitVec 32 := ((List.iterate joylinkXtime 1 10).getD i 0).setWidth 32

/-- `y = ((y << 1) | (y >> 7)) & 0xFF` -/
def rotate (y : Byte) : Byte := (y <<< 1) ||| (y >>> 7)

/-- The last steps to an entry of `FSb`. -/
def affine (x : Byte) : Byte :=
  let y := rotate x
  let x := x ^^^ y
  let y := rotate y
  let x := x ^^^ y
  let y := rotate y
  let x := x ^^^ y
  let y := rotate y
  x ^^^ (y ^^^ 0x63)

def FSb (i : Byte) : Byte :=
  if i = 0 then 0x63 else affine (powTable.getD (255 - logTable i) 0)

def RSb : Byte → Byte :=
  filled (fun i => FSb (BitVec.ofNat 8 i)) (BitVec.ofNat 8) (List.range' 1 255)
    (Function.update (fun _ => 0) 0x63 0)

/-- `JOYLINKMUL` -/
def joylinkMul (x y : Byte) : Byte :=
  if x ≠ 0 ∧ y ≠ 0 then powTable.getD ((logTable x + logTable y) % 255) 0 else 0

/-- `FT0`, and behind it `FT1`, `FT2` and `FT3`. -/
def FT : ℕ → Byte → BitVec 32
  | 0, i =>
    let x := FSb i
    let y := joylinkXtime x
    let z := y ^^^ x
    y.setWidth 32 ^^^ (x.setWidth 32 <<< 8) ^^^ (x.setWidth 32 <<< 16) ^^^ (z.setWidth 32 <<< 24)
  | j + 1, i => joylinkRotl8 (FT j i)

/-- `RT0`, and behind it `RT1`, `RT2` and `RT3`. -/
def RT : ℕ → Byte → BitVec 32
  | 0, i =>
    let x := RSb i
    (joylinkMul 0x0E x).setWidth 32 ^^^ ((joylinkMul 0x09 x).setWidth 32 <<< 8) ^^^
      ((joylinkMul 0x0D x).setWidth 32 <<< 16) ^^^ ((joylinkMul 0x0B x).setWidth 32 <<< 24)
  | j + 1, i => joylinkRotl8 (RT j i)

/-! ## The cipher -/

/-- A word of `JOYLINK_AES_FROUND` or of `JOYLINK_AES_RROUND`, without its round key. -/
def roundWordLe (T : ℕ → Byte → BitVec 32) (a b c d : BitVec 32) : BitVec 32 :=
  T 0 (getByte a 0) ^^^ T 1 (getByte b 1) ^^^ T 2 (getByte c 2) ^^^ T 3 (getByte d 3)

/-- A word of the last round. -/
def lastWordLe (S : Byte → Byte) (a b c d : BitVec 32) : BitVec 32 :=
  (S (getByte a 0)).setWidth 32 ^^^ ((S (getByte b 1)).setWidth 32 <<< 8) ^^^
    ((S (getByte c 2)).setWidth 32 <<< 16) ^^^ ((S (getByte d 3)).setWidth 32 <<< 24)

/-- The rounds of `joylink_enc2_crypt_ecb`: `i` double rounds, one round more and the last one.
    `RK` points behind the round key `p`. -/
def ecbLoop (round last : AesState → AesState) (key : List AesState) : ℕ → ℕ → AesState → AesState
  | 0, p, x =>
    let y := (round x).xor (key.getD (p + 1) default)
    (last y).xor (key.getD (p + 2) default)
  | i + 1, p, x =>
    let y := (round x).xor (key.getD (p + 1) default)
    ecbLoop round last key i (p + 2) ((round y).xor (key.getD (p + 2) default))

/-- The words that an entry of the schedule takes from the one before. -/
def rotSubLe (rk : BitVec 32) : BitVec 32 :=
  (FSb (getByte rk 1)).setWidth 32 ^^^ ((FSb (getByte rk 2)).setWidth 32 <<< 8) ^^^
    ((FSb (getByte rk 3)).setWidth 32 <<< 16) ^^^ ((FSb (getByte rk 0)).setWidth 32 <<< 24)

def subOnlyLe (rk : BitVec 32) : BitVec 32 := lastWordLe FSb rk rk rk rk

/-- A turn of the loop for 128 bits. -/
def expand16Le (buf : List (BitVec 32)) (i : ℕ) : List (BitVec 32) :=
  let RK := buf.drop (4 * i)
  let rk4 := RK.getD 0 0 ^^^ RCON i ^^^ rotSubLe (RK.getD 3 0)
  let rk5 := RK.getD 1 0 ^^^ rk4
  let rk6 := RK.getD 2 0 ^^^ rk5
  let rk7 := RK.getD 3 0 ^^^ rk6
  buf ++ [rk4, rk5, rk6, rk7]

/-- A turn of the loop for 192 bits. -/
def expand24Le (buf : List (BitVec 32)) (i : ℕ) : List (BitVec 32) :=
  let RK := buf.drop (6 * i)
  let rk6 := RK.getD 0 0 ^^^ RCON i ^^^ rotSubLe (RK.getD 5 0)
  let rk7 := RK.getD 1 0 ^^^ rk6
  let rk8 := RK.getD 2 0 ^^^ rk7
  let rk9 := RK.getD 3 0 ^^^ rk8
  let rk10 := RK.getD 4 0 ^^^ rk9
  let rk11 := RK.getD 5 0 ^^^ rk10
  buf ++ [rk6, rk7, rk8, rk9, rk10, rk11]

/-- A turn of the loop for 256 bits. -/
def expand32Le (buf : List (BitVec 32)) (i : ℕ) : List (BitVec 32) :=
  let RK := buf.drop (8 * i)
  let rk8 := RK.getD 0 0 ^^^ RCON i ^^^ rotSubLe (RK.getD 7 0)
  let rk9 := RK.getD 1 0 ^^^ rk8
  let rk10 := RK.getD 2 0 ^^^ rk9
  let rk11 := RK.getD 3 0 ^^^ rk10
  let rk12 := RK.getD 4 0 ^^^ subOnlyLe rk11
  let rk13 := RK.getD 5 0 ^^^ rk12
  let rk14 := RK.getD 6 0 ^^^ rk13
  let rk15 := RK.getD 7 0 ^^^ rk14
  buf ++ [rk8, rk9, rk10, rk11, rk12, rk13, rk14, rk15]

/-- `joylinkEnc2Context` -/
structure JoylinkEnc2Context where
  nr : ℕ
  rk : List AesState

/-- `joylink_enc2_setkey_enc`, for a key of `keysize / 8` bytes; none for `JOYLINK_ENCINFO_ERR`. -/
def joylinkEnc2SetkeyEnc (key : List Byte) : Option JoylinkEnc2Context :=
  let RK := (List.range (key.length / 4)).map fun i => get32 key (4 * i)
  if key.length = 16 then some ⟨10, roundKeys 10 ((List.range 10).foldl expand16Le RK)⟩
  else if key.length = 24 then some ⟨12, roundKeys 12 ((List.range 8).foldl expand24Le RK)⟩
  else if key.length = 32 then some ⟨14, roundKeys 14 ((List.range 7).foldl expand32Le RK)⟩
  else none

/-- A word that the decryption schedule makes of `*SK`. -/
def invMixWordLe (sk : BitVec 32) : BitVec 32 :=
  RT 0 (FSb (getByte sk 0)) ^^^ RT 1 (FSb (getByte sk 1)) ^^^ RT 2 (FSb (getByte sk 2)) ^^^
    RT 3 (FSb (getByte sk 3))

/-- `joylink_enc2_setkey_dec`: the last round key, the ones before it from `nr - 1` down to 1, and
    the first. -/
def joylinkEnc2SetkeyDec (key : List Byte) : Option JoylinkEnc2Context :=
  (joylinkEnc2SetkeyEnc key).map fun cty =>
    ⟨cty.nr, cty.rk.getD cty.nr default ::
      ((List.range (cty.nr - 1)).map fun t =>
        (cty.rk.getD (cty.nr - 1 - t) default).map invMixWordLe) ++ [cty.rk.getD 0 default]⟩

inductive JoylinkEnc2Mode where
  | decrypt
  | encrypt
  deriving DecidableEq

/-- `joylink_enc2_crypt_ecb` -/
def joylinkEnc2CryptEcb (ctx : JoylinkEnc2Context) (mode : JoylinkEnc2Mode) (input : List Byte) :
    List Byte :=
  let x : AesState := ⟨get32 input 0, get32 input 4, get32 input 8, get32 input 12⟩
  let x := x.xor (ctx.rk.getD 0 default)
  let x := match mode with
    | .decrypt => ecbLoop (decShift (roundWordLe RT)) (decShift (lastWordLe RSb)) ctx.rk
        (ctx.nr / 2 - 1) 0 x
    | .encrypt => ecbLoop (encShift (roundWordLe FT)) (encShift (lastWordLe FSb)) ctx.rk
        (ctx.nr / 2 - 1) 0 x
  le32 x.s0 ++ le32 x.s1 ++ le32 x.s2 ++ le32 x.s3

/-! ## Messages -/

/-- `JOYLINK_ENCINFO_ERR` -/
def joylinkEncinfoErr : ℤ := -109

/-- `JOYLINK_RECV_DATA_ERR` -/
def joylinkRecvDataErr : ℤ := -1003

section
variable {n : ℕ}

/-- `joylinkPadding`, for `data` at an index of a memory. -/
def joylinkPadding (mem : Block Byte n) (data len maxLen : ℕ) (isPKCS5 : Bool) :
    Option (ℤ × Block Byte n) :=
  if isPKCS5 then
    let padding := if len % 16 ≠ 0 then 16 - len % 16 else 16
    if len + padding > maxLen then some (joylinkEncinfoErr, mem)
    else (mem.write (data + len) (List.replicate padding (BitVec.ofNat 8 padding))).map fun mem =>
      ((len + padding : ℕ), mem)
  else
    let len := (len + 15) / 16 * 16
    if len > maxLen then some (joylinkEncinfoErr, mem) else some (len, mem)

/-- The loop of `joylinkUnPadding`: whether the bytes from the `i`-th last on are `padding`. -/
def unpadLoop (mem : Block Byte n) (data len : ℕ) (padding : Byte) : ℕ → ℕ → Option Bool
  | 0, _ => some true
  | k + 1, i => do
    if (← mem.read (data + len - 1 - i)) ≠ padding then return false
    else unpadLoop mem data len padding k (i + 1)

def joylinkUnPadding (mem : Block Byte n) (data len : ℕ) (isPKCS5 : Bool) : Option ℤ := do
  if len % 16 ≠ 0 then
    return joylinkEncinfoErr
  else if isPKCS5 then
    let padding ← mem.read (data + len - 1)
    if ← unpadLoop mem data len padding padding.toNat 0 then return len - padding.toNat
    else return joylinkRecvDataErr
  else
    return len

/-- A block in `joylink_enc2_crypt_cbc`. -/
def joylinkEnc2Turn (ctx : JoylinkEnc2Context) (mode : JoylinkEnc2Mode) (iv input : List Byte) :
    List Byte × List Byte :=
  match mode with
  | .decrypt => (xorbuf (joylinkEnc2CryptEcb ctx mode input) iv, input)
  | .encrypt =>
    let output := joylinkEnc2CryptEcb ctx mode (xorbuf input iv)
    (output, output)

/-- `joylink_enc2_crypt_cbc`.  A context that was not set up is read only if there is a block. -/
def joylinkEnc2CryptCbc (ctx : Option JoylinkEnc2Context) (mode : JoylinkEnc2Mode) (length : ℕ)
    (iv : List Byte) (mem : Block Byte n) (input output : ℕ) : Option (ℤ × Block Byte n) := do
  if length % 16 ≠ 0 then
    return (joylinkEncinfoErr, mem)
  else if length = 0 then
    return (0, mem)
  else
    let mem ← cbcLoop (joylinkEnc2Turn (← ctx) mode) (length / 16) iv mem output input
    return (0, mem)

/-- `joylinkEnc2Crypt`: the result, `*len`, and the memory that holds `data`. -/
def joylinkEnc2Crypt (key iv : List Byte) (mem : Block Byte n) (data len maxLen : ℕ)
    (isPKCS5 : Bool) (mode : JoylinkEnc2Mode) : Option (ℤ × ℤ × Block Byte n) := do
  match mode with
  | .decrypt =>
    let (ret, mem) ← joylinkEnc2CryptCbc (joylinkEnc2SetkeyDec key) mode len iv mem data data
    let dl ← joylinkUnPadding mem data len isPKCS5
    if dl < 0 then return (dl, len, mem) else return (ret, dl, mem)
  | .encrypt =>
    let (dl, mem) ← joylinkPadding mem data len maxLen isPKCS5
    if dl < 0 then
      return (dl, len, mem)
    else
      let (ret, mem) ← joylinkEnc2CryptCbc (joylinkEnc2SetkeyEnc key) mode dl.toNat iv mem data data
      return (ret, dl, mem)

end

/-! ## The powers of 3 -/

/-- The step from a power of 3 to the next. -/
def times3 (x : Byte) : Byte := x ^^^ joylinkXtime x

/-- `JOYLINKXTIME` is the product with 2, and only 0 is 0 times 3. -/
theorem xtime_checked : ∀ x, joylinkXtime x = mul2 x ∧ (x ≠ 0 → times3 x ≠ 0) := by decide +kernel

theorem joylinkXtime_eq (x : Byte) : joylinkXtime x = mul2 x := (xtime_checked x).1

theorem times3_ne_zero (x : Byte) : x ≠ 0 → times3 x ≠ 0 := (xtime_checked x).2

theorem powTable_getD {i : ℕ} (hi : i < 256) : powTable.getD i 0 = times3^[i] 1 := by
  rw [powTable, List.getD_eq_getElem _ _ (by rwa [List.length_iterate]), List.getElem_iterate]
  rfl

theorem iterate_times3_ne_zero (i : ℕ) : times3^[i] 1 ≠ 0 := by
  induction i with
  | zero => decide
  | succ i ih =>
    rw [Function.iterate_succ_apply']
    exact times3_ne_zero _ ih

/-- 3 has no smaller period than 255. -/
theorem minimalPeriod_times3 : Function.minimalPeriod times3 1 = 255 := by
  have hdvd : Function.minimalPeriod times3 1 ∣ 255 :=
    Function.IsPeriodicPt.minimalPeriod_dvd (by decide +kernel : times3^[255] 1 = 1)
  have hperiod := Function.isPeriodicPt_minimalPeriod times3 1
  have hmem : Function.minimalPeriod times3 1 ∈ Nat.divisors 255 :=
    Nat.mem_divisors.2 ⟨hdvd, by decide⟩
  rw [show Nat.divisors 255 = {1, 3, 5, 15, 17, 51, 85, 255} by decide +kernel] at hmem
  simp only [Finset.mem_insert, Finset.mem_singleton] at hmem
  rcases hmem with h | h | h | h | h | h | h | h
  all_goals try exact h
  all_goals
    rw [h] at hperiod
    exact absurd hperiod (by decide +kernel)

theorem iterate_times3_inj {i j : ℕ} (hi : 1 ≤ i ∧ i ≤ 255) (hj : 1 ≤ j ∧ j ≤ 255)
    (h : times3^[i] 1 = times3^[j] 1) : i = j := by
  rw [← Function.iterate_mod_minimalPeriod_eq (n := i),
    ← Function.iterate_mod_minimalPeriod_eq (n := j), minimalPeriod_times3] at h
  have hmod : i % 255 = j % 255 := Function.iterate_injOn_Iio_minimalPeriod
    (by rw [minimalPeriod_times3]; exact Nat.mod_lt _ (by decide))
    (by rw [minimalPeriod_times3]; exact Nat.mod_lt _ (by decide)) h
  omega

/-- All bytes but 0 are powers of 3. -/
theorem exists_iterate_times3 {x : Byte} (hx : x ≠ 0) :
    ∃ i, (1 ≤ i ∧ i ≤ 255) ∧ times3^[i] 1 = x := by
  have hpos : ∀ y : Byte, y ≠ 0 → y.toNat ∈ Finset.Icc 1 255 := by
    intro y hy
    have hne : y.toNat ≠ 0 := fun h => hy (BitVec.eq_of_toNat_eq h)
    have hlt := y.isLt
    rw [Finset.mem_Icc]
    omega
  have himage : (Finset.Icc 1 255).image (fun i => (times3^[i] (1 : Byte)).toNat) =
      Finset.Icc 1 255 := by
    refine Finset.eq_of_subset_of_card_le (fun y hy => ?_) (le_of_eq ?_)
    · obtain ⟨i, -, rfl⟩ := Finset.mem_image.1 hy
      exact hpos _ (iterate_times3_ne_zero i)
    · refine (Finset.card_image_of_injOn fun i hi j hj h => ?_).symm
      exact iterate_times3_inj (Finset.mem_Icc.1 hi) (Finset.mem_Icc.1 hj)
        (BitVec.eq_of_toNat_eq h)
  obtain ⟨i, hi, h⟩ := Finset.mem_image.1 (himage ▸ hpos x hx)
  exact ⟨i, Finset.mem_Icc.1 hi, BitVec.eq_of_toNat_eq h⟩

/-- `log` holds the exponents; what is written for 0 is written again for 255. -/
theorem logTable_iterate {i : ℕ} (hi : 1 ≤ i ∧ i ≤ 255) : logTable (times3^[i] 1) = i := by
  have hrange : List.range 256 = 0 :: List.range' 1 255 := by
    rw [List.range_eq_range', List.range'_succ]
  have hnodup : ((List.range' 1 255).map fun i => powTable.getD i 0).Nodup := by
    refine List.Nodup.map_on (fun j hj k hk h => ?_) List.nodup_range'
    rw [List.mem_range'_1] at hj hk
    rw [powTable_getD (by omega), powTable_getD (by omega)] at h
    exact iterate_times3_inj (by omega) (by omega) h
  rw [logTable, hrange, filled_cons, ← powTable_getD (by omega)]
  exact filled_place hnodup _ i (List.mem_range'_1.2 (by omega))

/-! ## The generated tables are the others -/

/-- The powers of 3 from the last to the first are the inverses of those from the first to the
    last. -/
theorem map_affine_reverse : powTable.reverse.map affine = powTable.map sbox := by decide +kernel

theorem fSb_eq (x : Byte) : FSb x = sbox x := by
  by_cases hx : x = 0
  · subst hx
    rfl
  · obtain ⟨i, hi, rfl⟩ := exists_iterate_times3 hx
    have hlen : powTable.length = 256 := List.length_iterate _ _ _
    have hat := congrArg (fun l => l.getD i 0) map_affine_reverse
    simp only [List.getD_eq_getElem?_getD, List.getElem?_map] at hat
    rw [List.getElem?_reverse (by omega), hlen, List.getElem?_eq_getElem (by omega),
      List.getElem?_eq_getElem (by omega)] at hat
    rw [FSb, if_neg hx, logTable_iterate hi, ← powTable_getD (by omega),
      List.getD_eq_getElem _ _ (by omega), List.getD_eq_getElem _ _ (by omega)]
    simpa using hat

theorem rSb_eq (x : Byte) : RSb x = invSbox x := by
  have hinj : ∀ {y z : Byte}, FSb y = FSb z → y = z := by
    intro y z h
    rw [fSb_eq, fSb_eq] at h
    rw [← invSbox_sbox y, h, invSbox_sbox]
  have hx : x = FSb (invSbox x) := by rw [fSb_eq, sbox_invSbox]
  have hof : ∀ {i j : ℕ}, i < 256 → j < 256 → BitVec.ofNat 8 i = BitVec.ofNat 8 j → i = j := by
    intro i j hi hj h
    have h := congrArg BitVec.toNat h
    rwa [BitVec.toNat_ofNat, BitVec.toNat_ofNat, Nat.mod_eq_of_lt hi, Nat.mod_eq_of_lt hj] at h
  by_cases h0 : invSbox x = 0
  · have h63 : x = 0x63 := by rw [hx, h0]; rfl
    have hnot : ∀ i ∈ List.range' 1 255, FSb (BitVec.ofNat 8 i) ≠ x := by
      intro i hi he
      rw [List.mem_range'_1] at hi
      rw [hx, h0] at he
      have := @hof i 0 (by omega) (by decide) (hinj he)
      omega
    rw [h0, RSb, filled_of_forall_ne hnot, h63, Function.update_self]
  · have hnodup : ((List.range' 1 255).map fun i => FSb (BitVec.ofNat 8 i)).Nodup := by
      refine List.Nodup.map_on (fun i hi j hj h => ?_) List.nodup_range'
      rw [List.mem_range'_1] at hi hj
      exact hof (by omega) (by omega) (hinj h)
    have hpos : (invSbox x).toNat ≠ 0 := fun h => h0 (BitVec.eq_of_toNat_eq h)
    have hlt := (invSbox x).isLt
    have hof' : BitVec.ofNat 8 (invSbox x).toNat = invSbox x := BitVec.ofNat_toNat _ _
    have h : RSb (FSb (BitVec.ofNat 8 (invSbox x).toNat)) = BitVec.ofNat 8 (invSbox x).toNat :=
      filled_place hnodup _ _ (List.mem_range'_1.2 (by omega))
    rwa [hof', ← hx] at h

/-- A product is a sum of exponents. -/
theorem joylinkMul_eq {c : Byte} {a : ℕ} {f : Byte → Byte} (ha : 1 ≤ a ∧ a ≤ 255)
    (hc : times3^[a] 1 = c) (h0 : f 0 = 0)
    (hrot : (powTable.take 255).rotate a = (powTable.take 255).map f) (x : Byte) :
    joylinkMul c x = f x := by
  by_cases hx : x = 0
  · rw [joylinkMul, if_neg fun h => h.2 hx, hx, h0]
  · obtain ⟨i, hi, rfl⟩ := exists_iterate_times3 hx
    have hlen : powTable.length = 256 := List.length_iterate _ _ _
    have hk : i % 255 < 255 := Nat.mod_lt _ (by decide)
    have hmod : ∀ m, times3^[m % 255] 1 = times3^[m] 1 := by
      intro m
      rw [← minimalPeriod_times3, Function.iterate_mod_minimalPeriod_eq]
    have hpow : ∀ {k}, k < 255 → (powTable.take 255)[k]? = some (times3^[k] 1) := by
      intro k hk
      rw [List.getElem?_take_of_lt hk, List.getElem?_eq_getElem (by omega),
        ← List.getD_eq_getElem _ 0, powTable_getD (by omega)]
    have hat := congrArg (·[i % 255]?) hrot
    simp only [List.getElem?_map] at hat
    rw [hpow hk, List.getElem?_rotate (by simpa [hlen] using hk), List.length_take, hlen,
      show min 255 256 = 255 from rfl, hpow (Nat.mod_lt _ (by decide)), Option.map_some,
      Option.some.injEq, Nat.mod_add_mod, Nat.add_comm, hmod i] at hat
    rw [joylinkMul, if_pos ⟨by rw [← hc]; exact iterate_times3_ne_zero a, hx⟩, ← hc,
      logTable_iterate ha, logTable_iterate hi, powTable_getD (by omega), hat]

/-- The products that the reverse tables are made of. -/
theorem joylinkMul_consts (x : Byte) : joylinkMul 0x0E x = mul14 x ∧ joylinkMul 0x09 x = mul9 x ∧
    joylinkMul 0x0D x = mul13 x ∧ joylinkMul 0x0B x = mul11 x :=
  ⟨joylinkMul_eq (a := 223) (by decide) (by decide +kernel) rfl (by decide +kernel) x,
    joylinkMul_eq (a := 199) (by decide) (by decide +kernel) rfl (by decide +kernel) x,
    joylinkMul_eq (a := 238) (by decide) (by decide +kernel) rfl (by decide +kernel) x,
    joylinkMul_eq (a := 104) (by decide) (by decide +kernel) rfl (by decide +kernel) x⟩

theorem getByte_setWidth (x : Byte) (k : ℕ) : getByte (x.setWidth 32) k = if k = 0 then x else 0 := by
  ext i hi
  split_ifs with hk
  · subst hk
    simp [getByte]
  · simp [getByte]
    intro _
    exact BitVec.getLsbD_of_ge x _ (by omega)

/-- A word that is put together from its bytes. -/
theorem shifted_eq (a b c d : Byte) : a.setWidth 32 ^^^ (b.setWidth 32 <<< 8) ^^^
    (c.setWidth 32 <<< 16) ^^^ (d.setWidth 32 <<< 24) = ofBytes d c b a := by
  have h₁ := fun y => @getByte_shiftLeft y 8 1
  have h₂ := fun y => @getByte_shiftLeft y 16 2
  have h₃ := fun y => @getByte_shiftLeft y 24 3
  apply word_ext
  all_goals
    simp (disch := decide) only [getByte_xor, h₁, h₂, h₃, getByte_setWidth, getByte_ofBytes]
    simp

theorem joylinkRotl8_ofBytes (a b c d : Byte) :
    joylinkRotl8 (ofBytes a b c d) = ofBytes b c d a := by
  have hleft := fun y => @getByte_shiftLeft y 8 1
  have hright := fun y => getByte_ushiftRight y (show 24 = 8 * 3 from rfl)
  have hones : 0xFFFFFFFF#32 = BitVec.allOnes 32 := by decide
  rw [joylinkRotl8, hones, BitVec.and_allOnes]
  apply word_ext
  all_goals
    simp (disch := decide) only [getByte_or, hleft, hright, getByte_ofBytes]
    simp [getByte_of_le, getByte_ofBytes]

theorem byteReverseWord32_ofBytes (a b c d : Byte) :
    byteReverseWord32 (ofBytes a b c d) = ofBytes d c b a := by
  rw [byteReverseWord32_eq]
  simp only [getByte_ofBytes]

/-- The forward tables are those of aes.c, with the bytes in the opposite order. -/
theorem ft_eq (x : Byte) : FT 0 x = byteReverseWord32 (Te 0 x) ∧
    FT 1 x = byteReverseWord32 (Te 1 x) ∧ FT 2 x = byteReverseWord32 (Te 2 x) ∧
    FT 3 x = byteReverseWord32 (Te 3 x) := by
  have h := te_invSbox (sbox x)
  rw [invSbox_sbox] at h
  have h0 : FT 0 x = ofBytes (mul3 (sbox x)) (sbox x) (sbox x) (mul2 (sbox x)) := by
    rw [FT, ← shifted_eq, mul3]
    simp only [fSb_eq, joylinkXtime_eq]
  simp only [FT.eq_2, h0, joylinkRotl8_ofBytes, h, byteReverseWord32_ofBytes, and_self]

/-- So are the reverse tables. -/
theorem rt_eq (x : Byte) : RT 0 x = byteReverseWord32 (Td 0 x) ∧
    RT 1 x = byteReverseWord32 (Td 1 x) ∧ RT 2 x = byteReverseWord32 (Td 2 x) ∧
    RT 3 x = byteReverseWord32 (Td 3 x) := by
  have h := td_sbox (invSbox x)
  rw [sbox_invSbox] at h
  have h0 : RT 0 x = ofBytes (mul11 (invSbox x)) (mul13 (invSbox x)) (mul9 (invSbox x))
      (mul14 (invSbox x)) := by
    rw [RT, ← shifted_eq]
    simp only [rSb_eq, joylinkMul_consts]
  simp only [RT.eq_2, h0, joylinkRotl8_ofBytes, h, byteReverseWord32_ofBytes, and_self]

/-! ## The two implementations agree -/

/-- The bytes of a word in the opposite order. -/
theorem getByte_byteReverseWord32 (x : BitVec 32) :
    getByte (byteReverseWord32 x) 0 = getByte x 3 ∧ getByte (byteReverseWord32 x) 1 = getByte x 2 ∧
      getByte (byteReverseWord32 x) 2 = getByte x 1 ∧
      getByte (byteReverseWord32 x) 3 = getByte x 0 := by
  rw [byteReverseWord32_eq]
  simp only [getByte_ofBytes, and_self]

section
variable (a b c d : BitVec 32)

theorem roundWordLe_ft : roundWordLe FT (byteReverseWord32 a) (byteReverseWord32 b)
    (byteReverseWord32 c) (byteReverseWord32 d) = byteReverseWord32 (roundWord Te a b c d) := by
  simp only [roundWordLe, roundWord, getByte_byteReverseWord32, ft_eq, byteReverseWord32_xor]

theorem roundWordLe_rt : roundWordLe RT (byteReverseWord32 a) (byteReverseWord32 b)
    (byteReverseWord32 c) (byteReverseWord32 d) = byteReverseWord32 (roundWord Td a b c d) := by
  simp only [roundWordLe, roundWord, getByte_byteReverseWord32, rt_eq, byteReverseWord32_xor]

theorem lastWordLe_fSb : lastWordLe FSb (byteReverseWord32 a) (byteReverseWord32 b)
    (byteReverseWord32 c) (byteReverseWord32 d) = byteReverseWord32 (lastWord Te a b c d) := by
  simp only [lastWordLe, shifted_eq, lastWord_eq te4_eq, getByte_byteReverseWord32, fSb_eq,
    byteReverseWord32_ofBytes]

theorem lastWordLe_rSb : lastWordLe RSb (byteReverseWord32 a) (byteReverseWord32 b)
    (byteReverseWord32 c) (byteReverseWord32 d) = byteReverseWord32 (lastWord Td a b c d) := by
  simp only [lastWordLe, shifted_eq, lastWord_eq td4_eq, getByte_byteReverseWord32, rSb_eq,
    byteReverseWord32_ofBytes]

end

/-- The state with the bytes of its words in the opposite order. -/
def AesState.reversed (s : AesState) : AesState := s.map byteReverseWord32

theorem reversed_xor (s t : AesState) : (s.xor t).reversed = s.reversed.xor t.reversed := by
  simp only [AesState.reversed, AesState.map, AesState.xor, byteReverseWord32_xor]

/-- The loops agree when their rounds do. -/
theorem ecbLoop_reversed {round last roundLe lastLe : AesState → AesState}
    (hround : ∀ s : AesState, roundLe s.reversed = (round s).reversed)
    (hlast : ∀ s : AesState, lastLe s.reversed = (last s).reversed) (key : List AesState) (i : ℕ) :
    ∀ (p : ℕ) (s : AesState), ecbLoop roundLe lastLe (key.map AesState.reversed) i p s.reversed =
      (aesLoop round last key (i + 1) p s).reversed := by
  have hkey : ∀ j, (key.map AesState.reversed).getD j default =
      (key.getD j default).reversed := by
    intro j
    rw [show (default : AesState) = AesState.reversed default by decide, List.getD_map]
    rfl
  induction i with
  | zero =>
    intro p s
    rw [ecbLoop, aesLoop, if_pos rfl]
    simp only [hkey, hround, hlast, ← reversed_xor]
  | succ i ih =>
    intro p s
    rw [ecbLoop, aesLoop, if_neg (by omega)]
    simp only [hkey, hround, ← reversed_xor, ih]

/-! ## The schedules agree -/

theorem rcon_eq (i : ℕ) : RCON i = byteReverseWord32 (rcon.getD i 0) := by
  by_cases hi : i < 10
  · interval_cases i <;> decide
  · rw [RCON, List.getD_eq_default _ _ (by rw [List.length_iterate]; omega),
      List.getD_eq_default _ _ (by simpa [rcon] using hi)]
    decide

theorem rotSubLe_eq (x : BitVec 32) :
    rotSubLe (byteReverseWord32 x) = byteReverseWord32 (rotSub x) := by
  simp only [rotSubLe, shifted_eq, rotSub, masked_eq te4_eq, getByte_byteReverseWord32, fSb_eq,
    byteReverseWord32_ofBytes]

theorem subOnlyLe_eq (x : BitVec 32) :
    subOnlyLe (byteReverseWord32 x) = byteReverseWord32 (subOnly x) := by
  rw [subOnlyLe, lastWordLe_fSb]
  rfl

/-- The first word of a turn. -/
theorem firstWord_eq (a b c : BitVec 32) : byteReverseWord32 a ^^^ byteReverseWord32 b ^^^
    byteReverseWord32 c = byteReverseWord32 (a ^^^ c ^^^ b) := by
  rw [byteReverseWord32_xor, byteReverseWord32_xor]
  ac_rfl

section
variable (key : List (BitVec 32))

theorem getD_drop_reversed (k j : ℕ) : ((key.map byteReverseWord32).drop k).getD j 0 =
    byteReverseWord32 ((key.drop k).getD j 0) := by
  rw [← List.map_drop]
  exact List.getD_map (l := key.drop k) (d := (0 : BitVec 32)) (f := byteReverseWord32)

theorem expand16Le_eq (i : ℕ) : expand16Le (key.map byteReverseWord32) i =
    (expand16 key i).map byteReverseWord32 := by
  simp only [expand16Le, expand16, getD_drop_reversed, rcon_eq, rotSubLe_eq, firstWord_eq]
  simp only [← byteReverseWord32_xor, List.map_append, List.map_cons, List.map_nil]

/-- The last turn writes two words more than that of aes.c. -/
theorem expand24Le_eq (i : ℕ) : ∃ more, expand24Le (key.map byteReverseWord32) i =
    (expand24 key i).map byteReverseWord32 ++ more ∧ (i ≠ 7 → more = []) := by
  simp only [expand24Le, expand24, getD_drop_reversed, rcon_eq, rotSubLe_eq, firstWord_eq]
  simp only [← byteReverseWord32_xor]
  split_ifs with hi
  · exact ⟨[_, _], by
      simp only [List.map_append, List.map_cons, List.map_nil, List.append_assoc, List.cons_append,
        List.nil_append]
      rfl, fun h => absurd hi (by omega)⟩
  · exact ⟨[], by simp, fun _ => rfl⟩

/-- The last turn writes four words more than that of aes.c. -/
theorem expand32Le_eq (i : ℕ) : ∃ more, expand32Le (key.map byteReverseWord32) i =
    (expand32 key i).map byteReverseWord32 ++ more ∧ (i ≠ 6 → more = []) := by
  simp only [expand32Le, expand32, getD_drop_reversed, rcon_eq, rotSubLe_eq, firstWord_eq]
  simp only [← byteReverseWord32_xor, subOnlyLe_eq]
  split_ifs with hi
  · exact ⟨[_, _, _, _], by
      simp only [List.map_append, List.map_cons, List.map_nil, List.append_assoc, List.cons_append,
        List.nil_append]
      rfl, fun h => absurd hi (by omega)⟩
  · exact ⟨[], by simp, fun _ => rfl⟩

end

/-- Loops whose turns agree, but for what the last one writes more. -/
theorem foldl_expand {turn turnLe : List (BitVec 32) → ℕ → List (BitVec 32)} {n : ℕ}
    (h : ∀ key i, ∃ more, turnLe (key.map byteReverseWord32) i =
      (turn key i).map byteReverseWord32 ++ more ∧ (i ≠ n → more = [])) (key : List (BitVec 32)) :
    ∃ more, (List.range (n + 1)).foldl turnLe (key.map byteReverseWord32) =
      ((List.range (n + 1)).foldl turn key).map byteReverseWord32 ++ more := by
  have hbefore : ∀ m ≤ n, (List.range m).foldl turnLe (key.map byteReverseWord32) =
      ((List.range m).foldl turn key).map byteReverseWord32 := by
    intro m
    induction m with
    | zero => intro _; rfl
    | succ m ih =>
      intro hm
      obtain ⟨more, hmore, hnil⟩ := h ((List.range m).foldl turn key) m
      rw [hnil (by omega), List.append_nil] at hmore
      rw [List.range_succ, List.foldl_append, List.foldl_append, ih (by omega)]
      exact hmore
  obtain ⟨more, hmore, -⟩ := h ((List.range n).foldl turn key) n
  rw [List.range_succ, List.foldl_append, List.foldl_append, hbefore n le_rfl]
  exact ⟨more, hmore⟩

/-- The length of what a loop of turns writes. -/
theorem length_foldl_expand {turn : List (BitVec 32) → ℕ → List (BitVec 32)} {n k last : ℕ}
    (h : ∀ key i, (turn key i).length = key.length + if i = n then last else k)
    (key : List (BitVec 32)) :
    ((List.range (n + 1)).foldl turn key).length = key.length + k * n + last := by
  have hbefore : ∀ m ≤ n, ((List.range m).foldl turn key).length = key.length + k * m := by
    intro m
    induction m with
    | zero => intro _; rfl
    | succ m ih =>
      intro hm
      rw [List.range_succ, List.foldl_append]
      change (turn _ m).length = _
      rw [h, ih (by omega), if_neg (by omega), Nat.mul_succ, Nat.add_assoc]
  rw [List.range_succ, List.foldl_append]
  change (turn _ n).length = _
  rw [h, hbefore n le_rfl, if_pos rfl]

/-- The schedule fills the words that the rounds read. -/
theorem length_expandKey {userKey : List Byte}
    (h : userKey.length = 16 ∨ userKey.length = 24 ∨ userKey.length = 32) :
    (expandKey userKey).length = 4 * (userKey.length / 4 + 6 + 1) := by
  have hwords : (keyWords userKey).length = userKey.length / 4 := by simp [keyWords]
  have h16 : ∀ key i, (expand16 key i).length = key.length + if i = 9 then 4 else 4 := by
    intro key i
    rw [ite_self]
    exact List.length_append
  have h24 : ∀ key i, (expand24 key i).length = key.length + if i = 7 then 4 else 6 := by
    intro key i
    unfold expand24
    dsimp only
    split_ifs
    all_goals first | exact List.length_append | omega
  have h32 : ∀ key i, (expand32 key i).length = key.length + if i = 6 then 4 else 8 := by
    intro key i
    unfold expand32
    dsimp only
    split_ifs
    all_goals first | exact List.length_append | omega
  rcases h with h | h | h
  · rw [expandKey, if_pos h, length_foldl_expand h16, hwords, h]
  · rw [expandKey, if_neg (by omega), if_pos h, length_foldl_expand h24, hwords, h]
  · rw [expandKey, if_neg (by omega), if_neg (by omega), length_foldl_expand h32, hwords, h]

theorem byteReverseWord32_byteReverseWord32 (x : BitVec 32) :
    byteReverseWord32 (byteReverseWord32 x) = x := by
  rw [byteReverseWord32_eq]
  simp only [getByte_byteReverseWord32, ofBytes_getByte]

theorem roundKeys_reversed {rounds : ℕ} {key : List (BitVec 32)}
    (h : key.length = 4 * (rounds + 1)) (more : List (BitVec 32)) :
    roundKeys rounds (key.map byteReverseWord32 ++ more) =
      (roundKeys rounds key).map AesState.reversed := by
  have hget : ∀ j < 4 * (rounds + 1), (key.map byteReverseWord32 ++ more).getD j 0 =
      byteReverseWord32 (key.getD j 0) := by
    intro j hj
    rw [List.getD_append _ _ _ _ (by simpa [h] using hj)]
    exact List.getD_map (l := key) (d := (0 : BitVec 32)) (f := byteReverseWord32)
  rw [roundKeys, roundKeys, List.map_map]
  refine List.map_congr_left fun i hi => ?_
  rw [List.mem_range] at hi
  rw [hget _ (by omega), hget _ (by omega), hget _ (by omega), hget _ (by omega)]
  rfl

/-- **The encryption schedules agree.** -/
theorem joylinkEnc2SetkeyEnc_eq (key : List Byte) : joylinkEnc2SetkeyEnc key =
    if key.length = 16 ∨ key.length = 24 ∨ key.length = 32 then
      some ⟨key.length / 4 + 6, (schedule key .encryption).map AesState.reversed⟩ else none := by
  have hwords : ((List.range (key.length / 4)).map fun i => get32 key (4 * i)) =
      (keyWords key).map byteReverseWord32 := by
    rw [keyWords, List.map_map]
    exact List.map_congr_left fun i _ => (byteReverseWord32_byteReverseWord32 _).symm
  rw [joylinkEnc2SetkeyEnc, hwords]
  by_cases h16 : key.length = 16
  · have hturn : ∀ k i, ∃ more, expand16Le (k.map byteReverseWord32) i =
        (expand16 k i).map byteReverseWord32 ++ more ∧ (i ≠ 9 → more = []) := fun k i =>
      ⟨[], by rw [expand16Le_eq, List.append_nil], fun _ => rfl⟩
    obtain ⟨more, hmore⟩ := foldl_expand hturn (keyWords key)
    have hkey : (List.range 10).foldl expand16 (keyWords key) = expandKey key := by
      rw [expandKey, if_pos h16]
    rw [if_pos h16, if_pos (.inl h16), hmore, hkey, roundKeys_reversed, h16]
    · rw [schedule, h16]
    · rw [length_expandKey (.inl h16), h16]
  · by_cases h24 : key.length = 24
    · obtain ⟨more, hmore⟩ := foldl_expand (n := 7) expand24Le_eq (keyWords key)
      have hkey : (List.range 8).foldl expand24 (keyWords key) = expandKey key := by
        rw [expandKey, if_neg h16, if_pos h24]
      rw [if_neg h16, if_pos h24, if_pos (.inr (.inl h24)), hmore, hkey, roundKeys_reversed, h24]
      · rw [schedule, h24]
      · rw [length_expandKey (.inr (.inl h24)), h24]
    · by_cases h32 : key.length = 32
      · obtain ⟨more, hmore⟩ := foldl_expand (n := 6) expand32Le_eq (keyWords key)
        have hkey : (List.range 7).foldl expand32 (keyWords key) = expandKey key := by
          rw [expandKey, if_neg h16, if_neg h24]
        rw [if_neg h16, if_neg h24, if_pos h32, if_pos (.inr (.inr h32)), hmore, hkey,
          roundKeys_reversed, h32]
        · rw [schedule, h32]
        · rw [length_expandKey (.inr (.inr h32)), h32]
      · rw [if_neg h16, if_neg h24, if_neg h32, if_neg (by tauto)]

theorem invMixWordLe_eq (x : BitVec 32) :
    invMixWordLe (byteReverseWord32 x) = byteReverseWord32 (invMixWord x) := by
  simp only [invMixWordLe, invMixWord, getByte_byteReverseWord32, fSb_eq, rt_eq,
    byteReverseWord32_xor]

theorem reversed_map_invMixWord (s : AesState) :
    s.reversed.map invMixWordLe = (s.map invMixWord).reversed := by
  simp only [AesState.reversed, AesState.map, invMixWordLe_eq]

/-- **The decryption schedules agree.** -/
theorem joylinkEnc2SetkeyDec_eq (key : List Byte) : joylinkEnc2SetkeyDec key =
    if key.length = 16 ∨ key.length = 24 ∨ key.length = 32 then
      some ⟨key.length / 4 + 6, (schedule key .decryption).map AesState.reversed⟩ else none := by
  rw [joylinkEnc2SetkeyDec, joylinkEnc2SetkeyEnc_eq]
  split_ifs with h
  · obtain ⟨first, mid, last, hkeys, hmid⟩ : ∃ first mid last,
        schedule key .encryption = first :: mid ++ [last] ∧
          mid.length + 1 = key.length / 4 + 6 := by
      have hlen : (schedule key .encryption).length = key.length / 4 + 5 + 2 := by
        rw [schedule, length_roundKeys]
      obtain ⟨first, rest, hrest⟩ := List.exists_cons_of_length_eq_add_one hlen
      have hne : rest ≠ [] := List.ne_nil_of_length_pos (by rw [hrest] at hlen; simp at hlen; omega)
      refine ⟨first, rest.dropLast, rest.getLast hne, ?_, ?_⟩
      · rw [hrest, List.cons_append, List.dropLast_append_getLast]
      · rw [hrest, List.length_cons] at hlen
        rw [List.length_dropLast]
        omega
    have hdec : schedule key .decryption =
        last :: mid.reverse.map (AesState.map invMixWord) ++ [first] := by
      simp only [schedule] at hkeys ⊢
      rw [hkeys, ← hmid, invertKeys_eq]
    have hmids : ((List.range mid.length).map fun t =>
        (((first :: mid ++ [last]).map AesState.reversed).getD (mid.length - t) default).map
          invMixWordLe) = (mid.reverse.map (AesState.map invMixWord)).map AesState.reversed := by
      refine List.ext_getElem (by simp) fun t ht _ => ?_
      have ht : t < mid.length := by simpa using ht
      rw [List.getElem_map, List.getElem_map, List.getElem_map, List.getElem_range,
        List.getElem_reverse, ← reversed_map_invMixWord, List.getD_eq_getElem _ _ (by simp; omega),
        List.getElem_map]
      congr 2
      rw [List.getElem_append_left (by simp), List.getElem_cons, dif_neg (by omega)]
      congr 1; omega
    rw [Option.map_some, hkeys, hdec, ← hmid, Nat.add_sub_cancel, hmids]
    simp
  · rfl

/-! ## Blocks -/

/-- A block as the words of joylinkAES.c. -/
theorem load_reversed (b : List Byte) :
    (⟨get32 b 0, get32 b 4, get32 b 8, get32 b 12⟩ : AesState) = (AesState.load b).reversed := by
  simp only [AesState.load, AesState.reversed, AesState.map, byteReverseWord32_byteReverseWord32]

theorem store_reversed (s : AesState) : le32 s.reversed.s0 ++ le32 s.reversed.s1 ++
    le32 s.reversed.s2 ++ le32 s.reversed.s3 = s.store := rfl

theorem getD_map_reversed (keys : List AesState) (i : ℕ) :
    (keys.map AesState.reversed).getD i default = (keys.getD i default).reversed := by
  rw [show (default : AesState) = AesState.reversed default by decide, List.getD_map]
  rfl

section
variable {word wordLe : BitVec 32 → BitVec 32 → BitVec 32 → BitVec 32 → BitVec 32}
  (h : ∀ a b c d, wordLe (byteReverseWord32 a) (byteReverseWord32 b) (byteReverseWord32 c)
    (byteReverseWord32 d) = byteReverseWord32 (word a b c d))
include h

theorem encShift_reversed (s : AesState) :
    encShift wordLe s.reversed = (encShift word s).reversed := by
  simp only [encShift, AesState.reversed, AesState.map, h]

theorem decShift_reversed (s : AesState) :
    decShift wordLe s.reversed = (decShift word s).reversed := by
  simp only [decShift, AesState.reversed, AesState.map, h]

end

section
variable (nr : ℕ) (keys : List AesState) (block : List Byte)

theorem cryptEcb_encrypt :
    joylinkEnc2CryptEcb ⟨nr, keys.map AesState.reversed⟩ .encrypt block =
      (aesLoop (encShift (roundWord Te)) (encShift (lastWord Te)) keys (nr / 2 - 1 + 1) 0
        ((AesState.load block).xor (keys.getD 0 default))).store := by
  rw [← store_reversed, ← ecbLoop_reversed (encShift_reversed roundWordLe_ft)
    (encShift_reversed lastWordLe_fSb), reversed_xor, ← load_reversed, ← getD_map_reversed]
  rfl

theorem cryptEcb_decrypt :
    joylinkEnc2CryptEcb ⟨nr, keys.map AesState.reversed⟩ .decrypt block =
      (aesLoop (decShift (roundWord Td)) (decShift (lastWord Td)) keys (nr / 2 - 1 + 1) 0
        ((AesState.load block).xor (keys.getD 0 default))).store := by
  rw [← store_reversed, ← ecbLoop_reversed (decShift_reversed roundWordLe_rt)
    (decShift_reversed lastWordLe_rSb), reversed_xor, ← load_reversed, ← getD_map_reversed]
  rfl

end

section
variable {key iv : List Byte} {aes : Aes} {ctx : JoylinkEnc2Context}

theorem joylinkEnc2CryptEcb_encrypt (hctx : joylinkEnc2SetkeyEnc key = some ctx)
    (haes : aesSetKey key iv .encryption = some aes) (block : List Byte) :
    joylinkEnc2CryptEcb ctx .encrypt block = aesEncrypt aes block := by
  obtain ⟨hrounds, -, hkey⟩ := aesSetKey_some haes
  have heven : aes.rounds / 2 - 1 + 1 = aes.rounds / 2 := Nat.sub_add_cancel aes.pos
  rw [joylinkEnc2SetkeyEnc_eq, if_pos (length_of_aesSetKey haes),
    Option.some.injEq] at hctx
  rw [← hctx, cryptEcb_encrypt, ← hkey, ← hrounds, heven]
  rfl

theorem joylinkEnc2CryptEcb_decrypt (hctx : joylinkEnc2SetkeyDec key = some ctx)
    (haes : aesSetKey key iv .decryption = some aes) (block : List Byte) :
    joylinkEnc2CryptEcb ctx .decrypt block = aesDecrypt aes block := by
  obtain ⟨hrounds, -, hkey⟩ := aesSetKey_some haes
  have heven : aes.rounds / 2 - 1 + 1 = aes.rounds / 2 := Nat.sub_add_cancel aes.pos
  rw [joylinkEnc2SetkeyDec_eq, if_pos (length_of_aesSetKey haes),
    Option.some.injEq] at hctx
  rw [← hctx, cryptEcb_decrypt, ← hkey, ← hrounds, heven]
  rfl

end

/-- **The two implementations agree**: what joylinkAES.c makes of a block, aes.c makes of it with
    the same key, in both directions; and they take the same keys. -/
theorem joylink_aes_agree (key iv block : List Byte) :
    (joylinkEnc2SetkeyEnc key).map (joylinkEnc2CryptEcb · .encrypt block) =
      (aesSetKey key iv .encryption).map (aesEncrypt · block) ∧
    (joylinkEnc2SetkeyDec key).map (joylinkEnc2CryptEcb · .decrypt block) =
      (aesSetKey key iv .decryption).map (aesDecrypt · block) := by
  by_cases h : key.length = 16 ∨ key.length = 24 ∨ key.length = 32
  · obtain ⟨enc, henc⟩ := exists_aesSetKey h iv .encryption
    obtain ⟨dec, hdec⟩ := exists_aesSetKey h iv .decryption
    obtain ⟨ctx, hctx⟩ : ∃ ctx, joylinkEnc2SetkeyEnc key = some ctx :=
      ⟨_, (joylinkEnc2SetkeyEnc_eq key).trans (if_pos h)⟩
    obtain ⟨ctx', hctx'⟩ : ∃ ctx, joylinkEnc2SetkeyDec key = some ctx :=
      ⟨_, (joylinkEnc2SetkeyDec_eq key).trans (if_pos h)⟩
    rw [henc, hdec, hctx, hctx']
    exact ⟨congrArg some (joylinkEnc2CryptEcb_encrypt hctx henc block),
      congrArg some (joylinkEnc2CryptEcb_decrypt hctx' hdec block)⟩
  · rw [joylinkEnc2SetkeyEnc_eq, joylinkEnc2SetkeyDec_eq, aesSetKey, aesSetKey, if_neg h, if_neg h,
      dif_neg h, dif_neg h]
    exact ⟨rfl, rfl⟩

/-! ## Messages agree -/

theorem xorbuf_comm (a b : List Byte) : xorbuf a b = xorbuf b a := by
  rw [xorbuf, xorbuf, List.zipWith_comm]
  simp only [BitVec.xor_comm]

section
variable {n : ℕ} {key iv : List Byte}

/-- The loop that checks a padding, on a padding. -/
theorem unpadLoop_eq {mem : Block Byte n} {data len : ℕ} {padding : Byte} (k : ℕ) : ∀ i,
    (∀ j, i ≤ j → j < i + k → mem.read ((data : ℤ) + len - 1 - j) = some padding) →
      unpadLoop mem data len padding k i = some true := by
  induction k with
  | zero => intro i _; rfl
  | succ k ih =>
    intro i h
    rw [unpadLoop, h i le_rfl (by omega)]
    simp only [Option.bind_eq_bind, Option.bind_some, ne_eq, not_true_eq_false, if_false]
    exact ih (i + 1) fun j hj hk => h j (by omega) (by omega)

theorem joylinkUnPadding_padded {mem : Block Byte n} {p : ℕ} {l : List Byte}
    (h : mem.slice p (16 * (l.length / 16 + 1)) = some (padded l)) :
    joylinkUnPadding mem p (16 * (l.length / 16 + 1)) true = some (l.length : ℤ) := by
  have hbyte : (BitVec.ofNat 8 (16 - l.length % 16)).toNat = 16 - l.length % 16 := by
    rw [BitVec.toNat_ofNat]
    omega
  have hread : ∀ j : ℕ, j < 16 - l.length % 16 →
      mem.read ((p : ℤ) + (16 * (l.length / 16 + 1) : ℕ) - 1 - j) =
        some (BitVec.ofNat 8 (16 - l.length % 16)) := by
    intro j hj
    obtain ⟨hfit, hcells⟩ := Block.slice_eq_some.1 h
    have hk : l.length ≤ 16 * (l.length / 16 + 1) - 1 - j := by omega
    have hat := congrArg (·[16 * (l.length / 16 + 1) - 1 - j]?) hcells
    rw [List.getElem?_take_of_lt (by omega), List.getElem?_drop, padded,
      List.getElem?_append_right hk, List.getElem?_replicate, if_pos (by omega)] at hat
    rw [show (p : ℤ) + (16 * (l.length / 16 + 1) : ℕ) - 1 - j =
      ((p + (16 * (l.length / 16 + 1) - 1 - j) : ℕ) : ℤ) by omega, Block.read_natCast]
    exact hat
  have hlast := hread 0 (by omega)
  have hmod : ¬ 16 * (l.length / 16 + 1) % 16 ≠ 0 := by omega
  rw [Nat.cast_zero, Int.sub_zero] at hlast
  rw [joylinkUnPadding, if_neg hmod, if_pos rfl, hlast]
  simp only [Option.bind_eq_bind, Option.bind_some, hbyte]
  rw [unpadLoop_eq _ 0 fun j _ hj => hread j (by omega)]
  simp only [Option.bind_some, if_true]
  refine congrArg some ?_
  push_cast
  omega

/-- The padding of a message, and the message behind it. -/
theorem joylinkPadding_eq {mem : Block Byte n} {p : ℕ} {l : List Byte}
    (hl : mem.slice p l.length = some l) {maxLen : ℕ} (hmax : 16 * (l.length / 16 + 1) ≤ maxLen) :
    joylinkPadding mem p l.length maxLen true =
      (mem.write p (padded l)).map fun mem => (((16 * (l.length / 16 + 1) : ℕ) : ℤ), mem) := by
  have hpad : (if l.length % 16 ≠ 0 then 16 - l.length % 16 else 16) = 16 - l.length % 16 := by
    split_ifs <;> omega
  have hwrite := Block.write_bind_write mem l
    (List.replicate (16 - l.length % 16) (BitVec.ofNat 8 (16 - l.length % 16))) (rfl : p + _ = _)
  obtain ⟨hfit, -⟩ := Block.slice_eq_some.1 hl
  rw [Block.write_of_le _ hfit, Option.bind_some, Block.put_of_slice hl] at hwrite
  simp only [joylinkPadding, if_pos, hpad]
  rw [if_neg (by omega), hwrite, ← padded,
    show l.length + (16 - l.length % 16) = 16 * (l.length / 16 + 1) by omega]

variable {enc dec : Aes}

/-- **`joylinkEnc2Crypt` encrypts** as `device_aes_encrypt` does, within the length it is given. -/
theorem joylinkEnc2Crypt_encrypt (henc : aesSetKey key iv .encryption = some enc)
    (hiv : iv.length = 16) {mem : Block Byte n} {p : ℕ} {l : List Byte}
    (hl : mem.slice p l.length = some l) {maxLen : ℕ} (hmax : 16 * (l.length / 16 + 1) ≤ maxLen) :
    joylinkEnc2Crypt key iv mem p l.length maxLen true .encrypt =
      (mem.write p (cipherText enc l)).map fun mem =>
        ((0 : ℤ), ((16 * (l.length / 16 + 1) : ℕ) : ℤ), mem) := by
  have hreg : enc.reg = iv := (aesSetKey_some henc).2.1
  obtain ⟨ctx, hctx⟩ : ∃ ctx, joylinkEnc2SetkeyEnc key = some ctx :=
    ⟨_, (joylinkEnc2SetkeyEnc_eq key).trans
      (if_pos (length_of_aesSetKey henc))⟩
  have hturn : joylinkEnc2Turn ctx .encrypt = encTurn enc := by
    funext reg input
    rw [joylinkEnc2Turn, encTurn, joylinkEnc2CryptEcb_encrypt hctx henc, xorbuf_comm]
  rw [joylinkEnc2Crypt, joylinkPadding_eq hl hmax, hctx]
  rcases hmem : mem.write p (padded l) with _ | mem'
  · rw [Block.write_eq_none (by rw [length_padded, length_cipherText]) hmem]
    rfl
  · obtain ⟨hfit, rfl⟩ := Block.write_eq_some.1 hmem
    have hslice := Block.slice_put mem hfit
    rw [length_padded] at hslice
    have hcbc := aesCbcEncrypt_eq (by rw [hreg, hiv]) hslice
    rw [aesCbcEncrypt, hreg, ← cipherText, Block.put_write_same _ _
      (by rw [length_padded, length_cipherText])] at hcbc
    simp only [Option.map_some, Option.bind_eq_bind, Option.bind_some, Int.toNat_natCast,
      joylinkEnc2CryptCbc, hturn, hcbc]
    rw [if_neg (by omega), if_neg (by omega), if_neg (by omega)]
    cases mem.write p (cipherText enc l) <;> rfl

/-- **`joylinkEnc2Crypt` decrypts** what `device_aes_encrypt` writes. -/
theorem joylinkEnc2Crypt_decrypt (henc : aesSetKey key iv .encryption = some enc)
    (hiv : iv.length = 16) {mem : Block Byte n} {p : ℕ} {l : List Byte}
    (hc : mem.slice p (16 * (l.length / 16 + 1)) = some (cipherText enc l)) (maxLen : ℕ) :
    joylinkEnc2Crypt key iv mem p (16 * (l.length / 16 + 1)) maxLen true .decrypt =
      (mem.write p (padded l)).map fun mem => ((0 : ℤ), (l.length : ℤ), mem) := by
  obtain ⟨dec, hdec⟩ := exists_aesSetKey (length_of_aesSetKey henc) iv .decryption
  have hreg : dec.reg = iv := (aesSetKey_some hdec).2.1
  obtain ⟨ctx, hctx⟩ : ∃ ctx, joylinkEnc2SetkeyDec key = some ctx :=
    ⟨_, (joylinkEnc2SetkeyDec_eq key).trans
      (if_pos (length_of_aesSetKey henc))⟩
  have hturn : joylinkEnc2Turn ctx .decrypt = decTurn dec := by
    funext reg input
    rw [joylinkEnc2Turn, decTurn, joylinkEnc2CryptEcb_decrypt hctx hdec]
  have hfit : p + (padded l).length ≤ n := by
    rw [length_padded]
    exact (Block.slice_eq_some.1 hc).1
  have hcbc := aesCbcDecrypt_eq (by rw [hreg, hiv]) hc
  rw [aesCbcDecrypt, hreg, bytes_decChain_cipherText henc hdec, Block.write_of_le _ hfit] at hcbc
  have hslice := Block.slice_put mem hfit
  rw [length_padded] at hslice
  simp only [joylinkEnc2Crypt, joylinkEnc2CryptCbc, hctx, hturn, hcbc, Option.bind_eq_bind,
    Option.bind_some]
  rw [if_neg (by omega), if_neg (by omega), Block.write_of_le _ hfit]
  simp only [Option.pure_def, Option.bind_some, joylinkUnPadding_padded hslice]
  rw [if_neg (by omega)]
  rfl

/-- Where `joylinkEnc2Crypt` returns 0, it has written the message under the cipher. -/
theorem slice_of_joylinkEnc2Crypt (hiv : iv.length = 16) {l : List Byte} {mem mem' : Block Byte n}
    {p maxLen : ℕ} {len : ℤ} (hl : mem.slice p l.length = some l)
    (h : joylinkEnc2Crypt key iv mem p l.length maxLen true .encrypt = some (0, len, mem')) :
    ∃ enc, aesSetKey key iv .encryption = some enc ∧ len = (16 * (l.length / 16 + 1) : ℕ) ∧
      mem'.slice p (16 * (l.length / 16 + 1)) = some (cipherText enc l) := by
  by_cases hmax : 16 * (l.length / 16 + 1) ≤ maxLen
  · rcases haes : aesSetKey key iv .encryption with _ | enc
    · have hkey : joylinkEnc2SetkeyEnc key = none := by
        rw [joylinkEnc2SetkeyEnc_eq, if_neg]
        intro hkey
        obtain ⟨enc, henc⟩ := exists_aesSetKey hkey iv .encryption
        rw [haes] at henc
        cases henc
      rw [joylinkEnc2Crypt, joylinkPadding_eq hl hmax, hkey] at h
      simp only [Option.bind_eq_bind, Option.bind_eq_some_iff, Option.map_eq_some_iff] at h
      obtain ⟨_, ⟨m, -, rfl⟩, h⟩ := h
      simp only [joylinkEnc2CryptCbc, Int.toNat_natCast] at h
      rw [if_neg (by omega), if_neg (by omega), if_neg (by omega)] at h
      cases h
    · rw [joylinkEnc2Crypt_encrypt haes hiv hl hmax, Option.map_eq_some_iff] at h
      obtain ⟨m, hm, hr⟩ := h
      obtain ⟨-, hr⟩ := Prod.mk.inj hr
      obtain ⟨rfl, rfl⟩ := Prod.mk.inj hr
      obtain ⟨hfit, rfl⟩ := Block.write_eq_some.1 hm
      have hslice := Block.slice_put mem hfit
      rw [length_cipherText] at hslice
      exact ⟨enc, rfl, rfl, hslice⟩
  · have hpad : (if l.length % 16 ≠ 0 then 16 - l.length % 16 else 16) = 16 - l.length % 16 := by
      split_ifs <;> omega
    simp only [joylinkEnc2Crypt, joylinkPadding, if_pos, hpad] at h
    rw [if_pos (by omega)] at h
    cases h

/-- **Each implementation reads what the other writes.**  A message that `device_aes_encrypt` has
    encrypted is decrypted by `joylinkEnc2Crypt`, and the other way round. -/
theorem joylink_enc2_interoperable {l : List Byte} {mem mem' : Block Byte n} {p : ℕ}
    (hiv : iv.length = 16) :
    (∀ {maxOutLen len}, deviceAesEncrypt key iv l mem p maxOutLen = some (len, mem') → len ≠ -1 →
      ∀ maxLen, ∃ mem'', joylinkEnc2Crypt key iv mem' p len.toNat maxLen true .decrypt =
        some (0, (l.length : ℤ), mem'') ∧ mem''.slice p l.length = some l) ∧
    (∀ {maxLen len}, mem.slice p l.length = some l →
      joylinkEnc2Crypt key iv mem p l.length maxLen true .encrypt = some (0, len, mem') →
      ∃ mem'', deviceAesDecrypt key iv mem' p len.toNat p len = some ((l.length : ℤ), mem'') ∧
        mem''.slice p l.length = some l) := by
  constructor
  · intro maxOutLen len h hlen maxLen
    obtain ⟨enc, henc, rfl, hc⟩ := slice_of_deviceAesEncrypt hiv h hlen
    have hfit : p + (padded l).length ≤ n := by
      rw [length_padded]
      exact (Block.slice_eq_some.1 hc).1
    refine ⟨mem'.put p (padded l) hfit, ?_, slice_of_slice_padded (Block.slice_put mem' hfit)⟩
    rw [Int.toNat_natCast, joylinkEnc2Crypt_decrypt henc hiv hc, Block.write_of_le _ hfit]
    rfl
  · intro maxLen len hl h
    obtain ⟨enc, henc, rfl, hc⟩ := slice_of_joylinkEnc2Crypt hiv hl h
    have hfit : p + (padded l).length ≤ n := by
      rw [length_padded]
      exact (Block.slice_eq_some.1 hc).1
    refine ⟨mem'.put p (padded l) hfit, ?_, slice_of_slice_padded (Block.slice_put mem' hfit)⟩
    rw [Int.toNat_natCast, deviceAesDecrypt_cipherText henc hiv l hc le_rfl,
      Block.write_of_le _ hfit]
    rfl

/-- Three bytes, one way and the other. -/
theorem joylink_enc2_interoperable_three :
    (∃ mem mem' : Block Byte 32,
      deviceAesEncrypt (List.replicate 16 7) (List.replicate 16 1) [1, 2, 3] (Block.fill 32 0) 0 32 =
        some (16, mem) ∧
      joylinkEnc2Crypt (List.replicate 16 7) (List.replicate 16 1) mem 0 16 16 true .decrypt =
        some (0, 3, mem') ∧ mem'.slice 0 3 = some [1, 2, 3]) ∧
    ∃ mem mem' : Block Byte 32,
      joylinkEnc2Crypt (List.replicate 16 7) (List.replicate 16 1)
        ((Block.fill 32 0).put 0 [1, 2, 3] (by decide)) 0 3 16 true .encrypt = some (0, 16, mem) ∧
      deviceAesDecrypt (List.replicate 16 7) (List.replicate 16 1) mem 0 16 0 16 = some (3, mem') ∧
      mem'.slice 0 3 = some [1, 2, 3] := by
  constructor
  · have hlen : (deviceAesEncrypt (List.replicate 16 7) (List.replicate 16 1) [1, 2, 3]
        (Block.fill 32 0) 0 32).map Prod.fst = some 16 := by decide +kernel
    obtain ⟨⟨len, mem⟩, h, rfl⟩ := Option.map_eq_some_iff.1 hlen
    obtain ⟨mem', hdec, hmem⟩ := (joylink_enc2_interoperable (by decide)).1 h (by decide) 16
    exact ⟨mem, mem', h, hdec, hmem⟩
  · have hlen : (joylinkEnc2Crypt (List.replicate 16 7) (List.replicate 16 1)
        ((Block.fill 32 0).put 0 [1, 2, 3] (by decide) : Block Byte 32) 0 3 16 true .encrypt).map
          (fun r => (r.1, r.2.1)) = some (0, 16) := by decide +kernel
    obtain ⟨⟨ret, len, mem⟩, h, hvals⟩ := Option.map_eq_some_iff.1 hlen
    obtain ⟨rfl, rfl⟩ := Prod.mk.inj hvals
    obtain ⟨mem', hdec, hmem⟩ := (joylink_enc2_interoperable (by decide)).2
      (Block.slice_put_zero (Block.fill 32 0) (by decide)) h
    exact ⟨mem, mem', h, hdec, hmem⟩

end

end MxchipSpp
