/-
  CRC-16, computed five times (common.c, mico_tcl_ota.c, geniot.c).

  `crc_cal` has three bodies, of which the build takes the one with the two
  tables of bytes (`crcCal`); `crc_calculate` of the gateway and `iotCrc` of
  the messages work bit by bit.  They agree on all data (`crcs_agree`): in the
  tables is what one byte leaves in the register, and the register is linear.
-/
import MxchipSpp.Gateway
import MxchipSpp.Lib.Crc

namespace MxchipSpp

/-! ## The other bodies -/

/-- `CRC16_CCITT_TABLE` -/
def crc16CcittTable : List (BitVec 16) :=
  [0x0000, 0x1189, 0x2312, 0x329b, 0x4624, 0x57ad, 0x6536, 0x74bf,
   0x8c48, 0x9dc1, 0xaf5a, 0xbed3, 0xca6c, 0xdbe5, 0xe97e, 0xf8f7,
   0x1081, 0x0108, 0x3393, 0x221a, 0x56a5, 0x472c, 0x75b7, 0x643e,
   0x9cc9, 0x8d40, 0xbfdb, 0xae52, 0xdaed, 0xcb64, 0xf9ff, 0xe876,
   0x2102, 0x308b, 0x0210, 0x1399, 0x6726, 0x76af, 0x4434, 0x55bd,
   0xad4a, 0xbcc3, 0x8e58, 0x9fd1, 0xeb6e, 0xfae7, 0xc87c, 0xd9f5,
   0x3183, 0x200a, 0x1291, 0x0318, 0x77a7, 0x662e, 0x54b5, 0x453c,
   0xbdcb, 0xac42, 0x9ed9, 0x8f50, 0xfbef, 0xea66, 0xd8fd, 0xc974,
   0x4204, 0x538d, 0x6116, 0x709f, 0x0420, 0x15a9, 0x2732, 0x36bb,
   0xce4c, 0xdfc5, 0xed5e, 0xfcd7, 0x8868, 0x99e1, 0xab7a, 0xbaf3,
   0x5285, 0x430c, 0x7197, 0x601e, 0x14a1, 0x0528, 0x37b3, 0x263a,
   0xdecd, 0xcf44, 0xfddf, 0xec56, 0x98e9, 0x8960, 0xbbfb, 0xaa72,
   0x6306, 0x728f, 0x4014, 0x519d, 0x2522, 0x34ab, 0x0630, 0x17b9,
   0xef4e, 0xfec7, 0xcc5c, 0xddd5, 0xa96a, 0xb8e3, 0x8a78, 0x9bf1,
   0x7387, 0x620e, 0x5095, 0x411c, 0x35a3, 0x242a, 0x16b1, 0x0738,
   0xffcf, 0xee46, 0xdcdd, 0xcd54, 0xb9eb, 0xa862, 0x9af9, 0x8b70,
   0x8408, 0x9581, 0xa71a, 0xb693, 0xc22c, 0xd3a5, 0xe13e, 0xf0b7,
   0x0840, 0x19c9, 0x2b52, 0x3adb, 0x4e64, 0x5fed, 0x6d76, 0x7cff,
   0x9489, 0x8500, 0xb79b, 0xa612, 0xd2ad, 0xc324, 0xf1bf, 0xe036,
   0x18c1, 0x0948, 0x3bd3, 0x2a5a, 0x5ee5, 0x4f6c, 0x7df7, 0x6c7e,
   0xa50a, 0xb483, 0x8618, 0x9791, 0xe32e, 0xf2a7, 0xc03c, 0xd1b5,
   0x2942, 0x38cb, 0x0a50, 0x1bd9, 0x6f66, 0x7eef, 0x4c74, 0x5dfd,
   0xb58b, 0xa402, 0x9699, 0x8710, 0xf3af, 0xe226, 0xd0bd, 0xc134,
   0x39c3, 0x284a, 0x1ad1, 0x0b58, 0x7fe7, 0x6e6e, 0x5cf5, 0x4d7c,
   0xc60c, 0xd785, 0xe51e, 0xf497, 0x8028, 0x91a1, 0xa33a, 0xb2b3,
   0x4a44, 0x5bcd, 0x6956, 0x78df, 0x0c60, 0x1de9, 0x2f72, 0x3efb,
   0xd68d, 0xc704, 0xf59f, 0xe416, 0x90a9, 0x8120, 0xb3bb, 0xa232,
   0x5ac5, 0x4b4c, 0x79d7, 0x685e, 0x1ce1, 0x0d68, 0x3ff3, 0x2e7a,
   0xe70e, 0xf687, 0xc41c, 0xd595, 0xa12a, 0xb0a3, 0x8238, 0x93b1,
   0x6b46, 0x7acf, 0x4854, 0x59dd, 0x2d62, 0x3ceb, 0x0e70, 0x1ff9,
   0xf78f, 0xe606, 0xd49d, 0xc514, 0xb1ab, 0xa022, 0x92b9, 0x8330,
   0x7bc7, 0x6a4e, 0x58d5, 0x495c, 0x3de3, 0x2c6a, 0x1ef1, 0x0f78]

/-- One turn of the loop of `crc_cal` with `CRCLIST16`. -/
def crcStep16 (crc : BitVec 16) (data : Byte) : BitVec 16 :=
  let c := crc.setWidth 8
  (crc >>> 8) ^^^ crc16CcittTable.getD (data ^^^ c).toNat 0

/-- `crc_cal` with `CRCLIST16` -/
def crcCalList16 (data : List Byte) : BitVec 16 := ~~~(data.foldl crcStep16 0xFFFF)

/-- `crc_cal` without `CRCLIST` -/
def crcCalNoList (data : List Byte) : BitVec 16 :=
  ~~~(data.foldl (fun crc x => crc16Ccitt x crc) 0xFFFF)

/-- `iotCrc` -/
def iotCrc (address : List Byte) : BitVec 16 :=
  let step (crc : BitVec 16) : BitVec 16 :=
    if crc &&& 0x01 ≠ 0 then (crc >>> 1) ^^^ 0x8408 else crc >>> 1
  ~~~(address.foldl (fun crc x => (List.range 8).foldl (fun crc _ => step crc) (crc ^^^ x.setWidth 16))
    0xFFFF)

/-! ## One byte -/

/-- The polynomial of all five. -/
def ccitt16 : BitVec 16 := 0x8408

theorem crc16Ccitt_eq (x : Byte) (crc : BitVec 16) : crc16Ccitt x crc = Crc.byte ccitt16 crc x := rfl

/-- The tables hold what one byte leaves. -/
theorem table16_eq (i : Byte) : crc16CcittTable.getD i.toNat 0 = crc16Ccitt i 0 := by
  revert i; decide +kernel

theorem crcStep16_eq (crc : BitVec 16) (x : Byte) : crcStep16 crc x = crc16Ccitt x crc := by
  rw [crcStep16, table16_eq, crc16Ccitt_eq, crc16Ccitt_eq, Crc.byte_eq _ crc, BitVec.xor_comm x]

/-- The two bytes of the register, as `crc_cal` keeps them. -/
def register (crc : Byte × Byte) : BitVec 16 := crc.1 ++ crc.2

theorem crcStep_eq (crc : Byte × Byte) (x : Byte) :
    register (crcStep crc x) = crc16Ccitt x (register crc) := by
  obtain ⟨h, l⟩ := crc
  have hlow : (register (h, l)).setWidth 8 = l := by
    refine BitVec.eq_of_getLsbD_eq fun i hi => ?_
    rw [BitVec.getLsbD_setWidth, decide_eq_true hi, Bool.true_and]
    change (h ++ l : BitVec (8 + 8)).getLsbD i = l.getLsbD i
    rw [BitVec.getLsbD_append, if_pos (by simpa using hi)]
  have hhigh : register (h, l) >>> 8 = (0 : Byte) ++ h := by
    refine BitVec.eq_of_getLsbD_eq fun i hi => ?_
    rw [BitVec.getLsbD_ushiftRight]
    change (h ++ l : BitVec (8 + 8)).getLsbD (8 + i) = ((0 : Byte) ++ h : BitVec (8 + 8)).getLsbD i
    rw [BitVec.getLsbD_append, BitVec.getLsbD_append, if_neg (by omega), Nat.add_sub_cancel_left]
    split_ifs with h8
    · rfl
    · rw [BitVec.getLsbD_of_ge h i (by omega)]; simp
  have hentry := table_eq_crc16Ccitt (l ^^^ x)
  rw [crc16Ccitt_eq, Crc.byte_eq, hlow, hhigh, ← crc16Ccitt_eq, ← hentry, BitVec.xor_append,
    show (0 : Byte) = 0#8 from rfl, BitVec.zero_xor]
  rfl

/-! ## All bytes -/

theorem crcCal_eq (data : List Byte) : crcCal data = crcCalNoList data := by
  have hfold : ∀ crc : Byte × Byte, register (data.foldl crcStep crc) =
      data.foldl (fun crc x => crc16Ccitt x crc) (register crc) := by
    induction data with
    | nil => exact fun crc => rfl
    | cons x data ih =>
      intro crc
      rw [List.foldl_cons, List.foldl_cons, ih, crcStep_eq]
  exact congrArg (~~~ ·) (hfold (0xFF, 0xFF))

theorem crcCalList16_eq (data : List Byte) : crcCalList16 data = crcCalNoList data := by
  have hstep : crcStep16 = fun crc x => crc16Ccitt x crc := by
    funext crc x
    exact crcStep16_eq crc x
  rw [crcCalList16, hstep, crcCalNoList]

/-- One bit, as `crc_calculate` and `iotCrc` test it. -/
theorem crcBit_eq (crc : BitVec 16) :
    (if crc &&& 0x01 ≠ 0 then (crc >>> 1) ^^^ 0x8408 else crc >>> 1) = Crc.shift ccitt16 crc := by
  have hlsb : crc &&& 0x01 ≠ 0 ↔ crc.getLsbD 0 = true := by
    rw [show (0x01 : BitVec 16) = 1#16 from rfl, BitVec.and_one_eq_setWidth_ofBool_getLsbD]
    cases crc.getLsbD 0 <;> decide
  simp only [Crc.shift, hlsb]
  rfl

theorem crcCalculate_eq_noList (data : List Byte) : crcCalculate data = crcCalNoList data := by
  simp only [crcCalculate, crcCalculateBit, crcBit_eq]
  rfl

theorem iotCrc_eq (data : List Byte) : iotCrc data = crcCalNoList data := by
  simp only [iotCrc, crcBit_eq]
  rfl

/-- **The five CRCs agree.** -/
theorem crcs_agree (data : List Byte) :
    crcCal data = crcCalNoList data ∧ crcCalList16 data = crcCalNoList data ∧
      crcCalculate data = crcCalNoList data ∧ iotCrc data = crcCalNoList data :=
  ⟨crcCal_eq data, crcCalList16_eq data, crcCalculate_eq_noList data, iotCrc_eq data⟩

/-- What the decoders and the encoders of frames compute is the same. -/
theorem crcCalculate_eq (data : List Byte) : crcCalculate data = crcCal data :=
  (crcCalculate_eq_noList data).trans (crcCal_eq data).symm

end MxchipSpp
