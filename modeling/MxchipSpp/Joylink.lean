/-
  Control frames from the joylink cloud (joylink_extern.c).

  `joylink_date_to_uart` copies as many bytes as the frame declares, but takes
  the CRC of the first 19; of the length it only asks, behind the copy, whether
  it is over 128, where the buffer has 64 bytes.  So a frame that declares 17 is
  the one it is made for: a shorter frame is checked together with what stood in
  the buffer before, a longer one by its first 19 bytes, and from 61 on the
  buffer is written past its end (`joylink_valid_iff`).
-/
import MxchipSpp.CrcCheck

namespace MxchipSpp

open Memory Endian

/-! ## The functions -/

section
variable {n : ℕ}

/-- `joylink_date_to_uart`, for the frame at index `date` of a memory and what stands in `cmd`; the
    bytes it gives to the UART. -/
def joylinkDateToUart (cmd : Block Byte 64) (mem : Block Byte n) (date : ℕ) :
    Option (Option (List Byte)) := do
  let len := (← mem.read (date + 3 : ℕ)).toNat + 4 - 2
  let cmd ← cmd.write 0 (← mem.slice date len)
  if len > 128 then
    return none
  else
    let crc := crcCalculate (← cmd.slice 0 19)
    let cmd ← cmd.write len [crc.extractLsb' 8 8]
    let cmd ← cmd.write (len + 1) [crc.extractLsb' 0 8]
    (cmd.slice 0 (len + 2)).map some

/-- The fields of `JLContrl_t` that are written. -/
structure JLContrl where
  biz_code : BitVec 32
  serial : BitVec 32

/-- `JL_BZCODE_GET_SNAPSHOT` -/
def jlBzcodeGetSnapshot : BitVec 32 := 1004

/-- `JL_BZCODE_CTRL` -/
def jlBzcodeCtrl : BitVec 32 := 1002

/-- `joylink_dev_lan_script_ctrl`: its result, what it writes to `ctr`, and what the UART is given.
    `joylink_dev_set_attr(NULL)` does nothing. -/
def joylinkDevLanScriptCtrl (cmd : Block Byte 64) (recPainText : Block Byte n) :
    Option (ℤ × JLContrl × Option (List Byte)) := do
  let biz_code ← load32 recPainText 4
  let serial ← load32 recPainText 8
  if biz_code = jlBzcodeGetSnapshot then
    return (0, ⟨biz_code, serial⟩, none)
  else if biz_code = jlBzcodeCtrl then
    let uart ← joylinkDateToUart cmd recPainText 12
    return (0, ⟨biz_code, serial⟩, uart)
  else
    return (-1, ⟨biz_code, serial⟩, none)

end

/-! ## The frame that is given to the UART -/

section
variable {n : ℕ} {mem : Block Byte n} {date : ℕ} {l : Byte} {body : List Byte}

theorem joylinkDateToUart_eq (hl : mem.read (date + 3 : ℕ) = some l)
    (hbody : mem.slice date (l.toNat + 2) = some body) (cmd : Block Byte 64) :
    joylinkDateToUart cmd mem date =
      if l.toNat ≤ 60 then
        some (some (body ++ crcBytes ((body ++ cmd.cells.drop body.length).take 19)))
      else none := by
  have hlen : body.length = l.toNat + 2 := Block.length_of_slice hbody
  have hsub : l.toNat + 4 - 2 = body.length := by omega
  rw [← hlen] at hbody
  simp only [joylinkDateToUart, hl, hsub, hbody, Option.bind_eq_bind, Option.bind_some]
  by_cases hfit : 0 + body.length ≤ 64
  · have h128 : ¬ body.length > 128 := by omega
    have hcrc : (cmd.put 0 body hfit).slice 0 19 =
        some ((body ++ cmd.cells.drop body.length).take 19) := by
      rw [Block.slice_of_le _ (by decide), Block.cells_put_zero, List.drop_zero]
    simp only [Block.write_of_le _ hfit, Option.bind_some, if_neg h128, hcrc, crcBytes]
    generalize crcCalculate ((body ++ cmd.cells.drop body.length).take 19) = crc
    have hout := congrArg (Option.map some)
      (Block.slice_write_two cmd (crc.extractLsb' 8 8) (crc.extractLsb' 0 8) hfit)
    simp only [Option.map_bind, Function.comp_def] at hout
    refine hout.trans ?_
    by_cases h60 : l.toNat ≤ 60
    · rw [if_pos h60, if_pos (by omega)]
      rfl
    · rw [if_neg h60, if_neg (by omega)]
      rfl
  · rw [Block.write, dif_neg hfit, if_neg (by omega)]
    rfl

/-- What a frame with length byte `l` asks of a function that is given what stands in `cmd`: it
    stays within `cmd`, and if `l` is from 3 to 60 it gives the UART the frame and its CRC. -/
def ValidFrame (l : Byte) (body : List Byte) (toUart : Block Byte 64 → Option (Option (List Byte))) :
    Prop :=
  ∀ cmd, ∃ uart, toUart cmd = some uart ∧
    (3 ≤ l.toNat → l.toNat ≤ 60 → uart = some (body ++ crcBytes body))

/-- The register of the CRC, after `data`. -/
def crcRegister (crc : BitVec 16) (data : List Byte) : BitVec 16 :=
  data.foldl (fun crc x => crc16Ccitt x crc) crc

/-- The 19 bytes that are checked are in the frame, and those behind them leave the register of the
    CRC as it is; or `l` is too small for a frame. -/
def Covered (l : Byte) (body : List Byte) : Prop :=
  l.toNat ≤ 2 ∨ (17 ≤ l.toNat ∧ l.toNat ≤ 60 ∧
    crcRegister (crcRegister 0xFFFF (body.take 19)) (body.drop 19) =
      crcRegister 0xFFFF (body.take 19))

/-- The frame the function is made for. -/
theorem covered_of_17 (hl : l.toNat = 17) (hlen : body.length = l.toNat + 2) : Covered l body := by
  refine .inr ⟨hl.ge, by omega, ?_⟩
  rw [List.drop_eq_nil_of_le (by omega)]
  rfl

theorem crcCalculate_take_iff (k : ℕ) (data : List Byte) :
    crcCalculate (data.take k) = crcCalculate data ↔
      crcRegister (crcRegister 0xFFFF (data.take k)) (data.drop k) =
        crcRegister 0xFFFF (data.take k) := by
  have hsplit : crcRegister 0xFFFF data =
      crcRegister (crcRegister 0xFFFF (data.take k)) (data.drop k) := by
    rw [crcRegister, crcRegister, crcRegister, ← List.foldl_append, List.take_append_drop]
  rw [← hsplit, crcCalculate_eq_noList, crcCalculate_eq_noList]
  exact BitVec.not_inj.trans eq_comm

theorem crcBytes_injective {a b : List Byte} (h : crcBytes a = crcBytes b) :
    crcCalculate a = crcCalculate b := by
  have hswap : ∀ data, crcBytes data = (le16 (crcCalculate data)).reverse := fun _ => rfl
  rw [hswap, hswap] at h
  exact le16_inj.1 (List.reverse_injective h)

/-- `cmd` with `x` in the last of the 19 bytes that are checked. -/
def cmdWith (x : Byte) : Block Byte 64 :=
  ⟨List.replicate 18 0 ++ x :: List.replicate 45 0, by simp⟩

/-- A frame of fewer than 19 bytes is checked with what stood in `cmd`. -/
theorem crc_cmdWith_injective (h : body.length ≤ 18) :
    Function.Injective fun x =>
      crcCalculate ((body ++ (cmdWith x).cells.drop body.length).take 19) := by
  have htake : ∀ x, (body ++ (cmdWith x).cells.drop body.length).take 19 =
      body ++ (List.replicate 18 (0 : Byte)).drop body.length ++ [x] := by
    intro x
    have hl : (body ++ (List.replicate 18 (0 : Byte)).drop body.length ++ [x]).length = 19 := by
      simp; omega
    rw [cmdWith, List.drop_append_of_le_length (by simpa using h), ← List.append_assoc,
      List.append_cons, List.take_left' hl]
  intro x y hxy
  simp only [htake, crcCalculate_eq_noList, crcCalNoList, List.foldl_append, List.foldl_cons,
    List.foldl_nil] at hxy
  exact Crc.byte_injective (show ccitt16.msb = true by decide) (by decide) _ (BitVec.not_inj.1 hxy)

/-- A function that checks the first 19 bytes of what it has in `cmd`. -/
theorem validFrame_iff {toUart : Block Byte 64 → Option (Option (List Byte))}
    (hlen : body.length = l.toNat + 2)
    (heq : ∀ cmd : Block Byte 64, toUart cmd =
      if l.toNat ≤ 60 then
        some (some (body ++ crcBytes ((body ++ cmd.cells.drop body.length).take 19)))
      else none) :
    ValidFrame l body toUart ↔ Covered l body := by
  constructor
  · intro h
    have h60 : l.toNat ≤ 60 := by
      obtain ⟨uart, hu, -⟩ := h (cmdWith 0)
      by_contra h60
      rw [heq, if_neg h60] at hu
      cases hu
    have hcrc : 3 ≤ l.toNat → ∀ cmd : Block Byte 64,
        crcCalculate ((body ++ cmd.cells.drop body.length).take 19) = crcCalculate body := by
      intro h₃ cmd
      obtain ⟨uart, hu, hframe⟩ := h cmd
      rw [heq, if_pos h60, hframe h₃ h60] at hu
      have hbytes := Option.some.inj (Option.some.inj hu)
      exact crcBytes_injective ((List.append_right_inj body).1 hbytes)
    rcases Nat.lt_or_ge l.toNat 3 with h₃ | h₃
    · exact .inl (by omega)
    rcases Nat.lt_or_ge l.toNat 17 with h₁₇ | h₁₇
    · -- two frames with different CRCs, for what stood in the buffer
      have hsame := (hcrc h₃ (cmdWith 0)).trans (hcrc h₃ (cmdWith 1)).symm
      exact absurd (crc_cmdWith_injective (by omega) hsame) (by decide)
    · have hbody := hcrc h₃ (cmdWith 0)
      rw [List.take_append_of_le_length (by omega)] at hbody
      exact .inr ⟨h₁₇, h60, (crcCalculate_take_iff 19 body).1 hbody⟩
  · rintro (h₂ | ⟨h₁₇, h60, hcrc⟩) cmd
    · exact ⟨_, by rw [heq, if_pos (by omega)], fun h₃ => absurd h₃ (by omega)⟩
    · refine ⟨_, by rw [heq, if_pos h60], fun _ _ => ?_⟩
      rw [List.take_append_of_le_length (by omega), crcBytes, crcBytes,
        (crcCalculate_take_iff 19 body).2 hcrc]

theorem exists_load32 (mem : Block Byte n) {i : ℤ} (h₀ : 0 ≤ i) (h : i + 4 ≤ n) :
    ∃ x, load32 mem i = some x := by
  have hread : ∀ {j : ℤ}, 0 ≤ j → j < n → ∃ b, mem.read j = some b := fun hj hn =>
    Option.isSome_iff_exists.1 (Block.read_isSome.2 ⟨hj, hn⟩)
  obtain ⟨b₀, hb₀⟩ := hread h₀ (by omega)
  obtain ⟨b₁, hb₁⟩ := hread (j := i + 1) (by omega) (by omega)
  obtain ⟨b₂, hb₂⟩ := hread (j := i + 2) (by omega) (by omega)
  obtain ⟨b₃, hb₃⟩ := hread (j := i + 3) (by omega) (by omega)
  exact ⟨_, by rw [load32, hb₀, hb₁, hb₂, hb₃]; rfl⟩

/-- A packet with a frame to send, for the device. -/
theorem joylinkDevLanScriptCtrl_eq (hcode : load32 mem 4 = some jlBzcodeCtrl) (h : 12 ≤ n)
    (cmd : Block Byte 64) :
    (joylinkDevLanScriptCtrl cmd mem).map (·.2.2) = joylinkDateToUart cmd mem 12 := by
  obtain ⟨serial, hserial⟩ := exists_load32 mem (i := 8) (by omega) (by omega)
  have hne : ¬ jlBzcodeCtrl = jlBzcodeGetSnapshot := by decide
  simp only [joylinkDevLanScriptCtrl, hcode, hserial, Option.bind_eq_bind, Option.bind_some,
    if_neg hne, if_true]
  cases joylinkDateToUart cmd mem 12 <;> rfl

/-- **The frames that are sent with a valid CRC**, and within the buffer; as such, and in a packet
    of the cloud. -/
theorem joylink_valid_iff (hl : mem.read (date + 3 : ℕ) = some l)
    (hbody : mem.slice date (l.toNat + 2) = some body) :
    (ValidFrame l body (fun cmd => joylinkDateToUart cmd mem date) ↔ Covered l body) ∧
      (date = 12 → load32 mem 4 = some jlBzcodeCtrl →
        (ValidFrame l body (fun cmd => (joylinkDevLanScriptCtrl cmd mem).map (·.2.2)) ↔
          Covered l body)) := by
  have hlen : body.length = l.toNat + 2 := Block.length_of_slice hbody
  have heq := joylinkDateToUart_eq hl hbody
  refine ⟨validFrame_iff hlen heq, ?_⟩
  rintro rfl hcode
  have hn := (Block.slice_eq_some.1 hbody).1
  exact validFrame_iff hlen fun cmd =>
    (joylinkDevLanScriptCtrl_eq hcode (by omega) cmd).trans (heq cmd)

end

/-- A packet of the cloud with a frame to send. -/
def controlPacket (frame : List Byte) : Block Byte (12 + frame.length) :=
  ⟨[0, 0, 0, 0, 0xEA, 0x03, 0, 0, 7, 0, 0, 0] ++ frame, by simp; omega⟩

/-- A frame that declares 17 bytes. -/
theorem joylink_valid_17 :
    ValidFrame 17 ([0xF5, 0xF5, 0x00, 17, 0x01] ++ List.replicate 14 0xF5) (fun cmd =>
      (joylinkDevLanScriptCtrl cmd
        (controlPacket ([0xF5, 0xF5, 0x00, 17, 0x01] ++ List.replicate 14 0xF5))).map (·.2.2)) := by
  have hl : (controlPacket ([0xF5, 0xF5, 0x00, 17, 0x01] ++ List.replicate 14 0xF5)).read
      (12 + 3 : ℕ) = some 17 := by decide
  have hbody : (controlPacket ([0xF5, 0xF5, 0x00, 17, 0x01] ++ List.replicate 14 0xF5)).slice 12
      ((17 : Byte).toNat + 2) = some ([0xF5, 0xF5, 0x00, 17, 0x01] ++ List.replicate 14 0xF5) := by
    decide
  exact ((joylink_valid_iff hl hbody).2 rfl (by decide)).2 (covered_of_17 rfl rfl)

/-- A frame that declares 4 bytes is checked with 13 bytes of the buffer, of one that declares 18
    the last byte is not checked, and one that declares 61 is written over the end. -/
theorem short_and_long_frames_fault :
    ¬ ValidFrame 4 [0xF5, 0xF5, 0x00, 4, 0x01, 0x0A] (fun cmd =>
        (joylinkDevLanScriptCtrl cmd
          (controlPacket [0xF5, 0xF5, 0x00, 4, 0x01, 0x0A])).map (·.2.2)) ∧
      ¬ ValidFrame 18 ([0xF5, 0xF5, 0x00, 18] ++ List.replicate 16 0x01) (fun cmd =>
        (joylinkDevLanScriptCtrl cmd
          (controlPacket ([0xF5, 0xF5, 0x00, 18] ++ List.replicate 16 0x01))).map (·.2.2)) ∧
      ¬ ValidFrame 61 ([0xF5, 0xF5, 0x00, 61] ++ List.replicate 59 0x01) (fun cmd =>
        (joylinkDevLanScriptCtrl cmd
          (controlPacket ([0xF5, 0xF5, 0x00, 61] ++ List.replicate 59 0x01))).map (·.2.2)) := by
  refine ⟨fun h => ?_, fun h => ?_, fun h => ?_⟩
  · obtain ⟨uart, hu, hframe⟩ := h (.fill 64 0)
    rw [hframe (by decide) (by decide)] at hu
    revert hu
    decide +kernel
  · obtain ⟨uart, hu, hframe⟩ := h (.fill 64 0)
    rw [hframe (by decide) (by decide)] at hu
    revert hu
    decide +kernel
  · obtain ⟨uart, hu, -⟩ := h (.fill 64 0)
    have hnone : (joylinkDevLanScriptCtrl (.fill 64 0)
        (controlPacket ([0xF5, 0xF5, 0x00, 61] ++ List.replicate 59 0x01))).map (·.2.2) = none := by
      decide +kernel
    cases hnone.symm.trans hu

/-! ## The lengths -/

theorem crcRegister_concat_injective (crc : BitVec 16) (data : List Byte) :
    Function.Injective fun x => crcRegister crc (data ++ [x]) := by
  intro x y h
  simp only [crcRegister, List.foldl_append, List.foldl_cons, List.foldl_nil] at h
  exact Crc.byte_injective (show ccitt16.msb = true by decide) (by decide) _ h

/-- **The lengths for which every frame is sent as it should be**: the one the function is made for,
    and those of no frame. -/
theorem joylink_lengths (l : Byte) :
    (∀ {n : ℕ} (mem : Block Byte n) (date : ℕ) (body : List Byte),
      mem.read (date + 3 : ℕ) = some l → mem.slice date (l.toNat + 2) = some body →
        ValidFrame l body (fun cmd => joylinkDateToUart cmd mem date)) ↔
      l.toNat ≤ 2 ∨ l.toNat = 17 := by
  constructor
  · intro h
    by_contra hl
    -- two frames that differ in their last byte
    have hcov : ∀ x, Covered l ([0, 0, 0, l] ++ List.replicate (l.toNat - 3) 0 ++ [x]) := by
      intro x
      have hlen : ([0, 0, 0, l] ++ List.replicate (l.toNat - 3) 0 ++ [x]).length = l.toNat + 2 := by
        simp; omega
      have hread : (⟨_, hlen⟩ : Block Byte (l.toNat + 2)).read (0 + 3 : ℕ) = some l := by
        rw [Block.read_natCast]
        rfl
      have hslice : (⟨_, hlen⟩ : Block Byte (l.toNat + 2)).slice 0 (l.toNat + 2) =
          some ([0, 0, 0, l] ++ List.replicate (l.toNat - 3) 0 ++ [x]) := by
        rw [Block.slice_of_le _ (by omega), List.drop_zero, List.take_of_length_le (by rw [hlen])]
      exact (validFrame_iff hlen (joylinkDateToUart_eq hread hslice)).1 (h _ _ _ hread hslice)
    rcases hcov 0 with h₂ | ⟨h₁₇, -, h₀⟩
    · exact hl (.inl h₂)
    rcases hcov 1 with h₂ | ⟨-, -, h₁⟩
    · exact hl (.inl h₂)
    have hp : 19 ≤ ([0, 0, 0, l] ++ List.replicate (l.toNat - 3) 0).length := by
      simp; omega
    rw [List.take_append_of_le_length hp, List.drop_append_of_le_length hp] at h₀ h₁
    exact absurd (crcRegister_concat_injective _ _ (h₀.trans h₁.symm)) (by decide)
  · intro hl n mem date body hread hslice
    have hlen := Block.length_of_slice hslice
    refine (validFrame_iff hlen (joylinkDateToUart_eq hread hslice)).2 ?_
    rcases hl with h₂ | h₁₇
    · exact .inl h₂
    · exact covered_of_17 h₁₇ hlen

end MxchipSpp
