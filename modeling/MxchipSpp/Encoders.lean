/-
  The encoders of UART frames beside `SendData` (`base64_to_uart` and
  `app_to_device` in mico_tcl_ota.c).

  Both escape the body as `SendData` does, in the buffer of the caller, but not
  the check field: `app_to_device` writes it as it is, and in `base64_to_uart`
  the test for the lower byte binds as `crc & (0x00FF == 0xf5)`, which is 0.
  So they agree with `SendData` on the frames whose check field holds no 0xF5
  where it is not escaped (`encoders_agree_iff`).
-/
import MxchipSpp.CrcCheck
import MxchipSpp.Datagram

namespace MxchipSpp

open Memory Stuffing

section
variable {n : ℕ}

/-- The part of `base64_to_uart` for the higher byte of the CRC, on the buffer and `temp_len`. -/
def crcHigh (crc : BitVec 16) (buf : Block Byte n) (temp_len : ℕ) : Option (Block Byte n × ℕ) := do
  if crc.extractLsb' 8 8 = 0xF5 then
    let buf ← buf.write temp_len [crc.extractLsb' 8 8]
    let buf ← buf.write (temp_len + 1) [0x55]
    return (buf, temp_len + 1)
  else
    let buf ← buf.write temp_len [crc.extractLsb' 8 8]
    return (buf, temp_len)

/-- The part for the lower byte; its condition is `crc & 0x00FF==0xf5`. -/
def crcLow (crc : BitVec 16) (buf : Block Byte n) (temp_len : ℕ) : Option (Block Byte n × ℕ) := do
  if crc &&& (if (0x00FF : BitVec 16) = 0xF5 then 1 else 0) ≠ 0 then
    let buf ← buf.write temp_len [crc.extractLsb' 0 8]
    let buf ← buf.write (temp_len + 1) [0x55]
    return (buf, temp_len + 1)
  else
    let buf ← buf.write (temp_len + 1) [crc.extractLsb' 0 8]
    return (buf, temp_len)

/-- `base64_to_uart`; the frame it gives to the UART. -/
def base64ToUart (date : Block Byte n) (len : Byte) : Option (List Byte) := do
  let buf ← date.write 0 [0xF5, 0xF5, 0x00, len + 3, 0x01]
  let (buf, temp_len) ← addF555 buf ((len + 3).toNat + 2)
  let crc := crcCalculate (← buf.slice 0 temp_len)
  let (buf, temp_len) ← crcHigh crc buf temp_len
  let (buf, temp_len) ← crcLow crc buf temp_len
  buf.slice 0 (temp_len + 2)

end

section
variable {n : ℕ} {date buf : Block Byte n} {type : Byte} {payload body : List Byte}

theorem crcLow_eq (crc : BitVec 16) (buf : Block Byte n) (temp_len : ℕ) :
    crcLow crc buf temp_len =
      (buf.write (temp_len + 1) [crc.extractLsb' 0 8]).map (·, temp_len) := by
  have hcond : ¬ crc &&& (if (0x00FF : BitVec 16) = 0xF5 then 1 else 0) ≠ 0 := by simp
  rw [crcLow, if_neg hcond, Option.map_eq_bind]
  rfl

theorem crcHigh_eq (crc : BitVec 16) (h : 0 + body.length ≤ n) {k : ℕ}
    (hk : k + 1 = (body ++ escape frameHeader 0x55 (crc.extractLsb' 8 8)).length) :
    crcHigh crc (buf.put 0 body h) body.length =
      (buf.write 0 (body ++ escape frameHeader 0x55 (crc.extractLsb' 8 8))).map (·, k) := by
  by_cases h5 : crc.extractLsb' 8 8 = frameHeader
  · have he : escape frameHeader 0x55 (crc.extractLsb' 8 8) = [crc.extractLsb' 8 8] ++ [0x55] :=
      if_pos h5
    rw [he] at hk ⊢
    have hk' : k = body.length + 1 := by simp at hk; omega
    rw [crcHigh, if_pos (show _ = (0xF5 : Byte) from h5), Block.write_put_zero _ _ h rfl, Option.bind_eq_bind, hk',
      ← List.append_assoc, ← Block.bind_write buf (body ++ [_]) [0x55] (j := body.length + 1) (by simp), Option.map_eq_bind,
      Option.bind_assoc]
    rfl
  · have he : escape frameHeader 0x55 (crc.extractLsb' 8 8) = [crc.extractLsb' 8 8] := if_neg h5
    rw [he] at hk ⊢
    have hk' : k = body.length := by simp at hk; omega
    rw [crcHigh, if_neg (show ¬ _ = (0xF5 : Byte) from h5), Block.write_put_zero _ _ h rfl, hk', Option.map_eq_bind]
    rfl

/-- The check field as `base64_to_uart` writes it, with its higher byte escaped only. -/
def halfEscaped (crc : BitVec 16) : List Byte :=
  escape frameHeader 0x55 (crc.extractLsb' 8 8) ++ [crc.extractLsb' 0 8]

theorem base64ToUart_eq (hd : date.slice 5 payload.length = some payload)
    (hl : payload.length ≤ 61) {body frame : List Byte} (hb : commandBody 0x01 payload = body)
    (hf : body ++ halfEscaped (crcCalculate body) = frame) :
    base64ToUart date (BitVec.ofNat 8 payload.length) =
      if frame.length ≤ n then some frame else none := by
  obtain ⟨buf, hw, hadd⟩ := addF555_command 0x01 hd hl
  rw [hb] at hadd
  rw [base64ToUart, hw, Option.bind_eq_bind, Option.bind_some, hadd]
  have hpos : 1 ≤ (escape frameHeader 0x55 ((crcCalculate body).extractLsb' 8 8)).length := by
    unfold escape
    split_ifs <;> simp
  by_cases h₀ : 0 + body.length ≤ n
  · obtain ⟨k, hk⟩ : ∃ k, k + 1 =
        (body ++ escape frameHeader 0x55 ((crcCalculate body).extractLsb' 8 8)).length :=
      ⟨_, Nat.sub_add_cancel (by rw [List.length_append]; omega)⟩
    simp only [Block.write_of_le _ h₀, Option.map_some, Option.bind_some, Option.bind_eq_bind,
      Block.slice_put_zero, crcHigh_eq _ h₀ hk, crcLow_eq, Option.bind_map, Function.comp_def]
    have hk₂ : k + 2 = (body ++ escape frameHeader 0x55 ((crcCalculate body).extractLsb' 8 8) ++
        [(crcCalculate body).extractLsb' 0 8]).length := by
      rw [List.length_append, ← hk, List.length_singleton]
    rw [← Option.bind_assoc, Block.bind_write _ _ _ hk, Block.bind_slice _ _ hk₂,
      List.append_assoc, ← hf, halfEscaped]
  · have hlong : ¬ frame.length ≤ n := by rw [← hf, List.length_append]; omega
    rw [Block.write, dif_neg h₀, if_neg hlong]
    rfl

end

/-! ## Agreement with `SendData` -/

section
variable {n : ℕ} {date : Block Byte n} {type : Byte} {payload : List Byte} {d : Dev}

theorem commandBody_eq (type : Byte) (payload : List Byte) :
    commandBody type payload = wireBody 0x00 (type :: payload) := by
  have hlen : (BitVec.ofNat 8 payload.length + 3 : Byte) =
      BitVec.ofNat 8 ((type :: payload).length + 2) := by
    rw [List.length_cons, Nat.add_assoc, BitVec.ofNat_add]
    rfl
  rw [commandBody, wireBody, hlen]
  rfl

theorem wireFrame_command (type : Byte) (payload : List Byte) :
    wireFrame 0x00 (type :: payload) =
      commandBody type payload ++ stuffed (crcBytes (commandBody type payload)) := by
  rw [commandBody_eq, wireFrame, checkBytes, if_pos (by decide), crcBytes, crcCalculate_eq]

/-- A check field is its own escaped form if it holds no 0xF5. -/
theorem stuffed_eq_self_iff (xs : List Byte) : xs = stuffed xs ↔ frameHeader ∉ xs := by
  constructor
  · intro h
    have hl : (stuffed xs).length = xs.length + xs.count frameHeader := length_stuff xs
    have hl' := congrArg List.length h
    exact List.count_eq_zero.1 (by omega)
  · intro h
    induction xs with
    | nil => rfl
    | cons x xs ih =>
      have hx : x ≠ frameHeader := fun he => h (he ▸ List.mem_cons_self)
      have hxs : frameHeader ∉ xs := fun hm => h (List.mem_cons_of_mem _ hm)
      rw [stuffed_cons, ← ih hxs, escape, if_neg hx]
      rfl

theorem halfEscaped_eq_iff (data : List Byte) :
    halfEscaped (crcCalculate data) = stuffed (crcBytes data) ↔
      (crcCalculate data).extractLsb' 0 8 ≠ frameHeader := by
  rw [halfEscaped, crcBytes, stuffed_cons, List.append_cancel_left_eq]
  have h := stuffed_eq_self_iff [(crcCalculate data).extractLsb' 0 8]
  rw [h, List.mem_singleton, ne_comm]

theorem ite_eq_some_iff {α : Type} {c : Prop} [Decidable c] {a b : α} :
    (if c then some a else none) = some b ↔ c ∧ a = b := by
  split_ifs with h <;> simp [h]

/-- **The encoders agree with `SendData`** on the frames for which the buffer has room and whose
    check field holds no 0xF5: for `base64_to_uart`, none in its lower byte. -/
theorem encoders_agree_iff (f : Bool) (hs : d.datadown.state = 0) (hc : d.datadown.framectrl = 0)
    (hp : payload.length ≤ 56) (hd : date.slice 5 payload.length = some payload) :
    ∃ e frame, sendData (.new f) true true (dataDownWr d (type :: payload)).1 = some (e, true) ∧
      e.hist.uart = d.hist.uart ++ [frame] ∧
      (appToDevice type date (BitVec.ofNat 8 payload.length) = some frame ↔
        frame.length ≤ n ∧ frameHeader ∉ crcBytes (commandBody type payload)) ∧
      (type = 0x01 → (base64ToUart date (BitVec.ofNat 8 payload.length) = some frame ↔
        frame.length ≤ n ∧
          (crcCalculate (commandBody type payload)).extractLsb' 0 8 ≠ frameHeader)) := by
  have hframe := wireFrame_command type payload
  have hlen : (wireFrame 0x00 (type :: payload)).length ≤ 250 := by
    have h₁ : (stuffed (type :: payload)).length ≤ _ := length_stuff_le _
    have h₂ : (stuffed (crcBytes (commandBody type payload))).length ≤ _ := length_stuff_le _
    have h₃ : (crcBytes (commandBody type payload)).length = 2 := rfl
    rw [hframe, List.length_append, commandBody_eq, length_wireBody, ← commandBody_eq]
    rw [List.length_cons] at h₁
    omega
  have hline : lineFrame d.datadown.framectrl (type :: payload) = wireFrame 0x00 (type :: payload) := by
    rw [hc]
    exact lineFrame_eq (by decide) _
  have hfit : (lineFrame d.datadown.framectrl (type :: payload)).length ≤ 250 := by rwa [hline]
  obtain ⟨e, he, -, huart⟩ := sendData_lineFrame (f := f) true hs (by simp; omega) hfit
  refine ⟨e, wireFrame 0x00 (type :: payload), he, by rw [huart rfl, hline], ?_, ?_⟩
  · rw [appToDevice_eq hd (by omega), ite_eq_some_iff, hframe, List.append_cancel_left_eq]
    change _ ∧ crcBytes _ = stuffed _ ↔ _
    rw [stuffed_eq_self_iff]
    refine and_congr_left fun hno => ?_
    rw [← (stuffed_eq_self_iff _).2 hno, List.length_append]
    rfl
  · rintro rfl
    rw [base64ToUart_eq hd (by omega) rfl rfl, ite_eq_some_iff, hframe, List.append_cancel_left_eq,
      halfEscaped_eq_iff]
    refine and_congr_left fun hno => ?_
    rw [(halfEscaped_eq_iff _).2 hno]

/-- A query for the state of the device, in a buffer of 64 bytes. -/
theorem encoders_agree_query : ∃ e frame,
    sendData (.new false) true true (dataDownWr devParaInit (0x01 :: [0x00, 0x0B])).1 =
        some (e, true) ∧
      e.hist.uart = devParaInit.hist.uart ++ [frame] ∧
      (appToDevice 0x01 (Block.put (.fill 64 0) 5 [0x00, 0x0B] (by decide)) 2 = some frame ↔
        frame.length ≤ 64 ∧ frameHeader ∉ crcBytes (commandBody 0x01 [0x00, 0x0B])) ∧
      ((0x01 : Byte) = 0x01 →
        (base64ToUart (Block.put (.fill 64 0) 5 [0x00, 0x0B] (by decide)) 2 = some frame ↔
          frame.length ≤ 64 ∧
            (crcCalculate (commandBody 0x01 [0x00, 0x0B])).extractLsb' 0 8 ≠ frameHeader)) :=
  encoders_agree_iff false (by decide) (by decide) (by decide) (by decide)

/-- The two data bytes 0xEF and 0x90, whose CRC is 0xF5F5. -/
theorem unescaped_check : ∃ frame, (sendData (.new false) true true
      (dataDownWr devParaInit [0x01, 0xEF, 0x90]).1).map (·.1.hist.uart) = some [frame] ∧
    appToDevice 0x01 (Block.put (.fill 64 0) 5 [0xEF, 0x90] (by decide)) 2 ≠ some frame ∧
    base64ToUart (Block.put (.fill 64 0) 5 [0xEF, 0x90] (by decide)) 2 ≠ some frame :=
  ⟨wireFrame 0x00 [0x01, 0xEF, 0x90], by decide +kernel, by decide +kernel, by decide +kernel⟩

end

end MxchipSpp
