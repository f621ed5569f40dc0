/-
  `crc_check` (mico_tcl_ota.c), with `CRC_ADD_F5_55` and on the little-endian
  device.

  It sees from the last bytes of a frame which bytes of the check field were
  escaped, by four patterns tried in turn.  They do not overlap, as the byte
  before the check field is never 0xF5: so a frame that escapes its check
  field is recognised (`crcCheck_escapedFrame`).
-/
import MxchipSpp.Crc
import MxchipSpp.RoundTrip

namespace MxchipSpp

open Memory Endian Stuffing

/-! ## The function -/

section
variable {n : ℕ}

/-- `*(unsigned short *)&address[i]` -/
def load16 (address : Block Byte n) (i : ℤ) : Option (BitVec 16) := do
  let b₀ ← address.read i
  let b₁ ← address.read (i + 1)
  return b₁ ++ b₀

/-- `*(unsigned int *)&address[i]` -/
def load32 (address : Block Byte n) (i : ℤ) : Option (BitVec 32) := do
  let b₀ ← address.read i
  let b₁ ← address.read (i + 1)
  let b₂ ← address.read (i + 2)
  let b₃ ← address.read (i + 3)
  return b₃ ++ b₂ ++ b₁ ++ b₀

/-- Whether the CRC of the first `length` bytes stands in the bytes at `i` and `j`. -/
def crcAt (address : Block Byte n) (length i j : ℤ) : Option Bool := do
  let crc := crcCalculate (← address.slice 0 length.toNat)
  let h := crc.extractLsb' 8 8
  let l := crc.extractLsb' 0 8
  return h = (← address.read i) && l = (← address.read j)

/-- `crc_check`, with `CRC_ADD_F5_55` -/
def crcCheck (length : Byte) (address : Block Byte n) : Option Bool := do
  let length : ℤ := length.toNat
  if (← load32 address (length - 4)) = 0x55F555F5 then
    crcAt address (length - 4) (length - 4) (length - 2)
  else if (← load16 address (length - 2)) = 0x55F5 then
    crcAt address (length - 3) (length - 3) (length - 2)
  else if (← load16 address (length - 3)) = 0x55F5 then
    crcAt address (length - 3) (length - 3) (length - 1)
  else
    crcAt address (length - 2) (length - 2) (length - 1)

end

/-! ## Words and their bytes -/

theorem word16_eq_iff (a b : Byte) : (b ++ a : BitVec 16) = 0x55F5 ↔ a = 0xF5 ∧ b = 0x55 := by
  constructor
  · intro h
    have hb := congrArg le16 h
    rw [le16_append] at hb
    simpa [le16] using hb
  · rintro ⟨rfl, rfl⟩
    rfl

theorem word32_eq_iff (a b c d : Byte) :
    (d ++ c ++ b ++ a : BitVec 32) = 0x55F555F5 ↔ a = 0xF5 ∧ b = 0x55 ∧ c = 0xF5 ∧ d = 0x55 := by
  constructor
  · intro h
    have hb := congrArg le32 h
    rw [le32_append] at hb
    simpa [le32] using hb
  · rintro ⟨rfl, rfl, rfl, rfl⟩
    rfl

/-! ## Reading behind the first bytes -/

section
variable {n : ℕ} {address : Block Byte n} {i j : ℤ} {q s : List Byte} {a b c d : Byte}

theorem read_eq (h : address.cells = q ++ a :: s) (hi : i = q.length) : address.read i = some a := by
  rw [hi, Block.read_natCast, h, List.getElem?_append_right le_rfl, Nat.sub_self]
  rfl

theorem load16_eq (h : address.cells = q ++ a :: b :: s) (hi : i = q.length) :
    load16 address i = some (b ++ a) := by
  have h₁ : address.cells = (q ++ [a]) ++ b :: s := by rw [h, List.append_assoc]; rfl
  rw [load16, read_eq h hi, read_eq h₁ (by simp [hi])]
  rfl

theorem load32_eq (h : address.cells = q ++ a :: b :: c :: d :: s) (hi : i = q.length) :
    load32 address i = some (d ++ c ++ b ++ a) := by
  have h₁ : address.cells = (q ++ [a]) ++ b :: c :: d :: s := by rw [h, List.append_assoc]; rfl
  have h₂ : address.cells = (q ++ [a, b]) ++ c :: d :: s := by rw [h, List.append_assoc]; rfl
  have h₃ : address.cells = (q ++ [a, b, c]) ++ d :: s := by rw [h, List.append_assoc]; rfl
  rw [load32, read_eq h hi, read_eq h₁ (by simp [hi]), read_eq h₂ (by simp [hi]),
    read_eq h₃ (by simp [hi])]
  rfl

/-- The CRC is found where its bytes stand. -/
theorem crcAt_eq {length : ℤ} {h l : Byte} (hh : h = (crcCalculate q).extractLsb' 8 8)
    (hl : l = (crcCalculate q).extractLsb' 0 8) (hq : address.cells = q ++ s)
    (hlen : length = q.length) (hi : address.read i = some h) (hj : address.read j = some l) :
    crcAt address length i j = some true := by
  have hn : q.length ≤ n := by
    rw [← address.size, hq, List.length_append]
    omega
  have hs : address.slice 0 length.toNat = some q := by
    rw [hlen, Int.toNat_natCast, Block.slice_of_le _ (by omega), hq, List.drop_zero, List.take_left]
  simp only [crcAt, hs, hi, hj, ← hh, ← hl, Option.bind_eq_bind, Option.bind_some, decide_true,
    Bool.and_self]
  rfl

end

/-! ## The four patterns -/

section
variable {n : ℕ} {address : Block Byte n} {length : Byte} {q : List Byte} {x y h l : Byte}

/-- With both bytes escaped, the first pattern is that of the frame. -/
theorem crcCheck_both (hh : h = (crcCalculate (q ++ [x, y])).extractLsb' 8 8)
    (hl : l = (crcCalculate (q ++ [x, y])).extractLsb' 0 8) (h5 : h = 0xF5) (l5 : l = 0xF5)
    (hc : address.cells = q ++ [x, y] ++ [h, 0x55, l, 0x55]) (hn : length.toNat = q.length + 6) :
    crcCheck length address = some true := by
  have h₁ : address.cells = q ++ [x, y, h, 0x55] ++ [l, 0x55] := by simp [hc]
  have hload : load32 address (length.toNat - 4) = some 0x55F555F5 := by
    rw [load32_eq hc (by simp [hn]; omega), h5, l5]
    rfl
  simp only [crcCheck, hload, Option.bind_eq_bind, Option.bind_some, if_true]
  exact crcAt_eq hh hl hc (by simp [hn]; omega) (read_eq hc (by simp [hn]; omega))
    (read_eq h₁ (by simp [hn]; omega))

/-- With the lower byte escaped, `y` rules the first pattern out. -/
theorem crcCheck_low (hy : y ≠ 0xF5) (hh : h = (crcCalculate (q ++ [x, y])).extractLsb' 8 8)
    (hl : l = (crcCalculate (q ++ [x, y])).extractLsb' 0 8) (l5 : l = 0xF5)
    (hc : address.cells = q ++ [x, y] ++ [h, l, 0x55]) (hn : length.toNat = q.length + 5) :
    crcCheck length address = some true := by
  have h₁ : address.cells = (q ++ [x]) ++ [y, h, l, 0x55] := by simp [hc]
  have h₂ : address.cells = q ++ [x, y, h] ++ [l, 0x55] := by simp [hc]
  have hload : load16 address (length.toNat - 2) = some 0x55F5 := by
    rw [load16_eq h₂ (by simp [hn]; omega), l5]
    rfl
  have hno : ¬ ((0x55 : Byte) ++ l ++ h ++ y : BitVec 32) = 0x55F555F5 := fun hw =>
    hy ((word32_eq_iff _ _ _ _).1 hw).1
  simp only [crcCheck, load32_eq h₁ (show (length.toNat : ℤ) - 4 = _ by simp [hn]; omega), hload,
    Option.bind_eq_bind, Option.bind_some, if_neg hno, if_true]
  exact crcAt_eq hh hl hc (by simp [hn]; omega) (read_eq hc (by simp [hn]; omega))
    (read_eq h₂ (by simp [hn]; omega))

/-- With the higher byte escaped, 0x55 stands where the first two patterns have 0xF5. -/
theorem crcCheck_high (hh : h = (crcCalculate (q ++ [x, y])).extractLsb' 8 8)
    (hl : l = (crcCalculate (q ++ [x, y])).extractLsb' 0 8) (h5 : h = 0xF5)
    (hc : address.cells = q ++ [x, y] ++ [h, 0x55, l]) (hn : length.toNat = q.length + 5) :
    crcCheck length address = some true := by
  have h₁ : address.cells = (q ++ [x]) ++ [y, h, 0x55, l] := by simp [hc]
  have h₂ : address.cells = q ++ [x, y, h] ++ [0x55, l] := by simp [hc]
  have h₃ : address.cells = q ++ [x, y, h, 0x55] ++ [l] := by simp [hc]
  have hload : load16 address (length.toNat - 3) = some 0x55F5 := by
    rw [load16_eq hc (by simp [hn]; omega), h5]
    rfl
  have hno₁ : ¬ (l ++ (0x55 : Byte) ++ h ++ y : BitVec 32) = 0x55F555F5 := fun hw =>
    absurd ((word32_eq_iff _ _ _ _).1 hw).2.2.1 (by decide)
  have hno₂ : ¬ (l ++ (0x55 : Byte) : BitVec 16) = 0x55F5 := fun hw =>
    absurd ((word16_eq_iff _ _).1 hw).1 (by decide)
  simp only [crcCheck, load32_eq h₁ (show (length.toNat : ℤ) - 4 = _ by simp [hn]; omega),
    load16_eq h₂ (show (length.toNat : ℤ) - 2 = _ by simp [hn]; omega), hload, Option.bind_eq_bind,
    Option.bind_some, if_neg hno₁, if_neg hno₂, if_true]
  exact crcAt_eq hh hl hc (by simp [hn]; omega) (read_eq hc (by simp [hn]; omega))
    (read_eq h₃ (by simp [hn]; omega))

/-- With no byte escaped, the first two patterns would need 0xF5 for `h`, and the third for `y`. -/
theorem crcCheck_none (hy : y ≠ 0xF5) (hh : h = (crcCalculate (q ++ [x, y])).extractLsb' 8 8)
    (hl : l = (crcCalculate (q ++ [x, y])).extractLsb' 0 8) (h5 : h ≠ 0xF5)
    (hc : address.cells = q ++ [x, y] ++ [h, l]) (hn : length.toNat = q.length + 4) :
    crcCheck length address = some true := by
  have h₁ : address.cells = q ++ [x, y, h, l] := by simp [hc]
  have h₂ : address.cells = (q ++ [x]) ++ [y, h, l] := by simp [hc]
  have h₃ : address.cells = q ++ [x, y, h] ++ [l] := by simp [hc]
  have hno₁ : ¬ (l ++ h ++ y ++ x : BitVec 32) = 0x55F555F5 := fun hw =>
    h5 ((word32_eq_iff _ _ _ _).1 hw).2.2.1
  have hno₂ : ¬ (l ++ h : BitVec 16) = 0x55F5 := fun hw => h5 ((word16_eq_iff _ _).1 hw).1
  have hno₃ : ¬ (h ++ y : BitVec 16) = 0x55F5 := fun hw => hy ((word16_eq_iff _ _).1 hw).1
  simp only [crcCheck, load32_eq h₁ (show (length.toNat : ℤ) - 4 = _ by simp [hn]),
    load16_eq hc (show (length.toNat : ℤ) - 2 = _ by simp [hn]; omega),
    load16_eq h₂ (show (length.toNat : ℤ) - 3 = _ by simp [hn]; omega), Option.bind_eq_bind,
    Option.bind_some, if_neg hno₁, if_neg hno₂, if_neg hno₃]
  exact crcAt_eq hh hl hc (by simp [hn]; omega) (read_eq hc (by simp [hn]; omega))
    (read_eq h₃ (by simp [hn]; omega))

end

/-! ## Frames -/

/-- A body in which 0x55 follows each 0xF5. -/
def Escaped (body : List Byte) : Prop :=
  ∀ i : ℕ, body[i]? = some 0xF5 → body[i + 1]? = some 0x55

theorem Escaped.last_ne {body : List Byte} (h : Escaped body) : body.getLast? ≠ some 0xF5 := by
  intro hl
  rcases List.eq_nil_or_concat' body with rfl | ⟨b, z, rfl⟩
  · cases hl
  · rw [List.getLast?_concat] at hl
    have hnext := h b.length (by rw [List.getElem?_concat_length, hl])
    rw [List.getElem?_eq_none (by simp)] at hnext
    cases hnext

theorem Escaped.no_pair {body : List Byte} (h : Escaped body) : ¬ [0xF5, 0xF5] <:+: body := by
  rintro ⟨p, s, rfl⟩
  have hnext := h p.length (by simp)
  simp at hnext

/-- The bytes of the CRC, the higher one first. -/
def crcBytes (data : List Byte) : List Byte :=
  [(crcCalculate data).extractLsb' 8 8, (crcCalculate data).extractLsb' 0 8]

/-- A frame, with its check field escaped. -/
def escapedFrame (header : Block Byte 4) (body : List Byte) : List Byte :=
  header.cells ++ body ++ stuffed (crcBytes (header.cells ++ body))

/-- The byte before the check field is not 0xF5. -/
theorem last_ne {header : Block Byte 4} {body : List Byte} (hlen : header.get 3 ≠ 0xF5)
    (hbody : Escaped body) : (header.cells ++ body).getLast? ≠ some 0xF5 := by
  rcases eq_or_ne body [] with rfl | hne
  · rw [List.append_nil, List.getLast?_eq_getElem?, header.size]
    intro h
    exact hlen (Block.get_eq_of_getElem? (i := 3) h)
  · rw [List.getLast?_append_of_ne_nil _ hne]
    exact hbody.last_ne

/-- **`crc_check` recognises every frame whose body and check field are escaped**: its four patterns
    do not overlap. -/
theorem crcCheck_escapedFrame {header : Block Byte 4} {body : List Byte}
    (hlen : header.get 3 ≠ 0xF5) (hbody : Escaped body)
    (hmax : (escapedFrame header body).length ≤ 250) :
    crcCheck (BitVec.ofNat 8 (escapedFrame header body).length)
      ⟨escapedFrame header body, rfl⟩ = some true := by
  have h₄ : (header.cells ++ body).length = 4 + body.length := by
    rw [List.length_append, header.size]
  -- the last two bytes before the check field
  obtain ⟨q, x, y, hq⟩ : ∃ q x y, header.cells ++ body = q ++ [x, y] := by
    rcases List.eq_nil_or_concat' (header.cells ++ body) with hnil | ⟨p, y, hp⟩
    · rw [hnil, List.length_nil] at h₄
      omega
    rcases List.eq_nil_or_concat' p with rfl | ⟨q, x, rfl⟩
    · rw [hp] at h₄
      simp at h₄
      omega
    · exact ⟨q, x, y, by rw [hp, List.append_assoc]; rfl⟩
  have hy : y ≠ 0xF5 := by
    rintro rfl
    exact last_ne hlen hbody (by rw [hq]; simp)
  have hn : (BitVec.ofNat 8 (escapedFrame header body).length).toNat =
      (escapedFrame header body).length := by
    rw [BitVec.toNat_ofNat]
    omega
  have hf : escapedFrame header body = q ++ [x, y] ++ stuffed (crcBytes (q ++ [x, y])) := by
    rw [escapedFrame, hq]
  rw [crcBytes] at hf
  generalize hh : (crcCalculate (q ++ [x, y])).extractLsb' 8 8 = h at hf
  generalize hl : (crcCalculate (q ++ [x, y])).extractLsb' 0 8 = l at hf
  have hcells : (Block.mk (n := (escapedFrame header body).length) _ rfl).cells =
      escapedFrame header body := rfl
  have hs : stuffed [h, l] = escape frameHeader 0x55 h ++ (escape frameHeader 0x55 l ++ []) := rfl
  rw [escape, escape] at hs
  by_cases h5 : h = frameHeader <;> by_cases l5 : l = frameHeader
  · rw [if_pos h5, if_pos l5] at hs
    rw [hs] at hf
    exact crcCheck_both hh.symm hl.symm h5 l5 (hcells.trans hf) (by rw [hn, hf]; simp)
  · rw [if_pos h5, if_neg l5] at hs
    rw [hs] at hf
    exact crcCheck_high hh.symm hl.symm h5 (hcells.trans hf) (by rw [hn, hf]; simp)
  · rw [if_neg h5, if_pos l5] at hs
    rw [hs] at hf
    exact crcCheck_low hy hh.symm hl.symm l5 (hcells.trans hf) (by rw [hn, hf]; simp)
  · rw [if_neg h5, if_neg l5] at hs
    rw [hs] at hf
    exact crcCheck_none hy hh.symm hl.symm h5 (hcells.trans hf) (by rw [hn, hf]; simp)

/-! ## The frames of `SendData` -/

theorem escaped_stuffed (payload : List Byte) : Escaped (stuffed payload) := by
  induction payload with
  | nil =>
    intro i h
    cases h
  | cons x xs ih =>
    intro i h
    rw [stuffed_cons] at h ⊢
    by_cases hx : x = frameHeader
    · rw [escape, if_pos hx] at h ⊢
      rcases i with _ | _ | i
      · rfl
      · exact absurd (Option.some.inj h) (by decide)
      · exact ih i h
    · rw [escape, if_neg hx] at h ⊢
      rcases i with _ | i
      · exact absurd (Option.some.inj h) hx
      · exact ih i h

theorem crcCheck_sample : crcCheck
    (BitVec.ofNat 8 (escapedFrame ⟨[0xF5, 0xF5, 0x00, 0x04], rfl⟩ (stuffed [0x03, 0xF5])).length)
    ⟨escapedFrame ⟨[0xF5, 0xF5, 0x00, 0x04], rfl⟩ (stuffed [0x03, 0xF5]), rfl⟩ = some true :=
  crcCheck_escapedFrame (by decide) (escaped_stuffed _) (by decide +kernel)

/-- What `SendData` writes for a frame with a CRC is such a frame. -/
theorem wireFrame_eq {ctrl : Byte} (hc : crctype ctrl = 0) (payload : List Byte) :
    wireFrame ctrl payload =
      escapedFrame ⟨[0xF5, 0xF5, ctrl, BitVec.ofNat 8 (payload.length + 2)], rfl⟩
        (stuffed payload) := by
  rw [wireFrame, checkBytes, if_pos hc, escapedFrame, crcBytes, crcCalculate_eq]
  rfl

end MxchipSpp
