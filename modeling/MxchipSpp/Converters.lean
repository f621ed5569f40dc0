/-
  The two converters of a status frame of the old protocol: `OldToNew`
  (devproanaly.c) and `hex_uart_to_char` (mico_tcl_ota.c, with
  `EN_BASE64_TO_F5F5`).

  They carry the same fields in the same order, from index 5 and from index 1
  on.  `OldToNew` writes no power byte for a code other than 1 and 2, so that
  the rest of its record moves up, and it writes how far a temperature is from
  the offset of 50, without the sign.
-/
import MxchipSpp.FrameData
import MxchipSpp.Geniot

namespace MxchipSpp

open Memory Endian

/-! ## `hex_uart_to_char` -/

/-- `FRAME_STATUS` -/
def frameStatus : Byte := 0x02

/-- The bytes `hex_uart_to_char` makes of the time the filter has run. -/
def filterTime (time : BitVec 16) : List Byte :=
  if time < 1200 then le16 (htons (1200 - time)) else [0, 0]

/-- The bytes `hex_uart_to_char` writes; `f` is the frame, and `buf` is `f + 8`. -/
def uartStatus (f : Block Byte 31) : List Byte :=
  [frameStatus, if f.get 11 = 1 then 1 else 0, f.get 12 &&& 0x01, (f.get 13 &&& 0x10) >>> 4,
   f.get 14, f.get 15, f.get 16, f.get 17] ++
    filterTime (f.get 19 ++ f.get 18) ++
    [f.get 21, f.get 20] ++ le16 (htons ((f.get 24).setWidth 16 - 50)) ++
    [0, f.get 25, f.get 23]

/-- `hex_uart_to_char(out, f + 8)` -/
def hexUartToChar (out f : Block Byte 31) : Option (Block Byte 31) := out.write 0 (uartStatus f)

/-! ## Agreement -/

/-- A record and a vector hold the same bytes, apart from those of the filter. -/
def FieldsAgree (newbuf : Block Byte 136) (out : Block Byte 31) : Prop :=
  ∀ k < 15, k ≠ 7 → k ≠ 8 → newbuf.cells[5 + k]? = out.cells[1 + k]?

/-- Both converters return, and what they wrote agrees. -/
def ConvertersAgree (d : Dev) (newbuf : Block Byte 136) (out f : Block Byte 31) : Prop :=
  ∃ d' newbuf' out', oldToNew d newbuf (bufferOf f.cells) = some (d', newbuf') ∧
    hexUartToChar out f = some out' ∧ FieldsAgree newbuf' out'

/-- The record has every field at its place, and the temperature is not below its offset. -/
def Aligned (f : Block Byte 31) : Prop := (f.get 11 = 1 ∨ f.get 11 = 2) ∧ 50 ≤ f.get 24

/-- The record has moved up, but every field of it is 0, and so is the byte that was behind it. -/
structure Blank (f : Block Byte 31) (newbuf : Block Byte 136) : Prop where
  power : ¬ (f.get 11 = 1 ∨ f.get 11 = 2)
  auto : f.get 12 &&& 0x01 = 0
  humidify : f.get 13 &&& 0x10 = 0
  fields : ∀ i ∈ [14, 15, 16, 17, 19, 20, 21, 25], f.get i = 0
  temperature : f.get 24 = 50
  behind : newbuf.get 19 = 0

/-! ## What `hex_uart_to_char` leaves -/

variable {d : Dev} {newbuf : Block Byte 136} {out f : Block Byte 31}

theorem length_filterTime (time : BitVec 16) : (filterTime time).length = 2 := by
  unfold filterTime
  split_ifs <;> rfl

theorem length_uartStatus (f : Block Byte 31) : (uartStatus f).length = 17 := by
  simp [uartStatus, length_filterTime]

theorem hexUartToChar_cells (out f : Block Byte 31) :
    ∃ out', hexUartToChar out f = some out' ∧ out'.cells = uartStatus f ++ out.cells.drop 17 := by
  have w : 0 + (uartStatus f).length ≤ 31 := by rw [length_uartStatus]; omega
  exact ⟨_, Block.write_of_le _ w, by rw [Block.cells_put_zero, length_uartStatus]⟩

/-- The fields before the filter, and those behind it. -/
theorem fieldsAgree_iff {out : Block Byte 31} :
    FieldsAgree newbuf out ↔
      (newbuf.cells.drop 5).take 7 = (out.cells.drop 1).take 7 ∧
        (newbuf.cells.drop 14).take 6 = (out.cells.drop 10).take 6 := by
  rw [take_drop_eq_iff, take_drop_eq_iff]
  constructor
  · intro h
    refine ⟨fun k hk => h k (by omega) (by omega) (by omega), fun k hk => ?_⟩
    have := h (9 + k) (by omega) (by omega) (by omega)
    rwa [← Nat.add_assoc, ← Nat.add_assoc] at this
  · rintro ⟨h₁, h₂⟩ k hk h₇ h₈
    rcases Nat.lt_or_ge k 7 with hk' | hk'
    · exact h₁ k hk'
    · obtain ⟨j, rfl⟩ := Nat.exists_eq_add_of_le (show 9 ≤ k by omega)
      have := h₂ j (by omega)
      rwa [← Nat.add_assoc, ← Nat.add_assoc]

/-! ## The bytes, field by field -/

theorem get_bufferOf_cells (f : Block Byte 31) (i : Fin 31) :
    (bufferOf f.cells).get (i.castLE (by decide)) = f.get i := by
  rw [get_bufferOf]
  simp [Block.get]

theorem uartStatus_front (out f : Block Byte 31) :
    ((uartStatus f ++ out.cells.drop 17).drop 1).take 7 =
      [if f.get 11 = 1 then 1 else 0, f.get 12 &&& 0x01, (f.get 13 &&& 0x10) >>> 4,
       f.get 14, f.get 15, f.get 16, f.get 17] := rfl

theorem uartStatus_back (out f : Block Byte 31) :
    ((uartStatus f ++ out.cells.drop 17).drop 10).take 6 =
      [f.get 21, f.get 20] ++ le16 (htons ((f.get 24).setWidth 16 - 50)) ++ [0, f.get 25] := by
  have hl := length_filterTime (f.get 19 ++ f.get 18)
  obtain ⟨x, y, hxy⟩ := List.length_eq_two.1 hl
  rw [uartStatus, hxy]
  rfl

/-- How far a temperature is from its offset. -/
def distance (t : Byte) : Byte := if 50 ≤ t then t - 50 else 50 - t

/-- The two bytes of a temperature: the high one is not 0 below the offset. -/
theorem le16_temperature : ∀ t : Byte,
    le16 (htons (t.setWidth 16 - 50)) = [if 50 ≤ t then 0 else 0xFF, t - 50] := by
  decide +kernel

theorem auto_bit : ∀ x : Byte, (if x &&& 0x01 = 0 then (0 : Byte) else 1) = x &&& 0x01 := by
  decide +kernel

theorem humidify_bit : ∀ x : Byte,
    (if x &&& 0x10 = 0 then (0 : Byte) else 1) = (x &&& 0x10) >>> 4 := by
  decide +kernel

theorem humidify_eq_zero : ∀ x : Byte, (x &&& 0x10) >>> 4 = 0 ↔ x &&& 0x10 = 0 := by
  decide +kernel

/-- The status record in the fields of the frame. -/
theorem oldStatus_bufferOf (f : Block Byte 31) :
    oldStatus (bufferOf f.cells) = [frameHeader, frameHeader, 0, 18, cmdSte] ++
      (if f.get 11 = 1 then ([1] : List Byte) else if f.get 11 = 2 then [0] else []) ++
      [f.get 12 &&& 0x01, (f.get 13 &&& 0x10) >>> 4, f.get 14, f.get 15, f.get 16, f.get 17,
       f.get 19, f.get 18, f.get 21, f.get 20, 0, distance (f.get 24), 0, f.get 25] := by
  have g := get_bufferOf_cells f
  rw [oldStatus, auto_bit, humidify_bit]
  simp only [← g]
  rfl

/-- Agreement, before the filter and behind it. -/
theorem convertersAgree_iff_slices :
    ConvertersAgree d newbuf out f ↔
      ((oldStatus (bufferOf f.cells) ++
          newbuf.cells.drop (oldStatus (bufferOf f.cells)).length).drop 5).take 7 =
        [if f.get 11 = 1 then 1 else 0, f.get 12 &&& 0x01, (f.get 13 &&& 0x10) >>> 4,
         f.get 14, f.get 15, f.get 16, f.get 17] ∧
      ((oldStatus (bufferOf f.cells) ++
          newbuf.cells.drop (oldStatus (bufferOf f.cells)).length).drop 14).take 6 =
        [f.get 21, f.get 20, if 50 ≤ f.get 24 then 0 else 0xFF, f.get 24 - 50, 0, f.get 25] := by
  obtain ⟨d', newbuf', hn, hn', -⟩ := oldToNew_leaves d newbuf (bufferOf f.cells)
  obtain ⟨out', ho, ho'⟩ := hexUartToChar_cells out f
  have hback := uartStatus_back out f
  rw [le16_temperature] at hback
  have hiff : ConvertersAgree d newbuf out f ↔ FieldsAgree newbuf' out' := by
    constructor
    · rintro ⟨d₁, n₁, o₁, h₁, h₂, h⟩
      rw [hn] at h₁
      rw [ho] at h₂
      cases h₁
      cases h₂
      exact h
    · exact fun h => ⟨d', newbuf', out', hn, ho, h⟩
  rw [hiff, fieldsAgree_iff, hn', ho', uartStatus_front, hback]
  rfl

/-- Where the temperature is not below its offset, `OldToNew` writes it. -/
theorem distance_iff (t : Byte) :
    (0 : Byte) = (if 50 ≤ t then 0 else 0xFF) ∧ distance t = t - 50 ↔ 50 ≤ t := by
  unfold distance
  split_ifs with h
  · exact iff_of_true ⟨rfl, rfl⟩ h
  · exact iff_of_false (fun h' => absurd h'.1 (by decide)) h

/-- With a power byte every field is at its place, and the temperature decides. -/
theorem convertersAgree_of_power (h : f.get 11 = 1 ∨ f.get 11 = 2) :
    ConvertersAgree d newbuf out f ↔ 50 ≤ f.get 24 := by
  rw [convertersAgree_iff_slices, oldStatus_bufferOf]
  refine Iff.trans ?_ (distance_iff (f.get 24))
  rcases h with h | h
  all_goals
    rw [h]
    simp

/-- Without one the record has moved up, and each field is compared with the next. -/
theorem convertersAgree_of_not_power (h : ¬ (f.get 11 = 1 ∨ f.get 11 = 2)) :
    ConvertersAgree d newbuf out f ↔ Blank f newbuf := by
  have hb : (newbuf.cells.drop 19).take 1 = [newbuf.get 19] := by
    rw [List.take_one, List.head?_drop]
    exact congrArg Option.toList (newbuf.getElem?_eq_get 19)
  obtain ⟨h₁, h₂⟩ := not_or.1 h
  rw [convertersAgree_iff_slices, oldStatus_bufferOf, if_neg h₁, if_neg h₂, if_neg h₁]
  change [f.get 12 &&& 0x01, (f.get 13 &&& 0x10) >>> 4, f.get 14, f.get 15, f.get 16, f.get 17,
      f.get 19] = _ ∧
    [f.get 20, 0, distance (f.get 24), 0, f.get 25] ++ (newbuf.cells.drop 19).take 1 = _ ↔ _
  rw [hb]
  simp only [List.cons_append, List.nil_append, List.cons.injEq, and_true]
  constructor
  · rintro ⟨⟨e₀, e₁, e₂, e₃, e₄, e₅, e₆⟩, e₇, e₈, -, e₉, e₁₀, e₁₁⟩
    rw [e₀] at e₁
    rw [e₁] at e₂
    rw [e₂] at e₃
    rw [e₃] at e₄
    rw [e₄] at e₅
    rw [e₅] at e₆
    rw [← e₈] at e₇
    rw [e₁₀] at e₁₁
    refine ⟨h, e₀, (humidify_eq_zero _).1 e₁, ?_, (BitVec.sub_eq_iff_eq_add.1 e₉.symm), e₁₁⟩
    simp [e₂, e₃, e₄, e₅, e₆, ← e₇, ← e₈, e₁₀]
  · intro hf
    have hz : f.get 14 = 0 ∧ f.get 15 = 0 ∧ f.get 16 = 0 ∧ f.get 17 = 0 ∧ f.get 19 = 0 ∧
        f.get 20 = 0 ∧ f.get 21 = 0 ∧ f.get 25 = 0 := by
      simpa using hf.fields
    obtain ⟨z₁₄, z₁₅, z₁₆, z₁₇, z₁₉, z₂₀, z₂₁, z₂₅⟩ := hz
    rw [hf.auto, (humidify_eq_zero _).2 hf.humidify, hf.temperature, hf.behind, z₁₄, z₁₅, z₁₆,
      z₁₇, z₁₉, z₂₀, z₂₁, z₂₅]
    decide

/-- **When the converters agree**: every field of the record is at its place and the temperature is
    not below its offset, or there is nothing in the frame that could be out of place. -/
theorem convertersAgree_iff (d : Dev) (newbuf : Block Byte 136) (out f : Block Byte 31) :
    ConvertersAgree d newbuf out f ↔ Aligned f ∨ Blank f newbuf := by
  by_cases h : f.get 11 = 1 ∨ f.get 11 = 2
  · rw [convertersAgree_of_power h, or_iff_left fun hb => hb.power h]
    exact (and_iff_right h).symm
  · rw [convertersAgree_of_not_power h, or_iff_right fun ha => h ha.1]

/-- The frame of a device that is on, with another byte at an index. -/
def sampleWith (i : Fin 31) (x : Byte) : Block Byte 31 := Block.set ⟨sampleFrame, rfl⟩ i x

/-- **The converters do not always agree**: not on a frame with the power byte 0, and not on one
    with a temperature of one below the offset. -/
theorem converters_disagree :
    ¬ ConvertersAgree devParaInit (.fill 136 0) (.fill 31 0) (sampleWith 11 0) ∧
      ¬ ConvertersAgree devParaInit (.fill 136 0) (.fill 31 0) (sampleWith 24 49) := by
  constructor
  · rw [convertersAgree_of_not_power (by decide)]
    exact fun h => absurd h.auto (by decide)
  · rw [convertersAgree_of_power (by decide)]
    decide

end MxchipSpp
