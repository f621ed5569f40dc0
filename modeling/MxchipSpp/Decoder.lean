/-
  What `FrameDataHandle` decodes, without `OLD`.

  The length byte says how many values are taken out of the raw frame, the data
  and then two for the check field; after each `0xF5` a byte is skipped.  The
  call returns exactly if the values fit their array and lie in the buffer,
  with the zeros that the buffer holds behind the frame
  (`frameDataNew_decoded`, `exists_decoded`); then the check field decides.
-/
import MxchipSpp.Lib.Stuffing
import MxchipSpp.FrameData

namespace MxchipSpp

open Memory Stuffing

/-- The test of the check field in `FrameDataHandle`, on the frame `body` with `[hi, lo]`. -/
def errorOf (ctrl : Byte) (body : List Byte) (hi lo : Byte) : ℕ :=
  if crctype ctrl = 0 then if hi ++ lo ≠ crcCal body then 1 else 0
  else if crctype ctrl = 1 then if hi ≠ sumCheck (body.drop 3) then 1 else 0
  else if crctype ctrl = 2 then if hi ≠ xorCheck (body.drop 3) then 1 else 0
  else 0

/-- The buffer holds the data `payload` up to index `i`, and then the check field `[hi, lo]`. -/
structure Decoded (raw : Block Byte 250) (i : ℕ) (payload : List Byte) (hi lo : Byte) : Prop where
  data : unstuff frameHeader ((raw.get 3).toNat - 2) (raw.cells.drop 4) =
    some (payload, raw.cells.drop i)
  check : ∃ rest, unstuff frameHeader 2 (raw.cells.drop i) = some ([hi, lo], rest)

section
variable {d e : Dev} {raw : Block Byte 250} {i : ℕ} {payload : List Byte} {hi lo : Byte} {f : Bool}
  {templen : ℕ}

theorem setData_eq (buf : Block Byte 136) {j : ℕ} (x : Byte) (hj : j < 131) :
    setData buf j x = some (buf.put (4 + j) [x] (by simp; omega)) := by
  rw [setData, if_pos hj, Block.write_of_le]

/-- A value behind which the next one is read. -/
theorem drop_cells_next {y : Byte} {ys : List Byte} (h : raw.cells.drop i = y :: ys) :
    raw.cells.drop (if y = frameHeader then i + 2 else i + 1) =
      if y = frameHeader then ys.drop 1 else ys := by
  have h₁ : raw.cells.drop (i + 1) = ys := by rw [← List.drop_drop, h]; rfl
  split_ifs
  · rw [← List.drop_drop (i := 1) (j := i + 1), h₁]
  · exact h₁

/-- **The loop of `FrameDataHandle` reads stuffed bytes.** -/
theorem unescape_spec (raw : Block Byte 250) {n : ℕ} : ∀ (buf : Block Byte 136) {i j : ℕ}
    {data rest : List Byte} (_ : unstuff frameHeader n (raw.cells.drop i) = some (data, rest))
    (_ : j + n ≤ 131) (h : 4 + j + data.length ≤ 136),
    ∃ i', unescape raw n i j buf = some (i', buf.put (4 + j) data h) ∧ raw.cells.drop i' = rest := by
  induction n with
  | zero => rintro buf i j data rest hu - h; cases hu; exact ⟨i, by simp [unescape], rfl⟩
  | succ n ih =>
    intro buf i j data rest hu hj h
    cases hys : raw.cells.drop i with
    | nil => rw [hys] at hu; cases hu
    | cons y ys =>
      rw [hys, unstuff] at hu
      obtain ⟨⟨data', rest'⟩, hu', hd⟩ := Option.map_eq_some_iff.1 hu
      cases hd
      have hread : raw.read i = some y := Block.read_eq_some_iff.2 ⟨ys, hys⟩
      rw [← drop_cells_next hys] at hu'
      have hl := length_unstuff hu'
      simp only [List.length_cons] at h hl
      obtain ⟨i', h₁, h₂⟩ := ih (buf.put (4 + j) [y] (by simp; omega)) (j := j + 1) hu'
        (by omega) (by omega)
      refine ⟨i', ?_, h₂⟩
      simp only [unescape, hread, setData_eq buf y (show j < 131 by omega), Option.bind_eq_bind,
        Option.bind_some]
      rw [h₁, Block.put_put _ _ _ (by simp; omega) (by simp; omega)]
      rfl

/-- Where the loop returns, the values were there. -/
theorem unescape_unstuff {n : ℕ} : ∀ {buf buf' : Block Byte 136} {i i' j : ℕ},
    unescape raw n i j buf = some (i', buf') →
    ∃ data, unstuff frameHeader n (raw.cells.drop i) = some (data, raw.cells.drop i') := by
  induction n with
  | zero => rintro buf buf' i i' j h; cases h; exact ⟨[], rfl⟩
  | succ n ih =>
    intro buf buf' i i' j h
    rw [unescape] at h
    obtain ⟨y, hy, h⟩ := Option.bind_eq_some_iff.1 h
    obtain ⟨buf₁, -, h⟩ := Option.bind_eq_some_iff.1 h
    obtain ⟨data, hd⟩ := ih h
    obtain ⟨ys, hys⟩ := Block.read_eq_some_iff.1 hy
    rw [drop_cells_next hys] at hd
    exact ⟨y :: data, by rw [hys, unstuff, hd]; rfl⟩

/-- The two bytes of the check field, read as `FrameDataHandle` does. -/
theorem read_check_iff :
    (∃ rest, unstuff frameHeader 2 (raw.cells.drop i) = some ([hi, lo], rest)) ↔
      raw.read i = some hi ∧
        raw.read (if hi = frameHeader then (i : ℤ) + 2 else i + 1) = some lo := by
  have hnext : (if hi = frameHeader then (i : ℤ) + 2 else i + 1) =
      ((if hi = frameHeader then i + 2 else i + 1 : ℕ) : ℤ) := by split_ifs <;> rfl
  rw [hnext, Block.read_eq_some_iff, Block.read_eq_some_iff]
  constructor
  · rintro ⟨rest, h⟩
    cases hys : raw.cells.drop i with
    | nil => rw [hys] at h; cases h
    | cons y ys =>
      rw [hys, unstuff] at h
      obtain ⟨⟨l, rest₁⟩, h₁, h₂⟩ := Option.map_eq_some_iff.1 h
      cases h₂
      refine ⟨⟨ys, rfl⟩, ?_⟩
      rw [drop_cells_next hys]
      cases hzs : (if hi = frameHeader then ys.drop 1 else ys) with
      | nil => rw [hzs] at h₁; cases h₁
      | cons z zs =>
        rw [hzs] at h₁
        cases h₁
        exact ⟨zs, rfl⟩
  · rintro ⟨⟨ys, hys⟩, ⟨zs, hzs⟩⟩
    rw [drop_cells_next hys] at hzs
    exact ⟨_, by rw [hys, unstuff, hzs]; rfl⟩

/-- The check field lies behind the first four bytes, in the buffer. -/
theorem Decoded.index (h : Decoded raw i payload hi lo) : 4 ≤ i ∧ i < 250 := by
  obtain ⟨rest, hc⟩ := h.check
  have h₁ := length_rest_unstuff h.data
  have h₂ := length_rest_unstuff hc
  simp only [List.length_drop, Block.length_cells] at h₁ h₂
  omega

/-- The structure `FrameDataHandle` fills: two bytes of head, then `l`. -/
theorem slice_filled (buf : Block Byte 136) {l : List Byte} (h : 2 + l.length ≤ 136) :
    (buf.put 2 l h).slice 0 (2 + l.length) = some (buf.cells.take 2 ++ l) := by
  have h₂ : (buf.cells.take 2).length = 2 := by simp
  rw [Block.slice_of_le _ (by omega), Block.cells_put, List.drop_zero, ← List.append_assoc,
    List.take_left' (by simp)]

theorem get_filled (buf : Block Byte 136) {l : List Byte} (h : 2 + l.length ≤ 136) {k : Fin 136}
    {x : Byte} (hk : 2 ≤ (k : ℕ)) (hx : l[(k : ℕ) - 2]? = some x) : (buf.put 2 l h).get k = x := by
  apply Block.get_eq_of_getElem?
  have := (List.getElem?_eq_some_iff.1 hx).1
  rw [Block.put_getElem?, if_neg (by omega), if_pos (by omega), hx]

/-- **What the decoder makes of a frame**: the control byte, the length and the values behind two
    bytes of head; the check field decides about it. -/
theorem frameDataNew_decoded (h : Decoded raw i payload hi lo) (hl : (raw.get 3).toNat ≤ 131)
    (d : Dev) (f : Bool) (templen : ℕ) :
    ∃ (t : Block Byte 136) (hfill : 2 + ([raw.get 2, raw.get 3] ++ payload ++ [hi, lo]).length ≤ 136),
      frameDataNew f d raw templen = endHandle d (errorOf (raw.get 2) (raw.cells.take i) hi lo)
        (t.put 2 ([raw.get 2, raw.get 3] ++ payload ++ [hi, lo]) hfill) := by
  have hn := length_unstuff h.data
  have hi₄ := h.index
  change payload.length = _ at hn
  have h₀ : (if f then 1 else 0) + [raw.get 0, raw.get 1].length ≤ 136 := by
    split_ifs <;> simp
  have h₁ : 2 + [raw.get 2, raw.get 3].length ≤ 136 := by simp
  set t := (Block.fill 136 (0 : Byte)).put _ _ h₀ with ht
  have hfill : 2 + ([raw.get 2, raw.get 3] ++ payload ++ [hi, lo]).length ≤ 136 := by simp; omega
  refine ⟨t, hfill, ?_⟩
  have hg₂ : (t.put 2 [raw.get 2, raw.get 3] h₁).get 2 = raw.get 2 := get_filled t h₁ (by decide) rfl
  have hg₃ : (t.put 2 [raw.get 2, raw.get 3] h₁).get 3 = raw.get 3 := get_filled t h₁ (by decide) rfl
  have hj : (raw.get 3).toNat - 2 = payload.length := hn.symm
  have hun := h.data
  rw [hj] at hun
  obtain ⟨i', hu, hi'⟩ := unescape_spec raw (t.put 2 [raw.get 2, raw.get 3] h₁) (j := 0) hun
    (by omega) (by omega)
  have hii : i' = i := by
    have := congrArg List.length hi'
    simp only [List.length_drop, Block.length_cells] at this
    omega
  subst hii
  obtain ⟨hhi, hlo⟩ := read_check_iff.1 h.check
  have hbuf : (((t.put 2 [raw.get 2, raw.get 3] h₁).put 4 payload (by omega)).put
      (4 + payload.length) [hi] (by simp; omega)).put (4 + (payload.length + 1)) [lo]
        (by simp; omega) = t.put 2 ([raw.get 2, raw.get 3] ++ payload ++ [hi, lo]) hfill := by
    rw [Block.put_put _ _ _ rfl (by simp; omega), Block.put_put _ _ _ (by simp) (by simp; omega),
      Block.put_put _ _ _ (by simp) (by simp; omega)]
    simp
  have hs : raw.slice 0 i' = some (raw.cells.take i') := by
    rw [Block.slice_of_le _ (by omega), List.drop_zero]
  have hs₃ : raw.slice 3 (i' - 3) = some ((raw.cells.take i').drop 3) := by
    rw [Block.slice_of_le _ (by omega), ← List.drop_take]
  simp only [frameDataNew, Block.write_of_le _ h₀, Block.write_of_le _ h₁, Option.bind_eq_bind,
    Option.bind_some, ← ht, hg₂, hg₃, hj, hu, hhi, hlo,
    setData_eq _ _ (show payload.length < 131 by omega),
    setData_eq _ _ (show payload.length + 1 < 131 by omega), hbuf, hs, hs₃, decoding, errorOf]
  split_ifs <;> first | rfl | simp_all

/-- **The check field decides**: the record is offered to the FIFO, or an error noted. -/
theorem frameDataNew_cases (h : Decoded raw i payload hi lo) (hl : (raw.get 3).toNat ≤ 131)
    (d : Dev) (f : Bool) (templen : ℕ) :
    ∃ e, frameDataNew f d raw templen = some e ∧
      (errorOf (raw.get 2) (raw.cells.take i) hi lo = 0 →
        ∃ r, r.length = (raw.get 3).toNat + 4 ∧ Offered (d.setError 4) r e) ∧
      (errorOf (raw.get 2) (raw.cells.take i) hi lo ≠ 0 → ∃ n, e = d.setError n) := by
  obtain ⟨t, hfill, he⟩ := frameDataNew_decoded h hl d f templen
  set buf := t.put 2 ([raw.get 2, raw.get 3] ++ payload ++ [hi, lo]) hfill with hbuf
  have hg : buf.get 3 = raw.get 3 := get_filled t hfill (by decide) rfl
  obtain ⟨r, hr⟩ := Option.isSome_iff_exists.1
    (Block.slice_isSome.2 (show 0 + ((buf.get 3).toNat + 4) ≤ 136 by rw [hg]; omega))
  obtain ⟨e, he', ho⟩ := inputRecord_spec (d.setError 4) buf hr
  rw [he]
  by_cases herr : errorOf (raw.get 2) (raw.cells.take i) hi lo = 0
  · rw [endHandle, if_pos herr]
    exact ⟨e, he', fun _ => ⟨r, by rw [Block.length_of_slice hr, hg], ho⟩, absurd herr⟩
  · rw [endHandle, if_neg herr]
    exact ⟨_, rfl, fun h => absurd h herr, fun _ => ⟨_, rfl⟩⟩

/-- A frame that is decoded without an access out of bounds. -/
theorem exists_decoded (h : frameDataNew f d raw templen = some e) :
    (raw.get 3).toNat ≤ 131 ∧ ∃ i payload hi lo, Decoded raw i payload hi lo := by
  have h₀ : (if f then 1 else 0) + [raw.get 0, raw.get 1].length ≤ 136 := by
    split_ifs <;> simp
  have h₁ : 2 + [raw.get 2, raw.get 3].length ≤ 136 := by simp
  set t := (Block.fill 136 (0 : Byte)).put _ _ h₀ with ht
  have hg₃ : (t.put 2 [raw.get 2, raw.get 3] h₁).get 3 = raw.get 3 := get_filled t h₁ (by decide) rfl
  simp only [frameDataNew, Block.write_of_le _ h₀, Block.write_of_le _ h₁, Option.bind_eq_bind,
    Option.bind_some, ← ht, hg₃] at h
  obtain ⟨⟨i, buf⟩, hu, h⟩ := Option.bind_eq_some_iff.1 h
  obtain ⟨hi, hhi, h⟩ := Option.bind_eq_some_iff.1 h
  obtain ⟨buf₁, -, h⟩ := Option.bind_eq_some_iff.1 h
  obtain ⟨lo, hlo, h⟩ := Option.bind_eq_some_iff.1 h
  obtain ⟨buf₂, hset, -⟩ := Option.bind_eq_some_iff.1 h
  obtain ⟨payload, hd⟩ := unescape_unstuff hu
  refine ⟨?_, i, payload, hi, lo, hd, read_check_iff.2 ⟨hhi, hlo⟩⟩
  by_contra hl
  rw [setData, if_neg (by omega)] at hset
  cases hset

end

end MxchipSpp
