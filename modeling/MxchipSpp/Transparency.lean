/-
  Escaping in a buffer (`add_f5_55` and `del_f5_55` in mico_tcl_ota.c).

  `add_f5_55` goes over the bytes behind the header with two indices, and
  `del_f5_55` back over what it wrote, looking one byte ahead.  The loop of
  `del_f5_55` reads any line as `destuff` does, as long as there is a byte to
  look at behind a last 0xF5 (`delLoop_eq`); what `add_f5_55` wrote does not
  end with one, so it is read back from a buffer that ends with it
  (`addF555_transparent`).
-/
import MxchipSpp.CrcCheck
import MxchipSpp.Datagram

namespace MxchipSpp

open Memory Stuffing

section
variable {n : ℕ}

/-- `0xf5==date[i]&&0x55==date[i+1]` -/
def escapedAt (date : Block Byte n) (i : ℕ) : Option Bool := do
  if (← date.read i) = 0xF5 then
    return (← date.read (i + 1 : ℕ)) = 0x55
  else
    return false

/-- The loop of `del_f5_55`, with `k` bytes left from `date[i]` on; on `temp` and `j`. -/
def delLoop (date : Block Byte n) : ℕ → ℕ → Block Byte 128 × ℕ → Option (Block Byte 128 × ℕ)
  | 0, _, temp => some temp
  | k + 1, i, temp => do
    if ← escapedAt date i then
      let t ← temp.1.write temp.2 [← date.read i]
      -- the byte behind it may be past `len` already
      match k with
      | 0 => return (t, temp.2 + 1)
      | k + 1 => delLoop date k (i + 2) (t, temp.2 + 1)
    else
      let t ← temp.1.write temp.2 [← date.read i]
      delLoop date k (i + 1) (t, temp.2 + 1)

/-- `del_f5_55`, on a buffer of `n` bytes. -/
def delF555 (date : Block Byte n) (len : ℕ) : Option (Block Byte n × ℕ) := do
  let temp ← (Block.fill 128 (0 : Byte)).write 0 (← date.slice 0 4)
  let (temp, j) ← delLoop date (len - 4) 4 (temp, 4)
  let date ← date.write 0 (← temp.slice 0 j)
  return (date, j)

end

/-! ## The loop of `del_f5_55` -/

section
variable {n : ℕ} {date : Block Byte n} {i : ℕ} {x y : Byte} {s : List Byte}

theorem read_of_drop (h : date.cells.drop i = x :: s) : date.read i = some x :=
  Block.read_eq_some_iff.2 ⟨s, h⟩

theorem drop_succ_of_drop (h : date.cells.drop i = x :: s) : date.cells.drop (i + 1) = s := by
  rw [← List.drop_drop, h]
  rfl

theorem escapedAt_of_ne (h : date.cells.drop i = x :: s) (hx : x ≠ 0xF5) :
    escapedAt date i = some false := by
  rw [escapedAt, read_of_drop h, Option.bind_eq_bind, Option.bind_some, if_neg hx]
  rfl

theorem escapedAt_eq (h : date.cells.drop i = x :: y :: s) :
    escapedAt date i = some (decide (x = frameHeader ∧ y = 0x55)) := by
  by_cases hx : x = 0xF5
  · rw [escapedAt, read_of_drop h, Option.bind_eq_bind, Option.bind_some, if_pos hx,
      read_of_drop (drop_succ_of_drop h), Option.bind_some]
    simp only [hx, frameHeader, true_and]
    rfl
  · rw [escapedAt_of_ne h hx]
    simp only [frameHeader, hx, false_and, decide_false]

variable {t : Block Byte 128} {j k : ℕ} (hx : date.read i = some x) (hj : j + [x].length ≤ 128)
include hx

theorem delLoop_next (he : escapedAt date i = some false) :
    delLoop date (k + 1) i (t, j) = delLoop date k (i + 1) (t.put j [x] hj, j + 1) := by
  simp only [delLoop, he, hx, Block.write_of_le _ hj, Option.bind_eq_bind, Option.bind_some]
  rfl

theorem delLoop_skip (he : escapedAt date i = some true) :
    delLoop date (k + 2) i (t, j) = delLoop date k (i + 2) (t.put j [x] hj, j + 1) := by
  simp only [delLoop, he, hx, Block.write_of_le _ hj, Option.bind_eq_bind, Option.bind_some, if_true]

/-- Behind the last byte it does not matter whether the next one is skipped. -/
theorem delLoop_last {b : Bool} (he : escapedAt date i = some b) :
    delLoop date 1 i (t, j) = some (t.put j [x] hj, j + 1) := by
  cases b with
  | false => rw [delLoop_next hx hj he, delLoop]
  | true =>
    simp only [delLoop, he, hx, Block.write_of_le _ hj, Option.bind_eq_bind, Option.bind_some,
      if_true]
    rfl

end

/-- One turn that pushes a byte, and the turns that push the others. -/
theorem delLoop_push {n : ℕ} {date : Block Byte n} {k k' i i' j : ℕ} {t : Block Byte 128} {x : Byte}
    {xs : List Byte} (h : j + (x :: xs).length ≤ 128)
    (hturn : ∀ h₁, delLoop date k i (t, j) = delLoop date k' i' (t.put j [x] h₁, j + 1))
    (hrest : ∀ (t' : Block Byte 128) (h₂ : j + 1 + xs.length ≤ 128),
      delLoop date k' i' (t', j + 1) = some (t'.put (j + 1) xs h₂, j + 1 + xs.length)) :
    delLoop date k i (t, j) = some (t.put j (x :: xs) h, j + (x :: xs).length) := by
  have hlen : j + (x :: xs).length = j + 1 + xs.length := by rw [List.length_cons]; omega
  have h₁ : j + [x].length ≤ 128 := by rw [List.length_singleton]; omega
  have h₂ : j + 1 + xs.length ≤ 128 := hlen ▸ h
  rw [hturn h₁, hrest _ h₂, Block.put_put t h₁ h₂ rfl h, hlen]
  rfl

/-- The loop reads any line; it looks at the byte behind a last 0xF5. -/
theorem delLoop_eq {n : ℕ} {date : Block Byte n} (src : List Byte) :
    ∀ {i j : ℕ} {rest : List Byte} (t : Block Byte 128), date.cells.drop i = src ++ rest →
      (src.getLast? = some 0xF5 → rest ≠ []) →
      (h : j + (destuff frameHeader 0x55 src).length ≤ 128) →
      delLoop date src.length i (t, j) =
        some (t.put j (destuff frameHeader 0x55 src) h,
          j + (destuff frameHeader 0x55 src).length) := by
  induction src using destuff.induct frameHeader (0x55 : Byte) with
  | case1 =>
    intro i j rest t _ _ h
    simp [destuff, delLoop]
  | case2 x =>
    intro i j rest t hd hl h
    obtain ⟨b, he⟩ : ∃ b, escapedAt date i = some b := by
      by_cases hx : x = 0xF5
      · obtain ⟨y, s, rfl⟩ := List.exists_cons_of_ne_nil (hl (by rw [hx]; rfl))
        exact ⟨_, escapedAt_eq hd⟩
      · exact ⟨_, escapedAt_of_ne hd hx⟩
    exact delLoop_last (read_of_drop hd) h he
  | case3 x y ys hxy ih =>
    intro i j rest t hd hl h
    have he : escapedAt date i = some true := by
      rw [escapedAt_eq hd, decide_eq_true hxy]
    have hds : destuff frameHeader 0x55 (x :: y :: ys) = x :: destuff frameHeader 0x55 ys := by
      rw [destuff, if_pos hxy]
    have hd' : date.cells.drop (i + 2) = ys ++ rest :=
      drop_succ_of_drop (drop_succ_of_drop hd)
    have hl' : ys.getLast? = some 0xF5 → rest ≠ [] := fun hy =>
      hl (by rw [List.getLast?_cons, List.getLast?_cons, hy]; rfl)
    simp only [hds] at h ⊢
    exact delLoop_push h (fun h₁ => delLoop_skip (read_of_drop hd) h₁ he) fun t' h₂ =>
      ih t' hd' hl' h₂
  | case4 x y ys hxy ih =>
    intro i j rest t hd hl h
    have he : escapedAt date i = some false := by
      rw [escapedAt_eq hd, decide_eq_false hxy]
    have hds : destuff frameHeader 0x55 (x :: y :: ys) = x :: destuff frameHeader 0x55 (y :: ys) := by
      rw [destuff, if_neg hxy]
    have hl' : (y :: ys).getLast? = some 0xF5 → rest ≠ [] := fun hy =>
      hl (by rw [List.getLast?_cons_cons, hy])
    simp only [hds] at h ⊢
    exact delLoop_push h (fun h₁ => delLoop_next (read_of_drop hd) h₁ he) fun t' h₂ =>
      ih t' (drop_succ_of_drop hd) hl' h₂

/-! ## The two functions -/

section
variable {n : ℕ} {date : Block Byte n} {header src rest : List Byte}

/-- `del_f5_55`, for any bytes behind a header. -/
theorem delF555_eq (h₄ : header.length = 4) (hd : date.cells = header ++ (src ++ rest))
    (hl : src.getLast? = some 0xF5 → rest ≠ [])
    (hs : 4 + (destuff frameHeader 0x55 src).length ≤ 128) :
    delF555 date (src.length + 4) =
      (date.write 0 (header ++ destuff frameHeader 0x55 src)).map
        (·, 4 + (destuff frameHeader 0x55 src).length) := by
  have hn : 4 ≤ n := by rw [← date.size, hd, List.length_append]; omega
  have hslice : date.slice 0 4 = some header := by
    rw [Block.slice_of_le _ (by omega), hd, List.drop_zero, List.take_left' h₄]
  have hdrop : date.cells.drop 4 = src ++ rest := by rw [hd, List.drop_left' h₄]
  have h₀ : 0 + header.length ≤ 128 := by omega
  have hout := Block.slice_put_put (.fill 128 (0 : Byte)) h₀ hs h₄.symm
  simp only [delF555, hslice, Option.bind_eq_bind, Option.bind_some, Block.write_of_le _ h₀,
    Nat.add_sub_cancel, delLoop_eq src _ hdrop hl hs, hout]
  cases date.write 0 (header ++ destuff frameHeader 0x55 src) <;> rfl

/-- Data escaped, behind its header. -/
def stuffedForm (src : List Byte) : List Byte := src.take 4 ++ stuffed (src.drop 4)

theorem take_stuffedForm (h₄ : 4 ≤ src.length) : (stuffedForm src).take 4 = src.take 4 :=
  List.take_left' (List.length_take_of_le h₄)

theorem drop_stuffedForm (h₄ : 4 ≤ src.length) : (stuffedForm src).drop 4 = stuffed (src.drop 4) :=
  List.drop_left' (List.length_take_of_le h₄)

theorem length_stuffedForm (h₄ : 4 ≤ src.length) :
    (stuffedForm src).length = (stuffed (src.drop 4)).length + 4 := by
  rw [stuffedForm, List.length_append, List.length_take_of_le h₄, Nat.add_comm]

/-- The stuffed form is read back, also where the buffer ends with it. -/
theorem delF555_stuffedForm (h₄ : 4 ≤ src.length) (hj : (stuffedForm src).length ≤ 128)
    {buf : Block Byte n} (hbuf : buf.slice 0 (stuffedForm src).length = some (stuffedForm src)) :
    ∃ back, delF555 buf (stuffedForm src).length = some (back, src.length) ∧
      back.slice 0 src.length = some src := by
  have hlen := length_stuffedForm h₄
  have hback : destuff frameHeader 0x55 (stuffed (src.drop 4)) = src.drop 4 := destuff_stuff _
  have hsrc : 4 + (src.drop 4).length = src.length := by rw [List.length_drop]; omega
  have hle := length_le_stuffed (src.drop 4)
  have hn := (Block.slice_eq_some.1 hbuf).1
  have hfit : 0 + src.length ≤ n := by omega
  obtain ⟨rest, hcells⟩ := Block.cells_of_slice_zero hbuf
  rw [stuffedForm, List.append_assoc] at hcells
  have hdel := delF555_eq (List.length_take_of_le h₄) hcells
    (fun hl => absurd hl (escaped_stuffed _).last_ne) (by rw [hback]; omega)
  rw [hback, List.take_append_drop, hsrc, Block.write_of_le _ hfit] at hdel
  rw [hlen, hdel]
  exact ⟨_, rfl, Block.slice_put_zero _ hfit⟩

/-- What is asked of `line`, what `add_f5_55` makes of `src`: behind the header it holds no two 0xF5
    side by side and ends with none, it is what `TransData` writes for one byte after the other, in
    any place of its buffer, and `del_f5_55` reads it back, also where the buffer ends with it. -/
structure Transparent (src line : List Byte) : Prop where
  header : line.take 4 = src.take 4
  pair : ¬ [0xF5, 0xF5] <:+: line.drop 4
  last : (line.drop 4).getLast? ≠ some 0xF5
  trans : ∀ (buf : Block Byte 250) (i : ℕ), i + (line.drop 4).length ≤ 250 →
    ∃ buf', (src.drop 4).foldlM transData (buf, i) = some (buf', i + (line.drop 4).length) ∧
      buf'.slice i (line.drop 4).length = some (line.drop 4)
  del : ∀ {m : ℕ} (buf : Block Byte m), buf.slice 0 line.length = some line →
    ∃ back, delF555 buf line.length = some (back, src.length) ∧
      back.slice 0 src.length = some src

theorem transparent_stuffedForm (h₄ : 4 ≤ src.length) (hj : (stuffedForm src).length ≤ 128) :
    Transparent src (stuffedForm src) := by
  have hesc := escaped_stuffed (src.drop 4)
  refine ⟨take_stuffedForm h₄, ?_, ?_, fun buf i hi => ?_, fun buf => delF555_stuffedForm h₄ hj⟩
  · rw [drop_stuffedForm h₄]; exact hesc.no_pair
  · rw [drop_stuffedForm h₄]; exact hesc.last_ne
  · rw [drop_stuffedForm h₄] at hi ⊢
    exact ⟨_, foldlM_transData _ buf hi, Block.slice_put buf hi⟩

/-- **Escaping in a buffer is transparent**, if the buffer has room for it. -/
theorem addF555_transparent (h₄ : 4 ≤ src.length) (hsrc : date.slice 0 src.length = some src)
    (hj : (stuffedForm src).length ≤ 128) :
    (n < (stuffedForm src).length → addF555 date src.length = none) ∧
      ((stuffedForm src).length ≤ n → ∃ out line, addF555 date src.length = some (out, line.length) ∧
        out.slice 0 line.length = some line ∧ Transparent src line) := by
  have hn := (Block.slice_eq_some.1 hsrc).1
  obtain ⟨rest, hcells⟩ := Block.cells_of_slice_zero hsrc
  have hlen : (stuffedForm src).length = 4 + (stuffed (src.drop 4)).length := by
    rw [length_stuffedForm h₄, Nat.add_comm]
  have htake : date.cells.take 4 = src.take 4 := by rw [hcells, List.take_append_of_le_length h₄]
  have hdata : (date.cells.drop 4).take (src.length - 4) = src.drop 4 := by
    rw [hcells, List.drop_append_of_le_length h₄, List.take_left' List.length_drop]
  have hadd : addF555 date src.length =
      (date.write 0 (stuffedForm src)).map (·, (stuffedForm src).length) := by
    have hm : src.length = src.length - 4 + 4 := by omega
    rw [hm, addF555_eq date hdata (hlen ▸ hj) (by omega), htake, hlen]
    rfl
  rw [hadd]
  constructor
  · intro hlong
    rw [Block.write, dif_neg (by omega)]
    rfl
  · intro hfit
    have hfit' : 0 + (stuffedForm src).length ≤ n := by omega
    rw [Block.write_of_le _ hfit']
    exact ⟨_, _, rfl, Block.slice_put_zero _ hfit', transparent_stuffedForm h₄ hj⟩

/-- An 0xF5 with 0x55 behind it already and two 0xF5 side by side, in a buffer of 12 bytes. -/
theorem addF555_transparent_marks :
    ∃ out line, addF555 (n := 12) ⟨[0xF5, 0xF5, 0, 7, 1, 0xF5, 0x55, 0xF5, 0xF5, 0, 0, 0], rfl⟩ 9 =
        some (out, line.length) ∧ out.slice 0 line.length = some line ∧
      Transparent [0xF5, 0xF5, 0, 7, 1, 0xF5, 0x55, 0xF5, 0xF5] line :=
  (@addF555_transparent 12 ⟨[0xF5, 0xF5, 0, 7, 1, 0xF5, 0x55, 0xF5, 0xF5, 0, 0, 0], rfl⟩
    [0xF5, 0xF5, 0, 7, 1, 0xF5, 0x55, 0xF5, 0xF5] (by decide) rfl (by decide)).2 (by decide)

end

end MxchipSpp
