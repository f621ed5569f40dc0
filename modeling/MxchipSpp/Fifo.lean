/-
  The ring FIFO (common.c).

  The operations come twice.  On `FifoTyp` they are the source's, with its
  `u16` variables and `memcpy` calls; `none` is an access outside the array
  `FifoAddr` points to.  A `Fifo` is a FIFO whose counters are in range; on it
  no access can leave the array, so its operations are total, and what they do
  is said of the bytes queued, `contents`.
-/
import MxchipSpp.Lib.Ring
import MxchipSpp.Word

namespace MxchipSpp

open Memory Ring

/-- `FifoTyp`; `L` is `FifoLen`, the size of the array behind `FifoAddr`. -/
structure FifoTyp (L : ℕ) where
  fifoAddr : Block Byte L
  datalen : ℕ
  fifoOffset : ℕ

section
variable {L : ℕ}

/-! ## The operations -/

/-- `FifoInit` -/
def fifoInit (src : Block Byte L) : FifoTyp L := ⟨src, 0, 0⟩

/-- `FifoPushOneByte` -/
def fifoPushOneByte (fifo : FifoTyp L) (data : Byte) : Option (Bool × FifoTyp L) :=
  if fifo.datalen < L then do
    let fifohead := u16 (fifo.datalen + fifo.fifoOffset)
    let addr ← fifo.fifoAddr.write (fifohead % L) [data]
    return (true, { fifo with fifoAddr := addr, datalen := u16 (fifo.datalen + 1) })
  else
    return (false, fifo)

/-- `FifoInput`; `src` are the `len` bytes copied. -/
def fifoInput (fifo : FifoTyp L) (src : List Byte) : Option (Bool × FifoTyp L) :=
  let cnt := u16 (fifo.datalen + src.length)
  if cnt ≤ L then
    let fifoheadstart := u16 (fifo.datalen + fifo.fifoOffset)
    let fifoheadend := u16 (fifoheadstart + src.length)
    if L ≤ fifoheadstart ∨ fifoheadend ≤ L then do
      let addr ← fifo.fifoAddr.write (fifoheadstart % L) src
      return (true, { fifo with fifoAddr := addr, datalen := cnt })
    else do
      let temp := u16 (L - fifoheadstart)
      let addr ← fifo.fifoAddr.write fifoheadstart (src.take temp)
      let addr ← addr.write 0 (src.drop temp)
      return (true, { fifo with fifoAddr := addr, datalen := cnt })
  else
    return (false, fifo)

/-- The copy out of the array shared by `FifoOutput` and `FifoCopy`: `n` bytes
    from index `start` on, in two parts if they go over the end. -/
def fifoRead (fifo : FifoTyp L) (start n : ℕ) : Option (List Byte) :=
  let fifolen := u16 (L - start)
  if n ≤ fifolen then
    fifo.fifoAddr.slice start n
  else do
    let front ← fifo.fifoAddr.slice start fifolen
    let back ← fifo.fifoAddr.slice 0 (u16 (n - fifolen))
    return front ++ back

/-- `FifoOutput`; the bytes written to `des`, as many as are returned. -/
def fifoOutput (fifo : FifoTyp L) (len : ℕ) : Option (List Byte × FifoTyp L) := do
  let fifooutlen := if len ≤ fifo.datalen then len else fifo.datalen
  let fifolen := u16 (L - fifo.fifoOffset)
  let out ← fifoRead fifo fifo.fifoOffset fifooutlen
  let fifoOffset :=
    if fifooutlen ≤ fifolen then u16 (fifo.fifoOffset + fifooutlen) else u16 (fifooutlen - fifolen)
  return (out, { fifo with fifoOffset, datalen := u16 (fifo.datalen - fifooutlen) })

/-- `FifoCopy`; the bytes written to `des`, as many as are returned. -/
def fifoCopy (fifo : FifoTyp L) (offset len : ℕ) : Option (List Byte) :=
  if offset ≤ fifo.datalen then
    let fifooutlen := if len ≤ fifo.datalen - offset then len else fifo.datalen - offset
    let fifooffset := (fifo.fifoOffset + offset) % L
    if fifooutlen ≠ 0 then fifoRead fifo fifooffset fifooutlen else some []
  else
    some []

/-- `FifoDeletHead` -/
def fifoDeletHead (fifo : FifoTyp L) (len : ℕ) : FifoTyp L :=
  let fifodellen := if len ≤ fifo.datalen then len else fifo.datalen
  { fifo with datalen := u16 (fifo.datalen - fifodellen) }

/-- `FifoDeletTail` -/
def fifoDeletTail (fifo : FifoTyp L) (len : ℕ) : FifoTyp L :=
  let fifodellen := if len ≤ fifo.datalen then len else fifo.datalen
  let fifolen := u16 (L - fifo.fifoOffset)
  { fifo with
    fifoOffset :=
      if fifodellen ≤ fifolen then u16 (fifo.fifoOffset + fifodellen)
      else u16 (fifo.fifoOffset - (L - fifodellen))
    datalen := u16 (fifo.datalen - fifodellen) }

/-! ## Counters in range -/

/-- Counters in range.  `FifoOffset = FifoLen` is a value the program reaches. -/
structure FifoTyp.WF (f : FifoTyp L) : Prop where
  pos : 0 < L
  small : L ≤ 32767
  datalen_le : f.datalen ≤ L
  fifoOffset_le : f.fifoOffset ≤ L

/-- The bytes queued, oldest first. -/
def FifoTyp.contents (f : FifoTyp L) : List Byte := window f.fifoAddr.cells f.fifoOffset f.datalen

variable {f : FifoTyp L}

theorem FifoTyp.WF.length_contents (h : f.WF) : f.contents.length = f.datalen :=
  length_window (by simpa using h.fifoOffset_le) (by simpa using h.datalen_le)

/-- Writing `src` after the bytes queued appends it, wherever the write is cut. -/
theorem FifoTyp.WF.contents_append (h : f.WF) (src : List Byte) {addr : Block Byte L}
    (hn : f.datalen + src.length ≤ L)
    (h₀ : ∀ i < f.datalen,
      addr.cells[(f.fifoOffset + i) % L]? = f.fifoAddr.cells[(f.fifoOffset + i) % L]?)
    (h₁ : ∀ i < src.length, addr.cells[(f.fifoOffset + (f.datalen + i)) % L]? = src[i]?) :
    (⟨addr, f.datalen + src.length, f.fifoOffset⟩ : FifoTyp L).contents = f.contents ++ src := by
  have := h.fifoOffset_le
  exact window_append f.fifoAddr.cells (by simp) (by simpa) (by simpa)
    (by simpa using h₀) (by simpa using h₁)

theorem FifoTyp.WF.push (h : f.WF) (data : Byte) (hn : f.datalen < L) :
    ∃ addr, fifoPushOneByte f data = some (true, ⟨addr, f.datalen + 1, f.fifoOffset⟩) ∧
      (⟨addr, f.datalen + 1, f.fifoOffset⟩ : FifoTyp L).contents = f.contents ++ [data] := by
  have hp := h.pos
  have hs := h.small
  have ho := h.fifoOffset_le
  have e₁ : u16 (f.datalen + f.fifoOffset) = f.datalen + f.fifoOffset :=
    u16_eq (by push_cast; rfl) (by omega)
  have e₂ : u16 (f.datalen + 1) = f.datalen + 1 := u16_eq (by push_cast; rfl) (by omega)
  have hw : (f.datalen + f.fifoOffset) % L + [data].length ≤ L := Nat.mod_lt _ hp
  refine ⟨f.fifoAddr.put _ _ hw, ?_, ?_⟩
  · simp only [fifoPushOneByte, if_pos hn, e₁, e₂, Block.write_of_le _ hw]
    rfl
  · refine h.contents_append [data] (by simpa using hn) (fun i hi => ?_) fun i hi => ?_
    · have h1 := add_mod_cases ho (show i < L by omega)
      have h2 := add_mod_cases ho hn
      rw [Nat.add_comm f.fifoOffset f.datalen] at h2
      rw [Block.put_getElem?]
      simp only [List.length_singleton]
      split_ifs at h1 h2 ⊢ <;> first | rfl | omega
    · obtain rfl : i = 0 := by simpa using hi
      rw [Block.put_getElem?, Nat.add_zero, Nat.add_comm f.fifoOffset]
      simp

theorem FifoTyp.WF.input (h : f.WF) {src : List Byte} (hn : f.datalen + src.length ≤ L) :
    ∃ addr, fifoInput f src = some (true, ⟨addr, f.datalen + src.length, f.fifoOffset⟩) ∧
      (⟨addr, f.datalen + src.length, f.fifoOffset⟩ : FifoTyp L).contents = f.contents ++ src := by
  have hp := h.pos
  have hs := h.small
  have ho := h.fifoOffset_le
  have e₁ : u16 (f.datalen + src.length) = f.datalen + src.length :=
    u16_eq (by push_cast; rfl) (by omega)
  have e₂ : u16 (f.datalen + f.fifoOffset) = f.datalen + f.fifoOffset :=
    u16_eq (by push_cast; rfl) (by omega)
  have e₃ : u16 ((f.datalen + f.fifoOffset : ℕ) + src.length) =
      f.datalen + f.fifoOffset + src.length := u16_eq (by push_cast; rfl) (by omega)
  by_cases hc : L ≤ f.datalen + f.fifoOffset ∨ f.datalen + f.fifoOffset + src.length ≤ L
  · have hm : (f.datalen + f.fifoOffset) % L + src.length ≤ L := by
      rcases lt_or_ge (f.datalen + f.fifoOffset) L with hlt | hge
      · rw [Nat.mod_eq_of_lt hlt]; omega
      · rcases Nat.lt_or_ge (f.datalen + f.fifoOffset - L) L with h1 | h1
        · rw [Nat.mod_eq_sub_mod hge, Nat.mod_eq_of_lt h1]; omega
        · have : f.datalen + f.fifoOffset = 2 * L := by omega
          rw [this, Nat.mul_mod_left]; omega
    refine ⟨f.fifoAddr.put _ _ hm, ?_, ?_⟩
    · simp only [fifoInput, e₁, e₂, e₃, if_pos hn, if_pos hc, Block.write_of_le _ hm]
      rfl
    · have hd := add_mod_cases ho (i := f.datalen)
      refine h.contents_append _ hn (fun i hi => ?_) fun i hi => ?_
      · have h1 := add_mod_cases ho (show i < L by omega)
        rw [Block.put_getElem?]
        rcases Nat.eq_zero_or_pos src.length with h0 | h0
        · rw [h0, Nat.add_zero]; split_ifs <;> rfl
        have h2 := hd (by omega)
        rw [Nat.add_comm f.fifoOffset f.datalen] at h2
        split_ifs at h1 h2 ⊢ <;> first | rfl | omega
      · have h1 := add_mod_cases ho (show f.datalen + i < L by omega)
        have h2 := hd (by omega)
        rw [Nat.add_comm f.fifoOffset f.datalen] at h2
        rw [Block.put_getElem?]
        split_ifs at h1 h2 ⊢ <;> first | omega | (congr 1; omega)
  · have hlt : f.datalen + f.fifoOffset < L := by omega
    have e₄ : u16 (L - (f.datalen + f.fifoOffset : ℕ)) = L - (f.datalen + f.fifoOffset) :=
      u16_eq (by omega) (by omega)
    have w₁ : f.datalen + f.fifoOffset + (src.take (L - (f.datalen + f.fifoOffset))).length ≤ L := by
      simp; omega
    have w₂ : 0 + (src.drop (L - (f.datalen + f.fifoOffset))).length ≤ L := by simp; omega
    refine ⟨(f.fifoAddr.put _ _ w₁).put _ _ w₂, ?_, ?_⟩
    · simp only [fifoInput, e₁, e₂, e₃, e₄, if_pos hn, if_neg hc, Block.write_of_le _ w₁,
        Block.write_of_le _ w₂, Option.bind_eq_bind, Option.bind_some]
      rfl
    · refine h.contents_append _ hn (fun i hi => ?_) fun i hi => ?_
      · have h1 := add_mod_cases ho (show i < L by omega)
        rw [Block.put_getElem?, Block.put_getElem?]
        simp only [List.length_take, List.length_drop]
        split_ifs at h1 ⊢ <;> first | rfl | omega
      · have h1 := add_mod_cases ho (show f.datalen + i < L by omega)
        rw [Block.put_getElem?, Block.put_getElem?]
        simp only [List.length_take, List.length_drop, List.getElem?_drop, List.getElem?_take]
        split_ifs at h1 ⊢ <;> first | omega | (congr 1; omega)

theorem fifoInput_full {src : List Byte} (hn : L < f.datalen + src.length)
    (hl : f.datalen + src.length < 65536) : fifoInput f src = some (false, f) := by
  have e₁ : u16 (f.datalen + src.length) = f.datalen + src.length :=
    u16_eq (by push_cast; rfl) hl
  simp only [fifoInput, e₁, if_neg (Nat.not_le.2 hn)]
  rfl

/-- The copy in two parts is one of consecutive bytes, modulo the size. -/
theorem FifoTyp.WF.read (h : f.WF) {start n : ℕ} (hst : start ≤ L) (hn : n ≤ L) :
    fifoRead f start n = some (window f.fifoAddr.cells start n) := by
  have hp := h.pos
  have hs := h.small
  have hlen : f.fifoAddr.cells.length = L := f.fifoAddr.size
  have e₁ : u16 (L - start) = L - start := u16_eq (by omega) (by omega)
  by_cases hfit : n ≤ L - start
  · simp only [fifoRead, e₁, if_pos hfit]
    rw [Block.slice_of_le _ (by omega), window_of_le (by omega)]
  · have e₂ : u16 (n - (L - start : ℕ)) = n - (L - start) := u16_eq (by omega) (by omega)
    simp only [fifoRead, e₁, if_neg hfit, e₂]
    rw [Block.slice_of_le _ (by omega), Block.slice_of_le _ (by omega),
      window_wrap (by omega) (by omega), hlen]
    rfl

theorem FifoTyp.WF.copy (h : f.WF) (offset len : ℕ) :
    fifoCopy f offset len = some ((f.contents.drop offset).take len) := by
  have hp := h.pos
  have ho := h.fifoOffset_le
  have hd := h.datalen_le
  have hc := h.length_contents
  by_cases hoff : offset ≤ f.datalen
  · rw [fifoCopy, if_pos hoff]
    have hmin : (if len ≤ f.datalen - offset then len else f.datalen - offset) =
        min len (f.datalen - offset) := by split_ifs <;> omega
    have htake : (f.contents.drop offset).take len =
        (f.contents.drop offset).take (min len (f.datalen - offset)) := by
      rw [List.take_eq_take_iff]; simp [hc]
    simp only [hmin, htake]
    generalize hk : min len (f.datalen - offset) = k
    have hkd : offset + k ≤ f.datalen := by omega
    by_cases hk0 : k = 0
    · simp [hk0]
    rw [if_pos hk0]
    have hlen : f.fifoAddr.cells.length = L := f.fifoAddr.size
    have hw : (f.contents.drop offset).take k =
        window f.fifoAddr.cells ((f.fifoOffset + offset) % L) k := by
      rw [FifoTyp.contents, drop_window, take_window (by omega)]
      have h1 := add_mod_cases ho (show offset < L by omega)
      split_ifs at h1 with hlt
      · rw [h1]
      · have h2 := window_add_length f.fifoAddr.cells (f.fifoOffset + offset - L) k (by omega)
        rw [h1, ← h2, hlen]; congr 1; omega
    rw [hw, h.read (Nat.mod_lt _ hp).le (by omega)]
  · rw [fifoCopy, if_neg hoff, List.drop_eq_nil_of_le (by omega), List.take_nil]

/-- `FifoOutput` takes out the oldest bytes, and leaves what `FifoDeletTail` leaves. -/
theorem FifoTyp.WF.output (h : f.WF) (len : ℕ) :
    fifoOutput f len = some (f.contents.take len, fifoDeletTail f len) := by
  have hs := h.small
  have ho := h.fifoOffset_le
  have hd := h.datalen_le
  obtain ⟨k, hk⟩ : ∃ k, k = if len ≤ f.datalen then len else f.datalen := ⟨_, rfl⟩
  have hkd : k ≤ f.datalen := by rw [hk]; split_ifs <;> omega
  have hkl : k = min len f.datalen := by rw [hk]; split_ifs <;> omega
  have hout : f.contents.take len = window f.fifoAddr.cells f.fifoOffset k := by
    rw [← take_window hkd, ← FifoTyp.contents, List.take_eq_take_iff, h.length_contents]
    omega
  have he : (k : ℤ) - (L - f.fifoOffset : ℕ) = f.fifoOffset - (L - k) := by omega
  have e₁ : u16 (L - f.fifoOffset) = L - f.fifoOffset := u16_eq (by omega) (by omega)
  simp only [fifoOutput, fifoDeletTail, ← hk, e₁, h.read ho (hkd.trans hd), hout, he]
  rfl

theorem FifoTyp.WF.deletHead (h : f.WF) (len : ℕ) :
    fifoDeletHead f len = ⟨f.fifoAddr, f.datalen - len, f.fifoOffset⟩ ∧
      (fifoDeletHead f len).contents = f.contents.take (f.datalen - len) := by
  have hs := h.small
  have hd := h.datalen_le
  have he : fifoDeletHead f len = ⟨f.fifoAddr, f.datalen - len, f.fifoOffset⟩ := by
    simp only [fifoDeletHead]
    congr 1
    refine u16_eq ?_ (by omega)
    split_ifs <;> omega
  refine ⟨he, ?_⟩
  rw [he, FifoTyp.contents, FifoTyp.contents, take_window (Nat.sub_le _ _)]

theorem FifoTyp.WF.deletTail (h : f.WF) (len : ℕ) :
    (fifoDeletTail f len).WF ∧ (fifoDeletTail f len).datalen = f.datalen - len ∧
      (fifoDeletTail f len).contents = f.contents.drop len := by
  have hs := h.small
  have ho := h.fifoOffset_le
  have hd := h.datalen_le
  obtain ⟨k, hk⟩ : ∃ k, k = if len ≤ f.datalen then len else f.datalen := ⟨_, rfl⟩
  have hkd : k ≤ f.datalen := by rw [hk]; split_ifs <;> omega
  have hkl : f.datalen - k = f.datalen - len := by rw [hk]; split_ifs <;> omega
  have e₁ : u16 (L - f.fifoOffset) = L - f.fifoOffset := u16_eq (by omega) (by omega)
  have e₂ : u16 (f.datalen - k) = f.datalen - len := u16_eq (by omega) (by omega)
  have hdrop : f.contents.drop len = window f.fifoAddr.cells (f.fifoOffset + k) (f.datalen - k) := by
    rw [← drop_window, ← FifoTyp.contents]
    refine List.ext_getElem? fun i => ?_
    rw [List.getElem?_drop, List.getElem?_drop, hk]
    split_ifs with hl
    · rfl
    · rw [List.getElem?_eq_none (by rw [h.length_contents]; omega),
        List.getElem?_eq_none (by rw [h.length_contents]; omega)]
  have hlen : f.fifoAddr.cells.length = L := f.fifoAddr.size
  simp only [fifoDeletTail, ← hk, e₁, e₂]
  by_cases hc : k ≤ L - f.fifoOffset
  · have e₃ : u16 (f.fifoOffset + k) = f.fifoOffset + k := u16_eq (by push_cast; rfl) (by omega)
    refine ⟨⟨h.pos, hs, by simp; omega, by simp only [if_pos hc, e₃]; omega⟩, trivial, ?_⟩
    simp only [FifoTyp.contents, if_pos hc, e₃] at hdrop ⊢
    rw [hdrop, hkl]
  · have e₃ : u16 (f.fifoOffset - (L - k)) = f.fifoOffset + k - L := u16_eq (by omega) (by omega)
    refine ⟨⟨h.pos, hs, by simp; omega, by simp only [if_neg hc, e₃]; omega⟩, trivial, ?_⟩
    simp only [FifoTyp.contents, if_neg hc, e₃] at hdrop ⊢
    rw [hdrop, ← window_add_length _ _ _ (by omega), hlen, hkl]
    congr 1; omega

end

/-! ## FIFOs with their counters in range -/

section
variable {L : ℕ} {f : FifoTyp L}

theorem FifoTyp.WF.pushOneByte (h : f.WF) (data : Byte) :
    ∃ r, fifoPushOneByte f data = some r ∧ r.2.WF ∧
      r.2.contents = if f.datalen < L then f.contents ++ [data] else f.contents := by
  by_cases hn : f.datalen < L
  · obtain ⟨addr, he, hc⟩ := h.push data hn
    exact ⟨_, he, ⟨h.pos, h.small, hn, h.fifoOffset_le⟩, by rw [if_pos hn]; exact hc⟩
  · exact ⟨(false, f), by simp [fifoPushOneByte, hn], h, by rw [if_neg hn]⟩

theorem FifoTyp.WF.of_input (h : f.WF) {src : List Byte} {r : Bool × FifoTyp L}
    (he : fifoInput f src = some r) : r.2.WF := by
  simp only [fifoInput, Option.bind_eq_bind, Option.pure_def] at he
  split_ifs at he with hc hw
  · obtain ⟨addr, -, he⟩ := Option.bind_eq_some_iff.1 he
    cases he
    exact ⟨h.pos, h.small, hc, h.fifoOffset_le⟩
  · obtain ⟨addr, -, he⟩ := Option.bind_eq_some_iff.1 he
    obtain ⟨addr', -, he⟩ := Option.bind_eq_some_iff.1 he
    cases he
    exact ⟨h.pos, h.small, hc, h.fifoOffset_le⟩
  · cases he; exact h

end

/-- A FIFO with its counters in range. -/
structure Fifo (L : ℕ) extends FifoTyp L where
  wf : toFifoTyp.WF

namespace Fifo
variable {L : ℕ}

/-- The FIFO `FifoInit` leaves. -/
def init (src : Block Byte L) (hp : 0 < L) (hs : L ≤ 32767) : Fifo L :=
  ⟨fifoInit src, hp, hs, Nat.zero_le _, Nat.zero_le _⟩

variable (f : Fifo L)

/-- The bytes queued, oldest first. -/
abbrev contents : List Byte := f.toFifoTyp.contents

@[simp] theorem length_contents : f.contents.length = f.datalen := f.wf.length_contents

theorem datalen_le : f.datalen ≤ L := f.wf.datalen_le

/-! The operations, on a FIFO with its counters in range. -/

/-- `FifoPushOneByte` -/
def pushOneByte (data : Byte) : Fifo L :=
  let r := fifoPushOneByte f.toFifoTyp data
  have hr : ∃ x, r = some x ∧ x.2.WF :=
    let ⟨x, hx, hw, _⟩ := f.wf.pushOneByte data
    ⟨x, hx, hw⟩
  have h : r.isSome := let ⟨_, hx, _⟩ := hr; by rw [hx]; rfl
  ⟨(r.get h).2, by obtain ⟨x, hx, hw⟩ := hr; simpa [hx] using hw⟩

/-- `FifoInput` -/
def input (src : List Byte) : Option (Bool × Fifo L) :=
  (fifoInput f.toFifoTyp src).pmap (fun r h => (r.1, ⟨r.2, h⟩)) fun _ he => f.wf.of_input he

/-- `FifoCopy` -/
def copy (offset len : ℕ) : List Byte :=
  (fifoCopy f.toFifoTyp offset len).get (by rw [f.wf.copy]; rfl)

/-- `FifoDeletHead` -/
def deletHead (len : ℕ) : Fifo L :=
  ⟨fifoDeletHead f.toFifoTyp len, by
    rw [(f.wf.deletHead len).1]
    exact ⟨f.wf.pos, f.wf.small, (Nat.sub_le _ _).trans f.wf.datalen_le, f.wf.fifoOffset_le⟩⟩

/-- `FifoDeletTail` -/
def deletTail (len : ℕ) : Fifo L := ⟨fifoDeletTail f.toFifoTyp len, (f.wf.deletTail len).1⟩

/-! What they do to the bytes queued. -/

@[simp] theorem contents_init (src : Block Byte L) (hp : 0 < L) (hs : L ≤ 32767) :
    (init src hp hs).contents = [] := by
  simp [init, fifoInit, FifoTyp.contents, window]

theorem contents_pushOneByte (data : Byte) :
    (f.pushOneByte data).contents =
      if f.datalen < L then f.contents ++ [data] else f.contents := by
  obtain ⟨x, hx, -, hc⟩ := f.wf.pushOneByte data
  simpa [contents, pushOneByte, hx] using hc

theorem contents_push (data : Byte) (h : f.datalen < L) :
    (f.pushOneByte data).contents = f.contents ++ [data] := by
  rw [contents_pushOneByte, if_pos h]

theorem datalen_pushOneByte (data : Byte) :
    (f.pushOneByte data).datalen = if f.datalen < L then f.datalen + 1 else f.datalen := by
  rw [← length_contents, contents_pushOneByte]; split_ifs <;> simp

@[simp] theorem copy_eq (offset len : ℕ) : f.copy offset len = (f.contents.drop offset).take len := by
  simp [copy, f.wf.copy]

@[simp] theorem contents_deletHead (len : ℕ) :
    (f.deletHead len).contents = f.contents.take (f.datalen - len) :=
  (f.wf.deletHead len).2

@[simp] theorem datalen_deletHead (len : ℕ) : (f.deletHead len).datalen = f.datalen - len := by
  simp [deletHead, (f.wf.deletHead len).1]

@[simp] theorem contents_deletTail (len : ℕ) :
    (f.deletTail len).contents = f.contents.drop len :=
  (f.wf.deletTail len).2.2

@[simp] theorem datalen_deletTail (len : ℕ) : (f.deletTail len).datalen = f.datalen - len :=
  (f.wf.deletTail len).2.1

theorem input_room {src : List Byte} (h : f.datalen + src.length ≤ L) :
    ∃ g, f.input src = some (true, g) ∧ g.contents = f.contents ++ src := by
  obtain ⟨addr, he, hc⟩ := f.wf.input h
  have hw := f.wf.of_input he
  exact ⟨⟨_, hw⟩, by simp [input, he], hc⟩

theorem input_full {src : List Byte} (h : L < f.datalen + src.length)
    (hl : f.datalen + src.length < 65536) : f.input src = some (false, f) := by
  simp [input, fifoInput_full h hl]

end Fifo

end MxchipSpp
