/-
  What `FrameDataHandle` does, in the active build (`OLD`).

  The call returns exactly if the number of raw bytes it takes lies between 2
  and 250; then it either notes an error or offers the records of the frame to
  the FIFO.
-/
import MxchipSpp.Receive

namespace MxchipSpp

open Memory

/-! ## Records offered to the FIFO -/

/-- `e` is `d` after `FifoInput` was offered the record `r`. -/
structure Offered (d : Dev) (r : List Byte) (e : Dev) : Prop where
  taken : d.framerevfifo.datalen + r.length ≤ revFifoLen →
    e.framerevfifo.contents = d.framerevfifo.contents ++ r ∧
      e.framerevpara.offset = u16 (d.framerevpara.offset + r.length) ∧
      e.hist.accepted = d.hist.accepted ++ [r]
  full : revFifoLen < d.framerevfifo.datalen + r.length → e = d
  rest : e = { d with
    framerevfifo := e.framerevfifo
    framerevpara.offset := e.framerevpara.offset
    hist.accepted := e.hist.accepted }

theorem inputRecord_spec (d : Dev) (buf : Block Byte 136) {r : List Byte}
    (hr : buf.slice 0 ((buf.get 3).toNat + 4) = some r) :
    ∃ e, inputRecord d buf = some e ∧ Offered d r e := by
  have hl : r.length ≤ 136 := by
    have h1 := Block.slice_isSome (a := buf) (i := 0) (k := (buf.get 3).toNat + 4)
    have h2 := Block.length_of_slice hr
    rw [hr] at h1
    simp at h1; omega
  have hd := d.framerevfifo.datalen_le
  rcases Nat.lt_or_ge revFifoLen (d.framerevfifo.datalen + r.length) with h | h
  · have hf := d.framerevfifo.input_full h (by have : revFifoLen = 1024 := rfl; omega)
    refine ⟨d, ?_, fun h' => by omega, fun _ => rfl, rfl⟩
    simp [inputRecord, hr, hf]
  · obtain ⟨g, hg, hc⟩ := d.framerevfifo.input_room h
    refine ⟨{ d with
      framerevfifo := g
      framerevpara.offset := u16 (d.framerevpara.offset + r.length)
      hist.accepted := d.hist.accepted ++ [r] }, ?_, fun _ => ⟨hc, rfl, rfl⟩, fun h' => by omega, rfl⟩
    simp [inputRecord, hr, hg]

/-- `e` is `d` after `FifoInput` was offered the records `rs` in turn. -/
def OfferedAll : Dev → List (List Byte) → Dev → Prop
  | d, [], e => e = d
  | d, r :: rs, e => ∃ d', Offered d r d' ∧ OfferedAll d' rs e

theorem Offered.errortype {d e : Dev} {r : List Byte} (h : Offered d r e) (n : ℕ) :
    Offered (d.setError n) r (e.setError n) := by
  refine ⟨h.taken, fun hf => ?_, ?_⟩
  · rw [h.full hf]
  · have := h.rest
    conv_lhs => rw [this]
    rfl

theorem Offered.pending {d e : Dev} {r : List Byte} (h : Offered d r e)
    (hd : d.framerevpara.offset ≤ d.framerevfifo.datalen) :
    e.framerevpara.offset ≤ e.framerevfifo.datalen ∧ e.pending = d.pending := by
  have hl : revFifoLen = 1024 := rfl
  rcases Nat.lt_or_ge revFifoLen (d.framerevfifo.datalen + r.length) with hf | hf
  · rw [h.full hf]; exact ⟨hd, rfl⟩
  · obtain ⟨hc, ho, -⟩ := h.taken hf
    have hn : e.framerevfifo.datalen = d.framerevfifo.datalen + r.length := by
      rw [← Fifo.length_contents, hc]; simp
    rw [u16_eq (n := d.framerevpara.offset + r.length) (by push_cast; rfl) (by omega)] at ho
    unfold Dev.pending
    constructor <;> omega

theorem OfferedAll.pending {rs : List (List Byte)} : ∀ {d e : Dev}, OfferedAll d rs e →
    d.framerevpara.offset ≤ d.framerevfifo.datalen →
    e.framerevpara.offset ≤ e.framerevfifo.datalen ∧ e.pending = d.pending := by
  induction rs with
  | nil => rintro d e rfl hd; exact ⟨hd, rfl⟩
  | cons r rs ih =>
    rintro d e ⟨d', h, h'⟩ hd
    obtain ⟨h₁, h₂⟩ := h.pending hd
    obtain ⟨h₃, h₄⟩ := ih h' h₁
    exact ⟨h₃, h₄.trans h₂⟩

theorem OfferedAll.rest {rs : List (List Byte)} : ∀ {d e : Dev}, OfferedAll d rs e →
    e = { d with
      framerevfifo := e.framerevfifo
      framerevpara.offset := e.framerevpara.offset
      hist.accepted := e.hist.accepted } := by
  induction rs with
  | nil => rintro d e rfl; rfl
  | cons r rs ih =>
    rintro d e ⟨d', h, h'⟩
    have h₁ := h.rest
    have h₂ := ih h'
    rw [h₁] at h₂
    exact h₂

theorem OfferedAll.offset_lt {rs : List (List Byte)} : ∀ {d e : Dev}, OfferedAll d rs e →
    d.framerevpara.offset < 65536 → e.framerevpara.offset < 65536 := by
  induction rs with
  | nil => rintro d e rfl h; exact h
  | cons r rs ih =>
    rintro d e ⟨d', h, h'⟩ hd
    refine ih h' ?_
    rcases Nat.lt_or_ge revFifoLen (d.framerevfifo.datalen + r.length) with hf | hf
    · rw [h.full hf]; exact hd
    · rw [(h.taken hf).2.1]; exact u16_lt _

/-! ## The records of a frame -/

/-- The alarm record of a raw frame, as it is offered: `OldToNew` fills 7 of its 13 bytes. -/
def alarmRecord (old : Block Byte 250) : List Byte := oldAlarm old ++ List.replicate 6 0

/-- The status record of a raw frame, as it is offered: the last of its 22 bytes stay 0. -/
def statusRecord (old : Block Byte 250) : List Byte :=
  oldStatus old ++ List.replicate (22 - (oldStatus old).length) 0

/-- The records `OldToNew` makes of a raw frame. -/
def oldRecords (old : Block Byte 250) : List (List Byte) :=
  (if old.get 23 ≠ 0 then [alarmRecord old] else []) ++ [statusRecord old]

theorem length_oldAlarm (old : Block Byte 250) : (oldAlarm old).length = 7 := rfl

theorem length_oldStatus (old : Block Byte 250) :
    (oldStatus old).length = 19 ∨ (oldStatus old).length = 20 := by
  unfold oldStatus; split_ifs <;> simp

theorem length_alarmRecord (old : Block Byte 250) : (alarmRecord old).length = 13 := rfl

theorem length_statusRecord (old : Block Byte 250) : (statusRecord old).length = 22 := by
  have := length_oldStatus old
  simp [statusRecord]; omega

/-- `OldToNew` offers the alarm, if there is one, and leaves the status record and, behind it, what
    was there: the alarm record is shorter. -/
theorem oldToNew_leaves (d : Dev) (newbuf : Block Byte 136) (old : Block Byte 250) :
    ∃ d' newbuf', oldToNew d newbuf old = some (d', newbuf') ∧
      newbuf'.cells = oldStatus old ++ newbuf.cells.drop (oldStatus old).length ∧
      OfferedAll d
        (if old.get 23 ≠ 0 then [oldAlarm old ++ (newbuf.cells.drop 7).take 6] else []) d' := by
  have hs := length_oldStatus old
  have hal := length_oldAlarm old
  have w₂ : 0 + (oldStatus old).length ≤ 136 := by omega
  by_cases ha : old.get 23 ≠ 0
  · have w₁ : 0 + (oldAlarm old).length ≤ 136 := by omega
    have h₃ : (newbuf.put 0 (oldAlarm old) w₁).get 3 = 9 :=
      Block.get_eq_of_getElem? (by rw [Block.cells_put_zero]; rfl)
    have hr : (newbuf.put 0 (oldAlarm old) w₁).slice 0
        (((newbuf.put 0 (oldAlarm old) w₁).get 3).toNat + 4) =
          some (oldAlarm old ++ (newbuf.cells.drop 7).take 6) := by
      rw [h₃, Block.slice_of_le _ (by decide), Block.cells_put_zero]
      rfl
    obtain ⟨d', hd', ho⟩ := inputRecord_spec d _ hr
    refine ⟨d', (newbuf.put 0 (oldAlarm old) w₁).put 0 (oldStatus old) w₂, ?_, ?_, ?_⟩
    · simp only [oldToNew, if_pos ha, Block.write_of_le _ w₁, Block.write_of_le _ w₂, hd',
        Option.bind_eq_bind, Option.bind_some, Option.pure_def]
    · rw [Block.cells_put_zero, Block.cells_put_zero, List.drop_append,
        List.drop_of_length_le (by omega), List.nil_append, List.drop_drop]
      congr 2; omega
    · rw [if_pos ha]
      exact ⟨d', ho, rfl⟩
  · refine ⟨d, newbuf.put 0 (oldStatus old) w₂, ?_, Block.cells_put_zero .., ?_⟩
    · simp only [oldToNew, if_neg ha, Block.write_of_le _ w₂, Option.bind_eq_bind,
        Option.bind_some, Option.pure_def]
    · rw [if_neg ha]
      rfl

/-- In a buffer of zeros the records are whole. -/
theorem oldToNew_spec (d : Dev) (old : Block Byte 250) :
    ∃ d' buf, oldToNew d (.fill _ 0) old = some (d', buf) ∧
      OfferedAll d (if old.get 23 ≠ 0 then [alarmRecord old] else []) d' ∧
      buf.slice 0 ((buf.get 3).toNat + 4) = some (statusRecord old) := by
  have hs := length_oldStatus old
  obtain ⟨d', buf, h, hcells, ho⟩ := oldToNew_leaves d (.fill _ 0) old
  have h₃ : (buf.get 3).toNat + 4 = 22 := by
    rw [Block.get_eq_of_getElem? (show buf.cells[3]? = some 18 by rw [hcells]; simp [oldStatus])]
    rfl
  refine ⟨d', buf, h, ho, ?_⟩
  rw [h₃, Block.slice_of_le _ (by decide), hcells, List.drop_zero, List.take_append,
    List.take_of_length_le (show (oldStatus old).length ≤ 22 by omega), statusRecord]
  simp only [Block.fill, List.drop_replicate, List.take_replicate]
  congr 3; omega

/-! ## A frame checked -/

/-- The test of `FrameDataHandle` on `templen` raw bytes: the check field and the byte 10. -/
def OldValid (old : Block Byte 250) (templen : ℕ) : Prop :=
  (old.cells[templen - 2]?.getD 0 ++ old.cells[templen - 1]?.getD 0 : BitVec 16) =
    crcCal (old.cells.take (templen - 2)) ∧ old.get 10 ≠ 0x55

instance (old : Block Byte 250) (templen : ℕ) : Decidable (OldValid old templen) :=
  inferInstanceAs (Decidable (_ ∧ _))

/-- The bytes `laststate` gets from a raw frame. -/
def laststateOf (old : Block Byte 250) : Block Byte 4 := ⟨(old.cells.drop 12).take 4, by simp⟩

variable {d e : Dev} {old : Block Byte 250} {templen : ℕ}

theorem frameDataOld_eq (h₂ : 2 ≤ templen) (h : templen ≤ 250) :
    frameDataOld d old templen =
      if OldValid old templen then do
        let (d, tempbuf) ← oldToNew (d.setLaststate (laststateOf old)) (.fill _ 0) old
        endHandle d 0 tempbuf
      else some (d.setError 1) := by
  have e₁ : old.read (templen - 2) = some (old.cells[templen - 2]?.getD 0) := by
    rw [show ((templen : ℤ) - 2) = (templen - 2 : ℕ) by omega, Block.read_natCast,
      List.getElem?_eq_getElem (by simp; omega)]
    rfl
  have e₂ : old.read (templen - 1) = some (old.cells[templen - 1]?.getD 0) := by
    rw [show ((templen : ℤ) - 1) = (templen - 1 : ℕ) by omega, Block.read_natCast,
      List.getElem?_eq_getElem (by simp; omega)]
    rfl
  have e₃ : old.slice 0 (u8 (templen - 2)) = some (old.cells.take (templen - 2)) := by
    rw [u8_eq (show ((templen : ℤ) - 2) = (templen - 2 : ℕ) by omega) (by omega),
      Block.slice_of_le _ (by omega), List.drop_zero]
  have e₄ : d.laststate.write 0 ((old.cells.drop 12).take 4) = some (laststateOf old) := by
    rw [Block.write_of_le _ (by simp)]
    congr 1
    ext1
    simp [Block.cells_put_zero, laststateOf]
  simp only [frameDataOld, e₁, e₂, e₃, Option.bind_eq_bind, Option.bind_some,
    Block.slice_of_le old (show 12 + 4 ≤ 250 by omega), e₄]
  by_cases hv : OldValid old templen
  · rw [if_pos hv, if_neg (by rintro (h' | h'); exacts [h' hv.1, hv.2 h'])]
  · rw [if_neg hv, if_pos]
    · rfl
    · by_contra hc
      rw [not_or, not_not] at hc
      exact hv hc

theorem offeredAll_append {rs rs' : List (List Byte)} :
    ∀ {d d' e : Dev}, OfferedAll d rs d' → OfferedAll d' rs' e → OfferedAll d (rs ++ rs') e := by
  induction rs with
  | nil => rintro d d' e rfl h; exact h
  | cons r rs ih => rintro d d' e ⟨d₁, h₁, h₂⟩ h; exact ⟨d₁, h₁, ih h₂ h⟩

theorem OfferedAll.errortype {rs : List (List Byte)} (n : ℕ) :
    ∀ {d e : Dev}, OfferedAll d rs e →
      OfferedAll (d.setError n) rs (e.setError n) := by
  induction rs with
  | nil => rintro d e rfl; rfl
  | cons r rs ih => rintro d e ⟨d', h, h'⟩; exact ⟨_, h.errortype n, ih h'⟩

/-- A frame that passes has its records offered. -/
theorem frameDataOld_valid (h₂ : 2 ≤ templen) (h : templen ≤ 250) (hv : OldValid old templen) :
    ∃ e, frameDataOld d old templen = some e ∧
      OfferedAll ((d.setLaststate (laststateOf old)).setError 4) (oldRecords old) e := by
  obtain ⟨d', buf, h₁, h₂', h₃⟩ := oldToNew_spec (d.setLaststate (laststateOf old)) old
  obtain ⟨e, he, ho⟩ := inputRecord_spec (d'.setError 4) _ h₃
  refine ⟨e, ?_, offeredAll_append (h₂'.errortype 4) ⟨e, ho, rfl⟩⟩
  rw [frameDataOld_eq h₂ h, if_pos hv, h₁]
  simpa [endHandle] using he

theorem frameDataOld_invalid (h₂ : 2 ≤ templen) (h : templen ≤ 250) (hv : ¬ OldValid old templen) :
    frameDataOld d old templen = some (d.setError 1) := by
  rw [frameDataOld_eq h₂ h, if_neg hv]

theorem frameDataOld_none (ht : templen < 256) (h : templen < 2 ∨ 250 < templen) :
    frameDataOld d old templen = none := by
  rcases h with h | h
  · have h₁ : old.read (templen - 2) = none := by
      rw [← Option.not_isSome_iff_eq_none, Block.read_isSome]; omega
    simp [frameDataOld, h₁]
  · have h₁ : old.read (templen - 1) = none := by
      rw [← Option.not_isSome_iff_eq_none, Block.read_isSome]; omega
    simp [frameDataOld, h₁]

/-! ## `FrameDataHandle` -/

/-- The stack buffer of `FrameDataHandle` with the raw bytes copied to it. -/
def bufferOf (raw : List Byte) : Block Byte 250 := 
  ⟨(raw ++ List.replicate 250 0).take 250, by
    rw [List.length_take, List.length_append, List.length_replicate]; omega⟩

theorem cells_bufferOf (raw : List Byte) :
    (bufferOf raw).cells = (raw ++ List.replicate 250 0).take 250 := rfl

theorem write_bufferOf {raw : List Byte} (h : raw.length ≤ 250) :
    (Block.fill 250 0).write 0 raw = some (bufferOf raw) := by
  rw [Block.write_of_le _ (by omega)]
  congr 1
  ext1
  rw [Block.cells_put_zero, cells_bufferOf, List.take_append, List.take_of_length_le h]
  simp only [Block.fill, List.drop_replicate, List.take_replicate]
  congr 2; omega

theorem Dev.pending_eq (d : Dev) :
    d.pending = d.framerevfifo.datalen - d.framerevpara.offset := rfl

theorem Dev.length_raw_le (d : Dev) : d.raw.length ≤ u8 d.pending := by
  simp [Dev.raw]

/-- `raw` is what `FrameDataHandle` finds behind the records, copies and removes. -/
structure Pends (d : Dev) (raw : List Byte) : Prop where
  pending : d.pending = raw.length
  templen : u8 d.pending = raw.length
  copied : d.raw = raw
  contents : d.dropRaw.framerevfifo.contents = d.framerevfifo.contents.take d.framerevpara.offset
  datalen : d.dropRaw.framerevfifo.datalen = d.framerevpara.offset

theorem pends_of_drop {raw : List Byte} (hle : d.framerevpara.offset ≤ d.framerevfifo.datalen)
    (hraw : d.framerevfifo.contents.drop d.framerevpara.offset = raw) (h : raw.length ≤ 255) :
    Pends d raw := by
  have hn : d.framerevfifo.datalen = d.framerevpara.offset + raw.length := by
    have := congrArg List.length hraw
    rw [List.length_drop, Fifo.length_contents] at this
    omega
  have hp : d.pending = raw.length := by unfold Dev.pending; omega
  have hu : u8 d.pending = raw.length := u8_eq hp (by omega)
  have hdrop : d.dropRaw.framerevfifo.contents =
      d.framerevfifo.contents.take d.framerevpara.offset := by
    rw [Dev.dropRaw, Fifo.contents_deletHead, hu]
    congr 1
    omega
  refine ⟨hp, hu, ?_, hdrop, ?_⟩
  · rw [Dev.raw, Fifo.copy_eq, hu, hraw, List.take_of_length_le le_rfl]
  · rw [← Fifo.length_contents, hdrop, List.length_take, Fifo.length_contents]
    omega

/-- More raw bytes than the buffer holds are written past its end. -/
theorem frameData_eq_none (b : Build) (h : 250 < d.raw.length) : frameData b d = none := by
  have hw : (Block.fill 250 (0 : Byte)).write 0 d.raw = none := by
    rw [← Option.not_isSome_iff_eq_none, Block.write_isSome]; omega
  rw [frameData, hw, Option.bind_eq_bind, Option.bind_none]

/-- **When `FrameDataHandle` stays within its buffer.** -/
theorem frameData_isSome : (frameData .old d).isSome ↔ 2 ≤ u8 d.pending ∧ u8 d.pending ≤ 250 := by
  have hlt := u8_lt d.pending
  have hr := d.length_raw_le
  rcases Nat.lt_or_ge 250 d.raw.length with hl | hl
  · rw [frameData_eq_none .old hl, Option.isSome_none]
    constructor
    · intro h; cases h
    · omega
  · simp only [frameData, write_bufferOf hl, Option.bind_eq_bind, Option.bind_some]
    constructor
    · intro hs
      by_contra hc
      rw [frameDataOld_none hlt (by omega)] at hs
      cases hs
    · rintro ⟨h₂, h⟩
      by_cases hv : OldValid (bufferOf d.raw) (u8 d.pending)
      · obtain ⟨e, he, -⟩ := frameDataOld_valid (d := d.dropRaw) h₂ h hv
        rw [he]; rfl
      · rw [frameDataOld_invalid h₂ h hv]; rfl

/-- **What `FrameDataHandle` leaves.** -/
theorem frameData_cases (he : frameData .old d = some e) :
    (¬ OldValid (bufferOf d.raw) (u8 d.pending) ∧ e = frameRevInit (d.dropRaw.setError 1)) ∨
    (OldValid (bufferOf d.raw) (u8 d.pending) ∧ ∃ e₀, e = frameRevInit e₀ ∧
      OfferedAll ((d.dropRaw.setLaststate (laststateOf (bufferOf d.raw))).setError 4)
        (oldRecords (bufferOf d.raw)) e₀) := by
  obtain ⟨h₂, h⟩ := frameData_isSome.1 (show (frameData .old d).isSome by rw [he]; rfl)
  simp only [frameData, write_bufferOf (d.length_raw_le.trans h), Option.bind_eq_bind,
    Option.bind_some] at he
  by_cases hv : OldValid (bufferOf d.raw) (u8 d.pending)
  · obtain ⟨e₀, he₀, ho⟩ := frameDataOld_valid (d := d.dropRaw) h₂ h hv
    rw [he₀] at he
    exact Or.inr ⟨hv, e₀, (Option.some.inj he).symm, ho⟩
  · rw [frameDataOld_invalid h₂ h hv] at he
    exact Or.inl ⟨hv, (Option.some.inj he).symm⟩

/-! ## A valid frame -/

/-- With room for all of them, records offered are taken. -/
theorem OfferedAll.taken {rs : List (List Byte)} : ∀ {d e : Dev}, OfferedAll d rs e →
    d.framerevpara.offset ≤ d.framerevfifo.datalen →
    d.framerevfifo.datalen + rs.flatten.length ≤ revFifoLen →
    e.framerevfifo.contents = d.framerevfifo.contents ++ rs.flatten ∧
      e.framerevpara.offset = d.framerevpara.offset + rs.flatten.length ∧
      e.hist.accepted = d.hist.accepted ++ rs := by
  induction rs with
  | nil => rintro d e rfl _ _; simp
  | cons r rs ih =>
    rintro d e ⟨d', h, h'⟩ hle hroom
    have hl : revFifoLen = 1024 := rfl
    rw [List.flatten_cons, List.length_append] at hroom
    obtain ⟨h₁, h₂, h₃⟩ := h.taken (by omega)
    rw [u16_eq (n := d.framerevpara.offset + r.length) (by push_cast; rfl) (by omega)] at h₂
    have hn : d'.framerevfifo.datalen = d.framerevfifo.datalen + r.length := by
      rw [← Fifo.length_contents, h₁]; simp
    obtain ⟨h₄, h₅, h₆⟩ := ih h' (by omega) (by omega)
    refine ⟨?_, ?_, ?_⟩
    · rw [h₄, h₁, List.append_assoc, List.flatten_cons]
    · rw [h₅, h₂, List.flatten_cons, List.length_append]; omega
    · rw [h₆, h₃, List.append_assoc]; rfl

/-- Whatever the room, some of the records offered are taken, in order. -/
theorem OfferedAll.sublist {rs : List (List Byte)} : ∀ {d e : Dev}, OfferedAll d rs e →
    ∃ rs', rs'.Sublist rs ∧ e.hist.accepted = d.hist.accepted ++ rs' ∧
      e.framerevpara.offset ≤ d.framerevpara.offset + rs'.flatten.length := by
  induction rs with
  | nil => rintro d e rfl; exact ⟨[], .slnil, by simp, by simp⟩
  | cons r rs ih =>
    rintro d e ⟨d', h, h'⟩
    obtain ⟨rs', h₁, h₂, h₃⟩ := ih h'
    rcases Nat.lt_or_ge revFifoLen (d.framerevfifo.datalen + r.length) with hf | hf
    · rw [h.full hf] at h₂ h₃
      exact ⟨rs', h₁.cons r, h₂, h₃⟩
    · obtain ⟨-, h₄, h₅⟩ := h.taken hf
      refine ⟨r :: rs', h₁.cons_cons r, by rw [h₂, h₅, List.append_assoc]; rfl, ?_⟩
      rw [List.flatten_cons, List.length_append]
      have : u16 (d.framerevpara.offset + r.length) ≤ d.framerevpara.offset + r.length := by
        unfold u16; omega
      omega

/-- A status frame of the old protocol without header bytes after its header: 31 bytes, the check
    field at the end, and byte 10 not one that `FrameDataHandle` refuses. -/
structure StatusFrame (f : List Byte) : Prop where
  length : f.length = 31
  header : f.take 4 = List.replicate 4 frameHeader
  body : frameHeader ∉ f.drop 4
  crc : (f.getD 29 0 ++ f.getD 30 0 : BitVec 16) = crcCal (f.take 29)
  byte10 : f.getD 10 0 ≠ 0x55

/-- The frame of a device that is on. -/
def sampleFrame : List Byte :=
  [0xF5, 0xF5, 0xF5, 0xF5, 0x00, 0x01, 0x04, 0x15, 0x01, 0x00, 0x00, 0x01, 0x01, 0x10, 0x02, 0x00,
   0x03, 0x04, 0x20, 0x01, 0x30, 0x02, 0x00, 0x00, 0x4B, 0x28, 0x00, 0x00, 0x00, 0x75, 0xB3]

theorem statusFrame_sampleFrame : StatusFrame sampleFrame :=
  ⟨rfl, rfl, by decide, by decide +kernel, by decide⟩

/-- The buffer holds the frame with zeros behind it. -/
theorem getElem?_bufferOf {f : List Byte} {i : ℕ} (hi : i < 250) :
    (bufferOf f).cells[i]? = some (f.getD i 0) := by
  rw [cells_bufferOf, List.getElem?_take_of_lt hi, List.getElem?_append, List.getElem?_replicate]
  split_ifs with hif hif'
  · rw [List.getD_eq_getElem _ _ hif, List.getElem?_eq_getElem hif]
  · rw [List.getD_eq_default _ _ (by omega)]
  · omega

theorem get_bufferOf (f : List Byte) (i : Fin 250) : (bufferOf f).get i = f.getD i 0 :=
  Block.get_eq_of_getElem? (getElem?_bufferOf i.isLt)

theorem StatusFrame.oldValid {f : List Byte} (hf : StatusFrame f) : OldValid (bufferOf f) 31 := by
  have hl := hf.length
  have ht : (bufferOf f).cells.take 29 = f.take 29 := by
    rw [cells_bufferOf, List.take_take, List.take_append_of_le_length (by omega)]
    congr 1
  refine ⟨?_, by rw [get_bufferOf]; exact hf.byte10⟩
  rw [getElem?_bufferOf (by decide), getElem?_bufferOf (by decide), ht]
  exact hf.crc

theorem length_flatten_oldRecords (old : Block Byte 250) :
    (oldRecords old).flatten.length ≤ 35 := by
  have h₁ := length_statusRecord old
  have h₂ := length_alarmRecord old
  unfold oldRecords
  split_ifs <;> simp [h₁, h₂]

/-- **A valid frame alone behind the records is turned into its records.** -/
theorem frameDataHandle_accepts {f : List Byte} (hf : StatusFrame f)
    (hle : d.framerevpara.offset ≤ d.framerevfifo.datalen)
    (hraw : d.framerevfifo.contents.drop d.framerevpara.offset = f)
    (hroom : d.framerevpara.offset + 35 ≤ revFifoLen) :
    ∃ e, frameDataHandle .old d = .ok e ∧
      e.framerevfifo.contents =
        d.framerevfifo.contents.take d.framerevpara.offset ++ (oldRecords (bufferOf f)).flatten ∧
      e.hist = { d.hist with
        calls := d.hist.calls ++ [⟨31, some e.snapshot⟩]
        accepted := d.hist.accepted ++ oldRecords (bufferOf f) } := by
  have hl := hf.length
  obtain ⟨hp, hu, hr, hdrop, hdl⟩ := pends_of_drop hle hraw (by omega)
  rw [hl] at hp hu
  obtain ⟨e, he⟩ := Option.isSome_iff_exists.1
    (frameData_isSome.2 (show 2 ≤ u8 d.pending ∧ u8 d.pending ≤ 250 by omega))
  have hc := frameData_cases he
  rw [hr, hu] at hc
  obtain ⟨hv, -⟩ | ⟨-, e₀, rfl, ho⟩ := hc
  · exact absurd hf.oldValid hv
  have h35 := length_flatten_oldRecords (bufferOf f)
  obtain ⟨h₁, -, h₃⟩ := ho.taken hdl.ge (by
    change d.dropRaw.framerevfifo.datalen + _ ≤ _; omega)
  refine ⟨_, by rw [frameDataHandle, he], ?_, ?_⟩
  · change e₀.framerevfifo.contents = _
    rw [h₁]; exact congrArg (· ++ _) hdrop
  · have hrest := congrArg Dev.hist ho.rest
    have hh : e₀.hist = { d.hist with accepted := d.hist.accepted ++ oldRecords (bufferOf f) } := by
      rw [hrest, h₃]; rfl
    have hnote : ((frameRevInit e₀).noteCall d.pending (some (frameRevInit e₀).snapshot)).hist =
        { e₀.hist with
          calls := e₀.hist.calls ++ [⟨d.pending, some (frameRevInit e₀).snapshot⟩] } := rfl
    rw [hnote, hh, hp]
    rfl

end MxchipSpp
