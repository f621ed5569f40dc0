/-
  The link of the new protocol (`OLD` undefined), from the mailbox of one side
  to the FIFO of the other.

  On the line a frame is its header, control byte and length as they are, then
  the data and the check field with 0x55 after each 0xF5; so no two 0xF5 stand
  side by side behind the header.  `SendData` writes such a frame
  (`sendData_lineFrame`), the receiver takes it into the FIFO as it is
  (`Reading.stuffed`), and `FrameDataHandle` reads it back
  (`frameDataHandle_wireFrame`).
-/
import MxchipSpp.Decoder
import MxchipSpp.Send
import MxchipSpp.Stream

namespace MxchipSpp

open Memory Outcome Stuffing

/-! ## The frame on the line -/

/-- Bytes with 0x55 after each 0xF5. -/
def stuffed (data : List Byte) : List Byte := stuff frameHeader 0x55 data

@[simp] theorem stuffed_nil : stuffed [] = [] := rfl

theorem stuffed_cons (x : Byte) (xs : List Byte) :
    stuffed (x :: xs) = escape frameHeader 0x55 x ++ stuffed xs := stuff_cons x xs

theorem length_le_stuffed (xs : List Byte) : xs.length ≤ (stuffed xs).length :=
  length_le_length_stuff xs

/-- A frame up to its check field. -/
def wireBody (ctrl : Byte) (payload : List Byte) : List Byte :=
  [0xF5, 0xF5, ctrl, BitVec.ofNat 8 (payload.length + 2)] ++ stuffed payload

/-- The check field, over the frame so far. -/
def checkBytes (ctrl : Byte) (body : List Byte) : List Byte :=
  if crctype ctrl = 0 then [(crcCal body).extractLsb' 8 8, (crcCal body).extractLsb' 0 8]
  else [if crctype ctrl = 1 then sumCheck (body.drop 3) else xorCheck (body.drop 3), 0]

/-- The whole frame. -/
def wireFrame (ctrl : Byte) (payload : List Byte) : List Byte :=
  wireBody ctrl payload ++ stuffed (checkBytes ctrl (wireBody ctrl payload))

/-- The check field for any control byte; with the type 3 there is none. -/
def lineCheck (ctrl : Byte) (body : List Byte) : List Byte :=
  if crctype ctrl = 3 then [] else checkBytes ctrl body

/-- The whole frame for any control byte. -/
def lineFrame (ctrl : Byte) (payload : List Byte) : List Byte :=
  wireBody ctrl payload ++ stuffed (lineCheck ctrl (wireBody ctrl payload))

theorem lineFrame_eq {ctrl : Byte} (hc : crctype ctrl ≠ 3) (payload : List Byte) :
    lineFrame ctrl payload = wireFrame ctrl payload := by
  rw [lineFrame, lineCheck, if_neg hc, wireFrame]

theorem length_checkBytes (ctrl : Byte) (body : List Byte) : (checkBytes ctrl body).length = 2 := by
  unfold checkBytes; split_ifs <;> rfl

theorem length_wireBody (ctrl : Byte) (payload : List Byte) :
    (wireBody ctrl payload).length = 4 + (stuffed payload).length := by
  rw [wireBody, List.length_append]; rfl

theorem length_wireFrame (ctrl : Byte) (payload : List Byte) :
    payload.length + 6 ≤ (wireFrame ctrl payload).length := by
  have h₁ := length_le_stuffed payload
  have h₂ := length_le_stuffed (checkBytes ctrl (wireBody ctrl payload))
  rw [length_checkBytes] at h₂
  rw [wireFrame, List.length_append, length_wireBody]; omega

/-! ## The sender -/

section
variable {d : Dev} {ctrl : Byte} {payload : List Byte} {f ok : Bool}

theorem transData_escape (buf : Block Byte 250) {i : ℕ} {x : Byte}
    (h : i + (escape frameHeader 0x55 x).length ≤ 250) :
    transData (buf, i) x =
      some (buf.put i (escape frameHeader 0x55 x) h, i + (escape frameHeader 0x55 x).length) := by
  by_cases hx : x = frameHeader
  · have he : escape frameHeader 0x55 x = [x, 0x55] := if_pos hx
    simp only [he, List.length_cons, List.length_nil] at h ⊢
    have hu : u8 (i + 1) = i + 1 := u8_eq (by push_cast; rfl) (by omega)
    have hu' : u8 ((i + 1 : ℕ) + 1) = i + 2 := u8_eq (by push_cast; ring) (by omega)
    have h₁ : i + [x].length ≤ 250 := by simp; omega
    have h₂ : i + 1 + [(0x55 : Byte)].length ≤ 250 := by simp; omega
    simp only [transData, hx, ne_eq, not_true_eq_false, if_false] at h₁ ⊢
    rw [Block.write_of_le _ h₁, Option.bind_eq_bind, Option.bind_some, hu,
      Block.write_of_le _ h₂, Option.bind_some, hu',
      Block.put_put _ h₁ h₂ rfl (by simp; omega)]
    rfl
  · have he : escape frameHeader 0x55 x = [x] := if_neg hx
    simp only [he] at h ⊢
    have hu : u8 (i + 1) = i + 1 := u8_eq (by push_cast; rfl) (by simp at h; omega)
    simp only [transData, hx, ne_eq, not_false_eq_true, if_true]
    rw [Block.write_of_le _ h, Option.bind_eq_bind, Option.bind_some, hu]
    rfl

/-- The loop of `SendData` over the data writes it stuffed. -/
theorem foldlM_transData (data : List Byte) (buf : Block Byte 250) {i : ℕ}
    (h : i + (stuffed data).length ≤ 250) :
    data.foldlM transData (buf, i) =
      some (buf.put i (stuffed data) h, i + (stuffed data).length) :=
  foldlM_escape (fun b _ _ h => transData_escape b h) data buf h

theorem checkField_eq {buf : Block Byte 250} {i : ℕ} {body : List Byte}
    (hb : buf.cells.take i = body) (h₃ : 3 ≤ i) (h : i ≤ 250) :
    checkField ctrl (buf, i) = some (lineCheck ctrl body) := by
  have hu : u8 ((i : ℤ) - 3) = i - 3 := u8_eq (by omega) (by omega)
  have hs : buf.slice 0 i = some body := by
    rw [Block.slice_of_le _ (by omega), List.drop_zero, hb]
  have hs₃ : buf.slice 3 (i - 3) = some (body.drop 3) := by
    rw [Block.slice_of_le _ (by omega), ← hb, List.drop_take]
  have hcase : ∀ t : BitVec 2, t ≠ 0 → t ≠ 1 → t ≠ 2 → t = 3 := by decide
  simp only [checkField, lineCheck, checkBytes, hu, hs, hs₃, Option.bind_eq_bind, Option.bind_some]
  by_cases h₀ : crctype ctrl = 0
  · simp [h₀]
  by_cases h₁ : crctype ctrl = 1
  · simp [h₁]
  by_cases h₂ : crctype ctrl = 2
  · simp [h₂]
  · rw [if_neg h₀, if_neg h₁, if_neg h₂, if_pos (hcase _ h₀ h₁ h₂)]
    rfl

/-- The frame up to its check field, written to a buffer. -/
theorem write_wireBody (buf : Block Byte 250) (ctrl : Byte) (payload : List Byte)
    (h : 0 + (wireBody ctrl payload).length ≤ 250) :
    ∃ buf', buf.write 0 [0xF5, 0xF5, ctrl, BitVec.ofNat 8 (payload.length + 2)] =
        some buf' ∧
      payload.foldlM transData (buf', 4) =
        some (buf.put 0 (wireBody ctrl payload) h, (wireBody ctrl payload).length) := by
  have hl := length_wireBody ctrl payload
  have h₄ : 0 + [0xF5, 0xF5, ctrl, BitVec.ofNat 8 (payload.length + 2)].length ≤
      250 := by simp
  refine ⟨_, Block.write_of_le _ h₄, ?_⟩
  rw [foldlM_transData _ _ (by omega), Block.put_put (j := 4) _ h₄ _ (by simp) h]
  exact congrArg some (Prod.ext rfl hl.symm)

theorem length_lineFrame (ctrl : Byte) (payload : List Byte) : (lineFrame ctrl payload).length =
    (wireBody ctrl payload).length + (stuffed (lineCheck ctrl (wireBody ctrl payload))).length :=
  List.length_append

/-- What `SendData` builds for the command in the slot, if the frame up to its check field fits the
    buffer. -/
theorem buildNew_eq (hctrl : d.datadown.framectrl = ctrl)
    (hlen : d.datadown.datalen = BitVec.ofNat 8 (payload.length + 2))
    (hcmd : d.datadown.command = payload) (hl : payload.length ≤ 128)
    (hb : 0 + (wireBody ctrl payload).length ≤ 250) :
    buildNew d = (lineCheck ctrl (wireBody ctrl payload)).foldlM transData
      (d.sendData.tempbuf.put 0 (wireBody ctrl payload) hb, (wireBody ctrl payload).length) := by
  have hn : d.datadown.datalen.toNat - 2 = payload.length := by
    rw [hlen, toNat_datalen hl, Nat.add_sub_cancel]
  have hslice : d.datadown.bytes.slice 4 payload.length = some payload := by
    rw [Block.slice_of_le _ (by omega), ← hn]; exact congrArg some hcmd
  have hwb := length_wireBody ctrl payload
  obtain ⟨buf, h₁, h₂⟩ := write_wireBody d.sendData.tempbuf ctrl payload hb
  have hbody : (d.sendData.tempbuf.put 0 (wireBody ctrl payload) hb).cells.take
      (wireBody ctrl payload).length = wireBody ctrl payload := by
    rw [Block.cells_put_zero, List.take_left]
  have h₃ : checkField ctrl _ = some _ := checkField_eq hbody (by omega) (by omega)
  simp only [buildNew, hctrl, hlen, toNat_datalen hl, Nat.add_sub_cancel, hslice,
    if_pos (show payload.length ≤ 131 by omega), h₁, h₂, h₃, Option.bind_eq_bind, Option.bind_some]

/-- `SendData` builds the frame of the command in the slot. -/
theorem buildNew_lineFrame (hctrl : d.datadown.framectrl = ctrl)
    (hlen : d.datadown.datalen = BitVec.ofNat 8 (payload.length + 2))
    (hcmd : d.datadown.command = payload) (hl : payload.length ≤ 128)
    (hfit : 0 + (lineFrame ctrl payload).length ≤ 250) :
    buildNew d = some
      (d.sendData.tempbuf.put 0 (lineFrame ctrl payload) hfit, (lineFrame ctrl payload).length) := by
  have hwl := length_lineFrame ctrl payload
  have hb : 0 + (wireBody ctrl payload).length ≤ 250 := by omega
  rw [buildNew_eq hctrl hlen hcmd hl hb, foldlM_transData _ _ (by omega),
    Block.put_put _ hb _ (by omega) hfit]
  exact congrArg some (Prod.ext rfl hwl.symm)

/-- **What `SendData` writes for a command taken**, if it fits its buffer. -/
theorem sendData_lineFrame (ok : Bool) (hs : d.datadown.state = 0) (hl : payload.length ≤ 128)
    (hfit : (lineFrame d.datadown.framectrl payload).length ≤ 250) :
    ∃ e, sendData (.new f) true ok (dataDownWr d payload).1 = some (e, ok) ∧
      e.sendData.tempbuf.slice 0 e.sendData.i = some (lineFrame d.datadown.framectrl payload) ∧
      (ok = true → e.hist.uart = d.hist.uart ++ [lineFrame d.datadown.framectrl payload]) := by
  have hfit' : 0 + (lineFrame d.datadown.framectrl payload).length ≤ 250 := by omega
  obtain ⟨s, hd, hst⟩ := dataDownWr_taken hs hl
  rw [hd]
  have hb := buildNew_lineFrame
    (d := { d with datadown := s, hist.taken := d.hist.taken ++ [payload] })
    hst.framectrl hst.datalen hst.command hl hfit'
  rw [sendData, if_pos rfl, buildFrame, hb, Option.bind_some, wrUartBuf]
  simp only [Block.slice_put_zero]
  cases ok with
  | true => exact ⟨_, rfl, Block.slice_put_zero _ hfit', fun _ => rfl⟩
  | false => exact ⟨_, rfl, Block.slice_put_zero _ hfit', fun h => absurd h Bool.false_ne_true⟩

end

/-! ## The receiver -/

section
variable {d e : Dev} {ctrl : Byte} {payload : List Byte} {f : Bool}

/-- Stuffed bytes, in the middle of a frame: a 0xF5 is put back with the 0x55 behind it. -/
theorem Reading.stuffed : ∀ (xs : List Byte) {raw : List Byte} {e : Dev}, Reading d raw 0 e →
    d.framerevfifo.datalen + raw.length + (stuffed xs).length ≤ revFifoLen →
    ∃ e', Thru (.new f) e (stuffed xs) e' ∧ Reading d (raw ++ MxchipSpp.stuffed xs) 0 e'
  | [], _, e, h, _ => ⟨e, .nil e, by simpa using h⟩
  | x :: xs, raw, e, h, hroom => by
    rw [stuffed_cons, List.length_append] at hroom
    obtain ⟨e₁, h₁, h₂⟩ : ∃ e₁, Thru (.new f) e (escape frameHeader 0x55 x) e₁ ∧
        Reading d (raw ++ escape frameHeader 0x55 x) 0 e₁ := by
      by_cases hx : x = frameHeader
      · subst hx
        rw [escape, if_pos rfl] at hroom ⊢
        simp only [List.length_cons, List.length_nil] at hroom
        obtain ⟨e₁, h₁, h₂⟩ := h.header (b := .new f) (by simp [headNumer])
        obtain ⟨e₂, h₃, h₄⟩ := h₂.plain (b := .new f) (x := 0x55) (by decide) (by simp) (by omega)
        exact ⟨e₂, .cons h₁ (.one h₃), by simpa using h₄⟩
      · rw [escape, if_neg hx] at hroom ⊢
        obtain ⟨e₁, h₁, h₂⟩ := h.plain (b := .new f) hx (by simp)
          (by simp only [List.length_singleton] at hroom; omega)
        exact ⟨e₁, .one h₁, by simpa using h₂⟩
    obtain ⟨e₂, h₃, h₄⟩ := Reading.stuffed xs h₂ (by rw [List.length_append]; omega)
    exact ⟨e₂, h₁.append h₃, by rw [stuffed_cons, ← List.append_assoc]; exact h₄⟩

theorem ctrl_ne_header (h : encrypt ctrl = false) : ctrl ≠ frameHeader := by
  rintro rfl; exact absurd h (by decide)

theorem datalen_ne_header (hl : payload.length ≤ 128) :
    BitVec.ofNat 8 (payload.length + 2) ≠ frameHeader := by
  intro h
  have := congrArg BitVec.toNat h
  rw [toNat_datalen hl, show frameHeader.toNat = 245 from rfl] at this
  omega

/-- An idle receiver takes the frame as it is into its FIFO. -/
theorem thru_wireFrame (hd : Idle d) (henc : encrypt ctrl = false) (hl : payload.length ≤ 128)
    (hroom : d.framerevfifo.datalen + (wireFrame ctrl payload).length ≤ revFifoLen) :
    ∃ e, Thru (.new f) d (wireFrame ctrl payload) e ∧ Reading d (wireFrame ctrl payload) 0 e := by
  have hsplit : wireFrame ctrl payload = List.replicate 2 frameHeader ++
      ([ctrl, BitVec.ofNat 8 (payload.length + 2)] ++
        stuffed (payload ++ checkBytes ctrl (wireBody ctrl payload))) := by
    rw [stuffed, stuff_append]; rfl
  have hlen := congrArg List.length hsplit
  simp only [List.length_append, List.length_replicate, List.length_cons, List.length_nil] at hlen
  obtain ⟨e₁, h₁, h₂⟩ := thru_header (b := .new f) hd (by simp only [headNumer]; omega)
  simp only [headNumer] at h₁ h₂
  obtain ⟨e₂, h₃, h₄⟩ := h₂.plains (b := .new f)
    (show frameHeader ∉ [ctrl, BitVec.ofNat 8 (payload.length + 2)] by
      simp [(ctrl_ne_header henc).symm, (datalen_ne_header hl).symm]) (by simp; omega)
  obtain ⟨e₃, h₅, h₆⟩ := Reading.stuffed (f := f)
    (payload ++ checkBytes ctrl (wireBody ctrl payload)) h₄ (by simp; omega)
  rw [hsplit]
  exact ⟨e₃, h₁.append (h₃.append h₅), by rw [← List.append_assoc]; exact h₆⟩

/-! ## The frame read back -/

theorem append_crc (c : BitVec 16) :
    (c.extractLsb' 8 8 ++ c.extractLsb' 0 8 : BitVec 16) = c := by
  rw [BitVec.extractLsb'_append_extractLsb'_eq_extractLsb' (by rfl)]
  simp

theorem errorOf_checkBytes {body : List Byte} {hi lo : Byte}
    (h : checkBytes ctrl body = [hi, lo]) : errorOf ctrl body hi lo = 0 := by
  unfold checkBytes at h
  unfold errorOf
  split_ifs at h with h₀ h₁ <;> cases h
  · rw [if_pos h₀, append_crc]; simp
  · simp [h₁]
  · rw [if_neg h₀, if_neg h₁]; simp

/-- `raw` starts with the frame of `ctrl` and `payload`, with the check field `[hi, lo]`. -/
structure Holds (raw : Block Byte 250) (ctrl : Byte) (payload : List Byte) (hi lo : Byte) :
    Prop where
  length_le : payload.length ≤ 129
  cells : ∃ rest, raw.cells = wireBody ctrl payload ++ (stuffed [hi, lo] ++ rest)

theorem holds_bufferOf {hi lo : Byte} (hl : payload.length ≤ 129)
    (hfit : (wireBody ctrl payload ++ stuffed [hi, lo]).length ≤ 250) :
    Holds (bufferOf (wireBody ctrl payload ++ stuffed [hi, lo])) ctrl payload hi lo := by
  refine ⟨hl, List.replicate (250 - (wireBody ctrl payload ++ stuffed [hi, lo]).length) 0, ?_⟩
  rw [cells_bufferOf, List.take_append, List.take_of_length_le hfit, List.take_replicate,
    Nat.min_eq_left (by omega), ← List.append_assoc]

section
variable {raw : Block Byte 250} {hi lo : Byte}

theorem Holds.get (h : Holds raw ctrl payload hi lo) {k : Fin 250} (hk : (k : ℕ) < 4) :
    raw.get k = [0xF5, 0xF5, ctrl, BitVec.ofNat 8 (payload.length + 2)].getD k 0 := by
  obtain ⟨rest, hr⟩ := h.cells
  apply Block.get_eq_of_getElem?
  rw [hr, wireBody, List.append_assoc, List.getElem?_append_left (by simpa using hk),
    List.getD_eq_getElem?_getD, List.getElem?_eq_getElem (by simpa using hk)]
  rfl

theorem Holds.datalen (h : Holds raw ctrl payload hi lo) : (raw.get 3).toNat = payload.length + 2 := by
  have hl := h.length_le
  rw [h.get (k := 3) (by decide)]
  change (BitVec.ofNat 8 (payload.length + 2)).toNat = _
  rw [BitVec.toNat_ofNat]
  omega

theorem Holds.take (h : Holds raw ctrl payload hi lo) :
    raw.cells.take (wireBody ctrl payload).length = wireBody ctrl payload := by
  obtain ⟨rest, hr⟩ := h.cells
  rw [hr, List.take_left]

/-- The data and the check field are read back. -/
theorem Holds.decoded (h : Holds raw ctrl payload hi lo) :
    Decoded raw (wireBody ctrl payload).length payload hi lo := by
  obtain ⟨rest, hr⟩ := h.cells
  have hdrop : raw.cells.drop 4 = stuffed payload ++ (stuffed [hi, lo] ++ rest) := by
    rw [hr, wireBody, List.append_assoc]; rfl
  have hn : raw.cells.drop (wireBody ctrl payload).length = stuffed [hi, lo] ++ rest := by
    rw [hr, List.drop_left]
  refine ⟨?_, rest, ?_⟩
  · rw [h.datalen, Nat.add_sub_cancel, hdrop, hn]
    exact unstuff_stuff _ _
  · rw [hn]
    exact unstuff_stuff [hi, lo] rest

/-- **A frame of the line is turned into its record**: the control byte, the length and the data
    behind two bytes of head. -/
theorem Holds.frameDataNew (h : Holds raw ctrl payload hi lo)
    (hc : errorOf ctrl (wireBody ctrl payload) hi lo = 0) (templen : ℕ) :
    ∃ e head, head.length = 2 ∧ frameDataNew f d raw templen = some e ∧
      Offered (d.setError 4)
        (head ++ ([ctrl, BitVec.ofNat 8 (payload.length + 2)] ++ payload ++ [hi, lo])) e := by
  have hctrl : raw.get 2 = ctrl := h.get (by decide)
  have hlen : raw.get 3 = BitVec.ofNat 8 (payload.length + 2) := h.get (by decide)
  have hl := h.length_le
  obtain ⟨t, hfill, he⟩ := frameDataNew_decoded h.decoded (by rw [h.datalen]; omega) d f templen
  simp only [hctrl, hlen] at he hfill
  have hlen' : (BitVec.ofNat 8 (payload.length + 2)).toNat = payload.length + 2 := hlen ▸ h.datalen
  obtain ⟨e, he', ho⟩ := inputRecord_spec (d.setError 4)
    (t.put 2 ([ctrl, BitVec.ofNat 8 (payload.length + 2)] ++ payload ++ [hi, lo]) hfill)
    (r := t.cells.take 2 ++ ([ctrl, BitVec.ofNat 8 (payload.length + 2)] ++ payload ++ [hi, lo]))
    (by rw [get_filled t hfill (by decide) (k := 3) rfl, hlen', ← slice_filled t hfill]
        congr 1; simp; omega)
  refine ⟨e, t.cells.take 2, by simp, ?_, ho⟩
  rw [he, h.take, hc, ← he']
  rfl

end

/-- What the receiver makes of a frame: two bytes of head, the control byte, the length, the data and
    the check field. -/
structure IsRecord (ctrl : Byte) (payload r : List Byte) : Prop where
  length : r.length = payload.length + 6
  framectrl : r[2]? = some ctrl
  datalen : r[3]? = some (BitVec.ofNat 8 (payload.length + 2))
  payload : (r.drop 4).take payload.length = payload

theorem isRecord_append {head check : List Byte} (hh : head.length = 2) (hc : check.length = 2) :
    IsRecord ctrl payload
      (head ++ ([ctrl, BitVec.ofNat 8 (payload.length + 2)] ++ payload ++ check)) := by
  obtain ⟨x, y, rfl⟩ := List.length_eq_two.1 hh
  exact ⟨by simp; omega, rfl, rfl, by simp⟩

/-- **A frame alone behind the records is turned into its record.** -/
theorem frameDataHandle_wireFrame (hl : payload.length ≤ 128)
    (hfit : (wireFrame ctrl payload).length ≤ 250)
    (hraw : d.framerevfifo.contents.drop d.framerevpara.offset = wireFrame ctrl payload)
    (hroom : d.framerevfifo.datalen ≤ revFifoLen) :
    ∃ e r, frameDataHandle (.new f) d = .ok e ∧ IsRecord ctrl payload r ∧
      e.framerevfifo.contents = d.framerevfifo.contents.take d.framerevpara.offset ++ r ∧
      e.hist.accepted = d.hist.accepted ++ [r] := by
  have hlen := length_wireFrame ctrl payload
  have hn := congrArg List.length hraw
  rw [List.length_drop, Fifo.length_contents] at hn
  obtain ⟨-, -, hr, hdrop, hdl⟩ := pends_of_drop (by omega) hraw (by omega)
  obtain ⟨hi, lo, hc⟩ : ∃ hi lo, checkBytes ctrl (wireBody ctrl payload) = [hi, lo] :=
    List.length_eq_two.1 (length_checkBytes _ _)
  have hw : wireFrame ctrl payload = wireBody ctrl payload ++ stuffed [hi, lo] := by
    rw [wireFrame, hc]
  have hh : Holds _ ctrl payload hi lo := holds_bufferOf (by omega) (hw ▸ hfit)
  rw [← hw] at hh
  obtain ⟨e, head, h₂, he, ho⟩ := hh.frameDataNew (d := d.dropRaw) (f := f) (errorOf_checkBytes hc)
    (u8 d.pending)
  have hrec : IsRecord ctrl payload
      (head ++ ([ctrl, BitVec.ofNat 8 (payload.length + 2)] ++ payload ++ [hi, lo])) :=
    isRecord_append h₂ rfl
  obtain ⟨h₃, -, h₄⟩ := ho.taken (by
    change d.dropRaw.framerevfifo.datalen + _ ≤ _
    rw [hrec.length]; omega)
  refine ⟨(frameRevInit e).noteCall d.pending (some (frameRevInit e).snapshot), _, ?_, hrec, ?_, ?_⟩
  · rw [frameDataHandle, frameData, hr, write_bufferOf hfit]
    simp only [Option.bind_eq_bind, Option.bind_some, he]
    rfl
  · change e.framerevfifo.contents = _
    rw [h₃]; exact congrArg (· ++ _) hdrop
  · exact h₄

end

/-- **The link round trip.**  A command taken by `DataDownWr` whose frame fits the buffers is
    written to the UART as one frame; any idle receiver with room for it, fed that frame in any
    chunking, puts exactly one record behind the others, with the same control byte and data. -/
theorem link_round_trip (f : Bool) {s : Dev} {payload : List Byte}
    (hacc : (dataDownWr s payload).2 = true) (henc : encrypt s.datadown.framectrl = false)
    (hcrc : crctype s.datadown.framectrl ≠ 3)
    (hfit : (wireFrame s.datadown.framectrl payload).length ≤ 250) :
    ∃ s', sendData (.new f) true true (dataDownWr s payload).1 = some (s', true) ∧
      s'.hist.uart = s.hist.uart ++ [wireFrame s.datadown.framectrl payload] ∧
      ∀ (f' : Bool) (d : Dev) (chunks : List (List Byte)), Idle d →
        d.framerevpara.offset = d.framerevfifo.datalen →
        d.framerevfifo.datalen + (wireFrame s.datadown.framectrl payload).length ≤ revFifoLen →
        chunks.flatten = wireFrame s.datadown.framectrl payload → (∀ c ∈ chunks, c.length ≤ 255) →
        ∃ e r, run (.new f') d (chunks.map .rev ++ [.revTimerUp, .revTimerHandle]) = .ok e ∧
          e.hist.accepted = d.hist.accepted ++ [r] ∧
          e.framerevfifo.contents = d.framerevfifo.contents ++ r ∧
          IsRecord s.datadown.framectrl payload r := by
  obtain ⟨hs, hl⟩ := fits_of_dataDownWr hacc
  rw [← lineFrame_eq hcrc] at hfit
  obtain ⟨s', h₁, -, h₂⟩ := sendData_lineFrame (f := f) true hs hl hfit
  rw [lineFrame_eq hcrc] at hfit h₂
  have h₂ := h₂ rfl
  refine ⟨s', h₁, h₂, fun f' d chunks hd hp hroom hc hch => ?_⟩
  obtain ⟨e₁, h₃, h₄⟩ := thru_wireFrame (f := f') hd henc hl hroom
  have hrun := Thru.run_chunks (hc ▸ h₃) hch
  have hoff : e₁.framerevpara.offset = d.framerevfifo.contents.length := by
    rw [h₄.para, Fifo.length_contents]; exact hp
  have hraw : e₁.clearRevTimer.framerevfifo.contents.drop e₁.clearRevTimer.framerevpara.offset =
      wireFrame s.datadown.framectrl payload := by
    change e₁.framerevfifo.contents.drop e₁.framerevpara.offset = _
    rw [h₄.contents, hoff, List.drop_left]
  obtain ⟨e, r, h₅, h₆, h₇, h₈⟩ := frameDataHandle_wireFrame (f := f') hl hfit hraw
    (by change e₁.framerevfifo.datalen ≤ _; rw [h₄.datalen]; exact hroom)
  have hh : e₁.clearRevTimer.hist = d.hist := by
    change e₁.hist = d.hist
    rw [h₄.rest]
  refine ⟨e, r, by rw [run_append_of_ok hrun, run_expiry, h₅], by rw [h₈, hh], ?_, h₆⟩
  rw [h₇]
  change e₁.framerevfifo.contents.take e₁.framerevpara.offset ++ _ = _
  rw [h₄.contents, hoff, List.take_left]

/-- A command with a 0xF5 in it, cut behind that 0xF5. -/
theorem link_round_trip_header :
    ∃ s', sendData (.new true) true true (dataDownWr devParaInit [1, 0xF5]).1 = some (s', true) ∧
      s'.hist.uart = [wireFrame 0 [1, 0xF5]] ∧
      ∃ e r, run (.new true) devParaInit ([(wireFrame 0 [1, 0xF5]).take 6,
          (wireFrame 0 [1, 0xF5]).drop 6].map .rev ++ [.revTimerUp, .revTimerHandle]) = .ok e ∧
        e.hist.accepted = [r] ∧ e.framerevfifo.contents = r ∧ IsRecord 0 [1, 0xF5] r := by
  obtain ⟨s', h₁, h₂, h₃⟩ := @link_round_trip true devParaInit [1, 0xF5]
    rfl rfl (by decide) (by decide +kernel)
  obtain ⟨e, r, h₄, h₅, h₆, h₇⟩ := h₃ true devParaInit
    [(wireFrame 0 [1, 0xF5]).take 6, (wireFrame 0 [1, 0xF5]).drop 6] ⟨rfl, rfl⟩ rfl
    (by decide +kernel) (by decide +kernel) (by decide +kernel)
  exact ⟨s', h₁, h₂, e, r, h₄, h₅, h₆, h₇⟩

end MxchipSpp
