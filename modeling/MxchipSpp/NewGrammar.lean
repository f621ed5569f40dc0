/-
  What the decoder of the new protocol accepts.

  A frame has two headers, a control byte, a length, as many data bytes as the
  length says, less two, and two bytes for the check field.  `FrameDataHandle`
  takes the length at its word: it looks neither at the number of bytes
  received nor at the byte behind a `0xF5`, and passes what has no check.
  Which bytes it takes wrongly is said of the bytes themselves (`Deviates`,
  `CheckMatches`), by the indices at which their values stand.
-/
import MxchipSpp.RoundTrip

namespace MxchipSpp

open Memory Outcome Stuffing

/-- A frame but for the value of its check field `[hi, lo]`: one of the three check types, no
    encryption, a length of 3 to 131, `0x55` behind each `0xF5` of the data and the check field, and
    nothing after that. -/
structure Shaped (f : List Byte) (ctrl : Byte) (payload : List Byte) (hi lo : Byte) : Prop where
  crctype_ne : crctype ctrl ≠ 3
  encrypt_eq : encrypt ctrl = false
  length_ge : 3 ≤ payload.length + 2
  length_le : payload.length + 2 ≤ 131
  bytes : f = wireBody ctrl payload ++ stuffed [hi, lo]

/-- A frame of the new protocol. -/
def NewFrame (f : List Byte) : Prop :=
  ∃ ctrl payload hi lo, Shaped f ctrl payload hi lo ∧ errorOf ctrl (wireBody ctrl payload) hi lo = 0

/-- The raw bytes behind the records. -/
def Dev.frame (d : Dev) : List Byte := d.framerevfifo.contents.drop d.framerevpara.offset

/-! ## The bytes of a frame -/

/-- A byte of the frame, or one of the zeros the buffer holds behind it. -/
def byteAt (w : List Byte) (k : ℕ) : Byte := w.getD k 0

/-- The index of each value behind the first four bytes: a `0xF5` takes the byte behind it along. -/
def valueAt (w : List Byte) (j : ℕ) : ℕ := valueIndex frameHeader (byteAt w) 4 j

/-- The length byte. -/
def lengthByte (w : List Byte) : ℕ := (byteAt w 3).toNat

/-- The indices of the check field. -/
def checkHigh (w : List Byte) : ℕ := valueAt w (lengthByte w - 2)
def checkLow (w : List Byte) : ℕ := valueAt w (lengthByte w - 2 + 1)

/-- The bytes fit the buffer, and as many values as the length byte says (two, if it says less) fit
    `framedata.data` and lie in the buffer. -/
structure FitsBuffer (raw : List Byte) : Prop where
  raw_le : raw.length ≤ 250
  length_le : lengthByte raw ≤ 131
  checkLow_lt : checkLow raw < 250

/-- The check field is that of the bytes before it; with the check type 3 there is none. -/
structure CheckMatches (w : List Byte) : Prop where
  crc : crctype (byteAt w 2) = 0 → byteAt w (checkHigh w) ++ byteAt w (checkLow w) =
    crcCal ((List.range (checkHigh w)).map (byteAt w))
  sum : crctype (byteAt w 2) = 1 → byteAt w (checkHigh w) =
    sumCheck (((List.range (checkHigh w)).map (byteAt w)).drop 3)
  xor : crctype (byteAt w 2) = 2 → byteAt w (checkHigh w) =
    xorCheck (((List.range (checkHigh w)).map (byteAt w)).drop 3)

/-- What makes bytes not a frame, apart from the check field. -/
inductive Deviates (w : List Byte) : Prop where
  | head (h : byteAt w 0 ≠ frameHeader ∨ byteAt w 1 ≠ frameHeader)
  | crctype (h : crctype (byteAt w 2) = 3)
  | encrypt (h : encrypt (byteAt w 2) = true)
  | length (h : lengthByte w < 3)
  /-- the byte behind a `0xF5` is not `0x55` -/
  | skipped (j : ℕ) (hj : j < lengthByte w) (hv : byteAt w (valueAt w j) = frameHeader)
      (h : byteAt w (valueAt w j + 1) ≠ 0x55)
  /-- bytes are missing, or stand behind the check field -/
  | ends (h : valueAt w (lengthByte w) ≠ w.length)

/-- A call of `FrameDataHandle` stays in bounds, and makes a record exactly of a frame. -/
structure AcceptsFrames (f : Bool) (d : Dev) : Prop where
  inBounds : ∃ e, frameDataHandle (.new f) d = .ok e
  record : 4 ≤ d.frame.length → d.frame.length ≤ 250 → ∀ e, frameDataHandle (.new f) d = .ok e →
    ((∃ r, e.hist.accepted = d.hist.accepted ++ [r]) ↔ NewFrame d.frame)

section
variable {d e : Dev} {f : Bool} {w raw payload : List Byte} {ctrl hi lo : Byte}

/-! ## What is read -/

theorem getElem?_byteAt {k : ℕ} (hk : k < (bufferOf w).cells.length) :
    (bufferOf w).cells[k]? = some (byteAt w k) :=
  getElem?_bufferOf (by simpa using hk)

theorem take_cells {k : ℕ} (hk : k ≤ 250) :
    (bufferOf w).cells.take k = (List.range k).map (byteAt w) := by
  refine List.ext_getElem? fun i => ?_
  rw [List.getElem?_take, List.getElem?_map]
  split_ifs with hi
  · rw [getElem?_byteAt (by simp; omega), List.getElem?_range hi, Option.map_some]
  · rw [List.getElem?_eq_none (by simpa using hi), Option.map_none]

theorem read_bufferOf {k : ℕ} {x : Byte} :
    (bufferOf w).read k = some x ↔ k < 250 ∧ x = byteAt w k := by
  rw [Block.read_eq_some_iff]
  constructor
  · rintro ⟨rest, h⟩
    have hk : k < 250 := by
      by_contra hge
      rw [List.drop_eq_nil_of_le (by simp; omega)] at h
      cases h
    have hx := getElem?_byteAt (w := w) (show k < _ by simpa using hk)
    rw [← List.head?_drop, h] at hx
    exact ⟨hk, Option.some.inj hx⟩
  · rintro ⟨hk, rfl⟩
    have hlt : k < (bufferOf w).cells.length := by simpa using hk
    have hx := getElem?_byteAt hlt
    rw [List.getElem?_eq_getElem hlt, Option.some.injEq] at hx
    exact ⟨_, by rw [← hx]; exact List.drop_eq_getElem_cons hlt⟩

/-- The two bytes that are read as the check field. -/
theorem readsCheck_iff {k : ℕ} :
    (∃ rest, unstuff frameHeader 2 ((bufferOf w).cells.drop k) = some ([hi, lo], rest)) ↔
      (k < 250 ∧ hi = byteAt w k) ∧ (if hi = frameHeader then k + 2 else k + 1) < 250 ∧
        lo = byteAt w (if hi = frameHeader then k + 2 else k + 1) := by
  have hnext : (if hi = frameHeader then (k : ℤ) + 2 else k + 1) =
      ((if hi = frameHeader then k + 2 else k + 1 : ℕ) : ℤ) := by split_ifs <;> rfl
  rw [read_check_iff, read_bufferOf, hnext, read_bufferOf]

theorem checkLow_eq : checkLow w =
    if byteAt w (checkHigh w) = frameHeader then checkHigh w + 2 else checkHigh w + 1 := by
  rw [checkLow, valueAt, valueIndex, checkHigh, valueAt]
  split_ifs <;> rfl

theorem checkHigh_lt : checkHigh w < checkLow w := valueIndex_lt_succ _

/-- **What the decoder reads** stands at these indices, if the last is in the buffer. -/
theorem decoded_iff {i : ℕ} : Decoded (bufferOf w) i payload hi lo ↔
    checkLow w < 250 ∧ i = checkHigh w ∧
      payload = values frameHeader (byteAt w) 4 (lengthByte w - 2) ∧
      hi = byteAt w (checkHigh w) ∧ lo = byteAt w (checkLow w) := by
  have hn : ((bufferOf w).get 3).toNat - 2 = lengthByte w - 2 := by rw [get_bufferOf]; rfl
  constructor
  · intro h
    obtain ⟨h₄, h₂₅₀⟩ := h.index
    have hd := h.data
    rw [hn, unstuff_drop_iff (fun k hk => getElem?_byteAt hk), Prod.mk.injEq] at hd
    obtain ⟨-, hpayload, hdrop⟩ := hd
    have hi' : i = checkHigh w := by
      have := congrArg List.length hdrop
      simp only [List.length_drop, Block.length_cells] at this
      rw [checkHigh, valueAt]
      omega
    subst hi'
    obtain ⟨⟨-, rfl⟩, hc, hlo⟩ := readsCheck_iff.1 h.check
    rw [← checkLow_eq] at hc hlo
    exact ⟨hc, rfl, hpayload, rfl, hlo⟩
  · rintro ⟨hc, rfl, rfl, rfl, rfl⟩
    have hlt := checkHigh_lt (w := w)
    refine ⟨?_, readsCheck_iff.2 ⟨⟨by omega, rfl⟩, ?_⟩⟩
    · rw [hn, unstuff_drop_iff (fun k hk => getElem?_byteAt hk)]
      refine ⟨fun j hj => ?_, rfl⟩
      have hbefore : valueIndex frameHeader (byteAt w) 4 j < checkHigh w :=
        (valueIndex_lt_succ _).trans_le (valueIndex_mono hj)
      simp only [Block.length_cells]
      omega
    · rw [← checkLow_eq]
      exact ⟨hc, rfl⟩

/-- The test of the check field. -/
theorem checkMatches_iff (hc : checkLow w < 250) :
    errorOf ((bufferOf w).get 2) ((bufferOf w).cells.take (checkHigh w)) (byteAt w (checkHigh w))
      (byteAt w (checkLow w)) = 0 ↔ CheckMatches w := by
  have hlt := checkHigh_lt (w := w)
  rw [take_cells (by omega), get_bufferOf]
  change errorOf (byteAt w 2) _ _ _ = 0 ↔ _
  constructor
  · intro h
    refine ⟨fun h₀ => ?_, fun h₁ => ?_, fun h₂ => ?_⟩
    · by_contra hne
      rw [errorOf, if_pos h₀, if_pos hne] at h
      cases h
    · by_contra hne
      rw [errorOf, if_neg (by rw [h₁]; decide), if_pos h₁, if_pos hne] at h
      cases h
    · by_contra hne
      rw [errorOf, if_neg (by rw [h₂]; decide), if_neg (by rw [h₂]; decide), if_pos h₂,
        if_pos hne] at h
      cases h
  · rintro ⟨h₀, h₁, h₂⟩
    rw [errorOf]
    split_ifs with hc₀ hne hc₁ hne hc₂ hne
    · exact absurd (h₀ hc₀) hne
    · rfl
    · exact absurd (h₁ hc₁) hne
    · rfl
    · exact absurd (h₂ hc₂) hne
    · rfl
    · rfl

/-! ## Frames of the grammar -/

/-- The bytes of a frame, one by one. -/
theorem Shaped.byteAt (h : Shaped w ctrl payload hi lo) :
    MxchipSpp.byteAt w 0 = frameHeader ∧ MxchipSpp.byteAt w 1 = frameHeader ∧
      MxchipSpp.byteAt w 2 = ctrl ∧ lengthByte w = payload.length + 2 := by
  have hl := h.length_le
  rw [h.bytes]
  refine ⟨rfl, rfl, rfl, ?_⟩
  change (BitVec.ofNat 8 (payload.length + 2)).toNat = _
  rw [BitVec.toNat_ofNat]
  omega

theorem getElem?_eq_byteAt : ∀ k < w.length, w[k]? = some (byteAt w k) := fun k hk => by
  rw [byteAt, List.getElem?_eq_getElem hk, List.getD_eq_getElem w 0 hk]

/-- A frame does not deviate. -/
theorem Shaped.not_deviates (hs : Shaped w ctrl payload hi lo) : ¬ Deviates w := by
  intro hdev
  obtain ⟨h₀, h₁, h₂, h₃⟩ := hs.byteAt
  have hlen := hs.length_ge
  have hw : w = [0xF5, 0xF5, ctrl, BitVec.ofNat 8 (payload.length + 2)] ++
      (stuff frameHeader 0x55 (payload ++ [hi, lo]) ++ []) := by
    rw [hs.bytes, wireBody, List.append_assoc, List.append_nil, stuff_append]
    rfl
  have hn : (payload ++ [hi, lo]).length = lengthByte w := by rw [h₃]; simp
  cases hdev with
  | head h => rcases h with h | h <;> contradiction
  | crctype h => exact hs.crctype_ne (h₂ ▸ h)
  | encrypt h => exact absurd (hs.encrypt_eq.symm.trans (h₂ ▸ h)) Bool.false_ne_true
  | length h => omega
  | skipped j hj hv h => exact h (mark_stuff hw getElem?_eq_byteAt (hn ▸ hj) hv)
  | ends h =>
    have hend := (valueIndex_stuff hw getElem?_eq_byteAt hn.ge).2
    have hall := congrArg List.length hw
    rw [List.append_nil, List.length_append] at hall
    rw [← hn, List.drop_length, stuff_nil, List.length_nil, Nat.add_zero, hn, ← hall] at hend
    exact h hend

/-- Bytes that do not deviate are a frame. -/
theorem shaped_of_not_deviates (hl : lengthByte w ≤ 131) (hdev : ¬ Deviates w) :
    ∃ ctrl payload hi lo, Shaped w ctrl payload hi lo := by
  have hhead : byteAt w 0 = frameHeader ∧ byteAt w 1 = frameHeader := by
    by_contra h
    exact hdev (.head (not_and_or.1 h))
  have h₃ : 3 ≤ lengthByte w := by
    by_contra h
    exact hdev (.length (by omega))
  have hend : valueIndex frameHeader (byteAt w) 4 (lengthByte w) = w.length := by
    by_contra h
    exact hdev (.ends h)
  have hmark : ∀ j < lengthByte w, byteAt w (valueIndex frameHeader (byteAt w) 4 j) = frameHeader →
      byteAt w (valueIndex frameHeader (byteAt w) 4 j + 1) = 0x55 := fun j hj hv => by
    by_contra h
    exact hdev (.skipped j hj hv h)
  have htake := take_valueIndex getElem?_eq_byteAt hmark hend.le
  have h₄ : 4 ≤ w.length := by
    rw [← hend]
    exact valueIndex_mono (n := lengthByte w) (Nat.zero_le _)
  have hfour : w.take 4 = [0xF5, 0xF5, byteAt w 2, byteAt w 3] := by
    match w, h₄, hhead with
    | a :: b :: c :: e :: l, _, ⟨ha, hb⟩ =>
      obtain rfl : a = 0xF5 := ha
      obtain rfl : b = 0xF5 := hb
      rfl
  obtain ⟨n, hn⟩ : ∃ n, lengthByte w = n + 2 := ⟨lengthByte w - 2, by omega⟩
  have hbyte : BitVec.ofNat 8 (n + 2) = byteAt w 3 := by
    rw [← hn, lengthByte, BitVec.ofNat_toNat, BitVec.setWidth_eq]
  refine ⟨byteAt w 2, values frameHeader (byteAt w) 4 n, byteAt w (valueAt w n),
    byteAt w (valueAt w (n + 1)), fun h => hdev (.crctype h), ?_, ?_, ?_, ?_⟩
  · by_contra h
    exact hdev (.encrypt (by simpa using h))
  · rw [length_values]; omega
  · rw [length_values]; omega
  · rw [hend, List.take_length, hfour, hn, values_succ, values_succ, List.append_assoc,
      stuff_append] at htake
    rw [wireBody, length_values, hbyte, List.append_assoc]
    exact htake

/-- **The frames are the bytes that do not deviate.** -/
theorem shaped_iff (hl : lengthByte w ≤ 131) :
    (∃ ctrl payload hi lo, Shaped w ctrl payload hi lo) ↔ ¬ Deviates w :=
  ⟨fun ⟨_, _, _, _, hs⟩ => hs.not_deviates, shaped_of_not_deviates hl⟩

theorem Shaped.holds (h : Shaped w ctrl payload hi lo) (hl : w.length ≤ 250) :
    Holds (bufferOf w) ctrl payload hi lo := by
  have hlen := h.length_le
  rw [h.bytes] at hl ⊢
  exact holds_bufferOf (by omega) hl

/-- What is read of a frame is its check field. -/
theorem Shaped.checkMatches_iff (h : Shaped w ctrl payload hi lo) (hl : w.length ≤ 250) :
    CheckMatches w ↔ errorOf ctrl (wireBody ctrl payload) hi lo = 0 := by
  have hh := h.holds hl
  have hctrl : (bufferOf w).get 2 = ctrl := hh.get (by decide)
  obtain ⟨hc, hi', -, rfl, rfl⟩ := decoded_iff.1 hh.decoded
  rw [← MxchipSpp.checkMatches_iff hc, ← hi', hctrl, hh.take]

theorem newFrame_iff (hl : w.length ≤ 250) (h₁₃₁ : lengthByte w ≤ 131) :
    NewFrame w ↔ CheckMatches w ∧ ¬ Deviates w := by
  rw [← shaped_iff h₁₃₁]
  constructor
  · rintro ⟨ctrl, payload, hi, lo, hs, he⟩
    exact ⟨(hs.checkMatches_iff hl).2 he, ctrl, payload, hi, lo, hs⟩
  · rintro ⟨hp, ctrl, payload, hi, lo, hs⟩
    exact ⟨ctrl, payload, hi, lo, hs, (hs.checkMatches_iff hl).1 hp⟩

/-- The record of a frame is not longer than the frame. -/
theorem Shaped.lengthByte_le (h : Shaped w ctrl payload hi lo) : lengthByte w + 4 ≤ w.length := by
  have h₁ := length_le_stuffed payload
  have h₂ := length_le_stuffed [hi, lo]
  rw [h.byteAt.2.2.2, h.bytes, List.length_append, length_wireBody]
  simp only [List.length_cons, List.length_nil] at h₂
  omega

/-! ## One call -/

theorem frameData_new (h : d.raw.length ≤ 250) : frameData (.new f) d =
    (frameDataNew f d.dropRaw (bufferOf d.raw) (u8 d.pending)).map frameRevInit := by
  simp only [frameData, write_bufferOf h, Option.bind_eq_bind, Option.bind_some]
  rw [Option.map_eq_bind]
  rfl

/-- **When the call stays in bounds.** -/
theorem frameData_new_isSome : (frameData (.new f) d).isSome ↔ FitsBuffer d.raw := by
  have hlen : ((bufferOf d.raw).get 3).toNat = lengthByte d.raw := by rw [get_bufferOf]; rfl
  by_cases hl : d.raw.length ≤ 250
  · rw [frameData_new hl, Option.isSome_map]
    constructor
    · intro hs
      obtain ⟨e, he⟩ := Option.isSome_iff_exists.1 hs
      obtain ⟨h₁₃₁, i, payload, hi, lo, hd⟩ := exists_decoded he
      exact ⟨hl, hlen ▸ h₁₃₁, (decoded_iff.1 hd).1⟩
    · rintro ⟨-, h₁₃₁, hc⟩
      obtain ⟨e, he, -⟩ := frameDataNew_cases (decoded_iff.2 ⟨hc, rfl, rfl, rfl, rfl⟩)
        (hlen.trans_le h₁₃₁) d.dropRaw f (u8 d.pending)
      rw [he]
      rfl
  · rw [frameData_eq_none _ (by omega), Option.isSome_none]
    exact ⟨fun h => (Bool.false_ne_true h).elim, fun h => absurd h.raw_le hl⟩

/-- What is copied is the frame, and nothing but the records is left. -/
theorem Dev.raw_eq_frame (h₄ : 4 ≤ d.frame.length) (h : d.frame.length ≤ 250) :
    d.raw = d.frame ∧ d.dropRaw.framerevfifo.datalen = d.framerevpara.offset ∧
      d.framerevpara.offset + d.frame.length = d.framerevfifo.datalen := by
  have hn : d.frame.length = d.framerevfifo.datalen - d.framerevpara.offset := by
    rw [Dev.frame, List.length_drop, Fifo.length_contents]
  have hp : Pends d d.frame := pends_of_drop (by omega) rfl (by omega)
  exact ⟨hp.copied, hp.datalen, by omega⟩

/-- **When the call makes a record.** -/
theorem accepted_iff (h₄ : 4 ≤ d.frame.length) (h : d.frame.length ≤ 250)
    (he : frameDataHandle (.new f) d = .ok e) :
    (∃ r, e.hist.accepted = d.hist.accepted ++ [r]) ↔
      CheckMatches d.frame ∧ d.framerevpara.offset + (lengthByte d.frame + 4) ≤ revFifoLen := by
  obtain ⟨hraw, hdl, -⟩ := Dev.raw_eq_frame h₄ h
  have hlen : d.raw.length ≤ 250 := by rw [hraw]; exact h
  cases hf : frameData (.new f) d with
  | none => rw [frameDataHandle, hf] at he; cases he
  | some e₁ =>
    obtain ⟨-, h₁₃₁, hc⟩ := frameData_new_isSome.1 (by rw [hf]; rfl)
    rw [hraw] at h₁₃₁ hc
    have hbyte : ((bufferOf d.frame).get 3).toNat = lengthByte d.frame := by rw [get_bufferOf]; rfl
    obtain ⟨e₀, he₀, hpass, hfail⟩ := frameDataNew_cases (decoded_iff.2 ⟨hc, rfl, rfl, rfl, rfl⟩)
      (hbyte.trans_le h₁₃₁) d.dropRaw f (u8 d.pending)
    rw [checkMatches_iff hc] at hpass
    rw [ne_eq, checkMatches_iff hc] at hfail
    rw [frameDataHandle, hf] at he
    rw [frameData_new hlen, hraw, he₀] at hf
    cases hf
    cases he
    change (∃ r, e₀.hist.accepted = d.hist.accepted ++ [r]) ↔ _
    have hsame : ∀ r, d.hist.accepted ≠ d.hist.accepted ++ [r] := by
      intro r hr
      have := congrArg List.length hr
      simp at this
    by_cases hm : CheckMatches d.frame
    · obtain ⟨r, hr, ho⟩ := hpass hm
      rw [hbyte] at hr
      by_cases hroom : d.framerevpara.offset + (lengthByte d.frame + 4) ≤ revFifoLen
      · have hacc := (ho.taken (by
          change d.dropRaw.framerevfifo.datalen + _ ≤ _
          omega)).2.2
        exact ⟨fun _ => ⟨hm, hroom⟩, fun _ => ⟨r, hacc⟩⟩
      · have hfull := ho.full (by
          change _ < d.dropRaw.framerevfifo.datalen + _
          omega)
        refine iff_of_false ?_ fun hc => absurd hc.2 hroom
        rintro ⟨r', hr'⟩
        rw [hfull] at hr'
        exact hsame r' hr'
    · obtain ⟨n, hn⟩ := hfail hm
      refine iff_of_false ?_ fun hc => absurd hc.1 hm
      rintro ⟨r', hr'⟩
      rw [hn] at hr'
      exact hsame r' hr'

/-- **What the decoder accepts.**  A call stays in bounds and makes a record exactly of a frame, if
    and only if the values that the length byte asks for can be read, and bytes whose check field
    matches and whose record has room deviate in nothing from a frame. -/
theorem acceptsFrames_iff :
    AcceptsFrames f d ↔ FitsBuffer d.raw ∧
      (4 ≤ d.frame.length → d.frame.length ≤ 250 →
        d.framerevpara.offset + (lengthByte d.frame + 4) ≤ revFifoLen →
        CheckMatches d.frame → ¬ Deviates d.frame) := by
  have hok : (∃ e, frameDataHandle (.new f) d = .ok e) ↔ FitsBuffer d.raw := by
    rw [← frameData_new_isSome (f := f), frameDataHandle]
    cases frameData (.new f) d with
    | none => simp
    | some e => exact ⟨fun _ => rfl, fun _ => ⟨_, rfl⟩⟩
  have hlen : FitsBuffer d.raw → 4 ≤ d.frame.length → d.frame.length ≤ 250 →
      lengthByte d.frame ≤ 131 := fun hfits h₄ h => (Dev.raw_eq_frame h₄ h).1 ▸ hfits.length_le
  constructor
  · rintro ⟨hin, hrec⟩
    refine ⟨hok.1 hin, fun h₄ h hroom hm => ?_⟩
    have h₁₃₁ := hlen (hok.1 hin) h₄ h
    obtain ⟨e, he⟩ := hin
    exact ((newFrame_iff h h₁₃₁).1 ((hrec h₄ h e he).1 ((accepted_iff h₄ h he).2 ⟨hm, hroom⟩))).2
  · rintro ⟨hfits, hdev⟩
    refine ⟨hok.2 hfits, fun h₄ h e he => ?_⟩
    have h₁₃₁ := hlen hfits h₄ h
    rw [accepted_iff h₄ h he, newFrame_iff h h₁₃₁]
    constructor
    · rintro ⟨hm, hroom⟩
      exact ⟨hm, hdev h₄ h hroom hm⟩
    · rintro ⟨hm, hno⟩
      obtain ⟨ctrl, payload, hi, lo, hs⟩ := (shaped_iff h₁₃₁).2 hno
      have h₁ := hs.lengthByte_le
      have h₂ := (Dev.raw_eq_frame h₄ h).2.2
      have h₃ := d.framerevfifo.datalen_le
      exact ⟨hm, by omega⟩

/-- Without a check field type no bytes are refused. -/
theorem not_newFrame_of_crctype (h₂ : w[2]? = some ctrl) (hc : crctype ctrl = 3) : ¬ NewFrame w := by
  rintro ⟨ctrl', payload', hi', lo', hs, -⟩
  rw [hs.bytes] at h₂
  cases h₂
  exact hs.crctype_ne hc

end

/-- Bytes with the check type 3 are a record whatever their check field; and a length byte of 255 is
    taken at its word, beyond the end of both arrays. -/
theorem check_and_length_trusted :
    (∃ d, run (.new true) devParaInit [.rev [0xF5, 0xF5, 0x60, 3, 1, 0, 0]] = .ok d ∧
      ¬ AcceptsFrames true d) ∧
    ∃ d, run (.new true) devParaInit [.rev [0xF5, 0xF5, 0, 0xFF, 1]] = .ok d ∧
      ¬ AcceptsFrames true d := by
  constructor
  · have hrun : ((run (.new true) devParaInit [.rev [0xF5, 0xF5, 0x60, 3, 1, 0, 0]]).toOption.map
        fun d => (d.frame, d.hist.accepted, (frameData (.new true) d).map (·.hist.accepted))) =
        some ([0xF5, 0xF5, 0x60, 3, 1, 0, 0], [], some [[0, 0xF5, 0x60, 3, 1, 0, 0]]) := by
      decide +kernel
    obtain ⟨d, hd, hvals⟩ := exists_ok_of_map hrun
    simp only [Prod.mk.injEq] at hvals
    obtain ⟨hf, hacc, he⟩ := hvals
    obtain ⟨e, he, hr⟩ := Option.map_eq_some_iff.1 he
    refine ⟨d, hd, ?_⟩
    intro h
    have hnew := (h.record (by rw [hf]; decide) (by rw [hf]; decide) _
      (by rw [frameDataHandle, he])).1 ⟨_, by rw [hacc]; exact hr⟩
    rw [hf] at hnew
    exact not_newFrame_of_crctype rfl (by decide) hnew
  · have hrun : ((run (.new true) devParaInit [.rev [0xF5, 0xF5, 0, 0xFF, 1]]).toOption.map
        fun d => (frameData (.new true) d).isNone) = some true := by decide +kernel
    obtain ⟨d, hd, hnone⟩ := exists_ok_of_map hrun
    refine ⟨d, hd, ?_⟩
    intro h
    obtain ⟨e, he⟩ := h.inBounds
    rw [frameDataHandle, Option.isNone_iff_eq_none.1 hnone] at he
    cases he

end MxchipSpp
