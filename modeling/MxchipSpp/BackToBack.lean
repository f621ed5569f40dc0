/-
  Frames sent without a pause (`OLD`): the receiver loses at least every
  second one.

  The header of a frame closes the one before it; but `FrameDataHandle` resets
  the receiver (`FrameRevInit`), so the header bytes just counted are not put
  back and the frame they open is skipped.  `Lossy` says where the receiver can
  be after some bytes of such a stream, and weighs what it can still receive:
  a record costs the eight header bytes of two frames.
-/
import MxchipSpp.Bounds

namespace MxchipSpp

open Memory Outcome

/-! ## The stream -/

def isStatus (r : List Byte) : Bool := r.getD 4 0 == cmdSte

/-- What was fed is received: the FIFO took exactly the status records of the frames (and their
    alarms), in order. -/
def AllReceived (d : Dev) (frames chunks : List (List Byte)) : Prop :=
  ∃ e rs, run .old d (chunks.map .rev ++ [.revTimerUp, .revTimerHandle]) = .ok e ∧
    e.hist.accepted = d.hist.accepted ++ rs ∧
    e.framerevfifo.contents = d.framerevfifo.contents ++ rs.flatten ∧
    rs.filter isStatus = frames.map fun f => statusRecord (bufferOf f)

theorem filter_isStatus_oldRecords (old : Block Byte 250) :
    (oldRecords old).filter isStatus = [statusRecord old] := by
  have h₁ : isStatus (alarmRecord old) = false := rfl
  have h₂ : isStatus (statusRecord old) = true := by
    simp [isStatus, statusRecord, oldStatus]
  unfold oldRecords
  split_ifs
  · rw [List.filter_append, List.filter_cons_of_neg (by rw [h₁]; decide), List.filter_nil,
      List.filter_cons_of_pos h₂, List.filter_nil, List.nil_append]
  · rw [List.nil_append, List.filter_cons_of_pos h₂, List.filter_nil]

/-- The header bytes of the stream are the first four of every 31. -/
theorem header_iff {frames : List (List Byte)} (hf : ∀ f ∈ frames, StatusFrame f) :
    ∀ {i : ℕ} {x : Byte}, frames.flatten[i]? = some x → (x = frameHeader ↔ i % 31 < 4) := by
  induction frames with
  | nil => intro i x h; simp at h
  | cons f frames ih =>
    intro i x h
    have hff := hf f List.mem_cons_self
    have hl := hff.length
    rw [List.flatten_cons] at h
    rcases Nat.lt_or_ge i 31 with hi | hi
    · rw [List.getElem?_append_left (by omega)] at h
      rw [Nat.mod_eq_of_lt hi]
      constructor
      · rintro rfl
        by_contra h4
        refine hff.body (List.mem_iff_getElem?.2 ⟨i - 4, ?_⟩)
        rw [List.getElem?_drop, ← h]; congr 1; omega
      · intro h4
        have := congrArg (fun l => l[i]?) hff.header
        simp only [List.getElem?_take_of_lt h4, h, List.getElem?_replicate, if_pos h4] at this
        exact Option.some.inj this
    · rw [List.getElem?_append_right (by omega), hl] at h
      rw [ih (fun g hg => hf g (List.mem_cons_of_mem f hg)) h]
      omega

theorem length_flatten_frames {frames : List (List Byte)} (hf : ∀ f ∈ frames, StatusFrame f) :
    frames.flatten.length = 31 * frames.length := by
  induction frames with
  | nil => rfl
  | cons f frames ih =>
    have h := ih fun g hg => hf g (List.mem_cons_of_mem f hg)
    have hl := (hf f List.mem_cons_self).length
    rw [List.flatten_cons, List.length_append, h, hl, List.length_cons]; omega

/-! ## Where the receiver can be -/

/-- The header bytes of a stream of `k` frames from index `i` on. -/
def headersLeft (k i : ℕ) : ℕ := 4 * (k - i / 31) - min (i % 31) 4

/-- The receiver after `i` bytes of a stream of `k` frames, started from `d₀`, with `n` calls of
    `FrameDataHandle` made.  It looks for a header without raw bytes pending, or has put all of
    one frame into the FIFO so far. -/
structure Lossy (d₀ : Dev) (k i n : ℕ) (d : Dev) : Prop where
  le : d.framerevpara.offset ≤ d.framerevfifo.datalen
  offset_le : d.framerevpara.offset ≤ d₀.framerevpara.offset + 35 * n
  taken : ∃ rs, d.hist.accepted = d₀.hist.accepted ++ rs ∧ (rs.filter isStatus).length ≤ n
  phase :
    (d.framerevpara.datastate = .revHead ∧ d.pending = 0 ∧ d.framerevpara.wordstate ≤ i % 31 ∧
      (4 < i % 31 → d.framerevpara.wordstate = 0) ∧
      8 * n + d.framerevpara.wordstate + headersLeft k i ≤ 4 * k) ∨
    (d.framerevpara.datastate = .revData ∧
      (4 ≤ i % 31 ∧ d.framerevpara.wordstate = 0 ∧ d.pending = (i % 31 : ℕ) ∨
        i % 31 ≤ 3 ∧ d.framerevpara.wordstate = i % 31 ∧ d.pending = 31) ∧
      8 * n + 4 + d.framerevpara.wordstate + headersLeft k i ≤ 4 * k)

section
variable {d₀ d e : Dev} {k i n : ℕ}

/-- A byte the receiver does not see, while it looks for a header. -/
theorem Lossy.skip (h : Lossy d₀ k i n d) (hs : d.framerevpara.datastate = .revHead)
    (hw : d.framerevpara.wordstate = 0) : Lossy d₀ k (i + 1) n d := by
  refine ⟨h.le, h.offset_le, h.taken, ?_⟩
  rcases h.phase with ⟨-, h₁, -, -, h₄⟩ | ⟨h₀, -⟩
  · refine Or.inl ⟨hs, h₁, by omega, fun _ => hw, ?_⟩
    unfold headersLeft at *
    omega
  · rw [hs] at h₀; cases h₀

/-- `FrameDataHandle` on a whole frame: the receiver looks for a header again, and at most one
    status record more was taken. -/
theorem frameDataHandle_whole (hp : d.pending = 31)
    (ho : d.framerevpara.offset ≤ d₀.framerevpara.offset + 35 * n)
    (ht : ∃ rs, d.hist.accepted = d₀.hist.accepted ++ rs ∧ (rs.filter isStatus).length ≤ n) :
    ∃ e, frameDataHandle .old d = .ok e ∧ e.framerevpara.datastate = .revHead ∧
      e.framerevpara.wordstate = 0 ∧ e.pending = 0 ∧
      e.framerevpara.offset ≤ e.framerevfifo.datalen ∧
      e.framerevpara.offset ≤ d₀.framerevpara.offset + 35 * (n + 1) ∧
      ∃ rs, e.hist.accepted = d₀.hist.accepted ++ rs ∧ (rs.filter isStatus).length ≤ n + 1 := by
  have hu : u8 d.pending = 31 := u8_eq hp (by omega)
  obtain ⟨e₀, he₀⟩ := Option.isSome_iff_exists.1
    (frameData_isSome.2 (show 2 ≤ u8 d.pending ∧ u8 d.pending ≤ 250 by omega))
  obtain ⟨h₁, h₂⟩ := frameData_pending he₀ (by omega)
  obtain ⟨h₃, h₄⟩ := frameData_revHead he₀
  obtain ⟨rs, hrs, hn⟩ := ht
  refine ⟨e₀.noteCall d.pending (some e₀.snapshot), by rw [frameDataHandle, he₀], h₃, h₄, ?_, h₁,
    ?_, ?_⟩
  · change e₀.pending = 0
    rw [h₂, hu, hp]; rfl
  · change e₀.framerevpara.offset ≤ _
    rcases frameData_cases he₀ with ⟨-, rfl⟩ | ⟨-, e₁, rfl, hoff⟩
    · change d.framerevpara.offset ≤ _; omega
    · obtain ⟨rs', hsub, -, hle⟩ := hoff.sublist
      have h₅ := hsub.flatten.length_le
      have h₆ := length_flatten_oldRecords (bufferOf d.raw)
      change e₁.framerevpara.offset ≤ d.framerevpara.offset + _ at hle
      change e₁.framerevpara.offset ≤ _
      omega
  · change ∃ rs, e₀.hist.accepted = _ ∧ _
    rcases frameData_cases he₀ with ⟨-, rfl⟩ | ⟨-, e₁, rfl, hoff⟩
    · exact ⟨rs, hrs, by omega⟩
    · obtain ⟨rs', hsub, hacc, -⟩ := hoff.sublist
      have h₅ := (hsub.filter isStatus).length_le
      rw [filter_isStatus_oldRecords] at h₅
      change e₁.hist.accepted = d.hist.accepted ++ _ at hacc
      refine ⟨rs ++ rs', ?_, ?_⟩
      · change e₁.hist.accepted = _
        rw [hacc, hrs, List.append_assoc]
      · rw [List.filter_append, List.length_append]
        simp only [List.length_singleton] at h₅
        omega

/-- One byte. -/
theorem Lossy.revByte (h : Lossy d₀ k i n d) (hroom : d₀.framerevpara.offset + 35 * k ≤ revFifoLen)
    (hik : i < 31 * k) {x : Byte} (hx : x = frameHeader ↔ i % 31 < 4) :
    ∃ e more n', revByte .old d x = .ok (e, more) ∧ Lossy d₀ k (i + 1) n' e ∧
      (more = false → e.framerevpara.datastate = .revHead ∧ e.framerevpara.wordstate = 0) := by
  have hleft : headersLeft k i = headersLeft k (i + 1) + if i % 31 < 4 then 1 else 0 := by
    unfold headersLeft
    split_ifs <;> omega
  rcases h.phase with ⟨hs, hp, hwi, hw0, hpot⟩ | ⟨hs, hph, hpot⟩
  · by_cases hi : i % 31 < 4
    · have hu : u8 (d.framerevpara.wordstate + 1) = d.framerevpara.wordstate + 1 :=
        u8_eq (by push_cast; rfl) (by omega)
      rw [if_pos hi] at hleft
      by_cases h4 : d.framerevpara.wordstate + 1 = 4
      · -- the fourth byte of a header opens a frame
        have hpe := d.pending_eq
        have ho := h.offset_le
        have hfl := pending_flushWord (d := d.setWordstate 4)
          (by change d.framerevfifo.datalen + 4 ≤ _; omega)
        refine ⟨(flushWord (d.setWordstate 4)).setRevData, true, n, ?_, ?_, fun h => by cases h⟩
        · simp only [MxchipSpp.revByte, hs, hx.2 hi, if_true, hu, headNumer, h4]
          rfl
        · refine ⟨?_, h.offset_le, h.taken, Or.inr ⟨rfl, Or.inl ⟨by omega, rfl, ?_⟩, ?_⟩⟩
          · exact ((RawStep.setWordstate 4).trans RawStep.flushWord).le h.le
          · change (flushWord (d.setWordstate 4)).pending = _
            rw [hfl]
            change d.pending + (4 : ℕ) = _
            omega
          · change 8 * n + 4 + 0 + _ ≤ _; omega
      · refine ⟨d.setWordstate (d.framerevpara.wordstate + 1), true, n, ?_, ?_, fun h => by cases h⟩
        · simp only [MxchipSpp.revByte, hs, hx.2 hi, if_true, hu, headNumer, if_neg h4]
          rfl
        · refine ⟨h.le, h.offset_le, h.taken, Or.inl ⟨hs, hp, ?_, ?_, ?_⟩⟩
          · change d.framerevpara.wordstate + 1 ≤ _; omega
          · change 4 < _ → d.framerevpara.wordstate + 1 = 0; omega
          · change 8 * n + (d.framerevpara.wordstate + 1) + _ ≤ _; omega
    · have hne : x ≠ frameHeader := fun h => hi (hx.1 h)
      rw [if_neg hi] at hleft
      refine ⟨d.setWordstate 0, false, n, ?_, ?_, fun _ => ⟨hs, rfl⟩⟩
      · simp only [MxchipSpp.revByte, hs, hne, if_false]
        rfl
      · refine ⟨h.le, h.offset_le, h.taken, Or.inl ⟨hs, hp, Nat.zero_le _, fun _ => rfl, ?_⟩⟩
        change 8 * n + 0 + _ ≤ _; omega
  · have hpe := d.pending_eq
    have ho := h.offset_le
    by_cases hi : i % 31 < 4
    · -- a header byte after a whole frame
      obtain ⟨h3, hw, hp⟩ : i % 31 ≤ 3 ∧ d.framerevpara.wordstate = i % 31 ∧ d.pending = 31 := by
        rcases hph with ⟨h4, -⟩ | h
        · omega
        · exact h
      have hu : u8 (d.framerevpara.wordstate + 1) = d.framerevpara.wordstate + 1 :=
        u8_eq (by push_cast; rfl) (by omega)
      rw [if_pos hi] at hleft
      by_cases h4 : d.framerevpara.wordstate + 1 = 4
      · -- the fourth closes that frame, and is forgotten with the three before it
        obtain ⟨e, he, h₁, h₂, h₃, h₅, h₆, h₇⟩ :=
          frameDataHandle_whole (d := d.setWordstate 4) hp h.offset_le h.taken
        refine ⟨e, true, n + 1, ?_, ?_, fun h => by cases h⟩
        · simp only [MxchipSpp.revByte, hs, hx.2 hi, if_true, hu, headNumer, h4, he]
          change Except.ok (flushWord e, true) = _
          rw [flushWord_zero h₂]
        · refine ⟨h₅, h₆, h₇, Or.inl ⟨h₁, h₃, by omega, fun _ => h₂, ?_⟩⟩
          rw [h₂]; omega
      · refine ⟨d.setWordstate (d.framerevpara.wordstate + 1), true, n, ?_, ?_, fun h => by cases h⟩
        · simp only [MxchipSpp.revByte, hs, hx.2 hi, if_true, hu, headNumer, if_neg h4]
          rfl
        · refine ⟨h.le, h.offset_le, h.taken, Or.inr ⟨hs, Or.inr ⟨by omega, ?_, hp⟩, ?_⟩⟩
          · change d.framerevpara.wordstate + 1 = _; omega
          · change 8 * n + 4 + (d.framerevpara.wordstate + 1) + _ ≤ _; omega
    · -- a byte of the frame
      have hne : x ≠ frameHeader := fun h => hi (hx.1 h)
      rw [if_neg hi] at hleft
      obtain ⟨h4, hw, hp⟩ : 4 ≤ i % 31 ∧ d.framerevpara.wordstate = 0 ∧
          d.pending = (i % 31 : ℕ) := by
        rcases hph with h | ⟨h3, -⟩
        · exact h
        · omega
      have hpush := pending_push (d := d) (x := x) (by omega)
      refine ⟨d.push x, true, n, ?_, ?_, fun h => by cases h⟩
      · simp only [MxchipSpp.revByte, hs, hne, if_false, hw, flushWord_zero hw]
        rfl
      · refine ⟨(RawStep.push x).le h.le, h.offset_le, h.taken, Or.inr ⟨hs, ?_, ?_⟩⟩
        · rw [hpush]
          change (4 ≤ _ ∧ d.framerevpara.wordstate = 0 ∧ _) ∨
            (_ ∧ d.framerevpara.wordstate = _ ∧ _)
          omega
        · change 8 * n + 4 + d.framerevpara.wordstate + _ ≤ _; omega

/-- One chunk. -/
theorem Lossy.revBytes {frames : List (List Byte)} (hf : ∀ f ∈ frames, StatusFrame f)
    (hroom : d₀.framerevpara.offset + 35 * frames.length ≤ revFifoLen) (xs : List Byte) :
    ∀ {i n : ℕ} {d : Dev}, Lossy d₀ frames.length i n d →
      (∃ rest, frames.flatten.drop i = xs ++ rest) →
      ∃ e n', revBytes .old d xs = .ok e ∧ Lossy d₀ frames.length (i + xs.length) n' e := by
  induction xs with
  | nil => exact fun h _ => ⟨_, _, rfl, h⟩
  | cons x xs ih =>
    rintro i n d h ⟨rest, hrest⟩
    have hx : frames.flatten[i]? = some x := by
      rw [← List.head?_drop, hrest]; rfl
    have hi : i < 31 * frames.length := by
      rw [← length_flatten_frames hf]; exact (List.getElem?_eq_some_iff.1 hx).1
    have hrest' : frames.flatten.drop (i + 1) = xs ++ rest := by
      rw [← List.drop_drop, hrest]; rfl
    obtain ⟨e, more, n', he, hl, hm⟩ := h.revByte hroom hi (header_iff hf hx)
    cases more with
    | true =>
      obtain ⟨e', n'', he', hl'⟩ := ih hl ⟨rest, hrest'⟩
      refine ⟨e', n'', by rw [MxchipSpp.revBytes, he]; exact he', ?_⟩
      rw [List.length_cons, Nat.add_comm xs.length 1, ← Nat.add_assoc]
      exact hl'
    | false =>
      -- the rest of the chunk is not looked at
      obtain ⟨hs, hw⟩ := hm rfl
      refine ⟨e, n', by rw [MxchipSpp.revBytes, he]; rfl, ?_⟩
      have key : ∀ m : ℕ, Lossy d₀ frames.length (i + 1 + m) n' e := by
        intro m
        induction m with
        | zero => exact hl
        | succ m ihm => exact ihm.skip hs hw
      rw [List.length_cons, Nat.add_comm xs.length 1, ← Nat.add_assoc]
      exact key xs.length

/-- All chunks. -/
theorem Lossy.run_chunks {frames : List (List Byte)} (hf : ∀ f ∈ frames, StatusFrame f)
    (hroom : d₀.framerevpara.offset + 35 * frames.length ≤ revFifoLen)
    {chunks : List (List Byte)} : ∀ {i n : ℕ} {d : Dev}, Lossy d₀ frames.length i n d →
      frames.flatten.drop i = chunks.flatten → (∀ c ∈ chunks, c.length ≤ 255) →
      ∃ e n', run .old d (chunks.map .rev) = .ok e ∧
        Lossy d₀ frames.length (i + chunks.flatten.length) n' e := by
  induction chunks with
  | nil => exact fun h _ _ => ⟨_, _, rfl, h⟩
  | cons c cs ih =>
    intro i n d h hc hl
    rw [List.flatten_cons] at hc
    obtain ⟨e, n', he, hle⟩ := h.revBytes hf hroom c ⟨_, hc⟩
    have hc' : frames.flatten.drop (i + c.length) = cs.flatten := by
      rw [← List.drop_drop, hc, List.drop_left]
    obtain ⟨e', n'', he', hle'⟩ := ih hle hc' fun c' h' => hl c' (List.mem_cons_of_mem c h')
    have hstep : step .old d (.rev c) = .ok e := by
      rw [step, revDataWrFifo, u8_eq rfl (by have := hl c List.mem_cons_self; omega),
        List.take_length, he]
    refine ⟨e', n'', by rw [List.map_cons, run_cons_ok hstep, he'], ?_⟩
    rw [List.flatten_cons, List.length_append, ← Nat.add_assoc]
    exact hle'

end

/-! ## What is received -/

variable {d : Dev} {frames chunks : List (List Byte)}

/-- The stream of no frame, or of more than one, is not all received: the expiry finds nothing
    pending, or too few frames were closed. -/
theorem not_allReceived (hd : Idle d) (hp : d.framerevpara.offset = d.framerevfifo.datalen)
    (hroom : d.framerevfifo.datalen + 35 * frames.length ≤ revFifoLen)
    (hf : ∀ f ∈ frames, StatusFrame f) (hc : chunks.flatten = frames.flatten)
    (hl : ∀ c ∈ chunks, c.length ≤ 255) (hk : frames.length ≠ 1) :
    ¬ AllReceived d frames chunks := by
  have h₀ : Lossy d frames.length 0 0 d := by
    have := d.pending_eq
    refine ⟨hp.le, by omega, ⟨[], by simp, by simp⟩, Or.inl ⟨hd.datastate, by omega, ?_, ?_, ?_⟩⟩
    · rw [hd.wordstate]
    · exact fun _ => hd.wordstate
    · rw [hd.wordstate]; unfold headersLeft; omega
  obtain ⟨e, n, he, hle⟩ := h₀.run_chunks hf (by rw [hp]; exact hroom)
    (by rw [List.drop_zero]; exact hc.symm) hl
  rw [hc, length_flatten_frames hf, Nat.zero_add] at hle
  rintro ⟨e', rs, he', hacc, -, hst⟩
  rw [run_append_of_ok he, run_expiry] at he'
  rcases hle.phase with ⟨-, hpe, -⟩ | ⟨-, hph, hpot⟩
  · -- nothing is pending
    have hnone : frameData .old e.clearRevTimer = none := by
      rw [← Option.not_isSome_iff_eq_none, frameData_isSome]
      rw [show e.clearRevTimer.pending = 0 from hpe]
      exact fun h => absurd h.1 (by decide)
    rw [frameDataHandle, hnone] at he'
    cases he'
  · have hpe : e.pending = 31 := by omega
    obtain ⟨e₁, he₁, -, -, -, -, -, rs', hacc', hn⟩ :=
      frameDataHandle_whole (d := e.clearRevTimer) hpe hle.offset_le hle.taken
    rw [he₁] at he'
    cases he'
    rw [hacc] at hacc'
    obtain rfl := List.append_cancel_left hacc'
    rw [hst, List.length_map] at hn
    omega

/-- **Back-to-back frames.**  An idle receiver with room takes the status records of all the
    frames exactly if there is one frame. -/
theorem allReceived_iff (hd : Idle d) (hp : d.framerevpara.offset = d.framerevfifo.datalen)
    (hroom : d.framerevfifo.datalen + 35 * frames.length ≤ revFifoLen)
    (hf : ∀ f ∈ frames, StatusFrame f) (hc : chunks.flatten = frames.flatten)
    (hl : ∀ c ∈ chunks, c.length ≤ 255) :
    AllReceived d frames chunks ↔ frames.length = 1 := by
  constructor
  · intro h
    by_contra hk
    exact not_allReceived hd hp hroom hf hc hl hk h
  · intro hk
    obtain ⟨f, rfl⟩ := List.length_eq_one_iff.1 hk
    obtain ⟨e, he, h₁, h₂⟩ := run_frame hd hp (hf f List.mem_cons_self) hroom chunks
      (by rw [hc]; simp) hl
    refine ⟨e, oldRecords (bufferOf f), he, by rw [h₂], h₁, ?_⟩
    rw [filter_isStatus_oldRecords]; rfl

/-- A frame in two chunks is received, three frames in two chunks are not. -/
theorem allReceived_sampleFrame :
    AllReceived devParaInit [sampleFrame] [sampleFrame.take 20, sampleFrame.drop 20] ∧
      ¬ AllReceived devParaInit [sampleFrame, sampleFrame, sampleFrame]
        [sampleFrame ++ sampleFrame.take 20, sampleFrame.drop 20 ++ sampleFrame] := by
  constructor
  · exact (allReceived_iff ⟨rfl, rfl⟩ rfl (by decide) (by simp [statusFrame_sampleFrame]) (by decide)
      (by decide)).2 rfl
  · exact fun h => absurd ((allReceived_iff ⟨rfl, rfl⟩ rfl (by decide)
      (by simp [statusFrame_sampleFrame]) (by decide) (by decide)).1 h) (by decide)

/-- Two frames in one chunk are not both received. -/
theorem two_frames_not_received :
    ¬ AllReceived devParaInit [sampleFrame, sampleFrame] [sampleFrame ++ sampleFrame] :=
  not_allReceived ⟨rfl, rfl⟩ rfl (by decide) (by simp [statusFrame_sampleFrame]) (by decide)
    (by decide) (by decide)

end MxchipSpp
