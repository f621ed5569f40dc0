/-
  The stack buffer of `FrameDataHandle` (`OLD`): when its accesses stay in
  bounds, and when a call leaves no raw bytes behind.

  Both depend on the number of raw bytes pending, `Datalen - offset`, which is
  squeezed through the `u8` variable `templen`.
-/
import MxchipSpp.FrameData
import MxchipSpp.Stream

namespace MxchipSpp

open Memory Outcome

variable {d e : Dev}

/-! ## One call -/

theorem dropRaw_pending (h : 0 ≤ d.pending) :
    d.dropRaw.framerevpara.offset ≤ d.dropRaw.framerevfifo.datalen ∧
      d.dropRaw.pending = d.pending - u8 d.pending := by
  have h₁ := u8_le h
  have h₂ : d.dropRaw.framerevfifo.datalen = d.framerevfifo.datalen - u8 d.pending :=
    Fifo.datalen_deletHead _ _
  have h₃ : d.dropRaw.framerevpara.offset = d.framerevpara.offset := rfl
  have h₄ := d.pending_eq
  have h₅ := d.dropRaw.pending_eq
  constructor <;> omega

/-- A call keeps the records within the FIFO, and leaves the raw bytes `templen` did not count. -/
theorem frameData_pending (he : frameData .old d = some e) (h : 0 ≤ d.pending) :
    e.framerevpara.offset ≤ e.framerevfifo.datalen ∧ e.pending = d.pending - u8 d.pending := by
  obtain ⟨h₁, h₂⟩ := dropRaw_pending h
  rcases frameData_cases he with ⟨-, rfl⟩ | ⟨-, e₀, rfl, ho⟩
  · exact ⟨h₁, h₂⟩
  · obtain ⟨h₃, h₄⟩ := ho.pending h₁
    exact ⟨h₃, h₄.trans h₂⟩

/-- No raw residue, and the receiver at the start of a header. -/
def Resynced (s : ℕ × FrameRevPara) : Prop :=
  s.1 = s.2.offset ∧ s.2.datastate = .revHead ∧ s.2.wordstate = 0

/-- With `offset` past the end of the FIFO nothing is copied, and no alarm is read from the empty
    buffer. -/
theorem oldRecords_of_pending_neg (h : d.pending < 0) :
    oldRecords (bufferOf d.raw) = [statusRecord (bufferOf d.raw)] := by
  have hr : d.raw = [] := by
    unfold Dev.pending at h
    rw [Dev.raw, Fifo.copy_eq, List.drop_eq_nil_of_le (by simp; omega), List.take_nil]
  have h0 : (bufferOf []).get 23 = 0 := Block.get_eq_of_getElem? (by rw [cells_bufferOf]; rfl)
  rw [oldRecords, hr, h0]; rfl

theorem frameData_pending_neg (hlt : d.framerevpara.offset < 65536)
    (he : frameData .old d = some e) (h : d.pending < 0) :
    e.framerevfifo.datalen ≠ e.framerevpara.offset := by
  have h₂ : d.dropRaw.framerevfifo.datalen = d.framerevfifo.datalen - u8 d.pending :=
    Fifo.datalen_deletHead _ _
  have h₃ : d.dropRaw.framerevpara.offset = d.framerevpara.offset := rfl
  unfold Dev.pending at h
  rcases frameData_cases he with ⟨-, rfl⟩ | ⟨-, e₀, rfl, ho⟩
  · change d.dropRaw.framerevfifo.datalen ≠ d.dropRaw.framerevpara.offset
    omega
  · change e₀.framerevfifo.datalen ≠ e₀.framerevpara.offset
    rw [oldRecords_of_pending_neg h] at ho
    obtain ⟨d', hd', rfl⟩ := ho
    rcases Nat.lt_or_ge revFifoLen
      (d.dropRaw.framerevfifo.datalen + (statusRecord (bufferOf d.raw)).length) with hf | hf
    · rw [hd'.full hf]
      change d.dropRaw.framerevfifo.datalen ≠ d.dropRaw.framerevpara.offset
      omega
    · obtain ⟨hc, hoff, -⟩ := hd'.taken hf
      have hn := congrArg List.length hc
      change e₀.framerevpara.offset = u16 (d.dropRaw.framerevpara.offset + _) at hoff
      rw [length_statusRecord] at hoff
      simp only [Fifo.length_contents, List.length_append, length_statusRecord] at hn
      change e₀.framerevfifo.datalen = d.dropRaw.framerevfifo.datalen + 22 at hn
      unfold u16 at hoff
      omega

/-- **A call resynchronises exactly if `templen` holds the number of raw bytes pending.** -/
theorem frameData_resynced (hlt : d.framerevpara.offset < 65536)
    (he : frameData .old d = some e) :
    Resynced e.snapshot ↔ 0 ≤ d.pending ∧ d.pending ≤ 255 := by
  obtain ⟨hs, hw⟩ := frameData_revHead he
  have hiff : Resynced e.snapshot ↔ e.framerevfifo.datalen = e.framerevpara.offset :=
    ⟨fun h => h.1, fun h => ⟨h, hs, hw⟩⟩
  rw [hiff]
  rcases lt_or_ge d.pending 0 with h | h
  · have := frameData_pending_neg hlt he h
    constructor
    · exact fun h' => absurd h' this
    · omega
  · obtain ⟨h₁, h₂⟩ := frameData_pending he h
    have h₃ := e.pending_eq
    unfold u8 at h₂
    constructor <;> omega

theorem frameDataHandle_post (d : Dev) :
    Post (frameDataHandle .old d)
      (fun e => e = d.noteCall d.pending none ∧ ¬ (2 ≤ u8 d.pending ∧ u8 d.pending ≤ 250))
      (fun e => ∃ e₀, frameData .old d = some e₀ ∧ e = e₀.noteCall d.pending (some e₀.snapshot) ∧
        2 ≤ u8 d.pending ∧ u8 d.pending ≤ 250) := by
  have h := frameData_isSome (d := d)
  unfold frameDataHandle
  cases hf : frameData .old d with
  | none => rw [hf] at h; exact ⟨rfl, fun h' => by simpa using h.2 h'⟩
  | some e₀ => rw [hf] at h; exact ⟨e₀, rfl, rfl, h.1 rfl⟩

/-! ## Accesses in bounds, over runs -/

/-- The steps of the receiver alone. -/
inductive RxEvent where
  | rev (data : List Byte)
  | revTimerUp
  | revTimerHandle

def RxEvent.toDevEvent : RxEvent → DevEvent
  | rev data => .rev data
  | revTimerUp => .revTimerUp
  | revTimerHandle => .revTimerHandle

/-- A run of the receiver from the start. -/
def rxRun (evs : List RxEvent) : Except Dev Dev :=
  run .old devParaInit (evs.map RxEvent.toDevEvent)

/-- The pending bytes, as `templen` counts them, fit the stack buffer and hold a check field. -/
def FdhCall.Fits (c : FdhCall) : Prop := 2 ≤ c.pending % 256 ∧ c.pending % 256 ≤ 250

/-- The invariant of the receiver alone. -/
structure InBounds (d : Dev) : Prop where
  le : d.framerevpara.offset ≤ d.framerevfifo.datalen
  calls : ∀ c ∈ d.hist.calls, c.Fits

theorem rxInv_inBounds :
    RxInv .old (fun e => ∃ c ∈ e.hist.calls, ¬ c.Fits) InBounds where
  raw hd h := ⟨h.le hd.le, by rw [h.rest]; exact hd.calls⟩
  frame {d} hd := by
    refine (frameDataHandle_post d).mono ?_ ?_
    · rintro e ⟨rfl, hn⟩
      refine ⟨⟨d.pending, none⟩, by simp [Dev.noteCall], fun h => hn ?_⟩
      change 2 ≤ d.pending % 256 ∧ d.pending % 256 ≤ 250 at h
      unfold u8
      omega
    · rintro e ⟨e₀, he₀, rfl, h₂, h₃⟩
      have hp : 0 ≤ d.pending := by
        have := d.pending_eq
        have := hd.le
        omega
      refine ⟨(frameData_pending he₀ hp).1, ?_⟩
      simp only [Dev.noteCall, calls_frameData he₀, List.mem_append, List.mem_singleton]
      rintro c (hc | rfl)
      · exact hd.calls c hc
      · change 2 ≤ d.pending % 256 ∧ d.pending % 256 ≤ 250
        unfold u8 at h₂ h₃
        omega

theorem rxRun_post (evs : List RxEvent) :
    Post (rxRun evs) (fun e => ∃ c ∈ e.hist.calls, ¬ c.Fits) InBounds := by
  refine Post.foldlM (fun ev hev d hd => ?_) ⟨Nat.le_refl _, by simp [devParaInit]⟩
  obtain ⟨rx, -, rfl⟩ := List.mem_map.1 hev
  cases rx with
  | rev data => exact rxInv_inBounds.revDataWrFifo hd data
  | revTimerUp => exact rxInv_inBounds.revTimerUp hd
  | revTimerHandle => exact rxInv_inBounds.revTimerHandle hd

/-- **The accesses of `FrameDataHandle` to its buffer.**  A run of the receiver stays in bounds
    exactly if every call finds between 2 and 250 bytes pending modulo 256. -/
theorem frameDataHandle_in_bounds_iff (evs : List RxEvent) :
    (∃ d, rxRun evs = .ok d) ↔ ∀ c ∈ (last (rxRun evs)).hist.calls, c.Fits := by
  have h := rxRun_post evs
  cases hr : rxRun evs with
  | ok d => exact ⟨fun _ => (h.of_ok hr).calls, fun _ => ⟨d, rfl⟩⟩
  | error e =>
    obtain ⟨c, hc, hn⟩ := h.of_error hr
    constructor
    · rintro ⟨d, hd⟩; cases hd
    · exact fun h' => absurd (h' c hc) hn

/-- A timer that expires after a single header byte: nothing is pending, and the check field is
    read from before the buffer. -/
theorem expiry_in_header_out_of_bounds :
    ¬ ∃ d, rxRun [.rev [0xF5], .revTimerUp, .revTimerHandle] = .ok d := by
  have h₁ : revDataWrFifo .old devParaInit [0xF5] = .ok (devParaInit.setWordstate 1) :=
    (thru_counting (n := 1) (by decide) ⟨rfl, rfl⟩).revDataWrFifo (by decide)
  have h₂ : frameData .old (devParaInit.setWordstate 1).clearRevTimer = none := by
    rw [← Option.not_isSome_iff_eq_none, frameData_isSome]
    exact fun h => absurd h.1 (by decide)
  have h₃ : rxRun [.rev [0xF5], .revTimerUp, .revTimerHandle] =
      .error ((devParaInit.setWordstate 1).clearRevTimer.noteCall 0 none) := by
    refine (run_cons_ok (show step .old devParaInit (.rev [0xF5]) = .ok _ from h₁) _).trans
      ((run_expiry _ _).trans ?_)
    rw [frameDataHandle, h₂]
    rfl
  rintro ⟨d, hd⟩
  rw [h₃] at hd
  cases hd

/-! ## Residue, over runs -/

/-- What every call noted in the history satisfies. -/
def FdhCall.Lawful (c : FdhCall) : Prop :=
  ∀ s, c.after = some s → (Resynced s ↔ 0 ≤ c.pending ∧ c.pending ≤ 255)

/-- The invariant of all steps: `offset` is a `u16`, and the calls so far are as `Lawful` says. -/
structure CallsLawful (r : Rx) : Prop where
  lt : r.framerevpara.offset < 65536
  calls : ∀ c ∈ r.calls, c.Lawful

theorem offset_frameData_lt (hlt : d.framerevpara.offset < 65536)
    (he : frameData .old d = some e) : e.framerevpara.offset < 65536 := by
  rcases frameData_cases he with ⟨-, rfl⟩ | ⟨-, e₀, rfl, ho⟩
  · exact hlt
  · exact OfferedAll.offset_lt (e := e₀) ho hlt

theorem rxInv_callsLawful :
    RxInv .old (fun e => CallsLawful e.rx) fun d => CallsLawful d.rx where
  raw {d e} hd h := ⟨by change e.framerevpara.offset < 65536; rw [h.offset]; exact hd.lt, by
    change ∀ c ∈ e.hist.calls, c.Lawful
    rw [h.rest]; exact hd.calls⟩
  frame {d} hd := by
    refine (frameDataHandle_post d).mono ?_ ?_
    · rintro e ⟨rfl, -⟩
      refine ⟨hd.lt, fun c hc => ?_⟩
      rcases List.mem_append.1 hc with hc | hc
      · exact hd.calls c hc
      · rw [List.mem_singleton.1 hc]
        rintro s hs; cases hs
    · rintro e ⟨e₀, he₀, rfl, -⟩
      refine ⟨(offset_frameData_lt hd.lt he₀ :), fun c hc => ?_⟩
      change c ∈ e₀.hist.calls ++ _ at hc
      rw [calls_frameData he₀] at hc
      rcases List.mem_append.1 hc with hc | hc
      · exact hd.calls c hc
      · rw [List.mem_singleton.1 hc]
        rintro s hs
        cases hs
        exact frameData_resynced hd.lt he₀

theorem TakeStep.callsLawful (h : TakeStep d e) (hd : CallsLawful d.rx) : CallsLawful e.rx := by
  refine ⟨?_, ?_⟩
  · rcases h.offset with ho | ho
    · change e.framerevpara.offset < 65536
      rw [ho]; exact hd.lt
    · exact ho
  · change ∀ c ∈ e.hist.calls, c.Lawful
    rw [h.calls]; exact hd.calls

theorem devInv_callsLawful : DevInv (fun e => CallsLawful e.rx) CallsLawful where
  rx := rxInv_callsLawful
  dataup hd := takeStep_dataupHandle.callsLawful hd
  revCmd hd := takeStep_revCmdHandle.mono (fun _ h => h.callsLawful hd) fun _ h => h.callsLawful hd

/-- **Raw residue after `FrameDataHandle`.**  In every run a call that returns leaves none, with
    the receiver at the start of a header, exactly if it found at most 255 bytes pending. -/
theorem frameDataHandle_resynced_iff (evs : List DevEvent) :
    ∀ c ∈ (last (run .old devParaInit evs)).hist.calls, ∀ s, c.after = some s →
      (Resynced s ↔ 0 ≤ c.pending ∧ c.pending ≤ 255) := by
  have h := devInv_callsLawful.run ⟨by decide, by simp [devParaInit, Dev.rx]⟩ evs
  exact h.last.calls

theorem frameDataHandle_resynced_sampleFrame :
    ∃ c ∈ (last (run .old devParaInit
        ([sampleFrame].map .rev ++ [.revTimerUp, .revTimerHandle]))).hist.calls,
      ∃ s, c.after = some s ∧ Resynced s := by
  obtain ⟨e, he, -, hh⟩ := run_frame (d := devParaInit) ⟨rfl, rfl⟩ rfl statusFrame_sampleFrame
    (by decide) [sampleFrame] rfl (by decide)
  have hc : ⟨31, some e.snapshot⟩ ∈ (last (run .old devParaInit
      ([sampleFrame].map .rev ++ [.revTimerUp, .revTimerHandle]))).hist.calls := by
    rw [he]
    change _ ∈ e.hist.calls
    rw [hh]
    exact List.mem_append_right _ (List.mem_singleton_self _)
  exact ⟨_, hc, _, rfl, (frameDataHandle_resynced_iff _ _ hc _ rfl).2 ⟨by simp, by simp⟩⟩

/-- A header and 254 bytes more, in two chunks. -/
def longChunks : List (List Byte) :=
  [List.replicate 4 0xF5 ++ List.replicate 251 0, List.replicate 3 0]

theorem flatten_longChunks :
    longChunks.flatten = List.replicate 4 0xF5 ++ List.replicate 254 0 := by
  decide +kernel

/-- Of 258 bytes pending the call takes two. -/
theorem longFrame_leaves_residue :
    ¬ ∀ c ∈ (last (run .old devParaInit
        (longChunks.map .rev ++ [.revTimerUp, .revTimerHandle]))).hist.calls,
      ∀ s, c.after = some s → Resynced s := by
  have hlen : (List.replicate 4 (0xF5 : Byte) ++ List.replicate 254 0).length = 258 := by
    rw [List.length_append, List.length_replicate, List.length_replicate]
  obtain ⟨e, h₁, h₂⟩ := thru_frame (b := .old) (d := devParaInit) ⟨rfl, rfl⟩
    (f := List.replicate 4 0xF5 ++ List.replicate 254 0) rfl
    (fun h => absurd (List.eq_of_mem_replicate (n := 254) h) (by decide))
    (by rw [hlen]; decide)
  rw [← flatten_longChunks] at h₁
  have hrun := h₁.run_chunks (by decide +kernel)
  have hp : e.clearRevTimer.pending = 258 := by
    have := h₂.pending
    rw [hlen] at this
    exact this
  obtain ⟨e₀, he₀⟩ : ∃ e₀, frameData .old e.clearRevTimer = some e₀ :=
    Option.isSome_iff_exists.1 (frameData_isSome.2 (by rw [hp]; decide))
  have hlast : run .old devParaInit (longChunks.map .rev ++ [.revTimerUp, .revTimerHandle]) =
      .ok (e₀.noteCall e.clearRevTimer.pending (some e₀.snapshot)) := by
    rw [run_append_of_ok hrun, run_expiry, frameDataHandle, he₀]
  intro hall
  rw [hlast] at hall
  have hres := hall ⟨e.clearRevTimer.pending, some e₀.snapshot⟩
    (List.mem_append_right _ (List.mem_singleton_self _)) _ rfl
  have hlt : e.clearRevTimer.framerevpara.offset < 65536 := by
    change e.framerevpara.offset < 65536
    rw [h₂.para]
    exact (by decide : (0 : ℕ) < 65536)
  have := ((frameData_resynced hlt he₀).1 hres).2
  omega

end MxchipSpp
