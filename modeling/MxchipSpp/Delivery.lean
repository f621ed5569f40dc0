/-
  Records of the device on their way to the network (`OLD`): every record the
  FIFO took is passed on once, whole and in order.

  The FIFO holds finished records at its old end and a half-received frame at
  its new end, `framerevpara.offset` between them.  The invariant `Queued`
  names the records that are in it; `RevCmdHandle` may have one of them half
  parsed in its static variables.
-/
import MxchipSpp.Bounds

namespace MxchipSpp

open Memory Outcome

/-! ## Whole records -/

/-- A record as the receiver makes them: its byte 3 gives its length, and its command is passed
    on to the network. -/
structure WholeRecord (r : List Byte) : Prop where
  length_eq : r.length = (r.getD 3 0).toNat + 4
  ge : 5 ≤ r.length
  le : r.length ≤ 22
  cmd : r.getD 4 0 ∈ answerCmds ∨ r.getD 4 0 ∉ answerCmds ∧ r.getD 4 0 ∈ reportCmds
  cmd_ne : r.getD 4 0 ≠ 0

theorem wholeRecord_alarm (old : Block Byte 250) : WholeRecord (alarmRecord old) :=
  have h₄ : (alarmRecord old).getD 4 0 = cmdAlarm := rfl
  ⟨rfl, by rw [length_alarmRecord]; omega, by rw [length_alarmRecord]; omega,
    Or.inr (by rw [h₄]; decide), by rw [h₄]; decide⟩

theorem wholeRecord_status (old : Block Byte 250) : WholeRecord (statusRecord old) := by
  have hl := length_statusRecord old
  have h₃ : (statusRecord old).getD 3 0 = 18 := by simp [statusRecord, oldStatus]
  have h₄ : (statusRecord old).getD 4 0 = cmdSte := by simp [statusRecord, oldStatus]
  refine ⟨by rw [hl, h₃]; rfl, by omega, by omega, Or.inl ?_, ?_⟩
  · rw [h₄]; decide
  · rw [h₄]; decide

theorem wholeRecord_oldRecords {old : Block Byte 250} {r : List Byte} (hr : r ∈ oldRecords old) :
    WholeRecord r := by
  unfold oldRecords at hr
  rcases List.mem_append.1 hr with h | h
  · split_ifs at h
    · rw [List.mem_singleton.1 h]; exact wholeRecord_alarm old
    · cases h
  · rw [List.mem_singleton.1 h]; exact wholeRecord_status old

/-! ## The invariant -/

/-- The record in `dataup`, if there is one. -/
def DataInterfaceStu.held (s : DataInterfaceStu) : List (List Byte) :=
  if s.state = 2 then [s.record] else []

/-- The records in the FIFO are `q`. -/
structure Queued (r : Rx) (q : List (List Byte)) : Prop where
  whole : ∀ rec ∈ q, WholeRecord rec
  offset : r.framerevpara.offset = q.flatten.length
  le : r.framerevpara.offset ≤ r.framerevfifo.datalen
  contents : r.framerevfifo.contents.take r.framerevpara.offset = q.flatten
  history : r.delivered ++ r.dataup.held ++ q = r.accepted
  dataup : r.dataup.state = 0 ∨ r.dataup.state = 2
  statics : r.revCmd = ⟨0, 0, 0⟩ ∨
    ∃ rec q', q = rec :: q' ∧ r.revCmd = ⟨1, rec.length, rec.getD 4 0⟩

/-- Some call of `FrameDataHandle` found too few or too many bytes pending. -/
def Rx.Overrun (r : Rx) : Prop := ∃ c ∈ r.calls, ¬ (2 ≤ c.pending ∧ c.pending ≤ 250)

/-- The invariant of all steps. -/
def Intact (r : Rx) : Prop := r.Overrun ∨ ∃ q, Queued r q

section
variable {d e : Dev} {q : List (List Byte)}

/-! ### Raw bytes and frames -/

theorem Queued.of_raw (hq : Queued d.rx q) (h : RawStep d e) : Queued e.rx q := by
  have hle : d.framerevpara.offset ≤ d.framerevfifo.datalen := hq.le
  have ht := h.take_offset hle
  have h₁ : e.dataup = d.dataup := by rw [h.rest]
  have h₂ : e.revCmd = d.revCmd := by rw [h.rest]
  have h₃ : e.hist = d.hist := by rw [h.rest]
  refine ⟨hq.whole, h.offset.trans hq.offset, h.le hle, ht.trans hq.contents, ?_, ?_, ?_⟩
  · simp only [Dev.rx, h₁, h₃]
    exact hq.history
  · simp only [Dev.rx, h₁]; exact hq.dataup
  · simp only [Dev.rx, h₂]; exact hq.statics

/-- A record offered to a FIFO without raw bytes is queued, or refused whole. -/
theorem Queued.offered {r : List Byte} (hq : Queued d.rx q) (hp : d.pending = 0)
    (h : Offered d r e) (hr : WholeRecord r) :
    (Queued e.rx q ∨ Queued e.rx (q ++ [r])) ∧ e.pending = 0 := by
  have hle : d.framerevpara.offset ≤ d.framerevfifo.datalen := hq.le
  obtain ⟨hle', hp'⟩ := h.pending hle
  refine ⟨?_, hp'.trans hp⟩
  have hl : revFifoLen = 1024 := rfl
  rcases Nat.lt_or_ge revFifoLen (d.framerevfifo.datalen + r.length) with hf | hf
  · rw [h.full hf]; exact Or.inl hq
  · obtain ⟨hc, ho, ha⟩ := h.taken hf
    have hpe := d.pending_eq
    have hoff : d.framerevpara.offset = q.flatten.length := hq.offset
    have hcd : d.framerevfifo.contents = q.flatten := by
      have := hq.contents
      rwa [List.take_of_length_le] at this
      change d.framerevfifo.contents.length ≤ d.framerevpara.offset
      rw [Fifo.length_contents]; omega
    have ho' : e.framerevpara.offset = (q ++ [r]).flatten.length := by
      rw [ho, hoff, u16_eq (n := q.flatten.length + r.length) (by push_cast; rfl) (by omega)]
      simp
    have h₁ : e.dataup = d.dataup := by rw [h.rest]
    have h₂ : e.revCmd = d.revCmd := by rw [h.rest]
    have h₃ : e.hist.delivered = d.hist.delivered := by rw [h.rest]
    refine Or.inr ⟨?_, ho', hle', ?_, ?_, ?_, ?_⟩
    · intro rec hrec
      rcases List.mem_append.1 hrec with hrec | hrec
      · exact hq.whole rec hrec
      · rw [List.mem_singleton.1 hrec]; exact hr
    · change e.framerevfifo.contents.take e.framerevpara.offset = _
      rw [ho', hc, hcd, List.take_of_length_le (by simp)]
      simp
    · simp only [Dev.rx, h₁, h₃, ha, ← List.append_assoc]
      congr 1
      exact hq.history
    · simp only [Dev.rx, h₁]; exact hq.dataup
    · simp only [Dev.rx, h₂]
      rcases hq.statics with hs | ⟨rec, q', rfl, hs⟩
      · exact Or.inl hs
      · exact Or.inr ⟨rec, q' ++ [r], rfl, hs⟩

theorem Queued.offeredAll {rs : List (List Byte)} : ∀ {d : Dev} {q : List (List Byte)},
    Queued d.rx q → d.pending = 0 → OfferedAll d rs e → (∀ r ∈ rs, WholeRecord r) →
    ∃ q', Queued e.rx q' := by
  induction rs with
  | nil => rintro d q hq _ rfl _; exact ⟨q, hq⟩
  | cons r rs ih =>
    rintro d q hq hp ⟨d', h, h'⟩ hr
    obtain ⟨hq', hp'⟩ := hq.offered hp h (hr r List.mem_cons_self)
    have hrs := fun r' hr' => hr r' (List.mem_cons_of_mem r hr')
    rcases hq' with hq' | hq' <;> exact ih hq' hp' h' hrs

theorem Queued.dropRaw (hq : Queued d.rx q) (hp : 2 ≤ d.pending ∧ d.pending ≤ 250) :
    Queued d.dropRaw.rx q ∧ d.dropRaw.pending = 0 := by
  obtain ⟨h₁, h₂⟩ := dropRaw_pending (d := d) (by omega)
  have hu : (u8 d.pending : ℤ) = d.pending := by unfold u8; omega
  refine ⟨hq.of_raw ⟨rfl, fun hle => ⟨[], ?_⟩, rfl⟩, by omega⟩
  have hpe := d.pending_eq
  rw [Dev.dropRaw, Fifo.contents_deletHead, List.append_nil]
  congr 1; omega

/-- `FrameDataHandle` on at most 250 pending bytes. -/
theorem Queued.frameData (hq : Queued d.rx q) (hp : 2 ≤ d.pending ∧ d.pending ≤ 250)
    (he : frameData .old d = some e) : ∃ q', Queued e.rx q' := by
  obtain ⟨h₁, h₂⟩ := hq.dropRaw hp
  rcases frameData_cases he with ⟨-, rfl⟩ | ⟨-, e₀, rfl, ho⟩
  · exact ⟨q, h₁.of_raw ((RawStep.setError 1).trans .frameRevInit)⟩
  · have h₃ : Queued ((d.dropRaw.setLaststate (laststateOf (bufferOf d.raw))).setError 4).rx q :=
      ⟨h₁.whole, h₁.offset, h₁.le, h₁.contents, h₁.history, h₁.dataup, h₁.statics⟩
    obtain ⟨q', hq'⟩ := h₃.offeredAll h₂ ho fun r => wholeRecord_oldRecords
    exact ⟨q', hq'.of_raw .frameRevInit⟩

theorem rxInv_intact : RxInv .old (fun e => e.rx.Overrun) fun d => Intact d.rx where
  raw {d e} hd h := by
    rcases hd with ⟨c, hc, hn⟩ | ⟨q, hq⟩
    · refine Or.inl ⟨c, ?_, hn⟩
      change c ∈ e.hist.calls
      rw [h.rest]; exact hc
    · exact Or.inr ⟨q, hq.of_raw h⟩
  frame {d} hd := by
    -- the call is noted, and an overrun noted before stays
    have hnote : ∀ {e : Dev} {c : FdhCall}, e.hist.calls = d.hist.calls → d.rx.Overrun →
        { e with hist.calls := e.hist.calls ++ [c] }.rx.Overrun := by
      rintro e c hc ⟨c', hc', hn⟩
      exact ⟨c', List.mem_append_left _ (hc ▸ hc'), hn⟩
    refine (frameDataHandle_post d).mono ?_ ?_
    · rintro e ⟨rfl, hn⟩
      have hnp : ¬ (2 ≤ d.pending ∧ d.pending ≤ 250) := by
        unfold u8 at hn; omega
      exact ⟨⟨d.pending, none⟩, by simp [Dev.noteCall, Dev.rx], hnp⟩
    · rintro e ⟨e₀, he₀, rfl, -⟩
      rcases hd with ho | ⟨q, hq⟩
      · exact Or.inl (hnote (calls_frameData he₀) ho)
      · by_cases hp : 2 ≤ d.pending ∧ d.pending ≤ 250
        · obtain ⟨q', hq'⟩ := hq.frameData hp he₀
          exact Or.inr ⟨q', hq'.whole, hq'.offset, hq'.le, hq'.contents, hq'.history, hq'.dataup,
            hq'.statics⟩
        · exact Or.inl ⟨⟨d.pending, some e₀.snapshot⟩, by simp [Dev.noteCall, Dev.rx], hp⟩

/-! ### Records taken out -/

theorem Queued.dataupHandle (hq : Queued d.rx q) : Queued (dataupHandle d).rx q := by
  unfold MxchipSpp.dataupHandle
  split_ifs with hs
  · have h₀ : (d.dataup.setState 0).state = 0 := Block.get_set_self _ _ _
    refine ⟨hq.whole, hq.offset, hq.le, hq.contents, ?_, Or.inl h₀, hq.statics⟩
    have hh := hq.history
    have h₁ : d.dataup.held = [d.dataup.record] := if_pos hs
    have h₂ : (d.dataup.setState 0).held = [] := if_neg (by rw [h₀]; decide)
    simp only [Dev.rx, h₁] at hh
    simp only [Dev.rx, h₂, List.append_nil]
    exact hh
  · exact hq

theorem Queued.offset_cons {r : List Byte} (hq : Queued d.rx (r :: q)) :
    d.framerevpara.offset = r.length + q.flatten.length := by
  have : d.framerevpara.offset = (r :: q).flatten.length := hq.offset
  rw [this, List.flatten_cons, List.length_append]

/-- The first record queued, as `FifoCopy` sees it. -/
theorem Queued.head {r : List Byte} (hq : Queued d.rx (r :: q)) (k : ℕ) :
    (d.framerevfifo.contents.drop k).take (r.length - k) = r.drop k := by
  have hc : d.framerevfifo.contents.take d.framerevpara.offset = r ++ q.flatten := hq.contents
  have ho := hq.offset_cons
  have hr : d.framerevfifo.contents.take r.length = r := by
    have := congrArg (List.take r.length) hc
    rwa [List.take_take, Nat.min_eq_left (by omega), List.take_left] at this
  rw [← List.drop_take, hr]

theorem Queued.copy_one {r : List Byte} (hq : Queued d.rx (r :: q)) {k : ℕ} (hk : k < r.length) :
    d.framerevfifo.copy k 1 = [r.getD k 0] := by
  have h := congrArg (List.take 1) (hq.head k)
  rw [List.take_take, Nat.min_eq_left (by omega)] at h
  rw [Fifo.copy_eq, h, List.drop_eq_getElem_cons hk, List.take_succ_cons, List.take_zero,
    List.getD_eq_getElem r 0 hk]

/-- A record read by `RevCmdHandle` is half parsed: its length and command are in the static
    variables, and it is to be passed on. -/
theorem Queued.revCmdRead {r : List Byte} (hq : Queued d.rx (r :: q))
    (hs : d.revCmd = ⟨0, 0, 0⟩) :
    Queued (revCmdSwitch (MxchipSpp.revCmdRead d)).rx (r :: q) ∧
      (revCmdSwitch (MxchipSpp.revCmdRead d)).revCmd = ⟨1, r.length, r.getD 4 0⟩ := by
  have hr := hq.whole r List.mem_cons_self
  have hge := hr.ge
  have hlen : u8 (((r.getD 3 0).toNat : ℕ) + 4 : ℤ) = r.length :=
    u8_eq (by rw [hr.length_eq]; push_cast; rfl) (by have := hr.le; omega)
  have hread : (MxchipSpp.revCmdRead d).revCmd = ⟨0, r.length, r.getD 4 0⟩ := by
    simp only [MxchipSpp.revCmdRead, hq.copy_one (show 4 < r.length by omega),
      hq.copy_one (show 3 < r.length by omega), hs, List.map_cons, List.headD_cons, hlen]
  have hcmd : (revCmdSwitch (MxchipSpp.revCmdRead d)).revCmd = ⟨1, r.length, r.getD 4 0⟩ := by
    unfold revCmdSwitch
    rw [hread]
    rcases hr.cmd with hc | ⟨hc, hc'⟩
    · rw [if_pos hc]
      unfold stopResend
      split_ifs <;> simp only [Dev.setCmdflag, Dev.stopSendTimer, hread]
    · rw [if_neg hc, if_pos hc']
      simp only [Dev.setCmdflag]
  have hrest : (revCmdSwitch (MxchipSpp.revCmdRead d)).rx =
      { d.rx with revCmd := (revCmdSwitch (MxchipSpp.revCmdRead d)).revCmd } := by
    unfold revCmdSwitch stopResend
    split_ifs <;> rfl
  refine ⟨?_, hcmd⟩
  rw [hrest]
  exact ⟨hq.whole, hq.offset, hq.le, hq.contents, hq.history, hq.dataup,
    Or.inr ⟨r, q, rfl, hcmd⟩⟩

/-- A record written to `dataup` reads back. -/
theorem WholeRecord.dataup {r : List Byte} (hr : WholeRecord r) (b : Block Byte 136)
    (h : 0 + r.length ≤ 136) :
    (DataInterfaceStu.setState ⟨b.put 0 r h⟩ 2).held = [r] := by
  have hge := hr.ge
  have hle := hr.le
  have hs : (DataInterfaceStu.setState ⟨b.put 0 r h⟩ 2).state = 2 := Block.get_set_self _ _ _
  have hn : (DataInterfaceStu.setState ⟨b.put 0 r h⟩ 2).datalen = r.getD 3 0 := by
    refine (Block.get_set_ne _ _ (by decide)).trans (Block.get_eq_of_getElem? ?_)
    rw [Block.put_getElem?, if_neg (by simp), if_pos (by simp; omega),
      List.getD_eq_getElem r 0 (by omega)]
    exact List.getElem?_eq_getElem (by omega)
  rw [DataInterfaceStu.held, if_pos hs, DataInterfaceStu.record, hn, ← hr.length_eq]
  congr 1
  refine (Block.take_cells_set _ _ (show r.length ≤ 135 by omega)).trans ?_
  rw [Block.cells_put_zero, List.take_left]

/-- The rest of `RevCmdHandle` on a half-parsed record: it goes to `dataup` if that is free, and
    is then removed from the FIFO. -/
theorem Queued.revCmdCopy {r : List Byte} (hq : Queued d.rx (r :: q))
    (hs : d.revCmd = ⟨1, r.length, r.getD 4 0⟩) :
    ∃ e, revCmdCopy d = .ok e ∧ (Queued (revCmdDelete e).rx (r :: q) ∨
      Queued (revCmdDelete e).rx q) := by
  have hr := hq.whole r List.mem_cons_self
  have hle := hr.le
  unfold MxchipSpp.revCmdCopy
  by_cases hst : d.dataup.state = 0
  · have hcopy : d.framerevfifo.copy 0 d.revCmd.templen = r := by
      have := hq.head 0
      rw [hs, Fifo.copy_eq]
      simpa using this
    have hw : 0 + r.length ≤ 136 := by omega
    have hwr : d.dataup.write 0 r = some ⟨d.dataup.bytes.put 0 r hw⟩ := by
      rw [DataInterfaceStu.write, Block.write_of_le _ hw]; rfl
    rw [if_pos ⟨by rw [hs], hst⟩, hcopy, hwr]
    refine ⟨_, rfl, Or.inr ?_⟩
    rw [revCmdDelete, if_pos rfl]
    have ho := hq.offset_cons
    have hoff : d.framerevpara.offset ≤ d.framerevfifo.datalen := hq.le
    have hu : u16 (d.framerevpara.offset - d.revCmd.templen) = q.flatten.length :=
      u16_eq (by rw [hs]; simp only; omega) (by
        have := d.framerevfifo.datalen_le
        have : revFifoLen = 1024 := rfl
        omega)
    have hc : d.framerevfifo.contents.take d.framerevpara.offset = r ++ q.flatten := hq.contents
    have hheld : d.dataup.held = [] := if_neg (by rw [hst]; decide)
    have hh : d.hist.delivered ++ d.dataup.held ++ (r :: q) = d.hist.accepted := hq.history
    refine ⟨fun rec hrec => hq.whole rec (List.mem_cons_of_mem r hrec), hu, ?_, ?_, ?_,
      Or.inr (Block.get_set_self _ _ _), Or.inl rfl⟩
    · change u16 (d.framerevpara.offset - d.revCmd.templen) ≤
        (d.framerevfifo.deletTail d.revCmd.templen).datalen
      rw [hu, Fifo.datalen_deletTail, hs]
      simp only; omega
    · change ((d.framerevfifo.deletTail d.revCmd.templen).contents).take
        (u16 (d.framerevpara.offset - d.revCmd.templen)) = _
      rw [hu, Fifo.contents_deletTail, hs]
      have := congrArg (List.drop r.length) hc
      rwa [List.drop_take, List.drop_left, ho, Nat.add_sub_cancel_left] at this
    · change d.hist.delivered ++ (DataInterfaceStu.setState ⟨d.dataup.bytes.put 0 r hw⟩ 2).held ++ q =
        d.hist.accepted
      rw [hr.dataup d.dataup.bytes hw, ← hh, hheld]
      simp
  · rw [if_neg fun h => hst h.2]
    refine ⟨d, rfl, Or.inl ?_⟩
    rw [revCmdDelete, if_neg (by rw [hs]; simp)]
    exact hq

theorem Queued.revCmdHandle (hq : Queued d.rx q) :
    ∃ e, revCmdHandle d = .ok e ∧ ∃ q', Queued e.rx q' := by
  have hcopy : ∀ {d : Dev} {r : List Byte} {q : List (List Byte)}, Queued d.rx (r :: q) →
      d.revCmd = ⟨1, r.length, r.getD 4 0⟩ →
      ∃ e, (do let d ← MxchipSpp.revCmdCopy d; return revCmdDelete d) = .ok e ∧
        ∃ q', Queued e.rx q' := by
    intro d r q hq hs
    obtain ⟨e, he, hq' | hq'⟩ := hq.revCmdCopy hs
    · exact ⟨revCmdDelete e, by rw [he]; rfl, _, hq'⟩
    · exact ⟨revCmdDelete e, by rw [he]; rfl, _, hq'⟩
  unfold MxchipSpp.revCmdHandle
  by_cases ho : d.framerevpara.offset ≠ 0
  · rw [if_pos ho]
    rcases hq.statics with hs | ⟨r, q', rfl, hs⟩
    · obtain ⟨r, q', rfl⟩ : ∃ r q', q = r :: q' := by
        cases q with
        | nil => exact absurd hq.offset ho
        | cons r q' => exact ⟨r, q', rfl⟩
      have hs' : d.revCmd = ⟨0, 0, 0⟩ := hs
      rw [if_pos (by rw [hs'])]
      obtain ⟨h₁, h₂⟩ := hq.revCmdRead hs'
      exact hcopy h₁ h₂
    · have hs' : d.revCmd = ⟨1, r.length, r.getD 4 0⟩ := hs
      rw [if_neg (by rw [hs']; exact (hq.whole r List.mem_cons_self).cmd_ne)]
      exact hcopy hq hs'
  · rw [if_neg ho]; exact ⟨d, rfl, q, hq⟩

theorem devInv_intact : DevInv (fun e => e.rx.Overrun) Intact where
  rx := rxInv_intact
  dataup {d} hd := by
    rcases hd with ⟨c, hc, hn⟩ | ⟨q, hq⟩
    · refine Or.inl ⟨c, ?_, hn⟩
      unfold dataupHandle
      split_ifs <;> exact hc
    · exact Or.inr ⟨q, hq.dataupHandle⟩
  revCmd {d} hd := by
    rcases hd with ⟨c, hc, hn⟩ | ⟨q, hq⟩
    · have hmem : ∀ e : Dev, e.hist.calls = d.hist.calls → e.rx.Overrun := fun e he =>
        ⟨c, by change c ∈ e.hist.calls; rw [he]; exact hc, hn⟩
      exact takeStep_revCmdHandle.mono (fun e he => hmem e he.calls) fun e he => Or.inl (hmem e he.calls)
    · obtain ⟨e, he, hq'⟩ := hq.revCmdHandle
      rw [he]
      exact Or.inr hq'

/-- **Every record is passed on once, whole and in order.**  In a run in which `FrameDataHandle`
    finds between 4 and 250 bytes pending, no access is out of bounds; the old end of the FIFO is a
    concatenation of whole records, and these are what `FifoInput` took less what was passed to
    `AppHandleCallback` and what is in `dataup`. -/
theorem records_exactly_once (evs : List DevEvent)
    (h : ∀ c ∈ (last (run .old devParaInit evs)).hist.calls, 4 ≤ c.pending ∧ c.pending ≤ 250) :
    ∃ d, run .old devParaInit evs = .ok d ∧
      d.framerevpara.offset ≤ d.framerevfifo.datalen ∧
      ∃ q, d.framerevfifo.contents.take d.framerevpara.offset = q.flatten ∧
        (∀ r ∈ q, r.length = (r.getD 3 0).toNat + 4) ∧
        d.hist.delivered ++ (if d.dataup.state = 2 then [d.dataup.record] else []) ++ q =
          d.hist.accepted := by
  have h₀ : Queued devParaInit.rx [] :=
    ⟨by simp, rfl, Nat.le_refl _, by simp [Dev.rx, devParaInit], rfl, Or.inl rfl, Or.inl rfl⟩
  have hpost := devInv_intact.run (Or.inr ⟨[], h₀⟩) evs
  have hno : ∀ d : Dev, last (run .old devParaInit evs) = d → ¬ d.rx.Overrun := by
    rintro d rfl ⟨c, hc, hn⟩
    have := h c hc
    omega
  cases hr : run .old devParaInit evs with
  | error e => exact absurd (hpost.of_error hr) (hno e (by rw [hr]; rfl))
  | ok d =>
    rcases hpost.of_ok hr with ho | ⟨q, hq⟩
    · exact absurd ho (hno d (by rw [hr]; rfl))
    · exact ⟨d, rfl, hq.le, q, hq.contents, fun r hr => (hq.whole r hr).length_eq, hq.history⟩

end

/-- Three frames, each closed by its timer, and three times `FrameHandle`. -/
def threeFrames : List DevEvent :=
  [.rev sampleFrame, .revTimerUp, .frameHandle true true, .frameHandle true true,
    .frameHandle true true, .rev sampleFrame, .revTimerUp, .frameHandle true true,
    .rev sampleFrame, .revTimerUp, .frameHandle true true]

/-- Of their records one has been passed on, one is in `dataup` and one in the FIFO. -/
theorem records_exactly_once_threeFrames :
    ∃ d, run .old devParaInit threeFrames = .ok d ∧
      (d.hist.delivered.length = 1 ∧ d.dataup.state = 2 ∧ d.hist.accepted.length = 3) ∧
      d.framerevpara.offset ≤ d.framerevfifo.datalen ∧
      ∃ q, d.framerevfifo.contents.take d.framerevpara.offset = q.flatten ∧
        (∀ r ∈ q, r.length = (r.getD 3 0).toNat + 4) ∧
        d.hist.delivered ++ (if d.dataup.state = 2 then [d.dataup.record] else []) ++ q =
          d.hist.accepted := by
  have hrun : ((run .old devParaInit threeFrames).toOption.map fun d =>
      (d.hist.calls.all fun c => decide (4 ≤ c.pending ∧ c.pending ≤ 250),
        d.hist.delivered.length, d.dataup.state, d.hist.accepted.length)) =
      some (true, 1, 2, 3) := by decide +kernel
  obtain ⟨d, hd, hvals⟩ := exists_ok_of_map hrun
  simp only [Prod.mk.injEq, List.all_eq_true, decide_eq_true_eq] at hvals
  obtain ⟨hcalls, hvals⟩ := hvals
  obtain ⟨e, he, honce⟩ := records_exactly_once threeFrames fun c hc => by
    rw [hd] at hc
    exact hcalls c hc
  rw [hd, Except.ok.injEq] at he
  exact ⟨d, hd, hvals, he ▸ honce⟩

end MxchipSpp
