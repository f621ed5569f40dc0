/-
  The ring FIFO is a bounded queue of bytes.

  Whatever calls are made, in whatever order, the counters stay in range and
  each call returns what the call on the queue of its bytes returns.
  `FifoOffset = FifoLen` is a state like any other.  The room that `FifoInput`
  looks for is computed in 16 bits, so data for which that sum wraps is not
  refused (`fifoInput_wrap_not_refused`).
-/
import MxchipSpp.Lib.Queue
import MxchipSpp.Fifo

namespace MxchipSpp

open Memory Queue

section
variable {L : ℕ}

/-- A call on a FIFO of `L` bytes; `FifoInit` comes with the bytes of the array. -/
inductive FifoCall (L : ℕ) where
  | init (src : Block Byte L)
  | pushOneByte (data : Byte)
  | input (src : List Byte)
  | output (len : ℕ)
  | copy (offset len : ℕ)
  | deletHead (len : ℕ)
  | deletTail (len : ℕ)

/-- `fifodellen`, which `FifoDeletHead` and `FifoDeletTail` return. -/
def fifoDellen (fifo : FifoTyp L) (len : ℕ) : ℕ := if len ≤ fifo.datalen then len else fifo.datalen

/-- A call with what it returns; `none` is an access outside the array. -/
def FifoCall.exec (fifo : FifoTyp L) : FifoCall L → Option (Answer Byte × FifoTyp L)
  | .init src => some (.done, fifoInit src)
  | .pushOneByte data => (fifoPushOneByte fifo data).map fun r => (.taken r.1, r.2)
  | .input src => (fifoInput fifo src).map fun r => (.taken r.1, r.2)
  | .output len => (fifoOutput fifo len).map fun r => (.data r.1, r.2)
  | .copy offset len => (fifoCopy fifo offset len).map fun r => (.data r, fifo)
  | .deletHead len => some (.count (fifoDellen fifo len), fifoDeletHead fifo len)
  | .deletTail len => some (.count (fifoDellen fifo len), fifoDeletTail fifo len)

/-- The call on the queue. -/
def FifoCall.toCall : FifoCall L → Call Byte
  | .init _ => .clear
  | .pushOneByte data => .push data
  | .input src => .input src
  | .output len => .output len
  | .copy offset len => .copy offset len
  | .deletHead len => .dropNewest len
  | .deletTail len => .dropOldest len

/-- `Datalen + len` fits in 16 bits, which only `FifoInput` needs. -/
def FifoCall.Fits (fifo : FifoTyp L) : FifoCall L → Prop
  | .input src => fifo.datalen + src.length < 65536
  | _ => True

/-- The counters are in range, and `q` are the bytes queued. -/
def Represents (f : FifoTyp L) (q : List Byte) : Prop := f.WF ∧ f.contents = q

variable {f : FifoTyp L} {q : List Byte}

theorem Represents.length (h : Represents f q) : q.length = f.datalen := by
  rw [← h.2, h.1.length_contents]

theorem Represents.dellen (h : Represents f q) (len : ℕ) :
    fifoDellen f len = min len q.length := by
  rw [h.length, fifoDellen]
  split_ifs <;> omega

theorem represents_init (src : Block Byte L) (hp : 0 < L) (hs : L ≤ 32767) :
    Represents (fifoInit src) [] :=
  ⟨⟨hp, hs, Nat.zero_le _, Nat.zero_le _⟩, rfl⟩

/-! ## One call -/

theorem Represents.pushOneByte (h : Represents f q) (data : Byte) :
    ∃ f', FifoCall.exec f (.pushOneByte data) = some ((call L q (.push data)).1, f') ∧
      Represents f' (call L q (.push data)).2 := by
  have hl := h.length
  obtain ⟨hw, rfl⟩ := h
  rw [call, hl]
  by_cases hn : f.datalen < L
  · obtain ⟨addr, he, hc⟩ := hw.push data hn
    refine ⟨_, by rw [FifoCall.exec, he, if_pos hn]; rfl, ?_⟩
    rw [if_pos hn]
    exact ⟨⟨hw.pos, hw.small, hn, hw.fifoOffset_le⟩, hc⟩
  · refine ⟨f, by rw [FifoCall.exec, fifoPushOneByte, if_neg hn, if_neg hn]; rfl, ?_⟩
    rw [if_neg hn]
    exact ⟨hw, rfl⟩

theorem Represents.input (h : Represents f q) {src : List Byte}
    (hf : f.datalen + src.length < 65536) :
    ∃ f', FifoCall.exec f (.input src) = some ((call L q (.input src)).1, f') ∧
      Represents f' (call L q (.input src)).2 := by
  have hl := h.length
  obtain ⟨hw, rfl⟩ := h
  rw [call, hl]
  by_cases hn : f.datalen + src.length ≤ L
  · obtain ⟨addr, he, hc⟩ := hw.input hn
    refine ⟨_, by rw [FifoCall.exec, he, if_pos hn]; rfl, ?_⟩
    rw [if_pos hn]
    exact ⟨⟨hw.pos, hw.small, hn, hw.fifoOffset_le⟩, hc⟩
  · have hfull := fifoInput_full (not_le.1 hn) hf
    refine ⟨f, by rw [FifoCall.exec, hfull, if_neg hn]; rfl, ?_⟩
    rw [if_neg hn]
    exact ⟨hw, rfl⟩

theorem Represents.deletHead (h : Represents f q) (len : ℕ) :
    Represents (fifoDeletHead f len) (q.take (q.length - len)) := by
  have hl := h.length
  obtain ⟨hw, rfl⟩ := h
  obtain ⟨he, hc⟩ := hw.deletHead len
  refine ⟨?_, by rw [hl]; exact hc⟩
  rw [he]
  exact ⟨hw.pos, hw.small, (Nat.sub_le _ _).trans hw.datalen_le, hw.fifoOffset_le⟩

theorem Represents.deletTail (h : Represents f q) (len : ℕ) :
    Represents (fifoDeletTail f len) (q.drop len) := by
  obtain ⟨hw, rfl⟩ := h
  obtain ⟨hw', -, hc⟩ := hw.deletTail len
  exact ⟨hw', hc⟩

/-- **Each call** on the FIFO is the call on the queue of its bytes. -/
theorem implements_fifo :
    Implements L FifoCall.exec FifoCall.toCall FifoCall.Fits (Represents (L := L)) := by
  intro f q c h hf
  cases c with
  | init src => exact ⟨_, rfl, represents_init src h.1.pos h.1.small⟩
  | pushOneByte data => exact h.pushOneByte data
  | input src => exact h.input hf
  | output len =>
    refine ⟨_, ?_, h.deletTail len⟩
    rw [FifoCall.exec, h.1.output len, h.2]
    rfl
  | copy offset len =>
    refine ⟨f, ?_, h⟩
    rw [FifoCall.exec, h.1.copy offset len, h.2]
    rfl
  | deletHead len => exact ⟨_, by rw [FifoCall.exec, h.dellen]; rfl, h.deletHead len⟩
  | deletTail len => exact ⟨_, by rw [FifoCall.exec, h.dellen]; rfl, h.deletTail len⟩

end

/-! ## Sequences of calls -/

/-- **The FIFO refines a bounded queue.**  After any calls the counters are in range, no access was
    outside the array, and the calls returned what they return on a queue of that capacity. -/
theorem fifo_refines_queue {L : ℕ} (hp : 0 < L) (hs : L ≤ 32767) (src : Block Byte L)
    (cs : List (FifoCall L)) (hf : FitsAll FifoCall.exec FifoCall.Fits (fifoInit src) cs) :
    ∃ f, execs FifoCall.exec (fifoInit src) cs =
        some ((calls L [] (cs.map FifoCall.toCall)).1, f) ∧
      f.datalen ≤ L ∧ f.fifoOffset ≤ L ∧
      f.contents = (calls L [] (cs.map FifoCall.toCall)).2 := by
  obtain ⟨f, he, hw, hc⟩ := implements_fifo.calls cs (represents_init src hp hs) hf
  exact ⟨f, he, hw.datalen_le, hw.fifoOffset_le, hc⟩

/-- Inputs of at most 32767 bytes always fit. -/
theorem fitsAll_of_short {L : ℕ} (cs : List (FifoCall L)) :
    ∀ {f : FifoTyp L} {q : List Byte}, Represents f q →
      (∀ src, FifoCall.input src ∈ cs → src.length ≤ 32767) →
      FitsAll FifoCall.exec FifoCall.Fits f cs := by
  induction cs with
  | nil => exact fun _ _ => trivial
  | cons c cs ih =>
    intro f q h hc
    have hf : FifoCall.Fits f c := by
      cases c with
      | input src =>
        have h₁ := hc src List.mem_cons_self
        have h₂ := h.1.datalen_le
        have h₃ := h.1.small
        rw [FifoCall.Fits]
        omega
      | _ => trivial
    obtain ⟨f₁, h₁, hR⟩ := implements_fifo h hf
    refine ⟨hf, fun f' he => ?_⟩
    obtain ⟨r, hr, rfl⟩ := Option.map_eq_some_iff.1 he
    rw [h₁, Option.some.injEq] at hr
    subst hr
    exact ih hR fun src hs => hc src (List.mem_cons_of_mem c hs)

/-- Over the end of the array, and on from `FifoOffset = FifoLen`. -/
theorem fifo_refines_queue_sample : ∃ f : FifoTyp 4,
    execs FifoCall.exec (fifoInit (.fill 4 0)) [.input [1, 2, 3], .output 2, .input [4, 5, 6],
        .output 2, .pushOneByte 7, .copy 0 9] =
      some ([.taken true, .data [1, 2], .taken true, .data [3, 4], .taken true, .data [5, 6, 7]],
        f) ∧ f.datalen ≤ 4 ∧ f.fifoOffset ≤ 4 ∧ f.contents = [5, 6, 7] := by
  refine fifo_refines_queue (by decide) (by decide) _ _
    (fitsAll_of_short _ (represents_init _ (by decide) (by decide)) fun src hs => ?_)
  simp only [List.mem_cons, List.not_mem_nil, reduceCtorEq, FifoCall.input.injEq, or_false,
    false_or] at hs
  rcases hs with rfl | rfl <;> decide

/-! ## Sums that wrap -/

section
variable {L : ℕ} {f : FifoTyp L} {src : List Byte}

/-- `FifoInput` refuses the data: it returns 0, and the FIFO is what it was. -/
def Refuses (f : FifoTyp L) (src : List Byte) : Prop := fifoInput f src = some (false, f)

/-- A sum of 65536 or more is less than `Datalen` when it is compared with the capacity. -/
theorem u16_le_of_wrap (hd : f.datalen ≤ L) (hlen : src.length < 65536)
    (hsum : 65536 ≤ f.datalen + src.length) : u16 (f.datalen + src.length) ≤ L := by
  unfold u16
  omega

theorem fifoInput_of_wrap (hd : f.datalen ≤ L) (hlen : src.length < 65536)
    (hsum : 65536 ≤ f.datalen + src.length) {r : Bool × FifoTyp L} (h : fifoInput f src = some r) :
    r.1 = true ∧ r.2.datalen = u16 (f.datalen + src.length) := by
  have hcnt := u16_le_of_wrap hd hlen hsum
  rw [fifoInput] at h
  simp only [if_pos hcnt] at h
  split at h
  · obtain ⟨addr, -, h⟩ := Option.bind_eq_some_iff.1 h
    cases h
    exact ⟨rfl, rfl⟩
  · obtain ⟨addr, -, h⟩ := Option.bind_eq_some_iff.1 h
    obtain ⟨addr', -, h⟩ := Option.bind_eq_some_iff.1 h
    cases h
    exact ⟨rfl, rfl⟩

/-- With the counters in range, what is then copied is longer than the array. -/
theorem FifoTyp.WF.input_of_wrap (h : f.WF) (hlen : src.length < 65536)
    (hsum : 65536 ≤ f.datalen + src.length) : fifoInput f src = none := by
  have hs := h.small
  have hd := h.datalen_le
  have ho := h.fifoOffset_le
  have hcnt := u16_le_of_wrap hd hlen hsum
  have hstart : u16 (f.datalen + f.fifoOffset) = f.datalen + f.fifoOffset :=
    u16_eq (by push_cast; rfl) (by omega)
  have hlong : ∀ (addr : Block Byte L) (i : ℕ) (data : List Byte), L < data.length →
      addr.write i data = none := fun addr i data hl => by
    rw [Block.write, dif_neg (by omega)]
  simp only [fifoInput, if_pos hcnt, hstart]
  split
  · rw [hlong _ _ _ (by omega)]
    rfl
  · rename_i hcut
    have htemp : u16 (L - (f.datalen + f.fifoOffset : ℕ)) = L - (f.datalen + f.fifoOffset) :=
      u16_eq (by omega) (by omega)
    have hrest : ∀ addr : Block Byte L,
        addr.write 0 (src.drop (L - (f.datalen + f.fifoOffset))) = none := fun addr => by
      refine hlong _ _ _ ?_
      rw [List.length_drop]
      omega
    simp only [htemp, hrest]
    cases f.fifoAddr.write (f.datalen + f.fifoOffset) _ <;> rfl

/-- **The check of `FifoInput` is never made good against a sum that wraps**: data whose length
    makes it 65536 or more is not refused. -/
theorem fifoInput_wrap_not_refused (hd : f.datalen ≤ L) (hlen : src.length < 65536)
    (hsum : 65536 ≤ f.datalen + src.length) : ¬ Refuses f src := by
  intro h
  obtain ⟨hr, -⟩ := fifoInput_of_wrap hd hlen hsum h
  cases hr

end

theorem fifoInput_wrap_not_refused_sample :
    ¬ Refuses (⟨.fill 4 0, 4, 4⟩ : FifoTyp 4) (List.replicate 65532 0) :=
  fifoInput_wrap_not_refused (show 4 ≤ 4 from le_rfl) (by rw [List.length_replicate]; omega)
    (by rw [List.length_replicate])

/-- One byte queued in the 1024 of a FIFO, and 65535 bytes more: they are copied over its end. -/
theorem wrapped_input_overruns :
    fifoInput (⟨.fill 1024 0, 1, 0⟩ : FifoTyp 1024) (List.replicate 65535 0) = none ∧
      ¬ Refuses (⟨.fill 1024 0, 1, 0⟩ : FifoTyp 1024) (List.replicate 65535 0) := by
  have hwf : (⟨.fill 1024 0, 1, 0⟩ : FifoTyp 1024).WF :=
    ⟨by decide, by decide, by decide, by decide⟩
  have hnone : fifoInput (⟨.fill 1024 0, 1, 0⟩ : FifoTyp 1024) (List.replicate 65535 0) = none :=
    hwf.input_of_wrap (by rw [List.length_replicate]; omega) (by rw [List.length_replicate])
  refine ⟨hnone, fun h => ?_⟩
  rw [Refuses, hnone] at h
  cases h

end MxchipSpp
