/-
  Byte streams fed to the receiver in chunks.

  `Thru b d xs e`: the bytes `xs` take the receiver from `d` to `e` without an
  early return of `RevDataWrFifo`.  Then it does not matter how the stream is
  cut into chunks.
-/
import MxchipSpp.FrameData
import MxchipSpp.Receiver

namespace MxchipSpp

open Memory Outcome

/-- The bytes `xs` are all processed, from `d` to `e`. -/
inductive Thru (b : Build) : Dev → List Byte → Dev → Prop where
  | nil (d : Dev) : Thru b d [] d
  | cons {d d' e : Dev} {x : Byte} {xs : List Byte} :
      revByte b d x = .ok (d', true) → Thru b d' xs e → Thru b d (x :: xs) e

namespace Thru
variable {b : Build} {d e f : Dev} {xs ys : List Byte}

theorem one {x : Byte} (h : revByte b d x = .ok (e, true)) : Thru b d [x] e := .cons h (.nil e)

theorem append (h : Thru b d xs e) (h' : Thru b e ys f) : Thru b d (xs ++ ys) f := by
  induction h with
  | nil => exact h'
  | cons hx _ ih => exact .cons hx (ih h')

theorem revBytes (h : Thru b d xs e) (ys : List Byte) :
    revBytes b d (xs ++ ys) = MxchipSpp.revBytes b e ys := by
  induction h with
  | nil => rfl
  | cons hx _ ih => rw [List.cons_append, MxchipSpp.revBytes, hx]; exact ih

theorem of_append : ∀ {xs ys : List Byte} {d f : Dev}, Thru b d (xs ++ ys) f →
    ∃ e, Thru b d xs e ∧ Thru b e ys f
  | [], _, d, _, h => ⟨d, .nil d, h⟩
  | _ :: _, _, _, _, .cons hx h => by
    obtain ⟨e, h₁, h₂⟩ := of_append h
    exact ⟨e, .cons hx h₁, h₂⟩

theorem revDataWrFifo (h : Thru b d xs e) (hl : xs.length ≤ 255) :
    revDataWrFifo b d xs = .ok e := by
  have := h.revBytes []
  rw [MxchipSpp.revDataWrFifo, u8_eq rfl (by omega), List.take_length]
  simpa [MxchipSpp.revBytes] using this

/-- A stream that is processed whole is processed so in any chunking. -/
theorem run_chunks : ∀ {chunks : List (List Byte)} {d : Dev}, Thru b d chunks.flatten e →
    (∀ c ∈ chunks, c.length ≤ 255) → run b d (chunks.map .rev) = .ok e
  | [], _, h, _ => by cases h; rfl
  | c :: cs, d, h, hl => by
    rw [List.flatten_cons] at h
    obtain ⟨d', h₁, h₂⟩ := of_append h
    have hc := h₁.revDataWrFifo (hl c List.mem_cons_self)
    have hcs := run_chunks h₂ fun c' hc' => hl c' (List.mem_cons_of_mem c hc')
    rw [run, List.map_cons, List.foldlM_cons, step, hc]
    exact hcs

end Thru

theorem run_append (b : Build) (d : Dev) (evs evs' : List DevEvent) :
    run b d (evs ++ evs') = run b d evs >>= fun e => run b e evs' := List.foldlM_append

theorem run_append_of_ok {b : Build} {d e : Dev} {evs : List DevEvent} (h : run b d evs = .ok e)
    (evs' : List DevEvent) : run b d (evs ++ evs') = run b e evs' := by
  rw [run_append, h]; rfl

theorem run_cons_ok {b : Build} {d e : Dev} {ev : DevEvent} (h : step b d ev = .ok e)
    (evs : List DevEvent) : run b d (ev :: evs) = run b e evs := by
  rw [run, List.foldlM_cons, h]; rfl

/-- An expiry of the receive timer and its handling. -/
theorem run_expiry (b : Build) (d : Dev) :
    run b d [.revTimerUp, .revTimerHandle] = frameDataHandle b d.clearRevTimer := by
  have h : revTimerHandle b (revTimerUp d) = frameDataHandle b d.clearRevTimer :=
    if_pos (show (revTimerUp d).framerevtimer = true from rfl)
  rw [run_cons_ok (show step b d .revTimerUp = .ok (revTimerUp d) from rfl), run, List.foldlM_cons, step, h]
  cases frameDataHandle b d.clearRevTimer <;> rfl

/-! ## In the middle of a frame -/

/-- `e` is `d` in the middle of a frame, with the raw bytes `raw` of it in the FIFO and `w` headers
    counted that are not. -/
structure Reading (d : Dev) (raw : List Byte) (w : ℕ) (e : Dev) : Prop where
  contents : e.framerevfifo.contents = d.framerevfifo.contents ++ raw
  para : e.framerevpara = { d.framerevpara with wordstate := w, datastate := .revData }
  rest : e = { d with framerevfifo := e.framerevfifo, framerevpara := e.framerevpara }

section
variable {b : Build} {d e : Dev} {raw : List Byte} {w : ℕ}

theorem Reading.datalen (h : Reading d raw w e) :
    e.framerevfifo.datalen = d.framerevfifo.datalen + raw.length := by
  rw [← Fifo.length_contents, h.contents]; simp

theorem Reading.pending (h : Reading d raw w e) : e.pending = d.pending + raw.length := by
  have h₁ := h.datalen
  have h₂ : e.framerevpara.offset = d.framerevpara.offset := by rw [h.para]
  unfold Dev.pending; omega

theorem contents_pushHeader (n : ℕ) : ∀ {f : Fifo revFifoLen}, f.datalen + n ≤ revFifoLen →
    (pushHeader n f).contents = f.contents ++ List.replicate n frameHeader := by
  induction n with
  | zero => intro f _; simp [pushHeader]
  | succ n ih =>
    intro f hf
    have h₁ := f.contents_push frameHeader (by omega)
    have h₂ : (f.pushOneByte frameHeader).datalen = f.datalen + 1 := by
      rw [← Fifo.length_contents, h₁]; simp
    rw [pushHeader, ih (by omega), h₁, List.append_assoc, List.replicate_succ]
    rfl

theorem pending_push {x : Byte} (h : d.framerevfifo.datalen < revFifoLen) :
    (d.push x).pending = d.pending + 1 := by
  have h₁ : (d.push x).framerevfifo.datalen = d.framerevfifo.datalen + 1 :=
    (Fifo.datalen_pushOneByte _ _).trans (if_pos h)
  have h₂ : (d.push x).framerevpara.offset = d.framerevpara.offset := rfl
  unfold Dev.pending; omega

theorem pending_flushWord (h : d.framerevfifo.datalen + d.framerevpara.wordstate ≤ revFifoLen) :
    (flushWord d).pending = d.pending + d.framerevpara.wordstate := by
  have h₁ : (flushWord d).framerevfifo.datalen =
      d.framerevfifo.datalen + d.framerevpara.wordstate := by
    rw [← Fifo.length_contents]
    change (pushHeader d.framerevpara.wordstate d.framerevfifo).contents.length = _
    rw [contents_pushHeader _ h]; simp
  have h₂ : (flushWord d).framerevpara.offset = d.framerevpara.offset := rfl
  unfold Dev.pending; omega

theorem flushWord_zero (h : d.framerevpara.wordstate = 0) : flushWord d = d := by
  unfold flushWord
  rw [h, pushHeader]
  conv_rhs => rw [show d = { d with framerevpara.wordstate := d.framerevpara.wordstate } from rfl, h]

/-- A byte after `w` headers: both go to the FIFO. -/
theorem Reading.plain (h : Reading d raw w e) {x : Byte} (hx : x ≠ frameHeader)
    (hw : b = .old → w ≠ 0 → x = 0x55)
    (hroom : d.framerevfifo.datalen + raw.length + w + 1 ≤ revFifoLen) :
    ∃ e', revByte b e x = .ok (e', true) ∧
      Reading d (raw ++ List.replicate w frameHeader ++ [x]) 0 e' := by
  have hws : e.framerevpara.wordstate = w := by rw [h.para]
  have hds : e.framerevpara.datastate = .revData := by rw [h.para]
  have hn := h.datalen
  have hc := contents_pushHeader w (f := e.framerevfifo) (by omega)
  have hl : (pushHeader w e.framerevfifo).datalen = e.framerevfifo.datalen + w := by
    rw [← Fifo.length_contents, hc]; simp
  refine ⟨(flushWord e).push x, ?_, ?_, ?_, ?_⟩
  · have hnot : ¬ (b = .old ∧ w ≠ 0 ∧ x ≠ 0x55) := fun ⟨h₁, h₂, h₃⟩ => h₃ (hw h₁ h₂)
    simp only [revByte, hds, hx, if_false, hws, hnot]
    rfl
  · have h₁ := (pushHeader w e.framerevfifo).contents_push x (by omega)
    change ((pushHeader e.framerevpara.wordstate e.framerevfifo).pushOneByte x).contents = _
    rw [hws, h₁, hc, h.contents, List.append_assoc, List.append_assoc, List.append_assoc]
  · change { e.framerevpara with wordstate := 0 } = _
    rw [h.para]
  · have := h.rest
    conv_lhs => rw [this]
    rfl

/-- A header byte short of a header is counted. -/
theorem Reading.header (h : Reading d raw w e) (hw : w + 1 < headNumer b) :
    ∃ e', revByte b e frameHeader = .ok (e', true) ∧ Reading d raw (w + 1) e' := by
  have hws : e.framerevpara.wordstate = w := by rw [h.para]
  have hds : e.framerevpara.datastate = .revData := by rw [h.para]
  have hb : headNumer b ≤ 4 := by cases b <;> simp [headNumer]
  have hu : u8 (w + 1) = w + 1 := u8_eq (by push_cast; rfl) (by omega)
  refine ⟨e.setWordstate (w + 1), ?_, h.contents, ?_, ?_⟩
  · simp only [revByte, hds, if_true, hws, hu, if_neg (show ¬ w + 1 = headNumer b by omega)]
    rfl
  · change { e.framerevpara with wordstate := w + 1 } = _
    rw [h.para]
  · have := h.rest
    conv_lhs => rw [this]
    rfl

/-- Bytes other than the header, in the middle of a frame. -/
theorem Reading.plains : ∀ {xs : List Byte} {raw : List Byte} {e : Dev}, Reading d raw 0 e →
    frameHeader ∉ xs → d.framerevfifo.datalen + raw.length + xs.length ≤ revFifoLen →
    ∃ e', Thru b e xs e' ∧ Reading d (raw ++ xs) 0 e'
  | [], _, e, h, _, _ => ⟨e, .nil e, by simpa using h⟩
  | x :: xs, raw, e, h, hx, hroom => by
    rw [List.mem_cons, not_or] at hx
    rw [List.length_cons] at hroom
    obtain ⟨e₁, h₁, h₂⟩ := h.plain (b := b) (Ne.symm hx.1) (by simp) (by omega)
    simp only [List.replicate_zero, List.append_nil] at h₂
    obtain ⟨e₂, h₃, h₄⟩ := h₂.plains hx.2 (by simp; omega)
    exact ⟨e₂, .cons h₁ h₃, by simpa using h₄⟩

/-! ## The header of a frame -/

/-- The receiver at the start of a header. -/
structure Idle (d : Dev) : Prop where
  datastate : d.framerevpara.datastate = .revHead
  wordstate : d.framerevpara.wordstate = 0

theorem thru_counting {n : ℕ} (hn : n < headNumer b) (hd : Idle d) :
    Thru b d (List.replicate n frameHeader) (d.setWordstate n) := by
  have hb : headNumer b ≤ 4 := by cases b <;> simp [headNumer]
  induction n with
  | zero =>
    have : d.setWordstate 0 = d := by
      rw [Dev.setWordstate, ← hd.wordstate]
    rw [this]; exact .nil d
  | succ n ih =>
    rw [List.replicate_succ']
    refine (ih (by omega)).append (.one ?_)
    have hu : u8 (n + 1) = n + 1 := u8_eq (by push_cast; rfl) (by omega)
    have hds : (d.setWordstate n).framerevpara.datastate = .revHead := hd.datastate
    have hws : (d.setWordstate n).framerevpara.wordstate = n := rfl
    simp only [revByte, hds, hws, if_true, hu, if_neg (show ¬ n + 1 = headNumer b by omega)]
    rfl

/-- A header takes an idle receiver to the middle of a frame. -/
theorem thru_header (hd : Idle d) (hroom : d.framerevfifo.datalen + headNumer b ≤ revFifoLen) :
    ∃ e, Thru b d (List.replicate (headNumer b) frameHeader) e ∧
      Reading d (List.replicate (headNumer b) frameHeader) 0 e := by
  obtain ⟨n, hn⟩ : ∃ n, headNumer b = n + 1 := by cases b <;> exact ⟨_, rfl⟩
  have hb : headNumer b ≤ 4 := by cases b <;> simp [headNumer]
  have hu : u8 (n + 1) = n + 1 := u8_eq (by push_cast; rfl) (by omega)
  have hc := contents_pushHeader (n + 1) (f := d.framerevfifo) (by omega)
  refine ⟨(flushWord (d.setWordstate (n + 1))).setRevData, ?_, ?_, rfl, rfl⟩
  · rw [hn, List.replicate_succ']
    refine (thru_counting (by omega) hd).append (.one ?_)
    have hds : (d.setWordstate n).framerevpara.datastate = .revHead := hd.datastate
    have hws : (d.setWordstate n).framerevpara.wordstate = n := rfl
    simp only [revByte, hds, hws, if_true, hu, hn]
    rfl
  · rw [hn]; exact hc

/-- A header and bytes other than the header, received by an idle receiver. -/
theorem thru_frame (hd : Idle d) {f : List Byte}
    (hh : f.take (headNumer b) = List.replicate (headNumer b) frameHeader)
    (hb : frameHeader ∉ f.drop (headNumer b))
    (hroom : d.framerevfifo.datalen + f.length ≤ revFifoLen) :
    ∃ e, Thru b d f e ∧ Reading d f 0 e := by
  have hlen := congrArg List.length hh
  rw [List.length_take, List.length_replicate] at hlen
  obtain ⟨e₁, h₁, h₂⟩ := thru_header (b := b) hd (by omega)
  obtain ⟨e₂, h₃, h₄⟩ := h₂.plains (b := b) hb (by simp; omega)
  rw [← hh] at h₁ h₄
  have := h₁.append h₃
  rw [List.take_append_drop] at this h₄
  exact ⟨e₂, this, h₄⟩

end

/-- **A valid frame received alone**, in any chunking, by an idle receiver of the active build
    without raw bytes: its records are put behind the others. -/
theorem run_frame {d : Dev} (hd : Idle d) (hp : d.framerevpara.offset = d.framerevfifo.datalen)
    {f : List Byte} (hf : StatusFrame f) (hroom : d.framerevfifo.datalen + 35 ≤ revFifoLen)
    (chunks : List (List Byte)) (hc : chunks.flatten = f) (hl : ∀ c ∈ chunks, c.length ≤ 255) :
    ∃ e, run .old d (chunks.map .rev ++ [.revTimerUp, .revTimerHandle]) = .ok e ∧
      e.framerevfifo.contents = d.framerevfifo.contents ++ (oldRecords (bufferOf f)).flatten ∧
      e.hist = { d.hist with
        calls := d.hist.calls ++ [⟨31, some e.snapshot⟩]
        accepted := d.hist.accepted ++ oldRecords (bufferOf f) } := by
  obtain ⟨e₁, h₁, h₂⟩ := thru_frame (b := .old) hd hf.header hf.body (by rw [hf.length]; omega)
  have hrun := Thru.run_chunks (hc ▸ h₁) hl
  have hoff : e₁.framerevpara.offset = d.framerevfifo.datalen := by rw [h₂.para]; exact hp
  have hle : e₁.clearRevTimer.framerevpara.offset ≤ e₁.clearRevTimer.framerevfifo.datalen := by
    change e₁.framerevpara.offset ≤ e₁.framerevfifo.datalen
    rw [hoff, h₂.datalen]; omega
  have hlen : e₁.framerevpara.offset = d.framerevfifo.contents.length := by
    rw [hoff, Fifo.length_contents]
  obtain ⟨e, h₃, h₄, h₅⟩ := frameDataHandle_accepts (d := e₁.clearRevTimer) hf hle
    (by change e₁.framerevfifo.contents.drop e₁.framerevpara.offset = f
        rw [h₂.contents, hlen, List.drop_left])
    (by change e₁.framerevpara.offset + 35 ≤ _; omega)
  refine ⟨e, by rw [run_append_of_ok hrun, run_expiry, h₃], ?_, ?_⟩
  · rw [h₄]
    change e₁.framerevfifo.contents.take e₁.framerevpara.offset ++ _ = _
    rw [h₂.contents, hlen, List.take_left]
  · have hh : e₁.clearRevTimer.hist = d.hist := by
      change e₁.hist = d.hist
      rw [h₂.rest]
    rw [h₅, hh]

end MxchipSpp
