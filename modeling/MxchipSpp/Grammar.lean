/-
  What the receiver accepts (`OLD`), of bytes that arrive together and are
  followed by silence.

  Inside a frame an `0xF5` is held back until it is known whether it starts a
  header: up to three of them are part of the frame if `0x55` follows, and end
  it in error if another byte does.  Four are a header, which closes the frame.
  No length is looked at.
-/
import MxchipSpp.BackToBack
import MxchipSpp.Chunks

namespace MxchipSpp

open Memory Outcome

/-! ## The grammar -/

/-- The header of a frame. -/
abbrev oldHeader : List Byte := List.replicate 4 frameHeader

/-- What may follow the header in a frame: one to three `0xF5` are followed by `0x55`. -/
inductive OldBody : List Byte → Prop where
  | nil : OldBody []
  | plain {x : Byte} {body : List Byte} (hx : x ≠ frameHeader) (h : OldBody body) :
      OldBody (x :: body)
  | escaped {k : ℕ} {body : List Byte} (hk : k < 3) (h : OldBody body) :
      OldBody (List.replicate (k + 1) frameHeader ++ 0x55 :: body)

/-- The last two bytes of a frame are the check field of the others, and byte 10 is not the one that
    `FrameDataHandle` refuses. -/
structure Checked (f : List Byte) : Prop where
  crc : (f.getD (f.length - 2) 0 ++ f.getD (f.length - 1) 0 : BitVec 16) =
    crcCal (f.take (f.length - 2))
  byte10 : f.getD 10 0 ≠ 0x55

/-- The bytes of which a status record is made: a frame up to the end, where up to three `0xF5` are
    left out; or one that a header closes; or a frame behind such a header, with a header of its
    own.  That the header which closes one frame does not open the next is not the protocol's: it is the
    slip of BackToBack.lean, where `FrameRevInit` drops the header just counted. -/
inductive OldStream : List Byte → Prop where
  | last {body : List Byte} {k : ℕ} (hb : OldBody body) (hk : k < 4) (hc : Checked (oldHeader ++ body)) :
      OldStream (oldHeader ++ body ++ List.replicate k frameHeader)
  | closed {body rest : List Byte} (hb : OldBody body) (hc : Checked (oldHeader ++ body)) :
      OldStream (oldHeader ++ body ++ oldHeader ++ rest)
  | later {body rest : List Byte} (hb : OldBody body) (h : OldStream rest) :
      OldStream (oldHeader ++ body ++ oldHeader ++ rest)

/-- The state after the bytes and an expiry of the receive timer, or at the access out of bounds
    on the way. -/
def fed (d : Dev) (w : List Byte) : Dev := last (run .old d [.rev w, .revTimerUp, .revTimerHandle])

/-- A status record is put into the FIFO on the way. -/
def Enqueues (d : Dev) (w : List Byte) : Prop :=
  ∃ r ∈ (fed d w).hist.accepted.drop d.hist.accepted.length, isStatus r

/-! ## Bodies -/

theorem oldBody_of_not_mem {body : List Byte} (h : frameHeader ∉ body) : OldBody body := by
  induction body with
  | nil => exact .nil
  | cons x body ih =>
    rw [List.mem_cons, not_or] at h
    exact .plain (Ne.symm h.1) (ih h.2)

/-- What stops a body: the end, with up to three `0xF5`; a header; or a byte that may not follow
    `0xF5`. -/
inductive BodyEnd : List Byte → Prop where
  | done {k : ℕ} (hk : k < 4) : BodyEnd (List.replicate k frameHeader)
  | header (rest : List Byte) : BodyEnd (oldHeader ++ rest)
  | error {k : ℕ} {x : Byte} (rest : List Byte) (hk : k < 3) (hx : x ≠ frameHeader) (h55 : x ≠ 0x55) :
      BodyEnd (List.replicate (k + 1) frameHeader ++ x :: rest)

/-- A list starts with a run of headers, of which there are at most `n`. -/
theorem exists_headers (n : ℕ) (v : List Byte) :
    (∃ rest, v = List.replicate n frameHeader ++ rest) ∨
      ∃ k < n, v = List.replicate k frameHeader ∨
        ∃ x rest, x ≠ frameHeader ∧ v = List.replicate k frameHeader ++ x :: rest := by
  induction n generalizing v with
  | zero => exact .inl ⟨v, rfl⟩
  | succ n ih =>
    cases v with
    | nil => exact .inr ⟨0, Nat.succ_pos n, .inl rfl⟩
    | cons x v =>
      by_cases hx : x = frameHeader
      · subst hx
        rcases ih v with ⟨rest, rfl⟩ | ⟨k, hk, rfl | ⟨x, rest, hx, rfl⟩⟩
        · exact .inl ⟨rest, by rw [List.replicate_succ]; rfl⟩
        · exact .inr ⟨k + 1, Nat.succ_lt_succ hk, .inl (by rw [List.replicate_succ])⟩
        · exact .inr ⟨k + 1, Nat.succ_lt_succ hk, .inr ⟨x, rest, hx, by rw [List.replicate_succ]; rfl⟩⟩
      · exact .inr ⟨0, Nat.succ_pos n, .inr ⟨x, v, hx, rfl⟩⟩

/-- Any bytes are a body and what stops it. -/
theorem exists_oldBody (v : List Byte) : ∃ body t, v = body ++ t ∧ OldBody body ∧ BodyEnd t := by
  induction hn : v.length using Nat.strong_induction_on generalizing v with
  | _ n ih =>
    subst hn
    rcases exists_headers 4 v with ⟨rest, rfl⟩ | ⟨k, hk, rfl | ⟨x, rest, hx, rfl⟩⟩
    · exact ⟨[], _, rfl, .nil, .header rest⟩
    · exact ⟨[], _, rfl, .nil, .done hk⟩
    · cases k with
      | zero =>
        obtain ⟨body, t, rfl, hb, ht⟩ := ih rest.length (by simp) rest rfl
        exact ⟨x :: body, t, rfl, .plain hx hb, ht⟩
      | succ k =>
        by_cases h55 : x = 0x55
        · subst h55
          obtain ⟨body, t, rfl, hb, ht⟩ := ih rest.length (by simp; omega) rest rfl
          have hbody : OldBody (List.replicate (k + 1) frameHeader ++ 0x55 :: body) :=
            .escaped (by omega) hb
          exact ⟨_, t, by rw [List.append_assoc, List.cons_append], hbody, ht⟩
        · exact ⟨[], _, rfl, .nil, .error rest (by omega) hx h55⟩

/-! ## One frame -/

section
variable {d e : Dev} {raw body w : List Byte}

/-- Headers that are counted, in the middle of a frame. -/
theorem Reading.headers (h : Reading d raw 0 e) {k : ℕ} (hk : k < 4) :
    ∃ e', Thru .old e (List.replicate k frameHeader) e' ∧ Reading d raw k e' := by
  induction k with
  | zero => exact ⟨e, .nil e, h⟩
  | succ k ih =>
    obtain ⟨e₁, h₁, hr₁⟩ := ih (by omega)
    obtain ⟨e₂, h₂, hr₂⟩ := hr₁.header (b := .old) hk
    exact ⟨e₂, by rw [List.replicate_succ']; exact h₁.append (.one h₂), hr₂⟩

/-- A body goes to the FIFO as it is. -/
theorem Reading.oldBody (hb : OldBody body) : ∀ {raw : List Byte} {e : Dev}, Reading d raw 0 e →
    d.framerevfifo.datalen + raw.length + body.length ≤ revFifoLen →
    ∃ e', Thru .old e body e' ∧ Reading d (raw ++ body) 0 e' := by
  induction hb with
  | nil => exact fun {raw e} h _ => ⟨e, .nil e, by rwa [List.append_nil]⟩
  | @plain x body hx _ ih =>
    intro raw e h hroom
    rw [List.length_cons] at hroom
    obtain ⟨e₁, h₁, hr₁⟩ := h.plain (b := .old) hx (fun _ h0 => absurd rfl h0) (by omega)
    rw [List.replicate_zero, List.append_nil] at hr₁
    obtain ⟨e₂, h₂, hr₂⟩ := ih hr₁ (by rw [List.length_append, List.length_singleton]; omega)
    exact ⟨e₂, .cons h₁ h₂, by rwa [List.append_assoc] at hr₂⟩
  | @escaped k body hk _ ih =>
    intro raw e h hroom
    rw [List.length_append, List.length_replicate, List.length_cons] at hroom
    obtain ⟨e₁, h₁, hr₁⟩ := h.headers (k := k + 1) (by omega)
    obtain ⟨e₂, h₂, hr₂⟩ := hr₁.plain (b := .old) (x := 0x55) (by decide) (fun _ _ => rfl) (by omega)
    obtain ⟨e₃, h₃, hr₃⟩ := ih hr₂ (by
      simp only [List.length_append, List.length_replicate, List.length_singleton]
      omega)
    refine ⟨e₃, h₁.append (.cons h₂ h₃), ?_⟩
    simpa only [List.append_assoc, List.cons_append, List.nil_append] using hr₃

/-- The test of `FrameDataHandle`, on the frame itself. -/
theorem oldValid_iff {f : List Byte} (h₂ : 2 ≤ f.length) (h : f.length ≤ 250) :
    OldValid (bufferOf f) f.length ↔ Checked f := by
  have htake : (bufferOf f).cells.take (f.length - 2) = f.take (f.length - 2) := by
    rw [cells_bufferOf, List.take_take, List.take_append_of_le_length (by omega),
      Nat.min_eq_left (by omega)]
  rw [OldValid, getElem?_bufferOf (by omega), getElem?_bufferOf (by omega), htake, get_bufferOf]
  exact ⟨fun h => ⟨h.1, h.2⟩, fun h => ⟨h.crc, h.byte10⟩⟩

/-- **A frame closed.**  Its records are taken if it passes; the receiver is idle, and if it does not
    pass nothing else has changed. -/
theorem frameDataHandle_closes (hle : d.framerevpara.offset ≤ d.framerevfifo.datalen)
    (hraw : d.framerevfifo.contents.drop d.framerevpara.offset = raw) (h₂ : 2 ≤ raw.length)
    (h : raw.length ≤ 250) (hroom : d.framerevpara.offset + 35 ≤ revFifoLen) :
    ∃ e, frameDataHandle .old d = .ok e ∧ Idle e ∧
      (Checked raw → e.hist.accepted = d.hist.accepted ++ oldRecords (bufferOf raw)) ∧
      (¬ Checked raw → e.framerevpara.offset = e.framerevfifo.datalen ∧
        e.framerevfifo.datalen = d.framerevpara.offset ∧ e.hist.accepted = d.hist.accepted) := by
  obtain ⟨-, hu, hr, -, hdl⟩ := pends_of_drop hle hraw (by omega)
  obtain ⟨e, he⟩ := Option.isSome_iff_exists.1
    (frameData_isSome.2 (show 2 ≤ u8 d.pending ∧ u8 d.pending ≤ 250 by omega))
  have hc := frameData_cases he
  rw [hr, hu, oldValid_iff h₂ h] at hc
  refine ⟨_, by rw [frameDataHandle, he], ?_, fun hv => ?_, fun hv => ?_⟩
  · rcases hc with ⟨-, rfl⟩ | ⟨-, e₀, rfl, -⟩ <;> exact ⟨rfl, rfl⟩
  · obtain ⟨hnot, -⟩ | ⟨-, e₀, rfl, ho⟩ := hc
    · exact absurd hv hnot
    · have h35 := length_flatten_oldRecords (bufferOf raw)
      exact (ho.taken hdl.ge (by
        change d.dropRaw.framerevfifo.datalen + _ ≤ _
        omega)).2.2
  · obtain ⟨-, rfl⟩ | ⟨hv', -⟩ := hc
    · exact ⟨hdl.symm, hdl, rfl⟩
    · exact absurd hv' hv

/-- With nothing pending `FrameDataHandle` makes no record. -/
theorem accepted_of_nothing_pending (hp : d.pending = 0) :
    (last (frameDataHandle .old d)).hist.accepted = d.hist.accepted := by
  have hnone : frameData .old d = none := by
    rw [← Option.not_isSome_iff_eq_none, frameData_isSome, hp]
    decide
  rw [frameDataHandle, hnone]
  rfl

/-! ## Bytes and an expiry -/

theorem fed_eq (hl : w.length ≤ 255) :
    fed d w = last (revBytes .old d w >>= fun e => frameDataHandle .old e.clearRevTimer) := by
  rw [fed, run, List.foldlM_cons]
  change last (revDataWrFifo .old d w >>= fun e => run .old e [.revTimerUp, .revTimerHandle]) = _
  rw [revDataWrFifo_eq hl]
  simp only [run_expiry]

/-- Bytes that are all processed. -/
theorem fed_thru {pre : List Byte} (rest : List Byte) (h : Thru .old d pre e)
    (hl : (pre ++ rest).length ≤ 255) : fed d (pre ++ rest) = fed e rest := by
  rw [List.length_append] at hl
  rw [fed_eq (by rw [List.length_append]; omega), fed_eq (by omega), h.revBytes rest]

/-- A byte at which `RevDataWrFifo` returns. -/
theorem fed_stop {x : Byte} {rest : List Byte} (h : revByte .old d x = .ok (e, false))
    (hl : (x :: rest).length ≤ 255) : fed d (x :: rest) = last (frameDataHandle .old e.clearRevTimer) := by
  rw [fed_eq hl, MxchipSpp.revBytes, h]
  rfl

theorem fed_nil : fed d [] = last (frameDataHandle .old d.clearRevTimer) := fed_eq (Nat.zero_le _)

/-- What was put into the FIFO was put into it. -/
theorem rxInv_accepted (rs : List (List Byte)) :
    RxInv .old (fun e => rs <+: e.hist.accepted) fun e => rs <+: e.hist.accepted where
  raw h hraw := by rw [hraw.rest]; exact h
  frame {d} h := by
    cases he : frameData .old d with
    | none =>
      rw [frameDataHandle, he]
      exact h
    | some e =>
      rw [frameDataHandle, he]
      rcases frameData_cases he with ⟨-, rfl⟩ | ⟨-, e₀, rfl, ho⟩
      · exact h
      · obtain ⟨rs', -, hacc, -⟩ := ho.sublist
        change rs <+: e₀.hist.accepted
        rw [hacc]
        exact h.trans (List.prefix_append _ _)

theorem accepted_prefix_fed (d : Dev) (hl : w.length ≤ 255) :
    d.hist.accepted <+: (fed d w).hist.accepted := by
  have h := rxInv_accepted d.hist.accepted
  rw [fed_eq hl]
  exact ((h.revBytes w List.prefix_rfl).bind fun e he => h.frame (h.raw he .clearRevTimer)).last

theorem isStatus_statusRecord (old : Block Byte 250) : isStatus (statusRecord old) := by
  simp [isStatus, statusRecord, oldStatus]

theorem enqueues_of_prefix (old : Block Byte 250)
    (h : d.hist.accepted ++ oldRecords old <+: (fed d w).hist.accepted) : Enqueues d w := by
  obtain ⟨rs, hrs⟩ := h
  refine ⟨statusRecord old, ?_, isStatus_statusRecord old⟩
  rw [← hrs, List.append_assoc, List.drop_left, oldRecords]
  simp

theorem not_enqueues_of_eq (h : (fed d w).hist.accepted = d.hist.accepted) : ¬ Enqueues d w := by
  rintro ⟨r, hr, -⟩
  rw [h, List.drop_length] at hr
  cases hr

/-! ## Streams -/

/-- An idle receiver with nothing pending and room for a frame. -/
structure Ready (d : Dev) : Prop where
  idle : Idle d
  offset : d.framerevpara.offset = d.framerevfifo.datalen
  room : d.framerevfifo.datalen + 250 ≤ revFifoLen

theorem Ready.pending (h : Ready d) : d.pending = 0 := by
  have := h.offset
  unfold Dev.pending
  omega

/-- A header and a body. -/
theorem Ready.frame (h : Ready d) (hb : OldBody body) (hl : (oldHeader ++ body).length ≤ 250) :
    ∃ e, Thru .old d (oldHeader ++ body) e ∧ Reading d (oldHeader ++ body) 0 e := by
  have hroom := h.room
  rw [List.length_append, List.length_replicate] at hl
  obtain ⟨e₁, h₁, hr₁⟩ := thru_header (b := .old) h.idle
    (by change d.framerevfifo.datalen + 4 ≤ _; omega)
  obtain ⟨e₂, h₂, hr₂⟩ := Reading.oldBody hb hr₁
    (by rw [List.length_replicate]; change d.framerevfifo.datalen + 4 + _ ≤ _; omega)
  exact ⟨e₂, h₁.append h₂, hr₂⟩

/-- What `FrameDataHandle` finds in the middle of a frame. -/
theorem Reading.found {n : ℕ} (h : Reading d raw n e) (hd : Ready d) :
    e.framerevpara.offset ≤ e.framerevfifo.datalen ∧
      e.framerevfifo.contents.drop e.framerevpara.offset = raw ∧
      e.framerevpara.offset + 35 ≤ revFifoLen ∧ e.framerevpara.offset = d.framerevfifo.datalen ∧
      e.hist = d.hist := by
  have hoff : e.framerevpara.offset = d.framerevfifo.datalen := by rw [h.para]; exact hd.offset
  have hdl := h.datalen
  have hroom := hd.room
  refine ⟨by omega, ?_, by omega, hoff, by rw [h.rest]⟩
  rw [hoff, h.contents, ← Fifo.length_contents, List.drop_left]

/-- A header that closes a frame. -/
theorem Reading.close (h : Reading d raw 0 e) (hd : Ready d) (h₂ : 2 ≤ raw.length)
    (hl : raw.length ≤ 250) : ∃ e', Thru .old e oldHeader e' ∧
      (Checked raw → e'.hist.accepted = d.hist.accepted ++ oldRecords (bufferOf raw)) ∧
      (¬ Checked raw → Ready e' ∧ e'.hist.accepted = d.hist.accepted) := by
  obtain ⟨e₁, h₁, hr₁⟩ := h.headers (k := 3) (by decide)
  obtain ⟨hle, hraw, hroom, hoff, hhist⟩ := hr₁.found hd
  obtain ⟨e₂, he₂, hidle, hyes, hno⟩ := frameDataHandle_closes (d := e₁.setWordstate 4) hle hraw h₂
    hl hroom
  have hws : e₁.framerevpara.wordstate = 3 := by rw [hr₁.para]
  have hds : e₁.framerevpara.datastate = .revData := by rw [hr₁.para]
  have hbyte : revByte .old e₁ frameHeader = .ok (e₂, true) := by
    have hu : u8 ((3 : ℕ) + 1) = 4 := by decide
    simp only [revByte, hds, hws, if_true, hu, headNumer, he₂]
    change Except.ok (flushWord e₂, true) = _
    rw [flushWord_zero hidle.wordstate]
  refine ⟨e₂, h₁.append (.one hbyte), fun hc => ?_, fun hc => ?_⟩
  · rw [hyes hc]
    exact congrArg (fun h : Hist => h.accepted ++ _) hhist
  · obtain ⟨hoff₂, hdl, hacc⟩ := hno hc
    have hroom₂ := hd.room
    refine ⟨⟨hidle, hoff₂, ?_⟩, hacc.trans (congrArg (fun h : Hist => h.accepted) hhist)⟩
    have hdl' : e₂.framerevfifo.datalen = d.framerevfifo.datalen := hdl.trans hoff
    omega

/-- Silence in the middle of a frame: the headers counted are left out. -/
theorem Reading.expire {n : ℕ} (h : Reading d raw n e) (hd : Ready d) (h₂ : 2 ≤ raw.length)
    (hl : raw.length ≤ 250) :
    (Checked raw → (fed e []).hist.accepted = d.hist.accepted ++ oldRecords (bufferOf raw)) ∧
      (¬ Checked raw → (fed e []).hist.accepted = d.hist.accepted) := by
  obtain ⟨hle, hraw, hroom, -, hhist⟩ := h.found hd
  obtain ⟨e₁, he₁, -, hyes, hno⟩ := frameDataHandle_closes (d := e.clearRevTimer) hle hraw h₂ hl hroom
  have hacc : e.clearRevTimer.hist.accepted = d.hist.accepted :=
    congrArg (fun h : Hist => h.accepted) hhist
  rw [fed_nil, he₁]
  refine ⟨fun hc => ?_, fun hc => ?_⟩
  · rw [← hacc]; exact hyes hc
  · rw [← hacc]; exact (hno hc).2.2

/-- **A stream of the grammar is accepted.** -/
theorem Ready.enqueues (hs : OldStream w) : ∀ {d : Dev}, Ready d → w.length ≤ 250 → Enqueues d w := by
  induction hs with
  | @last body k hb hk hc =>
    intro d hd hl
    have hl' : (oldHeader ++ body).length ≤ 250 := by
      rw [List.length_append] at hl
      omega
    obtain ⟨e₁, h₁, hr₁⟩ := hd.frame hb hl'
    obtain ⟨e₂, h₂, hr₂⟩ := hr₁.headers hk
    have hfed := fed_thru [] (h₁.append h₂) (by rw [List.append_nil]; omega)
    rw [List.append_nil] at hfed
    have hacc := (hr₂.expire hd (by simp; omega) hl').1 hc
    exact enqueues_of_prefix (bufferOf (oldHeader ++ body)) (by rw [hfed, hacc])
  | @closed body rest hb hc =>
    intro d hd hl
    have hl' : (oldHeader ++ body).length ≤ 250 := by
      rw [List.length_append, List.length_append] at hl
      omega
    obtain ⟨e₁, h₁, hr₁⟩ := hd.frame hb hl'
    obtain ⟨e₂, h₂, hyes, -⟩ := hr₁.close hd (by simp; omega) hl'
    refine enqueues_of_prefix (bufferOf (oldHeader ++ body)) ?_
    rw [fed_thru _ (h₁.append h₂) (by omega), ← hyes hc]
    refine accepted_prefix_fed e₂ ?_
    rw [List.length_append] at hl
    omega
  | @later body rest hb _ ih =>
    intro d hd hl
    have hl' : (oldHeader ++ body).length ≤ 250 := by
      rw [List.length_append, List.length_append] at hl
      omega
    have hrest : rest.length ≤ 250 := by
      rw [List.length_append] at hl
      omega
    obtain ⟨e₁, h₁, hr₁⟩ := hd.frame hb hl'
    obtain ⟨e₂, h₂, hyes, hno⟩ := hr₁.close hd (by simp; omega) hl'
    have hfed := fed_thru rest (h₁.append h₂) (by omega)
    by_cases hc : Checked (oldHeader ++ body)
    · refine enqueues_of_prefix (bufferOf (oldHeader ++ body)) ?_
      rw [hfed, ← hyes hc]
      exact accepted_prefix_fed e₂ (by omega)
    · obtain ⟨hready, hacc⟩ := hno hc
      have hen := ih hready hrest
      rwa [Enqueues, hacc, ← hfed] at hen

/-- A receiver that is idle takes no record from bytes that do not start with a header. -/
theorem Ready.accepted_of_no_header (hd : Ready d) {k : ℕ} (hk : k < 4)
    (hw : w = List.replicate k frameHeader ∨
      ∃ x rest, x ≠ frameHeader ∧ w = List.replicate k frameHeader ++ x :: rest)
    (hl : w.length ≤ 250) : (fed d w).hist.accepted = d.hist.accepted := by
  have hthru := thru_counting (b := .old) (n := k) hk hd.idle
  rcases hw with rfl | ⟨x, rest, hx, rfl⟩
  · have hfed := fed_thru [] hthru (by rw [List.append_nil]; omega)
    rw [List.append_nil] at hfed
    rw [hfed, fed_nil, accepted_of_nothing_pending]
    · rfl
    · exact hd.pending
  · rw [fed_thru _ hthru (by omega)]
    have hds : (d.setWordstate k).framerevpara.datastate = .revHead := hd.idle.datastate
    have hbyte : revByte .old (d.setWordstate k) x = .ok ((d.setWordstate k).setWordstate 0, false) := by
      simp only [revByte, hds, if_neg hx]
      rfl
    rw [List.length_append] at hl
    rw [fed_stop hbyte (by omega), accepted_of_nothing_pending]
    · rfl
    · exact hd.pending

/-- A frame in which `0xF5` is followed by a byte that may not follow it is thrown away. -/
theorem Reading.accepted_of_error {k : ℕ} {x : Byte} {rest : List Byte} (h : Reading d raw 0 e)
    (hd : Ready d) (hk : k < 3) (hx : x ≠ frameHeader) (h55 : x ≠ 0x55)
    (hl : (List.replicate (k + 1) frameHeader ++ x :: rest).length ≤ 255) :
    (fed e (List.replicate (k + 1) frameHeader ++ x :: rest)).hist.accepted = d.hist.accepted := by
  obtain ⟨e₁, h₁, hr₁⟩ := h.headers (k := k + 1) (by omega)
  obtain ⟨hle, -, -, -, hhist⟩ := hr₁.found hd
  rw [fed_thru _ h₁ hl]
  have hws : e₁.framerevpara.wordstate = k + 1 := by rw [hr₁.para]
  have hds : e₁.framerevpara.datastate = .revData := by rw [hr₁.para]
  have hbyte : revByte .old e₁ x = .ok (frameRevInit (e₁.dropPending.setError 3), false) := by
    have herr : True ∧ k + 1 ≠ 0 ∧ x ≠ 0x55 := ⟨trivial, Nat.succ_ne_zero k, h55⟩
    simp only [revByte, hds, hws, if_neg hx]
    rw [if_pos herr]
    rfl
  rw [List.length_append] at hl
  rw [fed_stop hbyte (by omega), accepted_of_nothing_pending]
  · exact congrArg (fun h : Hist => h.accepted) hhist
  · change e₁.dropPending.pending = 0
    have hn := e₁.framerevfifo.datalen_le
    have hu : u16 e₁.pending = e₁.framerevfifo.datalen - e₁.framerevpara.offset :=
      u16_eq (by unfold Dev.pending; omega) (by have : revFifoLen = 1024 := rfl; omega)
    have hdl : e₁.dropPending.framerevfifo.datalen = e₁.framerevpara.offset := by
      rw [← Fifo.length_contents, Dev.dropPending, Fifo.contents_deletHead, hu, List.length_take,
        Fifo.length_contents]
      omega
    unfold Dev.pending
    rw [hdl]
    exact sub_self _

/-- **What is accepted is a stream of the grammar.** -/
theorem Ready.stream : ∀ {w : List Byte} {d : Dev}, Ready d → w.length ≤ 250 → Enqueues d w →
    OldStream w := by
  intro w
  induction hn : w.length using Nat.strong_induction_on generalizing w with
  | _ n ih =>
    subst hn
    intro d hd hl hen
    rcases exists_headers 4 w with ⟨v, rfl⟩ | ⟨k, hk, hw⟩
    · obtain ⟨body, t, rfl, hb, ht⟩ := exists_oldBody v
      rw [← List.append_assoc] at hl hen ih ⊢
      change (oldHeader ++ body ++ t).length ≤ 250 at hl
      have hl' : (oldHeader ++ body).length ≤ 250 := by
        rw [List.length_append] at hl
        omega
      have h₂ : 2 ≤ (oldHeader ++ body).length := by simp; omega
      obtain ⟨e₁, h₁, hr₁⟩ := hd.frame hb hl'
      cases ht with
      | @done k hk =>
        refine .last hb hk (by_contra fun hc => not_enqueues_of_eq ?_ hen)
        obtain ⟨e₂, h₂', hr₂⟩ := hr₁.headers hk
        have hfed := fed_thru [] (h₁.append h₂') (by rw [List.append_nil]; omega)
        rw [List.append_nil] at hfed
        rw [hfed]
        exact (hr₂.expire hd h₂ hl').2 hc
      | header rest =>
        rw [← List.append_assoc] at hl hen ih ⊢
        by_cases hc : Checked (oldHeader ++ body)
        · exact .closed hb hc
        · obtain ⟨e₂, h₂', -, hno⟩ := hr₁.close hd h₂ hl'
          obtain ⟨hready, hacc⟩ := hno hc
          rw [Enqueues, fed_thru _ (h₁.append h₂') (by omega), ← hacc] at hen
          have hlt : rest.length < (oldHeader ++ body ++ oldHeader ++ rest).length := by simp; omega
          exact .later hb (ih _ hlt rfl hready (by omega) hen)
      | error rest hk hx h55 =>
        refine absurd hen (not_enqueues_of_eq ?_)
        rw [fed_thru _ h₁ (by omega)]
        rw [List.length_append] at hl
        exact hr₁.accepted_of_error hd hk hx h55 (by omega)
    · exact absurd hen (not_enqueues_of_eq (hd.accepted_of_no_header hk hw hl))

/-- **What the receiver accepts.**  An idle receiver with room makes a status record of bytes that
    arrive together, and are followed by silence, exactly if they are a stream of the grammar. -/
theorem enqueues_iff (hd : Ready d) (hl : w.length ≤ 250) : Enqueues d w ↔ OldStream w :=
  ⟨Ready.stream hd hl, fun hs => Ready.enqueues hs hd hl⟩

end

theorem ready_devParaInit : Ready devParaInit := ⟨⟨rfl, rfl⟩, rfl, by decide⟩

/-- A status frame and an `0xF5` behind it. -/
theorem enqueues_sampleFrame : Enqueues devParaInit (sampleFrame ++ [0xF5]) := by
  have hs : OldStream (oldHeader ++ sampleFrame.drop 4 ++ List.replicate 1 frameHeader) :=
    .last (oldBody_of_not_mem (by decide)) (by decide) ⟨by decide +kernel, by decide⟩
  exact (enqueues_iff ready_devParaInit (by decide)).2 hs

/-! ## The length byte -/

/-- A status frame by its length byte: a header, a body without one, and the length that byte 7
    gives. -/
structure LengthFrame (w : List Byte) : Prop where
  header : w.take 4 = oldHeader
  length : w.length = (w.getD 7 0).toNat + 10
  body : ¬ oldHeader <:+: w.drop 4
  checked : Checked w

instance decidableEnqueues (d : Dev) (w : List Byte) : Decidable (Enqueues d w) :=
  inferInstanceAs (Decidable (∃ r ∈ _, isStatus r = true))

/-- The sample with a length byte that does not fit it. -/
def misfitFrame : List Byte :=
  [0xF5, 0xF5, 0xF5, 0xF5, 0x00, 0x01, 0x04, 0x16, 0x01, 0x00, 0x00, 0x01, 0x01, 0x10, 0x02, 0x00,
   0x03, 0x04, 0x20, 0x01, 0x30, 0x02, 0x00, 0x00, 0x4B, 0x28, 0x00, 0x00, 0x00, 0x86, 0x45]

/-- The sample with a temperature of `0xF5`. -/
def headerFrame : List Byte :=
  [0xF5, 0xF5, 0xF5, 0xF5, 0x00, 0x01, 0x04, 0x15, 0x01, 0x00, 0x00, 0x01, 0x01, 0x10, 0x02, 0x00,
   0x03, 0x04, 0x20, 0x01, 0x30, 0x02, 0x00, 0x00, 0xF5, 0x28, 0x00, 0x00, 0x00, 0x4A, 0x8F]

/-- A frame is accepted with a wrong length byte; and one with the right length byte is not, as
    `0x55` does not follow its `0xF5`. -/
theorem length_byte_not_looked_at :
    (Enqueues devParaInit misfitFrame ∧ ¬ LengthFrame misfitFrame) ∧
      LengthFrame headerFrame ∧ ¬ Enqueues devParaInit headerFrame := by
  refine ⟨⟨by decide +kernel, fun h => absurd h.length (by decide)⟩, ?_, by decide +kernel⟩
  exact ⟨by decide, by decide, by decide, ⟨by decide +kernel, by decide⟩⟩

end MxchipSpp
