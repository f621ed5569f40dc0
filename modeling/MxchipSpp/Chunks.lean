/-
  How the UART driver cuts the stream.

  `RevDataWrFifo` returns early at a byte that cannot belong to a frame, and the
  rest of its chunk is lost with it.  Whether it gets through a chunk depends
  on two variables of the receiver only (`revNext`); if it does, the cut behind
  the chunk makes no difference.
-/
import MxchipSpp.Stream

namespace MxchipSpp

open Memory Outcome

/-! ## The two variables -/

/-- `datastate` and `wordstate`. -/
def Dev.mode (d : Dev) : RevState × ℕ := (d.framerevpara.datastate, d.framerevpara.wordstate)

/-- What a byte makes of them; `none` where `RevDataWrFifo` returns early. -/
def revNext (b : Build) : RevState × ℕ → Byte → Option (RevState × ℕ)
  | (.revHead, wordstate), x =>
    if x = frameHeader then
      some (if u8 (wordstate + 1) = headNumer b then (.revData, 0) else (.revHead, u8 (wordstate + 1)))
    else none
  | (.revData, wordstate), x =>
    if x = frameHeader then
      some (if u8 (wordstate + 1) = headNumer b then (.revHead, 0) else (.revData, u8 (wordstate + 1)))
    else if b = .old ∧ wordstate ≠ 0 ∧ x ≠ 0x55 then none
    else some (.revData, 0)

/-- No byte of the chunk makes `RevDataWrFifo` return early. -/
def ReadsThrough (b : Build) (d : Dev) (a : List Byte) : Prop := (a.foldlM (revNext b) d.mode).isSome

section
variable {b : Build} {d : Dev}

/-- One byte. -/
theorem revByte_mode (b : Build) (d : Dev) (x : Byte) : Post (revByte b d x) (fun _ => True) fun r =>
    if r.2 then revNext b d.mode x = some r.1.mode else revNext b d.mode x = none ∧ Idle r.1 := by
  unfold revByte Dev.mode
  cases hs : d.framerevpara.datastate with
  | revHead =>
    simp only [revNext]
    split_ifs with hx hn
    · rfl
    · simp [Dev.setWordstate, hs]
    · exact ⟨rfl, hs, rfl⟩
  | revData =>
    simp only [revNext]
    split_ifs with hx hn hw
    · refine (frameCall_frameDataHandle.mono (fun _ _ => trivial) fun e he => he.2.1).bind fun e he => ?_
      simp [flushWord, he]
    · simp [Dev.setWordstate, hs]
    · exact ⟨rfl, rfl, rfl⟩
    · simp [flushWord, Dev.push, hs]

theorem readsThrough_cons {x : Byte} {a : List Byte} :
    ReadsThrough b d (x :: a) ↔ ∃ m, revNext b d.mode x = some m ∧ (a.foldlM (revNext b) m).isSome := by
  rw [ReadsThrough, List.foldlM_cons]
  cases revNext b d.mode x <;> simp

/-! ## A chunk in two parts -/

/-- If it gets through the first part, the second is read as if it came by itself. -/
theorem revBytes_append_of_through {a : List Byte} (c : List Byte) :
    ∀ {d : Dev}, ReadsThrough b d a →
      revBytes b d (a ++ c) = revBytes b d a >>= fun e => revBytes b e c := by
  induction a with
  | nil => exact fun {d} _ => rfl
  | cons x a ih =>
    intro d h
    obtain ⟨m, hm, ha⟩ := readsThrough_cons.1 h
    have hx := revByte_mode b d x
    rw [List.cons_append, revBytes, revBytes]
    cases hr : revByte b d x with
    | error f => rfl
    | ok r =>
      obtain ⟨e, more⟩ := r
      rw [hr] at hx
      cases more with
      | false => rw [hx.1] at hm; cases hm
      | true =>
        have he : e.mode = m := Option.some.inj (hx.symm.trans hm)
        exact ih (d := e) (by rw [ReadsThrough, he]; exact ha)

/-- If it does not, the second part is lost, and the receiver waits for a frame. -/
theorem revBytes_append_of_stop {a : List Byte} (c : List Byte) :
    ∀ {d e : Dev}, ¬ ReadsThrough b d a → revBytes b d a = .ok e →
      Idle e ∧ revBytes b d (a ++ c) = .ok e := by
  induction a with
  | nil => exact fun h => absurd rfl h
  | cons x a ih =>
    intro d e h he
    have hx := revByte_mode b d x
    rw [revBytes] at he
    rw [List.cons_append, revBytes]
    cases hr : revByte b d x with
    | error f => rw [hr] at he; cases he
    | ok r =>
      obtain ⟨d', more⟩ := r
      rw [hr] at hx he
      cases more with
      | false => cases he; exact ⟨hx.2, rfl⟩
      | true =>
        exact ih (fun ha => h (readsThrough_cons.2 ⟨d'.mode, hx, ha⟩)) he

theorem revBytes_append_of_fault {a : List Byte} (c : List Byte) {f : Dev} :
    ∀ {d : Dev}, revBytes b d a = .error f → revBytes b d (a ++ c) = .error f := by
  induction a with
  | nil => intro d h; cases h
  | cons x a ih =>
    intro d h
    rw [revBytes] at h
    rw [List.cons_append, revBytes]
    cases hr : revByte b d x with
    | error g => rw [hr] at h; exact h
    | ok r =>
      obtain ⟨d', more⟩ := r
      rw [hr] at h
      cases more with
      | false => cases h
      | true => exact ih h

theorem revDataWrFifo_eq {a : List Byte} (h : a.length ≤ 255) : revDataWrFifo b d a = revBytes b d a := by
  rw [revDataWrFifo, u8_eq rfl (by omega), List.take_length]

/-! ## The cut behind a chunk -/

/-- What is received: `framerevpara`, the bytes in the FIFO and the records put into it. -/
def Dev.reception (d : Dev) : FrameRevPara × List Byte × List (List Byte) :=
  (d.framerevpara, d.framerevfifo.contents, d.hist.accepted)

/-- Whatever follows the chunk `a`, the cut between them makes no difference to what is received. -/
def CutFree (b : Build) (d : Dev) (a : List Byte) : Prop :=
  ∀ c, a.length + c.length ≤ 255 →
    (revDataWrFifo b d (a ++ c)).map Dev.reception =
      (revDataWrFifo b d a >>= fun e => revDataWrFifo b e c).map Dev.reception

/-- A lone header byte is counted, so that it shows whether it was read. -/
theorem Idle.revDataWrFifo_header (h : Idle d) :
    revDataWrFifo b d [frameHeader] = .ok (d.setWordstate 1) :=
  (thru_counting (n := 1) (by cases b <;> simp [headNumer]) h).revDataWrFifo (by decide)

/-- **When the cut behind a chunk makes no difference**: exactly if none of its bytes makes
    `RevDataWrFifo` return early, or the chunk has no room for another byte.  Where it faults, it
    does so with the bytes that follow too. -/
theorem cutFree_iff (b : Build) (d : Dev) (a : List Byte) :
    Post (revDataWrFifo b d a) (fun _ => CutFree b d a) fun _ =>
      (CutFree b d a ↔ ReadsThrough b d a ∨ 255 ≤ a.length) := by
  have hcut : ∀ c : List Byte, a.length + c.length ≤ 255 →
      revDataWrFifo b d a = revBytes b d a ∧ revDataWrFifo b d (a ++ c) = revBytes b d (a ++ c) ∧
        ∀ e, revDataWrFifo b e c = revBytes b e c := fun c hc =>
    ⟨revDataWrFifo_eq (by omega), revDataWrFifo_eq (by rw [List.length_append]; exact hc),
      fun e => revDataWrFifo_eq (by omega)⟩
  cases he : revDataWrFifo b d a with
  | error f =>
    intro c hc
    obtain ⟨h₁, h₂, -⟩ := hcut c hc
    rw [h₂, revBytes_append_of_fault c (h₁.symm.trans he), he]
    rfl
  | ok e =>
    constructor
    · intro h
      by_contra hn
      obtain ⟨hr, hl⟩ := not_or.1 hn
      have hc : a.length + [frameHeader].length ≤ 255 := by simp; omega
      obtain ⟨h₁, h₂, -⟩ := hcut _ hc
      obtain ⟨hi, hs⟩ := revBytes_append_of_stop [frameHeader] hr (h₁.symm.trans he)
      have heq := h [frameHeader] hc
      rw [h₂, hs, he] at heq
      change Except.ok e.reception = (revDataWrFifo b e [frameHeader]).map Dev.reception at heq
      rw [hi.revDataWrFifo_header] at heq
      have hw : e.framerevpara.wordstate = 1 :=
        congrArg (fun r => r.1.wordstate) (Except.ok.inj heq)
      rw [hi.wordstate] at hw
      cases hw
    · rintro (hr | hl) c hc
      · obtain ⟨h₁, h₂, h₃⟩ := hcut c hc
        rw [h₂, revBytes_append_of_through c hr, ← h₁]
        simp only [h₃]
      · obtain rfl : c = [] := List.eq_nil_of_length_eq_zero (by omega)
        rw [List.append_nil, he]
        rfl

/-- A stray byte before a frame, in one chunk with it or not. -/
theorem stray_byte_cuts :
    ¬ ∀ (d : Dev) (a c : List Byte), a.length + c.length ≤ 255 →
      (revDataWrFifo .old d (a ++ c)).map Dev.reception =
        (revDataWrFifo .old d a >>= fun e => revDataWrFifo .old e c).map Dev.reception := by
  intro h
  have h₁ : revDataWrFifo .old devParaInit [0] = .ok (devParaInit.setWordstate 0) := rfl
  have h₂ : revDataWrFifo .old devParaInit ([0] ++ [frameHeader]) = .ok (devParaInit.setWordstate 0) := rfl
  have hi : Idle (devParaInit.setWordstate 0) := ⟨rfl, rfl⟩
  have heq := h devParaInit [0] [frameHeader] (by decide)
  rw [h₂, h₁] at heq
  change _ = (revDataWrFifo .old (devParaInit.setWordstate 0) [frameHeader]).map Dev.reception at heq
  rw [hi.revDataWrFifo_header] at heq
  cases heq

end

end MxchipSpp
