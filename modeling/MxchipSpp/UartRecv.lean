/-
  The UART thread (UartRecv.c).

  A turn of its loop asks how many bytes wait in the ring buffer of the driver,
  calls `FrameHandle`, and reads that many bytes into `inDataBuffer`, which has
  256.  Bytes may arrive between any two statements, and the timers and the
  network run beside it.
-/
import MxchipSpp.Chunks

namespace MxchipSpp

open Memory Outcome

/-! ## The thread -/

abbrev uartOnePackageLength : ℕ := 256

/-- The statement of the loop that comes next; `recvlen` is the variable. -/
inductive UartPc where
  | getLengthInBuffer
  | frameHandle (recvlen : ℕ)
  | uartRecv (recvlen : ℕ)

/-- The thread, the ring buffer of the driver and the device side; `received` and `processed` are
    history variables: the bytes that arrived, and those the loop of `RevDataWrFifo` took. -/
structure UartThread where
  dev : Dev
  pc : UartPc
  inDataBuffer : Block Byte uartOnePackageLength
  ring : List Byte
  received : List Byte
  processed : List Byte

/-- A statement of the thread, bytes that arrive, or a step beside the thread. -/
inductive UartEvent where
  | next (ok₁ ok₂ : Bool)
  | arrive (data : List Byte)
  | revTimerUp
  | sendTimerUp
  | timerTest
  | dataDownWr (data : List Byte)

/-- The bytes that the loop of `RevDataWrFifo` takes, up to one at which it returns. -/
def revTaken (b : Build) : Dev → List Byte → List Byte
  | _, [] => []
  | d, x :: xs =>
    x :: match revByte b d x with
      | .ok (e, true) => revTaken b e xs
      | _ => []

/-- The next statement of `uartRecv_thread`; `none` is an access out of bounds. -/
def UartThread.next (t : UartThread) (ok₁ ok₂ : Bool) : Option UartThread :=
  match t.pc with
  | .getLengthInBuffer => some { t with pc := .frameHandle t.ring.length }
  | .frameHandle recvlen => do
    let dev ← (frameHandle .old ok₁ ok₂ t.dev).toOption
    return { t with dev, pc := if recvlen ≤ 0 then .getLengthInBuffer else .uartRecv recvlen }
  | .uartRecv recvlen => do
    let inDataBuffer ← t.inDataBuffer.write 0 (t.ring.take recvlen)
    let data ← inDataBuffer.slice 0 recvlen
    let dev ← (revDataWrFifo .old t.dev data).toOption
    return { t with
      dev
      pc := .getLengthInBuffer
      inDataBuffer
      ring := t.ring.drop recvlen
      processed := t.processed ++ revTaken .old t.dev (data.take (u8 data.length)) }

def UartThread.step (t : UartThread) : UartEvent → Option UartThread
  | .next ok₁ ok₂ => t.next ok₁ ok₂
  | .arrive data => some { t with ring := t.ring ++ data, received := t.received ++ data }
  | .revTimerUp => some { t with dev := MxchipSpp.revTimerUp t.dev }
  | .sendTimerUp => some { t with dev := MxchipSpp.sendTimerUp t.dev }
  | .timerTest => some { t with dev := MxchipSpp.timerTest t.dev }
  | .dataDownWr data => some { t with dev := (MxchipSpp.dataDownWr t.dev data).1 }

/-- The thread before its loop. -/
def uartRecvThread : UartThread where
  dev := devParaInit
  pc := .getLengthInBuffer
  inDataBuffer := .fill _ 0
  ring := []
  received := []
  processed := []

/-- The call of `MicoUartRecv` that the step makes, if it does: for `recvlen` bytes. -/
def UartThread.Reads (t : UartThread) (ev : UartEvent) (recvlen : ℕ) : Prop :=
  (∃ ok₁ ok₂, ev = .next ok₁ ok₂) ∧ t.pc = .uartRecv recvlen

/-- The step reads at most 256 bytes into `inDataBuffer`, and after it all bytes received are processed or
    still wait. -/
structure KeepsBytes (t : UartThread) (ev : UartEvent) : Prop where
  fits : ∀ recvlen, t.Reads ev recvlen → recvlen ≤ uartOnePackageLength
  kept : ∀ t', t.step ev = some t' → t'.processed ++ t'.ring = t'.received

/-- The step reads at most 255 bytes, and if `RevDataWrFifo` returns at one of them, then at the
    last. -/
def ReadsPackage (t : UartThread) (ev : UartEvent) : Prop :=
  ∀ recvlen, t.Reads ev recvlen → recvlen ≤ 255 ∧
    ((t.step ev).isSome → ReadsThrough .old t.dev (t.ring.take recvlen).dropLast)

/-- What holds in every state of a run that has kept its bytes. -/
structure UartInv (t : UartThread) : Prop where
  kept : t.processed ++ t.ring = t.received
  waiting : ∀ recvlen, t.pc = .frameHandle recvlen ∨ t.pc = .uartRecv recvlen →
    recvlen ≤ t.ring.length

section
variable {b : Build} {d e : Dev} {t t' : UartThread} {ev : UartEvent} {recvlen : ℕ}

/-! ## The bytes taken -/

/-- **When `RevDataWrFifo` takes all bytes**: it may return at the last of them. -/
theorem revTaken_eq_iff (xs : List Byte) : ∀ {d : Dev}, revBytes b d xs = .ok e →
    (revTaken b d xs = xs ↔ ReadsThrough b d xs.dropLast) := by
  induction xs with
  | nil => exact fun _ => ⟨fun _ => rfl, fun _ => rfl⟩
  | cons x xs ih =>
    intro d he
    obtain ⟨⟨d', more⟩, hb, he⟩ := exists_of_bind_eq_ok he
    have hmode := revByte_mode b d x
    rw [hb] at hmode
    rw [revTaken, hb, List.cons.injEq]
    cases xs with
    | nil =>
      refine ⟨fun _ => rfl, fun _ => ⟨rfl, ?_⟩⟩
      cases more <;> rfl
    | cons y ys =>
      rw [List.dropLast_cons_cons, readsThrough_cons]
      cases more with
      | false =>
        refine ⟨fun h => absurd h.2.symm (List.cons_ne_nil _ _), fun ⟨m, hm, _⟩ => ?_⟩
        rw [hmode.1] at hm
        cases hm
      | true =>
        have hnext : revNext b d.mode x = some d'.mode := hmode
        rw [hnext]
        have hi := ih (d := d') he
        exact ⟨fun h => ⟨_, rfl, hi.1 h.2⟩, fun ⟨m, hm, h⟩ => ⟨rfl, hi.2 (by
          cases hm; exact h)⟩⟩

/-- The length 256 is 0 in a `u8`. -/
theorem revDataWrFifo_wrapped {data : List Byte} (h : data.length = 256) :
    revDataWrFifo b d data = .ok d := by
  have hu : u8 (256 : ℕ) = 0 := by decide
  rw [revDataWrFifo, h, hu]
  rfl

/-! ## One step -/

/-- A turn that reads no more than the buffer holds. -/
theorem next_uartRecv (hpc : t.pc = .uartRecv recvlen) (hn : recvlen ≤ t.ring.length)
    (h : recvlen ≤ uartOnePackageLength) (ok₁ ok₂ : Bool) :
    ∃ inDataBuffer, t.next ok₁ ok₂ =
      (revDataWrFifo .old t.dev (t.ring.take recvlen)).toOption.map fun dev =>
        { t with
          dev
          pc := .getLengthInBuffer
          inDataBuffer
          ring := t.ring.drop recvlen
          processed := t.processed ++ revTaken .old t.dev ((t.ring.take recvlen).take (u8 recvlen)) } := by
  have hl : (t.ring.take recvlen).length = recvlen := by rw [List.length_take]; omega
  have hw : 0 + (t.ring.take recvlen).length ≤ uartOnePackageLength := by rw [hl]; omega
  have hs : (t.inDataBuffer.put 0 (t.ring.take recvlen) hw).slice 0 recvlen =
      some (t.ring.take recvlen) := by
    rw [Block.slice_of_le _ (by omega), Block.cells_put_zero, List.drop_zero, List.take_left' hl]
  refine ⟨t.inDataBuffer.put 0 (t.ring.take recvlen) hw, ?_⟩
  rw [UartThread.next, hpc]
  simp only [Block.write_of_le _ hw, hs, Option.bind_eq_bind, Option.bind_some, hl]
  rw [Option.map_eq_bind]
  rfl

/-- A step that does not read leaves what is processed, and what waits with what arrives. -/
theorem kept_of_not_reads (hinv : UartInv t) (hr : ∀ recvlen, ¬ t.Reads ev recvlen)
    (h : t.step ev = some t') : UartInv t' := by
  cases ev with
  | next ok₁ ok₂ =>
    change t.next ok₁ ok₂ = some t' at h
    cases hpc : t.pc with
    | getLengthInBuffer =>
      rw [UartThread.next, hpc] at h
      cases h
      exact ⟨hinv.kept, fun n hn => by rcases hn with hn | hn <;> cases hn; exact le_rfl⟩
    | frameHandle n =>
      rw [UartThread.next, hpc] at h
      obtain ⟨dev, -, h⟩ := Option.bind_eq_some_iff.1 h
      cases h
      refine ⟨hinv.kept, fun m hm => ?_⟩
      change (if n ≤ 0 then UartPc.getLengthInBuffer else .uartRecv n) = _ ∨
        (if n ≤ 0 then UartPc.getLengthInBuffer else .uartRecv n) = _ at hm
      split_ifs at hm <;> rcases hm with hm | hm <;> cases hm
      exact hinv.waiting n (.inl hpc)
    | uartRecv n => exact absurd ⟨⟨ok₁, ok₂, rfl⟩, hpc⟩ (hr n)
  | arrive data =>
    cases h
    refine ⟨?_, fun n hn => (hinv.waiting n hn).trans ?_⟩
    · change t.processed ++ (t.ring ++ data) = t.received ++ data
      rw [← List.append_assoc, hinv.kept]
    · change t.ring.length ≤ (t.ring ++ data).length
      rw [List.length_append]
      exact Nat.le_add_right _ _
  | revTimerUp | sendTimerUp | timerTest | dataDownWr data =>
    cases h
    exact ⟨hinv.kept, hinv.waiting⟩

/-- **What a turn that reads keeps.** -/
theorem kept_uartRecv_iff (hinv : UartInv t) (hpc : t.pc = .uartRecv recvlen) (ok₁ ok₂ : Bool) :
    KeepsBytes t (.next ok₁ ok₂) ↔ ReadsPackage t (.next ok₁ ok₂) := by
  have hn := hinv.waiting recvlen (.inr hpc)
  have hreads : ∀ n, t.Reads (.next ok₁ ok₂) n ↔ n = recvlen := by
    intro n
    rw [UartThread.Reads, hpc, UartPc.uartRecv.injEq]
    exact ⟨fun h => h.2.symm, fun h => ⟨⟨ok₁, ok₂, rfl⟩, h.symm⟩⟩
  have hlen : (t.ring.take recvlen).length = recvlen := by rw [List.length_take]; omega
  -- nothing is lost exactly if all that was read was taken
  have hkept : ∀ l : List Byte, (t.processed ++ l) ++ t.ring.drop recvlen = t.received ↔
      l = t.ring.take recvlen := by
    intro l
    have hsplit := congrArg (t.processed ++ ·) (List.take_append_drop recvlen t.ring)
    rw [← hinv.kept, ← hsplit, List.append_assoc, List.append_cancel_left_eq,
      List.append_cancel_right_eq]
  constructor
  · rintro ⟨hfits, hk⟩ n hr
    obtain rfl := (hreads n).1 hr
    have h₂₅₆ : n ≤ 256 := hfits n hr
    obtain ⟨buf, hnext⟩ := next_uartRecv hpc hn h₂₅₆ ok₁ ok₂
    have h₂₅₅ : n ≤ 255 := by
      by_contra hc
      obtain rfl : n = 256 := by omega
      have hu : u8 (256 : ℕ) = 0 := by decide
      rw [revDataWrFifo_wrapped hlen, hu] at hnext
      have := congrArg List.length ((hkept _).1 (hk _ hnext))
      rw [hlen] at this
      cases this
    refine ⟨h₂₅₅, fun hs => ?_⟩
    obtain ⟨t', ht'⟩ := Option.isSome_iff_exists.1 hs
    have hk' := hk t' ht'
    change t.next ok₁ ok₂ = some t' at ht'
    rw [hnext] at ht'
    obtain ⟨dev, hdev, rfl⟩ := Option.map_eq_some_iff.1 ht'
    rw [u8_eq rfl (by omega), List.take_of_length_le (l := t.ring.take n) hlen.le] at hk'
    have hrev := (revDataWrFifo_eq (by omega)).symm.trans (eq_ok_of_toOption hdev)
    exact (revTaken_eq_iff _ hrev).1 ((hkept _).1 hk')
  · intro hp
    obtain ⟨h₂₅₅, hthrough⟩ := hp recvlen ((hreads recvlen).2 rfl)
    refine ⟨fun n hr => ?_, fun t' ht' => ?_⟩
    · obtain rfl := (hreads n).1 hr
      exact h₂₅₅.trans (by decide)
    · have hth := hthrough (by rw [ht']; rfl)
      obtain ⟨buf, hnext⟩ := next_uartRecv hpc hn (h₂₅₅.trans (by decide)) ok₁ ok₂
      change t.next ok₁ ok₂ = some t' at ht'
      rw [hnext] at ht'
      obtain ⟨dev, hdev, rfl⟩ := Option.map_eq_some_iff.1 ht'
      have hrev := (revDataWrFifo_eq (by omega)).symm.trans (eq_ok_of_toOption hdev)
      rw [u8_eq rfl (by omega), List.take_of_length_le (l := t.ring.take recvlen) hlen.le]
      exact (hkept _).2 ((revTaken_eq_iff _ hrev).2 hth)

theorem keepsBytes_iff (hinv : UartInv t) (ev : UartEvent) : KeepsBytes t ev ↔ ReadsPackage t ev := by
  by_cases hr : ∃ recvlen, t.Reads ev recvlen
  · obtain ⟨recvlen, ⟨ok₁, ok₂, rfl⟩, hpc⟩ := hr
    exact kept_uartRecv_iff hinv hpc ok₁ ok₂
  · have hr' : ∀ recvlen, ¬ t.Reads ev recvlen := fun n hn => hr ⟨n, hn⟩
    exact ⟨fun _ n hn => absurd hn (hr' n),
      fun _ => ⟨fun n hn => absurd hn (hr' n), fun _ h => (kept_of_not_reads hinv hr' h).kept⟩⟩

theorem UartInv.step (hinv : UartInv t) (hk : KeepsBytes t ev) (h : t.step ev = some t') :
    UartInv t' := by
  by_cases hr : ∃ recvlen, t.Reads ev recvlen
  · obtain ⟨recvlen, ⟨ok₁, ok₂, rfl⟩, hpc⟩ := hr
    obtain ⟨buf, hnext⟩ := next_uartRecv hpc (hinv.waiting recvlen (.inr hpc))
      (hk.fits recvlen ⟨⟨ok₁, ok₂, rfl⟩, hpc⟩) ok₁ ok₂
    refine ⟨hk.kept t' h, fun n hn => ?_⟩
    change t.next ok₁ ok₂ = some t' at h
    rw [hnext] at h
    obtain ⟨dev, -, rfl⟩ := Option.map_eq_some_iff.1 h
    rcases hn with hn | hn <;> cases hn
  · exact kept_of_not_reads hinv (fun n hn => hr ⟨n, hn⟩) h

/-- **When the thread keeps its bytes.**  Each turn of a run stays in `inDataBuffer`, and all bytes
    received are processed or still wait, exactly if each turn finds at most 255 bytes waiting and
    `RevDataWrFifo` returns at none of them before the last. -/
theorem keepsBytes_run_iff {evs : List UartEvent} :
    Along UartThread.step KeepsBytes uartRecvThread evs ↔
      Along UartThread.step ReadsPackage uartRecvThread evs :=
  (Along.iff (fun _ ev ht => (keepsBytes_iff ht ev).symm) (fun _ _ _ ht hk h => ht.step hk h)
    ⟨rfl, fun _ h => by rcases h with h | h <;> cases h⟩).symm

end

/-- Bytes that arrive together before the first turn of the thread. -/
def burst (data : List Byte) : List UartEvent :=
  [.arrive data, .next true true, .next true true, .next true true]

theorem keepsBytes_burst {data : List Byte} (hne : 0 < data.length)
    (h : Along UartThread.step KeepsBytes uartRecvThread (burst data)) :
    KeepsBytes { uartRecvThread with
      pc := .uartRecv data.length
      ring := data
      received := data } (.next true true) := by
  have hframe : frameHandle .old true true devParaInit = .ok devParaInit := rfl
  have hstep : UartThread.step { uartRecvThread with
      pc := .frameHandle data.length
      ring := data
      received := data } (.next true true) = some { uartRecvThread with
        pc := .uartRecv data.length
        ring := data
        received := data } := by
    simp only [UartThread.step, UartThread.next, uartRecvThread, hframe, Except.toOption,
      Option.bind_eq_bind, Option.bind_some, if_neg (Nat.not_le.2 hne)]
    rfl
  exact (((h.2 _ rfl).2 _ rfl).2 _ hstep).1

/-- Of 256 bytes that wait none is processed, as their number is 0 in a `u8`; more are read into a
    buffer of 256. -/
theorem not_keepsBytes_burst {data : List Byte} (hd : 256 ≤ data.length) :
    ¬ Along UartThread.step KeepsBytes uartRecvThread (burst data) := by
  intro h
  have hk := keepsBytes_burst (by omega) h
  have hle : data.length ≤ 256 := hk.fits data.length ⟨⟨_, _, rfl⟩, rfl⟩
  have hlen : data.length = 256 := le_antisymm hle hd
  obtain ⟨buf, hnext⟩ := next_uartRecv (t := { uartRecvThread with
    pc := .uartRecv data.length
    ring := data
    received := data }) rfl le_rfl hle true true
  rw [revDataWrFifo_wrapped (by rw [List.take_length]; exact hlen)] at hnext
  have hu : u8 data.length = 0 := by rw [hlen]; decide
  have hkept := congrArg List.length (hk.kept _ hnext)
  change ([] ++ revTaken _ _ ((data.take data.length).take (u8 data.length)) ++
    data.drop data.length).length = data.length at hkept
  rw [hu, List.drop_length, hlen] at hkept
  cases hkept

theorem burst_lost :
    ¬ Along UartThread.step KeepsBytes uartRecvThread (burst (List.replicate 256 frameHeader)) ∧
      ¬ Along UartThread.step KeepsBytes uartRecvThread (burst (List.replicate 300 frameHeader)) :=
  ⟨not_keepsBytes_burst (by rw [List.length_replicate]),
    not_keepsBytes_burst (by rw [List.length_replicate]; decide)⟩

end MxchipSpp
