/-
  What closes a frame.

  `RevTimerHandle` handles a frame if `framerevtimer.state` is raised.
  `RevDataWrFifo` restarts the timer, but leaves a state raised before, so that
  the silence before the bytes then cuts the frame the bytes belong to.
-/
import MxchipSpp.Stream

namespace MxchipSpp

open Memory Outcome

/-! ## Silence -/

/-- The receive timer expired after the last bytes came. -/
def Silence (evs : List DevEvent) : Prop :=
  ∃ pre post, evs = pre ++ .revTimerUp :: post ∧ ∀ data, .rev data ∉ post

section
variable {evs : List DevEvent} {ev : DevEvent}

theorem silence_revTimerUp : Silence (evs ++ [.revTimerUp]) := ⟨evs, [], rfl, by simp⟩

theorem Silence.append (h : Silence evs) (hev : ∀ data, ev ≠ .rev data) : Silence (evs ++ [ev]) := by
  obtain ⟨pre, post, rfl, hpost⟩ := h
  refine ⟨pre, post ++ [ev], by simp, fun data hmem => ?_⟩
  rcases List.mem_append.1 hmem with hmem | hmem
  · exact hpost data hmem
  · exact hev data (List.mem_singleton.1 hmem).symm

theorem not_silence_rev (data : List Byte) : ¬ Silence (evs ++ [.rev data]) := by
  rintro ⟨pre, post, heq, hpost⟩
  rcases List.eq_nil_or_concat post with rfl | ⟨post, ev, rfl⟩
  · obtain ⟨-, hev⟩ := List.append_inj' heq rfl
    cases hev
  · rw [List.concat_eq_append, ← List.cons_append, ← List.append_assoc] at heq
    obtain ⟨-, hev⟩ := List.append_inj' heq rfl
    exact hpost data (by simp [(List.cons.inj hev).1])

end

/-! ## The state of the receive timer -/

section
variable {b : Build} {d e : Dev} {ev : DevEvent}

theorem framerevtimer_revByte (x : Byte) : Post (revByte b d x) (fun _ => True) fun r =>
    r.1.framerevtimer = d.framerevtimer := by
  unfold revByte
  cases d.framerevpara.datastate with
  | revHead => simp only; split_ifs <;> rfl
  | revData =>
    simp only
    split_ifs
    · exact (frameCall_frameDataHandle.mono (fun _ _ => trivial) fun e he => he.1).bind
        fun e he => he.framerevtimer
    all_goals rfl

theorem framerevtimer_revBytes (xs : List Byte) : ∀ {d : Dev},
    Post (revBytes b d xs) (fun _ => True) fun e => e.framerevtimer = d.framerevtimer := by
  induction xs with
  | nil => exact rfl
  | cons x xs ih =>
    intro d
    refine (framerevtimer_revByte x).bind fun r hr => ?_
    obtain ⟨e, more⟩ := r
    cases more
    · exact hr
    · exact ih.mono (fun _ _ => trivial) fun f hf => hf.trans hr

theorem framerevtimer_rev (data : List Byte) :
    Post (step b d (.rev data)) (fun _ => True) fun e => e.framerevtimer = d.framerevtimer :=
  framerevtimer_revBytes _

/-- What a step that neither raises the state nor handles a frame leaves alone. -/
def Dev.timing (d : Dev) : Bool × List FdhCall := (d.framerevtimer, d.hist.calls)

theorem SendStep.timing (h : SendStep d e) : e.timing = d.timing := by
  rw [h]; rfl

theorem TakeStep.timing (h : TakeStep d e) : e.timing = d.timing := by
  rw [h.rest]; rfl

theorem timing_part (hrev : ∀ data, ev ≠ .rev data) (hup : ev ≠ .revTimerUp)
    (hframe : ∀ ok₁ ok₂, ev ≠ .frameHandle ok₁ ok₂) (hd : d.framerevtimer = false) :
    Post (step b d ev) (fun e => e.timing = d.timing) fun e => e.timing = d.timing := by
  cases ev with
  | rev data => exact absurd rfl (hrev data)
  | revTimerUp => exact absurd rfl hup
  | sendTimerUp => rfl
  | timerTest => exact sendStep_timerTest.timing
  | dataDownWr data => exact (sendStep_dataDownWr data).timing
  | dataupHandle => exact takeStep_dataupHandle.timing
  | revCmdHandle => exact takeStep_revCmdHandle.mono (fun _ h => h.timing) fun _ h => h.timing
  | revTimerHandle =>
    rw [step, revTimerHandle, if_neg (by rw [hd]; decide)]
    rfl
  | sendTimerHandle ok => exact post_orFault rfl fun _ h => (sendStep_sendTimerHandle h).timing
  | datadownHandle ok => exact post_orFault rfl fun _ h => (sendStep_datadownHandle h).timing
  | sendCmdHandle => exact sendStep_sendCmdHandle.timing
  | frameHandle ok₁ ok₂ => exact absurd rfl (hframe ok₁ ok₂)

/-- While the state is not raised no frame is handled, but for one that `RevDataWrFifo` ends. -/
theorem timing_step (hrev : ∀ data, ev ≠ .rev data) (hup : ev ≠ .revTimerUp)
    (hd : d.framerevtimer = false) :
    Post (step b d ev) (fun e => e.timing = d.timing) fun e => e.timing = d.timing := by
  by_cases hf : ∃ ok₁ ok₂, ev = .frameHandle ok₁ ok₂
  · obtain ⟨ok₁, ok₂, rfl⟩ := hf
    rw [step, frameHandle_eq_run]
    refine Post.foldlM (I := fun e : Dev => e.timing = d.timing) (fun ev hev e he => ?_) rfl
    have hd' : e.framerevtimer = false := (congrArg Prod.fst he).trans hd
    obtain ⟨hrev', hup', hframe'⟩ := ne_of_mem_frameHandleParts hev
    exact (timing_part hrev' hup' hframe' hd').mono (fun _ h => h.trans he) fun _ h => h.trans he
  · exact timing_part hrev hup (fun ok₁ ok₂ h => hf ⟨ok₁, ok₂, h⟩) hd

end

/-! ## Frames that `RevTimerHandle` closes -/

/-- The step calls `FrameDataHandle`, from `RevTimerHandle`. -/
def Closes (b : Build) (d : Dev) (ev : DevEvent) : Prop :=
  (∀ data, ev ≠ .rev data) ∧ (last (step b d ev)).hist.calls ≠ d.hist.calls

section
variable {b : Build} {d : Dev} {ev : DevEvent}

theorem Closes.framerevtimer (h : Closes b d ev) : d.framerevtimer = true := by
  by_contra hd
  refine h.2 ?_
  by_cases hup : ev = .revTimerUp
  · subst hup; rfl
  · have := (timing_step (b := b) h.1 hup (Bool.not_eq_true _ ▸ hd)).last
    exact congrArg Prod.snd this

theorem FrameCall.calls_ne {d e : Dev} (h : FrameCall d e) : e.hist.calls ≠ d.hist.calls := by
  obtain ⟨e', after, he', rfl⟩ := h
  have hc : e'.hist.calls = d.hist.calls := by rw [he']
  simp [Dev.noteCall, hc]

theorem closes_revTimerHandle (h : d.framerevtimer = true) : Closes b d .revTimerHandle := by
  refine ⟨fun _ => nofun, ?_⟩
  have hcall := (frameCall_frameDataHandle (b := b) (d := d.clearRevTimer)).mono
    (fun _ he => he.calls_ne) fun _ he => he.1.calls_ne
  rw [step, revTimerHandle, if_pos h]
  exact hcall.last

end

/-! ## Runs -/

/-- **One step.**  It keeps the state raised by silence only, unless it is bytes that come while
    the state is raised. -/
theorem silence_step {b : Build} {d e : Dev} {ev : DevEvent} {evs : List DevEvent}
    (h : d.framerevtimer = true → Silence evs) (he : step b d ev = .ok e) :
    (e.framerevtimer = true → Silence (evs ++ [ev])) ↔
      ∀ data, ev = .rev data → d.framerevtimer = false := by
  by_cases hrev : ∃ data, ev = .rev data
  · obtain ⟨data, rfl⟩ := hrev
    have ht := (framerevtimer_rev data).of_ok he
    constructor
    · intro hs _ _
      by_contra hd
      exact not_silence_rev data (hs (ht.trans (by simpa using hd)))
    · intro hd hraised
      rw [ht, hd data rfl] at hraised
      cases hraised
  · have hne : ∀ data, ev ≠ .rev data := fun data hev => hrev ⟨data, hev⟩
    refine ⟨fun _ data hev => absurd hev (hne data), fun _ hraised => ?_⟩
    by_cases hup : ev = .revTimerUp
    · subst hup; exact silence_revTimerUp
    · -- what raised the state is still the last expiry
      refine (h ?_).append hne
      by_contra hd
      have hkeep := (timing_step (b := b) hne hup (by simpa using hd)).of_ok he
      exact hd ((congrArg Prod.fst hkeep).symm.trans hraised)

/-- All states of a run are raised by silence only exactly if no bytes come in a raised one. -/
theorem raised_by_silence_iff (b : Build) (evs : List DevEvent) :
    (∀ n d, run b devParaInit (evs.take n) = .ok d → d.framerevtimer = true → Silence (evs.take n)) ↔
      ∀ n ev d e, evs[n]? = some ev → run b devParaInit (evs.take n) = .ok d →
        step b d ev = .ok e → ∀ data, ev = .rev data → d.framerevtimer = false := by
  have h₀ : devParaInit.framerevtimer = true → Silence [] := fun h => by cases h
  exact prefixes_iff (I := fun evs d => d.framerevtimer = true → Silence evs) (f := step b) h₀
    fun _ _ _ _ _ h he => silence_step h he

/-- **A frame is closed by silence only**, in every state of a run and whatever step comes next,
    exactly if no bytes come in while the state of the receive timer is raised. -/
theorem closed_by_silence_iff (b : Build) (evs : List DevEvent) :
    (∀ n d ev, run b devParaInit (evs.take n) = .ok d → Closes b d ev → Silence (evs.take n)) ↔
      ∀ n data d e, evs[n]? = some (.rev data) → run b devParaInit (evs.take n) = .ok d →
        step b d (.rev data) = .ok e → d.framerevtimer = false := by
  constructor
  · intro h n data d e hev hd he
    exact (raised_by_silence_iff b evs).1
      (fun n d hd ht => h n d _ hd (closes_revTimerHandle ht)) n _ d e hev hd he data rfl
  · intro h n d ev hd hc
    refine (raised_by_silence_iff b evs).2 (fun n ev d e hev hd he data hdata => ?_) n d hd
      hc.framerevtimer
    subst hdata
    exact h n data d e hev hd he

/-- The timer expires behind one frame, and the first bytes of the next come before `FrameHandle`
    is called again. -/
theorem stale_expiry_closes :
    ¬ ∀ n d ev, run .old devParaInit
        (([.revTimerUp, .rev [0xF5, 0xF5, 0xF5, 0xF5, 1]] : List DevEvent).take n) = .ok d →
      Closes .old d ev →
      Silence (([.revTimerUp, .rev [0xF5, 0xF5, 0xF5, 0xF5, 1]] : List DevEvent).take n) := by
  intro h
  obtain ⟨e, hthru, -⟩ := thru_frame (b := .old) (d := revTimerUp devParaInit) ⟨rfl, rfl⟩
    (f := [0xF5, 0xF5, 0xF5, 0xF5, 1]) rfl (by decide) (by decide)
  have hrev : step .old (revTimerUp devParaInit) (.rev [0xF5, 0xF5, 0xF5, 0xF5, 1]) = .ok e :=
    hthru.revDataWrFifo (by decide)
  have ht : e.framerevtimer = true := (framerevtimer_rev _).of_ok hrev
  have hrun : run .old devParaInit [.revTimerUp, .rev [0xF5, 0xF5, 0xF5, 0xF5, 1]] = .ok e := by
    rw [run_cons_ok (show step .old devParaInit .revTimerUp = .ok (revTimerUp devParaInit) from rfl),
      run_cons_ok hrev]
    rfl
  have hs : Silence ([.revTimerUp] ++ [.rev [0xF5, 0xF5, 0xF5, 0xF5, 1]]) :=
    h 2 e _ hrun (closes_revTimerHandle ht)
  exact not_silence_rev _ hs

end MxchipSpp
