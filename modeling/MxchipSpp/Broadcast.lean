/-
  What one client gets of the data passed on to all of them.

  From the call that registers its queue on, what a client pops and what is
  still in its queue are the messages that were offered, in order, without
  those for which there was no memory and those that came while its own queue
  was full.  The other clients do not occur in this.
-/
import MxchipSpp.Sharing

namespace MxchipSpp

open Memory RefCount Outcome

/-! ## Messages -/

/-- What a pointer points to. -/
def Spp.message (s : Spp) (msg : ℕ) : Option SocketData := (objectAt s.heap msg).map Object.body

/-- The messages in a queue. -/
def Spp.waiting (s : Spp) (queue : ℕ) : List SocketData := (s.queue queue).filterMap s.message

/-- The message a call of `sppUartCommandProcess` is about. -/
def SppEvent.offered : SppEvent → Option SocketData
  | .uart inBuf _ => some ⟨inBuf.length, inBuf⟩
  | _ => none

/-- The message is allocated: the budget is not exceeded, and there is memory. -/
def Admitted (s : Spp) (malloc : Bool) : Prop := ¬ maxSockMsgLen < s.sockmsgLen ∧ malloc = true

/-- There is room in a queue. -/
def Room (s : Spp) (queue : ℕ) : Prop := (s.queue queue).length < maxQueueLength

instance decidableAdmitted (s : Spp) (malloc : Bool) : Decidable (Admitted s malloc) :=
  inferInstanceAs (Decidable (_ ∧ _))

instance decidableRoom (s : Spp) (queue : ℕ) : Decidable (Room s queue) :=
  inferInstanceAs (Decidable (_ < _))

/-- The message offered, if it is admitted and the queue has room. -/
def SppEvent.kept (queue : ℕ) (s : Spp) : SppEvent → Option SocketData
  | .uart inBuf malloc =>
    if Admitted s malloc ∧ Room s queue then some ⟨inBuf.length, inBuf⟩ else none
  | _ => none

/-- The message a client pops, with what is in it then. -/
def SppEvent.popped (queue : ℕ) (s : Spp) : SppEvent → Option SocketData
  | .pop queue' => if queue' = queue then (s.queue queue).head?.bind s.message else none
  | _ => none

theorem kept_eq_offered {queue : ℕ} {s : Spp} {e : SppEvent} {m : SocketData}
    (h : e.kept queue s = some m) : e.offered = some m := by
  cases e with
  | uart inBuf malloc =>
    rw [SppEvent.kept] at h
    split_ifs at h
    exact h
  | create | delete | pop | free => cases h

/-- What is kept in a run is some of what is offered, in order and each once. -/
theorem trace_kept_sublist (queue : ℕ) (evs : List SppEvent) : ∀ s : Spp,
    (trace Spp.step (fun s e => e.kept queue s) s evs).Sublist (evs.filterMap SppEvent.offered) := by
  induction evs with
  | nil => exact fun _ => .slnil
  | cons e evs ih =>
    intro s
    have htail : ((s.step e).elim [] fun s' =>
        trace Spp.step (fun s e => e.kept queue s) s' evs).Sublist
          (evs.filterMap SppEvent.offered) := by
      cases s.step e with
      | none => exact List.nil_sublist _
      | some s' => exact ih s'
    rw [trace]
    cases hk : e.kept queue s with
    | none => exact htail.trans ((List.sublist_cons_self e evs).filterMap _)
    | some m =>
      rw [List.filterMap_cons_some (kept_eq_offered hk)]
      exact htail.cons_cons m

/-! ## The calls and the messages -/

section
variable {s s' : Spp} {msg q : ℕ}

theorem keeps_socketMsgTake (h : socketMsgTake s msg = some s') : Keeps s.heap s'.heap := by
  obtain ⟨heap, ht, rfl⟩ := Option.map_eq_some_iff.1 h
  exact keeps_take ht

theorem keeps_socketMsgFree (h : socketMsgFree s msg = some s') : Keeps s.heap s'.heap := by
  obtain ⟨r, hr, rfl⟩ := Option.map_eq_some_iff.1 h
  exact keeps_release hr

theorem sameClients_socketMsgTake (h : socketMsgTake s msg = some s') : SameClients s s' := by
  obtain ⟨heap, -, rfl⟩ := Option.map_eq_some_iff.1 h
  exact ⟨rfl, rfl, rfl⟩

theorem sameClients_socketMsgFree (h : socketMsgFree s msg = some s') : SameClients s s' := by
  obtain ⟨r, -, rfl⟩ := Option.map_eq_some_iff.1 h
  exact ⟨rfl, rfl, rfl⟩

/-- What is freed one by one leaves the queues. -/
theorem keeps_freeAll {l : List ℕ} : ∀ {s : Spp}, l.foldlM socketMsgFree s = some s' →
    Keeps s.heap s'.heap ∧ SameClients s s' := by
  induction l with
  | nil => rintro s h; cases h; exact ⟨.refl _, rfl, rfl, rfl⟩
  | cons msg l ih =>
    intro s h
    rw [List.foldlM_cons, Option.bind_eq_bind, Option.bind_eq_some_iff] at h
    obtain ⟨s₁, h₁, h⟩ := h
    obtain ⟨hk, hout, hqueue, hpop⟩ := ih h
    obtain ⟨hout₁, hqueue₁, hpop₁⟩ := sameClients_socketMsgFree h₁
    exact ⟨(keeps_socketMsgFree h₁).trans hk, hout.trans hout₁, hqueue.trans hqueue₁,
      hpop.trans hpop₁⟩

/-- A queue after a message was offered to it. -/
def pushed (msg : ℕ) (l : List ℕ) : List ℕ := if l.length < maxQueueLength then l ++ [msg] else l

/-- One client: its own queue takes the message or is full. -/
theorem queueMsg_spec (h : queueMsg msg s (some q) = some s') :
    Keeps s.heap s'.heap ∧ s'.socketOutQueue = s.socketOutQueue ∧
      s'.queue = Function.update s.queue q (pushed msg (s.queue q)) := by
  simp only [queueMsg, Option.bind_eq_bind, Option.bind_eq_some_iff] at h
  obtain ⟨s₁, ht, h⟩ := h
  obtain ⟨hout, hqueue, -⟩ := sameClients_socketMsgTake ht
  have hk := keeps_socketMsgTake ht
  rw [pushToQueue, hqueue] at h
  by_cases hlen : (s.queue q).length < maxQueueLength
  · rw [if_pos hlen] at h
    cases h
    exact ⟨hk, hout, by rw [pushed, if_pos hlen]⟩
  · rw [if_neg hlen] at h
    obtain ⟨hout', hqueue', -⟩ := sameClients_socketMsgFree h
    refine ⟨hk.trans (keeps_socketMsgFree h), hout'.trans hout, ?_⟩
    rw [hqueue', hqueue, pushed, if_neg hlen, Function.update_eq_self]

/-- All clients: each queue that is in the slots, once, is offered the message, and no other. -/
theorem queueMsgs_spec {slots : List (Option ℕ)} : ∀ {s : Spp}, (slots.filterMap id).Nodup →
    slots.foldlM (queueMsg msg) s = some s' →
    Keeps s.heap s'.heap ∧ s'.socketOutQueue = s.socketOutQueue ∧
      ∀ q, s'.queue q = if q ∈ slots.filterMap id then pushed msg (s.queue q) else s.queue q := by
  induction slots with
  | nil => rintro s - h; cases h; exact ⟨.refl _, rfl, fun q => by simp⟩
  | cons slot slots ih =>
    intro s hn h
    rw [List.foldlM_cons, Option.bind_eq_bind, Option.bind_eq_some_iff] at h
    obtain ⟨s₁, h₁, h⟩ := h
    cases slot with
    | none =>
      cases h₁
      exact ih hn h
    | some q' =>
      obtain ⟨hnq, hn⟩ := List.nodup_cons.1 hn
      obtain ⟨hk₁, hout₁, hqueue₁⟩ := queueMsg_spec h₁
      obtain ⟨hk, hout, hqueue⟩ := ih hn h
      refine ⟨hk₁.trans hk, hout.trans hout₁, fun q => ?_⟩
      rw [hqueue, hqueue₁, List.filterMap_cons_some (show id (some q') = some q' from rfl)]
      by_cases hq : q = q'
      · rw [hq, Function.update_self, if_neg hnq, if_pos List.mem_cons_self]
      · simp only [Function.update_of_ne hq, List.mem_cons, hq, false_or]

/-- With a client there, a message that is admitted goes to every queue that has room. -/
theorem sppUartCommandProcess_spec {malloc : Bool} {inBuf : List Byte} {err : OSStatus}
    (hn : s.queues.Nodup) (hq : q ∈ s.queues)
    (h : sppUartCommandProcess malloc s inBuf = some (err, s')) :
    if Admitted s malloc then
      Keeps (alloc s.heap ⟨inBuf.length, inBuf⟩) s'.heap ∧ s'.socketOutQueue = s.socketOutQueue ∧
        s'.queue q = pushed s.heap.length (s.queue q)
    else s' = s := by
  have hsome : ¬ ∀ p_queue ∈ s.socketOutQueue.cells, p_queue = none := by
    obtain ⟨slot, hslot, hid⟩ := List.mem_filterMap.1 hq
    intro hnone
    rw [hnone slot hslot] at hid
    cases hid
  rw [sppUartCommandProcess, if_neg hsome] at h
  by_cases hmax : maxSockMsgLen < s.sockmsgLen
  · rw [if_pos hmax] at h
    cases h
    rw [if_neg fun ha => ha.1 hmax]
  · rw [if_neg hmax] at h
    cases malloc with
    | false =>
      cases h
      rw [if_neg fun ha => Bool.false_ne_true ha.2]
    | true =>
      rw [if_pos ⟨hmax, rfl⟩]
      simp only [not_true, if_false, Option.bind_eq_bind, Option.bind_eq_some_iff] at h
      obtain ⟨s₁, h₁, s₂, h₂, s₃, h₃, h⟩ := h
      cases h
      obtain ⟨hout₁, hqueue₁, -⟩ := sameClients_socketMsgTake h₁
      rw [hout₁] at h₂
      obtain ⟨hk₂, hout₂, hqueue₂⟩ := queueMsgs_spec hn h₂
      obtain ⟨hout₃, hqueue₃, -⟩ := sameClients_socketMsgFree h₃
      refine ⟨((keeps_socketMsgTake h₁).trans hk₂).trans (keeps_socketMsgFree h₃),
        hout₃.trans (hout₂.trans hout₁), ?_⟩
      rw [hqueue₃, hqueue₂, hqueue₁]
      exact if_pos hq

/-- A new queue takes a free slot, if there is one. -/
theorem socketQueueCreate_other (init : Bool) {queue : ℕ} (hne : q ≠ queue) (hq : q ∈ s.queues) :
    (socketQueueCreate init s queue).2.heap = s.heap ∧ q ∈ (socketQueueCreate init s queue).2.queues ∧
      (socketQueueCreate init s queue).2.queue q = s.queue q := by
  cases init with
  | false => exact ⟨rfl, hq, rfl⟩
  | true =>
    rcases socketQueueCreate_cases s queue with he | ⟨i, hfree, he⟩ <;> rw [he]
    · exact ⟨rfl, hq, Function.update_of_ne hne _ _⟩
    · exact ⟨rfl, (filterMap_set hfree).mem_iff.2 (List.mem_cons_of_mem _ hq),
        Function.update_of_ne hne _ _⟩

/-- The created queue is registered, and empty. -/
theorem socketQueueCreate_own (h : (socketQueueCreate true s q).1 = 0) :
    q ∈ (socketQueueCreate true s q).2.queues ∧ (socketQueueCreate true s q).2.queue q = [] := by
  rcases socketQueueCreate_cases s q with he | ⟨i, hfree, he⟩ <;> rw [he] at h ⊢
  · cases h
  · exact ⟨(filterMap_set hfree).mem_iff.2 List.mem_cons_self, Function.update_self ..⟩

theorem popFromQueue_of_nil (h : s.queue q = []) : popFromQueue s q = s := by
  rw [popFromQueue, h]

theorem popFromQueue_of_cons {rest : List ℕ} (h : s.queue q = msg :: rest) :
    popFromQueue s q =
      { s with queue := Function.update s.queue q rest, popped := msg :: s.popped } := by
  rw [popFromQueue, h]

/-- A client that pops leaves the slots and the messages. -/
theorem popFromQueue_frame (s : Spp) (queue : ℕ) :
    (popFromQueue s queue).queues = s.queues ∧ (popFromQueue s queue).heap = s.heap := by
  rw [popFromQueue]
  split <;> exact ⟨rfl, rfl⟩

/-- A message that a queue or a client still has is the one it was. -/
theorem Shared.filterMap_message (h' : Shared [] s') (hk : Keeps s.heap s'.heap) {l : List ℕ}
    (hl : ∀ msg ∈ l, msg < s.heap.length ∧ msg ∈ s'.refs) :
    l.filterMap s'.message = l.filterMap s.message := by
  refine List.filterMap_congr fun msg hm => ?_
  obtain ⟨hlt, href⟩ := hl msg hm
  obtain ⟨o', ho'⟩ := Option.isSome_iff_exists.1 (h'.counted.held href)
  obtain ⟨o, ho, hbody⟩ := hk.body hlt ho'
  rw [Spp.message, Spp.message, ho, ho', Option.map_some, Option.map_some, hbody]

theorem Shared.mem_refs (hq : q ∈ s.queues) (hm : msg ∈ s.queue q) : msg ∈ s.refs :=
  List.mem_append_left _ (List.mem_flatMap.2 ⟨q, hq, hm⟩)

/-- A call that leaves a queue alone leaves the messages in it. -/
theorem Shared.waiting_eq (h : Shared [] s) (h' : Shared [] s') (hk : Keeps s.heap s'.heap)
    (hq : q ∈ s.queues) (hq' : q ∈ s'.queues) (hqueue : s'.queue q = s.queue q) :
    s'.waiting q = s.waiting q := by
  rw [Spp.waiting, hqueue]
  refine h'.filterMap_message hk fun msg hm => ?_
  exact ⟨h.lt_length (mem_refs hq hm), mem_refs hq' (hqueue ▸ hm)⟩

/-! ## One step, for one client -/

/-- What a step does for a client whose queue is registered: what it pops comes from the front of
    its queue, and what is kept goes to the end of it. -/
structure ClientStep (q : ℕ) (s s' : Spp) (e : SppEvent) : Prop where
  registered : q ∈ s'.queues
  messages : (e.popped q s).toList ++ s'.waiting q = s.waiting q ++ (e.kept q s).toList

/-- The step is not about this client. -/
theorem ClientStep.of_same {e : SppEvent} (h : Shared [] s) (h' : Shared [] s')
    (hk : Keeps s.heap s'.heap) (hq : q ∈ s.queues) (hq' : q ∈ s'.queues)
    (hqueue : s'.queue q = s.queue q) (hpop : e.popped q s = none) (hkept : e.kept q s = none) :
    ClientStep q s s' e where
  registered := hq'
  messages := by
    rw [hpop, hkept, h.waiting_eq h' hk hq hq' hqueue, Option.toList_none, List.nil_append,
      List.append_nil]

theorem Shared.clientStep_uart {malloc : Bool} {inBuf : List Byte} (h : Shared [] s)
    (hq : q ∈ s.queues) (hs : s.step (.uart inBuf malloc) = some s') (h' : Shared [] s') :
    ClientStep q s s' (.uart inBuf malloc) := by
  obtain ⟨⟨err, s'⟩, hcall, rfl⟩ := Option.map_eq_some_iff.1 hs
  have hspec := sppUartCommandProcess_spec h.queues hq hcall
  by_cases ha : Admitted s malloc
  · rw [if_pos ha] at hspec
    obtain ⟨hk, hout, hqueue⟩ := hspec
    set m : SocketData := ⟨inBuf.length, inBuf⟩
    -- the state with the new message, before any queue has it
    set s₁ : Spp := { s with heap := alloc s.heap m }
    have hq' : q ∈ s'.queues := by rw [Spp.queues, hout]; exact hq
    have hold : ∀ msg ∈ s.queue q, msg < s.heap.length := fun msg hm => h.lt_length (mem_refs hq hm)
    have hnew : s₁.message s.heap.length = some m := by
      rw [Spp.message, objectAt_alloc, if_pos rfl]; rfl
    have hlen : s₁.heap.length = s.heap.length + 1 := by simp [s₁, alloc]
    have hsame : (s.queue q).filterMap s₁.message = s.waiting q := by
      refine List.filterMap_congr fun msg hm => ?_
      rw [Spp.message, objectAt_alloc, if_neg (hold msg hm).ne]
      rfl
    have hwait : s'.waiting q = (s'.queue q).filterMap s₁.message := by
      refine h'.filterMap_message hk fun msg hm => ⟨?_, mem_refs hq' hm⟩
      rw [hlen]
      rw [hqueue, pushed] at hm
      split_ifs at hm
      · rcases List.mem_append.1 hm with hm | hm
        · exact (hold msg hm).trans (Nat.lt_succ_self _)
        · rw [List.mem_singleton.1 hm]; exact Nat.lt_succ_self _
      · exact (hold msg hm).trans (Nat.lt_succ_self _)
    refine ⟨hq', ?_⟩
    change [] ++ s'.waiting q = s.waiting q ++ (SppEvent.kept q s (.uart inBuf malloc)).toList
    rw [List.nil_append, hwait, hqueue, pushed, SppEvent.kept]
    by_cases hroom : Room s q
    · have hlt : (s.queue q).length < maxQueueLength := hroom
      rw [if_pos hlt, if_pos ⟨ha, hroom⟩, List.filterMap_append, hsame,
        List.filterMap_cons_some hnew]
      rfl
    · have hlt : ¬ (s.queue q).length < maxQueueLength := hroom
      rw [if_neg hlt, if_neg fun hc => hroom hc.2, hsame, Option.toList_none, List.append_nil]
  · rw [if_neg ha] at hspec
    subst hspec
    refine .of_same h h (.refl _) hq hq rfl rfl ?_
    rw [SppEvent.kept, if_neg fun hc => ha hc.1]

theorem Shared.clientStep_pop {queue : ℕ} (h : Shared [] s) (hq : q ∈ s.queues)
    (hs : s.step (.pop queue) = some s') (h' : Shared [] s') : ClientStep q s s' (.pop queue) := by
  cases hs
  obtain ⟨hqueues, hheap⟩ := popFromQueue_frame s queue
  have hq' := hqueues ▸ hq
  by_cases hqueue : queue = q
  · subst hqueue
    refine ⟨hq', ?_⟩
    change (if queue = queue then (s.queue queue).head?.bind s.message else none).toList ++ _ =
      s.waiting queue ++ []
    rw [if_pos rfl, List.append_nil]
    cases hl : s.queue queue with
    | nil => rw [popFromQueue_of_nil hl]; rfl
    | cons msg rest =>
      have hmsg : (s.message msg).isSome := by
        rw [Spp.message, Option.isSome_map]
        exact h.counted.held (mem_refs hq (hl ▸ List.mem_cons_self))
      obtain ⟨m, hm⟩ := Option.isSome_iff_exists.1 hmsg
      have hwait : (MxchipSpp.popFromQueue s queue).waiting queue = rest.filterMap s.message := by
        rw [popFromQueue_of_cons hl]
        exact congrArg (List.filterMap s.message) (Function.update_self ..)
      rw [hwait, Spp.waiting, hl, List.filterMap_cons_some hm, List.head?_cons, Option.bind_some, hm]
      rfl
  · refine .of_same h h' (hheap ▸ .refl _) hq hq' ?_ (if_neg hqueue) rfl
    cases hl : s.queue queue with
    | nil => rw [popFromQueue_of_nil hl]
    | cons msg rest =>
      rw [popFromQueue_of_cons hl]
      exact Function.update_of_ne (Ne.symm hqueue) _ _

/-- **One step, for one client.** -/
theorem Shared.clientStep {e : SppEvent} (h : Shared [] s) (hq : q ∈ s.queues) (he : e.Enabled s)
    (hd : e ≠ .delete q) (hs : s.step e = some s') (h' : Shared [] s') : ClientStep q s s' e := by
  cases e with
  | uart inBuf malloc => exact h.clientStep_uart hq hs h'
  | create queue init =>
    cases hs
    have hne : q ≠ queue := fun heq => he (heq ▸ hq)
    obtain ⟨hheap, hq', hqueue⟩ := socketQueueCreate_other init hne hq
    exact .of_same h h' (hheap ▸ .refl _) hq hq' hqueue rfl rfl
  | delete queue =>
    obtain ⟨⟨ret, s'⟩, hcall, rfl⟩ := Option.map_eq_some_iff.1 hs
    simp only [MxchipSpp.socketQueueDelete, Option.bind_eq_bind, Option.bind_eq_some_iff] at hcall
    obtain ⟨s₂, hfree, heq⟩ := hcall
    cases heq
    have hne : q ≠ queue := fun heq => hd (heq ▸ rfl)
    obtain ⟨hk, hout, hqueue, -⟩ := keeps_freeAll hfree
    have hq' : q ∈ s'.queues := by
      rw [Spp.queues, hout, filterMap_clear]
      exact List.mem_filter.2 ⟨hq, by simpa using hne⟩
    refine .of_same h h' hk hq hq' ?_ rfl rfl
    rw [hqueue]
    exact Function.update_of_ne hne _ _
  | pop queue => exact h.clientStep_pop hq hs h'
  | free msg =>
    have hcall : MxchipSpp.freePopped s msg = some s' := hs
    have hk := keeps_socketMsgFree hcall
    obtain ⟨hout, hqueue, -⟩ := sameClients_socketMsgFree hcall
    have hq' : q ∈ s'.queues := by rw [Spp.queues, hout]; exact hq
    exact .of_same h h' hk hq hq' (congrFun hqueue q) rfl rfl

/-! ## Runs -/

/-- What a client popped and what is left in its queue. -/
theorem Shared.client {evs : List SppEvent} : ∀ {s : Spp}, Shared [] s → q ∈ s.queues →
    Along Spp.step SppEvent.Enabled s evs → SppEvent.delete q ∉ evs → ∃ s', s.run evs = some s' ∧
      trace Spp.step (fun s e => e.popped q s) s evs ++ s'.waiting q =
        s.waiting q ++ trace Spp.step (fun s e => e.kept q s) s evs := by
  induction evs with
  | nil => exact fun {s} _ _ _ _ => ⟨s, rfl, by rw [trace, trace, List.nil_append, List.append_nil]⟩
  | cons e evs ih =>
    rintro s h hq ⟨he, halong⟩ hd
    obtain ⟨s₁, hs₁, h₁⟩ := Shared.step e s h he
    have hstep := h.clientStep hq he (fun heq => hd (heq ▸ List.mem_cons_self)) hs₁ h₁
    obtain ⟨s', hs', hmsgs⟩ := ih h₁ hstep.registered (halong s₁ hs₁)
      fun hm => hd (List.mem_cons_of_mem _ hm)
    refine ⟨s', by rw [Spp.run, List.foldlM_cons, hs₁]; exact hs', ?_⟩
    rw [trace, trace, hs₁, Option.elim_some, Option.elim_some, List.append_assoc, hmsgs,
      ← List.append_assoc, hstep.messages, List.append_assoc]

end

/-- **Broadcast isolation.**  After any run, from the call that registered its queue on, what a
    client popped and what is in its queue are the messages offered since, in order and each once,
    but for those that were not admitted and those that found its own queue full. -/
theorem spp_broadcast (pre evs : List SppEvent) {q : ℕ} {s₀ s₁ : Spp}
    (h : Along Spp.step SppEvent.Enabled sppProtocolInit (pre ++ .create q true :: evs))
    (hpre : sppProtocolInit.run pre = some s₀)
    (hcreate : socketQueueCreate true s₀ q = (0, s₁)) (hevs : SppEvent.delete q ∉ evs) :
    ∃ s, s₁.run evs = some s ∧
      trace Spp.step (fun s e => e.popped q s) s₁ evs ++ s.waiting q =
        trace Spp.step (fun s e => e.kept q s) s₁ evs ∧
      (trace Spp.step (fun s e => e.kept q s) s₁ evs).Sublist (evs.filterMap SppEvent.offered) := by
  obtain ⟨hpre', hrest⟩ := Along.append h hpre
  obtain ⟨s₀', hs₀', h₀⟩ := Along.foldlM Shared.step shared_init hpre'
  obtain rfl : s₀' = s₀ := Option.some.inj (hs₀'.symm.trans hpre)
  have hs₁ : (socketQueueCreate true s₀' q).2 = s₁ := by rw [hcreate]
  have hown := socketQueueCreate_own (s := s₀') (q := q) (by rw [hcreate])
  have h₁ := h₀.socketQueueCreate true hrest.1
  rw [hs₁] at hown h₁
  obtain ⟨s, hs, hmsgs⟩ := h₁.client hown.1 (hrest.2 s₁ (by rw [Spp.step, hs₁])) hevs
  refine ⟨s, hs, ?_, trace_kept_sublist q evs s₁⟩
  rw [hmsgs, Spp.waiting, hown.2, List.filterMap_nil, List.nil_append]

/-- A client that another one joins, of whose messages one is popped and one is left. -/
theorem spp_broadcast_two_clients : ∃ s,
    ((socketQueueCreate true sppProtocolInit 1).2.run
      [.uart [5, 6] true, .create 2 true, .uart [7] false, .uart [8] true, .pop 1]) = some s ∧
      [⟨2, [5, 6]⟩] ++ s.waiting 1 = [⟨2, [5, 6]⟩, ⟨1, [8]⟩] := by
  obtain ⟨s, hs, hmsgs, -⟩ := spp_broadcast []
    [.uart [5, 6] true, .create 2 true, .uart [7] false, .uart [8] true, .pop 1] (q := 1)
    (.cons (by decide) rfl <| .cons trivial rfl <| .cons (by decide) rfl <| .cons trivial rfl <|
      .cons trivial rfl <| .cons (by decide) rfl trivial) rfl rfl (by simp)
  exact ⟨s, hs, hmsgs⟩

end MxchipSpp
