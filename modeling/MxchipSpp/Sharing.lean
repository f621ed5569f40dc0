/-
  The counters of the messages passed on to the clients.

  A message in `k` queues or clients' hands has the counter `k`: the call that
  allocates it holds a reference of its own while it puts it into the queues, so
  that a failed push, or no push at all, is one reference given up.
-/
import MxchipSpp.Spp
import MxchipSpp.Lib.Outcome

namespace MxchipSpp

open Memory RefCount Outcome

/-! ## Lists of queues -/

section
variable {ids : List ℕ} {q : ℕ}

/-- The pointers in all queues, when one queue is set. -/
theorem flatMap_update (hn : ids.Nodup) (hq : q ∈ ids) (f : ℕ → List ℕ) (l : List ℕ) :
    (ids.flatMap (Function.update f q l)).Perm (l ++ (ids.erase q).flatMap f) := by
  have hrest : (ids.erase q).flatMap (Function.update f q l) = (ids.erase q).flatMap f := by
    refine List.flatMap_congr fun i hi => ?_
    have hne : i ≠ q := fun h => hn.not_mem_erase (h ▸ hi)
    exact Function.update_of_ne hne _ _
  have hperm := (List.perm_cons_erase hq).flatMap_right (Function.update f q l)
  rw [List.flatMap_cons, Function.update_self, hrest] at hperm
  exact hperm

theorem flatMap_erase (hq : q ∈ ids) (f : ℕ → List ℕ) :
    (ids.flatMap f).Perm (f q ++ (ids.erase q).flatMap f) := by
  have hperm := (List.perm_cons_erase hq).flatMap_right f
  rwa [List.flatMap_cons] at hperm

/-- A pointer that no queue holds twice. -/
theorem count_flatMap_of_nodup {f : ℕ → List ℕ} (hf : ∀ i, (f i).Nodup) (p : ℕ) (ids : List ℕ) :
    (ids.flatMap f).count p = (ids.filter fun i => p ∈ f i).length := by
  induction ids with
  | nil => rfl
  | cons i ids ih =>
    rw [List.flatMap_cons, List.count_append, ih, List.filter_cons]
    by_cases hp : p ∈ f i
    · rw [List.count_eq_one_of_mem (hf i) hp, if_pos (by simpa using hp), List.length_cons,
        Nat.add_comm]
    · rw [List.count_eq_zero.2 hp, if_neg (by simpa using hp), Nat.zero_add]

/-- A slot that was free is taken. -/
theorem filterMap_set {slots : List (Option ℕ)} {i : ℕ} (h : slots[i]? = some none) :
    ((slots.set i (some q)).filterMap id).Perm (q :: slots.filterMap id) := by
  induction slots generalizing i with
  | nil => cases h
  | cons slot slots ih =>
    cases i with
    | zero =>
      have hs : slot = none := Option.some.inj h
      rw [hs]
      exact .refl _
    | succ i =>
      have hp := ih (i := i) h
      cases slot with
      | none => exact hp
      | some q' => exact (hp.cons q').trans (.swap q q' _)

/-- The slots of a queue are freed. -/
theorem filterMap_clear (slots : List (Option ℕ)) (q : ℕ) :
    (slots.map fun p => if p = some q then none else p).filterMap id =
      (slots.filterMap id).filter (· != q) := by
  induction slots with
  | nil => rfl
  | cons slot slots ih =>
    cases slot with
    | none => exact ih
    | some q' =>
      have hcons (l : List (Option ℕ)) : (some q' :: l).filterMap id = q' :: l.filterMap id := rfl
      simp only [List.map_cons, Option.some_inj]
      by_cases hq : q' = q
      · rw [if_pos hq, hcons, List.filter_cons, if_neg (by simpa using hq)]
        exact ih
      · rw [if_neg hq, hcons, hcons, ih, List.filter_cons, if_pos (by simpa using hq)]

end

/-! ## What every call keeps -/

/-- The references to messages: those in the queues and those of the clients. -/
def Spp.refs (s : Spp) : List ℕ := s.queues.flatMap s.queue ++ s.popped

/-- The messages are counted, and `held` are the references the call at work has of its own. -/
structure Shared (held : List ℕ) (s : Spp) : Prop where
  counted : Counted s.heap (held ++ s.refs)
  budget : s.sockmsgLen = total SocketData.size s.heap
  within : Within SocketData.size maxSockMsgLen s.heap
  queues : s.queues.Nodup
  idle : ∀ q ∉ s.queues, s.queue q = []
  queue : ∀ q, (s.queue q).Nodup

/-- `s'` has the queues and clients of `s`. -/
def SameClients (s s' : Spp) : Prop :=
  s'.socketOutQueue = s.socketOutQueue ∧ s'.queue = s.queue ∧ s'.popped = s.popped

section
variable {held : List ℕ} {s s' : Spp} {msg q : ℕ}

theorem shared_init : Shared [] sppProtocolInit where
  counted := counted_nil
  budget := rfl
  within := .inl (Nat.zero_le _)
  queues := List.nodup_nil
  idle _ _ := rfl
  queue _ := List.nodup_nil

theorem Shared.lt_length (h : Shared held s) (hm : msg ∈ held ++ s.refs) : msg < s.heap.length := by
  obtain ⟨o, ho⟩ := Option.isSome_iff_exists.1 (h.counted.held hm)
  exact objectAt_lt ho

theorem Shared.socketMsgTake (h : Shared held s) (hm : msg ∈ held ++ s.refs) :
    ∃ s', socketMsgTake s msg = some s' ∧ Shared (msg :: held) s' ∧ SameClients s s' := by
  obtain ⟨heap, ht, hc, hs, hb⟩ := h.counted.take SocketData.size hm
  refine ⟨{ s with heap }, by rw [MxchipSpp.socketMsgTake, ht]; rfl,
    ⟨hc, ?_, h.within.take hs hb, h.queues, h.idle, h.queue⟩, rfl, rfl, rfl⟩
  change s.sockmsgLen = _
  rw [h.budget, hs]

theorem Shared.socketMsgFree (h : Shared (msg :: held) s) :
    ∃ s', socketMsgFree s msg = some s' ∧ Shared held s' ∧ SameClients s s' := by
  obtain ⟨heap, freed, hr, hc, hs, hb⟩ := h.counted.release SocketData.size
  refine ⟨{ s with heap, sockmsgLen := s.sockmsgLen - (freed.elim 0 SocketData.size : ℕ) },
    by rw [MxchipSpp.socketMsgFree, hr]; rfl, ⟨hc, ?_, h.within.release hs hb, h.queues, h.idle, h.queue⟩, rfl, rfl, rfl⟩
  change s.sockmsgLen - (freed.elim 0 SocketData.size : ℕ) = total SocketData.size heap
  rw [h.budget, ← hs]
  push_cast
  omega

/-- A queue is set to what it holds and some of the references of the call, or to less. -/
theorem Shared.setQueue (h : Shared held s) {held' l popped : List ℕ} (hq : q ∈ s.queues)
    (hl : l.Nodup)
    (hp : (held ++ (s.queue q ++ s.popped)).Perm (held' ++ (l ++ popped))) :
    Shared held' { s with queue := Function.update s.queue q l, popped } where
  counted := by
    refine h.counted.perm ?_
    have h₁ := flatMap_erase hq s.queue
    have h₂ := flatMap_update h.queues hq s.queue l
    have hrest : ∀ a b c : List ℕ, (a ++ b ++ c).Perm (b ++ (a ++ c)) := by
      intro a b c
      rw [List.append_assoc]
      exact List.perm_append_comm_assoc a b c
    have hleft : (held ++ s.refs).Perm
        ((s.queues.erase q).flatMap s.queue ++ (held ++ (s.queue q ++ s.popped))) := by
      refine (((h₁.append_right _).trans (hrest _ _ _)).append_left held).trans ?_
      exact List.perm_append_comm_assoc _ _ _
    have hright : (held' ++ (s.queues.flatMap (Function.update s.queue q l) ++ popped)).Perm
        ((s.queues.erase q).flatMap s.queue ++ (held' ++ (l ++ popped))) := by
      refine (((h₂.append_right _).trans (hrest _ _ _)).append_left held').trans ?_
      exact List.perm_append_comm_assoc _ _ _
    exact hleft.trans ((hp.append_left _).trans hright.symm)
  budget := h.budget
  within := h.within
  queues := h.queues
  idle q' hq' := by
    have hne : q' ≠ q := fun he => hq' (he ▸ hq)
    exact (Function.update_of_ne hne _ _).trans (h.idle q' hq')
  queue q' := by
    change (Function.update s.queue q l q').Nodup
    by_cases hne : q' = q
    · rw [hne, Function.update_self]
      exact hl
    · rw [Function.update_of_ne hne]
      exact h.queue q'

/-! ## The calls -/

/-- One client: its queue holds the message afterwards, or its reference was given up. -/
theorem Shared.queueMsg (h : Shared [msg] s) (hq : q ∈ s.queues) (hm : msg ∉ s.queue q) :
    ∃ s', queueMsg msg s (some q) = some s' ∧ Shared [msg] s' ∧
      s'.socketOutQueue = s.socketOutQueue ∧ ∀ q' ≠ q, s'.queue q' = s.queue q' := by
  obtain ⟨s₁, ht, h₁, hout, hqueue, -⟩ := h.socketMsgTake (List.mem_append_left _ List.mem_cons_self)
  have hq₁ : q ∈ s₁.queues := by rw [Spp.queues, hout]; exact hq
  by_cases hlen : (s₁.queue q).length < maxQueueLength
  · have hl : (s₁.queue q ++ [msg]).Nodup := by
      rw [List.nodup_append_comm, List.singleton_append, List.nodup_cons, hqueue]
      exact ⟨hm, h.queue q⟩
    have hp : ([msg, msg] ++ (s₁.queue q ++ s₁.popped)).Perm
        ([msg] ++ (s₁.queue q ++ [msg] ++ s₁.popped)) := by
      simp only [List.append_assoc, List.cons_append, List.nil_append]
      exact (List.perm_middle.symm).cons msg
    refine ⟨_, by rw [MxchipSpp.queueMsg, ht]; simp only [Option.bind_eq_bind, Option.bind_some,
      pushToQueue, if_pos hlen]; rfl, h₁.setQueue hq₁ hl hp, hout, fun q' hne => ?_⟩
    exact (Function.update_of_ne hne _ _).trans (congrFun hqueue q')
  · obtain ⟨s₂, hf, h₂, hout₂, hqueue₂, -⟩ := h₁.socketMsgFree
    refine ⟨s₂, by rw [MxchipSpp.queueMsg, ht]; simp only [Option.bind_eq_bind, Option.bind_some,
      pushToQueue, if_neg hlen]; exact hf, h₂, hout₂.trans hout, fun q' _ => ?_⟩
    rw [hqueue₂, hqueue]

/-- All clients. -/
theorem Shared.queueMsgs {slots : List (Option ℕ)} : ∀ {s : Spp}, Shared [msg] s →
    (slots.filterMap id).Nodup → (∀ q, some q ∈ slots → q ∈ s.queues ∧ msg ∉ s.queue q) →
    ∃ s', slots.foldlM (MxchipSpp.queueMsg msg) s = some s' ∧ Shared [msg] s' := by
  induction slots with
  | nil => exact fun {s} h _ _ => ⟨s, rfl, h⟩
  | cons slot slots ih =>
    intro s h hn hslots
    cases slot with
    | none => exact ih h hn fun q hq => hslots q (List.mem_cons_of_mem _ hq)
    | some q =>
      obtain ⟨hq, hm⟩ := hslots q List.mem_cons_self
      obtain ⟨hnq, hn⟩ := List.nodup_cons.1 hn
      obtain ⟨s₁, hs₁, h₁, hout, hqueue⟩ := h.queueMsg hq hm
      obtain ⟨s₂, hs₂, h₂⟩ := ih h₁ hn fun q' hq' => by
        -- a queue further on is another one, and does not hold the message yet
        have hne : q' ≠ q := fun he => hnq (he ▸ List.mem_filterMap.2 ⟨_, hq', rfl⟩)
        obtain ⟨hin, hout'⟩ := hslots q' (List.mem_cons_of_mem _ hq')
        rw [Spp.queues, hout, hqueue q' hne]
        exact ⟨hin, hout'⟩
      exact ⟨s₂, by rw [List.foldlM_cons, hs₁]; exact hs₂, h₂⟩

theorem Shared.sppUartCommandProcess (h : Shared [] s) (malloc : Bool) (inBuf : List Byte) :
    ∃ err s', sppUartCommandProcess malloc s inBuf = some (err, s') ∧ Shared [] s' := by
  rw [MxchipSpp.sppUartCommandProcess]
  split_ifs with hnone hmax hmalloc
  · exact ⟨_, s, rfl, h⟩
  · exact ⟨_, s, rfl, h⟩
  · set m : SocketData := ⟨inBuf.length, inBuf⟩
    obtain ⟨heap, ht, hc, hs, r, hat⟩ := h.counted.alloc_take SocketData.size m
    have htotal : total SocketData.size s.heap ≤ maxSockMsgLen := by
      have := h.budget
      omega
    have h₁ : Shared [s.heap.length] { s with heap, sockmsgLen := s.sockmsgLen + m.size } := by
      refine ⟨hc, ?_, within_alloc htotal hs hat, h.queues, h.idle, h.queue⟩
      change s.sockmsgLen + (m.size : ℤ) = (total SocketData.size heap : ℕ)
      rw [h.budget, hs, Nat.cast_add]
    obtain ⟨s₂, hs₂, h₂⟩ := h₁.queueMsgs h.queues fun q hq => by
      have hq' : q ∈ s.queues := List.mem_filterMap.2 ⟨_, hq, rfl⟩
      refine ⟨hq', fun hm => absurd (h.lt_length ?_) (lt_irrefl _)⟩
      exact List.mem_append_right _ (List.mem_append_left _ (List.mem_flatMap.2 ⟨q, hq', hm⟩))
    obtain ⟨s₃, hs₃, h₃, -⟩ := h₂.socketMsgFree
    refine ⟨.kNoErr, s₃, ?_, h₃⟩
    simp only [Option.bind_eq_bind, MxchipSpp.socketMsgTake, ht, Option.map_some, Option.bind_some,
      hs₂, hs₃]
    rfl
  · exact ⟨_, s, rfl, h⟩

/-- A queue that was created takes a free slot, if there is one. -/
theorem socketQueueCreate_cases (s : Spp) (q : ℕ) :
    MxchipSpp.socketQueueCreate true s q = (-1, { s with queue := Function.update s.queue q [] }) ∨
      ∃ i : Fin maxQueueNum, s.socketOutQueue.cells[(i : ℕ)]? = some none ∧
        MxchipSpp.socketQueueCreate true s q = (0, { s with
          queue := Function.update s.queue q []
          socketOutQueue := s.socketOutQueue.set i (some q) }) := by
  simp only [MxchipSpp.socketQueueCreate, not_true, if_false]
  split
  · rename_i i hi
    have hnone : s.socketOutQueue.get i = none := by simpa using List.find?_some hi
    exact .inr ⟨i, by rw [Block.getElem?_eq_get, hnone], rfl⟩
  · exact .inl rfl

theorem Shared.socketQueueCreate (h : Shared [] s) (init : Bool) (hq : q ∉ s.queues) :
    Shared [] (socketQueueCreate init s q).2 := by
  -- the new queue is empty, and so was the one that is not there
  have hupdate : Function.update s.queue q [] = s.queue := by
    rw [← h.idle q hq, Function.update_eq_self]
  cases init with
  | false => exact h
  | true =>
    rcases socketQueueCreate_cases s q with he | ⟨i, hfree, he⟩ <;> rw [he, hupdate]
    · exact h
    · have hp := filterMap_set (q := q) hfree
      refine ⟨h.counted.perm ?_, h.budget, h.within, hp.nodup_iff.2 (List.nodup_cons.2 ⟨hq, h.queues⟩),
        fun q' hq' => h.idle q' fun hin => hq' (hp.mem_iff.2 (List.mem_cons_of_mem _ hin)), h.queue⟩
      have hrefs := (hp.flatMap_right s.queue).symm
      rw [List.flatMap_cons, h.idle q hq] at hrefs
      exact hrefs.append_right _

/-- The messages left in a queue are freed. -/
theorem Shared.freeAll {l : List ℕ} : ∀ {s : Spp}, Shared (l ++ held) s →
    ∃ s', l.foldlM MxchipSpp.socketMsgFree s = some s' ∧ Shared held s' := by
  induction l with
  | nil => exact fun {s} h => ⟨s, rfl, h⟩
  | cons msg l ih =>
    intro s h
    obtain ⟨s₁, hs₁, h₁, -⟩ := Shared.socketMsgFree h
    obtain ⟨s₂, hs₂, h₂⟩ := ih h₁
    exact ⟨s₂, by rw [List.foldlM_cons, hs₁]; exact hs₂, h₂⟩

theorem Shared.socketQueueDelete (h : Shared [] s) (hq : q ∈ s.queues) :
    ∃ ret s', socketQueueDelete s q = some (ret, s') ∧ Shared [] s' := by
  set s₁ : Spp := { s with
    socketOutQueue := ⟨s.socketOutQueue.cells.map fun p => if p = some q then none else p, by simp⟩
    queue := Function.update s.queue q [] } with hs₁
  have hqueues : s₁.queues = s.queues.erase q := by
    rw [h.queues.erase_eq_filter, Spp.queues, hs₁, filterMap_clear]
    rfl
  have hrest : s₁.queues.flatMap s₁.queue = (s.queues.erase q).flatMap s.queue := by
    rw [hqueues]
    refine List.flatMap_congr fun i hi => Function.update_of_ne ?_ _ _
    exact fun he => h.queues.not_mem_erase (he ▸ hi)
  have hrefs : s.refs.Perm (s.queue q ++ s₁.refs) := by
    rw [Spp.refs, Spp.refs, hrest, ← List.append_assoc]
    exact (flatMap_erase hq s.queue).append_right _
  have h₁ : Shared (s.queue q ++ []) s₁ := by
    rw [List.append_nil]
    refine ⟨h.counted.perm hrefs, h.budget, h.within, by rw [hqueues]; exact h.queues.erase _,
      fun i hi => ?_, fun i => ?_⟩
    · by_cases hiq : i = q
      · rw [hiq]; exact Function.update_self ..
      · refine (Function.update_of_ne hiq _ _).trans (h.idle i fun hin => hi ?_)
        rw [hqueues]
        exact (List.mem_erase_of_ne hiq).2 hin
    · by_cases hiq : i = q
      · rw [hiq, show s₁.queue q = [] from Function.update_self ..]
        exact List.nodup_nil
      · rw [show s₁.queue i = s.queue i from Function.update_of_ne hiq _ _]
        exact h.queue i
  obtain ⟨s', hs', h'⟩ := h₁.freeAll
  exact ⟨_, s', by simp only [MxchipSpp.socketQueueDelete, Option.bind_eq_bind]; rw [← hs₁, hs']; rfl, h'⟩

theorem Shared.popFromQueue (h : Shared [] s) (hq : q ∈ s.queues) : Shared [] (popFromQueue s q) := by
  rw [MxchipSpp.popFromQueue]
  split
  · exact h
  · rename_i msg rest hcons
    refine h.setQueue hq (hcons ▸ h.queue q).of_cons ?_
    rw [hcons]
    exact List.perm_middle.symm

theorem Shared.freePopped (h : Shared [] s) (hm : msg ∈ s.popped) :
    ∃ s', freePopped s msg = some s' ∧ Shared [] s' := by
  have hp : s.refs.Perm (msg :: (s.queues.flatMap s.queue ++ s.popped.erase msg)) :=
    ((List.perm_cons_erase hm).append_left _).trans List.perm_middle
  have h₁ : Shared [msg] { s with popped := s.popped.erase msg } :=
    ⟨h.counted.perm hp, h.budget, h.within, h.queues, h.idle, h.queue⟩
  obtain ⟨s', hs', h', -⟩ := h₁.socketMsgFree
  exact ⟨s', hs', h'⟩

theorem Shared.step (e : SppEvent) (s : Spp) (h : Shared [] s) (he : e.Enabled s) :
    ∃ s', s.step e = some s' ∧ Shared [] s' := by
  cases e with
  | uart inBuf malloc =>
    obtain ⟨err, s', hs', h'⟩ := h.sppUartCommandProcess malloc inBuf
    exact ⟨s', by rw [Spp.step, hs']; rfl, h'⟩
  | create queue init => exact ⟨_, rfl, h.socketQueueCreate init he⟩
  | delete queue =>
    obtain ⟨ret, s', hs', h'⟩ := h.socketQueueDelete he
    exact ⟨s', by rw [Spp.step, hs']; rfl, h'⟩
  | pop queue => exact ⟨_, rfl, h.popFromQueue he⟩
  | free msg => exact h.freePopped he

end

/-! ## The counters and the budget -/

/-- The messages and what is recorded about them. -/
structure Accounted (s : Spp) : Prop where
  ref : ∀ {msg o}, objectAt s.heap msg = some o → 1 ≤ o.ref ∧
    o.ref = ((s.queues.filter fun q => msg ∈ s.queue q).length + s.popped.count msg : ℕ)
  live : ∀ {msg}, (∃ q ∈ s.queues, msg ∈ s.queue q) ∨ msg ∈ s.popped → (objectAt s.heap msg).isSome
  budget : s.sockmsgLen = total SocketData.size s.heap
  limit : s.sockmsgLen ≤ maxSockMsgLen ∨
    ∃ msg o, objectAt s.heap msg = some o ∧ s.sockmsgLen ≤ maxSockMsgLen + o.body.size
  idle : s.queues = [] → s.popped = [] → s.sockmsgLen = 0

theorem Shared.accounted {s : Spp} (h : Shared [] s) : Accounted s where
  ref {msg o} ho := by
    obtain ⟨hcount, hmem⟩ := h.counted.live ho
    rw [List.nil_append] at hcount hmem
    have hpos := List.count_pos_iff.2 hmem
    refine ⟨by omega, ?_⟩
    rw [hcount, Spp.refs, List.count_append, count_flatMap_of_nodup h.queue]
  live {msg} hm := by
    refine h.counted.held ?_
    rw [List.nil_append, Spp.refs, List.mem_append, List.mem_flatMap]
    exact hm
  budget := h.budget
  limit := by
    rw [h.budget]
    rcases h.within with hw | ⟨msg, o, ho, hw⟩
    · exact .inl (by exact_mod_cast hw)
    · exact .inr ⟨msg, o, ho, by exact_mod_cast hw⟩
  idle hq hp := by
    have hc := h.counted
    rw [Spp.refs, hq, hp] at hc
    rw [h.budget, hc.total_eq_zero]
    rfl

/-- **Message counters.**  No run uses or frees a message that was freed, and after every run the
    counters are those of the references, and the budget that of the live messages. -/
theorem spp_accounted {evs : List SppEvent} (h : Along Spp.step SppEvent.Enabled sppProtocolInit evs) :
    ∃ s, sppProtocolInit.run evs = some s ∧ Accounted s := by
  obtain ⟨s, hs, h'⟩ := Along.foldlM Shared.step shared_init h
  exact ⟨s, hs, h'.accounted⟩

/-- Two clients, of which one leaves before it has taken its message. -/
theorem spp_accounted_two_clients : ∃ s,
    sppProtocolInit.run [.create 1 true, .create 2 true, .uart [5, 6] true, .pop 1, .delete 2,
      .free 0] = some s ∧ Accounted s :=
  spp_accounted (.cons (by decide) rfl <| .cons (by decide) rfl <| .cons trivial rfl <|
    .cons (by decide) rfl <| .cons (by decide) rfl <| .cons (by decide) rfl trivial)

end MxchipSpp
