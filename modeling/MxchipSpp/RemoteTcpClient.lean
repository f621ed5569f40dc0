/-
  The remote TCP client (`remoteTcpClient_thread` in RemoteTcpClient.c).

  The thread connects, registers its queue in one of the slots, and serves it;
  whatever fails, it jumps to `ReConnWithDelay`, which gives back what there is.
  A step is one call of the thread with its outcome, or a call of another
  thread, which knows nothing of the client's queue.  `SocketClose` is taken to
  set the descriptor to -1, and `connect` to fail on the descriptor -1.
-/
import MxchipSpp.Broadcast

namespace MxchipSpp

open Memory RefCount Outcome

/-! ## The thread -/

/-- Where the thread is: the call it makes next, or a label. -/
inductive Place where
  | start
  | loop
  | lookup
  | socket
  | connect
  | createQueue
  | createEventFd
  | undoQueue
  | pop (readable : Bool)
  | write (readable : Bool) (msg : ℕ)
  | recv (readable : Bool)
  | reConnWithDelay
  | deleteQueue
  | closeSocket
  | exit

/-- The variables of the thread, and the successful calls of `socket_queue_create` and the calls of
    `socket_queue_delete` it has made. -/
structure RemoteTcpClient where
  place : Place
  fd : ℤ
  eventFd : ℤ
  spp : Spp
  created : ℕ
  deleted : ℕ

/-- The outcomes of calls.  `wifi` is whether there is a connection or came one in time, and
    `select` which descriptors are set; `go` stands for the calls that cannot fail. -/
inductive CallOutcome where
  | other (e : SppEvent)
  | init (ok : Bool)
  | wifi (connected : Bool)
  | gethostbyname (ok : Bool)
  | socket (fd : ℤ)
  | connect (ok : Bool)
  | socketQueueCreate (init : Bool)
  | micoCreateEventFd (fd : ℤ)
  | select (event readable : Bool)
  | pop (writable : Bool)
  | write (sent_len : ℤ) (enomem : Bool)
  | recv (len : ℤ)
  | go

/-- The calls of other threads: they are about queues of their own. -/
def SppEvent.spares (queue : ℕ) : SppEvent → Bool
  | .create q _ => q ≠ queue
  | .delete q => q ≠ queue
  | .pop q => q ≠ queue
  | .uart _ _ => true
  | .free _ => true

namespace RemoteTcpClient

/-- The thread at its start. -/
def init : RemoteTcpClient := ⟨.start, -1, -1, sppProtocolInit, 0, 0⟩

def goto (c : RemoteTcpClient) (place : Place) : RemoteTcpClient := { c with place }

/-- `socket_queue_delete`, and where the thread goes on. -/
def delete (queue : ℕ) (c : RemoteTcpClient) (place : Place) : Option RemoteTcpClient :=
  (socketQueueDelete c.spp queue).map fun r =>
    { c with place := place, spp := r.2, deleted := c.deleted + 1 }

/-- One step; `none` is an outcome of another call, or the use of a message that was freed. -/
def step (queue : ℕ) (c : RemoteTcpClient) (o : CallOutcome) : Option RemoteTcpClient :=
  match c.place, o with
  | _, .other e =>
    if e.spares queue then (c.spp.step e).map fun spp => { c with spp } else none
  | .start, .init ok => some (c.goto (if ok then .loop else .exit))
  -- the head of the loop, without a connection and with one
  | .loop, .wifi connected =>
    if c.fd = -1 then some (c.goto (if connected then .lookup else .loop)) else none
  | .loop, .select event readable =>
    if c.fd = -1 then none else some (c.goto (if event then .pop readable else .recv readable))
  | .lookup, .gethostbyname ok => some (c.goto (if ok then .socket else .reConnWithDelay))
  | .socket, .socket fd => some { c with place := .connect, fd }
  | .connect, .connect ok =>
    some (c.goto (if ok ∧ c.fd ≠ -1 then .createQueue else .reConnWithDelay))
  | .createQueue, .socketQueueCreate init =>
    let (err, spp) := socketQueueCreate init c.spp queue
    if err = 0 then some { c with place := .createEventFd, spp, created := c.created + 1 }
    else some { c with place := .exit, spp }
  | .createEventFd, .micoCreateEventFd eventFd =>
    some { c with place := if eventFd < 0 then .undoQueue else .loop, eventFd }
  | .undoQueue, .go => c.delete queue .reConnWithDelay
  | .pop readable, .pop writable =>
    match c.spp.queue queue with
    | msg :: _ =>
      if writable then
        some { c with place := .write readable msg, spp := popFromQueue c.spp queue }
      else some (c.goto (.recv readable))
    | [] => some (c.goto (.recv readable))
  | .write readable msg, .write sent_len enomem =>
    (freePopped c.spp msg).map fun spp =>
      { c with place := if sent_len ≤ 0 ∧ ¬ enomem then .reConnWithDelay else .recv readable, spp }
  | .recv readable, .recv len =>
    some (c.goto (if readable ∧ len ≤ 0 then .reConnWithDelay else .loop))
  | .reConnWithDelay, .go =>
    if 0 ≤ c.eventFd then some { c with place := .deleteQueue, eventFd := -1 }
    else some (c.goto .closeSocket)
  | .deleteQueue, .go => c.delete queue .closeSocket
  | .closeSocket, .go => some { c with place := .loop, fd := -1 }
  | _, _ => none

/-- A run of the thread, with others between its calls. -/
def run (queue : ℕ) (os : List CallOutcome) : Option RemoteTcpClient := os.foldlM (step queue) init

end RemoteTcpClient

/-! ## Slots -/

/-- The number of slots that hold a queue. -/
def Spp.slots (s : Spp) (queue : ℕ) : ℕ := s.socketOutQueue.cells.count (some queue)

section
variable {s s' : Spp} {queue q : ℕ}

theorem slots_eq (s : Spp) (queue : ℕ) : s.slots queue = s.queues.count queue := by
  rw [Spp.slots, Spp.queues, List.count_filterMap, List.count]
  rfl

theorem slots_of_eq (h : s'.socketOutQueue = s.socketOutQueue) (queue : ℕ) :
    s'.slots queue = s.slots queue := by
  rw [Spp.slots, Spp.slots, h]

/-- A queue that was created has one slot more; one that was refused has not. -/
theorem slots_create (init : Bool) (s : Spp) (q queue : ℕ) :
    ((socketQueueCreate init s q).1 ≠ 0 ∧ (socketQueueCreate init s q).2.slots queue = s.slots queue) ∨
      ((socketQueueCreate init s q).1 = 0 ∧
        (socketQueueCreate init s q).2.slots queue = s.slots queue + if q = queue then 1 else 0) := by
  cases init with
  | false => exact .inl ⟨Int.neg_ne_zero.2 one_ne_zero, rfl⟩
  | true =>
    rcases socketQueueCreate_cases s q with he | ⟨i, hfree, he⟩ <;> rw [he]
    · exact .inl ⟨Int.neg_ne_zero.2 one_ne_zero, rfl⟩
    · refine .inr ⟨rfl, ?_⟩
      have hcount := (filterMap_set (q := q) hfree).count_eq queue
      rw [List.count_cons] at hcount
      simp only [beq_iff_eq] at hcount
      rw [slots_eq, slots_eq]
      exact hcount

theorem slots_delete {r : ℤ × Spp} (h : socketQueueDelete s q = some r) (queue : ℕ) :
    r.2.slots queue = if q = queue then 0 else s.slots queue := by
  simp only [socketQueueDelete, Option.bind_eq_bind, Option.bind_eq_some_iff] at h
  obtain ⟨s', hfree, h⟩ := h
  cases h
  obtain ⟨-, hout, -, -⟩ := keeps_freeAll hfree
  rw [slots_of_eq hout, slots_eq, Spp.queues, filterMap_clear]
  by_cases hq : q = queue
  · rw [if_pos hq, List.count_eq_zero, List.mem_filter]
    simp [hq]
  · rw [if_neg hq, List.count_filter (by simpa using Ne.symm hq), slots_eq]
    rfl

/-- A client that pops or frees leaves the slots. -/
theorem slots_popFromQueue (s : Spp) (q queue : ℕ) : (popFromQueue s q).slots queue = s.slots queue := by
  rw [slots_eq, slots_eq, (popFromQueue_frame s q).1]

theorem slots_freePopped {msg : ℕ} (h : freePopped s msg = some s') (queue : ℕ) :
    s'.slots queue = s.slots queue :=
  slots_of_eq (sameClients_socketMsgFree h).1 queue

/-- One client is offered a message; the slots stay. -/
theorem queueMsg_slots {msg : ℕ} {slot : Option ℕ} (h : queueMsg msg s slot = some s') :
    s'.socketOutQueue = s.socketOutQueue := by
  cases slot with
  | none => cases h; rfl
  | some q => exact (queueMsg_spec h).2.1

theorem slots_uart {malloc : Bool} {inBuf : List Byte} {r : OSStatus × Spp}
    (h : sppUartCommandProcess malloc s inBuf = some r) (queue : ℕ) :
    r.2.slots queue = s.slots queue := by
  rw [sppUartCommandProcess] at h
  split at h
  · cases h; rfl
  split at h
  · cases h; rfl
  split at h
  · cases h; rfl
  · simp only [Option.bind_eq_bind, Option.bind_eq_some_iff] at h
    obtain ⟨s₁, h₁, s₂, h₂, s₃, h₃, h⟩ := h
    cases h
    have hout : s₂.socketOutQueue = s₁.socketOutQueue :=
      foldlM_some (I := fun s => s.socketOutQueue = s₁.socketOutQueue)
        (fun slot _ t t' ht hs => (queueMsg_slots hs).trans ht) rfl h₂
    exact slots_of_eq ((sameClients_socketMsgFree h₃).1.trans
      (hout.trans (sameClients_socketMsgTake h₁).1)) queue

/-- The calls of others leave the slots of a queue alone. -/
theorem slots_step {e : SppEvent} (he : e.spares queue = true) (h : s.step e = some s') :
    s'.slots queue = s.slots queue := by
  cases e with
  | uart inBuf malloc =>
    obtain ⟨r, hr, rfl⟩ := Option.map_eq_some_iff.1 h
    exact slots_uart hr queue
  | create q init =>
    cases h
    have hne : q ≠ queue := of_decide_eq_true he
    rcases slots_create init s q queue with ⟨-, hs⟩ | ⟨-, hs⟩
    · exact hs
    · rw [hs, if_neg hne, Nat.add_zero]
  | delete q =>
    obtain ⟨r, hr, rfl⟩ := Option.map_eq_some_iff.1 h
    rw [slots_delete hr queue, if_neg (of_decide_eq_true he)]
  | pop q =>
    cases h
    exact slots_popFromQueue s q queue
  | free msg => exact slots_freePopped h queue

end

/-! ## What the thread has -/

namespace RemoteTcpClient

/-- The client has no queue, and no event descriptor. -/
def Detached (queue : ℕ) (c : RemoteTcpClient) : Prop :=
  c.spp.slots queue = 0 ∧ c.eventFd < 0 ∧ c.created = c.deleted

/-- The queue of the client is in one slot. -/
def Registered (queue : ℕ) (c : RemoteTcpClient) : Prop :=
  c.spp.slots queue = 1 ∧ c.created = c.deleted + 1

/-- What the thread has where it is. -/
def Holds (queue : ℕ) (c : RemoteTcpClient) : Prop :=
  match c.place with
  | .start => c.fd = -1 ∧ c.Detached queue
  | .lookup | .socket | .connect | .closeSocket | .exit => c.Detached queue
  | .createQueue => c.fd ≠ -1 ∧ c.Detached queue
  | .createEventFd => c.fd ≠ -1 ∧ c.Registered queue
  | .undoQueue | .deleteQueue => c.Registered queue ∧ c.eventFd < 0
  | .pop _ | .write _ _ | .recv _ => c.fd ≠ -1 ∧ c.Registered queue ∧ 0 ≤ c.eventFd
  | .loop => if c.fd = -1 then c.Detached queue else c.Registered queue ∧ 0 ≤ c.eventFd
  | .reConnWithDelay => c.Detached queue ∨ c.Registered queue ∧ 0 ≤ c.eventFd

section
variable {queue : ℕ} {c c' : RemoteTcpClient}

/-- Of the state of all clients, the slots of the queue count. -/
theorem holds_spp {spp : Spp} (hs : spp.slots queue = c.spp.slots queue) :
    ({ c with spp } : RemoteTcpClient).Holds queue ↔ c.Holds queue := by
  simp only [Holds, Detached, Registered, hs]

theorem Registered.delete {place : Place} (h : c.Registered queue) (hfd : c.eventFd < 0)
    (hs : c.delete queue place = some c') : c'.Detached queue ∧ c'.place = place := by
  obtain ⟨r, hr, rfl⟩ := Option.map_eq_some_iff.1 hs
  refine ⟨⟨?_, hfd, h.2⟩, rfl⟩
  rw [slots_delete hr, if_pos rfl]

/-- The queue is registered, or the thread exits without one. -/
theorem Detached.create (h : c.Detached queue) (hfd : c.fd ≠ -1) {r : ℤ × Spp}
    (hr : r.1 ≠ 0 ∧ r.2.slots queue = c.spp.slots queue ∨
      r.1 = 0 ∧ r.2.slots queue = c.spp.slots queue + 1)
    (hs : (if r.1 = 0 then
      some { c with place := .createEventFd, spp := r.2, created := c.created + 1 }
      else some { c with place := .exit, spp := r.2 }) = some c') : c'.Holds queue := by
  obtain ⟨hslots, hevent, hcreated⟩ := h
  rcases hr with ⟨herr, hc⟩ | ⟨herr, hc⟩
  · rw [if_neg herr] at hs
    cases hs
    exact ⟨hc.trans hslots, hevent, hcreated⟩
  · rw [if_pos herr] at hs
    cases hs
    rw [hslots] at hc
    exact ⟨hfd, hc, congrArg (· + 1) hcreated⟩

/-- At the head of the loop the descriptor tells what there is. -/
theorem Detached.loop (h : c.Detached queue) (hfd : c.fd = -1) : (c.goto .loop).Holds queue :=
  (if_pos hfd).mpr h

theorem Registered.loop (h : c.Registered queue) (hfd : c.fd ≠ -1) (he : 0 ≤ c.eventFd) :
    (c.goto .loop).Holds queue :=
  (if_neg hfd).mpr ⟨h, he⟩

/-- A step goes from one place to another with what is held there. -/
theorem Holds.step {o : CallOutcome} (h : c.Holds queue) (hs : c.step queue o = some c') :
    c'.Holds queue := by
  unfold RemoteTcpClient.step at hs
  split at hs
  -- a call of another thread
  · rename_i e _
    split at hs
    · rename_i he
      obtain ⟨spp', hspp, rfl⟩ := Option.map_eq_some_iff.1 hs
      exact (holds_spp (slots_step he hspp)).2 h
    · cases hs
  · rename_i ok hp
    simp only [Holds, hp] at h
    cases hs
    cases ok with
    | false => exact h.2
    | true => exact h.2.loop h.1
  -- the head of the loop: without a connection, and with one
  · rename_i connected hp
    split at hs
    · rename_i hfd
      simp only [Holds, hp, if_pos hfd] at h
      cases hs
      cases connected with
      | false => exact h.loop hfd
      | true => exact h
    · cases hs
  · rename_i event readable hp
    split at hs
    · cases hs
    · rename_i hfd
      simp only [Holds, hp, if_neg hfd] at h
      cases hs
      cases event with
      | false => exact ⟨hfd, h⟩
      | true => exact ⟨hfd, h⟩
  -- to connect: what fails before there is a queue has nothing to give back
  · rename_i ok hp
    simp only [Holds, hp] at h
    cases hs
    cases ok with
    | false => exact .inl h
    | true => exact h
  · rename_i fd hp
    simp only [Holds, hp] at h
    cases hs
    exact h
  · rename_i ok hp
    simp only [Holds, hp] at h
    cases hs
    by_cases hc : ok = true ∧ c.fd ≠ -1
    · rw [if_pos hc]
      exact ⟨hc.2, h⟩
    · rw [if_neg hc]
      exact .inl h
  -- the queue, and the event descriptor, without which the queue is given back
  · rename_i init hp
    simp only [Holds, hp] at h
    have hcreate := slots_create init c.spp queue queue
    rw [if_pos rfl] at hcreate
    exact h.2.create h.1 hcreate hs
  · rename_i eventFd hp
    simp only [Holds, hp] at h
    cases hs
    by_cases he : eventFd < 0
    · rw [if_pos he]
      exact ⟨h.2, he⟩
    · rw [if_neg he]
      exact Registered.loop (c := { c with eventFd }) h.2 h.1 (Int.not_lt.1 he)
  · rename_i hp
    simp only [Holds, hp] at h
    obtain ⟨hd, hp'⟩ := h.1.delete h.2 hs
    simp only [Holds, hp']
    exact .inl hd
  -- to serve the queue and the connection
  · rename_i readable writable hp
    simp only [Holds, hp] at h
    split at hs
    · split at hs
      · cases hs
        exact (holds_spp (c := c.goto (.write readable _)) (slots_popFromQueue _ _ _)).2 h
      · cases hs
        exact h
    · cases hs
      exact h
  · rename_i readable msg sent_len enomem hp
    simp only [Holds, hp] at h
    obtain ⟨spp, hspp, rfl⟩ := Option.map_eq_some_iff.1 hs
    split
    · exact (holds_spp (c := c.goto .reConnWithDelay) (slots_freePopped hspp _)).2 (.inr h.2)
    · exact (holds_spp (c := c.goto (.recv readable)) (slots_freePopped hspp _)).2 h
  · rename_i readable len hp
    simp only [Holds, hp] at h
    cases hs
    split
    · exact .inr h.2
    · exact h.2.1.loop h.1 h.2.2
  -- `ReConnWithDelay`: the event descriptor tells whether there is a queue
  · rename_i hp
    simp only [Holds, hp] at h
    split at hs
    · rename_i he
      cases hs
      rcases h with ⟨-, hevent, -⟩ | ⟨hr, -⟩
      · exact absurd he (Int.not_le.2 hevent)
      · exact ⟨hr, Int.negSucc_lt_zero 0⟩
    · rename_i he
      cases hs
      rcases h with hd | ⟨-, hevent⟩
      · exact hd
      · exact absurd hevent he
  · rename_i hp
    simp only [Holds, hp] at h
    obtain ⟨hd, hp'⟩ := h.1.delete h.2 hs
    simp only [Holds, hp']
    exact hd
  · rename_i hp
    simp only [Holds, hp] at h
    cases hs
    exact Detached.loop (c := { c with fd := -1 }) h rfl
  · cases hs

theorem holds_init (queue : ℕ) : init.Holds queue := by
  refine ⟨rfl, ?_, by decide, rfl⟩
  rw [slots_eq]
  rfl

theorem Holds.run {os : List CallOutcome} (h : RemoteTcpClient.run queue os = some c) : c.Holds queue :=
  foldlM_some (fun _ _ _ _ hc hs => hc.step hs) (holds_init queue) h

end

end RemoteTcpClient

/-! ## The slot of the client -/

/-- The client has its slot while it is connected, and gives it back once. -/
structure KeepsSlot (queue : ℕ) (c : RemoteTcpClient) : Prop where
  connected : c.place = .loop → c.fd ≠ -1 → c.spp.slots queue = 1 ∧ 0 ≤ c.eventFd
  unconnected : c.place = .loop → c.fd = -1 → c.spp.slots queue = 0 ∧ c.eventFd < 0
  deletes : c.place = .undoQueue ∨ c.place = .deleteQueue → c.spp.slots queue = 1
  once : c.created = c.deleted + c.spp.slots queue ∧ c.spp.slots queue ≤ 1
  exit : c.place = .exit → c.created = c.deleted

theorem RemoteTcpClient.Holds.once {queue : ℕ} {c : RemoteTcpClient} (h : c.Holds queue) :
    c.Detached queue ∨ c.Registered queue := by
  obtain ⟨place, fd, eventFd, spp, created, deleted⟩ := c
  cases place with
  | start => exact .inl h.2
  | lookup | socket | connect | closeSocket | exit => exact .inl h
  | createQueue => exact .inl h.2
  | createEventFd => exact .inr h.2
  | undoQueue | deleteQueue => exact .inr h.1
  | pop | write | recv => exact .inr h.2.1
  | reConnWithDelay => exact h.imp_right And.left
  | loop =>
    simp only [RemoteTcpClient.Holds] at h
    split at h
    · exact .inl h
    · exact .inr h.1

/-- Whatever calls fail, in any order, no slot is leaked and none is given back twice. -/
theorem remoteTcpClient_keepsSlot {queue : ℕ} {os : List CallOutcome} {c : RemoteTcpClient}
    (h : RemoteTcpClient.run queue os = some c) : KeepsSlot queue c := by
  have hc : c.Holds queue := .run h
  refine ⟨fun hp hfd => ?_, fun hp hfd => ?_, fun hp => ?_, ?_, fun hp => ?_⟩
  · simp only [RemoteTcpClient.Holds, hp, if_neg hfd] at hc
    exact ⟨hc.1.1, hc.2⟩
  · simp only [RemoteTcpClient.Holds, hp, if_pos hfd] at hc
    exact ⟨hc.1, hc.2.1⟩
  · rcases hp with hp | hp <;> simp only [RemoteTcpClient.Holds, hp] at hc
    · exact hc.1.1
    · exact hc.1.1
  · rcases hc.once with ⟨hslots, -, hcreated⟩ | ⟨hslots, hcreated⟩ <;> rw [hslots]
    · exact ⟨hcreated, zero_le_one⟩
    · exact ⟨hcreated, le_rfl⟩
  · simp only [RemoteTcpClient.Holds, hp] at hc
    exact hc.2.2

/-- An event descriptor is refused; then, connected again, the thread sends a message, and the
    server closes. -/
def sampleOutcomes : List CallOutcome :=
  [.init true, .wifi true, .gethostbyname true, .socket 3, .connect true, .socketQueueCreate true,
    .micoCreateEventFd (-1), .go, .go, .go, .wifi true, .gethostbyname true, .socket 3,
    .connect true, .socketQueueCreate true, .micoCreateEventFd 4, .other (.uart [0x01] true),
    .select true true, .pop true, .write 1 false, .recv 0, .go, .go, .go]

theorem remoteTcpClient_reconnects :
    ∃ c, RemoteTcpClient.run 1 sampleOutcomes = some c ∧ c.created = 2 ∧ KeepsSlot 1 c := by
  obtain ⟨c, hc, hcreated⟩ :
      ∃ c, RemoteTcpClient.run 1 sampleOutcomes = some c ∧ c.created = 2 := ⟨_, rfl, rfl⟩
  exact ⟨c, hc, hcreated, remoteTcpClient_keepsSlot hc⟩

end MxchipSpp
