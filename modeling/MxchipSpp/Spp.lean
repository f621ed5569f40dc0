/-
  Data of the UART passed on to the TCP clients (SppProtocol.c).

  A message is allocated once and put into the queue of each client; it counts
  the queues and clients that still need it, and `sockmsg_len` counts the
  memory.  A step is one call, as the mutex has it, or a client taking a
  message out of its queue or giving it back.  A function that can use a
  message that was freed returns `Option`.
-/
import MxchipSpp.Lib.Memory
import MxchipSpp.Lib.RefCount
import MxchipSpp.Word

namespace MxchipSpp

open Memory RefCount

/-! ## State -/

/-- `socket_msg_t`, behind its counter `ref`. -/
structure SocketData where
  len : ℕ
  data : List Byte

/-- `sizeof(socket_msg_t) - 1 + len` -/
def SocketData.size (m : SocketData) : ℕ := 12 - 1 + m.len

def maxSockMsgLen : ℕ := 10 * 1024
abbrev maxQueueNum : ℕ := 6
def maxQueueLength : ℕ := 8

/-- The queues of the clients and the messages.  A queue is named by a number, its address; `queue`
    holds the pointers in it, and `popped` those that clients have taken out and not yet freed. -/
structure Spp where
  socketOutQueue : Block (Option ℕ) maxQueueNum
  queue : ℕ → List ℕ
  heap : Heap SocketData
  sockmsgLen : ℤ
  popped : List ℕ

/-- `sppProtocolInit` -/
def sppProtocolInit : Spp where
  socketOutQueue := .fill _ none
  queue := fun _ => []
  heap := []
  sockmsgLen := 0
  popped := []

/-- The values of `OSStatus` that are returned. -/
inductive OSStatus where
  | kNoErr
  | kNoMemoryErr

/-! ## Messages -/

/-- `socket_msg_take` -/
def socketMsgTake (s : Spp) (msg : ℕ) : Option Spp :=
  (take s.heap msg).map fun heap => { s with heap }

/-- `socket_msg_free` -/
def socketMsgFree (s : Spp) (msg : ℕ) : Option Spp :=
  (release s.heap msg).map fun r =>
    { s with heap := r.1, sockmsgLen := s.sockmsgLen - (r.2.elim 0 SocketData.size : ℕ) }

/-- `mico_rtos_push_to_queue`, without waiting: it fails if the queue is full. -/
def pushToQueue (s : Spp) (queue msg : ℕ) : Spp × Bool :=
  if (s.queue queue).length < maxQueueLength then
    ({ s with queue := Function.update s.queue queue (s.queue queue ++ [msg]) }, true)
  else
    (s, false)

/-- One turn of the second loop of `sppUartCommandProcess`. -/
def queueMsg (real_msg : ℕ) (s : Spp) : Option ℕ → Option Spp
  | none => some s
  | some p_queue => do
    let s ← socketMsgTake s real_msg
    let (s, ok) := pushToQueue s p_queue real_msg
    if ok then return s else socketMsgFree s real_msg

/-- `sppUartCommandProcess`; `malloc` says whether there is memory. -/
def sppUartCommandProcess (malloc : Bool) (s : Spp) (inBuf : List Byte) :
    Option (OSStatus × Spp) :=
  if ∀ p_queue ∈ s.socketOutQueue.cells, p_queue = none then some (.kNoErr, s)
  else if maxSockMsgLen < s.sockmsgLen then some (.kNoMemoryErr, s)
  else if ¬ malloc then some (.kNoMemoryErr, s)
  else do
    let real_msg := s.heap.length
    let msg : SocketData := ⟨inBuf.length, inBuf⟩
    let s := { s with heap := alloc s.heap msg, sockmsgLen := s.sockmsgLen + msg.size }
    let s ← socketMsgTake s real_msg
    let s ← s.socketOutQueue.cells.foldlM (queueMsg real_msg) s
    return (.kNoErr, ← socketMsgFree s real_msg)

/-! ## Queues -/

/-- `socket_queue_create`; `init` says whether `mico_rtos_init_queue` succeeded. -/
def socketQueueCreate (init : Bool) (s : Spp) (queue : ℕ) : ℤ × Spp :=
  if ¬ init then (-1, s)
  else
    let s := { s with queue := Function.update s.queue queue [] }
    match (List.finRange maxQueueNum).find? fun i => (s.socketOutQueue.get i).isNone with
    | some i => (0, { s with socketOutQueue := s.socketOutQueue.set i (some queue) })
    | none => (-1, s)

/-- `socket_queue_delete`; what is left in the queue is popped and freed, message by message. -/
def socketQueueDelete (s : Spp) (queue : ℕ) : Option (ℤ × Spp) := do
  let ret := if some queue ∈ s.socketOutQueue.cells then 0 else -1
  let s₁ := { s with
    socketOutQueue := ⟨s.socketOutQueue.cells.map fun p => if p = some queue then none else p,
      by simp⟩
    queue := Function.update s.queue queue [] }
  return (ret, ← (s.queue queue).foldlM socketMsgFree s₁)

/-! ## Clients -/

/-- A client's `mico_rtos_pop_from_queue`, without waiting: it fails if the queue is empty. -/
def popFromQueue (s : Spp) (queue : ℕ) : Spp :=
  match s.queue queue with
  | [] => s
  | msg :: rest =>
    { s with queue := Function.update s.queue queue rest, popped := msg :: s.popped }

/-- A client's `socket_msg_free`, of a message it has popped. -/
def freePopped (s : Spp) (msg : ℕ) : Option Spp :=
  socketMsgFree { s with popped := s.popped.erase msg } msg

/-! ## Runs -/

/-- The steps: whole calls, by any thread. -/
inductive SppEvent where
  | uart (inBuf : List Byte) (malloc : Bool)
  | create (queue : ℕ) (init : Bool)
  | delete (queue : ℕ)
  | pop (queue : ℕ)
  | free (msg : ℕ)

/-- The queues of the clients. -/
def Spp.queues (s : Spp) : List ℕ := s.socketOutQueue.cells.filterMap id

/-- What the clients keep to: a client has one queue, which it creates first and deletes last, and
    it frees what it has popped. -/
def SppEvent.Enabled (s : Spp) : SppEvent → Prop
  | .uart _ _ => True
  | .create queue _ => queue ∉ s.queues
  | .delete queue => queue ∈ s.queues
  | .pop queue => queue ∈ s.queues
  | .free msg => msg ∈ s.popped

instance decidableEnabled (s : Spp) : (e : SppEvent) → Decidable (e.Enabled s)
  | .uart _ _ => .isTrue trivial
  | .create queue _ => inferInstanceAs (Decidable (queue ∉ s.queues))
  | .delete queue => inferInstanceAs (Decidable (queue ∈ s.queues))
  | .pop queue => inferInstanceAs (Decidable (queue ∈ s.queues))
  | .free msg => inferInstanceAs (Decidable (msg ∈ s.popped))

/-- One step; `none` is the use of a message that was freed. -/
def Spp.step (s : Spp) : SppEvent → Option Spp
  | .uart inBuf malloc => (sppUartCommandProcess malloc s inBuf).map Prod.snd
  | .create queue init => some (socketQueueCreate init s queue).2
  | .delete queue => (socketQueueDelete s queue).map Prod.snd
  | .pop queue => some (popFromQueue s queue)
  | .free msg => freePopped s msg

/-- A run. -/
def Spp.run (s : Spp) (evs : List SppEvent) : Option Spp := evs.foldlM Spp.step s

end MxchipSpp
