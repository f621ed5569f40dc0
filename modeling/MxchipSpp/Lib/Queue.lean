/-
  A bounded queue, and what it takes to implement one.

  The queue is the list of its elements, oldest first.  An implementation has
  calls of its own, which may fail where the queue cannot; `Implements` relates
  the two for one call, and `Implements.calls` for any sequence of them.
-/
import MxchipSpp.Lib.Outcome

namespace Queue

open Outcome

universe u v
variable {α : Type u}

/-- The calls on a bounded queue. -/
inductive Call (α : Type u) where
  | clear
  | push (x : α)
  | input (xs : List α)
  | output (n : ℕ)
  | copy (offset n : ℕ)
  | dropNewest (n : ℕ)
  | dropOldest (n : ℕ)

/-- What a call returns. -/
inductive Answer (α : Type u) where
  | done
  | taken (ok : Bool)
  | data (xs : List α)
  | count (n : ℕ)
  deriving DecidableEq

/-- A call on the queue `q` of capacity `cap`. -/
def call (cap : ℕ) (q : List α) : Call α → Answer α × List α
  | .clear => (.done, [])
  | .push x => if q.length < cap then (.taken true, q ++ [x]) else (.taken false, q)
  | .input xs => if q.length + xs.length ≤ cap then (.taken true, q ++ xs) else (.taken false, q)
  | .output n => (.data (q.take n), q.drop n)
  | .copy offset n => (.data ((q.drop offset).take n), q)
  | .dropNewest n => (.count (min n q.length), q.take (q.length - n))
  | .dropOldest n => (.count (min n q.length), q.drop n)

/-- A sequence of calls. -/
def calls (cap : ℕ) : List α → List (Call α) → List (Answer α) × List α
  | q, [] => ([], q)
  | q, c :: cs =>
    let (r, q) := call cap q c
    let (rs, q) := calls cap q cs
    (r :: rs, q)

/-! ## Implementations -/

section
variable {σ γ : Type v}

/-- A sequence of calls of an implementation; `none` is a fault. -/
def execs (exec : σ → γ → Option (Answer α × σ)) : σ → List γ → Option (List (Answer α) × σ)
  | s, [] => some ([], s)
  | s, c :: cs => do
    let (r, s) ← exec s c
    let (rs, s) ← execs exec s cs
    return (r :: rs, s)

/-- Each call of a sequence meets `Fits` in the state it is made in. -/
def FitsAll (exec : σ → γ → Option (Answer α × σ)) (Fits : σ → γ → Prop) : σ → List γ → Prop :=
  Along (fun s c => (exec s c).map Prod.snd) Fits

/-- Each call returns what the queue does and keeps the relation, if it meets `Fits`. -/
def Implements (cap : ℕ) (exec : σ → γ → Option (Answer α × σ)) (abs : γ → Call α)
    (Fits : σ → γ → Prop) (R : σ → List α → Prop) : Prop :=
  ∀ {s q c}, R s q → Fits s c →
    ∃ s', exec s c = some ((call cap q (abs c)).1, s') ∧ R s' (call cap q (abs c)).2

/-- **The refinement rule.**  What one call keeps, a sequence of calls keeps. -/
theorem Implements.calls {cap : ℕ} {exec : σ → γ → Option (Answer α × σ)} {abs : γ → Call α}
    {Fits : σ → γ → Prop} {R : σ → List α → Prop} (h : Implements cap exec abs Fits R)
    (cs : List γ) : ∀ {s : σ} {q : List α}, R s q → FitsAll exec Fits s cs →
      ∃ s', execs exec s cs = some ((calls cap q (cs.map abs)).1, s') ∧
        R s' (calls cap q (cs.map abs)).2 := by
  induction cs with
  | nil =>
    intro s q hR _
    exact ⟨s, rfl, hR⟩
  | cons c cs ih =>
    intro s q hR ⟨hc, hcs⟩
    obtain ⟨s₁, h₁, hR₁⟩ := h hR hc
    obtain ⟨s₂, h₂, hR₂⟩ := ih hR₁ (hcs s₁ (Option.map_eq_some_iff.2 ⟨_, h₁, rfl⟩))
    refine ⟨s₂, ?_, hR₂⟩
    rw [execs, h₁, Option.bind_eq_bind, Option.bind_some]
    dsimp only
    rw [h₂]
    rfl

end

end Queue
