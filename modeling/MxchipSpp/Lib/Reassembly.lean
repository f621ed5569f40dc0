/-
  Reassembly in order: a receiver of numbered blocks that takes a block only
  when its number is due.  Packets can get lost, come twice and overtake one
  another; what is stored is always a beginning of the image.
-/
import Mathlib.Tactic

namespace Reassembly

universe u
variable {α : Type u}

/-- The number of the block that is due, and what has been stored. -/
structure State (α : Type u) where
  count : ℕ
  stored : List α

/-- A packet taken or dropped. -/
def State.receive (s : State α) (number : ℕ) (data : List α) : State α :=
  if number = s.count then ⟨s.count + 1, s.stored ++ data⟩ else s

/-- The blocks before the one that is due are stored, each once and in order. -/
structure Holds (blocks : List (List α)) (s : State α) : Prop where
  count : s.count ≤ blocks.length
  stored : s.stored = (blocks.take s.count).flatten

variable {blocks : List (List α)} {s : State α} {number : ℕ} {data : List α}

theorem receive_of_ne (h : number ≠ s.count) : s.receive number data = s := if_neg h

theorem receive_count (s : State α) (data : List α) :
    s.receive s.count data = ⟨s.count + 1, s.stored ++ data⟩ := if_pos rfl

theorem flatten_take_succ (h : blocks[number]? = some data) :
    (blocks.take (number + 1)).flatten = (blocks.take number).flatten ++ data := by
  rw [List.take_add_one, h]
  simp

theorem Holds.zero : Holds blocks ⟨0, []⟩ := ⟨Nat.zero_le _, rfl⟩

/-- **Packets of the image keep the receiver's state**, whatever their order. -/
theorem Holds.receive (h : Holds blocks s) (hp : blocks[number]? = some data) :
    Holds blocks (s.receive number data) := by
  by_cases hn : number = s.count
  · subst hn
    have hlt := (List.getElem?_eq_some_iff.1 hp).1
    rw [receive_count]
    refine ⟨hlt, ?_⟩
    rw [flatten_take_succ hp, ← h.stored]
  · rw [receive_of_ne hn]
    exact h

/-- What is stored is no longer than the image. -/
theorem Holds.length_le (h : Holds blocks s) : s.stored.length ≤ blocks.flatten.length := by
  have happ : blocks.flatten = (blocks.take s.count).flatten ++ (blocks.drop s.count).flatten := by
    rw [← List.flatten_append, List.take_append_drop]
  rw [happ, List.length_append, h.stored]
  exact Nat.le_add_right _ _

end Reassembly
