/-
  The first occurrence of a pattern in a text, by what follows it.

  `after pat l` is the rest of `l` after the first occurrence of `pat`.  It is
  computed from left to right, so a text in parts is searched part by part: a
  part without the first symbol of the pattern is skipped.
-/
import Mathlib.Tactic

namespace Search

universe u
variable {α : Type u}

/-- A part that is the pattern but for the symbol after it, which is not in either. -/
theorem eq_of_prefix_cons {a : α} {x y : List α} (hx : a ∉ x) (hy : a ∉ y) {s t : List α}
    (h : x ++ a :: s <+: y ++ a :: t) : x = y ∧ s <+: t := by
  induction x generalizing y with
  | nil =>
    cases y with
    | nil => exact ⟨rfl, (List.cons_prefix_cons.1 h).2⟩
    | cons c y =>
      obtain ⟨hc, -⟩ := List.cons_prefix_cons.1 h
      exact absurd (hc ▸ List.mem_cons_self) hy
  | cons b x ih =>
    cases y with
    | nil =>
      obtain ⟨hb, -⟩ := List.cons_prefix_cons.1 h
      exact absurd (hb ▸ List.mem_cons_self) hx
    | cons c y =>
      obtain ⟨rfl, htail⟩ := List.cons_prefix_cons.1 h
      obtain ⟨rfl, hst⟩ := ih (fun ha => hx (List.mem_cons_of_mem _ ha))
        (fun ha => hy (List.mem_cons_of_mem _ ha)) htail
      exact ⟨rfl, hst⟩

variable [DecidableEq α]

/-- The rest of a list after the first occurrence of `pat`. -/
def after (pat : List α) : List α → Option (List α)
  | [] => if pat = [] then some [] else none
  | x :: l => if pat <+: x :: l then some ((x :: l).drop pat.length) else after pat l

section
variable {a : α} {pat l x y : List α}

theorem after_append_self (pat l : List α) : after pat (pat ++ l) = some l := by
  cases h : pat ++ l with
  | nil =>
    obtain ⟨rfl, rfl⟩ := List.append_eq_nil_iff.1 h
    rfl
  | cons b t =>
    have hp : pat <+: b :: t := ⟨l, h⟩
    rw [after, if_pos hp, ← h, List.drop_left]

theorem after_cons_of_not (h : ¬ pat <+: a :: l) : after pat (a :: l) = after pat l := if_neg h

/-- A part without the first symbol of the pattern is skipped. -/
theorem after_skip (h : a ∉ x) : after (a :: pat) (x ++ y) = after (a :: pat) y := by
  induction x with
  | nil => rfl
  | cons b x ih =>
    obtain ⟨hb, hx⟩ := not_or.1 (mt List.mem_cons.2 h)
    rw [List.cons_append, after_cons_of_not fun hp => hb (List.cons_prefix_cons.1 hp).1, ih hx]

/-! ## By index -/

/-- What is found is found at an index, and at no lower one. -/
theorem exists_index_of_after {rest : List α} (h : after pat l = some rest) :
    ∃ i, l.drop i = pat ++ rest ∧ ∀ j < i, ¬ pat <+: l.drop j := by
  induction l with
  | nil =>
    rw [after] at h
    split_ifs at h with hp
    cases h
    exact ⟨0, by rw [hp]; rfl, fun j hj => absurd hj (Nat.not_lt_zero j)⟩
  | cons x l ih =>
    rw [after] at h
    split_ifs at h with hp
    · cases h
      exact ⟨0, (List.prefix_iff_eq_append.1 hp).symm, fun j hj => absurd hj (Nat.not_lt_zero j)⟩
    · obtain ⟨i, hi, hlow⟩ := ih h
      refine ⟨i + 1, hi, fun j hj => ?_⟩
      cases j with
      | zero => exact hp
      | succ j => exact hlow j (Nat.lt_of_succ_lt_succ hj)

theorem not_prefix_of_after (h : after pat l = none) (i : ℕ) : ¬ pat <+: l.drop i := by
  induction l generalizing i with
  | nil =>
    rw [after] at h
    split_ifs at h with hp
    rw [List.drop_nil, List.prefix_nil]
    exact hp
  | cons x l ih =>
    rw [after] at h
    split_ifs at h with hp
    cases i with
    | zero => exact hp
    | succ i => exact ih h i

/-- The search by index, through all indices that leave a symbol after the pattern. -/
def index (pat l : List α) : Option ℕ :=
  (List.range (l.length - pat.length)).find? fun i => decide (pat <+: l.drop i)

theorem index_of_after_some {rest : List α} (h : after pat l = some rest) (hr : rest ≠ []) :
    ∃ i, index pat l = some i ∧ l.drop (i + pat.length) = rest := by
  obtain ⟨i, hi, hlow⟩ := exists_index_of_after h
  have hlen := congrArg List.length hi
  rw [List.length_drop, List.length_append] at hlen
  have hpos : 0 < rest.length := List.length_pos_iff.2 hr
  refine ⟨i, List.find?_range_eq_some.2 ⟨?_, List.mem_range.2 (by omega), fun j hj => ?_⟩, ?_⟩
  · exact decide_eq_true ⟨rest, hi.symm⟩
  · simpa using hlow j hj
  · rw [← List.drop_drop, hi, List.drop_left]

theorem index_of_after_none (h : after pat l = none) : index pat l = none :=
  List.find?_range_eq_none.2 fun i _ => by simpa using not_prefix_of_after h i

end

end Search
