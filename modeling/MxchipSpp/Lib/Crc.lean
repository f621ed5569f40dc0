/-
  Cyclic redundancy checks of reflected shift registers.

  A register of any width is shifted right, and the polynomial is added when a
  1 falls out.  That is linear, and as long as only zeros fall out it is a mere
  shift (`iterate_shift_xor`, `iterate_shift_of_low`); so a byte is folded in
  with one look into a table (`byte_eq`).  If the polynomial has its highest
  bit, nothing is lost (`shift_injective`), so a byte is seen in the register it
  leaves (`byte_injective`).
-/
import Mathlib.Tactic

namespace Crc

variable {w : ℕ} (poly : BitVec w)

/-- One step of the register. -/
def shift (c : BitVec w) : BitVec w := if c.getLsbD 0 then (c >>> 1) ^^^ poly else c >>> 1

/-- A byte folded into the register, bit by bit. -/
def byte (c : BitVec w) (x : BitVec 8) : BitVec w := (shift poly)^[8] (c ^^^ x.setWidth w)

theorem shift_xor (a b : BitVec w) : shift poly (a ^^^ b) = shift poly a ^^^ shift poly b := by
  unfold shift
  simp only [BitVec.getLsbD_xor, BitVec.ushiftRight_xor_distrib]
  cases a.getLsbD 0 <;> cases b.getLsbD 0
  · rfl
  · simp [BitVec.xor_assoc]
  · simp [BitVec.xor_assoc, BitVec.xor_comm poly]
  · -- the polynomial is added twice
    have hp : poly ^^^ (b >>> 1 ^^^ poly) = b >>> 1 := by
      rw [BitVec.xor_comm, BitVec.xor_assoc, BitVec.xor_self, BitVec.xor_zero]
    simp [BitVec.xor_assoc, hp]

theorem iterate_shift_xor (n : ℕ) (a b : BitVec w) :
    (shift poly)^[n] (a ^^^ b) = (shift poly)^[n] a ^^^ (shift poly)^[n] b := by
  induction n generalizing a b with
  | zero => rfl
  | succ n ih => rw [Function.iterate_succ_apply, shift_xor, ih]; rfl

/-- Zeros fall out without a trace. -/
theorem iterate_shift_of_low {c : BitVec w} {n : ℕ} (h : ∀ i < n, c.getLsbD i = false) :
    (shift poly)^[n] c = c >>> n := by
  induction n with
  | zero => rw [Function.iterate_zero_apply, BitVec.ushiftRight_zero]
  | succ n ih =>
    have hn : (c >>> n).getLsbD 0 = false := by
      rw [BitVec.getLsbD_ushiftRight]
      exact h n (Nat.lt_succ_self n)
    rw [Function.iterate_succ_apply', ih fun i hi => h i (by omega), shift, hn]
    rw [if_neg Bool.false_ne_true, ← BitVec.shiftRight_add]

/-- A register and a byte, taken apart into the bits above the byte and the index of the table. -/
theorem xor_split (c : BitVec w) (x : BitVec 8) :
    c ^^^ x.setWidth w = (c >>> 8) <<< 8 ^^^ (c.setWidth 8 ^^^ x).setWidth w := by
  refine BitVec.eq_of_getLsbD_eq fun i hi => ?_
  simp only [BitVec.getLsbD_xor, BitVec.getLsbD_setWidth, BitVec.getLsbD_shiftLeft,
    BitVec.getLsbD_ushiftRight, hi, decide_true, Bool.true_and]
  rcases Nat.lt_or_ge i 8 with h8 | h8
  · simp [h8]
  · have h8' : ¬ i < 8 := Nat.not_lt.2 h8
    have hx : x.getLsbD i = false := BitVec.getLsbD_of_ge x i h8
    simp [h8', hx, Nat.add_sub_cancel' h8]

/-- **A byte is one look into the table** of what the register holds after one byte. -/
theorem byte_eq (c : BitVec w) (x : BitVec 8) :
    byte poly c x = (c >>> 8) ^^^ byte poly 0 (c.setWidth 8 ^^^ x) := by
  have hlow : ∀ i < 8, ((c >>> 8) <<< 8).getLsbD i = false := fun i hi => by
    simp [BitVec.getLsbD_shiftLeft, hi]
  have hhigh : (c >>> 8) <<< 8 >>> 8 = c >>> 8 := by
    refine BitVec.eq_of_getLsbD_eq fun i hi => ?_
    simp only [BitVec.getLsbD_ushiftRight, BitVec.getLsbD_shiftLeft]
    rcases Nat.lt_or_ge (8 + i) w with h | h
    · simp [h]
    · simp [BitVec.getLsbD_of_ge c (8 + i) h]
  rw [byte, xor_split, iterate_shift_xor, iterate_shift_of_low poly hlow, hhigh, byte,
    show (0 : BitVec w) = 0#w from rfl, BitVec.zero_xor]

/-! ## What a register keeps -/

section
variable {poly} (hp : poly.msb = true)
include hp

/-- A polynomial with its highest bit keeps a register from running empty. -/
theorem eq_zero_of_shift {c : BitVec w} (h : shift poly c = 0) : c = 0 := by
  unfold shift at h
  split_ifs at h with h₀
  · -- the highest bit of the polynomial would stay
    have heq : c >>> 1 = poly := BitVec.xor_eq_zero_iff.1 h
    have hmsb : (c >>> 1).msb = false := by
      simp only [BitVec.msb_eq_getLsbD_last, BitVec.getLsbD_ushiftRight]
      exact BitVec.getLsbD_of_ge c _ (by omega)
    rw [heq, hp] at hmsb
    cases hmsb
  · refine BitVec.eq_of_getLsbD_eq fun i hi => ?_
    rcases i with _ | i
    · simpa using h₀
    · have hbit := congrArg (·.getLsbD i) h
      simpa [BitVec.getLsbD_ushiftRight, Nat.add_comm] using hbit

theorem shift_injective : Function.Injective (shift poly) := by
  intro a b h
  have h₀ : shift poly (a ^^^ b) = 0 := by
    rw [shift_xor, h]
    exact BitVec.xor_self
  exact BitVec.xor_eq_zero_iff.1 (eq_zero_of_shift hp h₀)

/-- **No two bytes leave the same register.** -/
theorem byte_injective (hw : 8 ≤ w) (c : BitVec w) : Function.Injective (byte poly c) := by
  intro x y h
  have hxor := (shift_injective hp).iterate 8 h
  have hset : x.setWidth w = y.setWidth w := (BitVec.xor_right_inj c).1 hxor
  have hback := congrArg (·.setWidth 8) hset
  simpa [BitVec.setWidth_setWidth_of_le, hw] using hback

end

end Crc
