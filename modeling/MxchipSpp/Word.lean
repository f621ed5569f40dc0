/-
  The machine words of the program.

  Bytes are bit vectors.  Counters are natural numbers, and an assignment to
  a `u8` or `u16` variable is an explicit reduction of the integer assigned.
-/
import Mathlib.Tactic

namespace MxchipSpp

abbrev Byte := BitVec 8

/-! What memberships of bytes, and indices written as numbers, rest on. -/

instance lawfulBEq_byte : LawfulBEq Byte := inferInstance
instance neZero_131 : NeZero 131 := ⟨by decide⟩
instance neZero_136 : NeZero 136 := ⟨by decide⟩
instance neZero_250 : NeZero 250 := ⟨by decide⟩

/-- The value an assignment to a `u8` leaves. -/
def u8 (x : ℤ) : ℕ := (x % 256).toNat

/-- The value an assignment to a `u16` leaves. -/
def u16 (x : ℤ) : ℕ := (x % 65536).toNat

theorem u8_eq {x : ℤ} {n : ℕ} (h : x = n) (hn : n < 256) : u8 x = n := by
  unfold u8; omega

theorem u16_eq {x : ℤ} {n : ℕ} (h : x = n) (hn : n < 65536) : u16 x = n := by
  unfold u16; omega

theorem u8_lt (x : ℤ) : u8 x < 256 := by
  unfold u8; omega

theorem u16_lt (x : ℤ) : u16 x < 65536 := by
  unfold u16; omega

theorem u8_le {x : ℤ} (h : 0 ≤ x) : (u8 x : ℤ) ≤ x := by
  unfold u8; omega

end MxchipSpp
