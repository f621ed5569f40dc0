/-
  Words in memory: 16- and 32-bit words as bytes, the lowest first, and the
  exchange of the byte order.
-/
import Mathlib.Tactic
import Mathlib.Data.List.GetD

namespace Endian

/-- A word of 16 bits in memory. -/
def le16 (x : BitVec 16) : List (BitVec 8) := [x.extractLsb' 0 8, x.extractLsb' 8 8]

/-- A word of 32 bits in memory. -/
def le32 (x : BitVec 32) : List (BitVec 8) :=
  [x.extractLsb' 0 8, x.extractLsb' 8 8, x.extractLsb' 16 8, x.extractLsb' 24 8]

/-- The word at index `i` of a memory. -/
def get16 (l : List (BitVec 8)) (i : ℕ) : BitVec 16 := l.getD (i + 1) 0 ++ l.getD i 0

def get32 (l : List (BitVec 8)) (i : ℕ) : BitVec 32 :=
  l.getD (i + 3) 0 ++ l.getD (i + 2) 0 ++ l.getD (i + 1) 0 ++ l.getD i 0

/-- The word with its bytes in the opposite order. -/
def swap16 (x : BitVec 16) : BitVec 16 := x.extractLsb' 0 8 ++ x.extractLsb' 8 8

def swap32 (x : BitVec 32) : BitVec 32 :=
  x.extractLsb' 0 8 ++ x.extractLsb' 8 8 ++ x.extractLsb' 16 8 ++ x.extractLsb' 24 8

@[simp] theorem length_le16 (x : BitVec 16) : (le16 x).length = 2 := rfl

@[simp] theorem length_le32 (x : BitVec 32) : (le32 x).length = 4 := rfl

section
variable (a b c d : BitVec 8)

theorem le16_append : le16 (b ++ a : BitVec 16) = [a, b] := by
  have h₀ : (b ++ a : BitVec 16).extractLsb' 0 8 = a := BitVec.extractLsb'_append_eq_right
  have h₁ : (b ++ a : BitVec 16).extractLsb' 8 8 = b := BitVec.extractLsb'_append_eq_left
  rw [le16, h₀, h₁]

theorem le32_append : le32 (d ++ c ++ b ++ a : BitVec 32) = [a, b, c, d] := by
  have h₀ : (d ++ c ++ b ++ a : BitVec 32).extractLsb' 0 8 = a :=
    BitVec.extractLsb'_append_eq_right
  have h₁ : (d ++ c ++ b ++ a : BitVec 32).extractLsb' 8 8 = b := by
    rw [BitVec.extractLsb'_append_eq_of_le (by decide)]
    exact BitVec.extractLsb'_append_eq_right
  have h₂ : (d ++ c ++ b ++ a : BitVec 32).extractLsb' 16 8 = c := by
    rw [BitVec.extractLsb'_append_eq_of_le (by decide),
      BitVec.extractLsb'_append_eq_of_le (by decide)]
    exact BitVec.extractLsb'_append_eq_right
  have h₃ : (d ++ c ++ b ++ a : BitVec 32).extractLsb' 24 8 = d := by
    rw [BitVec.extractLsb'_append_eq_of_le (by decide),
      BitVec.extractLsb'_append_eq_of_le (by decide)]
    exact BitVec.extractLsb'_append_eq_left
  rw [le32, h₀, h₁, h₂, h₃]

/-- A word read back from memory. -/
theorem get16_le16 (x : BitVec 16) (l : List (BitVec 8)) : get16 (le16 x ++ l) 0 = x := by
  change (x.extractLsb' 8 8 ++ x.extractLsb' 0 8 : BitVec 16) = x
  rw [BitVec.extractLsb'_append_extractLsb'_eq_extractLsb' (by rfl)]
  simp

theorem get32_le32 (x : BitVec 32) (l : List (BitVec 8)) : get32 (le32 x ++ l) 0 = x := by
  change (x.extractLsb' 24 8 ++ x.extractLsb' 16 8 ++ x.extractLsb' 8 8 ++ x.extractLsb' 0 8 :
    BitVec 32) = x
  rw [BitVec.extractLsb'_append_extractLsb'_eq_extractLsb' (by rfl),
    BitVec.extractLsb'_append_extractLsb'_eq_extractLsb' (by rfl),
    BitVec.extractLsb'_append_extractLsb'_eq_extractLsb' (by rfl)]
  simp

end

/-- The bytes of a word that was read from memory. -/
theorem get32_drop (l : List (BitVec 8)) (k i : ℕ) : get32 (l.drop k) i = get32 l (k + i) := by
  simp only [get32, List.getD_eq_getElem?_getD, List.getElem?_drop, Nat.add_assoc]

theorem get32_append {k : ℕ} {l : List (BitVec 8)} (h : l.length = k) (m : List (BitVec 8)) :
    get32 (l ++ m) k = get32 m 0 := by
  rw [← Nat.add_zero k, ← get32_drop, List.drop_left' h]

theorem le32_get32 (l : List (BitVec 8)) (i : ℕ) :
    le32 (get32 l i) = [l.getD i 0, l.getD (i + 1) 0, l.getD (i + 2) 0, l.getD (i + 3) 0] :=
  le32_append _ _ _ _

theorem le32_get32_eq_take {l : List (BitVec 8)} {i : ℕ} (h : i + 4 ≤ l.length) :
    le32 (get32 l i) = (l.drop i).take 4 := by
  rw [le32_get32]
  refine List.ext_getElem (by simp; omega) fun k hk _ => ?_
  have hk : k < 4 := hk
  rw [List.getElem_take, List.getElem_drop]
  interval_cases k <;> exact List.getD_eq_getElem l 0 (by omega)

/-- A word of 16 bits made one of 32 bits. -/
theorem le32_setWidth (x : BitVec 16) : le32 (x.setWidth 32) = le16 x ++ [0, 0] := by
  simp only [le32, le16, List.cons_append, List.nil_append, List.cons.injEq, and_true]
  refine ⟨?_, ?_, ?_, ?_⟩
  all_goals
    ext i hi
    interval_cases i <;> simp

/-- A word of 32 bits cut to 16 bits. -/
theorem le16_setWidth (x : BitVec 32) : le16 (x.setWidth 16) = (le32 x).take 2 := by
  simp only [le32, le16, List.take_succ_cons, List.take_zero, List.cons.injEq, and_true]
  refine ⟨?_, ?_⟩
  all_goals
    ext i hi
    interval_cases i <;> simp

theorem le16_inj {x y : BitVec 16} : le16 x = le16 y ↔ x = y := by
  refine ⟨fun h => ?_, fun h => by rw [h]⟩
  rw [← get16_le16 x [], ← get16_le16 y [], h]

theorem le32_inj {x y : BitVec 32} : le32 x = le32 y ↔ x = y := by
  refine ⟨fun h => ?_, fun h => by rw [h]⟩
  rw [← get32_le32 x [], ← get32_le32 y [], h]

/-! ## The other order -/

theorem le16_swap16 (x : BitVec 16) : le16 (swap16 x) = (le16 x).reverse := by
  rw [swap16, le16_append]; rfl

theorem le32_swap32 (x : BitVec 32) : le32 (swap32 x) = (le32 x).reverse := by
  rw [swap32, le32_append]; rfl

theorem swap16_append (a b : BitVec 8) : swap16 (b ++ a : BitVec 16) = (a ++ b : BitVec 16) := by
  rw [← le16_inj, le16_swap16, le16_append, le16_append]; rfl

@[simp] theorem swap16_swap16 (x : BitVec 16) : swap16 (swap16 x) = x := by
  rw [← le16_inj, le16_swap16, le16_swap16, List.reverse_reverse]

@[simp] theorem swap32_swap32 (x : BitVec 32) : swap32 (swap32 x) = x := by
  rw [← le32_inj, le32_swap32, le32_swap32, List.reverse_reverse]

/-! ## Counting in the other order -/

/-- A word of 32 bits as the number of its bytes, the lowest first. -/
theorem toNat_append₄ (a b c d : BitVec 8) : (d ++ c ++ b ++ a : BitVec 32).toNat =
    d.toNat * 2 ^ 24 + (c.toNat * 2 ^ 16 + b.toNat * 2 ^ 8 + a.toNat) := by
  have ha := a.isLt
  have hb := b.isLt
  have hc := c.isLt
  simp only [BitVec.toNat_append]
  rw [← Nat.shiftLeft_add_eq_or_of_lt ha, ← Nat.shiftLeft_add_eq_or_of_lt hb,
    ← Nat.shiftLeft_add_eq_or_of_lt hc]
  simp only [Nat.shiftLeft_eq]
  omega

theorem append_extractLsb' (x : BitVec 32) :
    x = x.extractLsb' 24 8 ++ x.extractLsb' 16 8 ++ x.extractLsb' 8 8 ++ x.extractLsb' 0 8 :=
  (get32_le32 x []).symm

/-- The bytes of a word and of its successor, if they are those of a number and its successor in
    the other order, too: the word is the last one. -/
theorem carry_both_ways {a₀ a₁ a₂ a₃ b₀ b₁ b₂ b₃ : ℕ} (ha₀ : a₀ < 256) (ha₁ : a₁ < 256)
    (ha₂ : a₂ < 256) (ha₃ : a₃ < 256) (hb₀ : b₀ < 256) (hb₁ : b₁ < 256) (hb₂ : b₂ < 256) (hb₃ : b₃ < 256)
    (h : b₃ * 2 ^ 24 + (b₂ * 2 ^ 16 + b₁ * 2 ^ 8 + b₀) =
      (a₃ * 2 ^ 24 + (a₂ * 2 ^ 16 + a₁ * 2 ^ 8 + a₀) + 1) % 2 ^ 32)
    (hs : b₀ * 2 ^ 24 + (b₁ * 2 ^ 16 + b₂ * 2 ^ 8 + b₃) =
      (a₀ * 2 ^ 24 + (a₁ * 2 ^ 16 + a₂ * 2 ^ 8 + a₃) + 1) % 2 ^ 32) :
    b₃ * 2 ^ 24 + (b₂ * 2 ^ 16 + b₁ * 2 ^ 8 + b₀) = 0 := by
  have hlow : b₀ = (a₀ + 1) % 256 := by omega
  obtain ⟨r, hr⟩ : ∃ r, r = a₁ * 2 ^ 16 + a₂ * 2 ^ 8 + a₃ := ⟨_, rfl⟩
  obtain ⟨t, ht⟩ : ∃ t, t = b₁ * 2 ^ 16 + b₂ * 2 ^ 8 + b₃ := ⟨_, rfl⟩
  have hr' : r < 2 ^ 24 := by omega
  have ht' : t < 2 ^ 24 := by omega
  rw [← hr, ← ht] at hs
  -- the lowest byte counts up, so in the other order there is a carry out of the other three
  have hcarry : r = 2 ^ 24 - 1 ∧ t = 0 := by
    clear h hr ht
    omega
  have ha : a₁ = 255 ∧ a₂ = 255 ∧ a₃ = 255 := by clear h hs; omega
  have hb : b₁ = 0 ∧ b₂ = 0 ∧ b₃ = 0 := by clear h hs; omega
  obtain ⟨rfl, rfl, rfl⟩ := ha
  obtain ⟨rfl, rfl, rfl⟩ := hb
  clear hs hr ht
  omega

/-- The only number that is followed by the next one in both orders. -/
theorem swap32_add_one_iff (x : BitVec 32) : swap32 (x + 1) = swap32 x + 1 ↔ x + 1 = 0 := by
  constructor
  · intro h
    have hx := congrArg BitVec.toNat (append_extractLsb' x)
    have hy := congrArg BitVec.toNat (append_extractLsb' (x + 1))
    have hs := congrArg BitVec.toNat h
    rw [BitVec.toNat_add, swap32, swap32, toNat_append₄, toNat_append₄] at hs
    rw [toNat_append₄] at hx hy
    have hadd : (x + 1).toNat = (x.toNat + 1) % 2 ^ 32 := BitVec.toNat_add _ _
    rw [hx, hy] at hadd
    have hzero := carry_both_ways (BitVec.isLt _) (BitVec.isLt _) (BitVec.isLt _) (BitVec.isLt _)
      (BitVec.isLt _) (BitVec.isLt _) (BitVec.isLt _) (BitVec.isLt _) hadd hs
    exact BitVec.eq_of_toNat_eq (hy.trans hzero)
  · intro h
    have hx : x = 0 - 1 := by rw [← h, BitVec.add_sub_cancel]
    subst hx
    decide

end Endian
