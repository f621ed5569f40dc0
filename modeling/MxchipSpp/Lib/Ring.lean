/-
  Rings: a list of cells read cyclically.

  `window cells off n` are the `n` cells found from index `off` on, going back
  to the first cell after the last one.  The lemmas say what a read or a write
  that is cut in two at the end of the cells does to the window.
-/
import MxchipSpp.Lib.Memory

namespace Ring

universe u
variable {α : Type u}

/-- The `n` cells from index `off` on, cyclically. -/
def window (cells : List α) (off n : ℕ) : List α := ((cells ++ cells).drop off).take n

variable {cells src : List α} {off n k o : ℕ}

theorem length_window (ho : off ≤ cells.length) (hn : n ≤ cells.length) :
    (window cells off n).length = n := by
  simp [window]; omega

theorem take_window (hk : k ≤ n) : (window cells off n).take k = window cells off k := by
  rw [window, List.take_take, Nat.min_eq_left hk, window]

theorem drop_window : (window cells off n).drop k = window cells (off + k) (n - k) := by
  rw [window, List.drop_take, List.drop_drop, window]

/-- The same window from a turn later. -/
theorem window_add_length (cells : List α) (off n : ℕ) (hn : off + n ≤ cells.length) :
    window cells (cells.length + off) n = window cells off n := by
  rw [window, window, ← List.drop_drop, List.drop_left, List.drop_append_of_le_length (by omega),
    List.take_append_of_le_length (by simp; omega)]

theorem window_of_le (h : off + n ≤ cells.length) :
    window cells off n = (cells.drop off).take n := by
  rw [window, List.drop_append_of_le_length (by omega),
    List.take_append_of_le_length (by simp; omega)]

/-- A window over the end is read in two parts. -/
theorem window_wrap (ho : off ≤ cells.length) (h : cells.length ≤ off + n) :
    window cells off n =
      (cells.drop off).take (cells.length - off) ++ cells.take (n - (cells.length - off)) := by
  have h1 : (cells.drop off).length = cells.length - off := List.length_drop
  rw [window, List.drop_append_of_le_length ho, List.take_append, h1,
    List.take_of_length_le (h1.le.trans (by omega)), List.take_of_length_le h1.le]

theorem window_getElem? (ho : off ≤ cells.length) (hn : n ≤ cells.length) {i : ℕ} (hi : i < n) :
    (window cells off n)[i]? = cells[(off + i) % cells.length]? := by
  rw [window, List.getElem?_take_of_lt hi, List.getElem?_drop]
  by_cases h : off + i < cells.length
  · rw [List.getElem?_append_left h, Nat.mod_eq_of_lt h]
  · rw [List.getElem?_append_right (by omega), Nat.mod_eq_sub_mod (by omega),
      Nat.mod_eq_of_lt (by omega)]

/-- **Appending.**  Cells that keep the window and hold `src` after it, cyclically. -/
theorem window_append (cells : List α) {cells' : List α} (hl : cells'.length = cells.length)
    (ho : off ≤ cells.length) (hn : n + src.length ≤ cells.length)
    (h₀ : ∀ i < n, cells'[(off + i) % cells.length]? = cells[(off + i) % cells.length]?)
    (h₁ : ∀ i < src.length, cells'[(off + (n + i)) % cells.length]? = src[i]?) :
    window cells' off (n + src.length) = window cells off n ++ src := by
  have hw : (window cells off n).length = n := length_window ho (by omega)
  refine List.ext_getElem? fun i => ?_
  by_cases hi : i < n + src.length
  · rw [window_getElem? (by omega) (by omega) hi, hl]
    by_cases hin : i < n
    · rw [List.getElem?_append_left (by omega), window_getElem? ho (by omega) hin, h₀ i hin]
    · rw [List.getElem?_append_right (by omega), hw, ← h₁ (i - n) (by omega)]
      congr 2; omega
  · rw [List.getElem?_eq_none (by rw [length_window (by omega) (by omega)]; omega),
      List.getElem?_eq_none (by simp [hw]; omega)]

/-- An index after `off` is reduced by at most one turn. -/
theorem add_mod_cases {L a i : ℕ} (ha : a ≤ L) (hi : i < L) :
    (a + i) % L = if a + i < L then a + i else a + i - L := by
  split_ifs with h
  · exact Nat.mod_eq_of_lt h
  · rw [Nat.mod_eq_sub_mod (by omega), Nat.mod_eq_of_lt (by omega)]

end Ring
