/-
  Bounds-checked memory: array objects of a fixed size.

  A `Block α n` is an array of `n` cells.  Reads and writes take any index; an
  access that leaves the array is `none`, since nothing can be said of a
  program after it.  `put` is the write whose bounds are already known.
-/
import Mathlib.Tactic
import Mathlib.Data.List.GetD

namespace Memory

universe u

/-- An array object of `n` cells. -/
structure Block (α : Type u) (n : ℕ) where
  cells : List α
  size : cells.length = n

namespace Block
variable {α : Type u} {n : ℕ}

@[ext] theorem ext {a b : Block α n} (h : a.cells = b.cells) : a = b := by
  cases a; cases b; cases h; rfl

@[simp] theorem length_cells (a : Block α n) : a.cells.length = n := a.size

/-- The array holding `x` everywhere. -/
def fill (n : ℕ) (x : α) : Block α n := ⟨List.replicate n x, List.length_replicate⟩

/-- `a[i]`, for any integer `i`. -/
def read (a : Block α n) (i : ℤ) : Option α := if 0 ≤ i then a.cells[i.toNat]? else none

/-- The `k` cells from index `i` on. -/
def slice (a : Block α n) (i k : ℕ) : Option (List α) :=
  if i + k ≤ n then some ((a.cells.drop i).take k) else none

/-- `src` copied over the cells from index `i` on, within the bounds. -/
def put (a : Block α n) (i : ℕ) (src : List α) (h : i + src.length ≤ n) : Block α n :=
  ⟨a.cells.take i ++ (src ++ a.cells.drop (i + src.length)), by simp; omega⟩

/-- `src` copied over the cells from index `i` on. -/
def write (a : Block α n) (i : ℕ) (src : List α) : Option (Block α n) :=
  if h : i + src.length ≤ n then some (a.put i src h) else none

/-- `a[i]`, for an index known to be in bounds. -/
def get (a : Block α n) (i : Fin n) : α := a.cells.get (i.cast a.size.symm)

/-- `a[i] = x`, for an index known to be in bounds. -/
def set (a : Block α n) (i : Fin n) (x : α) : Block α n := ⟨a.cells.set i x, by simp⟩

/-! ## Which accesses are in bounds -/

theorem read_isSome {a : Block α n} {i : ℤ} : (a.read i).isSome ↔ 0 ≤ i ∧ i < n := by
  unfold read
  split_ifs with h
  · simp; omega
  · simp [h]

theorem read_natCast (a : Block α n) (i : ℕ) : a.read i = a.cells[i]? := by
  simp [read]

theorem read_eq_some_iff {a : Block α n} {i : ℕ} {x : α} :
    a.read i = some x ↔ ∃ ys, a.cells.drop i = x :: ys := by
  rw [read_natCast, ← List.head?_drop, List.head?_eq_some_iff]

theorem slice_isSome {a : Block α n} {i k : ℕ} : (a.slice i k).isSome ↔ i + k ≤ n := by
  unfold slice; split_ifs with h <;> simp [h]

theorem slice_of_le (a : Block α n) {i k : ℕ} (h : i + k ≤ n) :
    a.slice i k = some ((a.cells.drop i).take k) := if_pos h

theorem slice_eq_some {a : Block α n} {i k : ℕ} {l : List α} :
    a.slice i k = some l ↔ i + k ≤ n ∧ (a.cells.drop i).take k = l := by
  unfold slice; split_ifs with h <;> simp [h]

theorem length_of_slice {a : Block α n} {i k : ℕ} {l : List α} (h : a.slice i k = some l) :
    l.length = k := by
  obtain ⟨hk, rfl⟩ := slice_eq_some.1 h
  simp; omega

theorem cells_of_slice_zero {a : Block α n} {k : ℕ} {l : List α} (h : a.slice 0 k = some l) :
    ∃ rest, a.cells = l ++ rest := by
  obtain ⟨-, rfl⟩ := slice_eq_some.1 h
  exact ⟨a.cells.drop k, (List.take_append_drop k a.cells).symm⟩

theorem write_isSome {a : Block α n} {i : ℕ} {src : List α} :
    (a.write i src).isSome ↔ i + src.length ≤ n := by
  unfold write; split_ifs with h <;> simp [h]

theorem write_of_le (a : Block α n) {i : ℕ} {src : List α} (h : i + src.length ≤ n) :
    a.write i src = some (a.put i src h) := dif_pos h

theorem write_eq_some {a b : Block α n} {i : ℕ} {src : List α} :
    a.write i src = some b ↔ ∃ h : i + src.length ≤ n, a.put i src h = b := by
  unfold write; split_ifs with h <;> simp [h]

/-! ## What a write leaves behind -/

theorem cells_put (a : Block α n) {i : ℕ} {src : List α} (h : i + src.length ≤ n) :
    (a.put i src h).cells = a.cells.take i ++ (src ++ a.cells.drop (i + src.length)) := rfl

theorem put_getElem? (a : Block α n) {i : ℕ} {src : List α} (h : i + src.length ≤ n) (k : ℕ) :
    (a.put i src h).cells[k]? =
      if k < i then a.cells[k]? else if k < i + src.length then src[k - i]? else a.cells[k]? := by
  have hi : (a.cells.take i).length = i := by simp; omega
  rw [cells_put]
  split_ifs with h1 h2
  · rw [List.getElem?_append_left (by omega), List.getElem?_take_of_lt h1]
  · rw [List.getElem?_append_right (by omega), List.getElem?_append_left (by omega), hi]
  · rw [List.getElem?_append_right (by omega), List.getElem?_append_right (by omega), hi,
      List.getElem?_drop]
    congr 1; omega

theorem getElem?_eq_get (a : Block α n) (i : Fin n) : a.cells[(i : ℕ)]? = some (a.get i) := by
  simp [get]

theorem get_eq_of_getElem? {a : Block α n} {i : Fin n} {x : α} (h : a.cells[(i : ℕ)]? = some x) :
    a.get i = x := by
  rw [getElem?_eq_get] at h; exact Option.some.inj h

theorem get_put_of_lt (a : Block α n) {i : ℕ} {src : List α} (h : i + src.length ≤ n) (k : Fin n)
    (hk : (k : ℕ) < i) : (a.put i src h).get k = a.get k := by
  apply get_eq_of_getElem?
  rw [put_getElem?, if_pos hk, getElem?_eq_get]

theorem get_set (a : Block α n) (i k : Fin n) (x : α) :
    (a.set i x).get k = if k = i then x else a.get k := by
  rw [get, set, List.get_eq_getElem, List.getElem_set]
  simp only [Fin.ext_iff, eq_comm (a := (k : ℕ))]
  rfl

@[simp] theorem get_set_self (a : Block α n) (i : Fin n) (x : α) : (a.set i x).get i = x := by
  simp [get_set]

theorem get_set_ne (a : Block α n) {i k : Fin n} (x : α) (h : k ≠ i) :
    (a.set i x).get k = a.get k := by
  simp [get_set, h]

theorem take_cells_set (a : Block α n) {i : Fin n} {k : ℕ} (x : α) (h : k ≤ i) :
    (a.set i x).cells.take k = a.cells.take k := List.take_set_of_le h

@[simp] theorem put_nil (a : Block α n) {i : ℕ} (h : i + ([] : List α).length ≤ n) :
    a.put i [] h = a := by
  ext1; simp [cells_put]

/-- Two writes side by side are one write. -/
theorem put_put (a : Block α n) {i j : ℕ} {xs ys : List α} (h : i + xs.length ≤ n)
    (h' : j + ys.length ≤ n) (hj : j = i + xs.length) (h'' : i + (xs ++ ys).length ≤ n) :
    (a.put i xs h).put j ys h' = a.put i (xs ++ ys) h'' := by
  subst hj
  have hi : (a.cells.take i ++ xs).length = i + xs.length := by simp; omega
  have ht : (a.put i xs h).cells.take (i + xs.length) = a.cells.take i ++ xs := by
    rw [cells_put, ← List.append_assoc, List.take_left' hi]
  have hd : (a.put i xs h).cells.drop (i + xs.length + ys.length) =
      a.cells.drop (i + (xs.length + ys.length)) := by
    rw [← List.drop_drop, cells_put, ← List.append_assoc, List.drop_left' hi, List.drop_drop,
      Nat.add_assoc]
  ext1
  rw [cells_put, ht, hd, cells_put, List.length_append, List.append_assoc, List.append_assoc]

/-- A write is read back. -/
theorem slice_put (a : Block α n) {i : ℕ} {src : List α} (h : i + src.length ≤ n) :
    (a.put i src h).slice i src.length = some src := by
  have hi : (a.cells.take i).length = i := by simp; omega
  rw [slice_of_le _ h, cells_put, List.drop_left' hi, List.take_left]

/-- What is there already is written. -/
theorem put_of_slice {a : Block α n} {i : ℕ} {l : List α} (h : a.slice i l.length = some l)
    (hfit : i + l.length ≤ n) : a.put i l hfit = a := by
  obtain ⟨-, hcells⟩ := slice_eq_some.1 h
  ext1
  rw [cells_put, ← List.drop_drop, ← hcells, List.length_take, List.length_drop, length_cells,
    Nat.min_eq_left (by omega), List.take_append_drop, List.take_append_drop]

/-- A slice in two parts. -/
theorem slice_append {a : Block α n} {i j k : ℕ} {xs ys : List α} (hj : xs.length = j)
    (h : a.slice i (j + k) = some (xs ++ ys)) :
    a.slice i j = some xs ∧ a.slice (i + j) k = some ys := by
  obtain ⟨hfit, hcells⟩ := slice_eq_some.1 h
  refine ⟨slice_eq_some.2 ⟨by omega, ?_⟩, slice_eq_some.2 ⟨by omega, ?_⟩⟩
  · rw [← (List.take_left' hj : (xs ++ ys).take j = xs), ← hcells, List.take_take, Nat.min_eq_left (by omega)]
  · rw [← (List.drop_left' hj : (xs ++ ys).drop j = ys), ← hcells, List.drop_take, List.drop_drop,
      Nat.add_sub_cancel_left]

/-- Whether a write stays in bounds depends on its length only. -/
theorem write_eq_none {a b : Block α n} {i : ℕ} {xs ys : List α} (hlen : xs.length = ys.length)
    (h : a.write i xs = none) : b.write i ys = none := by
  rw [← Option.not_isSome_iff_eq_none, write_isSome] at h ⊢
  rwa [← hlen]

/-- Two slices side by side are one. -/
theorem slice_of_append {a : Block α n} {i j k : ℕ} {xs ys : List α} (hx : a.slice i j = some xs)
    (hy : a.slice (i + j) k = some ys) : a.slice i (j + k) = some (xs ++ ys) := by
  obtain ⟨-, hx⟩ := slice_eq_some.1 hx
  obtain ⟨hfit, hy⟩ := slice_eq_some.1 hy
  refine slice_eq_some.2 ⟨by omega, ?_⟩
  rw [List.take_add, hx, List.drop_drop, hy]

/-- A write and one behind it, as one. -/
theorem write_bind_write (a : Block α n) {i j : ℕ} (xs ys : List α) (hj : j = i + xs.length) :
    (a.write i xs).bind (fun b => b.write j ys) = a.write i (xs ++ ys) := by
  by_cases h : i + (xs ++ ys).length ≤ n
  · have h' := h
    rw [List.length_append] at h'
    rw [write_of_le _ (show i + xs.length ≤ n by omega), Option.bind_some,
      write_of_le _ (show j + ys.length ≤ n by omega), put_put _ _ _ hj h, write_of_le _ h]
  · rw [write, write, dif_neg h]
    rw [List.length_append] at h
    split_ifs with hx
    · rw [Option.bind_some, write, dif_neg (by omega)]
    · rfl

/-- The front of a write is written again. -/
theorem put_write (a : Block α n) {i : ℕ} {xs ys zs : List α} (h : i + (xs ++ ys).length ≤ n)
    (hlen : zs.length = xs.length) :
    (a.put i (xs ++ ys) h).write i zs = a.write i (zs ++ ys) := by
  have h' := h
  rw [List.length_append] at h'
  rw [write_of_le _ (show i + zs.length ≤ n by omega),
    write_of_le _ (show i + (zs ++ ys).length ≤ n by rw [List.length_append]; omega)]
  congr 1
  ext1
  have hi : (a.cells.take i).length = i := by simp; omega
  have hpre : (a.cells.take i ++ xs).length = i + zs.length := by
    rw [List.length_append, hi, hlen]
  have hdrop : (a.cells.take i ++ (xs ++ ys ++ a.cells.drop (i + (xs ++ ys).length))).drop
      (i + zs.length) = ys ++ a.cells.drop (i + (xs ++ ys).length) := by
    rw [List.append_assoc xs, ← List.append_assoc, List.drop_left' hpre]
  rw [cells_put, cells_put, cells_put, List.take_left' hi, hdrop, List.length_append,
    List.length_append, hlen, List.append_assoc]

/-- A write is written again. -/
theorem put_write_same (a : Block α n) {i : ℕ} {xs zs : List α} (h : i + xs.length ≤ n)
    (hlen : zs.length = xs.length) : (a.put i xs h).write i zs = a.write i zs := by
  have h' : i + (xs ++ []).length ≤ n := by rwa [List.append_nil]
  simpa only [List.append_nil] using put_write a h' hlen

/-- What is behind a write stays. -/
theorem slice_put_of_le (a : Block α n) {i j k : ℕ} {src : List α} (h : i + src.length ≤ n)
    (hj : i + src.length ≤ j) : (a.put i src h).slice j k = a.slice j k := by
  unfold slice
  split_ifs with hk
  · have hlen : (a.cells.take i ++ src).length = i + src.length := by simp; omega
    rw [cells_put, ← List.append_assoc, List.drop_append, hlen,
      List.drop_eq_nil_of_le (by omega), List.nil_append, List.drop_drop]
    congr 3; omega
  · rfl

/-- What is in front of a write stays. -/
theorem slice_put_before (a : Block α n) {i j k : ℕ} {src : List α} (h : i + src.length ≤ n)
    (hj : j + k ≤ i) : (a.put i src h).slice j k = a.slice j k := by
  have hlen : j ≤ (a.cells.take i).length := by simp; omega
  have hk : k ≤ ((a.cells.take i).drop j).length := by simp; omega
  rw [slice_of_le _ (by omega), slice_of_le _ (by omega), cells_put, List.drop_append_of_le_length hlen,
    List.take_append_of_le_length hk, List.drop_take, List.take_take, Nat.min_eq_left (by omega)]

/-- A write at the front of a block. -/
theorem cells_put_zero (a : Block α n) {src : List α} (h : 0 + src.length ≤ n) :
    (a.put 0 src h).cells = src ++ a.cells.drop src.length := by
  simp [cells_put]

theorem slice_put_zero (a : Block α n) {src : List α} (h : 0 + src.length ≤ n) :
    (a.put 0 src h).slice 0 src.length = some src := slice_put a h

/-- Two writes side by side at the front are read back. -/
theorem slice_put_put (a : Block α n) {xs ys : List α} (h : 0 + xs.length ≤ n) {j : ℕ}
    (h' : j + ys.length ≤ n) (hj : j = xs.length) :
    ((a.put 0 xs h).put j ys h').slice 0 (j + ys.length) = some (xs ++ ys) := by
  have hl : (xs ++ ys).length = j + ys.length := by rw [List.length_append, hj]
  rw [put_put a h h' (by omega) (by omega), ← hl, slice_put_zero]

/-- A write behind such a write continues it. -/
theorem write_put_zero (a : Block α n) {xs : List α} (ys : List α) (h : 0 + xs.length ≤ n) {j : ℕ}
    (hj : j = xs.length) : (a.put 0 xs h).write j ys = a.write 0 (xs ++ ys) := by
  by_cases hfit : 0 + (xs ++ ys).length ≤ n
  · rw [write_of_le _ hfit, write_of_le _ (by simp at hfit; omega), put_put _ h _ (by omega) hfit]
  · rw [write, dif_neg (by simp at hfit; omega), write, dif_neg hfit]

theorem bind_write (a : Block α n) (xs ys : List α) {j : ℕ} (hj : j = xs.length) :
    (a.write 0 xs).bind (fun b => b.write j ys) = a.write 0 (xs ++ ys) := by
  by_cases h : 0 + xs.length ≤ n
  · rw [write_of_le _ h, Option.bind_some, write_put_zero _ _ _ hj]
  · rw [write, dif_neg h, write, dif_neg (by simp; omega)]
    rfl

theorem bind_slice (a : Block α n) (xs : List α) {k : ℕ} (hk : k = xs.length) :
    (a.write 0 xs).bind (fun b => b.slice 0 k) = if xs.length ≤ n then some xs else none := by
  by_cases h : 0 + xs.length ≤ n
  · rw [write_of_le _ h, Option.bind_some, hk, slice_put_zero, if_pos (by omega)]
  · rw [write, dif_neg h, if_neg (by omega)]
    rfl

/-- Two values written one after the other behind a write at the front, and all of it read back. -/
theorem slice_write_two (a : Block α n) {xs : List α} (x y : α) (h : 0 + xs.length ≤ n) :
    (((a.put 0 xs h).write xs.length [x]).bind fun b =>
      (b.write (xs.length + 1) [y]).bind fun b => b.slice 0 (xs.length + 2)) =
      if xs.length + 2 ≤ n then some (xs ++ [x, y]) else none := by
  rw [write_put_zero _ _ h rfl, ← Option.bind_assoc, bind_write _ _ _ (by simp),
    bind_slice _ _ (by simp), List.append_assoc, List.length_append]
  rfl

end Block

/-- A table that is filled by `t[place i] = value i`, for the `i` of a list in turn. -/
def filled {α β ι : Type u} [DecidableEq α] (place : ι → α) (value : ι → β) (is : List ι)
    (t : α → β) : α → β :=
  is.foldl (fun t i => Function.update t (place i) (value i)) t

section
variable {α β ι : Type u} [DecidableEq α] {place : ι → α} {value : ι → β} {is : List ι} {a : α}

theorem filled_cons (i : ι) (t : α → β) : filled place value (i :: is) t =
    filled place value is (Function.update t (place i) (value i)) := rfl

/-- A place that is not written keeps what it holds. -/
theorem filled_of_forall_ne (h : ∀ i ∈ is, place i ≠ a) : ∀ t, filled place value is t a = t a := by
  induction is with
  | nil => intro t; rfl
  | cons i is ih =>
    intro t
    rw [filled_cons, ih fun j hj => h j (List.mem_cons_of_mem _ hj),
      Function.update_of_ne (h i List.mem_cons_self).symm]

/-- What is written to different places is there in the end. -/
theorem filled_place (h : (is.map place).Nodup) : ∀ t, ∀ i ∈ is,
    filled place value is t (place i) = value i := by
  induction is with
  | nil => intro t i hi; simp at hi
  | cons j is ih =>
    intro t i hi
    rw [List.map_cons, List.nodup_cons] at h
    rw [filled_cons]
    rcases List.mem_cons.1 hi with rfl | hi
    · rw [filled_of_forall_ne fun k hk he => h.1 (List.mem_map.2 ⟨k, hk, he⟩),
        Function.update_self]
    · exact ih h.2 _ i hi

end

/-- Two pieces of memory of one length, byte by byte. -/
theorem take_drop_eq_iff {α : Type u} {l m : List α} {a b n : ℕ} :
    (l.drop a).take n = (m.drop b).take n ↔ ∀ k < n, l[a + k]? = m[b + k]? := by
  constructor
  · intro h k hk
    have := congrArg (·[k]?) h
    simpa only [List.getElem?_take_of_lt hk, List.getElem?_drop] using this
  · intro h
    refine List.ext_getElem? fun k => ?_
    rw [List.getElem?_take, List.getElem?_take, List.getElem?_drop, List.getElem?_drop]
    split_ifs with hk
    · exact h k hk
    · rfl

end Memory
