/-
  Block ciphers made of rounds, and chains of their blocks.

  A round replaces the state (`S`), mixes it (`M`) and adds a key; the last one
  does not mix.  If `M` is additive, the inverse has the same shape: it takes
  the keys in the opposite order, the inner ones through the inverse of `M`
  (`encrypt_inverse`).  In a chain each block is added to the one before it is
  encrypted; a chain is read back whatever the cipher is
  (`chain_decBlock_encBlock`).
-/
import Mathlib.Tactic

namespace Cipher

universe u
variable {σ : Type u} (add : σ → σ → σ)

/-! ## Rounds -/

section
variable (S R M N : σ → σ)

/-- The rounds that mix, one for each key. -/
def rounds (keys : List σ) (x : σ) : σ := keys.foldl (fun x k => add (M (S x)) k) x

/-- A key is added, then come the rounds that mix and the last one. -/
def encrypt (first : σ) (keys : List σ) (last x : σ) : σ :=
  add (S (rounds add S M keys (add x first))) last

/-- `R` undoes `S`, and `N` undoes `M` and is additive. -/
structure Inverse : Prop where
  cancel : ∀ a b, add (add a b) b = a
  sub : ∀ x, R (S x) = x
  mix : ∀ x, N (M x) = x
  additive : ∀ a b, N (add a b) = add (N a) (N b)

variable {add S R M N}

theorem rounds_concat (keys : List σ) (k x : σ) :
    rounds add S M (keys ++ [k]) x = add (M (S (rounds add S M keys x))) k := by
  rw [rounds, List.foldl_append]
  rfl

/-- The rounds are undone under `S`, the last one first. -/
theorem rounds_inverse (h : Inverse add S R M N) (keys : List σ) (x : σ) :
    rounds add R N (keys.reverse.map N) (S (rounds add S M keys x)) = S x := by
  induction keys using List.reverseRecOn with
  | nil => rfl
  | append_singleton keys k ih =>
    have hround : add (N (R (S (add (M (S (rounds add S M keys x))) k)))) (N k) =
        S (rounds add S M keys x) := by
      rw [h.sub, h.additive, h.mix, h.cancel]
    rw [rounds_concat, List.reverse_append, List.map_append]
    change rounds add R N (keys.reverse.map N) (add (N (R _)) (N k)) = S x
    rw [hround, ih]

/-- **The inverse of a cipher** has its shape. -/
theorem encrypt_inverse (h : Inverse add S R M N) (first : σ) (keys : List σ) (last x : σ) :
    encrypt add R N last (keys.reverse.map N) first (encrypt add S M first keys last x) = x := by
  rw [encrypt, encrypt, h.cancel, rounds_inverse h, h.sub, h.cancel]

end

/-! ## Chains -/

/-- The blocks that `f` makes one after the other; what it keeps of a block goes to the next. -/
def chain {α β ρ : Type u} (f : ρ → α → β × ρ) : ρ → List α → List β
  | _, [] => []
  | reg, x :: xs => (f reg x).1 :: chain f (f reg x).2 xs

@[simp] theorem length_chain {α β ρ : Type u} (f : ρ → α → β × ρ) (xs : List α) :
    ∀ reg, (chain f reg xs).length = xs.length := by
  induction xs with
  | nil => intro reg; rfl
  | cons x xs ih => intro reg; rw [chain, List.length_cons, ih, List.length_cons]

section
variable (E D : σ → σ)

/-- A block is added to the one before it, and encrypted. -/
def encBlock (reg x : σ) : σ × σ := (E (add reg x), E (add reg x))

/-- A block is decrypted, and the one before it is added. -/
def decBlock (reg y : σ) : σ × σ := (add (D y) reg, y)

variable {add E D} (hcancel : ∀ a b, add (add a b) a = b) (hinv : ∀ x, D (E x) = x)
include hcancel hinv

/-- **A chain is read back.** -/
theorem chain_decBlock_encBlock (xs : List σ) : ∀ reg,
    chain (decBlock add D) reg (chain (encBlock add E) reg xs) = xs := by
  induction xs with
  | nil => intro reg; rfl
  | cons x xs ih =>
    intro reg
    simp only [chain, encBlock, decBlock, hinv, hcancel]
    rw [ih]

end

/-! ## Keys in the opposite order -/

section
variable {α : Type u}

/-- Elements are exchanged from both ends, as long as `i` is before `j`. -/
def swapEnds : ℕ → ℕ → ℕ → List α → List α
  | 0, _, _, l => l
  | n + 1, i, j, l =>
    if h : i < j ∧ j < l.length then
      swapEnds n (i + 1) (j - 1) ((l.set i l[j]).set j l[i])
    else l

theorem length_swapEnds (n : ℕ) : ∀ (i j : ℕ) (l : List α), (swapEnds n i j l).length = l.length := by
  induction n with
  | zero => intro i j l; rfl
  | succ n ih =>
    intro i j l
    rw [swapEnds]
    split
    · rw [ih, List.length_set, List.length_set]
    · rfl

theorem getElem?_swapEnds (n : ℕ) : ∀ (i j : ℕ) (l : List α), j ≤ i + n → j < l.length → ∀ k,
    (swapEnds n i j l)[k]? = if i ≤ k ∧ k ≤ j then l[i + j - k]? else l[k]? := by
  induction n with
  | zero =>
    intro i j l hn hj k
    rw [swapEnds]
    split_ifs with hk
    · rw [show i + j - k = k by omega]
    · rfl
  | succ n ih =>
    intro i j l hn hj k
    rw [swapEnds]
    split_ifs with hij hk hk
    · rw [ih _ _ _ (by omega) (by simp; omega)]
      rcases (by omega : k = i ∨ k = j ∨ (i + 1 ≤ k ∧ k ≤ j - 1)) with rfl | rfl | hin
      · rw [if_neg (by omega), List.getElem?_set_ne (by omega), List.getElem?_set_self (by omega),
          List.getElem?_eq_getElem (by omega)]
        congr 2; omega
      · rw [if_neg (by omega), List.getElem?_set_self (by simp; omega),
          List.getElem?_eq_getElem (by omega)]
        congr 2; omega
      · rw [if_pos hin, List.getElem?_set_ne (by omega), List.getElem?_set_ne (by omega)]
        congr 1; omega
    · rw [ih _ _ _ (by omega) (by simp; omega), if_neg (by omega),
        List.getElem?_set_ne (by omega), List.getElem?_set_ne (by omega)]
    · rw [show i + j - k = k by omega]
    · rfl

/-- Exchanged from both ends, a list is reversed. -/
theorem swapEnds_eq_reverse {n : ℕ} {l : List α} (hl : l.length = n + 1) :
    swapEnds (n + 1) 0 n l = l.reverse := by
  refine List.ext_getElem? fun k => ?_
  rw [getElem?_swapEnds _ _ _ _ (by omega) (by omega)]
  split_ifs with hk
  · rw [List.getElem?_reverse (by omega)]
    congr 1; omega
  · rw [List.getElem?_eq_none (by omega), List.getElem?_eq_none (by simp; omega)]

/-- The elements between the first and those behind are replaced one after the other. -/
theorem foldl_set_eq_map (f : α → α) (d a : α) (xs : List α) : ∀ ys,
    (List.range xs.length).foldl (fun l i => l.set (i + 1) (f (l.getD (i + 1) d)))
      (a :: xs ++ ys) = a :: xs.map f ++ ys := by
  induction xs using List.reverseRecOn with
  | nil => intro ys; rfl
  | append_singleton xs x ih =>
    intro ys
    rw [List.length_append, List.length_singleton, List.range_succ, List.foldl_append,
      show a :: (xs ++ [x]) ++ ys = a :: xs ++ x :: ys by simp, ih]
    simp

end

end Cipher
