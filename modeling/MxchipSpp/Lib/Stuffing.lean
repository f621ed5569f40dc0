/-
  Byte stuffing: each `flag` of the data is followed by a `mark`, so that no
  two flags stand side by side on the line; the reader skips what follows a
  flag.
-/
import MxchipSpp.Lib.Memory

namespace Stuffing

open Memory

universe u
variable {α : Type u} [DecidableEq α]

/-- One value as it goes over the line. -/
def escape (flag mark x : α) : List α := if x = flag then [x, mark] else [x]

/-- Data as it goes over the line. -/
def stuff (flag mark : α) (xs : List α) : List α := xs.flatMap (escape flag mark)

/-- `n` values read from the line, and what is left on it. -/
def unstuff (flag : α) : ℕ → List α → Option (List α × List α)
  | 0, ys => some ([], ys)
  | _ + 1, [] => none
  | n + 1, y :: ys =>
    (unstuff flag n (if y = flag then ys.drop 1 else ys)).map fun r => (y :: r.1, r.2)

/-- The line read up to its end: a mark behind a flag is dropped, and a flag without one is kept. -/
def destuff (flag mark : α) : List α → List α
  | [] => []
  | [x] => [x]
  | x :: y :: ys =>
    if x = flag ∧ y = mark then x :: destuff flag mark ys else x :: destuff flag mark (y :: ys)

variable {flag mark : α}

@[simp] theorem stuff_nil : stuff flag mark [] = [] := rfl

@[simp] theorem stuff_cons (x : α) (xs : List α) :
    stuff flag mark (x :: xs) = escape flag mark x ++ stuff flag mark xs := List.flatMap_cons

theorem stuff_append (xs ys : List α) :
    stuff flag mark (xs ++ ys) = stuff flag mark xs ++ stuff flag mark ys := List.flatMap_append

/-- Each flag costs one value. -/
theorem length_stuff (xs : List α) :
    (stuff flag mark xs).length = xs.length + xs.count flag := by
  induction xs with
  | nil => rfl
  | cons x xs ih =>
    rw [stuff_cons, List.length_append, ih, List.length_cons]
    by_cases hx : x = flag
    · subst hx
      simp only [escape, if_true, List.count_cons_self, List.length_cons, List.length_nil]
      omega
    · simp only [escape, if_neg hx, List.count_cons_of_ne hx, List.length_cons, List.length_nil]
      omega

theorem length_le_length_stuff (xs : List α) : xs.length ≤ (stuff flag mark xs).length := by
  rw [length_stuff]
  exact Nat.le_add_right _ _

theorem length_stuff_le (xs : List α) : (stuff flag mark xs).length ≤ 2 * xs.length := by
  have hc : xs.count flag ≤ xs.length := List.count_le_length
  rw [length_stuff]
  omega

/-- A loop that writes each value escaped, at the index it keeps, writes the data stuffed. -/
theorem foldlM_escape {n : ℕ} {f : Block α n × ℕ → α → Option (Block α n × ℕ)}
    (hf : ∀ (buf : Block α n) (i : ℕ) (x : α) (h : i + (escape flag mark x).length ≤ n),
      f (buf, i) x = some (buf.put i (escape flag mark x) h, i + (escape flag mark x).length))
    (xs : List α) : ∀ (buf : Block α n) {i : ℕ} (h : i + (stuff flag mark xs).length ≤ n),
      xs.foldlM f (buf, i) =
        some (buf.put i (stuff flag mark xs) h, i + (stuff flag mark xs).length) := by
  induction xs with
  | nil => intro buf i h; simp
  | cons x xs ih =>
    intro buf i h
    have hl : (stuff flag mark (x :: xs)).length =
        (escape flag mark x).length + (stuff flag mark xs).length := by
      rw [stuff_cons, List.length_append]
    rw [List.foldlM_cons, hf buf i x (by omega), Option.bind_eq_bind, Option.bind_some,
      ih _ (by omega), Block.put_put _ _ _ rfl (by rw [List.length_append]; omega)]
    exact congrArg some (Prod.ext rfl (by rw [hl, Nat.add_assoc]))

/-- Such a loop leaves the buffer if the data does not fit. -/
theorem foldlM_escape_eq_none {n : ℕ} {f : Block α n × ℕ → α → Option (Block α n × ℕ)}
    (hf : ∀ (buf : Block α n) (i : ℕ) (x : α) (h : i + (escape flag mark x).length ≤ n),
      f (buf, i) x = some (buf.put i (escape flag mark x) h, i + (escape flag mark x).length))
    (hf' : ∀ (buf : Block α n) (i : ℕ) (x : α), i ≤ n → n < i + (escape flag mark x).length →
      f (buf, i) x = none)
    (xs : List α) : ∀ (buf : Block α n) {i : ℕ}, i ≤ n → n < i + (stuff flag mark xs).length →
      xs.foldlM f (buf, i) = none := by
  induction xs with
  | nil => intro buf i hi h; exact absurd hi (Nat.not_le.2 h)
  | cons x xs ih =>
    intro buf i hi h
    rw [stuff_cons, List.length_append] at h
    rw [List.foldlM_cons]
    rcases Nat.lt_or_ge n (i + (escape flag mark x).length) with hx | hx
    · rw [hf' buf i x hi hx]; rfl
    · rw [hf buf i x hx, Option.bind_eq_bind, Option.bind_some]
      exact ih _ hx (by omega)

/-- **Data is read back from the line as it was stuffed**, whatever follows it. -/
theorem unstuff_stuff (xs rest : List α) :
    unstuff flag xs.length (stuff flag mark xs ++ rest) = some (xs, rest) := by
  induction xs with
  | nil => rfl
  | cons x xs ih =>
    rw [stuff_cons, List.append_assoc, List.length_cons]
    by_cases hx : x = flag
    · simp [escape, hx, unstuff, ih]
    · simp [escape, hx, unstuff, ih]

@[simp] theorem destuff_flag (ys : List α) :
    destuff flag mark (flag :: mark :: ys) = flag :: destuff flag mark ys := by
  rw [destuff, if_pos ⟨rfl, rfl⟩]

theorem destuff_of_ne {x : α} (hx : x ≠ flag) (ys : List α) :
    destuff flag mark (x :: ys) = x :: destuff flag mark ys := by
  cases ys with
  | nil => rfl
  | cons y ys => rw [destuff, if_neg fun h => hx h.1]

/-- **Stuffed data is read back** up to the end of the line. -/
theorem destuff_stuff (xs : List α) : destuff flag mark (stuff flag mark xs) = xs := by
  induction xs with
  | nil => rfl
  | cons x xs ih =>
    rw [stuff_cons]
    by_cases hx : x = flag
    · subst hx
      rw [escape, if_pos rfl]
      change destuff x mark (x :: mark :: stuff x mark xs) = x :: xs
      rw [destuff_flag, ih]
    · rw [escape, if_neg hx]
      change destuff flag mark (x :: stuff flag mark xs) = x :: xs
      rw [destuff_of_ne hx, ih]

theorem length_unstuff {n : ℕ} : ∀ {ys : List α} {r : List α × List α},
    unstuff flag n ys = some r → r.1.length = n := by
  induction n with
  | zero => rintro ys r h; cases h; rfl
  | succ n ih =>
    rintro (_ | ⟨y, ys⟩) r h
    · cases h
    · obtain ⟨r', hr', rfl⟩ := Option.map_eq_some_iff.1 h
      exact congrArg (· + 1) (ih hr')

/-- Values are taken from the front of the line. -/
theorem length_rest_unstuff {n : ℕ} : ∀ {ys : List α} {r : List α × List α},
    unstuff flag n ys = some r → r.2.length + n ≤ ys.length := by
  induction n with
  | zero => rintro ys r h; cases h; exact le_rfl
  | succ n ih =>
    rintro (_ | ⟨y, ys⟩) r h
    · cases h
    · obtain ⟨r', hr', rfl⟩ := Option.map_eq_some_iff.1 h
      have hle := ih hr'
      change r'.2.length + (n + 1) ≤ ys.length + 1
      split_ifs at hle
      · rw [List.length_drop] at hle; omega
      · omega

/-! ## Where the values stand -/

/-- The index of each value on a line that is read from index `i` on. -/
def valueIndex (flag : α) (ys : ℕ → α) (i : ℕ) : ℕ → ℕ
  | 0 => i
  | n + 1 => valueIndex flag ys i n + if ys (valueIndex flag ys i n) = flag then 2 else 1

/-- The first values on it. -/
def values (flag : α) (ys : ℕ → α) (i n : ℕ) : List α :=
  (List.range n).map fun j => ys (valueIndex flag ys i j)

section
variable {ys : ℕ → α} {i n : ℕ} {l : List α}

theorem values_succ : values flag ys i (n + 1) =
    values flag ys i n ++ [ys (valueIndex flag ys i n)] := by
  rw [values, List.range_succ, List.map_append]
  rfl

@[simp] theorem length_values : (values flag ys i n).length = n := by simp [values]

theorem valueIndex_lt_succ (n : ℕ) : valueIndex flag ys i n < valueIndex flag ys i (n + 1) := by
  rw [valueIndex]
  split_ifs <;> omega

theorem valueIndex_mono {j : ℕ} (h : j ≤ n) : valueIndex flag ys i j ≤ valueIndex flag ys i n :=
  monotone_nat_of_le_succ (fun n => (valueIndex_lt_succ n).le) h

/-- One value more. -/
theorem unstuff_succ (l : List α) : unstuff flag (n + 1) l = (unstuff flag n l).bind fun r =>
    r.2.head?.map fun y => (r.1 ++ [y], r.2.drop (if y = flag then 2 else 1)) := by
  induction n generalizing l with
  | zero =>
    cases l with
    | nil => rfl
    | cons y l =>
      simp only [unstuff, Option.map_some, Option.bind_some, List.head?_cons, List.nil_append]
      split_ifs <;> rfl
  | succ n ih =>
    cases l with
    | nil => rfl
    | cons y l =>
      rw [unstuff, ih, unstuff]
      cases unstuff flag n (if y = flag then l.drop 1 else l) with
      | none => rfl
      | some r =>
        simp only [Option.bind_some, Option.map_some, Option.map_map]
        rfl

/-- **What is read of a line** are the values at these indices, if they are on it. -/
theorem unstuff_drop_iff (hys : ∀ k < l.length, l[k]? = some (ys k)) {r : List α × List α} :
    unstuff flag n (l.drop i) = some r ↔ (∀ j < n, valueIndex flag ys i j < l.length) ∧
      r = (values flag ys i n, l.drop (valueIndex flag ys i n)) := by
  induction n generalizing r with
  | zero =>
    rw [unstuff, Option.some.injEq]
    exact ⟨fun h => ⟨fun j hj => absurd hj (Nat.not_lt_zero j), h.symm⟩, fun h => h.2.symm⟩
  | succ n ih =>
    rw [unstuff_succ, Option.bind_eq_some_iff, Nat.forall_lt_succ_right, values_succ, valueIndex,
      ← List.drop_drop]
    constructor
    · rintro ⟨r', hr', h⟩
      obtain ⟨hlt, rfl⟩ := ih.1 hr'
      rw [List.head?_drop] at h
      obtain ⟨y, hy, rfl⟩ := Option.map_eq_some_iff.1 h
      have hn := (List.getElem?_eq_some_iff.1 hy).1
      obtain rfl : ys (valueIndex flag ys i n) = y := Option.some.inj ((hys _ hn).symm.trans hy)
      exact ⟨⟨hlt, hn⟩, rfl⟩
    · rintro ⟨⟨hlt, hn⟩, rfl⟩
      refine ⟨_, ih.2 ⟨hlt, rfl⟩, ?_⟩
      rw [List.head?_drop, hys _ hn]
      rfl

/-- A line on which the mark follows each flag that is read is stuffed. -/
theorem take_valueIndex (hys : ∀ k < l.length, l[k]? = some (ys k))
    (hmark : ∀ j < n, ys (valueIndex flag ys i j) = flag → ys (valueIndex flag ys i j + 1) = mark)
    (hn : valueIndex flag ys i n ≤ l.length) :
    l.take (valueIndex flag ys i n) = l.take i ++ stuff flag mark (values flag ys i n) := by
  induction n with
  | zero => exact (List.append_nil _).symm
  | succ n ih =>
    have hlt : valueIndex flag ys i n < valueIndex flag ys i (n + 1) := valueIndex_lt_succ n
    have hx := hys (valueIndex flag ys i n) (by omega)
    rw [values_succ, stuff_append, ← List.append_assoc,
      ← ih (fun j hj => hmark j (by omega)) (by omega), stuff_cons, stuff_nil, List.append_nil, escape]
    rw [valueIndex] at hn ⊢
    split_ifs at hn ⊢ with hflag
    · have hy := hys (valueIndex flag ys i n + 1) (by omega)
      rw [hmark n (by omega) hflag] at hy
      rw [List.take_add_one (i := valueIndex flag ys i n + 1), List.take_add_one, hx, hy,
        List.append_assoc]
      rfl
    · rw [List.take_add_one, hx]
      rfl

omit [DecidableEq α] in
/-- What stands on the line at an index. -/
theorem eq_of_drop (hys : ∀ k < l.length, l[k]? = some (ys k)) {k : ℕ} {y : α} {rest : List α}
    (h : l.drop k = y :: rest) : ys k = y := by
  have hk : k < l.length := by
    by_contra hge
    rw [List.drop_eq_nil_of_le (by omega)] at h
    cases h
  have hy := hys k hk
  rw [← List.head?_drop, h] at hy
  exact (Option.some.inj hy).symm

/-- On a stuffed line the values are the data. -/
theorem valueIndex_stuff {xs pre rest : List α} (hl : l = pre ++ (stuff flag mark xs ++ rest))
    (hys : ∀ k < l.length, l[k]? = some (ys k)) {j : ℕ} (hj : j ≤ xs.length) :
    l.drop (valueIndex flag ys pre.length j) = stuff flag mark (xs.drop j) ++ rest ∧
      valueIndex flag ys pre.length j + (stuff flag mark (xs.drop j)).length =
        pre.length + (stuff flag mark xs).length := by
  induction j with
  | zero => exact ⟨by rw [valueIndex, hl, List.drop_left]; rfl, rfl⟩
  | succ j ih =>
    obtain ⟨hdrop, hlen⟩ := ih (by omega)
    rw [List.drop_eq_getElem_cons hj, stuff_cons, List.length_append] at hlen
    rw [List.drop_eq_getElem_cons hj, stuff_cons, List.append_assoc, escape] at hdrop
    have hval : ys (valueIndex flag ys pre.length j) = xs[j] := by
      split_ifs at hdrop <;> exact eq_of_drop hys hdrop
    rw [valueIndex, ← List.drop_drop, hdrop, hval]
    rw [escape] at hlen
    split_ifs at hlen ⊢ <;> exact ⟨rfl, by simpa [Nat.add_assoc] using hlen⟩

/-- The mark follows each flag. -/
theorem mark_stuff {xs pre rest : List α} (hl : l = pre ++ (stuff flag mark xs ++ rest))
    (hys : ∀ k < l.length, l[k]? = some (ys k)) {j : ℕ} (hj : j < xs.length)
    (hflag : ys (valueIndex flag ys pre.length j) = flag) :
    ys (valueIndex flag ys pre.length j + 1) = mark := by
  have hdrop := (valueIndex_stuff hl hys hj.le).1
  rw [List.drop_eq_getElem_cons hj, stuff_cons, List.append_assoc, escape] at hdrop
  split_ifs at hdrop with hx
  · have hnext := congrArg (List.drop 1) hdrop
    rw [List.drop_drop] at hnext
    exact eq_of_drop hys hnext
  · exact absurd ((eq_of_drop hys hdrop).symm.trans hflag) hx

end

end Stuffing
