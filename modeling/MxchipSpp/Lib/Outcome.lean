/-
  Computations that end in a value or in a fault, and rules to reason about
  them: `Post x E P` says that `x` ends in a fault `E` allows or in a value of
  which `P` holds.
-/
import Mathlib.Tactic

namespace Outcome

universe u v
variable {ε : Type u} {α β σ : Type v}

/-- Every outcome of `x`: `E` holds of a fault, `P` of a value. -/
def Post (x : Except ε α) (E : ε → Prop) (P : α → Prop) : Prop :=
  match x with
  | .error e => E e
  | .ok a => P a

section
variable {E F : ε → Prop} {P R : α → Prop} {Q : β → Prop}

@[simp] theorem post_ok {a : α} : Post (.ok a) E P ↔ P a := Iff.rfl

@[simp] theorem post_pure {a : α} : Post (pure a) E P ↔ P a := Iff.rfl

@[simp] theorem post_error {e : ε} : Post (.error e) E P ↔ E e := Iff.rfl

theorem post_true (x : Except ε α) : Post x (fun _ => True) fun _ => True := by
  cases x <;> trivial

theorem Post.mono {x : Except ε α} (h : Post x E P) (hE : ∀ e, E e → F e) (hP : ∀ a, P a → R a) :
    Post x F R := by
  cases x with
  | error e => exact hE e h
  | ok a => exact hP a h

theorem Post.bind {x : Except ε α} {f : α → Except ε β} (h : Post x E P)
    (hf : ∀ a, P a → Post (f a) E Q) : Post (x >>= f) E Q := by
  cases x with
  | error e => exact h
  | ok a => exact hf a h

theorem Post.and {x : Except ε α} (h : Post x E P) (h' : Post x F R) :
    Post x E fun a => P a ∧ R a := by
  cases x with
  | error e => exact h
  | ok a => exact ⟨h, h'⟩

theorem Post.of_ok {x : Except ε α} {a : α} (h : Post x E P) (hx : x = .ok a) : P a := by
  subst hx; exact h

theorem Post.of_error {x : Except ε α} {e : ε} (h : Post x E P) (hx : x = .error e) : E e := by
  subst hx; exact h

/-- A value comes from a value. -/
theorem exists_of_bind_eq_ok {x : Except ε α} {f : α → Except ε β} {y : β} (h : x >>= f = .ok y) :
    ∃ a, x = .ok a ∧ f a = .ok y := by
  cases x with
  | error e => cases h
  | ok a => exact ⟨a, rfl, h⟩

theorem eq_ok_of_toOption {x : Except ε α} {a : α} (h : x.toOption = some a) : x = .ok a := by
  cases x with
  | error e => cases h
  | ok b => exact congrArg Except.ok (Option.some.inj h)

/-- What a computation is known to return is returned. -/
theorem exists_ok_of_map {x : Except ε α} {g : α → β} {b : β} (h : x.toOption.map g = some b) :
    ∃ a, x = .ok a ∧ g a = b := by
  obtain ⟨a, ha, hb⟩ := Option.map_eq_some_iff.1 h
  exact ⟨a, eq_ok_of_toOption ha, hb⟩

end

/-! ## Runs -/

section
variable {I : σ → Prop} {E : ε → Prop} {f : σ → α → Except ε σ}

/-- **The run rule.**  What every step keeps, every run keeps. -/
theorem Post.foldlM {l : List α} (hstep : ∀ a ∈ l, ∀ s, I s → Post (f s a) E I) :
    ∀ {s : σ}, I s → Post (l.foldlM f s) E I := by
  induction l with
  | nil => exact fun h => h
  | cons a l ih =>
    intro s hs
    rw [List.foldlM_cons]
    exact (hstep a List.mem_cons_self s hs).bind fun s' hs' =>
      ih (fun b hb => hstep b (List.mem_cons_of_mem a hb)) hs'

end

/-- A run by one step longer. -/
theorem foldlM_take_succ {f : σ → α → Except ε σ} {l : List α} {n : ℕ} {a : α} (h : l[n]? = some a)
    (s : σ) : (l.take (n + 1)).foldlM f s = (l.take n).foldlM f s >>= fun t => f t a := by
  rw [List.take_add_one, h, Option.toList_some, List.foldlM_append]
  congr 1; funext t
  simp

/-- How a run by one step longer ends in a value. -/
theorem foldlM_take_succ_ok {f : σ → α → Except ε σ} {l : List α} {n : ℕ} {s u : σ}
    (h : (l.take (n + 1)).foldlM f s = .ok u) :
    (l.take (n + 1) = l.take n ∧ (l.take n).foldlM f s = .ok u) ∨
      ∃ a t, l[n]? = some a ∧ l.take (n + 1) = l.take n ++ [a] ∧ (l.take n).foldlM f s = .ok t ∧
        f t a = .ok u := by
  cases ha : l[n]? with
  | none =>
    have htake : l.take (n + 1) = l.take n := by
      rw [List.take_add_one, ha, Option.toList_none, List.append_nil]
    rw [htake] at h
    exact Or.inl ⟨htake, h⟩
  | some a =>
    rw [foldlM_take_succ ha] at h
    cases ht : (l.take n).foldlM f s with
    | error e => rw [ht] at h; cases h
    | ok t =>
      rw [ht] at h
      exact Or.inr ⟨a, t, rfl, by rw [List.take_add_one, ha, Option.toList_some], rfl, h⟩

/-- **The run rule for an exact condition.**  If a step of a state with the invariant keeps it
    exactly if it meets the condition, then all states of a run have the invariant exactly if all
    its steps meet the condition.  The invariant may speak of the steps so far. -/
theorem prefixes_iff {I : List α → σ → Prop} {C : σ → α → Prop} {f : σ → α → Except ε σ}
    {l : List α} {s₀ : σ} (h₀ : I [] s₀)
    (hstep : ∀ a ∈ l, ∀ k s s', I k s → f s a = .ok s' → (I (k ++ [a]) s' ↔ C s a)) :
    (∀ n s, (l.take n).foldlM f s₀ = .ok s → I (l.take n) s) ↔
      ∀ n a s s', l[n]? = some a → (l.take n).foldlM f s₀ = .ok s → f s a = .ok s' → C s a := by
  constructor
  · intro h n a s s' ha hs hs'
    have h₁ := foldlM_take_succ ha (f := f) s₀
    rw [hs] at h₁
    have h₂ := h (n + 1) s' (h₁.trans hs')
    rw [List.take_add_one, ha] at h₂
    exact (hstep a (List.mem_of_getElem? ha) _ s s' (h n s hs) hs').1 h₂
  · intro h n
    induction n with
    | zero => intro s hs; cases hs; exact h₀
    | succ n ih =>
      intro s' hs'
      rcases foldlM_take_succ_ok hs' with ⟨htake, hs'⟩ | ⟨a, s, ha, htake, hs, hs'⟩
      · rw [htake]; exact ih s' hs'
      · rw [htake]
        exact (hstep a (List.mem_of_getElem? ha) _ s s' (ih s hs) hs').2 (h n a s s' ha hs hs')

/-- **The run rule for two states.**  A preorder that contains every step of a run holds of any
    two of its states. -/
theorem prefixes_rel {R : σ → σ → Prop} {f : σ → α → Except ε σ} {l : List α} {s₀ : σ}
    (hrefl : ∀ s, R s s) (htrans : ∀ {s t u}, R s t → R t u → R s u)
    (hstep : ∀ n a s s', l[n]? = some a → (l.take n).foldlM f s₀ = .ok s → f s a = .ok s' → R s s')
    {i j : ℕ} (hij : i ≤ j) {s t : σ} (hs : (l.take i).foldlM f s₀ = .ok s)
    (ht : (l.take j).foldlM f s₀ = .ok t) : R s t := by
  induction j, hij using Nat.le_induction generalizing t with
  | base =>
    rw [hs] at ht
    cases ht
    exact hrefl s
  | succ j _ ih =>
    rcases foldlM_take_succ_ok ht with ⟨-, ht⟩ | ⟨a, u, ha, -, hu, ht⟩
    · exact ih ht
    · exact htrans (ih hu) (hstep j a u t ha hu ht)

/-- The run rule where a fault has no state: what every step keeps, every run that ends keeps. -/
theorem foldlM_some {I : σ → Prop} {f : σ → α → Option σ} {l : List α}
    (hstep : ∀ a ∈ l, ∀ s s', I s → f s a = some s' → I s') :
    ∀ {s s' : σ}, I s → l.foldlM f s = some s' → I s' := by
  induction l with
  | nil => rintro s s' hs h; cases h; exact hs
  | cons a l ih =>
    intro s s' hs h
    rw [List.foldlM_cons, Option.bind_eq_bind, Option.bind_eq_some_iff] at h
    obtain ⟨t, ht, h⟩ := h
    exact ih (fun b hb => hstep b (List.mem_cons_of_mem a hb))
      (hstep a List.mem_cons_self s t hs ht) h

/-- Each step of a run meets a condition on it and on the state it is made in. -/
def Along (f : σ → α → Option σ) (C : σ → α → Prop) : σ → List α → Prop
  | _, [] => True
  | s, a :: l => C s a ∧ ∀ s', f s a = some s' → Along f C s' l

theorem Along.cons {f : σ → α → Option σ} {C : σ → α → Prop} {s s' : σ} {a : α} {l : List α}
    (hc : C s a) (hs : f s a = some s') (h : Along f C s' l) : Along f C s (a :: l) := by
  refine ⟨hc, fun t ht => ?_⟩
  rw [hs] at ht
  cases ht
  exact h

theorem Along.of_forall {f : σ → α → Option σ} {C : σ → α → Prop} (h : ∀ s a, C s a) {l : List α} :
    ∀ {s : σ}, Along f C s l := by
  induction l with
  | nil => exact fun {_} => trivial
  | cons a l ih => exact fun {s} => ⟨h s a, fun _ _ => ih⟩

/-- A run in two parts. -/
theorem Along.append {f : σ → α → Option σ} {C : σ → α → Prop} {l l' : List α} :
    ∀ {s t : σ}, Along f C s (l ++ l') → l.foldlM f s = some t → Along f C s l ∧ Along f C t l' := by
  induction l with
  | nil => rintro s t h hs; cases hs; exact ⟨trivial, h⟩
  | cons a l ih =>
    intro s t ⟨hc, h⟩ hs
    rw [List.foldlM_cons, Option.bind_eq_bind, Option.bind_eq_some_iff] at hs
    obtain ⟨s₁, h₁, hs⟩ := hs
    refine ⟨⟨hc, fun s' hs' => ?_⟩, (ih (h s₁ h₁) hs).2⟩
    obtain rfl : s₁ = s' := Option.some.inj (h₁.symm.trans hs')
    exact (ih (h s₁ h₁) hs).1

/-- **The run rule under a condition on the steps.** -/
theorem Along.foldlM {I : σ → Prop} {f : σ → α → Option σ} {C : σ → α → Prop}
    (hstep : ∀ a s, I s → C s a → ∃ s', f s a = some s' ∧ I s') {l : List α} :
    ∀ {s : σ}, I s → Along f C s l → ∃ s', l.foldlM f s = some s' ∧ I s' := by
  induction l with
  | nil => exact fun {s} hs _ => ⟨s, rfl, hs⟩
  | cons a l ih =>
    intro s hs ⟨hc, hl⟩
    obtain ⟨s₁, h₁, hs₁⟩ := hstep a s hs hc
    obtain ⟨s₂, h₂, hs₂⟩ := ih hs₁ (hl s₁ h₁)
    exact ⟨s₂, by rw [List.foldlM_cons, h₁]; exact h₂, hs₂⟩

/-- **The run rule for two conditions.**  If they are the same in every state with an invariant, and
    a step that meets one of them keeps the invariant, then they hold along the same runs. -/
theorem Along.iff {I : σ → Prop} {f : σ → α → Option σ} {C D : σ → α → Prop}
    (hcd : ∀ s a, I s → (C s a ↔ D s a))
    (hstep : ∀ s a s', I s → D s a → f s a = some s' → I s') {l : List α} :
    ∀ {s : σ}, I s → (Along f C s l ↔ Along f D s l) := by
  induction l with
  | nil => exact fun _ => Iff.rfl
  | cons a l ih =>
    intro s hs
    constructor
    · rintro ⟨hc, hl⟩
      have hd := (hcd s a hs).1 hc
      exact ⟨hd, fun s' hs' => (ih (hstep s a s' hs hd hs')).1 (hl s' hs')⟩
    · rintro ⟨hd, hl⟩
      exact ⟨(hcd s a hs).2 hd, fun s' hs' => (ih (hstep s a s' hs hd hs')).2 (hl s' hs')⟩

/-- What the steps of a run put out, in order. -/
def trace {β : Type*} (f : σ → α → Option σ) (out : σ → α → Option β) : σ → List α → List β
  | _, [] => []
  | s, a :: l => (out s a).toList ++ (f s a).elim [] fun s' => trace f out s' l

theorem length_trace_le {β : Type*} {f : σ → α → Option σ} {out : σ → α → Option β} (l : List α) :
    ∀ s, (trace f out s l).length ≤ l.length := by
  induction l with
  | nil => exact fun _ => le_rfl
  | cons a l ih =>
    intro s
    have hout : (out s a).toList.length ≤ 1 := by cases out s a <;> simp
    rw [trace, List.length_append, List.length_cons, Nat.add_comm]
    refine Nat.add_le_add ?_ hout
    cases f s a with
    | none => exact Nat.zero_le _
    | some s' => exact ih s'

/-- **The run rule with a trace.**  What every step keeps of the state and the trace so far, every
    run keeps. -/
theorem foldlM_trace {β : Type*} {I : σ → List β → Prop} {f : σ → α → Option σ}
    {out : σ → α → Option β} {C : σ → α → Prop}
    (hstep : ∀ {s s' a os}, I s os → C s a → f s a = some s' → I s' (os ++ (out s a).toList))
    {l : List α} : ∀ {s s' : σ} {os : List β}, I s os → Along f C s l → l.foldlM f s = some s' →
      I s' (os ++ trace f out s l) := by
  induction l with
  | nil =>
    intro s s' os hi _ h
    cases h
    rwa [trace, List.append_nil]
  | cons a l ih =>
    intro s s' os hi hc h
    rw [List.foldlM_cons, Option.bind_eq_bind, Option.bind_eq_some_iff] at h
    obtain ⟨s₁, h₁, h⟩ := h
    rw [trace, h₁, Option.elim_some, ← List.append_assoc]
    exact ih (hstep hi hc.1 h₁) (hc.2 s₁ h₁) h

/-- The state a computation over states ends in, fault or not. -/
def last (x : Except σ σ) : σ :=
  match x with
  | .error e => e
  | .ok s => s

theorem post_last {x : Except σ σ} {P : σ → Prop} : Post x P P ↔ P (last x) := by
  cases x <;> rfl

theorem Post.last {x : Except σ σ} {P : σ → Prop} (h : Post x P P) : P (last x) := post_last.1 h

end Outcome
