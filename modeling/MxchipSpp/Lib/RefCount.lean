/-
  Objects shared by reference counts.

  A heap of objects, each with a counter: `take` counts a reference, `release`
  gives one up and frees the object with its last.  Both are `none` on an
  object that is not live.  `Counted` says that the counters are those of the
  references there are, which are given as a list.
-/
import Mathlib.Tactic

namespace RefCount

universe u
variable {α : Type u}

/-- An object with its counter. -/
structure Object (α : Type u) where
  ref : ℤ
  body : α

/-- The objects, live or freed; a pointer is an index, and is not used again. -/
abbrev Heap (α : Type u) := List (Option (Object α))

/-- The live object behind a pointer. -/
def objectAt (h : Heap α) (p : ℕ) : Option (Object α) := h[p]?.join

/-- The heap with a new object; the pointer to it is the length of the old heap. -/
def alloc (h : Heap α) (body : α) : Heap α := h ++ [some ⟨0, body⟩]

/-- A reference is counted. -/
def take (h : Heap α) (p : ℕ) : Option (Heap α) :=
  (objectAt h p).map fun o => h.set p (some ⟨o.ref + 1, o.body⟩)

/-- A reference is given up; also what was freed, if it was the last. -/
def release (h : Heap α) (p : ℕ) : Option (Heap α × Option α) :=
  (objectAt h p).map fun o =>
    if o.ref - 1 = 0 then (h.set p none, some o.body)
    else (h.set p (some ⟨o.ref - 1, o.body⟩), none)

/-- The size of the live objects, each of which has the size `c`. -/
def total (c : α → ℕ) (h : Heap α) : ℕ := (h.map fun o => o.elim 0 fun o => c o.body).sum

/-- The counters are those of the references `refs`, of which every live object has one and no
    other pointer has any. -/
structure Counted (h : Heap α) (refs : List ℕ) : Prop where
  live : ∀ {p o}, objectAt h p = some o → o.ref = refs.count p ∧ p ∈ refs
  held : ∀ {p}, p ∈ refs → (objectAt h p).isSome

/-- The size of the live objects is at most `max`, but for one of them. -/
def Within (c : α → ℕ) (max : ℕ) (h : Heap α) : Prop :=
  total c h ≤ max ∨ ∃ p o, objectAt h p = some o ∧ total c h ≤ max + c o.body

section
variable {h : Heap α} {p q : ℕ} {o : Object α}

theorem objectAt_lt (ho : objectAt h p = some o) : p < h.length := by
  by_contra hp
  rw [objectAt, List.getElem?_eq_none (by omega)] at ho
  cases ho

theorem objectAt_set (hp : p < h.length) (x : Option (Object α)) :
    objectAt (h.set p x) q = if q = p then x else objectAt h q := by
  rw [objectAt, objectAt, List.getElem?_set]
  split_ifs with h₁ h₂ h₂
  · rfl
  · exact absurd h₁.symm h₂
  · exact absurd h₂.symm h₁
  · rfl

theorem objectAt_alloc (h : Heap α) (body : α) :
    objectAt (alloc h body) q = if q = h.length then some ⟨0, body⟩ else objectAt h q := by
  rw [objectAt, objectAt, alloc, List.getElem?_append]
  split_ifs with h₁ h₂ h₂
  · omega
  · rfl
  · rw [h₂, Nat.sub_self]; rfl
  · rw [List.getElem?_eq_none (by simp; omega), List.getElem?_eq_none (by omega)]

theorem total_set (c : α → ℕ) (x : Option (Object α)) : ∀ {h : Heap α} {p : ℕ},
    objectAt h p = some o → total c (h.set p x) + c o.body = total c h + x.elim 0 fun o => c o.body
  | [], _, ho => by cases ho
  | y :: h, 0, ho => by
    have hy : y = some o := ho
    subst hy
    simp only [total, List.set_cons_zero, List.map_cons, List.sum_cons, Option.elim_some]
    omega
  | y :: h, p + 1, ho => by
    have ih := total_set c x (h := h) (p := p) ho
    simp only [total, List.set_cons_succ, List.map_cons, List.sum_cons] at ih ⊢
    omega

theorem total_alloc (c : α → ℕ) (h : Heap α) (body : α) :
    total c (alloc h body) = total c h + c body := by
  simp [total, alloc]

/-! ## What the operations do to an object -/

/-- `take` counts one more, and changes nothing else. -/
theorem take_spec (c : α → ℕ) (ho : objectAt h p = some o) :
    ∃ h', take h p = some h' ∧ total c h' = total c h ∧
      ∀ q, objectAt h' q = if q = p then some ⟨o.ref + 1, o.body⟩ else objectAt h q := by
  refine ⟨_, by rw [take, ho]; rfl, ?_, fun q => objectAt_set (objectAt_lt ho) _⟩
  have := total_set c (some ⟨o.ref + 1, o.body⟩) ho
  simpa using this

/-- `release` counts one less, and frees the object if that leaves none. -/
theorem release_spec (c : α → ℕ) (ho : objectAt h p = some o) :
    ∃ h' freed, release h p = some (h', freed) ∧ total c h' + freed.elim 0 c = total c h ∧
      freed = (if o.ref = 1 then some o.body else none) ∧
      ∀ q, objectAt h' q = if q = p then (if o.ref = 1 then none else some ⟨o.ref - 1, o.body⟩)
        else objectAt h q := by
  have h₁ : o.ref - 1 = 0 ↔ o.ref = 1 := by omega
  by_cases hr : o.ref = 1
  · refine ⟨h.set p none, some o.body, by rw [release, ho]; simp [hr], ?_, by rw [if_pos hr],
      fun q => ?_⟩
    · have := total_set c none ho
      simpa using this
    · rw [objectAt_set (objectAt_lt ho), if_pos hr]
  · refine ⟨h.set p (some ⟨o.ref - 1, o.body⟩), none, by rw [release, ho]; simp [h₁, hr], ?_,
      by rw [if_neg hr], fun q => ?_⟩
    · have := total_set c (some ⟨o.ref - 1, o.body⟩) ho
      simpa using this
    · rw [objectAt_set (objectAt_lt ho), if_neg hr]

end

/-! ## What the operations leave alone -/

/-- `h'` has those of the objects of `h` that are still live, and new ones behind new pointers. -/
structure Keeps (h h' : Heap α) : Prop where
  length : h.length ≤ h'.length
  body : ∀ {p o'}, p < h.length → objectAt h' p = some o' →
    ∃ o, objectAt h p = some o ∧ o.body = o'.body

section
variable {h h' h'' : Heap α} {p : ℕ} {o : Object α}

theorem Keeps.refl (h : Heap α) : Keeps h h := ⟨le_rfl, fun _ ho => ⟨_, ho, rfl⟩⟩

theorem Keeps.trans (hk : Keeps h h') (hk' : Keeps h' h'') : Keeps h h'' where
  length := hk.length.trans hk'.length
  body hp ho := by
    obtain ⟨o₁, ho₁, hb₁⟩ := hk'.body (hp.trans_le hk.length) ho
    obtain ⟨o₂, ho₂, hb₂⟩ := hk.body hp ho₁
    exact ⟨o₂, ho₂, hb₂.trans hb₁⟩

/-- An object is replaced by one of the same body, or freed. -/
theorem keeps_set (ho : objectAt h p = some o) {x : Option (Object α)}
    (hx : ∀ o', x = some o' → o.body = o'.body) : Keeps h (h.set p x) where
  length := (List.length_set ..).ge
  body _ ho' := by
    rw [objectAt_set (objectAt_lt ho)] at ho'
    split_ifs at ho' with hp
    · exact ⟨o, hp ▸ ho, hx _ ho'⟩
    · exact ⟨_, ho', rfl⟩

theorem keeps_take (ht : take h p = some h') : Keeps h h' := by
  obtain ⟨o, ho, rfl⟩ := Option.map_eq_some_iff.1 ht
  exact keeps_set ho fun o' ho' => by cases ho'; rfl

theorem keeps_release {freed : Option α} (hr : release h p = some (h', freed)) : Keeps h h' := by
  obtain ⟨o, ho, heq⟩ := Option.map_eq_some_iff.1 hr
  split_ifs at heq
  · cases heq
    exact keeps_set ho fun o' ho' => by cases ho'
  · cases heq
    exact keeps_set ho fun o' ho' => by cases ho'; rfl

end

/-! ## Counting -/

section
variable {h : Heap α} {refs refs' : List ℕ} {p : ℕ}

theorem counted_nil : Counted ([] : Heap α) [] where
  live ho := by cases ho
  held hp := absurd hp List.not_mem_nil

theorem Counted.perm (hc : Counted h refs) (hp : refs.Perm refs') : Counted h refs' where
  live ho := by
    rw [← hp.count_eq, ← hp.mem_iff]
    exact hc.live ho
  held hm := hc.held (hp.mem_iff.2 hm)

/-- A new object, with the reference it is allocated for. -/
theorem Counted.alloc_take (hc : Counted h refs) (c : α → ℕ) (body : α) :
    ∃ h', take (alloc h body) h.length = some h' ∧ Counted h' (h.length :: refs) ∧
      total c h' = total c h + c body ∧ ∃ r, objectAt h' h.length = some ⟨r, body⟩ := by
  have hnew : h.length ∉ refs := by
    intro hm
    obtain ⟨o, ho⟩ := Option.isSome_iff_exists.1 (hc.held hm)
    exact absurd (objectAt_lt ho) (lt_irrefl _)
  have hat : objectAt (alloc h body) h.length = some ⟨0, body⟩ := by rw [objectAt_alloc, if_pos rfl]
  obtain ⟨h', ht, hs, hq⟩ := take_spec c hat
  refine ⟨h', ht, ⟨fun {q o} ho => ?_, fun {q} hm => ?_⟩, ?_, ?_⟩
  · rw [hq, objectAt_alloc] at ho
    split_ifs at ho with hqp
    · cases ho
      rw [hqp, List.count_cons_self, List.count_eq_zero.2 hnew]
      exact ⟨rfl, List.mem_cons_self⟩
    · obtain ⟨h₁, h₂⟩ := hc.live ho
      rw [List.count_cons_of_ne (Ne.symm hqp)]
      exact ⟨h₁, List.mem_cons_of_mem _ h₂⟩
  · rw [hq, objectAt_alloc]
    split_ifs with hqp
    · rfl
    · exact hc.held ((List.mem_cons.1 hm).resolve_left hqp)
  · rw [hs, total_alloc]
  · exact ⟨_, by rw [hq, if_pos rfl]⟩

/-- One more reference to an object that has one. -/
theorem Counted.take (hc : Counted h refs) (c : α → ℕ) (hp : p ∈ refs) :
    ∃ h', take h p = some h' ∧ Counted h' (p :: refs) ∧ total c h' = total c h ∧
      ∀ q, (objectAt h' q).map Object.body = (objectAt h q).map Object.body := by
  obtain ⟨o, ho⟩ := Option.isSome_iff_exists.1 (hc.held hp)
  obtain ⟨h', ht, hs, hq⟩ := take_spec c ho
  refine ⟨h', ht, ⟨fun {q o'} ho' => ?_, fun {q} hm => ?_⟩, hs, fun q => ?_⟩
  · rw [hq] at ho'
    split_ifs at ho' with hqp
    · cases ho'
      subst hqp
      obtain ⟨h₁, h₂⟩ := hc.live ho
      rw [List.count_cons_self, Nat.cast_succ, ← h₁]
      exact ⟨rfl, List.mem_cons_self⟩
    · obtain ⟨h₁, h₂⟩ := hc.live ho'
      rw [List.count_cons_of_ne (Ne.symm hqp)]
      exact ⟨h₁, List.mem_cons_of_mem _ h₂⟩
  · rw [hq]
    split_ifs with hqp
    · rfl
    · exact hc.held ((List.mem_cons.1 hm).resolve_left hqp)
  · rw [hq]
    split_ifs with hqp
    · rw [hqp, ho]; rfl
    · rfl

/-- A reference given up. -/
theorem Counted.release (hc : Counted h (p :: refs)) (c : α → ℕ) :
    ∃ h' freed, release h p = some (h', freed) ∧ Counted h' refs ∧
      total c h' + freed.elim 0 c = total c h ∧
      ∀ q o, objectAt h q = some o → (∃ r, objectAt h' q = some ⟨r, o.body⟩) ∨ freed = some o.body := by
  obtain ⟨o, ho⟩ := Option.isSome_iff_exists.1 (hc.held List.mem_cons_self)
  obtain ⟨h', freed, hr, hs, hf, hq⟩ := release_spec c ho
  obtain ⟨hcount, -⟩ := hc.live ho
  rw [List.count_cons_self, Nat.cast_succ] at hcount
  -- the last reference is given up exactly if there is no other
  have hlast : o.ref = 1 ↔ p ∉ refs := by
    rw [← List.count_eq_zero]
    omega
  refine ⟨h', freed, hr, ⟨fun {q o'} ho' => ?_, fun {q} hm => ?_⟩, hs, fun q o' ho' => ?_⟩
  · rw [hq] at ho'
    split_ifs at ho' with hqp h₁
    · cases ho'
      rw [hqp]
      refine ⟨?_, not_not.1 fun h => h₁ (hlast.2 h)⟩
      change o.ref - 1 = _
      omega
    · obtain ⟨h₁, h₂⟩ := hc.live ho'
      rw [List.count_cons_of_ne (Ne.symm hqp)] at h₁
      exact ⟨h₁, (List.mem_cons.1 h₂).resolve_left hqp⟩
  · rw [hq]
    split_ifs with hqp h₁
    · exact absurd (hqp ▸ hm) (hlast.1 h₁)
    · rfl
    · exact hc.held (List.mem_cons_of_mem _ hm)
  · by_cases hqp : q = p
    · rw [hqp, ho] at ho'
      cases ho'
      by_cases h₁ : o.ref = 1
      · exact .inr (by rw [hf, if_pos h₁])
      · exact .inl ⟨o.ref - 1, by rw [hq, if_pos hqp, if_neg h₁]⟩
    · exact .inl ⟨o'.ref, by rw [hq, if_neg hqp, ho']⟩

/-- Without references nothing is live. -/
theorem Counted.total_eq_zero (hc : Counted h []) (c : α → ℕ) : total c h = 0 := by
  have hnone : ∀ x ∈ h, x = none := by
    intro x hx
    obtain ⟨p, hp, rfl⟩ := List.getElem_of_mem hx
    cases ho : h[p] with
    | none => rfl
    | some o =>
      have hat : objectAt h p = some o := by
        rw [objectAt, List.getElem?_eq_getElem hp, ho]; rfl
      exact absurd (hc.live hat).2 List.not_mem_nil
  rw [total, List.sum_eq_zero]
  intro n hn
  obtain ⟨x, hx, rfl⟩ := List.mem_map.1 hn
  rw [hnone x hx]
  rfl

/-! ## The size -/

variable {c : α → ℕ} {max : ℕ}

/-- A new object is the one that may be above the limit. -/
theorem within_alloc {h' : Heap α} {body : α} (hm : total c h ≤ max)
    (hs : total c h' = total c h + c body) {r : ℤ} (hat : objectAt h' p = some ⟨r, body⟩) :
    Within c max h' :=
  .inr ⟨p, _, hat, by rw [hs]; exact Nat.add_le_add_right hm _⟩

theorem Within.take {h' : Heap α} (hw : Within c max h) (hs : total c h' = total c h)
    (hb : ∀ q, (objectAt h' q).map Object.body = (objectAt h q).map Object.body) : Within c max h' := by
  rcases hw with hw | ⟨q, o, ho, hw⟩
  · exact .inl (by rw [hs]; exact hw)
  · have hq := hb q
    rw [ho] at hq
    obtain ⟨o', ho', hbody⟩ := Option.map_eq_some_iff.1 hq
    exact .inr ⟨q, o', ho', by rw [hs, hbody]; exact hw⟩

theorem Within.release {h' : Heap α} {freed : Option α} (hw : Within c max h)
    (hs : total c h' + freed.elim 0 c = total c h)
    (hb : ∀ q o, objectAt h q = some o → (∃ r, objectAt h' q = some ⟨r, o.body⟩) ∨ freed = some o.body) :
    Within c max h' := by
  rcases hw with hw | ⟨q, o, ho, hw⟩
  · exact .inl (by omega)
  · rcases hb q o ho with ⟨r, hr⟩ | hf
    · exact .inr ⟨q, _, hr, by change _ ≤ max + c o.body; omega⟩
    · rw [hf] at hs
      have hs' : total c h' + c o.body = total c h := hs
      exact .inl (by omega)

end

end RefCount
