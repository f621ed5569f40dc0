/-
  A table of slots, each idle or holding the value of one key.

  `put` replaces the value of a key where the key has a slot and takes an idle
  slot where it has none; nothing is taken out again.  Seen by key, the table is
  a partial map (`lookup_put_self`, `lookup_put_of_ne`) that knows at most `n`
  keys: as long as no more are used, every `put` succeeds (`put_isSome`), and
  once all slots are taken, no other key gets in (`put_eq_none`).
-/
import Mathlib.Tactic
import Mathlib.Data.Fintype.Card

namespace Slots

universe u v
variable {κ : Type u} {β : Type v} [DecidableEq κ] {n : ℕ}

/-- A table of `n` slots. -/
abbrev Table (κ : Type u) (β : Type v) (n : ℕ) := Fin n → Option (κ × β)

/-- The first slot of a key. -/
def index (t : Table κ β n) (k : κ) : Option (Fin n) :=
  (List.finRange n).find? fun i => (t i).any fun s => s.1 = k

/-- The first slot that is idle. -/
def idle (t : Table κ β n) : Option (Fin n) := (List.finRange n).find? fun i => (t i).isNone

/-- The value of a key. -/
def lookup (t : Table κ β n) (k : κ) : Option β :=
  (index t k).bind fun i => (t i).map Prod.snd

/-- The value of a key is replaced, or one for a new key is put into an idle slot. -/
def put (t : Table κ β n) (k : κ) (b : β) : Option (Table κ β n) :=
  ((index t k).or (idle t)).map fun i => Function.update t i (some (k, b))

/-- No key has two slots. -/
def Distinct (t : Table κ β n) : Prop :=
  ∀ i j k b c, t i = some (k, b) → t j = some (k, c) → i = j

variable {t t' : Table κ β n} {k : κ} {b : β} {i : Fin n}

/-! ## Finding a slot -/

theorem index_eq_some (h : index t k = some i) : ∃ b, t i = some (k, b) := by
  have hany := List.find?_some h
  simp only [Option.any_eq_true, decide_eq_true_eq] at hany
  obtain ⟨⟨k', b⟩, hi, rfl⟩ := hany
  exact ⟨b, hi⟩

theorem index_eq_none (h : index t k = none) : t i ≠ some (k, b) := by
  intro hi
  have hno := List.find?_eq_none.1 h i (List.mem_finRange i)
  simp [hi] at hno

theorem index_of_slot (ht : Distinct t) (h : t i = some (k, b)) : index t k = some i := by
  rcases hj : index t k with _ | j
  · exact absurd h (index_eq_none hj)
  · obtain ⟨c, hc⟩ := index_eq_some hj
    rw [ht i j k b c h hc]

theorem lookup_of_slot (ht : Distinct t) (h : t i = some (k, b)) : lookup t k = some b := by
  rw [lookup, index_of_slot ht h, Option.bind_some, h, Option.map_some]

theorem lookup_eq_some (ht : Distinct t) : lookup t k = some b ↔ ∃ i, t i = some (k, b) := by
  constructor
  · intro h
    obtain ⟨i, hi, hb⟩ := Option.bind_eq_some_iff.1 h
    obtain ⟨c, hc⟩ := index_eq_some hi
    rw [hc, Option.map_some, Option.some.injEq] at hb
    exact ⟨i, hb ▸ hc⟩
  · rintro ⟨i, hi⟩
    exact lookup_of_slot ht hi

omit [DecidableEq κ] in
theorem idle_eq_some (h : idle t = some i) : t i = none := by
  simpa using List.find?_some h

omit [DecidableEq κ] in
theorem idle_eq_none (h : idle t = none) (i : Fin n) : ∃ s, t i = some s := by
  have hno := List.find?_eq_none.1 h i (List.mem_finRange i)
  rw [Option.isNone_iff_eq_none] at hno
  exact Option.ne_none_iff_exists'.1 hno

/-! ## Putting a value in -/

/-- A `put` writes one slot, that of the key or an idle one. -/
theorem put_eq_some (h : put t k b = some t') : ∃ i, (t i = none ∨ ∃ c, t i = some (k, c)) ∧
    (index t k = some i ∨ index t k = none) ∧ t' = Function.update t i (some (k, b)) := by
  obtain ⟨i, hi, rfl⟩ := Option.map_eq_some_iff.1 h
  rcases hk : index t k with _ | j
  · rw [hk, Option.none_or] at hi
    exact ⟨i, .inl (idle_eq_some hi), .inr rfl, rfl⟩
  · rw [hk, Option.some_or, Option.some.injEq] at hi
    subst hi
    exact ⟨j, .inr (index_eq_some hk), .inl rfl, rfl⟩

/-- The slot that is written is the only one of its key. -/
theorem Distinct.put (ht : Distinct t) (h : put t k b = some t') : Distinct t' := by
  obtain ⟨i, -, hindex, rfl⟩ := put_eq_some h
  have hother : ∀ j c, j ≠ i → t j ≠ some (k, c) := by
    intro j c hj hc
    rcases hindex with hi | hi
    · rw [index_of_slot ht hc, Option.some.injEq] at hi
      exact hj hi
    · exact index_eq_none hi hc
  intro a d k' x y hx hy
  rcases eq_or_ne a i with rfl | ha <;> rcases eq_or_ne d a with rfl | hd
  · rfl
  · rw [Function.update_self, Option.some.injEq, Prod.mk.injEq] at hx
    rw [Function.update_of_ne hd, ← hx.1] at hy
    exact absurd hy (hother d y hd)
  · rfl
  · rw [Function.update_of_ne ha] at hx
    rcases eq_or_ne d i with rfl | hdi
    · rw [Function.update_self, Option.some.injEq, Prod.mk.injEq] at hy
      rw [← hy.1] at hx
      exact absurd hx (hother a x ha)
    · rw [Function.update_of_ne hdi] at hy
      exact ht a d k' x y hx hy

theorem lookup_put_self (ht : Distinct t) (h : put t k b = some t') : lookup t' k = some b := by
  have ht' := ht.put h
  obtain ⟨i, -, -, rfl⟩ := put_eq_some h
  exact lookup_of_slot ht' (Function.update_self _ _ _)

/-- The other keys keep their values. -/
theorem lookup_put_of_ne (ht : Distinct t) (h : put t k b = some t') {k' : κ} (hne : k' ≠ k) :
    lookup t' k' = lookup t k' := by
  have ht' := ht.put h
  obtain ⟨i, hold, -, rfl⟩ := put_eq_some h
  refine Option.ext fun x => ?_
  rw [lookup_eq_some ht', lookup_eq_some ht]
  refine exists_congr fun j => ?_
  rcases eq_or_ne j i with rfl | hj
  · rw [Function.update_self]
    refine iff_of_false (fun he => hne ?_) fun he => ?_
    · simpa using (congrArg (Option.map Prod.fst) he).symm
    · rcases hold with hold | ⟨c, hold⟩
      · rw [hold] at he
        cases he
      · rw [hold, Option.some.injEq, Prod.mk.injEq] at he
        exact hne he.1.symm
  · rw [Function.update_of_ne hj]

/-! ## How many keys there are -/

/-- As long as the keys in use are no more than the slots, every `put` succeeds. -/
theorem put_isSome (ht : Distinct t) {K : Finset κ} (hK : K.card ≤ n)
    (hused : ∀ k, (lookup t k).isSome → k ∈ K) (hk : k ∈ K) (b : β) : (put t k b).isSome := by
  rw [put, Option.isSome_map, Option.isSome_or, Bool.or_eq_true]
  rcases hindex : index t k with _ | i
  · right
    rw [Option.isSome_iff_ne_none]
    intro hidle
    -- all slots are taken, by keys of `K` other than `k`
    choose s hs using idle_eq_none hidle
    have hinj : Function.Injective fun i => (s i).1 := by
      intro i j hij
      exact ht i j (s i).1 (s i).2 (s j).2 (hs i) (by rw [hs j, show (s i).1 = (s j).1 from hij])
    have hsub : Finset.univ.image (fun i => (s i).1) ⊆ K.erase k := by
      intro x hx
      obtain ⟨i, -, rfl⟩ := Finset.mem_image.1 hx
      refine Finset.mem_erase.2 ⟨fun he => ?_, hused _ ?_⟩
      · exact index_eq_none hindex (show t i = some (k, (s i).2) by rw [hs i, ← he])
      · rw [lookup_of_slot ht (hs i)]
        rfl
    have hcard := Finset.card_le_card hsub
    rw [Finset.card_image_of_injective _ hinj, Finset.card_univ, Fintype.card_fin,
      Finset.card_erase_of_mem hk] at hcard
    have := Finset.card_pos.2 ⟨k, hk⟩
    omega
  · exact .inl rfl

/-- Once as many keys as slots are known, no other key gets in. -/
theorem put_eq_none (ht : Distinct t) {K : Finset κ} (hK : n ≤ K.card)
    (hused : ∀ k ∈ K, (lookup t k).isSome) (hk : k ∉ K) (b : β) : put t k b = none := by
  have hslot : ∀ x : K, ∃ i b, t i = some (x.1, b) := by
    intro x
    obtain ⟨b, hb⟩ := Option.isSome_iff_exists.1 (hused x.1 x.2)
    obtain ⟨i, hi⟩ := (lookup_eq_some ht).1 hb
    exact ⟨i, b, hi⟩
  choose slot value hvalue using hslot
  have hinj : Function.Injective slot := by
    intro x y hxy
    have h := (hvalue x).symm.trans ((congrArg t hxy).trans (hvalue y))
    rw [Option.some.injEq, Prod.mk.injEq] at h
    exact Subtype.ext h.1
  -- a slot for each key, so each slot has a key of `K`
  have hsurj : Function.Surjective slot := by
    have hcard : Fintype.card K = Fintype.card (Fin n) := by
      refine le_antisymm (Fintype.card_le_of_injective _ hinj) ?_
      rwa [Fintype.card_fin, Fintype.card_coe]
    exact ((Fintype.bijective_iff_injective_and_card slot).2 ⟨hinj, hcard⟩).2
  have hindex : index t k = none := by
    rcases hi : index t k with _ | i
    · rfl
    · obtain ⟨c, hc⟩ := index_eq_some hi
      obtain ⟨x, rfl⟩ := hsurj i
      rw [hvalue x, Option.some.injEq, Prod.mk.injEq] at hc
      exact absurd (hc.1 ▸ x.2) hk
  have hidle : idle t = none := by
    rcases hi : idle t with _ | i
    · rfl
    · obtain ⟨x, rfl⟩ := hsurj i
      have hnone := idle_eq_some hi
      rw [hvalue x] at hnone
      cases hnone
  rw [put, hindex, hidle]
  rfl

end Slots
