/-
  Where the decoder of datagrams stops (`iotBase64decode_str` in
  `localUdpServer_thread`).

  The string stands behind the first byte of a buffer of 1024 bytes, so it is
  followed by no whole group of four: with 255 groups that do not end the loop,
  the decoder starts one more at the byte 1021, and reads the byte 1024
  (`decodes_iff`).
-/
import MxchipSpp.Datagram

namespace MxchipSpp

open Memory

/-! ## The loop -/

/-- The loop of `iotBase64decode_str` passes the first `k` groups of a memory. -/
def GoesOn (l : List Byte) (k : ℕ) : Prop :=
  ∀ i < k, l[4 * i]? ≠ some 0 ∧ l[4 * i + 2]? ≠ some base64pad ∧ l[4 * i + 3]? ≠ some base64pad

theorem goesOn_cons {c₀ c₁ c₂ c₃ : Byte} {l : List Byte} {k : ℕ} :
    GoesOn (c₀ :: c₁ :: c₂ :: c₃ :: l) (k + 1) ↔
      (c₀ ≠ 0 ∧ c₂ ≠ base64pad ∧ c₃ ≠ base64pad) ∧ GoesOn l k := by
  constructor
  · intro h
    refine ⟨by simpa using h 0 (Nat.succ_pos k), fun i hi => ?_⟩
    exact h (i + 1) (Nat.succ_lt_succ hi)
  · rintro ⟨h₀, h⟩ i hi
    cases i with
    | zero => simpa using h₀
    | succ i => exact h i (Nat.lt_of_succ_lt_succ hi)

theorem decodeGroup_more (c₀ c₁ c₂ c₃ : Byte) :
    (decodeGroup c₀ c₁ c₂ c₃).2 = true ↔ c₂ ≠ base64pad ∧ c₃ ≠ base64pad := by
  unfold decodeGroup
  dsimp only
  split_ifs with h₂ h₃ <;> simp [*]

/-- With three bytes behind the last group, the decoder reads behind the memory if it passes all
    groups and finds no end in the first of the three. -/
theorem iotBase64decodeStr_eq_none_iff {k : ℕ} : ∀ {l : List Byte}, l.length = 4 * k + 3 →
    (iotBase64decodeStr l = none ↔ GoesOn l k ∧ l[4 * k]? ≠ some 0) := by
  induction k with
  | zero =>
    intro l hl
    obtain ⟨c₀, c₁, c₂, rfl⟩ := List.length_eq_three.1 hl
    by_cases h : c₀ = 0
    · simp [iotBase64decodeStr, h]
    · have h' : ¬ c₀ = 0#8 := h
      simp [iotBase64decodeStr, h', GoesOn]
  | succ k ih =>
    intro l hl
    obtain ⟨c₀, c₁, c₂, c₃, l, rfl⟩ : ∃ c₀ c₁ c₂ c₃ r, l = c₀ :: c₁ :: c₂ :: c₃ :: r := by
      rcases l with _ | ⟨c₀, _ | ⟨c₁, _ | ⟨c₂, _ | ⟨c₃, r⟩⟩⟩⟩
      all_goals first
        | exact ⟨_, _, _, _, _, rfl⟩
        | simp at hl
    have hl' : l.length = 4 * k + 3 := by simp at hl; omega
    have hnext : (c₀ :: c₁ :: c₂ :: c₃ :: l)[4 * (k + 1)]? = l[4 * k]? := rfl
    rw [goesOn_cons, hnext, iotBase64decodeStr]
    by_cases h₀ : c₀ = 0
    · simp [h₀]
    · rw [if_neg h₀]
      have hmore := decodeGroup_more c₀ c₁ c₂ c₃
      rcases hg : decodeGroup c₀ c₁ c₂ c₃ with ⟨out, _ | _⟩ <;> rw [hg] at hmore
      · have hno : ¬ (c₂ ≠ base64pad ∧ c₃ ≠ base64pad) := fun h => Bool.false_ne_true (hmore.2 h)
        simp only [Bool.false_eq_true, if_false]
        exact iff_of_false (Option.some_ne_none _) fun h => hno h.1.1.2
      · have hyes := hmore.1 rfl
        simp only [if_true, Option.map_eq_none_iff, ih hl']
        exact ⟨fun h => ⟨⟨⟨h₀, hyes⟩, h.1⟩, h.2⟩, fun h => ⟨h.1.2, h.2⟩⟩

/-! ## The buffer -/

/-- The datagrams for which the decoder reads behind the buffer. -/
structure RunsOver (datagram : List Byte) : Prop where
  long : 1023 ≤ datagram.length
  starts : ∀ k < 256, datagram[4 * k + 1]? ≠ some 0
  goes : ∀ k < 255, datagram[4 * k + 3]? ≠ some base64pad ∧ datagram[4 * k + 4]? ≠ some base64pad

theorem decodeDatagram_eq_none_iff {datagram : List Byte} (hpos : 1 ≤ datagram.length)
    (hmax : datagram.length ≤ 1024) : decodeDatagram datagram = none ↔ RunsOver datagram := by
  have hfit : 0 + (datagram.set (datagram.length - 1) 0).length ≤ 1024 := by simpa using hmax
  set buffer := (Block.fill 1024 (0 : Byte)).put 0 (datagram.set (datagram.length - 1) 0) hfit
    with hbuffer
  have hl : (buffer.cells.drop 1).length = 4 * 255 + 3 := by rw [List.length_drop, buffer.size]
  -- the bytes of the string, of which those behind the datagram are 0
  have hcell : ∀ i, i + 1 < datagram.length - 1 →
      (buffer.cells.drop 1)[i]? = datagram[i + 1]? := fun i hi => by
    rw [List.getElem?_drop, hbuffer, Block.put_getElem?, if_neg (by omega),
      if_pos (by rw [List.length_set]; omega), List.getElem?_set_ne (by omega)]
    congr 1
    omega
  have hzero : ∀ i, datagram.length - 1 ≤ i + 1 → i + 1 < 1024 →
      (buffer.cells.drop 1)[i]? = some 0 := fun i hi hi' => by
    rw [List.getElem?_drop, hbuffer, Block.put_getElem?, if_neg (by omega), Nat.add_comm 1]
    split_ifs with hin
    · -- the last byte of the datagram
      rw [List.length_set] at hin
      have hlast : i + 1 - 0 = datagram.length - 1 := by omega
      rw [hlast, List.getElem?_set_self (by omega)]
    · exact List.getElem?_replicate_of_lt hi'
  rw [decodeDatagram, Block.write_of_le _ hfit, Option.bind_eq_bind, Option.bind_some, ← hbuffer,
    iotBase64decodeStr_eq_none_iff hl]
  constructor
  · rintro ⟨hpass, hlast⟩
    have hlong : 1023 ≤ datagram.length := by
      by_contra hshort
      exact hlast (hzero (4 * 255) (by omega) (by omega))
    refine ⟨hlong, fun k hk => ?_, fun k hk => ?_⟩
    · rw [← hcell (4 * k) (by omega)]
      rcases Nat.lt_succ_iff_lt_or_eq.1 hk with hk | rfl
      · exact (hpass k hk).1
      · exact hlast
    · rw [← hcell (4 * k + 2) (by omega), ← hcell (4 * k + 3) (by omega)]
      exact (hpass k hk).2
  · rintro ⟨hlong, hstarts, hgoes⟩
    refine ⟨fun k hk => ?_, ?_⟩
    · rw [hcell (4 * k) (by omega), hcell (4 * k + 2) (by omega), hcell (4 * k + 3) (by omega)]
      exact ⟨hstarts k (by omega), hgoes k hk⟩
    · rw [hcell (4 * 255) (by omega)]
      exact hstarts 255 (by decide)

/-- **Where the decoder stays in the buffer.**  A datagram is decoded within the buffers exactly
    when it is short, or something in it ends the loop early. -/
theorem decodes_iff {datagram : List Byte} (hhead : datagram.head? = some caret)
    (hmax : datagram.length ≤ 1024) :
    (∃ msg, decodeDatagram datagram = some msg ∧ msg.length ≤ 1024) ↔ ¬ RunsOver datagram := by
  have hpos : 1 ≤ datagram.length := by
    cases datagram with
    | nil => cases hhead
    | cons c l => exact Nat.succ_pos _
  rw [← decodeDatagram_eq_none_iff hpos hmax]
  cases hm : decodeDatagram datagram with
  | none => simp
  | some msg =>
    have hlen := length_of_decodeDatagram hm
    simp only [Option.some.injEq, exists_eq_left', reduceCtorEq, not_false_eq_true, iff_true]
    omega

/-- A packet of three groups, and the longest datagram, ended by its sixth character. -/
theorem decodes_packet :
    (∃ msg, decodeDatagram (base64Frame [1, 2, 3, 4, 5, 6, 7]) = some msg ∧ msg.length ≤ 1024) ∧
    ∃ msg, decodeDatagram ([caret, 0x41, 0x41, 0x41, 0x41, 0] ++ List.replicate 1018 0x41) = some msg ∧
      msg.length ≤ 1024 := by
  constructor
  · exact (decodes_iff rfl (by decide +kernel)).2 fun h => absurd h.long (by decide +kernel)
  · have hl : ([caret, 0x41, 0x41, 0x41, 0x41, 0] ++ List.replicate 1018 (0x41 : Byte)).length ≤
        1024 := by
      rw [List.length_append, List.length_replicate]
      decide
    exact (decodes_iff rfl hl).2 fun h => h.starts 1 (by decide) rfl

/-- The datagram of `'^'` and 1022 times `'A'`. -/
theorem long_datagram_overreads : (caret :: List.replicate 1022 0x41).length ≤ 1024 ∧
    ¬ ∃ msg, decodeDatagram (caret :: List.replicate 1022 0x41) = some msg ∧ msg.length ≤ 1024 := by
  have hget : ∀ i, (caret :: List.replicate 1022 0x41)[i + 1]? ≠ some 0 ∧
      (caret :: List.replicate 1022 0x41)[i + 1]? ≠ some base64pad := fun i => by
    rw [List.getElem?_cons_succ, List.getElem?_replicate]
    split_ifs <;> decide
  have hl : (caret :: List.replicate 1022 (0x41 : Byte)).length = 1023 := by
    rw [List.length_cons, List.length_replicate]
  have hnone : decodeDatagram (caret :: List.replicate 1022 0x41) = none := by
    refine (decodeDatagram_eq_none_iff (by omega) (by omega)).2
      ⟨hl.ge, fun k _ => (hget _).1, fun k _ => ⟨(hget _).2, (hget _).2⟩⟩
  refine ⟨by omega, ?_⟩
  rintro ⟨msg, hmsg, -⟩
  rw [hnone] at hmsg
  cases hmsg

end MxchipSpp
