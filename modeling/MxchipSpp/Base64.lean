/-
  The strings of base64 (`iotBase64encode`, the two decoders) and the packets
  that wrap them (`iotDataToBase64`, `iotBase64ToData`).

  The encoder writes characters of its alphabet and a 0, and both decoders read
  back what it was given (`base64_round_trip`).  The check of
  `iotDataToBase64`, which rounds `4 * n / 3` down, leaves room for the marks
  and the padding (`packet_round_trip`).
-/
import MxchipSpp.Geniot
import Mathlib.Data.List.TakeWhile

namespace MxchipSpp

open Memory

/-! ## Strings -/

/-- What `iotBase64encode` writes: the characters, and the 0 behind them. -/
def base64String (bindata : List Byte) : List Byte := iotBase64encode bindata ++ [0]

theorem toBase64_mem : ∀ k : Byte, k.toNat < 64 → toBase64 k ∈ base64char := by
  decide +kernel

theorem zero_notMem_base64char : (0 : Byte) ∉ base64char := by decide

/-- The characters are those of the alphabet, and the padding. -/
theorem mem_iotBase64encode (m : List Byte) :
    ∀ c ∈ iotBase64encode m, c ∈ base64char ∨ c = base64pad := by
  induction m using iotBase64encode.induct with
  | case1 => exact fun c hc => absurd hc List.not_mem_nil
  | case2 a =>
    obtain ⟨h₀, h₁, -, -⟩ := current_lt a 0 0
    rw [iotBase64encode]
    simp only [List.forall_mem_cons]
    exact ⟨.inl (toBase64_mem _ h₀), .inl (toBase64_mem _ h₁), .inr trivial, .inr trivial,
      fun c hc => absurd hc List.not_mem_nil⟩
  | case3 a b =>
    obtain ⟨h₀, h₁, h₂, -⟩ := current_lt a b 0
    rw [iotBase64encode]
    simp only [List.forall_mem_cons]
    exact ⟨.inl (toBase64_mem _ h₀), .inl (toBase64_mem _ h₁), .inl (toBase64_mem _ h₂),
      .inr trivial, fun c hc => absurd hc List.not_mem_nil⟩
  | case4 a b c m ih =>
    obtain ⟨h₀, h₁, h₂, h₃⟩ := current_lt a b c
    simp only [iotBase64encode, List.forall_mem_cons]
    exact ⟨.inl (toBase64_mem _ h₀), .inl (toBase64_mem _ h₁), .inl (toBase64_mem _ h₂),
      .inl (toBase64_mem _ h₃), ih⟩

theorem zero_notMem_iotBase64encode (m : List Byte) : 0 ∉ iotBase64encode m := by
  intro h
  rcases mem_iotBase64encode m 0 h with h | h
  · exact zero_notMem_base64char h
  · exact absurd h (by decide)

theorem toBase64_ne_zero {k : Byte} (h : k.toNat < 64) : toBase64 k ≠ 0 := fun he =>
  zero_notMem_base64char (he ▸ toBase64_mem k h)

/-- The decoder of strings stops at the 0, or at the padding before it. -/
theorem iotBase64decodeStr_encode (m rest : List Byte) :
    iotBase64decodeStr (iotBase64encode m ++ 0 :: rest) = some m := by
  induction m using iotBase64encode.induct with
  | case1 => cases rest with
    | nil => rfl
    | cons c₁ rest => rcases rest with _ | ⟨c₂, _ | ⟨c₃, rest⟩⟩ <;> rfl
  | case2 a =>
    have hne := toBase64_ne_zero (current_lt a 0 0).1
    rw [iotBase64encode, List.cons_append, List.cons_append, List.cons_append, List.cons_append,
      iotBase64decodeStr, if_neg hne, decodeGroup_one]
    rfl
  | case3 a b =>
    have hne := toBase64_ne_zero (current_lt a b 0).1
    rw [iotBase64encode, List.cons_append, List.cons_append, List.cons_append, List.cons_append,
      iotBase64decodeStr, if_neg hne, decodeGroup_two]
    rfl
  | case4 a b c m ih =>
    have hne := toBase64_ne_zero (current_lt a b c).1
    rw [iotBase64encode, List.cons_append, List.cons_append, List.cons_append, List.cons_append,
      iotBase64decodeStr, if_neg hne, decodeGroup_three]
    exact congrArg (Option.map ([a, b, c] ++ ·)) ih

/-- **Base64 is read back** by both decoders, from a string of the alphabet that ends with a 0. -/
theorem base64_round_trip (x rest : List Byte) :
    ∃ s, base64String x = s ++ [0] ∧ s.length = 4 * ((x.length + 2) / 3) ∧ 0 ∉ s ∧
      (∀ c ∈ s, c ∈ base64char ∨ c = base64pad) ∧
      iotBase64decodeStr (s ++ 0 :: rest) = some x ∧
      iotBase64decode s.length (s ++ 0 :: rest) = some x :=
  ⟨iotBase64encode x, rfl, length_iotBase64encode x, zero_notMem_iotBase64encode x,
    mem_iotBase64encode x, iotBase64decodeStr_encode x rest, iotBase64decode_encode x _⟩

/-! ## Packets -/

/-- A value of type `int`; an overflow is undefined. -/
def cInt (x : ℤ) : Option ℤ := if -2 ^ 31 ≤ x ∧ x < 2 ^ 31 then some x else none

/-- The string at the front of a memory. -/
def cString (l : List Byte) : List Byte := l.takeWhile (· ≠ 0)

/-- `strlen` -/
def strlen (l : List Byte) : Option ℕ := if 0 ∈ l then some (cString l).length else none

section
variable {n : ℕ}

/-- `iotDataToBase64`, on a buffer of `n` bytes of which `base64len` says the length; 0 is its
    answer to one that may be too small. -/
def iotDataToBase64 (bindata : List Byte) (base64 : Block Byte n) (base64len : ℤ) :
    Option (Block Byte n × ℕ) := do
  if base64len < (← cInt (4 * bindata.length)) / 3 + 12 then
    return (base64, 0)
  else
    let base64 ← base64.write 1 (base64String bindata)
    let base64 ← base64.write 0 [caret]
    let len ← strlen base64.cells
    let base64 ← base64.write len [amp]
    let base64 ← base64.write (len + 1) [0]
    return (base64, len + 1)

end

/-! ## Writing and reading strings -/

section
variable {n : ℕ} {s xs zs rest : List Byte}

theorem cString_of_notMem (h : 0 ∉ s) : cString s = s := by
  refine List.takeWhile_eq_self_iff.2 fun c hc => ?_
  rw [decide_eq_true_iff]
  rintro rfl
  exact h hc

theorem cString_append_nul (s rest : List Byte) : cString (s ++ 0 :: rest) = cString s := by
  induction s with
  | nil => simp [cString]
  | cons c s ih =>
    simp only [cString, List.cons_append, List.takeWhile_cons] at ih ⊢
    rw [ih]

theorem cString_append (h : 0 ∉ s) : cString (s ++ 0 :: rest) = s := by
  rw [cString_append_nul, cString_of_notMem h]

theorem strlen_append (h : 0 ∉ s) : strlen (s ++ 0 :: rest) = some s.length := by
  rw [strlen, if_pos (by simp), cString_append h]

/-- One byte written over another. -/
theorem cells_put_cons {a : Block Byte n} {y : Byte} (h : a.cells = xs ++ y :: zs) {i : ℕ}
    (hi : i = xs.length) (y' : Byte) :
    ∃ b, a.write i [y'] = some b ∧ b.cells = xs ++ y' :: zs := by
  have hn := congrArg List.length h
  rw [a.size, List.length_append, List.length_cons] at hn
  have hfit : i + [y'].length ≤ n := by
    rw [List.length_singleton]
    omega
  refine ⟨_, Block.write_of_le _ hfit, ?_⟩
  rw [Block.cells_put, h, hi, List.take_left, List.length_singleton, ← List.drop_drop,
    List.drop_left]
  rfl

end

theorem zero_notMem_base64Frame (x : List Byte) : 0 ∉ base64Frame x := by
  have h := zero_notMem_iotBase64encode x
  intro hm
  rw [base64Frame, List.cons_append, List.mem_cons, List.mem_append] at hm
  rcases hm with hm | hm | hm
  · exact absurd hm (by decide)
  · exact h hm
  · exact absurd (List.mem_singleton.1 hm) (by decide)

/-- What `iotDataToBase64` leaves in a buffer it finds large enough: the packet, and a 0. -/
theorem iotDataToBase64_eq {n : ℕ} {x : List Byte} (base64 : Block Byte n) {base64len : ℤ}
    (hx : x.length < 2 ^ 29) (hroom : 4 * (x.length : ℤ) / 3 + 12 ≤ base64len) (hn : base64len ≤ n) :
    ∃ base64' rest, iotDataToBase64 x base64 base64len = some (base64', (base64Frame x).length) ∧
      base64'.cells = base64Frame x ++ 0 :: rest := by
  have hint : cInt (4 * x.length) = some (4 * x.length : ℤ) := if_pos (by omega)
  have hlen : (iotBase64encode x).length + 3 ≤ n := by
    rw [length_iotBase64encode]
    omega
  have h₁ : 1 + (base64String x).length ≤ n := by
    rw [base64String, List.length_append, List.length_singleton]
    omega
  -- the cells behind the characters, of which there are two at least
  obtain ⟨c, hc⟩ : ∃ c, base64.cells.take 1 = [c] :=
    List.length_eq_one_iff.1 (by rw [List.length_take, base64.size]; omega)
  obtain ⟨t, rest, ht⟩ : ∃ t rest, base64.cells.drop (1 + (base64String x).length) = t :: rest := by
    refine List.exists_cons_of_length_pos ?_
    rw [List.length_drop, base64.size, base64String, List.length_append, List.length_singleton]
    omega
  have hcells : (base64.put 1 (base64String x) h₁).cells =
      [] ++ c :: (iotBase64encode x ++ 0 :: t :: rest) := by
    rw [Block.cells_put, hc, ht, base64String]
    simp
  obtain ⟨b₂, hw₂, hb₂⟩ := cells_put_cons hcells (i := 0) rfl caret
  have hz : 0 ∉ caret :: iotBase64encode x := fun hm => by
    rcases List.mem_cons.1 hm with hm | hm
    · exact absurd hm (by decide)
    · exact zero_notMem_iotBase64encode x hm
  have hstr : strlen b₂.cells = some (caret :: iotBase64encode x).length := by
    rw [hb₂]
    exact strlen_append hz
  have hb₂' : b₂.cells = (caret :: iotBase64encode x) ++ 0 :: t :: rest := hb₂
  obtain ⟨b₃, hw₃, hb₃⟩ := cells_put_cons hb₂' rfl amp
  have hb₃' : b₃.cells = base64Frame x ++ t :: rest := by
    rw [hb₃, base64Frame]
    simp
  have hl : (caret :: iotBase64encode x).length + 1 = (base64Frame x).length := by
    rw [base64Frame, List.length_append, List.length_singleton]
  obtain ⟨b₄, hw₄, hb₄⟩ := cells_put_cons hb₃' rfl 0
  refine ⟨b₄, rest, ?_, hb₄⟩
  rw [iotDataToBase64, hint, Option.bind_eq_bind, Option.bind_some, if_neg (by omega),
    Block.write_of_le _ h₁]
  simp only [Option.bind_eq_bind, Option.bind_some, hw₂, hstr, hw₃, hw₄, hl]
  rfl

/-- **A packet is wrapped within its buffer, and read back**, unless the buffer is shorter than
    `iotDataToBase64` asks for; then nothing is written. -/
theorem packet_round_trip {x : List Byte} (hx : x.length < 2 ^ 29) (base64len : ℤ)
    (base64 : Block Byte base64len.toNat) :
    (base64len < 4 * (x.length : ℤ) / 3 + 12 ∧
      iotDataToBase64 x base64 base64len = some (base64, 0)) ∨
    (4 * (x.length : ℤ) / 3 + 12 ≤ base64len ∧
      ∃ base64', iotDataToBase64 x base64 base64len = some (base64', (base64Frame x).length) ∧
        (base64Frame x).length + 1 ≤ base64len ∧ 0 ∈ base64'.cells ∧
        cString base64'.cells = base64Frame x ∧
        ∀ binlength, (base64Frame x).length ≤ binlength →
          iotBase64ToData (cString base64'.cells) binlength = some x ∧ x.length ≤ binlength) := by
  by_cases hroom : 4 * (x.length : ℤ) / 3 + 12 ≤ base64len
  · obtain ⟨base64', rest, h, hcells⟩ := iotDataToBase64_eq base64 hx hroom (by omega)
    have hstr : cString base64'.cells = base64Frame x := by
      rw [hcells, cString_append (zero_notMem_base64Frame x)]
    have hlen := length_base64Frame x
    refine .inr ⟨hroom, base64', h, by omega, by rw [hcells]; simp, hstr, fun binlength hle => ?_⟩
    rw [hstr]
    exact ⟨iotBase64ToData_base64Frame x hle, by omega⟩
  · have hint : cInt (4 * x.length) = some (4 * x.length : ℤ) := if_pos (by omega)
    refine .inl ⟨not_le.1 hroom, ?_⟩
    rw [iotDataToBase64, hint, Option.bind_eq_bind, Option.bind_some, if_pos (by omega)]
    rfl

/-- Two bytes, in a buffer that is long enough for them and in one that is too short. -/
theorem packet_round_trip_two :
    (∃ base64', iotDataToBase64 [0x01, 0xFF] (.fill (Int.toNat 14) 0) 14 = some (base64', 6) ∧
      cString base64'.cells = base64Frame [0x01, 0xFF] ∧
      iotBase64ToData (cString base64'.cells) 6 = some [0x01, 0xFF]) ∧
    iotDataToBase64 [0x01, 0xFF] (.fill (Int.toNat 13) 0) 13 = some (.fill (Int.toNat 13) 0, 0) := by
  have hlen : (base64Frame [0x01, 0xFF]).length = 6 := length_base64Frame _
  constructor
  · obtain ⟨-, base64', h, -, -, hstr, hread⟩ :=
      (packet_round_trip (x := [0x01, 0xFF]) (by decide) 14 (.fill _ 0)).resolve_left
        fun h => absurd h.1 (by decide)
    rw [hlen] at h hread
    exact ⟨base64', h, hstr, (hread 6 le_rfl).1⟩
  · exact ((packet_round_trip (by decide) 13 (.fill _ 0)).resolve_right
      fun h => absurd h.1 (by decide)).2

end MxchipSpp
