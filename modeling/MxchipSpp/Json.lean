/-
  The values of a flat JSON object (`getJson` in mico_tcl.c, and its copy
  `iotGetJson` in geniot.c).

  The function searches the text for the key in quotes with a colon, and cuts
  what follows at the first comma or closing brace.  A string is the list of
  its bytes, without the NUL.
-/
import MxchipSpp.Base64
import MxchipSpp.Lib.Search
import Mathlib.Data.List.DropRight

namespace MxchipSpp

open Memory Search

/-! ## The functions -/

abbrev space : Byte := 0x20
abbrev quote : Byte := 0x22
abbrev comma : Byte := 0x2C
abbrev colon : Byte := 0x3A
abbrev openBrace : Byte := 0x7B
abbrev closeBrace : Byte := 0x7D

/-- What `trim` removes at both ends. -/
def blank (c : Byte) : Bool := c = space ∨ c = quote

/-- What ends a value. -/
def separator (c : Byte) : Bool := c = comma ∨ c = closeBrace

/-- The pattern of a key: `"key":` -/
def keysp (key : List Byte) : List Byte := quote :: (key ++ [quote, colon])

section
variable {n : ℕ}

/-- `trim` and `iotTrim`, which copy the string to `buf` of `jsonLength` bytes. -/
def trim (jsonLength : ℕ) (value : Block Byte n) : Option (Block Byte n) := do
  let _ ← strlen value.cells
  let buf := (cString value.cells).dropWhile blank
  -- `strcpy` to `buf`, which is then cut from its end and copied back
  if jsonLength < buf.length + 1 then none
  else value.write 0 (buf.rdropWhile blank ++ [0])

/-- The value, trimmed, and its length. -/
def storeText (jsonLength : ℕ) (text : List Byte) (value : Block Byte n) :
    Option (Block Byte n × ℕ) := do
  let value ← value.write 0 text
  let value ← value.write text.length [0]
  let value ← trim jsonLength value
  return (value, ← strlen value.cells)

/-- The empty string, and its length. -/
def storeEmpty (value : Block Byte n) : Option (Block Byte n × ℕ) := do
  return (← value.write 0 [0], 0)

/-- `getJson` and `iotGetJson`, with the longest key, the size of `keysp` and `JSONLENGTH`. -/
def jsonValue (maxKey keyspSize jsonLength : ℕ) (json key : List Byte) (value : Block Byte n) :
    Option (Block Byte n × ℕ) :=
  if maxKey < key.length then storeEmpty value
  else if keyspSize < (keysp key).length + 1 then none
  else do
    let value ← value.write 0 [0]
    if json.length ≤ (keysp key).length + 5 then storeEmpty value
    else
      -- the loops over `i` and `j`: the first `i < len - keylen` at which `keysp` stands
      match index (keysp key) json with
      | some i =>
        let index := i + (keysp key).length
        -- `s` stops at a separator, or at the end
        let s := index + ((json.drop index).takeWhile fun c => ! separator c).length
        if s ≠ json.length ∧ s - index < jsonLength then
          storeText jsonLength ((json.drop index).take (s - index)) value
        else storeEmpty value
      | none => storeEmpty value

/-- `JSONLENGTH` in mico_tcl.h -/
def micoJsonLength : ℕ := 84

/-- `JSONLENGTH` in geniot.h -/
def iotJsonLength : ℕ := 72

def getJson (json key : List Byte) (value : Block Byte n) : Option (Block Byte n × ℕ) :=
  jsonValue 40 160 micoJsonLength json key value

def iotGetJson (json key : List Byte) (value : Block Byte n) : Option (Block Byte n × ℕ) :=
  jsonValue 32 128 iotJsonLength json key value

end

/-! ## Flat objects -/

/-- A letter, a digit or an underscore. -/
def identChar (c : Byte) : Bool :=
  (0x61 ≤ c ∧ c ≤ 0x7A) ∨ (0x41 ≤ c ∧ c ≤ 0x5A) ∨ (0x30 ≤ c ∧ c ≤ 0x39) ∨ c = 0x5F

structure Identifier (key : List Byte) : Prop where
  nonempty : key ≠ []
  chars : ∀ c ∈ key, identChar c = true

/-- What a value may be: no quote, comma or closing brace in it, and no space around it. -/
structure Plain (s : List Byte) : Prop where
  chars : ∀ c ∈ s, c ≠ quote ∧ separator c = false ∧ c ≠ 0
  head : s.head? ≠ some space
  last : s.getLast? ≠ some space

/-- A key and its value: a number or a word, or a string in quotes. -/
structure JsonField where
  key : List Byte
  quoted : Bool
  content : List Byte
  identifier : Identifier key
  plain : Plain content

/-- The text of the value. -/
def JsonField.value (f : JsonField) : List Byte :=
  if f.quoted then quote :: (f.content ++ [quote]) else f.content

def JsonField.text (f : JsonField) : List Byte := quote :: (f.key ++ quote :: colon :: f.value)

/-- A flat object: the fields, each key once. -/
structure FlatJson where
  fields : List JsonField
  distinct : (fields.map JsonField.key).Nodup

/-- The fields, and the closing brace. -/
def fieldsText (fs : List JsonField) : List Byte :=
  [comma].intercalate (fs.map JsonField.text) ++ [closeBrace]

def FlatJson.text (json : FlatJson) : List Byte := openBrace :: fieldsText json.fields

section
variable {key : List Byte}

theorem Identifier.quote_notMem (h : Identifier key) : quote ∉ key := fun hm =>
  absurd (h.chars _ hm) (by decide)

theorem Plain.quote_notMem {s : List Byte} (h : Plain s) : quote ∉ s := fun hm =>
  (h.chars _ hm).1 rfl

/-- A key does not begin with what comes after a quote that closes. -/
theorem Identifier.not_begins (h : Identifier key) {c : Byte} (hc : identChar c = false)
    (pat l : List Byte) : ¬ key ++ pat <+: c :: l := by
  obtain ⟨hne, hchars⟩ := h
  cases key with
  | nil => exact absurd rfl hne
  | cons b key =>
    intro hp
    obtain ⟨rfl, -⟩ := List.cons_prefix_cons.1 hp
    rw [hchars b List.mem_cons_self] at hc
    cases hc

/-- A quote at which the pattern does not go on. -/
theorem after_keysp_quote {l : List Byte} (h : ¬ key ++ [quote, colon] <+: l) :
    after (keysp key) (quote :: l) = after (keysp key) l :=
  after_cons_of_not fun hp => h (List.cons_prefix_cons.1 hp).2

theorem after_keysp_skip {x : List Byte} (h : quote ∉ x) (y : List Byte) :
    after (keysp key) (x ++ y) = after (keysp key) y := after_skip h

/-- The pattern is not in a value. -/
theorem after_value (hk : Identifier key) (f : JsonField) {sep : Byte} (hsep : separator sep = true)
    (rest : List Byte) :
    after (keysp key) (f.value ++ sep :: rest) = after (keysp key) (sep :: rest) := by
  have hident : identChar sep = false := by
    rcases of_decide_eq_true hsep with rfl | rfl <;> rfl
  rw [JsonField.value]
  split
  · rw [List.cons_append, List.append_assoc, List.cons_append, List.nil_append, after_keysp_quote,
      after_keysp_skip f.plain.quote_notMem, after_keysp_quote (hk.not_begins hident _ _)]
    -- the string in quotes may be the key, but a colon does not follow it
    intro hp
    obtain ⟨-, hp⟩ := eq_of_prefix_cons hk.quote_notMem f.plain.quote_notMem hp
    obtain ⟨rfl, -⟩ := List.cons_prefix_cons.1 hp
    cases hsep
  · exact after_keysp_skip f.plain.quote_notMem _

/-- A field is found by its key, and else skipped. -/
theorem after_field (hk : Identifier key) (f : JsonField) {sep : Byte} (hsep : separator sep = true)
    (rest : List Byte) :
    after (keysp key) (f.text ++ sep :: rest) =
      if f.key = key then some (f.value ++ sep :: rest) else after (keysp key) (sep :: rest) := by
  have htext : f.text ++ sep :: rest = quote :: (f.key ++ quote :: colon :: (f.value ++ sep :: rest)) := by
    simp [JsonField.text]
  rw [htext]
  by_cases hkey : f.key = key
  · rw [if_pos hkey, hkey]
    have := after_append_self (keysp key) (f.value ++ sep :: rest)
    simpa [keysp] using this
  · rw [if_neg hkey, after_keysp_quote, after_keysp_skip f.identifier.quote_notMem,
      after_keysp_quote (hk.not_begins rfl _ _), ← List.singleton_append,
      after_keysp_skip (by decide), after_value hk f hsep]
    intro hp
    exact hkey (eq_of_prefix_cons hk.quote_notMem f.identifier.quote_notMem hp).1.symm

/-- What is after a field: a separator, and then the fields that are left. -/
theorem exists_fieldsText_cons (f : JsonField) (fs : List JsonField) : ∃ sep rest, separator sep = true ∧
    fieldsText (f :: fs) = f.text ++ sep :: rest ∧
      ∀ key, after (keysp key) (sep :: rest) = after (keysp key) (fieldsText fs) := by
  cases fs with
  | nil => exact ⟨closeBrace, [], rfl, by simp [fieldsText, List.intercalate], fun _ => rfl⟩
  | cons g fs =>
    refine ⟨comma, fieldsText (g :: fs), rfl, ?_, fun key => ?_⟩
    · simp [fieldsText, List.intercalate]
    · exact after_keysp_skip (x := [comma]) (by decide) _

/-- A key that no field has is not found. -/
theorem after_fieldsText_none (hk : Identifier key) {fs : List JsonField} (h : key ∉ fs.map JsonField.key) :
    after (keysp key) (fieldsText fs) = none := by
  induction fs with
  | nil =>
    refine (after_keysp_skip (x := [closeBrace]) (by decide) []).trans (if_neg ?_)
    exact List.cons_ne_nil _ _
  | cons f fs ih =>
    obtain ⟨sep, rest, hsep, htext, hafter⟩ := exists_fieldsText_cons f fs
    obtain ⟨hf, hfs⟩ := not_or.1 (mt List.mem_cons.2 h)
    rw [htext, after_field hk f hsep, if_neg (Ne.symm hf), hafter, ih hfs]

/-- A key is found where its field is. -/
theorem after_fieldsText_some {fs : List JsonField} (hn : (fs.map JsonField.key).Nodup) {f : JsonField}
    (hf : f ∈ fs) : ∃ sep rest, separator sep = true ∧
      after (keysp f.key) (fieldsText fs) = some (f.value ++ sep :: rest) := by
  induction fs with
  | nil => cases hf
  | cons g fs ih =>
    obtain ⟨sep, rest, hsep, htext, hafter⟩ := exists_fieldsText_cons g fs
    obtain ⟨hg, hn⟩ := List.nodup_cons.1 hn
    rw [htext, after_field f.identifier g hsep]
    rcases List.mem_cons.1 hf with rfl | hf
    · exact ⟨sep, rest, hsep, if_pos rfl⟩
    · have hne : g.key ≠ f.key := fun he => hg (he ▸ List.mem_map_of_mem hf)
      rw [if_neg hne, hafter]
      exact ih hn hf

end

/-! ## What is stored -/

section
variable {n jsonLength : ℕ} {text : List Byte} {value : Block Byte n}

/-- `s` is stored, and its length returned. -/
def Stores (r : Option (Block Byte n × ℕ)) (s : List Byte) : Prop :=
  ∃ value rest, r = some (value, s.length) ∧ value.cells = s ++ 0 :: rest

/-- What `trim` leaves of a string. -/
def trimmed (s : List Byte) : List Byte := ((cString s).dropWhile blank).rdropWhile blank

theorem zero_notMem_cString (s : List Byte) : 0 ∉ cString s := by
  intro h
  have hne := List.mem_takeWhile_imp h
  exact of_decide_eq_true hne rfl

theorem trimmed_sublist (s : List Byte) : (trimmed s).Sublist (cString s) := by
  have hend : trimmed s <+: (cString s).dropWhile blank := List.rdropWhile_prefix _ _
  exact hend.sublist.trans (List.dropWhile_sublist _)

/-- A string that fits is written with its NUL. -/
theorem write_string (value : Block Byte n) {s : List Byte} (h : s.length < n) :
    ∃ value' rest, value.write 0 (s ++ [0]) = some value' ∧ value'.cells = s ++ 0 :: rest := by
  have hfit : 0 + (s ++ [0]).length ≤ n := by simp; omega
  refine ⟨_, value.cells.drop (s ++ [0]).length, Block.write_of_le _ hfit, ?_⟩
  rw [Block.cells_put_zero, List.append_assoc]
  rfl

theorem storeEmpty_stores (hn : 0 < n) : Stores (storeEmpty value) [] := by
  obtain ⟨value', rest, hw, hcells⟩ := write_string value (s := []) hn
  rw [List.nil_append] at hw
  exact ⟨value', rest, by rw [storeEmpty, hw]; rfl, hcells⟩

theorem length_trimmed_le (s : List Byte) : (trimmed s).length ≤ s.length :=
  (trimmed_sublist s).length_le.trans (List.takeWhile_sublist _).length_le

theorem trim_eq {rest : List Byte} (h : value.cells = text ++ 0 :: rest)
    (hlen : text.length < jsonLength) (hn : jsonLength ≤ n) :
    ∃ value' rest', trim jsonLength value = some value' ∧
      value'.cells = trimmed text ++ 0 :: rest' := by
  have hstr : cString value.cells = cString text := by rw [h, cString_append_nul]
  have hstrlen : strlen value.cells = some (cString text).length := by
    rw [strlen, if_pos (by rw [h]; simp), hstr]
  have hbuf : ((cString text).dropWhile blank).length ≤ text.length :=
    ((List.dropWhile_sublist _).trans (List.takeWhile_sublist _)).length_le
  have htrim := length_trimmed_le text
  rw [trim, hstrlen, Option.bind_eq_bind, Option.bind_some, hstr, if_neg (by omega)]
  exact write_string value (s := trimmed text) (by omega)

theorem storeText_stores (hlen : text.length < jsonLength) (hn : jsonLength ≤ n) :
    Stores (storeText jsonLength text value) (trimmed text) := by
  obtain ⟨v₁, rest₁, hw, h₁⟩ := write_string value (hlen.trans_le hn)
  obtain ⟨v₂, rest₂, ht, h₂⟩ := trim_eq h₁ hlen hn
  refine ⟨v₂, rest₂, ?_, h₂⟩
  have hstr : strlen v₂.cells = some (trimmed text).length := by
    rw [h₂]
    exact strlen_append fun hm => zero_notMem_cString text ((trimmed_sublist text).mem hm)
  simp only [storeText, Option.bind_eq_bind]
  rw [← Option.bind_assoc, Block.bind_write value _ _ rfl, hw, Option.bind_some, ht,
    Option.bind_some, hstr]
  rfl

variable {maxKey keyspSize : ℕ} {json key : List Byte}

/-- The function where it does not fail before the search. -/
theorem jsonValue_of_short (value : Block Byte n) (json : List Byte) (hkey : key.length ≤ maxKey) (hfit : maxKey + 4 ≤ keyspSize) (hn : 0 < n) :
    ∃ value' : Block Byte n, jsonValue maxKey keyspSize jsonLength json key value =
      if json.length ≤ (keysp key).length + 5 then storeEmpty value'
      else match index (keysp key) json with
        | some i =>
          let index := i + (keysp key).length
          let s := index + ((json.drop index).takeWhile fun c => ! separator c).length
          if s ≠ json.length ∧ s - index < jsonLength then
            storeText jsonLength ((json.drop index).take (s - index)) value'
          else storeEmpty value'
        | none => storeEmpty value' := by
  obtain ⟨value', rest, hw, -⟩ := write_string value (s := []) hn
  rw [List.nil_append] at hw
  have hlen : (keysp key).length = key.length + 3 := by simp [keysp]
  refine ⟨value', ?_⟩
  rw [jsonValue, if_neg (by omega), if_neg (by omega), hw]
  rfl

/-- Whatever the text and the key are, a string is stored, and nothing outside `jsonLength` bytes
    is written. -/
theorem jsonValue_stores (hfit : maxKey + 4 ≤ keyspSize) (hpos : 0 < jsonLength)
    (value : Block Byte jsonLength) (json key : List Byte) :
    ∃ s, Stores (jsonValue maxKey keyspSize jsonLength json key value) s := by
  by_cases hkey : key.length ≤ maxKey
  · obtain ⟨value', he⟩ := jsonValue_of_short value json hkey hfit hpos
    rw [he]
    split
    · exact ⟨[], storeEmpty_stores hpos⟩
    split
    · dsimp only
      split
      · rename_i hs
        refine ⟨_, storeText_stores ?_ le_rfl⟩
        exact (List.length_take_le _ _).trans_lt hs.2
      · exact ⟨[], storeEmpty_stores hpos⟩
    · exact ⟨[], storeEmpty_stores hpos⟩
  · rw [jsonValue, if_pos (Nat.lt_of_not_le hkey)]
    exact ⟨[], storeEmpty_stores hpos⟩

/-- A key that is not found has the empty string. -/
theorem jsonValue_notFound (hfit : maxKey + 4 ≤ keyspSize) (hn : 0 < n)
    (h : after (keysp key) json = none) :
    Stores (jsonValue maxKey keyspSize jsonLength json key value) [] := by
  by_cases hkey : key.length ≤ maxKey
  · obtain ⟨value', he⟩ := jsonValue_of_short value json hkey hfit hn
    rw [he, index_of_after_none h]
    split
    · exact storeEmpty_stores hn
    · exact storeEmpty_stores hn
  · rw [jsonValue, if_pos (Nat.lt_of_not_le hkey)]
    exact storeEmpty_stores hn

/-- What is found is cut at the first separator, and trimmed. -/
theorem jsonValue_found (hkey : key.length ≤ maxKey) (hfit : maxKey + 4 ≤ keyspSize)
    (hjson : (keysp key).length + 5 < json.length) {sep : Byte} {rest : List Byte}
    (h : after (keysp key) json = some (text ++ sep :: rest)) (hsep : separator sep = true)
    (htext : ∀ c ∈ text, separator c = false) (hlen : text.length < jsonLength)
    (hn : jsonLength ≤ n) :
    Stores (jsonValue maxKey keyspSize jsonLength json key value) (trimmed text) := by
  obtain ⟨i, hi, hdrop⟩ := index_of_after_some h (by simp)
  have hcut : (text ++ sep :: rest).takeWhile (fun c => ! separator c) = text := by
    rw [List.takeWhile_append_of_pos (by simpa using htext), List.takeWhile_cons_of_neg (by simpa),
      List.append_nil]
  have hend := congrArg List.length hdrop
  rw [List.length_drop, List.length_append, List.length_cons] at hend
  obtain ⟨value', he⟩ :=
    jsonValue_of_short value json hkey hfit (Nat.zero_lt_of_lt (hlen.trans_le hn))
  rw [he, if_neg (by omega), hi]
  dsimp only
  rw [hdrop, hcut, if_pos ⟨by omega, by omega⟩, Nat.add_sub_cancel_left, List.take_left]
  exact storeText_stores hlen hn

end

/-! ## The values of a flat object -/

section
variable {s : List Byte}

theorem not_blank {c : Byte} (hs : c ≠ space) (hq : c ≠ quote) : ¬ blank c = true := fun h =>
  (of_decide_eq_true h).elim hs hq

/-- The first character and the last one of a plain text stay. -/
theorem Plain.dropWhile (h : Plain s) (hne : s ≠ []) (l : List Byte) :
    (s ++ l).dropWhile blank = s ++ l := by
  cases s with
  | nil => exact absurd rfl hne
  | cons c s =>
    have hspace : c ≠ space := fun hc => h.head (congrArg some hc)
    rw [List.cons_append,
      List.dropWhile_cons_of_neg (not_blank hspace (h.chars c List.mem_cons_self).1)]

theorem Plain.rdropWhile (h : Plain s) : s.rdropWhile blank = s := by
  refine List.rdropWhile_eq_self_iff.2 fun hne => ?_
  have hspace : s.getLast hne ≠ space := fun hc =>
    h.last (by rw [List.getLast?_eq_getLast_of_ne_nil hne, hc])
  exact not_blank hspace (h.chars _ (List.getLast_mem hne)).1

/-- The trim takes the quotes away, and nothing else. -/
theorem trimmed_value (f : JsonField) : trimmed f.value = f.content := by
  have hz : 0 ∉ f.value := by
    have hz : 0 ∉ f.content := fun hm => (f.plain.chars _ hm).2.2 rfl
    rw [JsonField.value]
    split
    · simpa using hz
    · exact hz
  rw [trimmed, cString_of_notMem hz, JsonField.value]
  by_cases hne : f.content = []
  · rw [hne]
    split <;> rfl
  · split
    · rw [List.dropWhile_cons_of_pos rfl, f.plain.dropWhile hne, List.rdropWhile_concat_pos _ _ _ rfl,
        f.plain.rdropWhile]
    · have hd := f.plain.dropWhile hne []
      rw [List.append_nil] at hd
      rw [hd, f.plain.rdropWhile]

theorem separator_value (f : JsonField) : ∀ c ∈ f.value, separator c = false := by
  have hcontent : ∀ c ∈ f.content, separator c = false := fun c hc => (f.plain.chars c hc).2.1
  rw [JsonField.value]
  split
  · intro c hc
    simp only [List.mem_cons, List.mem_append, List.not_mem_nil, or_false] at hc
    rcases hc with rfl | hc | rfl
    · rfl
    · exact hcontent c hc
    · rfl
  · exact hcontent

theorem after_text (key : List Byte) (json : FlatJson) :
    after (keysp key) json.text = after (keysp key) (fieldsText json.fields) :=
  after_keysp_skip (x := [openBrace]) (by decide) _

end

/-- On a flat object `get` stores the value of a key without its quotes, and the empty string for
    another identifier; whatever the text is, it writes no more than `jsonLength` bytes. -/
structure FindsValues (maxKey jsonLength : ℕ)
    (get : List Byte → List Byte → Block Byte jsonLength → Option (Block Byte jsonLength × ℕ)) :
    Prop where
  value (json : FlatJson) : ∀ f ∈ json.fields, f.key.length ≤ maxKey → f.value.length < jsonLength →
    (keysp f.key).length + 5 < json.text.length → ∀ value, Stores (get json.text f.key value) f.content
  absent (json : FlatJson) (key : List Byte) : Identifier key → key ∉ json.fields.map JsonField.key →
    ∀ value, Stores (get json.text key value) []
  bounded (text key : List Byte) (value : Block Byte jsonLength) : (get text key value).isSome

theorem jsonValue_findsValues {maxKey jsonLength : ℕ} (keyspSize : ℕ) (hfit : maxKey + 4 ≤ keyspSize)
    (hpos : 0 < jsonLength) :
    FindsValues maxKey jsonLength (jsonValue maxKey keyspSize jsonLength) where
  value := by
    intro json f hf hkey hlen hjson value
    obtain ⟨sep, rest, hsep, hafter⟩ := after_fieldsText_some json.distinct hf
    rw [← after_text] at hafter
    rw [← trimmed_value f]
    exact jsonValue_found hkey hfit hjson hafter hsep (separator_value f) hlen le_rfl
  absent := by
    intro json key hk hkey value
    refine jsonValue_notFound hfit hpos ?_
    rw [after_text]
    exact after_fieldsText_none hk hkey
  bounded := by
    intro text key value
    obtain ⟨s, value', rest, he, -⟩ := jsonValue_stores hfit hpos value text key
    rw [he]
    rfl

/-- `getJson` finds every value of a flat object. -/
theorem getJson_findsValues : FindsValues 40 micoJsonLength getJson :=
  jsonValue_findsValues 160 (by decide) (by decide)

/-- `{"id":"7 a","n":12}` -/
def sampleJson : FlatJson where
  fields := [
    { key := [0x69, 0x64], quoted := true, content := [0x37, 0x20, 0x61]
      identifier := ⟨by decide, by decide⟩, plain := ⟨by decide, by decide, by decide⟩ },
    { key := [0x6E], quoted := false, content := [0x31, 0x32]
      identifier := ⟨by decide, by decide⟩, plain := ⟨by decide, by decide, by decide⟩ }]
  distinct := by decide

/-- The value of `n`, which ends at the brace. -/
theorem getJson_sample :
    Stores (getJson sampleJson.text [0x6E] (.fill micoJsonLength 0)) [0x31, 0x32] :=
  getJson_findsValues.value sampleJson (sampleJson.fields.get ⟨1, by decide⟩) (List.get_mem _ _)
    (by decide) (by decide) (by decide) _

/-- So does `iotGetJson`, if the key is not longer than 32. -/
theorem iotGetJson_findsValues : FindsValues 32 iotJsonLength iotGetJson :=
  jsonValue_findsValues 128 (by decide) (by decide)

end MxchipSpp
