/-
  The datagrams the server survives.

  The header field `len` of a message is never compared with the message or
  with the buffers it is copied to.  For each handler there is one lemma that
  says for which lengths it stays within them; put together they say which
  datagrams can be received in a reachable state (`Fits`).
-/
import MxchipSpp.Framing

namespace MxchipSpp

open Memory Endian Stuffing

/-! ## Decoding -/

theorem length_decodeGroup (c₀ c₁ c₂ c₃ : Byte) : (decodeGroup c₀ c₁ c₂ c₃).1.length ≤ 3 := by
  unfold decodeGroup
  dsimp only
  split_ifs <;> simp

/-- The decoder goes on behind a group, or is done with it. -/
theorem iotBase64decodeStr_group {c₀ c₁ c₂ c₃ : Byte} {rest : List Byte} (h : c₀ ≠ 0) :
    iotBase64decodeStr (c₀ :: c₁ :: c₂ :: c₃ :: rest) =
        (iotBase64decodeStr rest).map ((decodeGroup c₀ c₁ c₂ c₃).1 ++ ·) ∨
      iotBase64decodeStr (c₀ :: c₁ :: c₂ :: c₃ :: rest) = some (decodeGroup c₀ c₁ c₂ c₃).1 := by
  rw [iotBase64decodeStr, if_neg h]
  obtain ⟨out, more⟩ := decodeGroup c₀ c₁ c₂ c₃
  cases more with
  | true => exact .inl rfl
  | false => exact .inr rfl

/-- A message is shorter than its characters. -/
theorem length_iotBase64decodeStr (l : List Byte) :
    ∀ {m : List Byte}, iotBase64decodeStr l = some m → m.length ≤ l.length := by
  induction l using iotBase64decodeStr.induct with
  | case1 c₁ c₂ c₃ rest => intro m h; cases h; exact Nat.zero_le _
  | case2 c₀ c₁ c₂ c₃ rest h₀ _ _ ih =>
    intro m h
    have hg := length_decodeGroup c₀ c₁ c₂ c₃
    simp only [List.length_cons]
    rcases iotBase64decodeStr_group h₀ with he | he <;> rw [he] at h
    · obtain ⟨m', hm', rfl⟩ := Option.map_eq_some_iff.1 h
      have := ih hm'
      rw [List.length_append]
      omega
    · cases h
      omega
  | case3 c₀ c₁ c₂ c₃ rest h₀ out more hg hm =>
    intro m h
    have hl := length_decodeGroup c₀ c₁ c₂ c₃
    rw [iotBase64decodeStr, if_neg h₀, hg] at h
    simp only [if_neg hm, Option.some.injEq] at h
    subst h
    rw [hg] at hl
    simp only [List.length_cons] at hl ⊢
    omega
  | case4 tail ht =>
    intro m h
    rw [iotBase64decodeStr.eq_2 _ _ ht, if_pos rfl] at h
    cases h
    exact Nat.zero_le _
  | case5 c₀ tail ht h₀ =>
    intro m h
    rw [iotBase64decodeStr.eq_2 _ _ ht, if_neg h₀] at h
    cases h
  | case6 => intro m h; cases h

theorem length_of_decodeDatagram {datagram msg : List Byte} (h : decodeDatagram datagram = some msg) :
    msg.length ≤ 1023 := by
  obtain ⟨buffer, -, h⟩ := Option.bind_eq_some_iff.1 h
  have := length_iotBase64decodeStr _ h
  simpa using this

/-! ## The message in the decode buffer -/

theorem ofMessage_isSome {msg : List Byte} (h : msg.length ≤ 1024) :
    ∃ b, Buf.ofMessage msg = some b ∧
      b.body.cells = (msg ++ List.replicate (1024 - msg.length) 0).drop 20 := by
  have hl : 0 + msg.length ≤ 1024 := by omega
  refine ⟨_, by rw [Buf.ofMessage, Block.write_of_le _ hl]; rfl, ?_⟩
  change ((Block.fill 1024 (0 : Byte)).put 0 msg hl).cells.drop 20 = _
  rw [Block.cells_put_zero, Block.fill, List.drop_replicate]

/-- Bytes read behind a message are 0. -/
theorem getD_append_replicate (msg : List Byte) (n i : ℕ) :
    (msg ++ List.replicate n 0).getD i 0 = msg.getD i 0 := by
  rw [List.getD_eq_getElem?_getD, List.getD_eq_getElem?_getD, List.getElem?_append]
  split_ifs with h
  · rfl
  · rw [List.getElem?_eq_none (by omega : msg.length ≤ i), List.getElem?_replicate]
    split_ifs <;> rfl

/-- Zeros behind a message are no marks. -/
theorem count_take_append_replicate (xs : List Byte) (n k : ℕ) :
    ((xs ++ List.replicate n 0).take k).count frameHeader = (xs.take k).count frameHeader := by
  have hz : (List.replicate n (0 : Byte)).take (k - xs.length) =
      List.replicate (min (k - xs.length) n) 0 := List.take_replicate
  rw [List.take_append, List.count_append, hz, List.count_replicate]
  rfl

/-! ## Identifiers -/

/-- `strcmp` stops at the end of the second string. -/
theorem strcmpEq_isSome : ∀ {s t : List Byte}, 0 ∈ t → t.length ≤ s.length →
    (strcmpEq s t).isSome
  | _, [], h, _ => absurd h List.not_mem_nil
  | [], _ :: _, _, h => absurd h (by simp)
  | x :: s, y :: t, h, hl => by
    rw [strcmpEq]
    split_ifs with hxy hx
    · rfl
    · rfl
    · refine strcmpEq_isSome ?_ (Nat.le_of_succ_le_succ hl)
      rcases List.mem_cons.1 h with h₀ | h
      · exact absurd ((not_not.1 hxy).trans h₀.symm) hx
      · exact h

variable {P : Platform} {w : World P} {buf : Buf} {addr : SockAddr} {malloc : Bool}

theorem strcmp_deviceid (w : World P) (buf : Buf) :
    ∃ eq, strcmpEq buf.body.cells w.userconfig.deviceid.block.cells = some eq :=
  Option.isSome_iff_exists.1 (strcmpEq_isSome w.userconfig.deviceid.nul (by simp))

/-! ## Commands for the device -/

/-- `tcl_data_push` copies the declared length to `uart_data[5]`. -/
theorem tclDataPush_isSome : (tclDataPush w buf).isSome ↔ buf.head.len.toNat ≤ 59 := by
  constructor
  · intro h
    obtain ⟨w', h⟩ := Option.isSome_iff_exists.1 h
    obtain ⟨src, hsrc, h⟩ := Option.bind_eq_some_iff.1 h
    obtain ⟨uart, hw, -⟩ := Option.bind_eq_some_iff.1 h
    obtain ⟨hl, -⟩ := Block.write_eq_some.1 hw
    rw [Block.length_of_slice hsrc] at hl
    omega
  · intro h
    obtain ⟨src, hsrc⟩ := Option.isSome_iff_exists.1 (Block.slice_isSome.2
      (show 0 + buf.head.len.toNat ≤ 1004 by omega) : (buf.body.slice 0 _).isSome)
    have hl : 5 + src.length ≤ 64 := by rw [Block.length_of_slice hsrc]; omega
    have hu : 4 + u8 (buf.head.len.toNat + 1) ≤ 64 := by
      rw [u8_eq (n := buf.head.len.toNat + 1) (by push_cast; rfl) (by omega)]
      omega
    simp only [tclDataPush, hsrc, Block.write_of_le _ hl, Option.bind_eq_bind, Option.bind_some,
      Block.slice_of_le _ hu]
    rfl

/-- One turn of the loop of `add_f5_55` writes its byte escaped. -/
theorem addByte_escape (temp : Block Byte 128) (j : ℕ) (x : Byte)
    (h : j + (escape frameHeader 0x55 x).length ≤ 128) :
    addByte (temp, j) x =
      some (temp.put j (escape frameHeader 0x55 x) h, j + (escape frameHeader 0x55 x).length) := by
  by_cases hx : x = frameHeader
  · have he : escape frameHeader 0x55 x = [x, 0x55] := if_pos hx
    simp only [he, List.length_cons, List.length_nil] at h ⊢
    have h₁ : j + [x].length ≤ 128 := by simp; omega
    have h₂ : j + 1 + [(0x55 : Byte)].length ≤ 128 := by simp; omega
    simp only [addByte, hx, if_true] at h₁ ⊢
    rw [Block.write_of_le _ h₁, Option.bind_eq_bind, Option.bind_some, Block.write_of_le _ h₂,
      Option.bind_some, Block.put_put _ h₁ h₂ rfl (by simp; omega)]
    rfl
  · have he : escape frameHeader 0x55 x = [x] := if_neg hx
    simp only [he] at h ⊢
    simp only [addByte, if_neg hx]
    rw [Block.write_of_le _ h, Option.bind_eq_bind, Option.bind_some]
    rfl

/-- `add_f5_55`, for data whose escaped form `temp` has room for; `date` may be too short for it. -/
theorem addF555_eq {n : ℕ} (date : Block Byte n) {m : ℕ} {src : List Byte}
    (hsrc : (date.cells.drop 4).take m = src) (hs : 4 + (stuff frameHeader 0x55 src).length ≤ 128)
    (hn : 4 + m ≤ n) :
    addF555 date (m + 4) =
      (date.write 0 (date.cells.take 4 ++ stuff frameHeader 0x55 src)).map
        (·, 4 + (stuff frameHeader 0x55 src).length) := by
  have h₄ : (date.cells.take 4).length = 4 := by rw [List.length_take, date.size]; omega
  have h₀ : 0 + (date.cells.take 4).length ≤ 128 := by omega
  have hout := Block.slice_put_put (.fill 128 (0 : Byte)) h₀ hs h₄.symm
  rw [addF555, Block.slice_of_le _ (by omega : 0 + 4 ≤ n), List.drop_zero]
  simp only [Option.bind_eq_bind, Option.bind_some, Block.write_of_le _ h₀, Nat.add_sub_cancel,
    Block.slice_of_le _ hn, hsrc, foldlM_escape addByte_escape src _ hs, hout]
  cases date.write 0 (date.cells.take 4 ++ stuff frameHeader 0x55 src) <;> rfl

/-- What the encoders write before the check field: a header, the type and the data escaped. -/
def commandBody (type : Byte) (payload : List Byte) : List Byte :=
  [0xF5, 0xF5, 0x00, BitVec.ofNat 8 payload.length + 3] ++
    stuff frameHeader 0x55 (type :: payload)

/-- A command in a buffer, behind 5 bytes for its header and type. -/
theorem addF555_command {n : ℕ} (type : Byte) {date : Block Byte n} {payload : List Byte}
    (hd : date.slice 5 payload.length = some payload) (hl : payload.length ≤ 61) :
    ∃ buf, date.write 0 [0xF5, 0xF5, 0x00, BitVec.ofNat 8 payload.length + 3, type] = some buf ∧
      addF555 buf ((BitVec.ofNat 8 payload.length + 3 : Byte).toNat + 2) =
        (buf.write 0 (commandBody type payload)).map (·, (commandBody type payload).length) := by
  obtain ⟨hn, hrest⟩ := Block.slice_eq_some.1 hd
  have h₅ : 0 + [0xF5, 0xF5, 0x00, BitVec.ofNat 8 payload.length + 3, type].length ≤ n := by
    simp; omega
  have hlen : (BitVec.ofNat 8 payload.length + 3 : Byte).toNat + 2 = payload.length + 1 + 4 := by
    rw [BitVec.toNat_add, BitVec.toNat_ofNat]
    have : (3 : Byte).toNat = 3 := rfl
    omega
  have hcells := Block.cells_put_zero date h₅
  refine ⟨_, Block.write_of_le _ h₅, ?_⟩
  have htake : (date.put 0 _ h₅).cells.take 4 =
      [0xF5, 0xF5, 0x00, BitVec.ofNat 8 payload.length + 3] := by
    rw [hcells]
    rfl
  have hdrop : ((date.put 0 _ h₅).cells.drop 4).take (payload.length + 1) = type :: payload := by
    rw [hcells]
    exact congrArg (type :: ·) hrest
  have hs : (stuff frameHeader 0x55 (type :: payload)).length ≤ 2 * (payload.length + 1) :=
    length_stuff_le _
  rw [hlen, addF555_eq _ hdrop (by omega) (by omega), htake, commandBody, List.length_append]
  rfl

/-- `app_to_device` does not escape the check field. -/
theorem appToDevice_eq {n : ℕ} {type : Byte} {date : Block Byte n} {payload : List Byte}
    (hd : date.slice 5 payload.length = some payload) (hl : payload.length ≤ 61) :
    appToDevice type date (BitVec.ofNat 8 payload.length) =
      if (commandBody type payload).length + 2 ≤ n then
        some (commandBody type payload ++
          [(crcCalculate (commandBody type payload)).extractLsb' 8 8,
            (crcCalculate (commandBody type payload)).extractLsb' 0 8])
      else none := by
  obtain ⟨buf, hw, hadd⟩ := addF555_command type hd hl
  rw [appToDevice, hw, Option.bind_eq_bind, Option.bind_some, hadd]
  generalize commandBody type payload = body
  by_cases h₀ : 0 + body.length ≤ n
  · simp only [Block.write_of_le _ h₀, Option.map_some, Option.bind_some, Option.bind_eq_bind,
      Block.slice_put_zero]
    exact Block.slice_write_two buf _ _ h₀
  · rw [Block.write, dif_neg h₀, if_neg (by omega)]
    rfl

/-- `app_to_device` has 64 bytes for the frame. -/
theorem appToDevice_isSome {type : Byte} (htype : type ≠ frameHeader) {date : Block Byte 64}
    {payload : List Byte} (hd : date.slice 5 payload.length = some payload) :
    (appToDevice type date (BitVec.ofNat 8 payload.length)).isSome ↔
      (stuff frameHeader 0x55 payload).length ≤ 57 := by
  have hn := (Block.slice_eq_some.1 hd).1
  have hl : (commandBody type payload).length = 5 + (stuff frameHeader 0x55 payload).length := by
    rw [commandBody, stuff_cons, escape, if_neg htype]
    simp only [List.length_append, List.length_cons, List.length_nil]
    omega
  rw [appToDevice_eq hd (by omega), hl]
  split_ifs with hfit
  · exact iff_of_true rfl (by omega)
  · exact iff_of_false (by decide) (by omega)

/-- `tcl_alam_stop` copies the declared length, and then more for the marks in it. -/
theorem tclAlamStop_isSome : (tclAlamStop w buf).isSome ↔
    buf.head.len.toNat + (buf.body.cells.take buf.head.len.toNat).count frameHeader ≤ 57 := by
  set len := buf.head.len.toNat with hlen
  have key : ∀ {src : List Byte} {uart : Block Byte 64}, buf.body.slice 0 len = some src →
      (Block.fill 64 (0 : Byte)).write 5 src = some uart → len ≤ 59 ∧
      ((appToDevice frameStopWarn uart (buf.head.len.setWidth 8)).isSome ↔
        len + (buf.body.cells.take len).count frameHeader ≤ 57) := by
    intro src uart hsrc hw
    have hl := Block.length_of_slice hsrc
    obtain ⟨h₅, rfl⟩ := Block.write_eq_some.1 hw
    have h₅₉ : len ≤ 59 := by omega
    rw [Block.slice_of_le _ (by omega : 0 + len ≤ 1004)] at hsrc
    have hslice : ((Block.fill 64 (0 : Byte)).put 5 src h₅).slice 5 src.length = some src :=
      Block.slice_put _ h₅
    have hset : (buf.head.len.setWidth 8 : Byte) = BitVec.ofNat 8 src.length := by
      rw [hl, hlen, BitVec.ofNat_toNat]
    refine ⟨h₅₉, ?_⟩
    rw [hset, appToDevice_isSome (by decide) hslice, length_stuff, hl, ← Option.some.inj hsrc,
      List.drop_zero]
  constructor
  · intro h
    obtain ⟨w', h⟩ := Option.isSome_iff_exists.1 h
    obtain ⟨src, hsrc, h⟩ := Option.bind_eq_some_iff.1 h
    obtain ⟨uart, hw, h⟩ := Option.bind_eq_some_iff.1 h
    obtain ⟨frame, hf, -⟩ := Option.bind_eq_some_iff.1 h
    exact (key hsrc hw).2.1 (Option.isSome_iff_exists.2 ⟨frame, hf⟩)
  · intro h
    obtain ⟨src, hsrc⟩ := Option.isSome_iff_exists.1 (Block.slice_isSome.2
      (show 0 + len ≤ 1004 by omega) : (buf.body.slice 0 len).isSome)
    have hl : 5 + src.length ≤ 64 := by rw [Block.length_of_slice hsrc]; omega
    have hw := Block.write_of_le (Block.fill 64 (0 : Byte)) hl
    obtain ⟨frame, hf⟩ := Option.isSome_iff_exists.1 ((key hsrc hw).2.2 h)
    simp only [tclAlamStop, ← hlen, hsrc, hw, hf, Option.bind_eq_bind, Option.bind_some]
    rfl

/-! ## Update packets -/

theorem otaPayload_isSome {packlen : ℕ} (h : packlen ≤ 1004) :
    (otaPayload buf (packlen - sizeofIotFota)).isSome ↔ 16 ≤ packlen := by
  unfold otaPayload
  have h₁₆ : (sizeofIotFota : ℤ) = 16 := rfl
  split_ifs with hn
  · rw [Block.slice_isSome]
    omega
  · rw [Option.isSome_none]
    exact iff_of_false (by decide) (by omega)

theorem otaAccept_isSome (malloc : Bool) (w : World P) (fota : IotFota) (data : List Byte) :
    (otaAccept malloc w fota data).isSome := by
  obtain ⟨m, -, he⟩ := otaAccept_eq malloc w fota data
  rw [he, Option.isSome_some]

/-- `iotGetOtaData` lets a packet through that is shorter than `IotFota`. -/
theorem tclOtaData_isSome {len : ℕ} (hlen : len ≤ 1024) :
    (tclOtaData malloc w buf len addr).isSome ↔
      (len = sizeofIotHead + buf.head.len.toNat → 0 < buf.head.len.toNat →
        htonl (get32 buf.body.cells 12) = w.ota.upcodenumber → 16 ≤ buf.head.len.toNat) := by
  have h₂₀ : sizeofIotHead = 20 := rfl
  unfold tclOtaData iotGetOtaData
  dsimp only
  split_ifs with hbad
  · refine iff_of_true rfl fun h₁ h₂ => ?_
    omega
  · dsimp only
    split_ifs with hne
    · exact iff_of_true rfl fun _ _ h => absurd h hne
    · have hpay : (otaPayload buf (buf.head.len.toNat - sizeofIotFota)).isSome ↔
          16 ≤ buf.head.len.toNat := otaPayload_isSome (by omega)
      have hdue : htonl (get32 buf.body.cells 12) = w.ota.upcodenumber := not_not.1 hne
      have hcond : (len = sizeofIotHead + buf.head.len.toNat → 0 < buf.head.len.toNat →
          htonl (get32 buf.body.cells 12) = w.ota.upcodenumber → 16 ≤ buf.head.len.toNat) ↔
          16 ≤ buf.head.len.toNat :=
        ⟨fun h => h (by omega) (by omega) hdue, fun h _ _ _ => h⟩
      rw [hcond, ← hpay]
      cases otaPayload buf (buf.head.len.toNat - sizeofIotFota) with
      | none => rfl
      | some data =>
        rw [Option.bind_some]
        exact iff_of_true (otaAccept_isSome _ _ _ _) rfl

/-! ## The switch -/

/-- What keeps `iotSwitch` within its buffers, for a message of `len` bytes whose header it reads. -/
structure SwitchFits (w : World P) (buf : Buf) (len : ℕ) : Prop where
  push : buf.head.cmd = dataData → buf.head.len.toNat ≤ 59
  stop : buf.head.cmd = alamStop →
    buf.head.len.toNat + (buf.body.cells.take buf.head.len.toNat).count frameHeader ≤ 57
  upgrade : buf.head.cmd = manageUpgradeCode → len = sizeofIotHead + buf.head.len.toNat →
    0 < buf.head.len.toNat → htonl (get32 buf.body.cells 12) = w.ota.upcodenumber →
    16 ≤ buf.head.len.toNat

theorem SentOne.status {w w' : World P} {hd : IotHead} {k : ℕ} (h : SentOne w hd k addr w') :
    w'.uartStats.status = w.uartStats.status := by
  obtain ⟨m, -, rfl⟩ := h
  rfl

/-- The branch of `DATA_DATA`; `tcl_data_tpyeid_ack` is not called. -/
theorem dataData_isSome (hs : w.uartStats.status = 0) :
    (tclDataPush w buf >>= fun w => tclModleLinkAck w buf addr >>= fun w =>
      if w.uartStats.flag = true ∧ w.uartStats.status = typeid then tclDataTpyeidAck w
      else some w).isSome ↔ buf.head.len.toNat ≤ 59 := by
  rw [← tclDataPush_isSome (w := w)]
  cases hp : tclDataPush w buf with
  | none => rfl
  | some w₁ =>
    have hs₁ : w₁.uartStats.status = 0 :=
      (sends_tclDataPush (U := True) (Q := fun _ => True) hp).status.trans hs
    obtain ⟨w₂, h₂, hsent⟩ := tclModleLinkAck_spec w₁ buf addr
    have hs₂ : ¬ (w₂.uartStats.flag = true ∧ w₂.uartStats.status = typeid) := by
      rw [hsent.status, hs₁]
      rintro ⟨-, h⟩
      exact absurd h (by decide)
    rw [Option.bind_eq_bind, Option.bind_some, h₂, Option.bind_some, if_neg hs₂]
    exact iff_of_true rfl rfl

/-- The branches of the other commands stay within their buffers. -/
theorem iotSwitch_isSome_of_ne (hu : buf.head.cmd ≠ manageUpgradeCode)
    (hd : buf.head.cmd ≠ dataData) (ha : buf.head.cmd ≠ alamStop) {len : ℕ} :
    (iotSwitch malloc w buf len addr).isSome := by
  have hspec : ∀ {f : Option (World P)} {hd : IotHead} {k : ℕ} {w₁ : World P} {a : SockAddr},
      (∃ w', f = some w' ∧ SentOne w₁ hd k a w') → f.isSome := by
    rintro f hd k w₁ a ⟨w', hf, -⟩
    rw [hf]; rfl
  obtain ⟨eq, heq⟩ := strcmp_deviceid w buf
  unfold iotSwitch
  dsimp only
  rw [if_neg hu, if_neg hd, if_neg ha]
  split_ifs
  · exact hspec (tclManageBroadcastAck_spec w buf addr)
  · exact hspec (tclDiscoveryDeviceAck_spec w buf addr)
  · obtain ⟨r, hr⟩ : ∃ r, tclManageRegistered w buf addr = some r := by
      simp only [tclManageRegistered, heq, Option.bind_eq_bind, Option.bind_some]
      split_ifs <;> exact ⟨_, rfl⟩
    obtain ⟨w₁, ok⟩ := r
    rw [hr, Option.bind_eq_bind, Option.bind_some]
    cases ok with
    | true => exact hspec (tclManageRegisteredAck_spec w₁ buf addr)
    | false => rfl
  · obtain ⟨w₁, h₁, -⟩ := tclModleLinkAck_spec w buf addr
    rw [h₁]; rfl
  · rw [tclManageDelete, heq, Option.bind_eq_bind, Option.bind_some]
    cases eq with
    | true =>
      obtain ⟨w₁, h₁, -⟩ := tclManageDeleteAck_spec w buf addr
      rw [h₁]; rfl
    | false => rfl
  · exact hspec (tclManageReadAck_spec w buf addr)
  · rfl

theorem iotSwitch_isSome (hs : w.uartStats.status = 0) {len : ℕ} (hlen : len ≤ 1023) :
    (iotSwitch malloc w buf len addr).isSome ↔ SwitchFits w buf len := by
  by_cases hu : buf.head.cmd = manageUpgradeCode
  · rw [iotSwitch, if_pos hu, tclOtaData_isSome (hlen.trans (by decide))]
    refine ⟨fun h => ⟨fun h' => ?_, fun h' => ?_, fun _ => h⟩, fun h => h.upgrade hu⟩
    · exact absurd (hu.symm.trans h') (by decide)
    · exact absurd (hu.symm.trans h') (by decide)
  by_cases hd : buf.head.cmd = dataData
  · have hsw : iotSwitch malloc w buf len addr = _ := (if_neg hu).trans (if_pos hd)
    rw [hsw]
    refine (dataData_isSome hs).trans ⟨fun h => ⟨fun _ => h, fun h' => ?_, fun h' => ?_⟩,
      fun h => h.push hd⟩
    · exact absurd (hd.symm.trans h') (by decide)
    · exact absurd h' hu
  by_cases ha : buf.head.cmd = alamStop
  · have hsw : iotSwitch malloc w buf len addr = tclAlamStop w buf := by
      rw [iotSwitch, ha]; rfl
    rw [hsw, tclAlamStop_isSome]
    exact ⟨fun h => ⟨fun h' => absurd h' hd, fun _ => h, fun h' => absurd h' hu⟩,
      fun h => h.stop ha⟩
  exact iff_of_true (iotSwitch_isSome_of_ne hu hd ha)
    ⟨fun h => absurd h hd, fun h => absurd h ha, fun h => absurd h hu⟩

/-! ## Datagrams -/

/-- What keeps the server within its buffers, for a message: there is a whole header, and the
    length it declares fits the frame of the device that is made of it. -/
structure Fits (w : World P) (msg : List Byte) : Prop where
  head : sizeofIotHead ≤ msg.length
  push : command msg = dataData → (lenField msg).toNat ≤ 59
  stop : command msg = alamStop → (lenField msg).toNat +
    ((msg.drop sizeofIotHead).take (lenField msg).toNat).count frameHeader ≤ 57
  upgrade : command msg = manageUpgradeCode →
    msg.length = sizeofIotHead + (lenField msg).toNat → 0 < (lenField msg).toNat →
    htonl (get32 msg 32) = w.ota.upcodenumber → 16 ≤ (lenField msg).toNat

/-- The message is read in the decode buffer as it is. -/
theorem switchFits_iff {msg : List Byte} {b : Buf} (hl : sizeofIotHead ≤ msg.length)
    (hb : Buf.ofMessage msg = some b)
    (hcells : b.body.cells = (msg ++ List.replicate (1024 - msg.length) 0).drop sizeofIotHead) :
    SwitchFits w { b with head := headLogPrintf b.head } msg.length ↔ Fits w msg := by
  have hhead : headLogPrintf b.head = requestHead msg := by rw [head_ofMessage hb]; rfl
  have hcount : ∀ k, (b.body.cells.take k).count frameHeader =
      ((msg.drop sizeofIotHead).take k).count frameHeader := by
    intro k
    rw [hcells, List.drop_append_of_le_length hl, count_take_append_replicate]
  have hnumber : get32 b.body.cells 12 = get32 msg 32 := by
    rw [hcells, get32_drop]
    simp only [get32, getD_append_replicate]
  constructor
  · rintro ⟨h₁, h₂, h₃⟩
    simp only [hhead, cmd_requestHead, len_requestHead, hcount, hnumber] at h₁ h₂ h₃
    exact ⟨hl, h₁, h₂, h₃⟩
  · rintro ⟨-, h₁, h₂, h₃⟩
    constructor <;> simp only [hhead, cmd_requestHead, len_requestHead, hcount, hnumber]
    exacts [h₁, h₂, h₃]

theorem receive_isSome (hs : w.uartStats.status = 0) {msg : List Byte} (hlen : msg.length ≤ 1023) :
    (receive malloc w msg addr).isSome ↔ Fits w msg := by
  obtain ⟨b, hb, hcells⟩ := ofMessage_isSome (show msg.length ≤ 1024 by omega)
  rw [receive, hb, Option.bind_eq_bind, Option.bind_some, iotProcess]
  split_ifs with hl
  · exact iff_of_false (by simp) fun h => absurd h.head (not_le.2 hl)
  · rw [iotSwitch_isSome hs hlen]
    exact switchFits_iff (not_lt.1 hl) hb hcells

theorem udpReceive_isSome (hs : w.uartStats.status = 0) {datagram : List Byte} :
    (udpReceive malloc w datagram addr).isSome ↔
      ((datagram.take 1024).head? = some caret →
        ∃ msg, decodeDatagram (datagram.take 1024) = some msg ∧ Fits w msg) := by
  unfold udpReceive
  split_ifs with hc
  · rw [imp_iff_right hc]
    cases hm : decodeDatagram (datagram.take 1024) with
    | none => simp
    | some msg =>
      rw [Option.bind_eq_bind, Option.bind_some, receive_isSome hs (length_of_decodeDatagram hm)]
      simp only [Option.some.injEq, exists_eq_left']
  · exact iff_of_true rfl fun h => absurd h hc

/-- **The datagrams received safely.**  In every reachable state a datagram is received without an
    access out of bounds exactly when its message fits. -/
theorem udp_isSome_iff {deviceid : DeviceId} {evs : List Event}
    (h : (World.init P deviceid).run evs = some w) (addr : SockAddr) (datagram : List Byte)
    (malloc : Bool) :
    (w.step (.udp addr datagram malloc)).isSome ↔
      ((datagram.take 1024).head? = some caret →
        ∃ msg, decodeDatagram (datagram.take 1024) = some msg ∧ Fits w msg) := by
  set w₁ : World P := { w with cause := .udp addr datagram malloc }
  have hs : w₁.uartStats.status = 0 := (history_run h).status
  have hfits : ∀ {msg : List Byte}, Fits w₁ msg ↔ Fits w msg :=
    ⟨fun h => ⟨h.1, h.2, h.3, h.4⟩, fun h => ⟨h.1, h.2, h.3, h.4⟩⟩
  change (udpReceive malloc w₁ datagram addr).isSome ↔ _
  rw [udpReceive_isSome hs]
  simp only [hfits]

/-- A command of three bytes for the device. -/
def sampleCommand : List Byte :=
  { IotHead.zero with cmd := htons dataData, len := htons 3 }.bytes ++ [0x06, 0x1F, 0x01]

/-- It is passed on to the device, also when the module has answered already. -/
theorem udp_isSome_sampleCommand :
    ∃ w w', (World.init .sample sampleId).run [sampleRequest 0 linkReadInformation] = some w ∧
      w.step (.udp ⟨0xC0A80001, 8671⟩ (base64Frame sampleCommand) true) = some w' ∧
      w'.dev.datadown.command = [0x01, 0x06, 0x1F, 0x01] := by
  have hrun : ((World.init .sample sampleId).run [sampleRequest 0 linkReadInformation]).isSome := by
    decide +kernel
  obtain ⟨w, hw⟩ := Option.isSome_iff_exists.1 hrun
  have hc : command sampleCommand = dataData ∧ (lenField sampleCommand).toNat = 3 := by
    decide +kernel
  have hfits : Fits w sampleCommand := by
    refine ⟨by decide, fun _ => by rw [hc.2]; decide, fun h => ?_, fun h => ?_⟩ <;>
      exact absurd (hc.1.symm.trans h) (by decide)
  have hm : decodeDatagram ((base64Frame sampleCommand).take 1024) = some sampleCommand := by
    decide +kernel
  have hsome := (udp_isSome_iff hw ⟨0xC0A80001, 8671⟩ (base64Frame sampleCommand) true).2 fun _ =>
    ⟨_, hm, hfits⟩
  obtain ⟨w', hw'⟩ := Option.isSome_iff_exists.1 hsome
  have hdown : (((World.init .sample sampleId).run [sampleRequest 0 linkReadInformation]).bind
      fun w => (w.step (.udp ⟨0xC0A80001, 8671⟩ (base64Frame sampleCommand) true)).map
        fun w' => w'.dev.datadown.command) = some [0x01, 0x06, 0x1F, 0x01] := by decide +kernel
  rw [hw, Option.bind_some, hw', Option.map_some, Option.some.injEq] at hdown
  exact ⟨w, w', hw, hw', hdown⟩

/-- The datagram `^AAAA&` is too short for a header, and the next one declares 60 bytes. -/
theorem short_and_long_datagrams_fault :
    ¬ ((World.init .sample sampleId).step
        (.udp ⟨0, 0⟩ [0x5E, 0x41, 0x41, 0x41, 0x41, 0x26] true)).isSome ∧
      ¬ ((World.init .sample sampleId).step
        (.udp ⟨0, 0⟩ (base64Frame { IotHead.zero with cmd := htons dataData, len := htons 60 }.bytes)
          true)).isSome := by
  constructor <;> decide +kernel

end MxchipSpp
