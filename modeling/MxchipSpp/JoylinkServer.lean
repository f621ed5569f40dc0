/-
  Requests from the joylink server (joylink_dev_server.c).

  `joylink_server_recv` looks for the magic number in steps of what a `recv`
  gives, takes the rest of the head with one `recv` and the body with another.
  As long as these give all that they are asked for, the packets of a stream come
  out one by one, whatever words stand between them, each under the key that the
  authentication before it has given (`server_stream_round_trip`).  Whatever they
  give, what is read stays within the buffers, and so does what is decrypted from
  them (`server_request_isSome`).
-/
import MxchipSpp.JoylinkSecurity

namespace MxchipSpp

open Endian Memory

/-- `E_PT_REV_ST_t`, without the last state. -/
inductive RevSt where
  | magic
  | head
  | data

/-- How `joylink_server_recv` ends: it waits for a `recv`, it returns -1, or it returns a packet and
    leaves the results of later calls. -/
inductive Recv (n : ℕ) where
  | waiting
  | closed
  | packet (ret : ℕ) (recBuff : Block Byte n) (rest : List (List Byte))

section
variable {n : ℕ}

/-- The loop of `joylink_server_recv`, over the results of `recv`: the bytes that are there, of which it
    takes as many as are asked for; none are there when the connection is closed or fails. -/
def serverRecvLoop (max : ℕ) :
    List (List Byte) → RevSt → Block Byte 16 → Block Byte n → Option (Recv n)
  | [], _, _, _ => some .waiting
  | a :: as, .magic, head, recBuff => do
    let a := a.take 4
    let head ← head.write 0 a
    if a = [] then some .closed
    else if get32 head.cells 0 = 0x123455CC then serverRecvLoop max as .head head recBuff
    else serverRecvLoop max as .magic head recBuff
  | a :: as, .head, head, recBuff => do
    let a := a.take 12
    let head ← head.write 4 a
    if a = [] then some .closed else serverRecvLoop max as .data head recBuff
  | a :: as, .data, head, recBuff => do
    let pHead := JLPacketHead.ofBytes head.cells
    if pHead.optlen.toNat + pHead.payloadlen.toNat < max - 16 then
      let a := a.take (pHead.optlen.toNat + pHead.payloadlen.toNat)
      let recBuff ← recBuff.write 16 a
      if a = [] then some .closed
      else
        let recBuff ← recBuff.write 0 head.cells
        some (.packet (a.length + 16) recBuff as)
    else some .closed

end

/-- `joylink_server_recv`, with the buffer of `joylink_proc_server`, `JL_MAX_PACKET_LEN * 2` bytes. -/
def joylinkServerRecv (as : List (List Byte)) : Option (Recv 2800) :=
  serverRecvLoop 2800 as .magic (Block.fill 16 0) (Block.fill 2800 0)

/-- What `joylink_proc_server` makes of what it receives: it waits, it closes the connection, or it has
    a request, of no type and no length if it is not decrypted. -/
inductive Inbound where
  | waiting
  | closed
  | request (ret : ℤ) (type : Option Byte) (recPainText : Block Byte (2816))
      (rest : List (List Byte))

/-- The first half of `joylink_proc_server`. -/
def joylinkProcServerRecv (accesskey sessionKey : Block Byte 33) (as : List (List Byte)) :
    Option Inbound := do
  match ← joylinkServerRecv as with
  | .waiting => return .waiting
  | .closed => return .closed
  | .packet _ recBuffer rest =>
    let (ret, param, _, recPainText) ← joylinkDencyptServerReq accesskey sessionKey recBuffer
      (Block.fill (2816) 0) jlMaxPacketLen
    return .request ret (param.map JLPacketParam.type) recPainText rest

/-! ## What is received fits -/

/-- A packet that is received is not longer than the buffer. -/
def Recv.Fits : Recv 2800 → Prop
  | .packet _ recBuff _ => ∃ l, recBuff.slice 0 16 = some l ∧
      16 + ((JLPacketHead.ofBytes l).optlen.toNat + (JLPacketHead.ofBytes l).payloadlen.toNat) < 2800
  | _ => True

/-- The loop ends within its buffers, with a packet that fits, from whatever state. -/
theorem serverRecvLoop_fits (as : List (List Byte)) : ∀ (st : RevSt) (head : Block Byte 16)
    (recBuff : Block Byte 2800),
    ∃ r, serverRecvLoop 2800 as st head recBuff = some r ∧ r.Fits := by
  induction as with
  | nil => exact fun st head recBuff => ⟨.waiting, rfl, trivial⟩
  | cons a as ih =>
    intro st head recBuff
    have hclosed : ∃ r, some (Recv.closed (n := jlMaxPacketLen * 2)) = some r ∧ r.Fits :=
      ⟨_, rfl, trivial⟩
    cases st with
    | magic =>
      have hfit : 0 + (a.take 4).length ≤ 16 := by simp
      rw [serverRecvLoop, Block.write_of_le _ hfit]
      simp only [Option.bind_eq_bind, Option.bind_some]
      split_ifs
      · exact hclosed
      · exact ih _ _ _
      · exact ih _ _ _
    | head =>
      have hfit : 4 + (a.take 12).length ≤ 16 := by
        rw [List.length_take]
        omega
      rw [serverRecvLoop, Block.write_of_le _ hfit]
      simp only [Option.bind_eq_bind, Option.bind_some]
      split_ifs
      · exact hclosed
      · exact ih _ _ _
    | data =>
      rw [serverRecvLoop]
      dsimp only
      by_cases hlen : (JLPacketHead.ofBytes head.cells).optlen.toNat +
          (JLPacketHead.ofBytes head.cells).payloadlen.toNat < 2800 - 16
      · rw [if_pos hlen]
        generalize hbody : a.take ((JLPacketHead.ofBytes head.cells).optlen.toNat +
          (JLPacketHead.ofBytes head.cells).payloadlen.toNat) = body
        have hfit : 16 + body.length ≤ 2800 := by
          rw [← hbody, List.length_take]
          omega
        have hhead : 0 + head.cells.length ≤ 2800 := by simp
        rw [Block.write_of_le _ hfit]
        simp only [Option.bind_eq_bind, Option.bind_some]
        rw [Block.write_of_le _ hhead]
        split_ifs
        · exact hclosed
        · refine ⟨_, rfl, head.cells, ?_, by omega⟩
          have hslice := Block.slice_put_zero (recBuff.put 16 body hfit) hhead
          rwa [Block.length_cells] at hslice
      · rw [if_neg hlen]
        exact hclosed

/-- **Nothing that the server sends leaves the buffers.**  Whatever `recv` gives, however little of a
    packet, whatever its head says, and whatever the keys are, a request is received and decrypted
    within the buffers of `joylink_proc_server`. -/
theorem server_request_isSome (accesskey sessionKey : Block Byte 33) (as : List (List Byte)) :
    (joylinkProcServerRecv accesskey sessionKey as).isSome := by
  obtain ⟨r, hr, hfits⟩ := serverRecvLoop_fits as .magic (Block.fill 16 0)
    (Block.fill 2800 0)
  rw [joylinkProcServerRecv, joylinkServerRecv, hr]
  cases r with
  | waiting => rfl
  | closed => rfl
  | packet ret recBuffer rest =>
    obtain ⟨l, hl, hlen⟩ := hfits
    obtain ⟨r, hr⟩ := Option.isSome_iff_exists.1 (dencyptServerReq_isSome accesskey sessionKey hl
      hlen.le (Block.fill 2816 0))
    simp only [Option.bind_eq_bind, Option.bind_some]
    rw [hr]
    rfl

/-! ## A stream of packets -/

/-- What `recv` gives of a packet, when it gives what it is asked for. -/
def reads (pkt : List Byte) : List (List Byte) :=
  [pkt.take 4, (pkt.drop 4).take 12, pkt.drop 16]

/-- Words in front of a packet. -/
def Noise (ws : List (List Byte)) : Prop := ∀ w ∈ ws, w.length = 4 ∧ get32 w 0 ≠ 0x123455CC

section
variable {n : ℕ} {head : JLPacketHead} {body : List Byte}

theorem get32_put_zero {b : Block Byte 16} {w : List Byte} (hw : w.length = 4)
    (h : 0 + w.length ≤ 16) : get32 (b.put 0 w h).cells 0 = get32 w 0 := by
  have hget : ∀ i < 4, (w ++ b.cells.drop w.length).getD i 0 = w.getD i 0 := fun i hi =>
    List.getD_append _ _ _ _ (by omega)
  rw [Block.cells_put_zero]
  simp only [get32, hget 3 (by decide), hget 2 (by decide), hget 1 (by decide),
    hget 0 (by decide), Nat.zero_add]

/-- The words in front of a packet are passed over. -/
theorem serverRecvLoop_noise {ws : List (List Byte)} (hws : Noise ws) (as : List (List Byte))
    (recBuff : Block Byte n) (max : ℕ) : ∀ b : Block Byte 16, ∃ b' : Block Byte 16,
      serverRecvLoop max (ws ++ as) .magic b recBuff = serverRecvLoop max as .magic b' recBuff := by
  induction ws with
  | nil => exact fun b => ⟨b, rfl⟩
  | cons w ws ih =>
    intro b
    obtain ⟨hlen, hmagic⟩ := hws w List.mem_cons_self
    have hfit : 0 + w.length ≤ 16 := by omega
    obtain ⟨b', hb'⟩ := ih (fun x hx => hws x (List.mem_cons_of_mem _ hx)) (b.put 0 w hfit)
    refine ⟨b', ?_⟩
    rw [List.cons_append, serverRecvLoop, List.take_of_length_le hlen.le, Block.write_of_le _ hfit]
    simp only [Option.bind_eq_bind, Option.bind_some]
    rw [if_neg (List.ne_nil_of_length_pos (by omega)), get32_put_zero hlen, if_neg hmagic, hb']

/-- **A packet is received**, behind whatever words. -/
theorem joylinkServerRecv_packet {ws : List (List Byte)} (hws : Noise ws)
    (hmagic : head.magic = 0x123455CC) (hbody : body ≠ [])
    (hlen : head.optlen.toNat + head.payloadlen.toNat = body.length)
    (hfit : 16 + body.length < 2800) (rest : List (List Byte)) :
    ∃ recBuff, joylinkServerRecv (ws ++ reads (head.toBytes ++ body) ++ rest) =
        some (.packet (body.length + 16) recBuff rest) ∧
      recBuff.slice 0 (16 + body.length) = some (head.toBytes ++ body) := by
  obtain ⟨b, hb⟩ := serverRecvLoop_noise hws (reads (head.toBytes ++ body) ++ rest)
    (Block.fill 2800 0) 2800 (Block.fill 16 0)
  have hreads : reads (head.toBytes ++ body) = [le32 head.magic, head.toBytes.drop 4, body] := rfl
  have hdrop : (head.toBytes.drop 4).length = 12 := rfl
  have h₁ : 0 + (le32 head.magic).length ≤ 16 := by simp
  have h₂ : 4 + (head.toBytes.drop 4).length ≤ 16 := by omega
  have hbuf : 16 + body.length ≤ 2800 := by omega
  have hhead : 0 + head.toBytes.length ≤ 2800 := by simp
  have hword : get32 (le32 head.magic) 0 = 0x123455CC := by
    rw [← List.append_nil (le32 _), get32_le32, hmagic]
  have hcells : ((b.put 0 (le32 head.magic) h₁).put 4 (head.toBytes.drop 4) h₂).cells =
      head.toBytes := by
    have hslice := Block.slice_put_put b h₁ h₂ rfl
    rw [hdrop] at hslice
    obtain ⟨-, h⟩ := Block.slice_eq_some.1 hslice
    rwa [List.drop_zero, List.take_of_length_le (by simp)] at h
  refine ⟨((Block.fill 2800 0).put 16 body hbuf).put 0 head.toBytes hhead, ?_, ?_⟩
  · rw [joylinkServerRecv, List.append_assoc, hb, hreads]
    simp only [List.cons_append, List.nil_append]
    rw [serverRecvLoop, List.take_of_length_le (by simp), Block.write_of_le _ h₁]
    simp only [Option.bind_eq_bind, Option.bind_some]
    rw [if_neg (by simp [le32]), get32_put_zero (by simp), hword, if_pos rfl, serverRecvLoop,
      List.take_of_length_le hdrop.le, Block.write_of_le _ h₂]
    simp only [Option.bind_eq_bind, Option.bind_some]
    rw [if_neg (List.ne_nil_of_length_pos (by omega)), serverRecvLoop, hcells,
      JLPacketHead.ofBytes_self]
    dsimp only
    rw [if_pos (by omega), hlen, List.take_length, Block.write_of_le _ hbuf]
    simp only [Option.bind_eq_bind, Option.bind_some]
    rw [if_neg hbody, Block.write_of_le _ hhead]
    rfl
  · refine Block.slice_of_append (Block.slice_put_zero _ hhead) ?_
    rw [Block.slice_put_of_le _ _ (by simp)]
    exact Block.slice_put _ hbuf

end

/-! ## The key of the session -/

/-- `session_key` of a `JLAuthRsp_t`, as `joylink_proc_server_auth` takes it. -/
def authSessionKey {n : ℕ} (recPainText : Block Byte n) : Option (Block Byte 33) := do
  (Block.fill 33 0).write 0 (← recPainText.slice 8 32)

/-- The key after a request: `joylink_proc_server` handles the ones of at least one byte, and
    `joylink_proc_server_auth` sets the key. -/
def keyAfter {n : ℕ} (sessionKey : Block Byte 33) (ret : ℤ) (type : Option Byte)
    (recPainText : Block Byte n) : Option (Block Byte 33) :=
  if type = some PacketType.auth.toByte ∧ 1 ≤ ret then authSessionKey recPainText
  else some sessionKey

/-- The key in the answer `l`: its bytes from the ninth on, with zeros behind its end. -/
def authKey (l : List Byte) : Block Byte 33 :=
  (Block.fill 33 0).put 0 ((List.range 32).map fun i => l.getD (8 + i) 0) (by simp)

theorem authSessionKey_write {l : List Byte} {recPainText : Block Byte 2816}
    (h : (Block.fill 2816 0).write 0 l = some recPainText) :
    authSessionKey recPainText = some (authKey l) := by
  obtain ⟨hfit, rfl⟩ := Block.write_eq_some.1 h
  have hbytes : (((Block.fill 2816 (0 : Byte)).put 0 l hfit).cells.drop 8).take 32 =
      (List.range 32).map fun i => l.getD (8 + i) 0 := by
    refine List.ext_getElem? fun i => ?_
    rw [List.getElem?_take, List.getElem?_drop, List.getElem?_map]
    split_ifs with hi
    · rw [List.getElem?_range hi, Option.map_some, Block.put_getElem?, if_neg (Nat.not_lt_zero _),
        List.getD_eq_getElem?_getD]
      have hz : (Block.fill 2816 (0 : Byte)).cells[8 + i]? = some 0 := by
        rw [Block.fill, List.getElem?_replicate, if_pos (by omega)]
      split_ifs with hl
      · rw [Nat.sub_zero, List.getElem?_eq_getElem (by omega), Option.getD_some]
      · rw [hz, List.getElem?_eq_none (show l.length ≤ 8 + i by omega), Option.getD_none]
    · rw [List.getElem?_eq_none (by simpa using hi), Option.map_none]
  rw [authSessionKey, Block.slice_of_le _ (by omega), hbytes, Option.bind_eq_bind, Option.bind_some]
  exact Block.write_of_le _ _

/-! ## Message by message -/

/-- The messages of the first packets, as `joylink_proc_server` has them, call by call. -/
def serverRequests (accesskey : Block Byte 33) :
    ℕ → Block Byte 33 → List (List Byte) → Option (List (Option Byte × List Byte))
  | 0, _, _ => some []
  | k + 1, sessionKey, as => do
    match ← joylinkProcServerRecv accesskey sessionKey as with
    | .request ret type recPainText rest =>
      let key ← keyAfter sessionKey ret type recPainText
      return (type, ← recPainText.slice 0 ret.toNat) :: (← serverRequests accesskey k key rest)
    | _ => return []

section
variable {accesskey sessionKey : Block Byte 33}

/-- What `recv` gives of the packets of these messages, with words in front of each packet, when it
    gives all that it is asked for.  An authentication is built with the access key and anything else
    with the key of the session, which each authentication sets. -/
inductive Stream (accesskey : Block Byte 33) :
    Block Byte 33 → List (PacketType × List Byte) → List (List Byte) → Prop
  | nil {key : Block Byte 33} : Stream accesskey key [] []
  | packet {key : Block Byte 33} {ms as ws cmd l feedid len pkt} {mem mem' : Block Byte 1400} : Noise ws →
      l ≠ [] → (cmd = .auth → l.length ≤ 1392) →
      joylinkEncyptServerRsp feedid mem cmd (if cmd = .auth then accesskey else key) l =
        some (len, mem') →
      mem'.slice 0 len.toNat = some pkt →
      Stream accesskey (if cmd = .auth then authKey l else key) ms as →
      Stream accesskey key ((cmd, l) :: ms) (ws ++ reads pkt ++ as)

/-- **A packet of a stream is read back**, and the key it leaves is the one the next is built with. -/
theorem joylinkProcServerRecv_packet {ws as : List (List Byte)} {cmd : PacketType}
    {feedid l pkt : List Byte} {len : ℤ} {mem mem' : Block Byte 1400} (hws : Noise ws) (hne : l ≠ [])
    (hauth : cmd = .auth → l.length ≤ 1392)
    (henc : joylinkEncyptServerRsp feedid mem cmd (if cmd = .auth then accesskey else sessionKey) l =
      some (len, mem')) (hpkt : mem'.slice 0 len.toNat = some pkt) :
    ∃ recPainText, joylinkProcServerRecv accesskey sessionKey (ws ++ reads pkt ++ as) =
        some (.request l.length (some cmd.toByte) recPainText as) ∧
      recPainText.slice 0 l.length = some l ∧
      keyAfter sessionKey l.length (some cmd.toByte) recPainText =
        some (if cmd = .auth then authKey l else sessionKey) := by
  obtain ⟨head, opt, k, iv, enc, hmagic, -, -, hopt, hpay, -, -, -, rfl, hslice⟩ :=
    server_packet hauth henc
  have hlen := hslice
  rw [Int.toNat_natCast] at hpkt
  rw [hpkt, Option.some.injEq] at hslice
  subst hslice
  have hbody : opt ++ cipherText enc l ≠ [] := by
    refine List.ne_nil_of_length_pos ?_
    rw [List.length_append, length_cipherText]
    omega
  obtain ⟨hfit, -⟩ := Block.slice_eq_some.1 hlen
  obtain ⟨recBuff, hrecv, hrec⟩ := joylinkServerRecv_packet hws hmagic hbody
    (by rw [hopt, hpay, List.length_append]) (by omega) as
  obtain ⟨recv', pOut, hdec, hout⟩ := server_round_trip hne hauth rfl henc
    (hrec.trans hpkt.symm) (Block.fill 2816 0)
  refine ⟨pOut, ?_, ?_, ?_⟩
  · rw [joylinkProcServerRecv, hrecv]
    simp only [Option.bind_eq_bind, Option.bind_some, hdec]
    rfl
  · obtain ⟨hl, rfl⟩ := Block.write_eq_some.1 hout
    exact Block.slice_put_zero _ hl
  · have hone : (1 : ℤ) ≤ l.length := by
      have := List.length_pos_iff.2 hne
      omega
    by_cases hcmd : cmd = .auth
    · rw [keyAfter, if_pos ⟨congrArg (some ·.toByte) hcmd, hone⟩, if_pos hcmd,
        authSessionKey_write hout]
    · rw [keyAfter, if_neg fun h => hcmd (PacketType.toByte_injective (Option.some.inj h.1)),
        if_neg hcmd]

/-- **A stream of packets is read back**: what the end with the same keys has built arrives as it was
    sent, message by message. -/
theorem server_stream_round_trip {ms : List (PacketType × List Byte)} {as : List (List Byte)}
    (h : Stream accesskey sessionKey ms as) :
    serverRequests accesskey ms.length sessionKey as =
      some (ms.map fun m => (some m.1.toByte, m.2)) := by
  induction h with
  | nil => rfl
  | packet hws hne hauth henc hpkt _ ih =>
    obtain ⟨recPainText, hrecv, hslice, hkey⟩ := joylinkProcServerRecv_packet hws hne hauth henc hpkt
    rw [List.length_cons, serverRequests, hrecv]
    simp only [Option.bind_eq_bind, Option.bind_some, hkey]
    rw [Int.toNat_natCast, hslice, Option.bind_some, ih]
    rfl

/-- An authentication that gives a new key, a heartbeat under it, and a word in front of each that is not
    the magic number. -/
theorem server_stream_round_trip_auth : ∃ auth beat,
    serverRequests (Block.fill 33 0) 2 (Block.fill 33 7)
        ([1, 2, 3, 4] :: reads auth ++ [5, 6, 7, 8] :: reads beat) =
      some [(some 9, List.replicate 40 3), (some 10, [1, 2, 3])] := by
  have hauth : (joylinkEncyptServerRsp [] (Block.fill 1400 0 : Block Byte 1400) .auth
      (Block.fill 33 0 : Block Byte 33) (List.replicate 40 3)).map Prod.fst = some 68 := by
    decide +kernel
  have hbeat : (joylinkEncyptServerRsp [] (Block.fill 1400 0 : Block Byte 1400) .beat
      (authKey (List.replicate 40 3)) [1, 2, 3]).map Prod.fst = some 32 := by decide +kernel
  obtain ⟨⟨len, mem⟩, hauth, rfl⟩ := Option.map_eq_some_iff.1 hauth
  obtain ⟨⟨len', mem'⟩, hbeat, rfl⟩ := Option.map_eq_some_iff.1 hbeat
  obtain ⟨auth, hauth'⟩ := Option.isSome_iff_exists.1 (Block.slice_isSome.2 (by decide) :
    (mem.slice 0 (68 : ℤ).toNat).isSome)
  obtain ⟨beat, hbeat'⟩ := Option.isSome_iff_exists.1 (Block.slice_isSome.2 (by decide) :
    (mem'.slice 0 (32 : ℤ).toNat).isSome)
  have hnoise : ∀ w, w.length = 4 → get32 w 0 ≠ 0x123455CC → Noise [w] := by
    intro w hlen hmagic x hx
    rw [List.mem_singleton.1 hx]
    exact ⟨hlen, hmagic⟩
  have hstream : Stream (Block.fill 33 0) (Block.fill 33 7)
      [(.auth, List.replicate 40 3), (.beat, [1, 2, 3])]
      ([[1, 2, 3, 4]] ++ reads auth ++ ([[5, 6, 7, 8]] ++ reads beat ++ [])) :=
    .packet (hnoise _ rfl (by decide)) (by decide) (by decide) hauth hauth'
      (.packet (hnoise _ rfl (by decide)) (by decide) (by decide) hbeat hbeat' .nil)
  exact ⟨auth, beat, server_stream_round_trip hstream⟩

end

end MxchipSpp
