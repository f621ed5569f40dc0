/-
  The session with the joylink server (joylink_dev_server.c, joylink_dev_sdk.c,
  joylink_extern.c).

  `joylink_main_loop` calls `joylink_proc_server_st` when its timer is out and
  `joylink_proc_server` when the server's socket has something to read; a control
  from the network makes `joylink_server_upload_req` send from outside of both.
  The calls on sockets keep the order that a socket asks for, except that the
  last one does not ask whether there is a session
  (`session_sockets`).  A session is closed when twelve timers pass without a
  heartbeat of the server, whatever else it sends (`silent_server_closed`); a
  session that works is closed, not authenticated again, when it is lost
  (`work_until_closed`).
-/
import MxchipSpp.Joylink
import MxchipSpp.JoylinkServer

namespace MxchipSpp

open Endian Memory

/-! ## The state -/

/-- `JL_SERVER_ST_INIT`, `JL_SERVER_ST_AUTH`, `JL_SERVER_ST_WORK` -/
inductive ServerSt where
  | init
  | auth
  | work
  deriving DecidableEq

/-- What the session keeps in `_g_pdev`. -/
structure JLDevice where
  serverSocket : ℤ
  serverSt : ServerSt
  hbLostCount : ℕ
  sessionKey : Block Byte 33
  sendBuff : Block Byte 1400

/-- What the session reads in `_g_pdev->jlp`. -/
structure JLPInfo where
  feedid : List Byte
  accesskey : Block Byte 33

/-- What is asked of the network and of the UART. -/
inductive SockCall where
  | socket (fd : ℤ)
  | connect (fd : ℤ) (ok : Bool)
  | send (fd : ℤ) (data : List Byte)
  | close (fd : ℤ)
  | uart (data : List Byte)
  deriving DecidableEq

/-- `JL_MAX_SERVER_HB_LOST` -/
def jlMaxServerHbLost : ℕ := 10

/-! ## What is sent -/

/-- `g_user_uart_stats.rece_flag` and `g_mySendBuf_last`. -/
structure Snapshot where
  receFlag : Bool
  last : Block Byte 72

/-- `joylink_dev_get_snap_shot` -/
def joylinkDevGetSnapShot (s : Snapshot) : Option (List Byte) := do
  if s.receFlag then s.last.slice 0 ((← s.last.read 3).toNat + 4) else return []

section
variable (jlp : JLPInfo)

/-- A packet is built in `send_buff`, and sent if its length is one. -/
def sendServerRsp (p : JLDevice) (cmd : PacketType) (payload : List Byte) :
    Option (JLDevice × List SockCall) := do
  let (len, sendBuff) ← joylinkEncyptServerRsp jlp.feedid p.sendBuff cmd p.sessionKey payload
  let p := { p with sendBuff := sendBuff }
  if 0 < len ∧ len < jlMaxPacketLen then
    return (p, [.send p.serverSocket (← sendBuff.slice 0 len.toNat)])
  else
    return (p, [])

/-- `joylink_server_upload_req` -/
def joylinkServerUploadReq (snap : Snapshot) (time_v : BitVec 32) (p : JLDevice) :
    Option (JLDevice × List SockCall) := do
  let data ← joylinkDevGetSnapShot snap
  if data.length > 0 then sendServerRsp jlp p .upload (le32 time_v ++ data) else return (p, [])

/-- `joylink_packet_lan_script_ctrl_rsp`: the bytes of `data` that count. -/
def joylinkPacketLanScriptCtrlRsp (snap : Snapshot) (time_v : BitVec 32) (ctrl : JLContrl) :
    Option (List Byte) := do
  let biz_code : BitVec 32 := if ctrl.biz_code = jlBzcodeGetSnapshot then 104
    else if ctrl.biz_code = jlBzcodeCtrl then 102 else ctrl.biz_code
  let data ← joylinkDevGetSnapShot snap
  return if data.length > 0 then le32 time_v ++ le32 biz_code ++ le32 ctrl.serial ++ data else []

/-! ## `joylink_proc_server_st` -/

/-- `joylink_server_st_time_out_check` -/
def joylinkServerStTimeOutCheck (p : JLDevice) : JLDevice × List SockCall :=
  if p.hbLostCount > jlMaxServerHbLost then
    let p := if p.serverSt = .work then { p with hbLostCount := 0, serverSt := .auth } else p
    if p.serverSt = .auth then
      ({ p with hbLostCount := 0, serverSt := .init, serverSocket := -1 }, [.close p.serverSocket])
    else (p, [])
  else (p, [])

/-- `joylink_server_st_init`, where `socket` gives `fd` and `connect` succeeds or not. -/
def joylinkServerStInit (fd : ℤ) (ok : Bool) (p : JLDevice) : JLDevice × List SockCall :=
  let p := { p with serverSocket := fd }
  if fd < 0 then (p, [.socket fd])
  else if ok then
    ({ p with serverSt := .auth, hbLostCount := 0 }, [.socket fd, .connect fd true])
  else
    ({ p with serverSt := .init, hbLostCount := 0 }, [.socket fd, .connect fd false, .close fd])

/-- `joylink_server_st_auth` -/
def joylinkServerStAuth (time_v : BitVec 32) (p : JLDevice) :
    Option (JLDevice × List SockCall) := do
  let (len, sendBuff) ← joylinkEncyptServerRsp jlp.feedid p.sendBuff .auth jlp.accesskey
    (le32 time_v ++ le32 1)
  return ({ p with sendBuff := sendBuff }, [.send p.serverSocket (← sendBuff.slice 0 len.toNat)])

/-- `joylink_server_st_work`, for a device that is no gateway. -/
def joylinkServerStWork (p : JLDevice) : Option (JLDevice × List SockCall) := do
  let (len, sendBuff) ← joylinkEncyptServerRsp jlp.feedid p.sendBuff .beat p.sessionKey
    (le32 10 ++ le16 1 ++ le16 1)
  return ({ p with sendBuff := sendBuff, hbLostCount := p.hbLostCount + 1 },
    [.send p.serverSocket (← sendBuff.slice 0 len.toNat)])

/-- `joylink_proc_server_st`; its result is the time to the next call. -/
def joylinkProcServerSt (fd : ℤ) (ok : Bool) (time_v : BitVec 32) (p : JLDevice) :
    Option (ℕ × JLDevice × List SockCall) := do
  let (p, calls) := joylinkServerStTimeOutCheck p
  match p.serverSt with
  | .init =>
    let (p, calls') := joylinkServerStInit fd ok p
    return (2000, p, calls ++ calls')
  | .auth =>
    let (p, calls') ← joylinkServerStAuth jlp time_v p
    return (5000, { p with hbLostCount := p.hbLostCount + 1 }, calls ++ calls')
  | .work =>
    let (p, calls') ← joylinkServerStWork jlp p
    return (15000, p, calls ++ calls')

/-! ## `joylink_proc_server` -/

/-- `joylink_proc_server_auth` -/
def joylinkProcServerAuth {n : ℕ} (snap : Snapshot) (time_v : BitVec 32) (recPainText : Block Byte n)
    (p : JLDevice) : Option (JLDevice × List SockCall) := do
  let sessionKey ← authSessionKey recPainText
  let (p, calls) ← joylinkServerUploadReq jlp snap time_v { p with sessionKey := sessionKey }
  return ({ p with serverSt := .work }, calls)

/-- `joylink_proc_server_hb`, `joylink_proc_server_sub_hb` -/
def joylinkProcServerHb (snap : Snapshot) (time_v : BitVec 32) (p : JLDevice) :
    Option (JLDevice × List SockCall) :=
  joylinkServerUploadReq jlp snap time_v { p with serverSt := .work, hbLostCount := 0 }

/-- `joylink_proc_server_ctrl`; `cmd` is what stands in the buffer of `joylink_date_to_uart`. -/
def joylinkProcServerCtrl {n : ℕ} (snap : Snapshot) (time_v : BitVec 32) (cmd : Block Byte 64)
    (recPainText : Block Byte n) (p : JLDevice) : Option (JLDevice × List SockCall) := do
  let (ret, ctr, uart) ← joylinkDevLanScriptCtrl cmd recPainText
  if ret = -1 then return (p, [])
  else
    let data ← joylinkPacketLanScriptCtrlRsp snap time_v ctr
    let (p, calls) ← sendServerRsp jlp p .serverControl data
    return (p, uart.toList.map .uart ++ calls)

/-- The handlers of the other types, which have their answers, if any, sent by `send`. -/
abbrev OtherHandlers := Byte → ℤ → Block Byte 2816 → Option (List (List Byte))

/-- The second half of `joylink_proc_server`. -/
def joylinkProcServerDispatch (other : OtherHandlers) (snap : Snapshot) (time_v : BitVec 32)
    (cmd : Block Byte 64) (ret : ℤ) (type : Byte) (recPainText : Block Byte 2816) (p : JLDevice) :
    Option (JLDevice × List SockCall) := do
  if type = PacketType.auth.toByte then joylinkProcServerAuth jlp snap time_v recPainText p
  else if type = PacketType.beat.toByte ∨ type = PacketType.subHb.toByte then
    joylinkProcServerHb jlp snap time_v p
  else if type = PacketType.serverControl.toByte then
    joylinkProcServerCtrl jlp snap time_v cmd recPainText p
  else
    let datas ← other type ret recPainText
    return (p, datas.map fun data => .send p.serverSocket data)

/-- `joylink_proc_server`, for what `recv` gives. -/
def joylinkProcServer (other : OtherHandlers) (snap : Snapshot) (time_v : BitVec 32)
    (cmd : Block Byte 64) (as : List (List Byte)) (p : JLDevice) :
    Option (JLDevice × List SockCall) := do
  match ← joylinkProcServerRecv jlp.accesskey p.sessionKey as with
  | .waiting => return (p, [])
  | .closed => return ({ p with serverSocket := -1, serverSt := .init }, [.close p.serverSocket])
  | .request ret type recPainText _ =>
    match type with
    | none => return (p, [])
    | some type =>
      if ret < 1 then return (p, [])
      else joylinkProcServerDispatch jlp other snap time_v cmd ret type recPainText p

end

/-! ## The main loop -/

/-- What `joylink_main_loop` does. -/
inductive SessionEvent where
  /-- The timer is out. -/
  | timer (fd : ℤ) (ok : Bool) (time_v : BitVec 32)
  /-- The server's socket has something to read. -/
  | server (other : OtherHandlers) (snap : Snapshot) (time_v : BitVec 32) (cmd : Block Byte 64)
      (as : List (List Byte))
  /-- A control from the network has been done. -/
  | upload (snap : Snapshot) (time_v : BitVec 32)

section
variable (jlp : JLPInfo)

/-- An event; the server's socket is only looked at if there is one and the state is not the first. -/
def sessionStep : SessionEvent → JLDevice → Option (JLDevice × List SockCall)
  | .timer fd ok time_v, p => (joylinkProcServerSt jlp fd ok time_v p).map Prod.snd
  | .server other snap time_v cmd as, p =>
    if p.serverSocket ≠ -1 ∧ p.serverSt ≠ .init then
      joylinkProcServer jlp other snap time_v cmd as p
    else some (p, [])
  | .upload snap time_v, p => joylinkServerUploadReq jlp snap time_v p

/-- Events in turn, and the calls they make. -/
def sessionRun : List SessionEvent → JLDevice → Option (JLDevice × List SockCall)
  | [], p => some (p, [])
  | e :: es, p => do
    let (p, calls) ← sessionStep jlp e p
    let (p, calls') ← sessionRun es p
    return (p, calls ++ calls')

end

/-! ## What an event can do -/

/-- Calls that only send on a socket, or write to the UART. -/
def OnlySends (fd : ℤ) (calls : List SockCall) : Prop :=
  ∀ c ∈ calls, (∃ data, c = .send fd data) ∨ ∃ data, c = .uart data

section
variable {jlp : JLPInfo} {p p' : JLDevice} {calls : List SockCall} {snap : Snapshot}
  {time_v : BitVec 32}

theorem onlySends_nil (fd : ℤ) : OnlySends fd [] := by simp [OnlySends]

theorem onlySends_send (fd : ℤ) (data : List Byte) : OnlySends fd [.send fd data] := by
  simp [OnlySends]

theorem sendServerRsp_cases {cmd : PacketType} {l : List Byte}
    (h : sendServerRsp jlp p cmd l = some (p', calls)) :
    (∃ buf, p' = { p with sendBuff := buf }) ∧ OnlySends p.serverSocket calls := by
  obtain ⟨⟨len, buf⟩, -, h⟩ := Option.bind_eq_some_iff.1 h
  dsimp only at h
  split_ifs at h
  · obtain ⟨data, -, h⟩ := Option.bind_eq_some_iff.1 h
    cases h
    exact ⟨⟨buf, rfl⟩, onlySends_send _ _⟩
  · cases h
    exact ⟨⟨buf, rfl⟩, onlySends_nil _⟩

theorem joylinkServerUploadReq_cases
    (h : joylinkServerUploadReq jlp snap time_v p = some (p', calls)) :
    (∃ buf, p' = { p with sendBuff := buf }) ∧ OnlySends p.serverSocket calls := by
  obtain ⟨data, -, h⟩ := Option.bind_eq_some_iff.1 h
  split_ifs at h
  · exact sendServerRsp_cases h
  · cases h
    exact ⟨⟨p.sendBuff, rfl⟩, onlySends_nil _⟩

theorem length_snapShot {data : List Byte} (h : joylinkDevGetSnapShot snap = some data) :
    data.length ≤ 72 := by
  unfold joylinkDevGetSnapShot at h
  split_ifs at h
  · obtain ⟨x, -, h⟩ := Option.bind_eq_some_iff.1 h
    rw [Block.length_of_slice h]
    have := (Block.slice_eq_some.1 h).1
    omega
  · cases h
    exact Nat.zero_le _

/-- A socket is asked for, and given back if it cannot be connected. -/
theorem joylinkServerStInit_cases (fd : ℤ) (ok : Bool) (p : JLDevice) :
    (fd < 0 ∧ joylinkServerStInit fd ok p = ({ p with serverSocket := fd }, [.socket fd])) ∨
      (0 ≤ fd ∧ ok ∧ joylinkServerStInit fd ok p =
        ({ p with serverSocket := fd, serverSt := .auth, hbLostCount := 0 },
          [.socket fd, .connect fd true])) ∨
      (0 ≤ fd ∧ ok = false ∧ joylinkServerStInit fd ok p =
        ({ p with serverSocket := fd, serverSt := .init, hbLostCount := 0 },
          [.socket fd, .connect fd false, .close fd])) := by
  unfold joylinkServerStInit
  dsimp only
  split_ifs with hfd hok
  · exact .inl ⟨hfd, rfl⟩
  · exact .inr (.inl ⟨not_lt.1 hfd, hok, rfl⟩)
  · exact .inr (.inr ⟨not_lt.1 hfd, by simpa using hok, rfl⟩)

/-- **The timer.**  A session that is lost is closed and a new one is tried; without a session one is
    tried; else a packet is sent and counted. -/
theorem joylinkProcServerSt_cases {fd : ℤ} {ok : Bool} {interval : ℕ}
    (h : joylinkProcServerSt jlp fd ok time_v p = some (interval, p', calls)) :
    (p.serverSt ≠ .init ∧ jlMaxServerHbLost < p.hbLostCount ∧ ∃ calls',
      joylinkServerStInit fd ok { p with hbLostCount := 0, serverSt := .init, serverSocket := -1 } =
        (p', calls') ∧ calls = .close p.serverSocket :: calls') ∨
      (p.serverSt = .init ∧ joylinkServerStInit fd ok p = (p', calls)) ∨
      (p.serverSt ≠ .init ∧ p.hbLostCount ≤ jlMaxServerHbLost ∧ p'.serverSocket = p.serverSocket ∧
        p'.serverSt = p.serverSt ∧ p'.hbLostCount = p.hbLostCount + 1 ∧
        ∃ data, calls = [.send p.serverSocket data]) := by
  unfold joylinkProcServerSt joylinkServerStTimeOutCheck at h
  by_cases hlost : p.hbLostCount > jlMaxServerHbLost
  · rw [if_pos hlost] at h
    cases hst : p.serverSt with
    | init =>
      simp only [hst, reduceCtorEq, if_false, Option.pure_def, Option.some.injEq, Prod.mk.injEq,
        List.nil_append] at h
      obtain ⟨-, rfl, rfl⟩ := h
      exact .inr (.inl ⟨rfl, rfl⟩)
    | auth =>
      simp only [hst, reduceCtorEq, if_false, if_true, Option.pure_def, Option.some.injEq,
        Prod.mk.injEq] at h
      obtain ⟨-, rfl, rfl⟩ := h
      exact .inl ⟨by simp, hlost, _, rfl, rfl⟩
    | work =>
      simp only [hst, if_true, Option.pure_def, Option.some.injEq, Prod.mk.injEq] at h
      obtain ⟨-, rfl, rfl⟩ := h
      exact .inl ⟨by simp, hlost, _, rfl, rfl⟩
  · rw [if_neg hlost] at h
    dsimp only at h
    cases hst : p.serverSt with
    | init =>
      simp only [hst, Option.pure_def, Option.some.injEq, Prod.mk.injEq, List.nil_append] at h
      obtain ⟨-, rfl, rfl⟩ := h
      exact .inr (.inl ⟨rfl, rfl⟩)
    | auth =>
      simp only [hst] at h
      obtain ⟨⟨q, c⟩, hauth, h⟩ := Option.bind_eq_some_iff.1 h
      obtain ⟨⟨len, buf⟩, -, hauth⟩ := Option.bind_eq_some_iff.1 hauth
      obtain ⟨data, -, hauth⟩ := Option.bind_eq_some_iff.1 hauth
      cases hauth
      cases h
      exact .inr (.inr ⟨by simp, not_lt.1 hlost, rfl, hst, rfl, data, rfl⟩)
    | work =>
      simp only [hst] at h
      obtain ⟨⟨q, c⟩, hwork, h⟩ := Option.bind_eq_some_iff.1 h
      obtain ⟨⟨len, buf⟩, -, hwork⟩ := Option.bind_eq_some_iff.1 hwork
      obtain ⟨data, -, hwork⟩ := Option.bind_eq_some_iff.1 hwork
      cases hwork
      cases h
      exact .inr (.inr ⟨by simp, not_lt.1 hlost, rfl, hst, rfl, data, rfl⟩)

/-- `PT_BEAT`, `PT_SUB_HB` -/
def IsBeat (type : Byte) : Prop :=
  type = PacketType.beat.toByte ∨ type = PacketType.subHb.toByte

/-- A request leaves the socket, can make the session work, resets the count if it is a heartbeat, and
    sets the key if it is an authentication. -/
theorem joylinkProcServerDispatch_cases {other : OtherHandlers} {cmd : Block Byte 64} {ret : ℤ}
    {type : Byte} {recPainText : Block Byte 2816}
    (h : joylinkProcServerDispatch jlp other snap time_v cmd ret type recPainText p =
      some (p', calls)) :
    p'.serverSocket = p.serverSocket ∧ (p'.serverSt = p.serverSt ∨ p'.serverSt = .work) ∧
      (IsBeat type ∨ p'.hbLostCount = p.hbLostCount) ∧ OnlySends p.serverSocket calls ∧
      (if type = PacketType.auth.toByte then authSessionKey recPainText else some p.sessionKey) =
        some p'.sessionKey := by
  unfold joylinkProcServerDispatch at h
  split_ifs at h with hauth hbeat hctrl
  · obtain ⟨key, hkey, h⟩ := Option.bind_eq_some_iff.1 h
    obtain ⟨⟨q, c⟩, hup, h⟩ := Option.bind_eq_some_iff.1 h
    obtain ⟨⟨buf, rfl⟩, hsends⟩ := joylinkServerUploadReq_cases hup
    cases h
    exact ⟨rfl, .inr rfl, .inr rfl, hsends, (if_pos hauth).trans hkey⟩
  · obtain ⟨⟨buf, rfl⟩, hsends⟩ := joylinkServerUploadReq_cases h
    exact ⟨rfl, .inr rfl, .inl hbeat, hsends, if_neg hauth⟩
  · obtain ⟨⟨r, ctr, uart⟩, -, h⟩ := Option.bind_eq_some_iff.1 h
    dsimp only at h
    split_ifs at h
    · cases h
      exact ⟨rfl, .inl rfl, .inr rfl, onlySends_nil _, if_neg hauth⟩
    · obtain ⟨data, -, h⟩ := Option.bind_eq_some_iff.1 h
      obtain ⟨⟨q, c⟩, hsend, h⟩ := Option.bind_eq_some_iff.1 h
      obtain ⟨⟨buf, rfl⟩, hsends⟩ := sendServerRsp_cases hsend
      cases h
      refine ⟨rfl, .inl rfl, .inr rfl, fun x hx => ?_, if_neg hauth⟩
      rcases List.mem_append.1 hx with hx | hx
      · obtain ⟨data, -, rfl⟩ := List.mem_map.1 hx
        exact .inr ⟨data, rfl⟩
      · exact hsends x hx
  · obtain ⟨datas, -, h⟩ := Option.bind_eq_some_iff.1 h
    cases h
    refine ⟨rfl, .inl rfl, .inr rfl, fun x hx => ?_, if_neg hauth⟩
    obtain ⟨data, -, rfl⟩ := List.mem_map.1 hx
    exact .inl ⟨data, rfl⟩

/-- A heartbeat of the server, in what `recv` gives. -/
def Heartbeat (jlp : JLPInfo) (p : JLDevice) (as : List (List Byte)) : Prop :=
  ∃ ret type recPainText rest, joylinkProcServerRecv jlp.accesskey p.sessionKey as =
    some (.request ret (some type) recPainText rest) ∧ IsBeat type

/-- **What the server sends.**  The session is closed, or it goes on. -/
theorem joylinkProcServer_cases {other : OtherHandlers} {cmd : Block Byte 64}
    {as : List (List Byte)}
    (h : joylinkProcServer jlp other snap time_v cmd as p = some (p', calls)) :
    (p' = { p with serverSocket := -1, serverSt := .init } ∧ calls = [.close p.serverSocket]) ∨
      (p'.serverSocket = p.serverSocket ∧ (p'.serverSt = p.serverSt ∨ p'.serverSt = .work) ∧
        (Heartbeat jlp p as ∨ p'.hbLostCount = p.hbLostCount) ∧
        OnlySends p.serverSocket calls) := by
  obtain ⟨inbound, hin, h⟩ := Option.bind_eq_some_iff.1 h
  have hsame : p'= p → calls = [] → p'.serverSocket = p.serverSocket ∧
      (p'.serverSt = p.serverSt ∨ p'.serverSt = .work) ∧
      (Heartbeat jlp p as ∨ p'.hbLostCount = p.hbLostCount) ∧ OnlySends p.serverSocket calls := by
    rintro rfl rfl
    exact ⟨rfl, .inl rfl, .inr rfl, onlySends_nil _⟩
  cases inbound with
  | waiting => cases h; exact .inr (hsame rfl rfl)
  | closed => cases h; exact .inl ⟨rfl, rfl⟩
  | request ret type recPainText rest =>
    cases type with
    | none => cases h; exact .inr (hsame rfl rfl)
    | some type =>
      dsimp only at h
      split_ifs at h
      · cases h; exact .inr (hsame rfl rfl)
      · obtain ⟨hsocket, hst, hcount, hsends, -⟩ := joylinkProcServerDispatch_cases h
        exact .inr ⟨hsocket, hst, hcount.imp_left fun hbeat => ⟨_, _, _, _, hin, hbeat⟩, hsends⟩

/-- The key that a request leaves is the one that `serverRequests` goes on with. -/
theorem joylinkProcServer_sessionKey {other : OtherHandlers} {cmd : Block Byte 64} {ret : ℤ}
    {type : Option Byte} {recPainText : Block Byte 2816} {as rest : List (List Byte)}
    (hin : joylinkProcServerRecv jlp.accesskey p.sessionKey as = some (.request ret type recPainText rest))
    (h : joylinkProcServer jlp other snap time_v cmd as p = some (p', calls)) :
    keyAfter p.sessionKey ret type recPainText = some p'.sessionKey := by
  rw [joylinkProcServer, hin] at h
  simp only [Option.bind_eq_bind, Option.bind_some] at h
  cases type with
  | none =>
    cases h
    exact if_neg (by simp)
  | some type =>
    dsimp only at h
    split_ifs at h with hret
    · cases h
      exact if_neg fun hno => absurd hno.2 (by omega)
    · obtain ⟨-, -, -, -, hkey⟩ := joylinkProcServerDispatch_cases h
      rw [← hkey, keyAfter]
      refine if_congr ?_ rfl rfl
      rw [Option.some.injEq]
      exact and_iff_left (by omega)

end

/-! ## The order of the calls -/

/-- A socket, as its calls leave it. -/
inductive SockSt where
  | closed
  | opened (fd : ℤ)
  | connected (fd : ℤ)
  deriving DecidableEq

/-- The calls that a socket may be asked for: it is given and connected, written and closed. -/
def sockStep : SockSt → SockCall → Option SockSt
  | s, .uart _ => some s
  | .closed, .socket fd => some (if fd < 0 then .closed else .opened fd)
  | .opened fd, .connect fd' ok =>
    if fd = fd' then some (if ok then .connected fd else .opened fd) else none
  | .opened fd, .close fd' => if fd = fd' then some .closed else none
  | .connected fd, .send fd' _ => if fd = fd' then some (.connected fd) else none
  | .connected fd, .close fd' => if fd = fd' then some .closed else none
  | _, _ => none

/-- The socket of the session. -/
def sockOf (p : JLDevice) : SockSt :=
  if p.serverSt = .init then .closed else .connected p.serverSocket

/-- Data are sent after a control from the network, and there is no session. -/
def Unasked (p : JLDevice) : SessionEvent → Prop
  | .upload snap _ => p.serverSt = .init ∧ joylinkDevGetSnapShot snap ≠ some []
  | _ => False

/-- No data are sent, in these events, while there is no session. -/
def Asked (jlp : JLPInfo) : List SessionEvent → JLDevice → Prop
  | [], _ => True
  | e :: es, p => ¬ Unasked p e ∧ ∀ p' calls, sessionStep jlp e p = some (p', calls) → Asked jlp es p'

section
variable {jlp : JLPInfo} {p p' : JLDevice} {calls : List SockCall}

theorem foldlM_onlySends {fd : ℤ} (h : OnlySends fd calls) :
    calls.foldlM sockStep (.connected fd) = some (.connected fd) := by
  induction calls with
  | nil => rfl
  | cons c calls ih =>
    have hrest := ih fun x hx => h x (List.mem_cons_of_mem _ hx)
    rcases h c List.mem_cons_self with ⟨data, rfl⟩ | ⟨data, rfl⟩
    · rw [List.foldlM_cons, sockStep, if_pos rfl]
      exact hrest
    · rw [List.foldlM_cons, sockStep]
      exact hrest

/-- A new socket ends connected or closed. -/
theorem foldlM_init {fd : ℤ} {ok : Bool} (hst : p.serverSt = .init)
    (h : joylinkServerStInit fd ok p = (p', calls)) :
    calls.foldlM sockStep .closed = some (sockOf p') := by
  rcases joylinkServerStInit_cases fd ok p with ⟨hfd, hi⟩ | ⟨hfd, -, hi⟩ | ⟨hfd, -, hi⟩
  · rw [hi] at h
    cases h
    simp [sockStep, sockOf, hfd, hst]
  · rw [hi] at h
    cases h
    simp [sockStep, sockOf, not_lt.2 hfd]
  · rw [hi] at h
    cases h
    simp [sockStep, sockOf, not_lt.2 hfd]

theorem sockOf_of_init (h : p.serverSt = .init) : sockOf p = .closed := if_pos h

theorem sockOf_of_ne (h : p.serverSt ≠ .init) : sockOf p = .connected p.serverSocket := if_neg h

/-- A session that goes on keeps its socket. -/
theorem sockOf_of_going (h : p.serverSt ≠ .init) (hsocket : p'.serverSocket = p.serverSocket)
    (hst : p'.serverSt = p.serverSt ∨ p'.serverSt = .work) : sockOf p' = sockOf p := by
  have hne : p'.serverSt ≠ .init := by
    rcases hst with hst | hst <;> rw [hst]
    · exact h
    · decide
  rw [sockOf_of_ne h, sockOf_of_ne hne, hsocket]

/-- What is sent for a control without a session is sent on a socket that is closed. -/
theorem upload_of_init {snap : Snapshot} {time_v : BitVec 32} (hst : p.serverSt = .init)
    (hdata : joylinkDevGetSnapShot snap ≠ some [])
    (h : joylinkServerUploadReq jlp snap time_v p = some (p', calls)) :
    calls.foldlM sockStep (sockOf p) = none := by
  obtain ⟨data, hsnap, h⟩ := Option.bind_eq_some_iff.1 h
  have hlen := length_snapShot hsnap
  have hpos : data.length > 0 := List.length_pos_iff.2 fun he => hdata (he ▸ hsnap)
  rw [if_pos hpos] at h
  obtain ⟨⟨len, buf⟩, henc, h⟩ := Option.bind_eq_some_iff.1 h
  obtain ⟨head, opt, k, iv, enc, -, -, hopt, -, -, -, -, -, rfl, -⟩ :=
    server_packet (by simp) henc
  have hfit : 0 < ((16 + (opt ++ cipherText enc (le32 time_v ++ data)).length : ℕ) : ℤ) ∧
      ((16 + (opt ++ cipherText enc (le32 time_v ++ data)).length : ℕ) : ℤ) < jlMaxPacketLen := by
    rw [hopt (by decide), List.nil_append, length_cipherText, List.length_append, length_le32,
      jlMaxPacketLen]
    omega
  dsimp only at h
  rw [if_pos hfit] at h
  obtain ⟨packet, -, h⟩ := Option.bind_eq_some_iff.1 h
  cases h
  rw [sockOf_of_init hst]
  rfl

/-- **An event keeps the order of the calls**, but for data sent without a session. -/
theorem sessionStep_sockets {e : SessionEvent} (h : sessionStep jlp e p = some (p', calls)) :
    (¬ Unasked p e ∧ calls.foldlM sockStep (sockOf p) = some (sockOf p')) ∨
      (Unasked p e ∧ calls.foldlM sockStep (sockOf p) = none) := by
  cases e with
  | timer fd ok time_v =>
    refine .inl ⟨not_false, ?_⟩
    obtain ⟨⟨interval, q, c⟩, htimer, h⟩ := Option.map_eq_some_iff.1 h
    cases h
    rcases joylinkProcServerSt_cases htimer with ⟨hst, -, calls', hinit, rfl⟩ | ⟨hst, hinit⟩ |
      ⟨hst, -, hsocket, hst', -, data, rfl⟩
    · rw [sockOf_of_ne hst, List.foldlM_cons, sockStep, if_pos rfl]
      exact foldlM_init rfl hinit
    · rw [sockOf_of_init hst]
      exact foldlM_init hst hinit
    · rw [sockOf_of_going hst hsocket (.inl hst'), sockOf_of_ne hst]
      exact foldlM_onlySends (onlySends_send _ _)
  | server other snap time_v cmd as =>
    refine .inl ⟨not_false, ?_⟩
    rw [sessionStep] at h
    split_ifs at h with hset
    · rcases joylinkProcServer_cases h with ⟨rfl, rfl⟩ | ⟨hsocket, hst, -, hsends⟩
      · simp [sockStep, sockOf, hset.2]
      · rw [sockOf_of_going hset.2 hsocket hst, sockOf_of_ne hset.2]
        exact foldlM_onlySends hsends
    · cases h
      rfl
  | upload snap time_v =>
    by_cases hst : p.serverSt = .init
    · by_cases hdata : joylinkDevGetSnapShot snap = some []
      · refine .inl ⟨fun hno => hno.2 hdata, ?_⟩
        rw [sessionStep, joylinkServerUploadReq, hdata] at h
        cases h
        rfl
      · exact .inr ⟨⟨hst, hdata⟩, upload_of_init hst hdata h⟩
    · refine .inl ⟨fun hno => hst hno.1, ?_⟩
      obtain ⟨⟨buf, rfl⟩, hsends⟩ := joylinkServerUploadReq_cases h
      rw [sockOf_of_ne hst, show sockOf { p with sendBuff := buf } = sockOf p from rfl,
        sockOf_of_ne hst]
      exact foldlM_onlySends hsends

/-- **The calls of a run.**  In whatever order timers, packets of the server and controls come, a
    socket is closed before the next one is asked for, closed once, and written only while it is
    connected; the one exception are the data that a control has sent while there is no session, and
    these go to a socket that is not open. -/
theorem session_sockets {es : List SessionEvent} (hst : p.serverSt = .init)
    (h : sessionRun jlp es p = some (p', calls)) :
    (Asked jlp es p ∧ calls.foldlM sockStep .closed = some (sockOf p')) ∨
      (¬ Asked jlp es p ∧ calls.foldlM sockStep .closed = none) := by
  rw [← sockOf_of_init hst]
  clear hst
  induction es generalizing p calls with
  | nil =>
    cases h
    exact .inl ⟨trivial, rfl⟩
  | cons e es ih =>
    rw [sessionRun] at h
    obtain ⟨⟨q, c⟩, hstep, h⟩ := Option.bind_eq_some_iff.1 h
    obtain ⟨⟨q', c'⟩, hrun, h⟩ := Option.bind_eq_some_iff.1 h
    cases h
    have hasked : ¬ Unasked p e → (Asked jlp (e :: es) p ↔ Asked jlp es q) := by
      intro he
      refine ⟨fun ha => ha.2 q c hstep, fun ha => ⟨he, fun q₁ c₁ h₁ => ?_⟩⟩
      rw [hstep] at h₁
      cases h₁
      exact ha
    rw [List.foldlM_append]
    rcases sessionStep_sockets hstep with ⟨he, hc⟩ | ⟨he, hc⟩
    · rw [hc, Option.bind_eq_bind, Option.bind_some, hasked he]
      exact ih hrun
    · rw [hc]
      exact .inr ⟨fun ha => ha.1 he, rfl⟩

/-- A device, for examples. -/
def exampleDevice (socket : ℤ) (st : ServerSt) (count : ℕ) : JLDevice where
  serverSocket := socket
  serverSt := st
  hbLostCount := count
  sessionKey := Block.fill 33 0
  sendBuff := Block.fill 1400 0

/-- A connection that fails, and one that does not; and data that a control has sent before there is
    any. -/
theorem session_sockets_connect :
    (Asked ⟨[], Block.fill 33 0⟩ [.timer 5 false 0, .timer 6 true 0] (exampleDevice (-1) .init 0) ∧
      [.socket 5, .connect 5 false, .close 5, .socket 6, .connect 6 true].foldlM sockStep .closed =
        some (sockOf (exampleDevice 6 .auth 0))) ∧
    ∃ p' calls, sessionRun ⟨[], Block.fill 33 0⟩ [.upload ⟨true, Block.fill 72 0⟩ 0]
        (exampleDevice (-1) .init 0) = some (p', calls) ∧
      ¬ Asked ⟨[], Block.fill 33 0⟩ [.upload ⟨true, Block.fill 72 0⟩ 0] (exampleDevice (-1) .init 0) ∧
      calls.foldlM sockStep .closed = none := by
  constructor
  · have hrun : sessionRun ⟨[], Block.fill 33 0⟩ [.timer 5 false 0, .timer 6 true 0]
        (exampleDevice (-1) .init 0) = some (exampleDevice 6 .auth 0,
          [.socket 5, .connect 5 false, .close 5, .socket 6, .connect 6 true]) := rfl
    exact (session_sockets rfl hrun).resolve_right fun h =>
      h.1 ⟨id, fun _ _ _ => ⟨id, fun _ _ _ => trivial⟩⟩
  · obtain ⟨⟨p', calls⟩, hrun⟩ : ∃ r, sessionRun ⟨[], Block.fill 33 0⟩
        [.upload ⟨true, Block.fill 72 0⟩ 0] (exampleDevice (-1) .init 0) = some r :=
      Option.isSome_iff_exists.1 (by decide +kernel)
    exact ⟨p', calls, hrun, (session_sockets rfl hrun).resolve_left fun h =>
      h.1.1 ⟨rfl, by decide⟩⟩

/-! ## How long a session lasts -/

/-- How many timers are among these events. -/
def timers (es : List SessionEvent) : ℕ :=
  es.countP fun e => match e with
    | .timer _ _ _ => true
    | _ => false

/-- No heartbeat of the server is among these events. -/
def Silent (jlp : JLPInfo) : List SessionEvent → JLDevice → Prop
  | [], _ => True
  | e :: es, p => (∀ other snap time_v cmd as, e = .server other snap time_v cmd as →
      ¬ Heartbeat jlp p as) ∧
    ∀ p' calls, sessionStep jlp e p = some (p', calls) → Silent jlp es p'

/-- An event closes the session, or it goes on: only a timer counts, and only a heartbeat or a new
    session resets the count. -/
theorem sessionStep_going {e : SessionEvent} (hst : p.serverSt ≠ .init)
    (h : sessionStep jlp e p = some (p', calls)) :
    (∃ fd, SockCall.close fd ∈ calls) ∨
      ((p'.serverSt = p.serverSt ∨ p'.serverSt = .work) ∧
        ((∃ fd ok time_v, e = .timer fd ok time_v) ∧ p.hbLostCount ≤ jlMaxServerHbLost ∧
          p'.hbLostCount = p.hbLostCount + 1 ∨
        (∀ fd ok time_v, e ≠ .timer fd ok time_v) ∧ (p'.hbLostCount = p.hbLostCount ∨
          ∃ other snap time_v cmd as, e = .server other snap time_v cmd as ∧
            Heartbeat jlp p as))) := by
  cases e with
  | timer fd ok time_v =>
    obtain ⟨⟨interval, q, c⟩, htimer, h⟩ := Option.map_eq_some_iff.1 h
    cases h
    rcases joylinkProcServerSt_cases htimer with ⟨-, -, calls', -, rfl⟩ | ⟨hinit, -⟩ |
      ⟨-, hle, -, hst', hcount, -⟩
    · exact .inl ⟨_, List.mem_cons_self⟩
    · exact absurd hinit hst
    · exact .inr ⟨.inl hst', .inl ⟨⟨fd, ok, time_v, rfl⟩, hle, hcount⟩⟩
  | server other snap time_v cmd as =>
    rw [sessionStep] at h
    split_ifs at h
    · rcases joylinkProcServer_cases h with ⟨-, rfl⟩ | ⟨-, hst', hcount, -⟩
      · exact .inl ⟨_, List.mem_cons_self⟩
      · refine .inr ⟨hst', .inr ⟨by simp, hcount.symm.imp_right fun hbeat => ?_⟩⟩
        exact ⟨other, snap, time_v, cmd, as, rfl, hbeat⟩
    · cases h
      exact .inr ⟨.inl rfl, .inr ⟨by simp, .inl rfl⟩⟩
  | upload snap time_v =>
    obtain ⟨⟨buf, rfl⟩, -⟩ := joylinkServerUploadReq_cases h
    exact .inr ⟨.inl rfl, .inr ⟨by simp, .inl rfl⟩⟩

theorem serverSt_of_going (hst : p.serverSt ≠ .init)
    (h : p'.serverSt = p.serverSt ∨ p'.serverSt = .work) : p'.serverSt ≠ .init := by
  rcases h with h | h <;> rw [h]
  · exact hst
  · decide

/-- **A server that is silent is given up.**  Whatever else comes, a session without a heartbeat of
    the server is closed by the time that twelve timers have been out since the last one. -/
theorem silent_server_closed {es : List SessionEvent} (hst : p.serverSt ≠ .init)
    (h : sessionRun jlp es p = some (p', calls)) (hsilent : Silent jlp es p)
    (hone : 0 < timers es) (htimers : jlMaxServerHbLost + 2 ≤ timers es + p.hbLostCount) :
    ∃ fd, SockCall.close fd ∈ calls := by
  induction es generalizing p calls with
  | nil => exact absurd hone (by decide)
  | cons e es ih =>
    obtain ⟨⟨q, c⟩, hstep, h⟩ := Option.bind_eq_some_iff.1 h
    obtain ⟨⟨q', c'⟩, hrun, h⟩ := Option.bind_eq_some_iff.1 h
    cases h
    obtain ⟨hnow, hlater⟩ := hsilent
    rcases sessionStep_going hst hstep with ⟨fd, hfd⟩ | ⟨hst', ⟨⟨fd, ok, t, rfl⟩, hle, hcount⟩ |
      ⟨hno, hcount⟩⟩
    · exact ⟨fd, List.mem_append_left _ hfd⟩
    · have hcons : timers (.timer fd ok t :: es) = timers es + 1 := by simp [timers]
      rw [hcons] at htimers
      rw [jlMaxServerHbLost] at hle htimers
      obtain ⟨fd, hfd⟩ := ih (serverSt_of_going hst hst') hrun (hlater _ _ hstep) (by omega)
        (by rw [jlMaxServerHbLost]; omega)
      exact ⟨fd, List.mem_append_right _ hfd⟩
    · have hcons : timers (e :: es) = timers es := by
        cases e with
        | timer fd ok t => exact absurd rfl (hno fd ok t)
        | server => simp [timers]
        | upload => simp [timers]
      have hsame : q.hbLostCount = p.hbLostCount := by
        rcases hcount with hcount | ⟨other, snap, t, cmd, as, he, hbeat⟩
        · exact hcount
        · exact absurd hbeat (hnow other snap t cmd as he)
      rw [hcons] at hone htimers
      obtain ⟨fd, hfd⟩ := ih (serverSt_of_going hst hst') hrun (hlater _ _ hstep) hone
        (by rw [hsame]; exact htimers)
      exact ⟨fd, List.mem_append_right _ hfd⟩

/-- The twelfth timer. -/
theorem silent_server_closed_twelve :
    ∃ fd, SockCall.close fd ∈ [.close 5, .socket 7, .connect 7 true] := by
  have hrun : sessionRun ⟨[], Block.fill 33 0⟩ [.timer 7 true 0] (exampleDevice 5 .work 11) =
      some (exampleDevice 7 .auth 0, [.close 5, .socket 7, .connect 7 true]) := rfl
  exact silent_server_closed (by decide) hrun ⟨by simp, fun _ _ _ => trivial⟩ (by decide)
    (by decide)

/-- **A session that works is not authenticated again.**  Where the code says it will, it closes the
    session in the same call: without a close the session goes on working. -/
theorem work_until_closed {es : List SessionEvent} (hst : p.serverSt = .work)
    (h : sessionRun jlp es p = some (p', calls)) (hopen : ∀ fd, SockCall.close fd ∉ calls) :
    p'.serverSt = .work := by
  induction es generalizing p calls with
  | nil =>
    cases h
    exact hst
  | cons e es ih =>
    obtain ⟨⟨q, c⟩, hstep, h⟩ := Option.bind_eq_some_iff.1 h
    obtain ⟨⟨q', c'⟩, hrun, h⟩ := Option.bind_eq_some_iff.1 h
    cases h
    refine ih ?_ hrun fun fd hfd => hopen fd (List.mem_append_right _ hfd)
    rcases sessionStep_going (by rw [hst]; decide) hstep with ⟨fd, hfd⟩ | ⟨hst' | hst', -⟩
    · exact absurd (List.mem_append_left _ hfd) (hopen fd)
    · rw [hst', hst]
    · exact hst'

/-- A timer, a heartbeat of the server, a control and a timer. -/
theorem work_until_closed_beat : ∃ pkt p' calls, sessionRun ⟨[], Block.fill 33 0⟩
      [.timer 7 true 0,
        .server (fun _ _ _ => some []) ⟨false, Block.fill 72 0⟩ 0 (Block.fill 64 0) (reads pkt),
        .upload ⟨true, Block.fill 72 0⟩ 0, .timer 7 true 0]
      (exampleDevice 5 .work 3) = some (p', calls) ∧
    calls.length = 3 ∧ p'.hbLostCount = 1 ∧ p'.serverSt = .work := by
  have hrun : ((joylinkEncyptServerRsp [] (Block.fill 1400 0 : Block Byte 1400) .beat
      (Block.fill 33 0 : Block Byte 33) [0, 0, 0, 0]).bind fun r =>
        (r.2.slice 0 32).bind fun pkt => (sessionRun ⟨[], Block.fill 33 0⟩
          [.timer 7 true 0,
            .server (fun _ _ _ => some []) ⟨false, Block.fill 72 0⟩ 0 (Block.fill 64 0) (reads pkt),
            .upload ⟨true, Block.fill 72 0⟩ 0, .timer 7 true 0]
          (exampleDevice 5 .work 3)).map fun r => (r.2.length, r.1.hbLostCount,
            r.2.all fun c => match c with
              | .close _ => false
              | _ => true)) = some (3, 1, true) := by decide +kernel
  obtain ⟨r, -, hrun⟩ := Option.bind_eq_some_iff.1 hrun
  obtain ⟨pkt, -, hrun⟩ := Option.bind_eq_some_iff.1 hrun
  obtain ⟨⟨p', calls⟩, hrun, hvals⟩ := Option.map_eq_some_iff.1 hrun
  simp only [Prod.mk.injEq, List.all_eq_true] at hvals
  obtain ⟨hlen, hcount, hopen⟩ := hvals
  exact ⟨pkt, p', calls, hrun, hlen, hcount,
    work_until_closed rfl hrun fun fd hfd => Bool.false_ne_true (hopen _ hfd)⟩

end

end MxchipSpp
