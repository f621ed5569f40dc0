/-
  The send side (devproanaly.c): commands taken into `datadown`, frames built
  from them, retransmission, and the main loop `FrameHandle`.

  `ok` is what `MicoUartSend` answers.
-/
import MxchipSpp.Receive

namespace MxchipSpp

open Memory

/-! ## Frames sent -/

/-- `TransData`, on the buffer and the index behind `bufloc`. -/
def transData (buf : Block Byte 250 × ℕ) (data : Byte) : Option (Block Byte 250 × ℕ) := do
  if data ≠ frameHeader then
    let b ← buf.1.write buf.2 [data]
    return (b, u8 (buf.2 + 1))
  else
    let b ← buf.1.write buf.2 [data]
    let b ← b.write (u8 (buf.2 + 1)) [0x55]
    return (b, u8 (u8 (buf.2 + 1) + 1))

/-- `framedata.data[5]`, the value of a control command. -/
def ctrlValue (d : Dev) : Byte := d.datadown.data 5

/-- The field of the control frame that depends on the function index of the command. -/
def setFunction (d : Dev) (tempbuf : Block Byte 250) : Block Byte 250 :=
  let funindex := d.datadown.data 3 ++ d.datadown.data 4
  if funindex = 11 then
    ((tempbuf.set 6 0x04).put 10 (List.replicate 9 0) (by decide))
  else if funindex = 31 then
    tempbuf.set 10 (if ctrlValue d = 0 then 2 else 1)
  else if funindex = 5005 then
    tempbuf.set 11 (ctrlValue d)
  else if funindex = 5022 then
    tempbuf.set 12 (if ctrlValue d = 0 then 0 else 0x10)
  else if funindex = 608 then
    tempbuf.set 13 (ctrlValue d)
  else if funindex = 5023 then
    tempbuf.set 14 (ctrlValue d)
  else
    tempbuf

/-- The part of `SendData` that builds a frame, with `OLD`.  Bytes 15 to 17 keep what an earlier
    frame left there. -/
def buildOld (d : Dev) : Block Byte 250 × ℕ :=
  let tempbuf := d.sendData.tempbuf.put 0 [0xF5, 0xF5, 0xF5, 0xF5, 0, 1, 0x03, 11, 1, 0, 0]
    (by decide)
  let tempbuf := (tempbuf.set 18 11).put 11 d.laststate.cells (by simp)
  let tempbuf := setFunction d tempbuf
  let crc := crcCal (tempbuf.cells.take 19)
  (tempbuf.put 19 [crc.extractLsb' 8 8, crc.extractLsb' 0 8] (by simp), 21)

/-- The check field of a frame of the new protocol, over the bytes written so far. -/
def checkField (ctrl : Byte) (buf : Block Byte 250 × ℕ) : Option (List Byte) := do
  if crctype ctrl = 0 then
    let crc := crcCal (← buf.1.slice 0 buf.2)
    return [crc.extractLsb' 8 8, crc.extractLsb' 0 8]
  else if crctype ctrl = 1 then
    return [sumCheck (← buf.1.slice 3 (u8 (buf.2 - 3))), 0]
  else if crctype ctrl = 2 then
    return [xorCheck (← buf.1.slice 3 (u8 (buf.2 - 3))), 0]
  else
    return []

/-- The part of `SendData` that builds a frame, without `OLD`. -/
def buildNew (d : Dev) : Option (Block Byte 250 × ℕ) := do
  let ctrl := d.datadown.framectrl
  let tempbuf ← d.sendData.tempbuf.write 0 [0xF5, 0xF5, ctrl, d.datadown.datalen]
  -- the data, less its two bytes for the check field
  let n := d.datadown.datalen.toNat - 2
  let data ← if n ≤ 131 then d.datadown.bytes.slice 4 n else none
  let buf ← data.foldlM transData (tempbuf, 4)
  (← checkField ctrl buf).foldlM transData buf

/-- The frame `SendData` builds for a first transmission. -/
def buildFrame (b : Build) (d : Dev) : Option (Block Byte 250 × ℕ) :=
  match b with
  | .old => some (buildOld d)
  | .new _ => buildNew d

/-- `WrUartBuf`, on the static buffer of `SendData`. -/
def wrUartBuf (ok : Bool) (d : Dev) : Option (Dev × Bool) :=
  (d.sendData.tempbuf.slice 0 d.sendData.i).map fun frame =>
    if ok then ({ d with hist.uart := d.hist.uart ++ [frame] }, true) else (d, false)

/-- `SendData`; `none` is an access out of bounds. -/
def sendData (b : Build) (firstsend : Bool) (ok : Bool) (d : Dev) : Option (Dev × Bool) :=
  if firstsend then
    (buildFrame b d).bind fun r => wrUartBuf ok { d with sendData := ⟨r.2, r.1⟩ }
  else
    wrUartBuf ok d

/-! ## The mailbox -/

/-- `DataDownWr` -/
def dataDownWr (d : Dev) (data : List Byte) : Dev × Bool :=
  if h : d.datadown.state = 0 ∧ data.length ≤ 128 then
    let datadown : DataInterfaceStu :=
      ⟨d.datadown.bytes.put 3 (BitVec.ofNat 8 (data.length + 2) :: data) (by simp; omega)⟩
    ({ d with datadown := datadown.setState 2, hist.taken := d.hist.taken ++ [data] }, true)
  else
    (d, false)

/-- `SendTimerUp`, called by the RTOS. -/
def sendTimerUp (d : Dev) : Dev := { d with framesendtimer := true }

def Dev.setDatadownState (d : Dev) (x : Byte) : Dev :=
  { d with datadown := d.datadown.setState x }

/-- `SendTimerHandle` -/
def sendTimerHandle (b : Build) (ok : Bool) (d : Dev) : Option Dev :=
  if d.framesendtimer then
    if d.framesendpara.resendcnt ≠ resendCnt then
      (sendData b false ok { d with
        framesendtimer := false
        framesendpara.resendcnt := u8 (d.framesendpara.resendcnt + 1) }).map Prod.fst
    else
      some { (d.setDatadownState 0).stopSendTimer with
        framesendtimer := false
        framesendpara.resendcnt := 0 }
  else
    some d

/-- The query for the whole state of the device. -/
def queryCmd : List Byte := [cmdControl, 0, 0, 0, 11]

/-- The commands after which `DatadownHandle` is done. -/
def doneCmds : List Byte :=
  [cmdRssi, cmdConfirm, cmdStopAlarm, cmdRetEncryPara, cmdRetLinkSte, cmdRetWorkMode, cmdRetModInfo]

/-- The commands after which `DatadownHandle` waits for an answer. -/
def waitCmds : List Byte :=
  [cmdControl, cmdInfoReportCfg, cmdRdDevId, cmdRdDevInfo, cmdDevRst, cmdRdDevProfile,
   cmdWrDevProfile, cmdUpPack, cmdUpAppChk]

/-- `DatadownHandle` after its `SendData(1)` succeeded. -/
def datadownSent (b : Build) (d : Dev) : Dev :=
  match b with
  | .old =>
    if d.datadown.data 4 = 11 then (d.setDatadownState 3).startSendTimer
    else (dataDownWr (d.setDatadownState 0).stopSendTimer queryCmd).1
  | .new _ =>
    if d.datadown.data 0 ∈ doneCmds then d.setDatadownState 0
    else if d.datadown.data 0 ∈ waitCmds then (d.setDatadownState 3).startSendTimer
    else d

/-- The transmission noted in the history. -/
def Dev.noteSent (d : Dev) : Dev := { d with hist.sent := d.hist.sent ++ [d.datadown.command] }

/-- `DatadownHandle` -/
def datadownHandle (b : Build) (ok : Bool) (d : Dev) : Option Dev :=
  if d.datadown.state = 2 then
    (sendData b true ok d).map fun r => if r.2 then datadownSent b r.1.noteSent else r.1
  else
    some d

/-- The replies of the module that `SendCmdHandle` writes, and the flag each answers. -/
def workmode : List Byte := [cmdRetWorkMode, 0x10, 0x00]
def modinfo : List Byte := [cmdRetModInfo, 0x01, 0x01, 16, 1, 30, 1, 16, 1, 30, 1, 0, 0, 0]
def linkste : List Byte := [cmdRetLinkSte, 0x00, 0x01]

/-- A reply written by `SendCmdHandle`, and its flag cleared if `DataDownWr` took it. -/
def reply (d : Dev) (data : List Byte) (clear : FrameSendCmd → FrameSendCmd) : Dev :=
  let (e, ok) := dataDownWr d data
  if ok then { e with framesendpara.sendcmd := clear e.framesendpara.sendcmd } else e

/-- `SendCmdHandle`, only without `OLD`. -/
def sendCmdHandle (d : Dev) : Dev :=
  if d.datadown.state = 0 then
    if d.framesendpara.sendcmd.confirm then reply d [cmdConfirm] ({ · with confirm := false })
    else if d.framesendpara.sendcmd.workmode then reply d workmode ({ · with workmode := false })
    else if d.framesendpara.sendcmd.modinfo then reply d modinfo ({ · with modinfo := false })
    else if d.framesendpara.sendcmd.linkste then reply d linkste ({ · with linkste := false })
    else if d.framesendpara.sendcmd.versions ≠ 0 then
      reply d [cmdRdDevInfo] ({ · with versions := 0 })
    else d
  else d

/-- `TimerTest`, called by the RTOS. -/
def timerTest (d : Dev) : Dev :=
  (dataDownWr (d.setDatadownState 0) queryCmd).1

/-! ## The main loop -/

/-- The start of `FrameHandle`: a record in `dataup` is passed to `AppHandleCallback`, which
    returns 1. -/
def dataupHandle (d : Dev) : Dev :=
  if d.dataup.state = 2 then
    { d with dataup := d.dataup.setState 0, hist.delivered := d.hist.delivered ++ [d.dataup.record] }
  else d

/-- `x`, where an access out of bounds leaves the state `d`. -/
def orFault (d : Dev) (x : Option Dev) : Except Dev Dev := x.elim (.error d) .ok

/-- `FrameHandle`; `ok₁` and `ok₂` are the answers of `MicoUartSend` to the retransmission and to
    the first transmission. -/
def frameHandle (b : Build) (ok₁ ok₂ : Bool) (d : Dev) : Except Dev Dev := do
  let d ← revCmdHandle (dataupHandle d)
  let d ← revTimerHandle b d
  let d ← orFault d (sendTimerHandle b ok₁ d)
  let d ← orFault d (datadownHandle b ok₂ d)
  match b with
  | .old => return d
  | .new _ => return sendCmdHandle d

/-! ## What `DataDownWr` stores -/

/-- `s'` is the slot `s` after the command `data` was written to it. -/
structure Stored (s : DataInterfaceStu) (data : List Byte) (s' : DataInterfaceStu) : Prop where
  state : s'.state = 2
  framectrl : s'.framectrl = s.framectrl
  datalen : s'.datalen = BitVec.ofNat 8 (data.length + 2)
  command : s'.command = data

section
variable {d : Dev} {data : List Byte}

@[simp] theorem DataInterfaceStu.state_setState (s : DataInterfaceStu) (x : Byte) :
    (s.setState x).state = x := Block.get_set_self _ _ _

theorem dataDownWr_refused (h : ¬ (d.datadown.state = 0 ∧ data.length ≤ 128)) :
    dataDownWr d data = (d, false) := dif_neg h

/-- What `DataDownWr` takes found the slot empty, and fits it. -/
theorem fits_of_dataDownWr (h : (dataDownWr d data).2 = true) :
    d.datadown.state = 0 ∧ data.length ≤ 128 := by
  by_contra hc
  rw [dataDownWr_refused hc] at h
  cases h

theorem toNat_datalen (hl : data.length ≤ 128) :
    (BitVec.ofNat 8 (data.length + 2)).toNat = data.length + 2 := by
  rw [BitVec.toNat_ofNat]; omega

theorem dataDownWr_taken (hs : d.datadown.state = 0) (hl : data.length ≤ 128) :
    ∃ s, dataDownWr d data =
        ({ d with datadown := s, hist.taken := d.hist.taken ++ [data] }, true) ∧
      Stored d.datadown data s := by
  have h : 3 + (BitVec.ofNat 8 (data.length + 2) :: data).length ≤ 136 := by simp; omega
  refine ⟨_, dif_pos ⟨hs, hl⟩, DataInterfaceStu.state_setState _ _, ?_, ?_, ?_⟩
  · refine (Block.get_set_ne _ _ (by decide)).trans ?_
    exact Block.get_put_of_lt _ h _ (by decide)
  · refine (Block.get_set_ne _ _ (by decide)).trans (Block.get_eq_of_getElem? ?_)
    rw [Block.put_getElem?, if_neg (by simp), if_pos (by simp)]
    rfl
  · have hn : (DataInterfaceStu.setState
        ⟨d.datadown.bytes.put 3 (BitVec.ofNat 8 (data.length + 2) :: data) h⟩ 2).datalen =
          BitVec.ofNat 8 (data.length + 2) := by
      refine (Block.get_set_ne _ _ (by decide)).trans (Block.get_eq_of_getElem? ?_)
      rw [Block.put_getElem?, if_neg (by simp), if_pos (by simp)]
      rfl
    rw [DataInterfaceStu.command, hn, toNat_datalen hl, Nat.add_sub_cancel]
    refine List.ext_getElem? fun i => ?_
    rcases Nat.lt_or_ge i data.length with hi | hi
    · have h₁ : ((DataInterfaceStu.setState
          ⟨d.datadown.bytes.put 3 (BitVec.ofNat 8 (data.length + 2) :: data) h⟩
            2).bytes).cells[4 + i]? =
          (d.datadown.bytes.put 3 (BitVec.ofNat 8 (data.length + 2) :: data) h).cells[4 + i]? :=
        List.getElem?_set_ne (by change 135 ≠ _; omega)
      rw [List.getElem?_take_of_lt hi, List.getElem?_drop, h₁, Block.put_getElem?,
        if_neg (by omega), if_pos (by simp; omega), show 4 + i - 3 = i + 1 by omega]
      rfl
    · rw [List.getElem?_eq_none (by simp; omega), List.getElem?_eq_none hi]

end

end MxchipSpp
