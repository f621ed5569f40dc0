/-
  The receive side (devproanaly.c): raw bytes into the FIFO, frames out of
  them, records out of the frames.

  A function that can access memory out of bounds returns `Except Dev Dev`;
  the error is the state at that access, after which nothing can be said.
-/
import MxchipSpp.Check
import MxchipSpp.Device

namespace MxchipSpp

open Memory

/-! ## Frames of the old protocol -/

/-- `FifoInput(&framerevfifo, buf, buf[3] + 4)`, and the step of `offset` if it took them. -/
def inputRecord (d : Dev) (buf : Block Byte 136) : Option Dev := do
  let src ← buf.slice 0 ((buf.get 3).toNat + 4)
  let (taken, fifo) ← d.framerevfifo.input src
  if taken then
    return { d with
      framerevfifo := fifo
      framerevpara.offset := u16 (d.framerevpara.offset + src.length)
      hist.accepted := d.hist.accepted ++ [src] }
  else
    return { d with framerevfifo := fifo }

/-- The alarm record `OldToNew` builds. -/
def oldAlarm (old : Block Byte 250) : List Byte :=
  [frameHeader, frameHeader, 0, 9, cmdAlarm, 0, old.get 23]

/-- The status record `OldToNew` builds.  A frame with any other value than 1 and 2 in its power
    byte has one byte less written, and the rest moves up. -/
def oldStatus (old : Block Byte 250) : List Byte :=
  [frameHeader, frameHeader, 0, 18, cmdSte] ++
    (if old.get 11 = 1 then [1] else if old.get 11 = 2 then [0] else []) ++
    [if old.get 12 &&& 0x01 = 0 then 0 else 1,
     if old.get 13 &&& 0x10 = 0 then 0 else 1,
     old.get 14, old.get 15, old.get 16, old.get 17,
     old.get 19, old.get 18, old.get 21, old.get 20,
     0, if 50 ≤ old.get 24 then old.get 24 - 50 else 50 - old.get 24,
     0, old.get 25]

/-- `OldToNew` -/
def oldToNew (d : Dev) (newbuf : Block Byte 136) (old : Block Byte 250) :
    Option (Dev × Block Byte 136) := do
  let (d, newbuf) ←
    if old.get 23 ≠ 0 then do
      let newbuf ← newbuf.write 0 (oldAlarm old)
      let d ← inputRecord d newbuf
      pure (d, newbuf)
    else
      pure (d, newbuf)
  let newbuf ← newbuf.write 0 (oldStatus old)
  return (d, newbuf)

def Dev.setError (d : Dev) (errortype : ℕ) : Dev :=
  { d with framerevpara.errortype := errortype }

def Dev.setLaststate (d : Dev) (laststate : Block Byte 4) : Dev := { d with laststate }

/-- The end of `FrameDataHandle`, from `endhandle` on. -/
def endHandle (d : Dev) (errortype : ℕ) (tempbuf : Block Byte 136) : Option Dev :=
  if errortype = 0 then inputRecord (d.setError 4) tempbuf else some (d.setError errortype)

/-- The middle of `FrameDataHandle`, with `OLD`. -/
def frameDataOld (d : Dev) (tempbuffer : Block Byte 250) (templen : ℕ) : Option Dev := do
  let hi ← tempbuffer.read (templen - 2)
  let lo ← tempbuffer.read (templen - 1)
  let body ← tempbuffer.slice 0 (u8 (templen - 2))
  if hi ++ lo ≠ crcCal body ∨ tempbuffer.get 10 = 0x55 then
    endHandle d 1 (.fill _ 0)
  else do
    let laststate ← d.laststate.write 0 (← tempbuffer.slice 12 4)
    let (d, tempbuf) ← oldToNew (d.setLaststate laststate) (.fill _ 0) tempbuffer
    endHandle d 0 tempbuf

/-! ## Frames of the new protocol -/

/-- `framedata.data[j] = x`, on the bytes of the structure. -/
def setData (tempbuf : Block Byte 136) (j : ℕ) (x : Byte) : Option (Block Byte 136) :=
  if j < 131 then tempbuf.write (4 + j) [x] else none

/-- The loop of `FrameDataHandle` that takes `n` bytes of data out of the raw frame, from index
    `i` on to data index `j` on, and skips the byte after each `0xF5`; the index after them. -/
def unescape (tempbuffer : Block Byte 250) :
    ℕ → ℕ → ℕ → Block Byte 136 → Option (ℕ × Block Byte 136)
  | 0, i, _, tempbuf => some (i, tempbuf)
  | n + 1, i, j, tempbuf => do
    let x ← tempbuffer.read i
    let tempbuf ← setData tempbuf j x
    unescape tempbuffer n (if x = frameHeader then i + 2 else i + 1) (j + 1) tempbuf

/-- `Decoding`, a stub of the source. -/
def decoding (_ : Block Byte 136) (_ : ℕ) : ℕ := 0

/-- Bits 5 and 6 of the control byte. -/
def crctype (ctrl : Byte) : BitVec 2 := ctrl.extractLsb' 5 2

/-- Bit 7 of the control byte. -/
def encrypt (ctrl : Byte) : Bool := ctrl.getLsbD 7

/-- The middle of `FrameDataHandle`, without `OLD`. -/
def frameDataNew (incFirst : Bool) (d : Dev) (tempbuffer : Block Byte 250) (templen : ℕ) :
    Option Dev := do
  let tempbuf ← (Block.fill 136 0).write (if incFirst then 1 else 0)
    [tempbuffer.get 0, tempbuffer.get 1]
  let tempbuf ← tempbuf.write 2 [tempbuffer.get 2, tempbuffer.get 3]
  let ctrl := tempbuf.get 2
  let j := (tempbuf.get 3).toNat - 2
  let (i, tempbuf) ← unescape tempbuffer j 4 0 tempbuf
  let hi ← tempbuffer.read i
  let tempbuf ← setData tempbuf j hi
  let lo ← tempbuffer.read (if hi = frameHeader then i + 2 else i + 1)
  let tempbuf ← setData tempbuf (j + 1) lo
  if encrypt ctrl ∧ decoding tempbuf (u8 (templen - 3)) ≠ 0 then
    endHandle d 2 tempbuf
  else if crctype ctrl = 0 then do
    let body ← tempbuffer.slice 0 i
    endHandle d (if hi ++ lo ≠ crcCal body then 1 else 0) tempbuf
  else if crctype ctrl = 1 then do
    let body ← tempbuffer.slice 3 (i - 3)
    endHandle d (if hi ≠ sumCheck body then 1 else 0) tempbuf
  else if crctype ctrl = 2 then do
    let body ← tempbuffer.slice 3 (i - 3)
    endHandle d (if hi ≠ xorCheck body then 1 else 0) tempbuf
  else
    endHandle d 0 tempbuf

/-! ## `FrameDataHandle` -/

/-- `FrameRevInit` -/
def frameRevInit (d : Dev) : Dev :=
  { d with framerevpara.datastate := .revHead, framerevpara.wordstate := 0 }

/-- The raw bytes pending: those of the FIFO after the records. -/
def Dev.pending (d : Dev) : ℤ := d.framerevfifo.datalen - d.framerevpara.offset

/-- The raw bytes `FrameDataHandle` copies; `templen` is a `u8`. -/
def Dev.raw (d : Dev) : List Byte := d.framerevfifo.copy d.framerevpara.offset (u8 d.pending)

/-- The state after `FrameDataHandle` removes them. -/
def Dev.dropRaw (d : Dev) : Dev :=
  { d with framerevfifo := d.framerevfifo.deletHead (u8 d.pending) }

/-- The body of `FrameDataHandle`. -/
def frameData (b : Build) (d : Dev) : Option Dev := do
  let tempbuffer ← (Block.fill 250 0).write 0 d.raw
  let e ← match b with
    | .old => frameDataOld d.dropRaw tempbuffer (u8 d.pending)
    | .new incFirst => frameDataNew incFirst d.dropRaw tempbuffer (u8 d.pending)
  return frameRevInit e

/-- `Datalen` and `framerevpara`. -/
def Dev.snapshot (d : Dev) : ℕ × FrameRevPara := (d.framerevfifo.datalen, d.framerevpara)

/-- A call of `FrameDataHandle` noted in the history. -/
def Dev.noteCall (d : Dev) (pending : ℤ) (after : Option (ℕ × FrameRevPara)) : Dev :=
  { d with hist.calls := d.hist.calls ++ [⟨pending, after⟩] }

/-- `FrameDataHandle` -/
def frameDataHandle (b : Build) (d : Dev) : Except Dev Dev :=
  match frameData b d with
  | some e => .ok (e.noteCall d.pending (some e.snapshot))
  | none => .error (d.noteCall d.pending none)

/-! ## Bytes received -/

/-- `n` turns of the loop `while(framerevpara.wordstate)`. -/
def pushHeader : ℕ → Fifo revFifoLen → Fifo revFifoLen
  | 0, fifo => fifo
  | n + 1, fifo => pushHeader n (fifo.pushOneByte frameHeader)

/-- The loop `while(framerevpara.wordstate)`, which puts back the headers counted. -/
def flushWord (d : Dev) : Dev :=
  { d with
    framerevfifo := pushHeader d.framerevpara.wordstate d.framerevfifo
    framerevpara.wordstate := 0 }

def Dev.setWordstate (d : Dev) (n : ℕ) : Dev := { d with framerevpara.wordstate := n }

def Dev.setRevData (d : Dev) : Dev := { d with framerevpara.datastate := .revData }

def Dev.push (d : Dev) (x : Byte) : Dev := { d with framerevfifo := d.framerevfifo.pushOneByte x }

/-- `FifoDeletHead(&framerevfifo, Datalen - offset)`; here the length is a `u16`. -/
def Dev.dropPending (d : Dev) : Dev :=
  { d with framerevfifo := d.framerevfifo.deletHead (u16 d.pending) }

/-- One turn of the loop of `RevDataWrFifo`; `false` where it returns. -/
def revByte (b : Build) (d : Dev) (x : Byte) : Except Dev (Dev × Bool) := do
  let wordstate := d.framerevpara.wordstate
  match d.framerevpara.datastate with
  | .revHead =>
    if x = frameHeader then
      if u8 (wordstate + 1) = headNumer b then
        return ((flushWord (d.setWordstate (u8 (wordstate + 1)))).setRevData, true)
      else
        return (d.setWordstate (u8 (wordstate + 1)), true)
    else
      return (d.setWordstate 0, false)
  | .revData =>
    if x = frameHeader then
      if u8 (wordstate + 1) = headNumer b then
        -- this resets the receiver, so that there is nothing left to put back
        let d ← frameDataHandle b (d.setWordstate (u8 (wordstate + 1)))
        return (flushWord d, true)
      else
        return (d.setWordstate (u8 (wordstate + 1)), true)
    else if b = .old ∧ wordstate ≠ 0 ∧ x ≠ 0x55 then
      return (frameRevInit (d.dropPending.setError 3), false)
    else
      return ((flushWord d).push x, true)

/-- The loop of `RevDataWrFifo`. -/
def revBytes (b : Build) : Dev → List Byte → Except Dev Dev
  | d, [] => .ok d
  | d, x :: xs => do
    let (d, more) ← revByte b d x
    if more then revBytes b d xs else return d

/-- `RevDataWrFifo`; the length comes as a `u8`. -/
def revDataWrFifo (b : Build) (d : Dev) (data : List Byte) : Except Dev Dev :=
  revBytes b d (data.take (u8 data.length))

/-- `RevTimerUp`, called by the RTOS. -/
def revTimerUp (d : Dev) : Dev := { d with framerevtimer := true }

def Dev.clearRevTimer (d : Dev) : Dev := { d with framerevtimer := false }

/-- `RevTimerHandle` -/
def revTimerHandle (b : Build) (d : Dev) : Except Dev Dev :=
  if d.framerevtimer then frameDataHandle b d.clearRevTimer else .ok d

/-! ## Records taken out -/

/-- The commands that answer one of the module's own. -/
def answerCmds : List Byte :=
  [cmdSte, cmdInvalid, cmdConfirm, cmdRetDevId, cmdRetDevInfo, cmdRetDevProfile,
   cmdAckDevProfile, cmdAckUpPack, cmdAckUpAppChk]

/-- The commands the device sends by itself and that are passed on. -/
def reportCmds : List Byte := [cmdAlarm, cmdInfoReport, cmdRdEncryPara]

/-- The bytes `RevCmdHandle` reads from a new record: its command and its length. -/
def revCmdRead (d : Dev) : Dev :=
  let cmd := (d.framerevfifo.copy 4 1).headD d.revCmd.cmd
  let len := ((d.framerevfifo.copy 3 1).map BitVec.toNat).headD d.revCmd.templen
  { d with revCmd := ⟨d.revCmd.cmdflag, u8 (len + 4), cmd⟩ }

/-- An answer to a command stops its retransmission. -/
def stopResend (d : Dev) : Dev :=
  if d.datadown.state = 3 then
    { d.stopSendTimer with datadown := d.datadown.setState 0, framesendpara.resendcnt := 0 }
  else d

def Dev.setCmdflag (d : Dev) (n : ℕ) : Dev := { d with revCmd.cmdflag := n }

/-- The `switch` of `RevCmdHandle`. -/
def revCmdSwitch (d : Dev) : Dev :=
  if d.revCmd.cmd ∈ answerCmds then (stopResend d).setCmdflag 1
  else if d.revCmd.cmd ∈ reportCmds then
    { d with framesendpara.sendcmd.confirm := true }.setCmdflag 1
  else if d.revCmd.cmd = cmdSetWorkMode then
    { d with framesendpara.sendcmd.workmode := true }.setCmdflag 2
  else if d.revCmd.cmd = cmdRdModInfo then
    { d with framesendpara.sendcmd.modinfo := true }.setCmdflag 2
  else if d.revCmd.cmd = cmdRdLinkSte then
    { d with framesendpara.sendcmd.linkste := true }.setCmdflag 2
  else d.setCmdflag 2

/-- The part of `RevCmdHandle` that copies a record to `dataup`. -/
def revCmdCopy (d : Dev) : Except Dev Dev :=
  if d.revCmd.cmdflag = 1 ∧ d.dataup.state = 0 then
    match d.dataup.write 0 (d.framerevfifo.copy 0 d.revCmd.templen) with
    | some dataup => .ok { d with dataup := dataup.setState 2, revCmd.cmdflag := 2 }
    | none => .error d
  else .ok d

/-- The part of `RevCmdHandle` that removes a record. -/
def revCmdDelete (d : Dev) : Dev :=
  if d.revCmd.cmdflag = 2 then
    { d with
      framerevpara.offset := u16 (d.framerevpara.offset - d.revCmd.templen)
      framerevfifo := d.framerevfifo.deletTail d.revCmd.templen
      revCmd := ⟨0, 0, 0⟩ }
  else d

/-- `RevCmdHandle` -/
def revCmdHandle (d : Dev) : Except Dev Dev :=
  if d.framerevpara.offset ≠ 0 then do
    let d ← revCmdCopy (if d.revCmd.cmd = 0 then revCmdSwitch (revCmdRead d) else d)
    return revCmdDelete d
  else .ok d

end MxchipSpp
