/-
  The state of the device side (devproanaly.c, devproanaly.h).

  `OLD` is defined in the repository; `Build` keeps the code of both
  protocols.  Of a `TimerParaStu` only `state` is kept, and of `framesendtimer`
  whether it is started: starting, reloading and stopping a timer only tells
  the RTOS when to call back, and a callback may come at any time here.  `Hist`
  are history variables, which no function reads: what was accepted, delivered
  and sent so far.
-/
import MxchipSpp.Fifo

namespace MxchipSpp

open Memory

/-! ## Constants -/

/-- The protocol compiled in: `OLD` defined, or not.  The statements
    `framehead[i] = tempbuffer[i++]` of the new protocol leave it to the compiler which `i`
    indexes the target; `incFirst` is its choice. -/
inductive Build where
  | old
  | new (incFirst : Bool)
  deriving DecidableEq

/-- `HEADNUMER` -/
def headNumer : Build → ℕ
  | .old => 4
  | .new _ => 2

abbrev revFifoLen : ℕ := 1024
def frameHeader : Byte := 0xF5
def resendCnt : ℕ := 2

def cmdControl : Byte := 0x01
def cmdSte : Byte := 0x02
def cmdInvalid : Byte := 0x03
def cmdAlarm : Byte := 0x04
def cmdConfirm : Byte := 0x05
def cmdInfoReportCfg : Byte := 0x06
def cmdInfoReport : Byte := 0x07
def cmdStopAlarm : Byte := 0x09
def cmdRdDevId : Byte := 0x10
def cmdRetDevId : Byte := 0x11
def cmdRdDevInfo : Byte := 0x12
def cmdRetDevInfo : Byte := 0x13
def cmdRdEncryPara : Byte := 0x14
def cmdRetEncryPara : Byte := 0x15
def cmdRdLinkSte : Byte := 0x17
def cmdRetLinkSte : Byte := 0x18
def cmdDevRst : Byte := 0x19
def cmdRdDevProfile : Byte := 0x1A
def cmdRetDevProfile : Byte := 0x1B
def cmdRssi : Byte := 0x30
def cmdSetWorkMode : Byte := 0x31
def cmdRetWorkMode : Byte := 0x32
def cmdWrDevProfile : Byte := 0x80
def cmdAckDevProfile : Byte := 0x81
def cmdRdModInfo : Byte := 0x82
def cmdRetModInfo : Byte := 0x83
def cmdUpPack : Byte := 0xA0
def cmdAckUpPack : Byte := 0xA1
def cmdUpAppChk : Byte := 0xA2
def cmdAckUpAppChk : Byte := 0xA3

/-! ## Data -/

/-- `DataInterfaceStu`, packed: `framehead` is bytes 0 and 1, `framectrl` byte 2,
    `framedata.datalen` byte 3, `framedata.data` bytes 4 to 134 and `state` byte 135. -/
structure DataInterfaceStu where
  bytes : Block Byte 136

namespace DataInterfaceStu
variable (s : DataInterfaceStu)

def framectrl : Byte := s.bytes.get 2
def datalen : Byte := s.bytes.get 3
def state : Byte := s.bytes.get 135

/-- `framedata.data[j]` -/
def data (j : Fin 131) : Byte := s.bytes.get ⟨4 + j, by omega⟩

def setState (x : Byte) : DataInterfaceStu := ⟨s.bytes.set 135 x⟩

/-- A write through a pointer to the structure. -/
def write (i : ℕ) (src : List Byte) : Option DataInterfaceStu := (s.bytes.write i src).map .mk

/-- The first `datalen + 4` bytes, which are the frame. -/
def record : List Byte := s.bytes.cells.take (s.datalen.toNat + 4)

/-- `framedata.data[0 .. datalen - 2]`: the frame without its check field. -/
def command : List Byte := (s.bytes.cells.drop 4).take (s.datalen.toNat - 2)

end DataInterfaceStu

/-- The values of `datastate` the receiver uses. -/
inductive RevState where
  | revHead
  | revData
  deriving DecidableEq

/-- `FrameRevParaStu` -/
structure FrameRevPara where
  wordstate : ℕ
  datastate : RevState
  offset : ℕ
  errortype : ℕ
  deriving DecidableEq

/-- `FrameSendCmdStu` -/
structure FrameSendCmd where
  confirm : Bool
  workmode : Bool
  modinfo : Bool
  linkste : Bool
  versions : ℕ

/-- `FrameSendParaStu` -/
structure FrameSendPara where
  resendcnt : ℕ
  sendcmd : FrameSendCmd

/-- The static variables of `RevCmdHandle`. -/
structure RevCmdStatics where
  cmdflag : ℕ
  templen : ℕ
  cmd : Byte

/-- The static variables of `SendData`. -/
structure SendDataStatics where
  i : ℕ
  tempbuf : Block Byte 250

/-- A call of `FrameDataHandle`: the raw bytes pending when it started, and `Datalen` and
    `framerevpara` when it returned. -/
structure FdhCall where
  pending : ℤ
  after : Option (ℕ × FrameRevPara)
  deriving DecidableEq

/-- History variables. -/
structure Hist where
  /-- calls of `FrameDataHandle` -/
  calls : List FdhCall
  /-- records `FifoInput` took -/
  accepted : List (List Byte)
  /-- records passed to `AppHandleCallback` -/
  delivered : List (List Byte)
  /-- commands for which `DataDownWr` returned 1 -/
  taken : List (List Byte)
  /-- commands for which the `SendData(1)` of `DatadownHandle` succeeded -/
  sent : List (List Byte)
  /-- frames given to the UART -/
  uart : List (List Byte)

/-- The global and static variables of devproanaly.c. -/
structure Dev where
  framerevfifo : Fifo revFifoLen
  framerevtimer : Bool
  framesendtimer : Bool
  /-- `framesendtimer` is started, which only the RTOS reads -/
  sendTimerStarted : Bool
  dataup : DataInterfaceStu
  framerevpara : FrameRevPara
  datadown : DataInterfaceStu
  framesendpara : FrameSendPara
  laststate : Block Byte 4
  revCmd : RevCmdStatics
  sendData : SendDataStatics
  hist : Hist

/-- `APIStartTimer(&framesendtimer)` and `APIStopTimer(&framesendtimer)` -/
def Dev.startSendTimer (d : Dev) : Dev := { d with sendTimerStarted := true }
def Dev.stopSendTimer (d : Dev) : Dev := { d with sendTimerStarted := false }

/-- The state after `DevParaInit`: globals start at zero, `datadown` has its frame head. -/
def devParaInit : Dev where
  framerevfifo := .init (.fill _ 0) (by decide) (by decide)
  framerevtimer := false
  framesendtimer := false
  sendTimerStarted := false
  dataup := ⟨.fill _ 0⟩
  framerevpara := ⟨0, .revHead, 0, 0⟩
  datadown := ⟨((Block.fill 136 0).set 0 0xF5).set 1 0xF5⟩
  framesendpara := ⟨0, ⟨false, false, false, false, 0⟩⟩
  laststate := .fill _ 0
  revCmd := ⟨0, 0, 0⟩
  sendData := ⟨0, .fill _ 0⟩
  hist := ⟨[], [], [], [], [], []⟩

end MxchipSpp
