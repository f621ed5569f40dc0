/-
  The gateway side (mico_tcl_ota.c): the UDP server and the handlers of its
  messages, the update of the module, the heartbeat, and the reports of the
  device.

  The repository's settings are `BIG_LITTLE` and `BASE64_ALL` on,
  `EN_BASE64_TO_F5F5`, `TCL_WATER_CONDITION` and `ADD_FRAME_TYPE` off.  The
  state is that of the running server thread: the socket is open and `p_base`
  points to the receive buffer of 1024 bytes.  A function that can access
  memory out of bounds, or through `NULL`, returns `Option`.
-/
import MxchipSpp.Geniot
import MxchipSpp.Lib.Stuffing
import MxchipSpp.Receiver

namespace MxchipSpp

open Memory Endian

/-! ## The platform -/

/-- What the MICO platform provides to an update: the flash partition it is stored in, MD5, and what
    follows its end. -/
structure Platform where
  Flash : Type
  /-- the byte at an address of `MICO_PARTITION_OTA_TEMP` -/
  byte : Flash → ℕ → Byte
  /-- `MicoFlashWrite` -/
  flashWrite : Flash → ℕ → List Byte → Flash
  /-- `MicoFlashRead`: the bytes read and the address it leaves -/
  flashRead : Flash → ℕ → ℕ → List Byte × ℕ
  /-- the flash before the update -/
  flash : Flash
  /-- `partition_start_addr` -/
  startAddress : BitVec 32
  /-- `md5_context` -/
  Md5 : Type
  initMd5 : Md5
  md5Update : Md5 → List Byte → Md5
  md5Final : Md5 → List Byte
  /-- `mico_ota_finished` restarts the module, by its first argument -/
  otaFinishedRestarts : ℤ → Bool

/-- A platform to run on: the flash is a function, the digest is the last 16 bytes fed, and the module
    restarts into an image that is accepted. -/
def Platform.sample : Platform where
  Flash := ℕ → Byte
  byte := id
  flashWrite flash addr data := fun i => if i < addr then flash i else data.getD (i - addr) (flash i)
  flashRead flash addr n := ((List.range n).map fun i => flash (addr + i), addr + n)
  flash := fun _ => 0xFF
  startAddress := 0x100000
  Md5 := List Byte
  initMd5 := []
  md5Update fed data := fed ++ data
  md5Final fed := fed.drop (fed.length - 16)
  otaFinishedRestarts status := status = 0

/-! ## State -/

/-- `struct sockaddr_t` -/
structure SockAddr where
  s_ip : BitVec 32
  s_port : BitVec 16

/-- `ROUT_UDP_PORT` -/
def routUdpPort : BitVec 16 := 8671

/-- A string in an array of `IDLENGTH` bytes. -/
structure DeviceId where
  block : Block Byte 36
  nul : 0 ∈ block.cells

/-- The fields of `USER_CONFIG` that are used. -/
structure UserConfig where
  sn : BitVec 32
  loc_sn : BitVec 32
  deviceid : DeviceId
  deviceNetid : BitVec 32
  gatewayNetid : BitVec 32
  dnetid : BitVec 32
  snetid : BitVec 32
  flag : Bool
  addr : SockAddr

/-- The fields of `G_USER_UART_STATUS` that are used. -/
structure UserUartStats where
  flag : Bool
  status : BitVec 16

/-- `boot_table_t` -/
structure BootTable where
  startAddress : BitVec 32
  length : BitVec 32
  type : Byte
  upgradeType : Byte
  crc : BitVec 16

/-- The variables of an update, the flash, and the boot tables written. -/
structure Ota (P : Platform) where
  codeType : BitVec 32
  codeVer : BitVec 32
  upgradeFlag : Bool
  upcodenumber : BitVec 32
  recvsize : BitVec 32
  otaaddr : SockAddr
  flash : P.Flash
  bootTables : List BootTable

/-- The steps of the module: those of the device side, a datagram received (with the answer of
    `malloc`, if it is asked), `select` returning without one, and two callbacks of the RTOS. -/
inductive Event where
  | dev (ev : DevEvent)
  | udp (addr : SockAddr) (datagram : List Byte) (malloc : Bool)
  | selectTimeout
  | dataUploadTimer
  | checkDevice

/-- A call of `sendto`: the step it was made in, the message, the bytes sent for it, and their
    destination. -/
structure Sent where
  cause : Event
  message : List Byte
  bytes : List Byte
  addr : SockAddr

/-- The state of the module, with the history of `sendto` and the step being made. -/
structure World (P : Platform) where
  dev : Dev
  userconfig : UserConfig
  uartStats : UserUartStats
  mySendBufLast : Block Byte 72
  ota : Ota P
  /-- the platform was asked to restart the module, and will -/
  restarting : Bool
  cause : Event
  sent : List Sent

/-- The state in which the server thread starts its loop: globals are zero but for the identifier
    `init_device_id` found. -/
def World.init (P : Platform) (deviceid : DeviceId) : World P where
  dev := devParaInit
  userconfig := ⟨0, 0, deviceid, 0, 0, 0, 0, false, ⟨0, 0⟩⟩
  uartStats := ⟨false, 0⟩
  mySendBufLast := .fill _ 0
  ota := ⟨0, 0, false, 0, 0, ⟨0, 0⟩, P.flash, []⟩
  restarting := false
  cause := .checkDevice
  sent := []

variable {P : Platform}

/-! ## Sending -/

/-- `sendto` -/
def World.sendto (w : World P) (message bytes : List Byte) (addr : SockAddr) : World P :=
  { w with sent := w.sent ++ [⟨w.cause, message, bytes, addr⟩] }

/-- `mySend`, which puts the frame together in the 1024 bytes at `p_base`. -/
def mySend (w : World P) (dt : List Byte) (addr : SockAddr) : Option (World P) :=
  if (base64Frame dt).length ≤ 1024 then some (w.sendto dt (base64Frame dt) addr) else none

/-- `mySend_uart`, which has 256 bytes for it. -/
def mySendUart (w : World P) (dt : List Byte) (addr : SockAddr) : Option (World P) :=
  if (base64Frame dt).length ≤ 256 then some (w.sendto dt (base64Frame dt) addr) else none

/-! ## Headers of answers -/

def typeLink : BitVec 16 := 0x2000
def linkBundingAck : BitVec 16 := 0x200D
def manageBroadcastAck : BitVec 16 := 0x200C
def defineDiscoveryAnswer : BitVec 16 := 0x1002
def manageDeleteAck : BitVec 16 := 0x2006
def linkInformationAck : BitVec 16 := 0x200B
def linkAck : BitVec 16 := 0x20FF
def linkQuestion : BitVec 16 := 0x2011
def alamData : BitVec 16 := 0x4001
def reportData : BitVec 16 := 0x5001

def softwareVersionL : BitVec 32 := 0x20160108
def softwareVersionH : BitVec 32 := 0
def softwareVer : BitVec 32 := 0x1601230A
def harewareVer : BitVec 32 := 0x1601230A
def messageDataGood : BitVec 32 := 0xA001

/-- The decode buffer: 1024 bytes. -/
abbrev Buf := Packet 1004

/-- `set_udp_data_0X_int(buf, HEAD_CMD, cmd)` -/
def IotHead.setCmd (h : IotHead) (cmd : BitVec 16) : IotHead := { h with cmd := htons cmd }

/-- `set_udp_data_0X_int(buf, HEAD_LEN, len)` -/
def IotHead.setLen (h : IotHead) (len : BitVec 16) : IotHead := { h with len := htons len }

/-- `head_log_printf`: it turns three fields of the header to the order of the device, and does so
    for the 32 bits of `sn` with `ntohs`. -/
def headLogPrintf (h : IotHead) : IotHead :=
  { h with
    cmd := htons h.cmd
    len := htons h.len
    sn := (htons (h.sn.setWidth 16)).setWidth 32 }

/-- `0 == strcmp(s, t)`, on the memories from the strings on. -/
def strcmpEq : List Byte → List Byte → Option Bool
  | x :: s, y :: t => if x ≠ y then some false else if x = 0 then some true else strcmpEq s t
  | _, _ => none

/-! ## Binding -/

/-- `tcl_manage_registered` -/
def tclManageRegistered (w : World P) (buf : Buf) (paddr : SockAddr) : Option (World P × Bool) := do
  let w := { w with userconfig.addr := paddr }
  let eq ← strcmpEq buf.body.cells w.userconfig.deviceid.block.cells
  if eq ∧ w.userconfig.flag = false then
    let deviceNetid := get32 buf.body.cells 36
    let gatewayNetid := get32 buf.body.cells 40
    return ({ w with
      userconfig.flag := true
      userconfig.deviceNetid := deviceNetid
      userconfig.gatewayNetid := gatewayNetid
      userconfig.snetid := deviceNetid
      userconfig.dnetid := gatewayNetid }, true)
  else
    return (w, false)

/-- `tcl_manage_registered_ack` -/
def tclManageRegisteredAck (w : World P) (buf : Buf) (paddr : SockAddr) : Option (World P) := do
  let buf := { buf with head := (swapSourceDest (buf.head.setLen 44)).setCmd linkBundingAck }
  let buf ← buf.write 0 w.userconfig.deviceid.block.cells
  let buf ← buf.write 36 (le32 w.userconfig.deviceNetid ++ le32 w.userconfig.gatewayNetid)
  mySend w (← buf.message 44) paddr

/-! ## Search -/

/-- `tcl_manage_broadcast_ack`, which leaves the length in the order of the device. -/
def tclManageBroadcastAck (w : World P) (buf : Buf) (paddr : SockAddr) : Option (World P) := do
  let head := (swapSourceDest { buf.head with len := 124 }).setCmd manageBroadcastAck
  let buf ← { buf with head := head }.write 0 (List.replicate 124 0)
  mySend w (← buf.message 124) paddr

/-- `DEVICE_NAME` -/
def deviceName : List Byte := "TCL_F300".toList.map fun c => BitVec.ofNat 8 c.toNat

/-- `tcl_discovery_device_ack` -/
def tclDiscoveryDeviceAck (w : World P) (buf : Buf) (paddr : SockAddr) : Option (World P) := do
  let head := (swapSourceDest (buf.head.setLen 124)).setCmd defineDiscoveryAnswer
  let buf ← { buf with head := head }.write 0 (List.replicate 124 0)
  let buf ← buf.write 44 (le32 softwareVersionH ++ le32 softwareVersionL)
  let buf ← buf.write 52 (le32 softwareVersionH ++ le32 softwareVersionL)
  let buf ← buf.write 60 (deviceName ++ [0])
  let buf ← buf.write 0 w.userconfig.deviceid.block.cells
  mySend w (← buf.message 124) paddr

/-! ## Deletion -/

/-- `tcl_manage_delete` -/
def tclManageDelete (w : World P) (buf : Buf) : Option Bool :=
  strcmpEq buf.body.cells w.userconfig.deviceid.block.cells

/-- `tcl_manage_delete_ack` -/
def tclManageDeleteAck (w : World P) (buf : Buf) (paddr : SockAddr) : Option (World P) := do
  let head := (swapSourceDest (buf.head.setLen 44)).setCmd manageDeleteAck
  let buf ← { buf with head := head }.write 0 (List.replicate 44 0)
  let buf ← buf.write 0 w.userconfig.deviceid.block.cells
  let buf ← buf.write 36 (le32 w.userconfig.deviceNetid)
  mySend w (← buf.message 44) paddr

/-- `clear_gateinfo` -/
def clearGateinfo (w : World P) : World P := { w with userconfig.flag := false }

/-! ## Other answers -/

/-- `tcl_modle_link_ack` -/
def tclModleLinkAck (w : World P) (buf : Buf) (paddr : SockAddr) : Option (World P) := do
  let head := ((swapSourceDest buf.head).setCmd linkAck).setLen 8
  let buf ← { buf with head := head }.write 0 (le32 (htonl messageDataGood) ++ le32 0)
  mySend w (← buf.message 8) paddr

/-- `tcl_wifi_reset`: `PlatformEasyLinkButtonClickedCallback` goes to the configuration by one key and
    restarts the module. -/
def tclWifiReset (w : World P) : World P := { w with restarting := true }

/-- `tcl_manage_read_ack` -/
def tclManageReadAck (w : World P) (buf : Buf) (paddr : SockAddr) : Option (World P) := do
  let head := ((swapSourceDest buf.head).setCmd linkInformationAck).setLen 14
  let buf ← { buf with head := head }.write 0 [0x01, 0x01]
  let buf ← buf.write 2 (le32 (htonl softwareVer) ++ le32 (htonl harewareVer) ++ [0, 0, 0, 0])
  mySend w (← buf.message 14) paddr

/-! ## Commands for the device -/

/-- `TYPEID` -/
def typeid : BitVec 16 := 0x0D

/-- `tcl_data_tpyeid_ack`, up to the copy of `sizeof(deviceid) + 1` bytes out of an array of 31. -/
def tclDataTpyeidAck (w : World P) : Option (World P) := do
  let uart_send ← (Block.fill 31 (0 : Byte)).write 0 [0x0D]
  let deviceid := w.userconfig.deviceid.block.cells.takeWhile (· ≠ 0) ++ [0]
  let uart_send ← uart_send.write 1 deviceid
  let dt ← uart_send.slice 0 37
  mySend w dt { w.userconfig.addr with s_port := routUdpPort }

/-- `tcl_data_push` -/
def tclDataPush (w : World P) (buf : Buf) : Option (World P) := do
  let src ← buf.body.slice 0 buf.head.len.toNat
  let uart_data ← (Block.fill 64 (0 : Byte)).write 5 src
  let uart_data := uart_data.set 4 0x01
  -- the length of the command is passed as a `u8`
  let data ← uart_data.slice 4 (u8 (buf.head.len.toNat + 1))
  return { w with dev := (dataDownWr w.dev data).1, uartStats.flag := true }

/-- One bit of the inner loop of `crc_calculate`. -/
def crcCalculateBit (crc : BitVec 16) : BitVec 16 :=
  if crc &&& 0x01 ≠ 0 then (crc >>> 1) ^^^ 0x8408 else crc >>> 1

/-- `crc_calculate` -/
def crcCalculate (data : List Byte) : BitVec 16 :=
  ~~~(data.foldl (fun crc x =>
    (List.range 8).foldl (fun crc _ => crcCalculateBit crc) (crc ^^^ x.setWidth 16)) 0xFFFF)

/-- One turn of the loop of `add_f5_55`, on `temp` and `j`. -/
def addByte (temp : Block Byte 128 × ℕ) (x : Byte) : Option (Block Byte 128 × ℕ) := do
  let t ← temp.1.write temp.2 [x]
  if x = frameHeader then
    let t ← t.write (temp.2 + 1) [0x55]
    return (t, temp.2 + 2)
  else
    return (t, temp.2 + 1)

/-- `add_f5_55`, on a buffer of `n` bytes. -/
def addF555 {n : ℕ} (date : Block Byte n) (len : ℕ) : Option (Block Byte n × ℕ) := do
  let temp ← (Block.fill 128 (0 : Byte)).write 0 (← date.slice 0 4)
  let (temp, j) ← (← date.slice 4 (len - 4)).foldlM addByte (temp, 4)
  let date ← date.write 0 (← temp.slice 0 j)
  return (date, j)

/-- `app_to_device`; the frame it gives to the UART. -/
def appToDevice {n : ℕ} (type : Byte) (date : Block Byte n) (len : Byte) : Option (List Byte) := do
  let buf ← date.write 0 [0xF5, 0xF5, 0x00, len + 3, type]
  let (buf, temp_len) ← addF555 buf ((len + 3).toNat + 2)
  let crc := crcCalculate (← buf.slice 0 temp_len)
  let buf ← buf.write temp_len [crc.extractLsb' 8 8]
  let buf ← buf.write (temp_len + 1) [crc.extractLsb' 0 8]
  buf.slice 0 (temp_len + 2)

/-- `FRAME_STOP_WARN` -/
def frameStopWarn : Byte := 0x09

/-- `tcl_alam_stop` -/
def tclAlamStop (w : World P) (buf : Buf) : Option (World P) := do
  let src ← buf.body.slice 0 buf.head.len.toNat
  let uart_data ← (Block.fill 64 (0 : Byte)).write 5 src
  let frame ← appToDevice frameStopWarn uart_data (buf.head.len.setWidth 8)
  return { w with
    dev := { w.dev with hist.uart := w.dev.hist.uart ++ [frame] }
    uartStats.flag := true }

/-! ## The update -/

/-- The loop of `ota_end`, which reads `left` bytes of the flash in pieces of 512. -/
def md5Loop (flash : P.Flash) (left flashaddr : ℕ) (ctx : P.Md5) : P.Md5 :=
  if 0 < left then
    let len := min left 512
    let (tmpbuf, flashaddr) := P.flashRead flash flashaddr len
    md5Loop flash (left - len) flashaddr (P.md5Update ctx tmpbuf)
  else ctx
termination_by left

/-- `mico_ota_finished`, of the platform: it may restart the module, and has no other effect on the
    variables here. -/
def micoOtaFinished (w : World P) (status : ℤ) : World P :=
  { w with restarting := w.restarting || P.otaFinishedRestarts status }

/-- `ota_end`, which does nothing if `malloc` fails. -/
def otaEnd (malloc : Bool) (w : World P) : World P :=
  let filelen := w.ota.recvsize - 16
  let md5_recv := (P.flashRead w.ota.flash filelen.toNat 16).1
  let md5_calc := P.md5Final (md5Loop w.ota.flash filelen.toInt.toNat 0 P.initMd5)
  if malloc = false then w
  else if md5_calc ≠ md5_recv then micoOtaFinished w (-3)
  else
    micoOtaFinished { w with ota.bootTables := w.ota.bootTables ++
      [⟨P.startAddress, filelen, BitVec.ofNat 8 'A'.toNat, BitVec.ofNat 8 'U'.toNat, 0⟩] } 0

/-- The answer `LINK_UPGRADE_ACK` to the packet `codenumber`; every byte of the message is set. -/
def upgradeAck (n : ℕ) (codenumber codeType codeVer : BitVec 32) : Option (List Byte) :=
  let (ack, fsize) := iotSetOtaAck (.zero n) codenumber codeType codeVer
  let ack := iotSetHeadCmd ack 0 linkUpgradeAck (BitVec.ofNat 16 fsize)
  (iotSetHead ack 0 0 0).message fsize

/-- The first packet of an update. -/
def otaStart (w : World P) (codenumber : BitVec 32) (fota : IotFota) : World P :=
  if codenumber = 0 ∧ w.ota.upgradeFlag = false then
    { w with
      ota.recvsize := 0
      ota.upgradeFlag := true
      ota.codeType := htonl fota.codeType
      ota.codeVer := htonl fota.codeVer }
  else w

/-- The data of a packet, stored. -/
def otaStore (w : World P) (data : List Byte) : World P :=
  { w with
    ota.flash := P.flashWrite w.ota.flash w.ota.recvsize.toNat data
    ota.upcodenumber := w.ota.upcodenumber + 1
    ota.recvsize := w.ota.recvsize + BitVec.ofNat 32 data.length }

/-- The end of the update, after its last packet. -/
def otaFinish (malloc : Bool) (w : World P) (codenumber totalnumber : BitVec 32) : World P :=
  if codenumber = totalnumber - 1 ∧ w.ota.upgradeFlag = true ∧ 1024 < w.ota.recvsize.toInt then
    otaEnd malloc w
  else w

/-- The part of `tcl_ota_data` for the packet that is due. -/
def otaAccept (malloc : Bool) (w : World P) (fota : IotFota) (data : List Byte) :
    Option (World P) := do
  let codenumber := htonl fota.codeNumber
  let w := otaStore (otaStart w codenumber fota) data
  let ack ← upgradeAck 236 codenumber w.ota.codeType w.ota.codeVer
  let w ← mySend w ack w.ota.otaaddr
  return otaFinish malloc w codenumber (htonl fota.codeTotal)

/-- The data of a packet; a negative length leaves the buffer. -/
def otaPayload (buf : Buf) (datalen : ℤ) : Option (List Byte) :=
  if 0 ≤ datalen then buf.body.slice sizeofIotFota datalen.toNat else none

def World.setOtaaddr (w : World P) (addr : SockAddr) : World P := { w with ota.otaaddr := addr }

/-- `tcl_ota_data` -/
def tclOtaData (malloc : Bool) (w : World P) (buf : Buf) (len : ℕ) (paddr : SockAddr) :
    Option (World P) :=
  match iotGetOtaData buf len with
  | none => some w
  | some (fota, datalen) =>
    if htonl fota.codeNumber ≠ w.ota.upcodenumber then some (w.setOtaaddr paddr)
    else (otaPayload buf datalen).bind (otaAccept malloc (w.setOtaaddr paddr) fota)

/-! ## Messages of the module itself -/

/-- `tcl_manage_link_question`, which has its own version of `mySend`. -/
def tclManageLinkQuestion (w : World P) (paddr : SockAddr) : Option (World P) := do
  let w := { w with userconfig.loc_sn := w.userconfig.loc_sn + 1 }
  let buf ← (Packet.zero 12).write 0 (le32 (htonl softwareVer) ++ le32 0 ++ le32 0)
  let buf := { buf with head := { buf.head with
    sn := htonl w.userconfig.loc_sn
    informationType := htons typeLink
    cmd := htons linkQuestion
    len := htons 12
    snetid := w.userconfig.snetid
    dnetid := w.userconfig.dnetid } }
  let dt ← buf.message 12
  let base64 := caret :: iotBase64encode dt
  let base64_len := (iotBase64encode dt).length
  return w.sendto dt ((base64.set base64_len amp).take (base64_len + 1))
    { paddr with s_port := routUdpPort }

/-- `data_upload_timer`, called by the RTOS. -/
def dataUploadTimer (w : World P) : Option (World P) :=
  if w.userconfig.flag then tclManageLinkQuestion w w.userconfig.addr else some w

/-- `check_device`, called by the RTOS. -/
def checkDevice (w : World P) : World P := { w with uartStats.flag := true }

/-- `FRAME_WARN` -/
def frameWarn : Byte := 0x04

/-- The length of the data `tcl_data_upload` takes out of `g_mySendBuf_last`. -/
def uploadLen (w : World P) : ℤ := (w.mySendBufLast.get 3).toNat - 2 - 1

/-- The data; a negative length leaves the buffer. -/
def uploadData (w : World P) : Option (List Byte) :=
  if 0 ≤ uploadLen w then w.mySendBufLast.slice 5 (uploadLen w).toNat else none

/-- The header of a report or an alarm. -/
def uploadHead (w : World P) : IotHead where
  ctrl := 0
  informationType := 0
  dnetid := w.userconfig.dnetid
  snetid := w.userconfig.snetid
  sn := w.userconfig.sn
  cmd := if w.mySendBufLast.get 4 = frameWarn then htons alamData else htons reportData
  len := htons (BitVec.ofInt 16 (uploadLen w))

/-- The part of `tcl_data_upload` that sends the data. -/
def uploadSend (w : World P) : Option (World P) := do
  let buf ← (Packet.zero 492).write 0 (← uploadData w)
  let dt ← { buf with head := uploadHead w }.message (uploadLen w).toNat
  let w := { w with userconfig.addr.s_port := routUdpPort, uartStats.flag := false }
  mySendUart w dt w.userconfig.addr

def World.countSn (w : World P) : World P := { w with userconfig.sn := w.userconfig.sn + 1 }

/-- `tcl_data_upload`, on a buffer of 512 zeros and with `g_userconfig.addr` as its address. -/
def tclDataUpload (w : World P) : Option (World P) :=
  if w.userconfig.flag = false then some w.countSn else (uploadSend w).map World.countSn

/-- `AppHandleCallback` -/
def appHandleCallback (w : World P) (data : List Byte) : Option (World P) := do
  let last := w.mySendBufLast.set 3 (BitVec.ofNat 8 (data.length + 2))
  tclDataUpload { w with mySendBufLast := ← last.write 4 data }

/-! ## The server -/

def manageUpgradeCode : BitVec 16 := 0x2007
def dataData : BitVec 16 := 0x3001
def manageBroadcast : BitVec 16 := 0x200B
def defineDiscoveryQuestion : BitVec 16 := 0x1001
def linkOrderBunding : BitVec 16 := 0x200C
def manageModelReboot : BitVec 16 := 0x2009
def manageDelete : BitVec 16 := 0x2005
def linkReadInformation : BitVec 16 := 0x200A
def alamStop : BitVec 16 := 0x4002

/-- The `switch` of `iotProcess`. -/
def iotSwitch (malloc : Bool) (w : World P) (buf : Buf) (len : ℕ) (paddr : SockAddr) :
    Option (World P) :=
  let cmd := buf.head.cmd
  if cmd = manageUpgradeCode then tclOtaData malloc w buf len paddr
  else if cmd = dataData then do
    let w ← tclDataPush w buf
    let w ← tclModleLinkAck w buf paddr
    if w.uartStats.flag = true ∧ w.uartStats.status = typeid then tclDataTpyeidAck w else return w
  else if cmd = manageBroadcast then tclManageBroadcastAck w buf paddr
  else if cmd = defineDiscoveryQuestion then tclDiscoveryDeviceAck w buf paddr
  else if cmd = linkOrderBunding then do
    let (w, ok) ← tclManageRegistered w buf paddr
    if ok then tclManageRegisteredAck w buf paddr else return w
  else if cmd = manageModelReboot then do
    let w ← tclModleLinkAck w buf paddr
    return tclWifiReset w
  else if cmd = manageDelete then do
    if ← tclManageDelete w buf then
      let w ← tclManageDeleteAck w buf paddr
      return clearGateinfo w
    else
      return w
  else if cmd = linkReadInformation then tclManageReadAck w buf paddr
  else if cmd = alamStop then tclAlamStop w buf
  else some w

/-- `iotProcess`, on a message of `len` bytes in the decode buffer.  `iotGetHead` answers a shorter
    one than a header with `NULL`, which the `switch` reads through. -/
def iotProcess (malloc : Bool) (w : World P) (buf : Buf) (len : ℕ) (paddr : SockAddr) :
    Option (World P) :=
  if len < sizeofIotHead then none
  else iotSwitch malloc w { buf with head := headLogPrintf buf.head } len paddr

/-- The decode buffer with a message in it, which is shorter than 1024 bytes. -/
def Buf.ofMessage (msg : List Byte) : Option Buf :=
  ((Block.fill 1024 (0 : Byte)).write 0 msg).map fun b =>
    ⟨.ofBytes (b.cells.take 20), ⟨b.cells.drop 20, by simp⟩⟩

/-- A message, processed in the decode buffer. -/
def receive (malloc : Bool) (w : World P) (msg : List Byte) (paddr : SockAddr) :
    Option (World P) := do
  iotProcess malloc w (← Buf.ofMessage msg) msg.length paddr

/-- The message of a datagram of at most 1024 bytes that starts with `'^'`. -/
def decodeDatagram (datagram : List Byte) : Option (List Byte) := do
  let buffer ← (Block.fill 1024 (0 : Byte)).write 0 (datagram.set (datagram.length - 1) 0)
  iotBase64decodeStr (buffer.cells.drop 1)

/-- What `localUdpServer_thread` does with a datagram; `recvfrom` takes at most 1024 bytes. -/
def udpReceive (malloc : Bool) (w : World P) (datagram : List Byte) (addr : SockAddr) :
    Option (World P) :=
  if (datagram.take 1024).head? = some caret then do
    receive malloc w (← decodeDatagram (datagram.take 1024)) addr
  else some w

/-- What `localUdpServer_thread` does when `select` returns without a datagram. -/
def selectTimeout (w : World P) : Option (World P) :=
  if 0 < w.ota.upcodenumber.toInt then do
    let ack ← upgradeAck 1004 (w.ota.upcodenumber - 1) w.ota.codeType w.ota.codeVer
    mySend w ack w.ota.otaaddr
  else some w

/-! ## Runs -/

/-- The steps that start with a record passed to `AppHandleCallback`. -/
def DevEvent.delivers : DevEvent → Bool
  | .dataupHandle | .frameHandle _ _ => true
  | _ => false

/-- `framedata.data[0 .. datalen - 2]` of `dataup`; the length is passed as a `u8`. -/
def dataupData (d : Dev) : Option (List Byte) :=
  let datalen := u8 (d.dataup.datalen.toNat - 2)
  if datalen ≤ 131 then d.dataup.bytes.slice 4 datalen else none

/-- The call of `AppHandleCallback` in such a step. -/
def deliver (w : World P) (ev : DevEvent) : Option (World P) :=
  if ev.delivers ∧ w.dev.dataup.state = 2 then (dataupData w.dev).bind (appHandleCallback w)
  else some w

/-- A step of the device side, in the active build. -/
def devStep (w : World P) (ev : DevEvent) : Option (World P) := do
  let w ← deliver w ev
  let dev ← (step .old w.dev ev).toOption
  return { w with dev }

def World.handle (w : World P) : Event → Option (World P)
  | .dev ev => devStep w ev
  | .udp addr datagram malloc => udpReceive malloc w datagram addr
  | .selectTimeout => selectTimeout w
  | .dataUploadTimer => dataUploadTimer w
  | .checkDevice => some (checkDevice w)

/-- One step of the module; `none` is an access out of bounds. -/
def World.step (w : World P) (ev : Event) : Option (World P) := World.handle { w with cause := ev } ev

/-- A run, which lasts until the module restarts. -/
def World.run (w : World P) (evs : List Event) : Option (World P) := evs.foldlM World.step w

end MxchipSpp
