import EspBridges.Ccu.Protocol
import Mathlib.Algebra.Group.Nat.Defs

/-! The variables of the BLE-to-CCU bridge, grouped by the file that defines them. -/

namespace EspBridges.Ccu

open Bytes

/-- The objects the program reads before it has filled them, or past their end. -/
inductive Obj where
  | rxPktBuffer | bleCommand | iDataValue | pTxBuffer | serialTxData | savedMessages
  | iPwd | timestamp | pPasswordCurrent | pPasswordNew | pPassword
  | actLatitude | actLongitude | timeStamp | voiceDataBuffer
  | apName | wifiReport | wifiReportLength | firmwareVersion | serialRxData

/-- Numerals index `rx_pkt_buffer` and `ep_return_message`; the `Zero` is the one they ask for. -/
instance rxPktBufferNeZero : @NeZero Nat Zero.ofOfNat0 500 := ⟨nofun⟩

instance epReturnMessageNeZero : @NeZero Nat Zero.ofOfNat0 20 := ⟨nofun⟩

/-- What crosses the UART: a frame sent, or a packet handed to the message handler. -/
inductive Io where
  | tx (frame : List Byte)
  | rx (ccuMsg : Buf 500) (length : Nat)

inductive AuthStatus where
  | unauthenticated | authenticated
  deriving DecidableEq

structure Mob1 where
  id : Byte
  mobileNumber : Buf 20
  authenticationStatus : AuthStatus
  dataStatus : Byte

structure PersonalNumbers where
  mob1MobileNumber : Buf 20
  secondNumber : Buf 20
  thirdNumber : Buf 20

structure Wifi where
  ssid : Buf 15
  networkKey : Buf 15
  dataStatus : Byte

structure Site where
  fourthPhoneNumber : Buf 20
  fifthPhoneNumber : Buf 20

/-- The members of `struct ccu` that some function reads or writes. -/
structure ThisCcu where
  pairedMob1 : Mob1
  confPersonalNos : PersonalNumbers
  confWifi : Wifi
  visitedLocations : Fin 10 → Site
  visitedLocationsCount : Byte

/-- Statics of `akbi_fsm.c`; `wifi_report[50][50]` is one object of 2500 bytes. -/
structure Fsm where
  btState : CcuFsmStates
  wifiReport : Buf 2500
  wifiReportLength : Fin 50 → Nat
  ssidIndex : Nat
  noOfStoredSsids : Nat

/-- `AKBI_WIFI_SCAN_REPORT`; `ap_name[20][100]` is one object of 2000 bytes. -/
structure WifiScanReport where
  apCount : Nat
  apName : Buf 2000

structure MsgHandler where
  wifiScanReport : WifiScanReport
  postResult : Byte

structure LoginStatics where
  iPwd : Buf 20
  timestamp : Buf 15
  latitude : Buf 15
  longitude : Buf 15

inductive AudioUpload where
  | recordVoice | addressVisiting
  deriving DecidableEq

structure Chunker where
  chunkOffset : Nat
  bufferNumber : Nat
  receivedAudioSize : Nat
  deriving DecidableEq

/-- Statics of the audio functions of `ble_apis.c`; `voice_data_buffer[4][256]` is one
object of 1024 bytes, which both uploads share. -/
structure VoiceStatics where
  recordMessageLength : Nat
  flagSendingVoiceData : Bool
  visitingMessageLength : Nat
  visitingTimeStamp : Buf 15
  chunker : AudioUpload → Chunker
  voiceDataBuffer : Buf 1024

/-- `saved_messages[4][21]` is one object of 84 bytes; `p_recvd_msg_full` is the address
of the message buffer of some call. -/
structure BleApis where
  thisCcu : ThisCcu
  savedMessages : Buf 84
  pRecvdMsgFull : Nat
  flagSetRecvdMsgPtr : Bool
  login : LoginStatics
  voice : VoiceStatics

structure Main where
  epReturnMessage : Buf 20
  advSerNo : Buf 5
  firmwareVersion : Buf 10
  ccuSerialNo : Buf 20
  serviceCreated : Bool

/-- What surrounds the program: the UART traffic so far, the stack memory by address (where
the callers' message buffers live), the memory it does not own, whether an access has
fallen outside its object, and whether `abort` has been called. -/
structure Env where
  io : List Io
  mem : Nat → Buf 30
  wild : Wild Obj
  oob : Bool
  aborting : Bool

structure Globals where
  fsm : Fsm
  ble : BleApis
  handler : MsgHandler
  main : Main
  env : Env

namespace Globals

@[simp] def akbiSetFsmState (q : CcuFsmStates) (g : Globals) : Globals :=
  { g with fsm.btState := q }

@[simp] def setRet (i : Nat) (v : Byte) (g : Globals) : Globals :=
  { g with main.epReturnMessage := g.main.epReturnMessage.put i v }

@[simp] def access (ok : Bool) (g : Globals) : Globals :=
  { g with env.oob := g.env.oob || !ok }

@[simp] def abort (g : Globals) : Globals := { g with env.aborting := true }

end Globals

def Chunker.fresh : Chunker := ⟨0, 0, 0⟩

def Wild.zero : Wild Obj := ⟨fun _ _ => 0, fun _ _ => 0, fun _ => 0⟩

def Globals.boot : Globals where
  fsm := ⟨.init, Buf.zero, fun _ => 0, 0, 0⟩
  ble :=
    { thisCcu := ⟨⟨0, Buf.zero, .unauthenticated, 0⟩, ⟨Buf.zero, Buf.zero, Buf.zero⟩,
        ⟨Buf.zero, Buf.zero, 0⟩, fun _ => ⟨Buf.zero, Buf.zero⟩, 0⟩
      savedMessages := Buf.zero
      pRecvdMsgFull := 0
      flagSetRecvdMsgPtr := false
      login := ⟨Buf.zero, Buf.zero, Buf.zero, Buf.zero⟩
      voice := ⟨0, false, 0, Buf.zero, fun _ => .fresh, Buf.zero⟩ }
  handler := ⟨⟨0, Buf.zero⟩, 0⟩
  main := ⟨Buf.zero, Buf.zero, Buf.zero, Buf.zero, false⟩
  env := ⟨[], fun _ => Buf.zero, Wild.zero, false, false⟩

end EspBridges.Ccu
