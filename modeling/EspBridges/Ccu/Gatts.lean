import EspBridges.Ccu.BleApis
import EspBridges.Ccu.MsgHandler
import EspBridges.Ccu.SerialTask

/-! `main.c`: the GATT and GAP events, and the bridge as one machine whose steps are these
events, the bytes the UART delivers and the expiries of the serial timer. -/

namespace EspBridges.Ccu

open Bytes

/-- One pass of `ESP_GATTS_REG_EVT`: a turn of the loop that waits for `CCU_READY`, or what
follows the loop. -/
def gattsRegEvt (g : Globals) : Globals :=
  if g.main.epReturnMessage 0 = 0 then (akbiCheckFsmStateAndRespond g).2
  else
    { g with
      main.advSerNo := (Buf.zero : Buf 5).memcpy 0
        (fun i => g.main.ccuSerialNo.rd (fun _ => 0) (5 + i)) advSerNoSize
      main.serviceCreated := true }

/-- The reply the phone receives is `epReturnMessage` as this leaves it. -/
def gattsReadEvt (g : Globals) : Globals :=
  let (ret, g) := akbiCheckFsmStateAndRespond g
  if ret ≠ 0 then g.setRet bleRetMsgRcOffset returnMsgNotReady else g

def rxPktBuffer (value : List Byte) : Buf 30 :=
  Buf.zero.memcpy 0 (fun i => value.getD i 0) value.length

/-- `frame` is the address of the handler's `rx_pkt_buffer[30]`. -/
def gattsWriteEvt (isPrep : Bool) (frame : Nat) (value : List Byte) (g : Globals) : Globals :=
  if isPrep then g
  else
    readBleMessage frame
      { g with
        main.epReturnMessage := Buf.zero
        env.mem := fun a => if a = frame then rxPktBuffer value else g.env.mem a
        env.oob := g.env.oob || !decide (value.length ≤ 30) }

structure Bridge where
  serial : SerialTask
  glob : Globals

def Bridge.boot : Bridge := ⟨.boot, .boot⟩

inductive Action where
  | regEvt
  | advDataSet
  | updateConnParams
  | gattRead
  | gattWrite (isPrep : Bool) (frame : Nat) (value : List Byte)
  | gattDisconnect
  | byteReceived (dataByte : Byte)
  | timerExpiry

/-- An event, and the memory around the program as the event finds it: the stack outside
the message buffer in use, and what lies beside the program's objects. -/
structure Event where
  action : Action
  mem : Nat → Buf 30
  wild : Wild Obj

def processRx : Handler Globals := fun ccuMsg length g =>
  akbiProcessRxSerialData ccuMsg length
    { g with env.io := g.env.io ++ [.rx ccuMsg length] }

/-- GATT events come once the service exists.  After `abort` the serial timer's task is
gone, while the Bluetooth task may still be served until the restart. -/
def Action.enabled (b : Bridge) : Action → Bool
  | .regEvt => !b.glob.main.serviceCreated
  | .advDataSet | .updateConnParams | .gattRead | .gattWrite .. | .gattDisconnect =>
    b.glob.main.serviceCreated
  | .byteReceived _ => !b.glob.env.aborting
  | .timerExpiry => b.serial.oneshotTimer.armed && !b.glob.env.aborting

def Bridge.perform (b : Bridge) : Action → Bridge
  | .regEvt => { b with glob := gattsRegEvt b.glob }
  | .advDataSet => { b with glob := b.glob.transmit ccuSentAdvStartedMsg }
  | .updateConnParams => { b with glob := b.glob.transmit ccuSentMobConnectedMsg }
  | .gattRead => { b with glob := gattsReadEvt b.glob }
  | .gattWrite isPrep frame value => { b with glob := gattsWriteEvt isPrep frame value b.glob }
  | .gattDisconnect => { b with glob := b.glob.transmit ccuSentMobDisconnectedMsg }
  | .byteReceived dataByte => { b with serial := checkAndUartData dataByte b.serial }
  | .timerExpiry =>
    let t := { b.serial with oneshotTimer := { b.serial.oneshotTimer with armed := false } }
    let (serial, glob) := oneshotTimerCallback processRx t b.glob
    ⟨serial, glob⟩

def Bridge.at (b : Bridge) (e : Event) : Bridge :=
  { b with glob := { b.glob with env.mem := e.mem, env.wild := e.wild } }

def step (b : Bridge) (e : Event) : Option Bridge :=
  if e.action.enabled b then some ((b.at e).perform e.action) else none

abbrev Reachable : Bridge → Prop := Machine.Reachable step .boot

end EspBridges.Ccu
