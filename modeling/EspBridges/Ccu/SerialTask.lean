import EspBridges.Lib.Machine
import EspBridges.Lib.Bytes

/-! `akbi_serial_task.c`: the receiver, which takes 100 ms without a byte for the end of a
packet.  The packet handler and the variables it works on are parameters. -/

namespace EspBridges.Ccu

open Bytes

structure EspTimer where
  armed : Bool
  failed : Bool
  deriving DecidableEq

def EspTimer.startOnce (t : EspTimer) : EspTimer :=
  if t.armed then { t with failed := true } else { t with armed := true }

def EspTimer.stop (t : EspTimer) : EspTimer :=
  if t.armed then { t with armed := false } else { t with failed := true }

structure SerialTask where
  serialRxData : Buf 500
  serialDataBytes : Nat
  serialTimerState : Int
  oneshotTimer : EspTimer
  oob : Bool

def SerialTask.boot : SerialTask := ⟨Buf.zero, 0, -1, ⟨false, false⟩, false⟩

/-- What `read` makes of a byte on the line: the build sets
`CONFIG_NEWLIB_STDIN_LINE_ENDING_CR`, so a carriage return is read as a line feed. -/
def uartRead (b : Byte) : Byte := if b = 0x0D then 0x0A else b

def serialPortTimerStart (t : SerialTask) : SerialTask :=
  { t with oneshotTimer := t.oneshotTimer.startOnce, serialTimerState := 1 }

def serialPortTimerStop (t : SerialTask) : SerialTask :=
  { t with oneshotTimer := t.oneshotTimer.stop }

def storeByte (dataByte : Byte) (t : SerialTask) : SerialTask :=
  { t with
    serialRxData := t.serialRxData.put t.serialDataBytes dataByte
    serialDataBytes := t.serialDataBytes + 1
    oob := t.oob || !decide (t.serialDataBytes < 500) }

def checkAndUartData (dataByte : Byte) (t : SerialTask) : SerialTask :=
  if t.serialTimerState ≠ 1 then
    { serialPortTimerStart (storeByte dataByte t) with serialTimerState := 1 }
  else
    serialPortTimerStart (storeByte dataByte (serialPortTimerStop t))

abbrev Handler (σ : Type) := Buf 500 → Nat → σ → σ × Buf 500

/-- The buffer as the callback hands it over, with `serial_rx_data[++serial_data_bytes] = 0`. -/
def SerialTask.packet (t : SerialTask) : Buf 500 := t.serialRxData.put (t.serialDataBytes + 1) 0

/-- When the handler calls `abort` the callback does not return; what is below the call is
then never seen, as the receiver takes no further event. -/
def oneshotTimerCallback (process : Handler σ) (t : SerialTask) (x : σ) : SerialTask × σ :=
  let (x, serialRxData) := process t.packet t.serialDataBytes x
  ({ t with
      serialRxData := serialRxData
      serialDataBytes := 0
      serialTimerState := -1
      oob := t.oob || !decide (t.serialDataBytes + 1 < 500) }, x)

inductive SerialEvent where
  | byteReceived (dataByte : Byte)
  | timerExpiry

/-- The timer fires only when it is armed, and a one-shot timer that fires is no longer so. -/
def serialStep (process : Handler σ) : SerialTask × σ → SerialEvent → Option (SerialTask × σ)
  | (t, x), .byteReceived dataByte => some (checkAndUartData dataByte t, x)
  | (t, x), .timerExpiry =>
    if t.oneshotTimer.armed then
      some (oneshotTimerCallback process
        { t with oneshotTimer := { t.oneshotTimer with armed := false } } x)
    else none

end EspBridges.Ccu
