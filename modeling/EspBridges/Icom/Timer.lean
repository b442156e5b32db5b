import EspBridges.Icom.Config
import EspBridges.Icom.Modbus

namespace EspBridges.Icom

open Bytes

def healthPingTimerId : UInt16 := 0x02

inductive IcomTimerCallback where
  | icomModbusClientConnectTimerCallback | icomModbusRtuRegPollCallback
  deriving DecidableEq

/-- The `void *` a callback is given: `NULL`, or a row of `mbus_reg_rt_info`. -/
inductive CallbackContext where
  | null
  | rtRow (i : Nat)
  deriving DecidableEq

structure IcomTimerHndl where
  timerId : UInt16
  timeout : UInt32
  repeatFlag : Byte
  pCallback : IcomTimerCallback
  pCallbackContext : CallbackContext

/-- The timers made so far, and those that run, with the microseconds they were given. -/
structure TimerSys where
  hndls : List IcomTimerHndl
  running : List (Nat × UInt64)

/-- `none` is `NULL`; when the `esp_timer` cannot be made the program stops. -/
def icomCreateTimer (allocated : Bool) (timerId : UInt16) (pCallback : IcomTimerCallback)
    (pCallbackCtx : CallbackContext) (t : TimerSys) : Option Nat × TimerSys :=
  if allocated then
    (some t.hndls.length, { t with hndls := t.hndls ++ [⟨timerId, 0, 0, pCallback, pCallbackCtx⟩] })
  else (none, t)

/-- The product is taken in an `unsigned int` and kept in an `int`. -/
def localTimeout (timeout : UInt32) : Int32 := (timeout * 1000000).toInt32

/-- The program stops when the timer runs already. -/
def icomStartTimer (pTimer : Nat) (timeout : UInt32) (repeatFlag : Byte) (t : TimerSys) :
    Option TimerSys :=
  if pTimer ∈ t.running.map Prod.fst then none
  else
    some {
      hndls := t.hndls.modify pTimer fun hndl => { hndl with timeout := timeout, repeatFlag := repeatFlag }
      running := t.running ++ [(pTimer, (localTimeout timeout).toInt64.toUInt64)] }

end EspBridges.Icom
