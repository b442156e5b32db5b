import EspBridges.Icom.ModbusTask

namespace EspBridges.Icom

structure Expiry where
  timer : Nat
  fd : Int
  answers : Answers

/-- The call through `p_callback`; `none` where it writes through a `NULL` or a wrong pointer. -/
def IcomTimerHndl.call (hndl : IcomTimerHndl) (e : Expiry) (t : ModbusTask) : Option ModbusTask :=
  match hndl.pCallback, hndl.pCallbackContext with
  | .icomModbusClientConnectTimerCallback, .null =>
    (icomModbusClientConnectTimerCallback none e.fd t).map Prod.snd
  | .icomModbusClientConnectTimerCallback, .rtRow _ => none
  | .icomModbusRtuRegPollCallback, .null => some (icomModbusRtuRegPollCallback none e.answers t).2
  | .icomModbusRtuRegPollCallback, .rtRow i =>
    if hi : i < maxConfigurableRegisters then
      some (icomModbusRtuRegPollCallback (some ⟨i, hi⟩) e.answers t).2
    else none

def genericPollingTimerCallback (arg : Option Nat) (e : Expiry) (t : ModbusTask) :
    Option ModbusTask :=
  match arg with
  | none => some t
  | some pTimerHndl => do
    let hndl ← t.timers.hndls[pTimerHndl]?
    let t ← hndl.call e t
    let hndl ← t.timers.hndls[pTimerHndl]?
    if hndl.repeatFlag ≠ 0 then
      let timers ← icomStartTimer pTimerHndl hndl.timeout hndl.repeatFlag t.timers
      return { t with timers := timers }
    else return t

/-- A one-shot timer does not run any more when it calls back. -/
def timerExpiry (t : ModbusTask) (e : Expiry) : Option ModbusTask :=
  if e.timer ∈ t.timers.running.map Prod.fst then
    let running := t.timers.running.filter fun entry => entry.1 ≠ e.timer
    genericPollingTimerCallback (some e.timer) e { t with timers := { t.timers with running := running } }
  else none

end EspBridges.Icom
