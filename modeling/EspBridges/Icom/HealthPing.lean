import EspBridges.Icom.Timer
import EspBridges.Icom.IpcLaws

/-! `main_task.c` and `icom_cloud_task.c`: the health ping, from a timer of the main task to the
cloud task, beside whatever the other tasks do with their queues. -/

namespace EspBridges.Icom

open Bytes

def ipcOpcodePing : Byte := 0x01

def pingMsg : IcomIpcMsg := { IcomIpcMsg.zero with opcode := ipcOpcodePing }

structure PingTimer where
  timerId : UInt16
  timeout : UInt32
  repeatFlag : Byte
  running : Option UInt64

def PingTimer.start (t : PingTimer) (timeout : UInt32) (repeatFlag : Byte) : Option PingTimer :=
  if t.running.isSome then none
  else some ⟨t.timerId, timeout, repeatFlag, some (localTimeout timeout).toInt64.toUInt64⟩

inductive Stage where
  | reset | initialised | spawned
  deriving DecidableEq

/-- `printed` are the opcodes that the cloud task has found unknown; `crashed` is a program that
has stopped. -/
structure HealthPing where
  stage : Stage
  pMainTaskTimer : Option PingTimer
  hs : Handles
  cloudServes : Bool
  printed : List Byte
  crashed : Bool

def HealthPing.boot : HealthPing := ⟨.reset, none, .null, false, [], false⟩

/-- A queue that is not there stops the program. -/
def icomHealthpingTimerCallback (hs : Handles) : Option (Nat × Handles) :=
  (icomSendIpcBuffer icomTaskIdCloudMgr pingMsg hs).map fun (_, hs) => (0, hs)

def icomMainTaskInit (allocated : Bool) (s : HealthPing) : Option (Nat × HealthPing) :=
  if ¬allocated then some (1, { s with pMainTaskTimer := none })
  else
    (PingTimer.start ⟨healthPingTimerId, 0, 0, none⟩ 30 1).map fun timer =>
      (0, { s with pMainTaskTimer := some timer })

def PingTimer.expire (t : PingTimer) (hs : Handles) : Option (PingTimer × Handles) :=
  (icomHealthpingTimerCallback hs).bind fun (_, hs) =>
    let t := { t with running := none }
    if t.repeatFlag ≠ 0 then (t.start t.timeout t.repeatFlag).map (·, hs) else some (t, hs)

/-- A turn of `icom_cloud_task`, whose `switch` knows no opcode. -/
def cloudTurn (hs : Handles) : Option (Byte × Handles) :=
  (icomRecvIpcBuffer .zero icomTaskIdCloudMgr hs).map fun (received, hs) =>
    (received.pIpcMsg.opcode, hs)

/-- `init` is `app_main` up to the timer, `spawn` the creation of the cloud task, `cloud` what that
task does next, and `other` a call that some other task makes for its own queue. -/
inductive PingEvent where
  | init (allocated : Bool)
  | spawn
  | expiry
  | cloud
  | other (call : Observed)

namespace HealthPing

def init (s : HealthPing) (allocated : Bool) : Option HealthPing :=
  if s.stage = .reset then
    (icomMainTaskInit allocated { s with hs := (icomCreateTaskQueue icomTaskIdMain s.hs).2 }).map
      fun (_, s) => { s with stage := .initialised }
  else none

def expiry (s : HealthPing) : Option HealthPing :=
  s.pMainTaskTimer.bind fun timer =>
    if timer.running.isSome then
      match timer.expire s.hs with
      | none => some { s with crashed := true }
      | some (timer, hs) => some { s with pMainTaskTimer := some timer, hs }
    else none

def cloud (s : HealthPing) : Option HealthPing :=
  if s.stage = .spawned then
    if s.cloudServes then
      (cloudTurn s.hs).map fun (opcode, hs) => { s with hs, printed := s.printed ++ [opcode] }
    else
      some { s with hs := (icomCreateTaskQueue icomTaskIdCloudMgr s.hs).2, cloudServes := true }
  else none

def step (s : HealthPing) (e : PingEvent) : Option HealthPing :=
  if s.crashed then none
  else
    match e with
    | .init allocated => s.init allocated
    | .spawn => if s.stage = .initialised then some { s with stage := .spawned } else none
    | .expiry => s.expiry
    | .cloud => s.cloud
    | .other call =>
      if call.taskId = icomTaskIdCloudMgr then none
      else (Icom.step s.hs call).map fun hs => { s with hs }

end HealthPing

end EspBridges.Icom
