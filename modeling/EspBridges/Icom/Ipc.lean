import EspBridges.Lib.Bytes
import EspBridges.Lib.Machine
import EspBridges.Lib.Queue

/-! `icom_ipc.c`: the message queues of the Modbus bridge's tasks. -/

namespace EspBridges.Icom

open Bytes

def icomTaskIdMain : Int := 1
def icomTaskIdBleMgr : Int := 2
def icomTaskIdModbusMgr : Int := 3
def icomTaskIdCloudMgr : Int := 4
def icomTaskIdSerialMgr : Int := 5

structure IcomIpcMsg where
  opcode : Byte
  dataSz : Byte
  data : Vector Byte 14
  deriving DecidableEq

def sizeofIcomIpcMsg : Nat := 16

namespace IcomIpcMsg

def bytes (m : IcomIpcMsg) : List Byte := m.opcode :: m.dataSz :: m.data.toList

def store (m : IcomIpcMsg) (item : List Byte) : IcomIpcMsg where
  opcode := item.getD 0 m.opcode
  dataSz := item.getD 1 m.dataSz
  data := Vector.ofFn fun i => item.getD (i + 2) m.data[i]

end IcomIpcMsg

/-- A queue of FreeRTOS: items of `itemSize` bytes, copied in and out by value. -/
structure XQueue where
  itemSize : Nat
  fifo : Fifo (List Byte)
  sized : ∀ item ∈ fifo.items, item.length = itemSize

def xQueueCreate (length itemSize : Nat) : XQueue := ⟨itemSize, .create length, nofun⟩

/-- `none` is the failure on a full queue; `source` is what the pointer reads. -/
def xQueueSend (q : XQueue) (source : Nat → Byte) : Option XQueue :=
  match h : q.fifo.send ((List.range q.itemSize).map source) with
  | none => none
  | some fifo => some ⟨q.itemSize, fifo, by
      intro item hitem
      rw [(Fifo.send_eq_some h).2.2, List.mem_append, List.mem_singleton] at hitem
      rcases hitem with hitem | rfl
      · exact q.sized item hitem
      · rw [List.length_map, List.length_range]⟩

/-- `none` is a call that blocks; otherwise the bytes to be copied to the destination. -/
def xQueueReceive (q : XQueue) : Option (List Byte × XQueue) :=
  match h : q.fifo.receive with
  | none => none
  | some (item, fifo) => some (item, ⟨q.itemSize, fifo, fun item' hitem' => by
      apply q.sized item'
      rw [(Fifo.receive_eq_some h).2]
      exact .tail _ hitem'⟩)

inductive TaskQueue where
  | mainTaskQueue | icomCloudTaskQueue | bleConfigTaskQueue | icomModbusTaskQueue
  | icomSerialTaskQueue
  deriving DecidableEq

/-- `none` is a `NULL` handle, which no call accepts. -/
abbrev Handles := TaskQueue → Option XQueue

def Handles.null : Handles := fun _ => none

def Handles.set (hs : Handles) (static : TaskQueue) (q : XQueue) : Handles :=
  fun s => if s = static then some q else hs s

def sendTo (static : TaskQueue) (pMsg : IcomIpcMsg) (hs : Handles) : Option (Nat × Handles) :=
  match hs static with
  | none => none
  | some q =>
    match xQueueSend q fun i => pMsg.bytes.getD i 0 with
    | none => some (1, hs)
    | some q' => some (0, hs.set static q')

/-- There is no branch for `ICOM_TASK_ID_SERIAL_MGR`. -/
def icomSendIpcBuffer (taskId : Int) (pMsg : IcomIpcMsg) (hs : Handles) : Option (Nat × Handles) :=
  if taskId = icomTaskIdMain then sendTo .mainTaskQueue pMsg hs
  else if taskId = icomTaskIdBleMgr then sendTo .bleConfigTaskQueue pMsg hs
  else if taskId = icomTaskIdModbusMgr then sendTo .icomModbusTaskQueue pMsg hs
  else if taskId = icomTaskIdCloudMgr then sendTo .icomCloudTaskQueue pMsg hs
  else some (0, hs)

/-- What a call of `icom_recv_ipc_buffer` returns and leaves in `*p_ipc_msg`, and how many bytes
it copies past the end of the object that it passes to `xQueueReceive`. -/
structure Received where
  rc : Nat
  pIpcMsg : IcomIpcMsg
  outside : Nat
  deriving DecidableEq

inductive Destination where
  | msgAddress | pIpcMsg

/-- `msg_address` is an `unsigned int`. -/
def Destination.size : Destination → Nat
  | .msgAddress => 4
  | .pIpcMsg => sizeofIcomIpcMsg

def Destination.fill : Destination → IcomIpcMsg → List Byte → IcomIpcMsg
  | .msgAddress, msg, _ => msg
  | .pIpcMsg, msg, item => msg.store item

/-- One branch of `icom_recv_ipc_buffer`; with `portMAX_DELAY` the call waits for an item, so
its error message is never reached. -/
def recvFrom (static : TaskQueue) (dest : Destination) (pIpcMsg : IcomIpcMsg) (hs : Handles) :
    Option (Received × Handles) :=
  match hs static with
  | none => none
  | some q =>
    match xQueueReceive q with
    | none => none
    | some (item, q') =>
      some (⟨0, dest.fill pIpcMsg item, item.length - dest.size⟩, hs.set static q')

def icomRecvIpcBuffer (pIpcMsg : IcomIpcMsg) (taskId : Int) (hs : Handles) :
    Option (Received × Handles) :=
  if taskId = icomTaskIdMain then recvFrom .mainTaskQueue .msgAddress pIpcMsg hs
  else if taskId = icomTaskIdBleMgr then recvFrom .bleConfigTaskQueue .msgAddress pIpcMsg hs
  else if taskId = icomTaskIdModbusMgr then recvFrom .icomModbusTaskQueue .msgAddress pIpcMsg hs
  else if taskId = icomTaskIdCloudMgr then recvFrom .icomCloudTaskQueue .pIpcMsg pIpcMsg hs
  else if taskId = icomTaskIdSerialMgr then recvFrom .icomSerialTaskQueue .msgAddress pIpcMsg hs
  else some (⟨0, pIpcMsg, 0⟩, hs)

def icomCreateTaskQueue (taskId : Int) (hs : Handles) : Nat × Handles :=
  let q := xQueueCreate 10 sizeofIcomIpcMsg
  if taskId = icomTaskIdMain then (0, hs.set .mainTaskQueue q)
  else if taskId = icomTaskIdBleMgr then (0, hs.set .bleConfigTaskQueue q)
  else if taskId = icomTaskIdModbusMgr then (0, hs.set .icomModbusTaskQueue q)
  else if taskId = icomTaskIdCloudMgr then (0, hs.set .icomCloudTaskQueue q)
  else if taskId = icomTaskIdSerialMgr then (0, hs.set .icomSerialTaskQueue q)
  else (0, hs)

inductive Observed where
  | created (taskId : Int)
  | sent (taskId : Int) (pMsg : IcomIpcMsg) (rc : Nat)
  | received (taskId : Int) (pIpcMsg : IcomIpcMsg) (outcome : Received)
  deriving DecidableEq

def Observed.taskId : Observed → Int
  | .created taskId => taskId
  | .sent taskId _ _ => taskId
  | .received taskId _ _ => taskId

def step (hs : Handles) : Observed → Option Handles
  | .created taskId => some (icomCreateTaskQueue taskId hs).2
  | .sent taskId pMsg rc =>
    match icomSendIpcBuffer taskId pMsg hs with
    | none => none
    | some (rc', hs') => if rc' = rc then some hs' else none
  | .received taskId pIpcMsg outcome =>
    match icomRecvIpcBuffer pIpcMsg taskId hs with
    | none => none
    | some (outcome', hs') => if outcome' = outcome then some hs' else none

end EspBridges.Icom
