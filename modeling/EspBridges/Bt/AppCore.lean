import EspBridges.Lib.Bytes
import EspBridges.Lib.Heap
import EspBridges.Lib.Machine
import EspBridges.Lib.Queue

/-! `bt_app_core.c`: work that is dispatched to a task, with a copy of its parameters. -/

namespace EspBridges.Bt

open Bytes Heap

def btAppSigWorkDispatch : UInt16 := 0x01

structure BtAppMsg where
  sig : UInt16
  event : UInt16
  cb : Option Nat
  param : Ptr

structure Work where
  cb : Option Nat
  event : UInt16
  param : Option (List Byte)
  deriving DecidableEq

/-- `stored` is what lies in the blocks, `called` the callbacks so far. -/
structure AppCore where
  queue : Fifo BtAppMsg
  heap : Heap
  stored : Nat → List Byte
  called : List Work

def btAppTaskStartUp (heap : Heap) : AppCore := ⟨.create 10, heap, fun _ => [], []⟩

def onHeap {α : Type} (x : Program Heap α) : Program AppCore α := fun s =>
  (x s.heap).map fun (a, heap) => (a, { s with heap })

/-- It waits ten ticks at most, and then the queue is still full. -/
def btAppSendMsg (msg : BtAppMsg) : Program AppCore Bool := fun s =>
  match s.queue.send msg with
  | none => some (false, s)
  | some queue => some (true, { s with queue })

def copyParam (block : Nat) (bytes : List Byte) (pCopyCback : Option (List Byte → List Byte)) :
    Program AppCore Unit := fun s =>
  let copied := match pCopyCback with
    | none => bytes
    | some copy => copy bytes
  some ((), { s with stored := fun b => if b = block then copied else s.stored b })

def btAppWorkDispatch (pCback : Option Nat) (event : UInt16) (pParams : Option (Nat → Byte))
    (paramLen : Int) (pCopyCback : Option (List Byte → List Byte)) : Program AppCore Bool := do
  let msg : BtAppMsg := ⟨btAppSigWorkDispatch, event, pCback, none⟩
  if paramLen = 0 then btAppSendMsg msg
  else
    match pParams with
    | none => return false
    | some params =>
      if paramLen > 0 then
        match ← onHeap malloc with
        | none => return false
        | some block =>
          copyParam block ((List.range paramLen.toNat).map params) pCopyCback
          btAppSendMsg { msg with param := some block }
      else return false

def readParam (param : Ptr) : Program AppCore (Option (List Byte)) := fun s =>
  match param with
  | none => some (none, s)
  | some block => if s.heap.live block then some (some (s.stored block), s) else none

def btAppWorkDispatched (msg : BtAppMsg) : Program AppCore Unit := do
  match msg.cb with
  | none => return ()
  | some _ =>
    let param ← readParam msg.param
    fun s => some ((), { s with called := s.called ++ [⟨msg.cb, msg.event, param⟩] })

def btAppTaskHandler : Program AppCore Unit := fun s =>
  match s.queue.receive with
  | none => none
  | some (msg, queue) =>
    (do
      if msg.sig = btAppSigWorkDispatch then btAppWorkDispatched msg
      onHeap (free msg.param)) { s with queue }

inductive Event
  | dispatched (pCback : Option Nat) (event : UInt16) (pParams : Option (Nat → Byte))
      (paramLen : Int) (pCopyCback : Option (List Byte → List Byte)) (accepted : Bool)
  | handled

def step (s : AppCore) : Event → Option AppCore
  | .dispatched pCback event pParams paramLen pCopyCback accepted =>
    match btAppWorkDispatch pCback event pParams paramLen pCopyCback s with
    | none => none
    | some (accepted', s') => if accepted' = accepted then some s' else none
  | .handled => (btAppTaskHandler s).map Prod.snd

end EspBridges.Bt
