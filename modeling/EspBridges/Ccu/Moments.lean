import EspBridges.Ccu.BridgeLaws

namespace EspBridges.Ccu

open Bytes

inductive Input where
  | read
  | write (frame : Nat) (value : List Byte)
  | packet (ccuMsg : Buf 500) (length : Nat)

structure Moment where
  input : Input
  mem : Nat → Buf 30
  wild : Wild Obj

namespace Globals

def amid (g : Globals) (m : Moment) : Globals := { g with env.mem := m.mem, env.wild := m.wild }

def meet (g : Globals) (m : Moment) : Globals :=
  match m.input with
  | .read => gattsReadEvt (g.amid m)
  | .write frame value => gattsWriteEvt false frame value (g.amid m)
  | .packet ccuMsg length => (processRx ccuMsg length (g.amid m)).1

def meets (g : Globals) (ms : List Moment) : Globals := ms.foldl meet g

@[simp] theorem meets_nil (g : Globals) : g.meets [] = g := rfl

@[simp] theorem meets_cons (g : Globals) (m : Moment) (ms : List Moment) :
    g.meets (m :: ms) = (g.meet m).meets ms := rfl

theorem meets_append (g : Globals) (ms ms' : List Moment) :
    g.meets (ms ++ ms') = (g.meets ms).meets ms' := List.foldl_append

section Meet

variable {m : Moment} (g : Globals)

theorem meet_read (h : m.input = .read) : g.meet m = gattsReadEvt (g.amid m) := by
  rw [meet, h]

theorem meet_write (h : m.input = .write frame value) :
    g.meet m = gattsWriteEvt false frame value (g.amid m) := by
  rw [meet, h]

theorem meet_packet (h : m.input = .packet ccuMsg length) :
    g.meet m = (processRx ccuMsg length (g.amid m)).1 := by
  rw [meet, h]

end Meet

def replies : Globals → List Moment → List (Buf 20)
  | _, [] => []
  | g, m :: ms =>
    match m.input with
    | .read => (g.meet m).main.epReturnMessage :: (g.meet m).replies ms
    | _ => (g.meet m).replies ms

end Globals

def Bridge.inputOf (b : Bridge) : Action → Option Input
  | .gattRead => some .read
  | .gattWrite false frame value => some (.write frame value)
  | .timerExpiry => some (.packet b.serial.packet b.serial.serialDataBytes)
  | _ => none

theorem step_meet {b b' : Bridge} {e : Event} {input : Input} (hs : step b e = some b')
    (hinput : b.inputOf e.action = some input) : b'.glob = b.glob.meet ⟨input, e.mem, e.wild⟩ := by
  obtain ⟨_, rfl⟩ := step_eq_some hs
  cases hact : e.action with
  | gattWrite isPrep frame value =>
    rw [hact] at hinput
    cases isPrep with
    | true => cases hinput
    | false =>
      cases hinput
      rfl
  | gattRead | timerExpiry =>
    rw [hact] at hinput
    cases hinput
    rfl
  | regEvt | advDataSet | updateConnParams | gattDisconnect | byteReceived =>
    rw [hact] at hinput
    cases hinput

end EspBridges.Ccu
