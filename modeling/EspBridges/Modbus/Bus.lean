import EspBridges.Modbus.Memory

/-! A master and its servers on one line: what one of them puts there, all the others hear. -/

namespace EspBridges.Modbus

open Bytes Icom

structure Station where
  server : Server
  heard : List Byte

def Station.hear (station : Station) (bytes : List Byte) : Station :=
  { station with heard := station.heard ++ bytes }

/-- `pending` is the call that the master has made and that has not come back, `rx` what has come
in there, and `results` is what its calls have come back with. -/
structure Net (n : Nat) where
  master : ModbusT
  pending : Option Call
  rx : List Byte
  stations : Fin n → Station
  results : List (Except Errno Got)

inductive Event (n : Nat)
  | call (unit : Int) (call : Call)
  | turn (i : Fin n)
  | ret

namespace Net

variable {n : Nat} (net : Net n)

def exec (call : Call) : Reply := call.make net.master (fun _ => []) ⟨[], net.rx⟩

/-- `modbus_set_slave`, and the call up to where it waits; one that puts nothing on the line is back
at once. -/
def call (unit : Int) (call : Call) : Option (Net n) :=
  if net.pending.isSome then none
  else
    (modbusSetSlave net.master unit).map fun master =>
      let net := { net with master }
      let (got, line) := net.exec call
      if line.sent = [] then { net with rx := line.rx, results := net.results ++ [got] }
      else
        { net with
          pending := some call
          stations := fun i => (net.stations i).hear line.sent.flatten }

/-- A server takes a message when there is one; its time does not run out. -/
def turn (i : Fin n) : Option (Net n) :=
  let station := net.stations i
  if station.heard = [] then none
  else
    (station.server.turn ⟨[], station.heard⟩).map fun (server, line) =>
      { net with
        rx := net.rx ++ line.sent.flatten
        stations := fun j =>
          if j = i then ⟨server, line.rx⟩ else (net.stations j).hear line.sent.flatten }

/-- The call comes back with what has come in, or, when its time is up, with nothing.  What comes
in later is there for the next call. -/
def ret : Option (Net n) :=
  net.pending.map fun call =>
    let (got, line) := net.exec call
    { net with pending := none, rx := line.rx, results := net.results ++ [got] }

def step : Event n → Option (Net n)
  | .call unit call => net.call unit call
  | .turn i => net.turn i
  | .ret => net.ret

end Net

/-- Where the servers stand: an address for each, no two the same, and its first register. -/
structure Layout (n : Nat) where
  units : Fin n → Int
  starts : Fin n → Nat
  unicast : ∀ i, 1 ≤ units i ∧ units i ≤ 247
  distinct : ∀ i j, units i = units j → i = j

structure World (n : Nat) where
  memories : Fin n → Memory
  results : List (Except Errno Got)

def Net.world {n : Nat} (net : Net n) : World n :=
  ⟨fun i => (net.stations i).server.mapping.memory, net.results⟩

namespace World

variable {n : Nat} (layout : Layout n) (world : World n)

def answer (unit : Int) (call : Call) : Except Errno Got :=
  match (List.finRange n).find? fun i => layout.units i = unit with
  | some i => (world.memories i).result call
  | none => .error .etimedout

def perform (unit : Int) (call : Call) : World n :=
  match call.refused with
  | some e => { world with results := world.results ++ [.error e] }
  | none =>
    if unit = modbusBroadcastAddress then
      ⟨fun i => (world.memories i).after call, world.results ++ [.error .etimedout]⟩
    else
      ⟨fun i => if layout.units i = unit then (world.memories i).after call else world.memories i,
        world.results ++ [world.answer layout unit call]⟩

def follow : Event n → World n
  | .call unit call => world.perform layout unit call
  | .turn _ => world
  | .ret => world

end World

end EspBridges.Modbus
