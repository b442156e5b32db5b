import EspBridges.Lib.Heap
import EspBridges.Modbus.Reply

namespace EspBridges.Modbus

open Bytes Icom Heap

/-- The members of `modbus_mapping_t` for one table, and what lies in the block of the table. -/
structure TabT (α : Type) where
  nb : Int32
  start : Int32
  tab : Ptr
  cells : List α

structure ModbusMappingT where
  block : Nat
  bits : TabT Byte
  inputBits : TabT Byte
  registers : TabT UInt16
  inputRegisters : TabT UInt16

/-- The size that is allocated and cleared; the product is one of `size_t`. -/
def tabSize (nb width : UInt32) : UInt32 := nb * width

def newTab (nb : UInt32) : Program Heap Ptr := if nb = 0 then pure none else malloc

def cleared {α : Type} [OfNat α 0] (start nb width : UInt32) (tab : Ptr) : TabT α :=
  ⟨nb.toInt32, start.toInt32, tab, List.replicate ((tabSize nb width).toNat / width.toNat) 0⟩

def modbusMappingNewStartAddress (startBits nbBits startInputBits nbInputBits startRegisters
    nbRegisters startInputRegisters nbInputRegisters : UInt32) :
    Program Heap (Option ModbusMappingT) := do
  match ← malloc with
  | none => return none
  | some mbMapping =>
    let tabBits ← newTab nbBits
    if nbBits ≠ 0 ∧ tabBits = none then
      free (some mbMapping)
      return none
    let tabInputBits ← newTab nbInputBits
    if nbInputBits ≠ 0 ∧ tabInputBits = none then
      free tabBits
      free (some mbMapping)
      return none
    let tabRegisters ← newTab nbRegisters
    if nbRegisters ≠ 0 ∧ tabRegisters = none then
      free tabInputBits
      free tabBits
      free (some mbMapping)
      return none
    let tabInputRegisters ← newTab nbInputRegisters
    if nbInputRegisters ≠ 0 ∧ tabInputRegisters = none then
      free tabRegisters
      free tabInputBits
      free tabBits
      free (some mbMapping)
      return none
    return some ⟨mbMapping, cleared startBits nbBits 1 tabBits,
      cleared startInputBits nbInputBits 1 tabInputBits, cleared startRegisters nbRegisters 2 tabRegisters,
      cleared startInputRegisters nbInputRegisters 2 tabInputRegisters⟩

def modbusMappingFree (mbMapping : Option ModbusMappingT) : Program Heap Unit := do
  match mbMapping with
  | none => return ()
  | some m =>
    free m.inputRegisters.tab
    free m.registers.tab
    free m.inputBits.tab
    free m.bits.tab
    free (some m.block)

structure ModbusRtuT where
  block : Nat
  device : Ptr
  baud : Int
  parity : Char
  dataBit : Int
  stopBit : Int
  confirmationToIgnore : Bool

structure ModbusCtx where
  block : Nat
  ctx : ModbusT
  backendData : Option ModbusRtuT

end EspBridges.Modbus
