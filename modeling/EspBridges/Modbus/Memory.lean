import EspBridges.Modbus.Reply

/-! What a unit holds, and what the calls of a master do to it. -/

namespace EspBridges.Modbus

open Bytes Icom Cells

def isSet (bit : Byte) : Bool := bit ≠ 0

def flag (b : Bool) : Byte := if b then 1 else 0

/-- The cells of a unit, by their addresses. -/
structure Memory where
  coils : Bank Bool
  inputs : Bank Bool
  registers : Bank UInt16
  inputRegisters : Bank UInt16

section Access

variable {α : Type} (m : Bank α) (addr : Int)

def fetch (nb : Nat) : Except Nat (List α) :=
  if nb = 0 then .error modbusExceptionIllegalDataValue
  else if m.Has (onLine addr) nb then .ok (m.read (onLine addr) nb)
  else .error modbusExceptionIllegalDataAddress

def store (xs : List α) : Except Nat (Bank α) :=
  if xs = [] then .error modbusExceptionIllegalDataValue
  else if m.Has (onLine addr) xs.length then .ok (m.write (onLine addr) xs)
  else .error modbusExceptionIllegalDataAddress

end Access

def masked (andMask orMask w : UInt16) : UInt16 := (w &&& andMask) ||| (orMask &&& ~~~andMask)

def identity : List Byte := [.ofNat reportSlaveIdByte, 0xFF] ++ reportedText

namespace Memory

variable (m : Memory)

def serve : Call → Except Nat (Got × Memory)
  | .readBits addr nb => (fetch m.coils addr nb.toNat).map fun bits => (⟨nb, bits.map flag, []⟩, m)
  | .readInputBits addr nb =>
    (fetch m.inputs addr nb.toNat).map fun bits => (⟨nb, bits.map flag, []⟩, m)
  | .readRegisters addr nb =>
    (fetch m.registers addr nb.toNat).map fun words => (⟨nb, [], words⟩, m)
  | .readInputRegisters addr nb =>
    (fetch m.inputRegisters addr nb.toNat).map fun words => (⟨nb, [], words⟩, m)
  | .writeBit addr status => (store m.coils addr [decide (status ≠ 0)]).map fun coils =>
    (⟨1, [], []⟩, { m with coils })
  | .writeRegister addr value => (store m.registers addr [value]).map fun registers =>
    (⟨1, [], []⟩, { m with registers })
  | .writeBits addr nb src => (store m.coils addr ((elements nb src).map isSet)).map fun coils =>
    (⟨nb, [], []⟩, { m with coils })
  | .writeRegisters addr nb src => (store m.registers addr (elements nb src)).map fun registers =>
    (⟨nb, [], []⟩, { m with registers })
  | .maskWriteRegister addr andMask orMask =>
    (fetch m.registers addr 1).bind fun words =>
      (store m.registers addr (words.map (masked andMask orMask))).map fun registers =>
        (⟨1, [], []⟩, { m with registers })
  | .writeAndReadRegisters writeAddr writeNb src readAddr readNb =>
    if elements writeNb src = [] ∨ readNb.toNat = 0 then .error modbusExceptionIllegalDataValue
    else if m.registers.Has (onLine writeAddr) (elements writeNb src).length ∧
        m.registers.Has (onLine readAddr) readNb.toNat then
      let registers := m.registers.write (onLine writeAddr) (elements writeNb src)
      .ok (⟨readNb, [], registers.read (onLine readAddr) readNb.toNat⟩, { m with registers })
    else .error modbusExceptionIllegalDataAddress
  | .reportSlaveId maxDest => .ok (⟨identity.length, identity.take maxDest.toNat, []⟩, m)

def result (call : Call) : Except Errno Got :=
  match m.serve call with
  | .ok (got, _) => .ok got
  | .error code => .error (.emb code)

def after (call : Call) : Memory :=
  match m.serve call with
  | .ok (_, m') => m'
  | .error _ => m

end Memory

def Table.bank {α : Type} (table : Table α) : Bank α := Cells.bank table.start table.tab

def ModbusMapping.memory (mapping : ModbusMapping) : Memory :=
  ⟨mapping.bits.bank.map isSet, mapping.inputBits.bank.map isSet, mapping.registers.bank,
    mapping.inputRegisters.bank⟩

def Flags (tab : List Byte) : Prop := ∀ bit ∈ tab, bit = 0 ∨ bit = 1

structure ModbusMapping.Sound (mapping : ModbusMapping) : Prop where
  bits : Flags mapping.bits.tab
  inputBits : Flags mapping.inputBits.tab

def Call.refused : Call → Option Errno
  | readBits _ nb | readInputBits _ nb => if nb > modbusMaxReadBits then some .mData else none
  | readRegisters _ nb | readInputRegisters _ nb =>
    if nb > modbusMaxReadRegisters then some .mData else none
  | writeBit .. | writeRegister .. | maskWriteRegister .. => none
  | writeBits _ nb _ => if nb > modbusMaxWriteBits then some .mData else none
  | writeRegisters _ nb _ => if nb > modbusMaxWriteRegisters then some .mData else none
  | writeAndReadRegisters _ writeNb _ _ readNb =>
    if writeNb > modbusMaxWrWriteRegisters ∨ readNb > modbusMaxWrReadRegisters then some .mData
    else none
  | reportSlaveId maxDest => if maxDest ≤ 0 then some .einval else none

/-- No count is below zero, which the code does not look at. -/
def Call.Counts : Call → Prop
  | readBits _ nb | readInputBits _ nb | readRegisters _ nb | readInputRegisters _ nb
  | writeBits _ nb _ | writeRegisters _ nb _ => 0 ≤ nb
  | writeAndReadRegisters _ writeNb _ _ readNb => 0 ≤ writeNb ∧ 0 ≤ readNb
  | _ => True

def Call.request (ctx : ModbusT) : Call → List Byte
  | readBits addr nb => buildRequestBasis ctx modbusFcReadCoils addr nb
  | readInputBits addr nb => buildRequestBasis ctx modbusFcReadDiscreteInputs addr nb
  | readRegisters addr nb => buildRequestBasis ctx modbusFcReadHoldingRegisters addr nb
  | readInputRegisters addr nb => buildRequestBasis ctx modbusFcReadInputRegisters addr nb
  | writeBit addr status =>
    buildRequestBasis ctx modbusFcWriteSingleCoil addr (if status ≠ 0 then 0xFF00 else 0 : Nat)
  | writeRegister addr value => buildRequestBasis ctx modbusFcWriteSingleRegister addr value.toNat
  | writeBits addr nb src => buildRequestBasis ctx modbusFcWriteMultipleCoils addr nb ++
    [.ofInt (byteCount nb)] ++ (List.range (byteCount nb).toNat).map (packByte (elements nb src))
  | writeRegisters addr nb src => buildRequestBasis ctx modbusFcWriteMultipleRegisters addr nb ++
    [.ofInt (nb * 2)] ++ (elements nb src).flatMap fun value => wordBytes value.toNat
  | maskWriteRegister addr andMask orMask =>
    Icom.buildRequestBasis ctx modbusFcMaskWriteRegister (onLine addr) andMask.toNat ++
      wordBytes orMask.toNat
  | writeAndReadRegisters writeAddr writeNb src readAddr readNb =>
    buildRequestBasis ctx modbusFcWriteAndReadRegisters readAddr readNb ++
      wordBytes (onLine writeAddr) ++ wordBytes (onLine writeNb) ++ [.ofInt (writeNb * 2)] ++
      (elements writeNb src).flatMap fun value => wordBytes value.toNat
  | reportSlaveId _ => [.ofInt ctx.slave, .ofNat modbusFcReportSlaveId]

def Call.got : Call → Nat × List Byte → Got
  | readBits _ nb, (rc, rsp) | readInputBits _ nb, (rc, rsp) =>
    ⟨nb, (((rsp.drop (modbusRtuHeaderLength + 2)).take rc).flatMap bitsOf).take nb.toNat, []⟩
  | readRegisters .., (rc, rsp) | readInputRegisters .., (rc, rsp)
  | writeAndReadRegisters .., (rc, rsp) => ⟨rc, [], wordsFrom rsp (modbusRtuHeaderLength + 2) rc⟩
  | writeBit .., (rc, _) | writeRegister .., (rc, _) | writeBits .., (rc, _)
  | writeRegisters .., (rc, _) | maskWriteRegister .., (rc, _) => ⟨rc, [], []⟩
  | reportSlaveId maxDest, (rc, rsp) =>
    ⟨rc, ((rsp.drop (modbusRtuHeaderLength + 2)).take rc).take maxDest.toNat, []⟩

theorem readBitsWith_eq {function : Nat} (ctx : ModbusT) (addr nb : Int) (answers : Answers)
    (line : Line) :
    readBitsWith function (some ctx) addr nb answers line =
      match (Call.readBits addr nb).refused with
      | some e => (.error e, line)
      | none =>
        let (confirmation, line) :=
          exchange ctx (buildRequestBasis ctx function addr nb) answers line
        (confirmation.map (Call.readBits addr nb).got, line) := by
  unfold readBitsWith readIoStatus Call.refused
  dsimp only
  split
  · rfl
  · generalize exchange ctx _ answers line = x
    obtain ⟨confirmation, line⟩ := x
    cases confirmation <;> rfl

theorem Call.make_eq (call : Call) (ctx : ModbusT) (answers : Answers) (line : Line) :
    call.make ctx answers line =
      match call.refused with
      | some e => (.error e, line)
      | none =>
        let (confirmation, line) := exchange ctx (call.request ctx) answers line
        (confirmation.map call.got, line) := by
  cases call with
  | readBits addr nb => exact readBitsWith_eq ctx addr nb answers line
  | readInputBits addr nb => exact readBitsWith_eq ctx addr nb answers line
  | readRegisters addr nb =>
    unfold make modbusReadRegisters readRegistersWith Modbus.readRegisters refused
    dsimp only
    split <;> rfl
  | readInputRegisters addr nb =>
    unfold make modbusReadInputRegisters readRegistersWith Modbus.readRegisters refused
    dsimp only
    split <;> rfl
  | writeBit addr status => rfl
  | writeRegister addr value => rfl
  | writeBits addr nb src =>
    unfold make modbusWriteBits refused
    dsimp only
    split <;> rfl
  | writeRegisters addr nb src =>
    unfold make modbusWriteRegisters refused
    dsimp only
    split <;> rfl
  | maskWriteRegister addr andMask orMask => rfl
  | writeAndReadRegisters writeAddr writeNb src readAddr readNb =>
    unfold make modbusWriteAndReadRegisters refused
    dsimp only
    by_cases hwrite : writeNb > modbusMaxWrWriteRegisters
    · rw [if_pos hwrite, if_pos (.inl hwrite)]
    · rw [if_neg hwrite]
      by_cases hread : readNb > modbusMaxWrReadRegisters
      · rw [if_pos hread, if_pos (.inr hread)]
      · rw [if_neg hread, if_neg fun h => h.elim hwrite hread]
        rfl
  | reportSlaveId maxDest =>
    unfold make modbusReportSlaveId refused
    dsimp only
    split <;> rfl

end EspBridges.Modbus
