import EspBridges.Lib.Cells
import EspBridges.Modbus.Master

/-! The server: its tables, and what `modbus_reply` makes of a request.  What reaches outside a
table comes to nothing. -/

namespace EspBridges.Modbus

open Bytes Icom Cells

def reportSlaveIdByte : Nat := 180

structure Table (α : Type) where
  start : Nat
  tab : List α

structure ModbusMapping where
  bits : Table Byte
  inputBits : Table Byte
  registers : Table UInt16
  inputRegisters : Table UInt16

structure Sft where
  slave : Nat
  function : Nat

/-- The response, whether the line is flushed before it goes out, and the tables after it. -/
structure Response where
  rsp : List Byte
  toFlush : Bool
  mapping : ModbusMapping

def buildResponseBasis (sft : Sft) : List Byte := [.ofNat sft.slave, .ofNat sft.function]

def responseException (sft : Sft) (exceptionCode : Nat) (toFlush : Bool)
    (mapping : ModbusMapping) : Response :=
  ⟨buildResponseBasis ⟨sft.slave, sft.function + 0x80⟩ ++ [.ofNat exceptionCode], toFlush, mapping⟩

structure Packing where
  out : List Byte
  oneByte : Nat
  shift : Nat

def Packing.push (p : Packing) (bit : Byte) : Packing :=
  let oneByte := p.oneByte ||| bit.toNat <<< p.shift
  if p.shift = 7 then ⟨p.out ++ [.ofNat oneByte], 0, 0⟩ else ⟨p.out, oneByte, p.shift + 1⟩

def Packing.finish (p : Packing) : List Byte :=
  if p.shift ≠ 0 then p.out ++ [.ofNat p.oneByte] else p.out

def responseIoStatus (tabIoStatus : List Byte) (address : Int) (nb : Nat) : Option (List Byte) :=
  (block tabIoStatus address nb).map fun bits => (bits.foldl Packing.push ⟨[], 0, 0⟩).finish

def modbusSetBitsFromBytes (dest : List Byte) (idx : Int) (nbBits : Nat) (tabByte : Nat → Byte) :
    Option (List Byte) :=
  fill dest idx ((List.range nbBits).map fun i =>
    if (tabByte (i / 8)).toNat.testBit (i % 8) then 1 else 0)

section Cases

variable (sft : Sft) (req : List Byte) (reqLength : Nat) (mapping : ModbusMapping)

def reqAddress : Nat := wordAt req (modbusRtuHeaderLength + 1)

def reqNb : Nat := wordAt req (modbusRtuHeaderLength + 3)

/-- `memcpy(rsp, req, req_length)`, with the check value left behind. -/
def echo : List Byte := req.take (reqLength - modbusRtuChecksumLength)

def replyRange {α : Type} (table : Table α) (address nb : Nat) (countRight : Bool)
    (serve : Int → Option Response) : Option Response :=
  let mappingAddress : Int := address - table.start
  if ¬countRight then some (responseException sft modbusExceptionIllegalDataValue true mapping)
  else if mappingAddress < 0 ∨ mappingAddress + nb > table.tab.length then
    some (responseException sft modbusExceptionIllegalDataAddress false mapping)
  else serve mappingAddress

def replyReadBits (table : Table Byte) : Option Response :=
  let nb := reqNb req
  replyRange sft mapping table (reqAddress req) nb (1 ≤ nb ∧ nb ≤ modbusMaxReadBits)
    fun mappingAddress => (responseIoStatus table.tab mappingAddress nb).map fun status =>
      ⟨buildResponseBasis sft ++ [.ofNat (bitBytes nb)] ++ status, false, mapping⟩

def replyReadRegisters (table : Table UInt16) : Option Response :=
  let nb := reqNb req
  replyRange sft mapping table (reqAddress req) nb (1 ≤ nb ∧ nb ≤ modbusMaxReadRegisters)
    fun mappingAddress => (block table.tab mappingAddress nb).map fun words =>
      ⟨buildResponseBasis sft ++ [.ofNat (nb * 2)] ++ words.flatMap fun w => wordBytes w.toNat,
        false, mapping⟩

def replySingle {α : Type} (table : Table α) (address : Nat)
    (serve : Int → Option Response) : Option Response :=
  let mappingAddress : Int := address - table.start
  if mappingAddress < 0 ∨ mappingAddress ≥ table.tab.length then
    some (responseException sft modbusExceptionIllegalDataAddress false mapping)
  else serve mappingAddress

def replyWriteBit : Option Response :=
  replySingle sft mapping mapping.bits (reqAddress req) fun mappingAddress =>
    let data := reqNb req
    if data = 0xFF00 ∨ data = 0 then
      (put mapping.bits.tab mappingAddress (if data ≠ 0 then 1 else 0)).map fun tab =>
        ⟨echo req reqLength, false, { mapping with bits.tab := tab }⟩
    else some (responseException sft modbusExceptionIllegalDataValue false mapping)

def replyWriteRegister : Option Response :=
  replySingle sft mapping mapping.registers (reqAddress req) fun mappingAddress =>
    (put mapping.registers.tab mappingAddress (.ofNat (reqNb req))).map fun tab =>
      ⟨echo req reqLength, false, { mapping with registers.tab := tab }⟩

def replyWriteBits : Option Response :=
  let nb := reqNb req
  let nbBits := byteAt req (modbusRtuHeaderLength + 5)
  replyRange sft mapping mapping.bits (reqAddress req) nb
    (1 ≤ nb ∧ nb ≤ modbusMaxWriteBits ∧ nb ≤ nbBits * 8) fun mappingAddress =>
    (modbusSetBitsFromBytes mapping.bits.tab mappingAddress nb fun i =>
        req.getD (modbusRtuHeaderLength + 6 + i) 0).map fun tab =>
      ⟨buildResponseBasis sft ++ (req.drop 2).take 4, false, { mapping with bits.tab := tab }⟩

def replyWriteRegisters : Option Response :=
  let nb := reqNb req
  let nbBytes := byteAt req (modbusRtuHeaderLength + 5)
  replyRange sft mapping mapping.registers (reqAddress req) nb
    (1 ≤ nb ∧ nb ≤ modbusMaxWriteRegisters ∧ nbBytes = nb * 2) fun mappingAddress =>
    (fill mapping.registers.tab mappingAddress
        (wordsFrom req (modbusRtuHeaderLength + 6) nb)).map fun tab =>
      ⟨buildResponseBasis sft ++ (req.drop 2).take 4, false, { mapping with registers.tab := tab }⟩

def reportedText : List Byte :=
  ['L', 'M', 'B', '3', '.', '1', '.', '6'].map fun c => .ofNat c.toNat

def replyReportSlaveId : Response :=
  let data := [.ofNat reportSlaveIdByte, 0xFF] ++ reportedText
  ⟨buildResponseBasis sft ++ [.ofNat data.length] ++ data, false, mapping⟩

def replyMaskWriteRegister : Option Response :=
  replySingle sft mapping mapping.registers (reqAddress req) fun mappingAddress =>
    (get mapping.registers.tab mappingAddress).bind fun data =>
      let andMask : UInt16 := .ofNat (wordAt req (modbusRtuHeaderLength + 3))
      let orMask : UInt16 := .ofNat (wordAt req (modbusRtuHeaderLength + 5))
      (put mapping.registers.tab mappingAddress
          ((data &&& andMask) ||| (orMask &&& ~~~andMask))).map fun tab =>
        ⟨echo req reqLength, false, { mapping with registers.tab := tab }⟩

/-- The address that is read is looked at twice, the one that is written not from below. -/
def replyWriteAndReadRegisters : Option Response :=
  let nb := reqNb req
  let addressWrite := wordAt req (modbusRtuHeaderLength + 5)
  let nbWrite := wordAt req (modbusRtuHeaderLength + 7)
  let nbWriteBytes := byteAt req (modbusRtuHeaderLength + 9)
  let mappingAddress : Int := reqAddress req - mapping.registers.start
  let mappingAddressWrite : Int := addressWrite - mapping.registers.start
  let nbRegisters := mapping.registers.tab.length
  if nbWrite < 1 ∨ modbusMaxWrWriteRegisters < nbWrite ∨ nb < 1 ∨ modbusMaxWrReadRegisters < nb ∨
      nbWriteBytes ≠ nbWrite * 2 then
    some (responseException sft modbusExceptionIllegalDataValue true mapping)
  else if mappingAddress < 0 ∨ mappingAddress + nb > nbRegisters ∨ mappingAddress < 0 ∨
      mappingAddressWrite + nbWrite > nbRegisters then
    some (responseException sft modbusExceptionIllegalDataAddress false mapping)
  else
    (fill mapping.registers.tab mappingAddressWrite
        (wordsFrom req (modbusRtuHeaderLength + 9 + 1) nbWrite)).bind fun tab =>
      (block tab mappingAddress nb).map fun words =>
        ⟨buildResponseBasis sft ++ [.ofNat (nb * 2)] ++ words.flatMap fun w => wordBytes w.toNat,
          false, { mapping with registers.tab := tab }⟩

end Cases

def respond (req : List Byte) (reqLength : Nat) (mapping : ModbusMapping) :
    Option (Except Errno Response) :=
  let slave := byteAt req 0
  let function := byteAt req modbusRtuHeaderLength
  let sft : Sft := ⟨slave, function⟩
  if function = modbusFcReadCoils then
    (replyReadBits sft req mapping mapping.bits).map .ok
  else if function = modbusFcReadDiscreteInputs then
    (replyReadBits sft req mapping mapping.inputBits).map .ok
  else if function = modbusFcReadHoldingRegisters then
    (replyReadRegisters sft req mapping mapping.registers).map .ok
  else if function = modbusFcReadInputRegisters then
    (replyReadRegisters sft req mapping mapping.inputRegisters).map .ok
  else if function = modbusFcWriteSingleCoil then
    (replyWriteBit sft req reqLength mapping).map .ok
  else if function = modbusFcWriteSingleRegister then
    (replyWriteRegister sft req reqLength mapping).map .ok
  else if function = modbusFcWriteMultipleCoils then
    (replyWriteBits sft req mapping).map .ok
  else if function = modbusFcWriteMultipleRegisters then
    (replyWriteRegisters sft req mapping).map .ok
  else if function = modbusFcReportSlaveId then
    some (.ok (replyReportSlaveId sft mapping))
  else if function = modbusFcReadExceptionStatus then
    some (.error .enoprotoopt)
  else if function = modbusFcMaskWriteRegister then
    (replyMaskWriteRegister sft req reqLength mapping).map .ok
  else if function = modbusFcWriteAndReadRegisters then
    (replyWriteAndReadRegisters sft req mapping).map .ok
  else some (.ok (responseException sft modbusExceptionIllegalFunction true mapping))

/-- A flush drops what has come in. -/
def modbusReply (ctx : Option ModbusT) (req : List Byte) (reqLength : Nat)
    (mapping : ModbusMapping) (line : Line) : Option (Except Errno Nat × ModbusMapping × Line) :=
  match ctx with
  | none => some (.error .einval, mapping, line)
  | some _ =>
    (respond req reqLength mapping).map fun
      | .error e => (.error e, mapping, line)
      | .ok response =>
        let line := if response.toFlush then { line with rx := [] } else line
        if byteAt req 0 = modbusBroadcastAddress then (.ok 0, response.mapping, line)
        else
          let (rc, line) := sendMsg response.rsp (fun _ => []) line
          (.ok rc, response.mapping, line)

def modbusReplyException (ctx : Option ModbusT) (req : List Byte) (exceptionCode : Nat)
    (line : Line) : Except Errno Nat × Line :=
  match ctx with
  | none => (.error .einval, line)
  | some _ =>
    let sft : Sft := ⟨byteAt req 0, byteAt req modbusRtuHeaderLength + 0x80⟩
    if exceptionCode < modbusExceptionMax then
      let (rc, line) := sendMsg (buildResponseBasis sft ++ [.ofNat exceptionCode]) (fun _ => []) line
      (.ok rc, line)
    else (.error .einval, line)

structure Server where
  ctx : ModbusT
  confirmationToIgnore : Bool
  mapping : ModbusMapping

def modbusRtuReceive (ctx : ModbusT) (confirmationToIgnore : Bool) (line : Line) :
    Except Errno Nat × List Byte × Bool × Line :=
  if confirmationToIgnore then
    let (_, req, line) := receiveMsg .confirmation ctx line
    (.ok 0, req, false, line)
  else
    let (rc, req, line) := receiveMsg .indication ctx line
    (rc, req, match rc with | .ok 0 => true | _ => confirmationToIgnore, line)

/-- One message taken off the line, and answered if it is a request for this server. -/
def Server.turn (server : Server) (line : Line) : Option (Server × Line) :=
  match modbusRtuReceive server.ctx server.confirmationToIgnore line with
  | (rc, req, confirmationToIgnore, line) =>
    let server := { server with confirmationToIgnore }
    match rc with
    | .error _ => some (server, line)
    | .ok rc =>
      if rc > 0 then
        (modbusReply (some server.ctx) req rc server.mapping line).map fun (_, mapping, line) =>
          ({ server with mapping }, line)
      else some (server, line)

end EspBridges.Modbus
