import EspBridges.Lib.Bytes
import EspBridges.Lib.Crc

/-! `modbus-rtu.c` and `modbus.c`: what a master does to read bits and registers over RTU. -/

namespace EspBridges.Icom

open Bytes

def modbusFcReadCoils : Nat := 0x01
def modbusFcReadDiscreteInputs : Nat := 0x02
def modbusFcReadHoldingRegisters : Nat := 0x03
def modbusFcReadInputRegisters : Nat := 0x04
def modbusFcWriteSingleCoil : Nat := 0x05
def modbusFcWriteSingleRegister : Nat := 0x06
def modbusFcReadExceptionStatus : Nat := 0x07
def modbusFcWriteMultipleCoils : Nat := 0x0F
def modbusFcWriteMultipleRegisters : Nat := 0x10
def modbusFcReportSlaveId : Nat := 0x11
def modbusFcMaskWriteRegister : Nat := 0x16
def modbusFcWriteAndReadRegisters : Nat := 0x17

def modbusBroadcastAddress : Nat := 0
def modbusMaxReadBits : Nat := 2000
def modbusMaxReadRegisters : Nat := 125
def modbusRtuMaxAduLength : Nat := 256
def modbusRtuHeaderLength : Nat := 1
def modbusRtuChecksumLength : Nat := 2

/-- `modbus_t` with the RTU backend; debugging and error recovery are off. -/
structure ModbusT where
  slave : Int
  s : Int
  deriving DecidableEq

def modbusNewRtu : ModbusT := ⟨-1, -1⟩

def icomOpenModbusPort (ctx : ModbusT) (fd : Int) : Nat × ModbusT :=
  (if fd = -1 then 1 else 0, { ctx with s := fd })

/-- `_modbus_rtu_connect` returns 0 whatever the port says. -/
def modbusConnect (ctx : Option ModbusT) (fd : Int) : Int × Option ModbusT :=
  match ctx with
  | none => (-1, none)
  | some ctx => (0, some (icomOpenModbusPort ctx fd).2)

def modbusSetSlave (ctx : ModbusT) (slave : Int) : Option ModbusT :=
  if 0 ≤ slave ∧ slave ≤ 247 then some { ctx with slave := slave } else none

/-- The line, and the requests put on it, the last one at the end. -/
structure Line where
  sent : List (List Byte)
  rx : List Byte

abbrev Answers := List (List Byte) → List Byte

def tableCrcHi : List Byte := [
  0x00, 0xC1, 0x81, 0x40, 0x01, 0xC0, 0x80, 0x41, 0x01, 0xC0, 0x80, 0x41, 0x00, 0xC1, 0x81, 0x40,
  0x01, 0xC0, 0x80, 0x41, 0x00, 0xC1, 0x81, 0x40, 0x00, 0xC1, 0x81, 0x40, 0x01, 0xC0, 0x80, 0x41,
  0x01, 0xC0, 0x80, 0x41, 0x00, 0xC1, 0x81, 0x40, 0x00, 0xC1, 0x81, 0x40, 0x01, 0xC0, 0x80, 0x41,
  0x00, 0xC1, 0x81, 0x40, 0x01, 0xC0, 0x80, 0x41, 0x01, 0xC0, 0x80, 0x41, 0x00, 0xC1, 0x81, 0x40,
  0x01, 0xC0, 0x80, 0x41, 0x00, 0xC1, 0x81, 0x40, 0x00, 0xC1, 0x81, 0x40, 0x01, 0xC0, 0x80, 0x41,
  0x00, 0xC1, 0x81, 0x40, 0x01, 0xC0, 0x80, 0x41, 0x01, 0xC0, 0x80, 0x41, 0x00, 0xC1, 0x81, 0x40,
  0x00, 0xC1, 0x81, 0x40, 0x01, 0xC0, 0x80, 0x41, 0x01, 0xC0, 0x80, 0x41, 0x00, 0xC1, 0x81, 0x40,
  0x01, 0xC0, 0x80, 0x41, 0x00, 0xC1, 0x81, 0x40, 0x00, 0xC1, 0x81, 0x40, 0x01, 0xC0, 0x80, 0x41,
  0x01, 0xC0, 0x80, 0x41, 0x00, 0xC1, 0x81, 0x40, 0x00, 0xC1, 0x81, 0x40, 0x01, 0xC0, 0x80, 0x41,
  0x00, 0xC1, 0x81, 0x40, 0x01, 0xC0, 0x80, 0x41, 0x01, 0xC0, 0x80, 0x41, 0x00, 0xC1, 0x81, 0x40,
  0x00, 0xC1, 0x81, 0x40, 0x01, 0xC0, 0x80, 0x41, 0x01, 0xC0, 0x80, 0x41, 0x00, 0xC1, 0x81, 0x40,
  0x01, 0xC0, 0x80, 0x41, 0x00, 0xC1, 0x81, 0x40, 0x00, 0xC1, 0x81, 0x40, 0x01, 0xC0, 0x80, 0x41,
  0x00, 0xC1, 0x81, 0x40, 0x01, 0xC0, 0x80, 0x41, 0x01, 0xC0, 0x80, 0x41, 0x00, 0xC1, 0x81, 0x40,
  0x01, 0xC0, 0x80, 0x41, 0x00, 0xC1, 0x81, 0x40, 0x00, 0xC1, 0x81, 0x40, 0x01, 0xC0, 0x80, 0x41,
  0x01, 0xC0, 0x80, 0x41, 0x00, 0xC1, 0x81, 0x40, 0x00, 0xC1, 0x81, 0x40, 0x01, 0xC0, 0x80, 0x41,
  0x00, 0xC1, 0x81, 0x40, 0x01, 0xC0, 0x80, 0x41, 0x01, 0xC0, 0x80, 0x41, 0x00, 0xC1, 0x81, 0x40]

def tableCrcLo : List Byte := [
  0x00, 0xC0, 0xC1, 0x01, 0xC3, 0x03, 0x02, 0xC2, 0xC6, 0x06, 0x07, 0xC7, 0x05, 0xC5, 0xC4, 0x04,
  0xCC, 0x0C, 0x0D, 0xCD, 0x0F, 0xCF, 0xCE, 0x0E, 0x0A, 0xCA, 0xCB, 0x0B, 0xC9, 0x09, 0x08, 0xC8,
  0xD8, 0x18, 0x19, 0xD9, 0x1B, 0xDB, 0xDA, 0x1A, 0x1E, 0xDE, 0xDF, 0x1F, 0xDD, 0x1D, 0x1C, 0xDC,
  0x14, 0xD4, 0xD5, 0x15, 0xD7, 0x17, 0x16, 0xD6, 0xD2, 0x12, 0x13, 0xD3, 0x11, 0xD1, 0xD0, 0x10,
  0xF0, 0x30, 0x31, 0xF1, 0x33, 0xF3, 0xF2, 0x32, 0x36, 0xF6, 0xF7, 0x37, 0xF5, 0x35, 0x34, 0xF4,
  0x3C, 0xFC, 0xFD, 0x3D, 0xFF, 0x3F, 0x3E, 0xFE, 0xFA, 0x3A, 0x3B, 0xFB, 0x39, 0xF9, 0xF8, 0x38,
  0x28, 0xE8, 0xE9, 0x29, 0xEB, 0x2B, 0x2A, 0xEA, 0xEE, 0x2E, 0x2F, 0xEF, 0x2D, 0xED, 0xEC, 0x2C,
  0xE4, 0x24, 0x25, 0xE5, 0x27, 0xE7, 0xE6, 0x26, 0x22, 0xE2, 0xE3, 0x23, 0xE1, 0x21, 0x20, 0xE0,
  0xA0, 0x60, 0x61, 0xA1, 0x63, 0xA3, 0xA2, 0x62, 0x66, 0xA6, 0xA7, 0x67, 0xA5, 0x65, 0x64, 0xA4,
  0x6C, 0xAC, 0xAD, 0x6D, 0xAF, 0x6F, 0x6E, 0xAE, 0xAA, 0x6A, 0x6B, 0xAB, 0x69, 0xA9, 0xA8, 0x68,
  0x78, 0xB8, 0xB9, 0x79, 0xBB, 0x7B, 0x7A, 0xBA, 0xBE, 0x7E, 0x7F, 0xBF, 0x7D, 0xBD, 0xBC, 0x7C,
  0xB4, 0x74, 0x75, 0xB5, 0x77, 0xB7, 0xB6, 0x76, 0x72, 0xB2, 0xB3, 0x73, 0xB1, 0x71, 0x70, 0xB0,
  0x50, 0x90, 0x91, 0x51, 0x93, 0x53, 0x52, 0x92, 0x96, 0x56, 0x57, 0x97, 0x55, 0x95, 0x94, 0x54,
  0x9C, 0x5C, 0x5D, 0x9D, 0x5F, 0x9F, 0x9E, 0x5E, 0x5A, 0x9A, 0x9B, 0x5B, 0x99, 0x59, 0x58, 0x98,
  0x88, 0x48, 0x49, 0x89, 0x4B, 0x8B, 0x8A, 0x4A, 0x4E, 0x8E, 0x8F, 0x4F, 0x8D, 0x4D, 0x4C, 0x8C,
  0x44, 0x84, 0x85, 0x45, 0x87, 0x47, 0x46, 0x86, 0x82, 0x42, 0x43, 0x83, 0x41, 0x81, 0x80, 0x40]

def crc16 (buffer : List Byte) : UInt16 :=
  let (crcHi, crcLo) := buffer.foldl (fun (crcHi, crcLo) b =>
    let i := (crcHi ^^^ b).toNat
    (crcLo ^^^ tableCrcHi.getD i 0, tableCrcLo.getD i 0)) (0xFF, 0xFF)
  (crcHi.toUInt16 <<< 8) ||| crcLo.toUInt16

def buildRequestBasis (ctx : ModbusT) (function addr nb : Nat) : List Byte :=
  [.ofInt ctx.slave, .ofNat function, .ofNat (addr / 256), .ofNat addr, .ofNat (nb / 256),
    .ofNat nb]

def sendMsgPre (req : List Byte) : List Byte :=
  let crc := crc16 req
  req ++ [(crc >>> 8).toUInt8, crc.toUInt8]

def sendMsg (msg : List Byte) (answers : Answers) (line : Line) : Nat × Line :=
  let sent := line.sent ++ [sendMsgPre msg]
  ((sendMsgPre msg).length, ⟨sent, line.rx ++ answers sent⟩)

def byteAt (msg : List Byte) (i : Nat) : Nat := (msg.getD i 0).toNat

def computeResponseLengthFromRequest (req : List Byte) : Int :=
  let offset := modbusRtuHeaderLength
  let function := byteAt req offset
  let nb := byteAt req (offset + 3) * 256 + byteAt req (offset + 4)
  if function = modbusFcReportSlaveId then -1
  else
    let length :=
      if function = modbusFcReadCoils ∨ function = modbusFcReadDiscreteInputs then
        2 + nb / 8 + if nb % 8 ≠ 0 then 1 else 0
      else if function = modbusFcWriteAndReadRegisters ∨
          function = modbusFcReadHoldingRegisters ∨ function = modbusFcReadInputRegisters then
        2 + 2 * nb
      else if function = modbusFcReadExceptionStatus then 3
      else if function = modbusFcMaskWriteRegister then 7
      else 5
    offset + length + modbusRtuChecksumLength

def computeMetaLengthAfterFunction (function : Nat) : Nat :=
  if function = modbusFcWriteSingleCoil ∨ function = modbusFcWriteSingleRegister ∨
      function = modbusFcWriteMultipleCoils ∨ function = modbusFcWriteMultipleRegisters then 4
  else if function = modbusFcMaskWriteRegister then 6
  else 1

def computeDataLengthAfterMeta (msg : List Byte) : Nat :=
  let function := byteAt msg modbusRtuHeaderLength
  let length :=
    if function ≤ modbusFcReadInputRegisters ∨ function = modbusFcReportSlaveId ∨
        function = modbusFcWriteAndReadRegisters then byteAt msg (modbusRtuHeaderLength + 1)
    else 0
  length + modbusRtuChecksumLength

def checkIntegrity (ctx : ModbusT) (msg : List Byte) : Int :=
  let slave := byteAt msg 0
  if slave ≠ ctx.slave ∧ slave ≠ modbusBroadcastAddress then 0
  else
    let body := msg.take (msg.length - 2)
    let crcReceived := byteAt msg (msg.length - 2) * 256 + byteAt msg (msg.length - 1)
    if (crc16 body).toNat = crcReceived then msg.length else -1

/-- Bytes off the line, in however many pieces they come; `none` when the time runs out. -/
def Line.recv (line : Line) (n : Nat) : Option (List Byte) × Line :=
  if n ≤ line.rx.length then (some (line.rx.take n), { line with rx := line.rx.drop n })
  else (none, { line with rx := [] })

/-- Up to the function, then up to the count, then the rest; the message stays in `rsp`. -/
def receiveMsg (ctx : ModbusT) (line : Line) : Int × List Byte × Line :=
  match line.recv (modbusRtuHeaderLength + 1) with
  | (none, line) => (-1, [], line)
  | (some head, line) =>
    match line.recv (computeMetaLengthAfterFunction (byteAt head modbusRtuHeaderLength)) with
    | (none, line) => (-1, [], line)
    | (some more, line) =>
      let msg := head ++ more
      let length := computeDataLengthAfterMeta msg
      if msg.length + length > modbusRtuMaxAduLength then (-1, msg, line)
      else
        match line.recv length with
        | (none, line) => (-1, [], line)
        | (some data, line) => (checkIntegrity ctx (msg ++ data), msg ++ data, line)

def preCheckConfirmation (req rsp : List Byte) : Int :=
  if byteAt req 0 ≠ byteAt rsp 0 ∧ byteAt req 0 ≠ modbusBroadcastAddress then -1 else 0

def checkConfirmation (req rsp : List Byte) (rspLength : Int) : Int :=
  let offset := modbusRtuHeaderLength
  let function := byteAt rsp offset
  if preCheckConfirmation req rsp = -1 then -1
  else
    let rspLengthComputed := computeResponseLengthFromRequest req
    if function ≥ 0x80 then -1
    else if rspLength = rspLengthComputed ∨ rspLengthComputed = -1 then
      if function ≠ byteAt req offset then -1
      else
        let nb := byteAt req (offset + 3) * 256 + byteAt req (offset + 4)
        let (reqNbValue, rspNbValue) :=
          if function = modbusFcReadCoils ∨ function = modbusFcReadDiscreteInputs then
            (nb / 8 + if nb % 8 ≠ 0 then 1 else 0, byteAt rsp (offset + 1))
          else if function = modbusFcWriteAndReadRegisters ∨
              function = modbusFcReadHoldingRegisters ∨ function = modbusFcReadInputRegisters then
            (nb, byteAt rsp (offset + 1) / 2)
          else if function = modbusFcWriteMultipleCoils ∨
              function = modbusFcWriteMultipleRegisters then
            (nb, byteAt rsp (offset + 3) * 256 + byteAt rsp (offset + 4))
          else if function = modbusFcReportSlaveId then
            (byteAt rsp (offset + 1), byteAt rsp (offset + 1))
          else (1, 1)
        if reqNbValue = rspNbValue then rspNbValue else -1
    else -1

def confirm (ctx : ModbusT) (function addr nb : Nat) (answers : Answers) (line : Line) :
    Int × List Byte × Line :=
  let req := buildRequestBasis ctx function addr nb
  let (rc, line) := sendMsg req answers line
  if rc > 0 then
    match receiveMsg ctx line with
    | (rc, rsp, line) =>
      if rc = -1 then (-1, rsp, line) else (checkConfirmation req rsp rc, rsp, line)
  else (rc, [], line)

def bitsOf (b : Byte) : List Byte :=
  (List.range 8).map fun k => if b.toNat.testBit k then 1 else 0

def readIoStatus (ctx : ModbusT) (function addr nb : Nat) (answers : Answers) (line : Line) :
    Int × List Byte × Line :=
  match confirm ctx function addr nb answers line with
  | (rc, rsp, line) =>
    if rc = -1 then (-1, [], line)
    else
      let offset := modbusRtuHeaderLength + 2
      (rc, (((rsp.drop offset).take rc.toNat).flatMap bitsOf).take nb, line)

def readRegisters (ctx : ModbusT) (function addr nb : Nat) (answers : Answers) (line : Line) :
    Int × List UInt16 × Line :=
  if nb > modbusMaxReadRegisters then (-1, [], line)
  else
    match confirm ctx function addr nb answers line with
    | (rc, rsp, line) =>
      if rc = -1 then (-1, [], line)
      else
        let offset := modbusRtuHeaderLength
        (rc, (List.range rc.toNat).map fun i =>
          .ofNat (byteAt rsp (offset + 2 + 2 * i) * 256 + byteAt rsp (offset + 3 + 2 * i)), line)

def readBitsWith (function : Nat) (ctx : Option ModbusT) (addr nb : Nat) (answers : Answers)
    (line : Line) : Int × List Byte × Line :=
  match ctx with
  | none => (-1, [], line)
  | some ctx =>
    if nb > modbusMaxReadBits then (-1, [], line)
    else
      match readIoStatus ctx function addr nb answers line with
      | (rc, dest, line) => (if rc = -1 then -1 else nb, dest, line)

def modbusReadBits := readBitsWith modbusFcReadCoils

def modbusReadInputBits := readBitsWith modbusFcReadDiscreteInputs

def readRegistersWith (function : Nat) (ctx : Option ModbusT) (addr nb : Nat) (answers : Answers)
    (line : Line) : Int × List UInt16 × Line :=
  match ctx with
  | none => (-1, [], line)
  | some ctx =>
    if nb > modbusMaxReadRegisters then (-1, [], line)
    else readRegisters ctx function addr nb answers line

def modbusReadRegisters := readRegistersWith modbusFcReadHoldingRegisters

def modbusReadInputRegisters := readRegistersWith modbusFcReadInputRegisters

end EspBridges.Icom
