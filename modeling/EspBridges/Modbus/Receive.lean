import EspBridges.Icom.Modbus

/-! How `modbus.c` takes a message off the line, on either side of it, and what the errors are. -/

namespace EspBridges.Modbus

open Bytes Icom

def modbusExceptionIllegalFunction : Nat := 0x01
def modbusExceptionIllegalDataAddress : Nat := 0x02
def modbusExceptionIllegalDataValue : Nat := 0x03
def modbusExceptionGatewayTarget : Nat := 0x0B
def modbusExceptionMax : Nat := 0x0C

/-- `errno`, with the codes of the library counted from `MODBUS_ENOBASE`. -/
inductive Errno
  | einval
  | etimedout
  | enoprotoopt
  | emb (code : Nat)
  deriving DecidableEq

def Errno.badCrc : Errno := .emb (modbusExceptionGatewayTarget + 1)
def Errno.badData : Errno := .emb (modbusExceptionGatewayTarget + 2)
def Errno.badExc : Errno := .emb (modbusExceptionGatewayTarget + 3)
def Errno.mData : Errno := .emb (modbusExceptionGatewayTarget + 5)
def Errno.badSlave : Errno := .emb (modbusExceptionGatewayTarget + 6)

inductive MsgType
  | indication
  | confirmation

def computeMetaLengthAfterFunction (function : Nat) : MsgType → Nat
  | .indication =>
    if function ≤ modbusFcWriteSingleRegister then 4
    else if function = modbusFcWriteMultipleCoils ∨ function = modbusFcWriteMultipleRegisters then 5
    else if function = modbusFcMaskWriteRegister then 6
    else if function = modbusFcWriteAndReadRegisters then 9
    else 0
  | .confirmation => Icom.computeMetaLengthAfterFunction function

def computeDataLengthAfterMeta (msg : List Byte) : MsgType → Nat
  | .indication =>
    let function := byteAt msg modbusRtuHeaderLength
    let length :=
      if function = modbusFcWriteMultipleCoils ∨ function = modbusFcWriteMultipleRegisters then
        byteAt msg (modbusRtuHeaderLength + 5)
      else if function = modbusFcWriteAndReadRegisters then byteAt msg (modbusRtuHeaderLength + 9)
      else 0
    length + modbusRtuChecksumLength
  | .confirmation => Icom.computeDataLengthAfterMeta msg

/-- A message for another unit is one of length 0. -/
def checkIntegrity (ctx : ModbusT) (msg : List Byte) : Except Errno Nat :=
  let rc := Icom.checkIntegrity ctx msg
  if rc = -1 then .error .badCrc else .ok rc.toNat

/-- `_modbus_receive_msg`; when there is nothing after the function, no meta is waited for. -/
def receiveMsg (type : MsgType) (ctx : ModbusT) (line : Line) :
    Except Errno Nat × List Byte × Line :=
  match line.recv (modbusRtuHeaderLength + 1) with
  | (none, line) => (.error .etimedout, [], line)
  | (some head, line) =>
    match line.recv (computeMetaLengthAfterFunction (byteAt head modbusRtuHeaderLength) type) with
    | (none, line) => (.error .etimedout, [], line)
    | (some more, line) =>
      let msg := head ++ more
      let length := computeDataLengthAfterMeta msg type
      if msg.length + length > modbusRtuMaxAduLength then (.error .badData, msg, line)
      else
        match line.recv length with
        | (none, line) => (.error .etimedout, [], line)
        | (some data, line) => (checkIntegrity ctx (msg ++ data), msg ++ data, line)

def confirmationErrno (req rsp : List Byte) (rspLength : Nat) : Errno :=
  let offset := modbusRtuHeaderLength
  let function := byteAt rsp offset
  if preCheckConfirmation req rsp = -1 then .badSlave
  else if function ≥ 0x80 then
    if rspLength = offset + 2 + modbusRtuChecksumLength ∧ byteAt req offset = function - 0x80 then
      let exceptionCode := byteAt rsp (offset + 1)
      if exceptionCode < modbusExceptionMax then .emb exceptionCode else .badExc
    else .badExc
  else .badData

def checkConfirmation (req rsp : List Byte) (rspLength : Nat) : Except Errno Nat :=
  let rc := Icom.checkConfirmation req rsp rspLength
  if rc = -1 then .error (confirmationErrno req rsp rspLength) else .ok rc.toNat

def exchange (ctx : ModbusT) (req : List Byte) (answers : Answers) (line : Line) :
    Except Errno (Nat × List Byte) × Line :=
  let (rc, line) := sendMsg req answers line
  if rc > 0 then
    match receiveMsg .confirmation ctx line with
    | (.error e, _, line) => (.error e, line)
    | (.ok rc, rsp, line) => ((checkConfirmation req rsp rc).map fun rc => (rc, rsp), line)
  else (.ok (rc, []), line)

end EspBridges.Modbus
