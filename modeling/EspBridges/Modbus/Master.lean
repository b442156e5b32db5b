import EspBridges.Modbus.Receive

/-! The calls of a master: each is a request and what is made of the confirmation. -/

namespace EspBridges.Modbus

open Bytes Icom

def modbusMaxWriteBits : Nat := 1968
def modbusMaxWriteRegisters : Nat := 123
def modbusMaxWrWriteRegisters : Nat := 121
def modbusMaxWrReadRegisters : Nat := 125
def modbusMaxPduLength : Nat := 253

structure Got where
  rc : Int
  bytes : List Byte := []
  words : List UInt16 := []
  deriving DecidableEq

abbrev Reply := Except Errno Got × Line

/-- What two bytes hold of an `int`. -/
def onLine (x : Int) : Nat := (x % 65536).toNat

def buildRequestBasis (ctx : ModbusT) (function : Nat) (addr nb : Int) : List Byte :=
  Icom.buildRequestBasis ctx function (onLine addr) (onLine nb)

def wordBytes (value : Nat) : List Byte := [.ofNat (value / 256), .ofNat value]

def wordAt (msg : List Byte) (i : Nat) : Nat := byteAt msg i * 256 + byteAt msg (i + 1)

def wordsFrom (msg : List Byte) (offset nb : Nat) : List UInt16 :=
  (List.range nb).map fun i => .ofNat (wordAt msg (offset + 2 * i))

def bitBytes (nb : Nat) : Nat := nb / 8 + if nb % 8 ≠ 0 then 1 else 0

/-- Division truncates, of a negative count as well. -/
def byteCount (nb : Int) : Int := nb.tdiv 8 + if nb.tmod 8 ≠ 0 then 1 else 0

/-- What `nb` elements at `src` are; a negative count is none. -/
def elements {α : Type} (nb : Int) (src : Nat → α) : List α := (List.range nb.toNat).map src

def readIoStatus (ctx : ModbusT) (function : Nat) (addr nb : Int) (answers : Answers)
    (line : Line) : Reply :=
  let (confirmation, line) := exchange ctx (buildRequestBasis ctx function addr nb) answers line
  let offset := modbusRtuHeaderLength + 2
  (confirmation.map fun (rc, rsp) =>
    ⟨rc, (((rsp.drop offset).take rc).flatMap bitsOf).take nb.toNat, []⟩, line)

def readBitsWith (function : Nat) (ctx : Option ModbusT) (addr nb : Int) (answers : Answers)
    (line : Line) : Reply :=
  match ctx with
  | none => (.error .einval, line)
  | some ctx =>
    if nb > modbusMaxReadBits then (.error .mData, line)
    else
      let (got, line) := readIoStatus ctx function addr nb answers line
      (got.map ({ · with rc := nb }), line)

def modbusReadBits := readBitsWith modbusFcReadCoils

def modbusReadInputBits := readBitsWith modbusFcReadDiscreteInputs

def readRegisters (ctx : ModbusT) (function : Nat) (addr nb : Int) (answers : Answers)
    (line : Line) : Reply :=
  if nb > modbusMaxReadRegisters then (.error .mData, line)
  else
    let (confirmation, line) := exchange ctx (buildRequestBasis ctx function addr nb) answers line
    (confirmation.map fun (rc, rsp) =>
      ⟨rc, [], wordsFrom rsp (modbusRtuHeaderLength + 2) rc⟩, line)

def readRegistersWith (function : Nat) (ctx : Option ModbusT) (addr nb : Int) (answers : Answers)
    (line : Line) : Reply :=
  match ctx with
  | none => (.error .einval, line)
  | some ctx =>
    if nb > modbusMaxReadRegisters then (.error .mData, line)
    else readRegisters ctx function addr nb answers line

def modbusReadRegisters := readRegistersWith modbusFcReadHoldingRegisters

def modbusReadInputRegisters := readRegistersWith modbusFcReadInputRegisters

def confirmed (ctx : ModbusT) (req : List Byte) (answers : Answers) (line : Line) : Reply :=
  let (confirmation, line) := exchange ctx req answers line
  (confirmation.map fun (rc, _) => ⟨rc, [], []⟩, line)

def writeSingle (ctx : Option ModbusT) (function : Nat) (addr : Int) (value : Nat)
    (answers : Answers) (line : Line) : Reply :=
  match ctx with
  | none => (.error .einval, line)
  | some ctx => confirmed ctx (buildRequestBasis ctx function addr value) answers line

def modbusWriteBit (ctx : Option ModbusT) (addr status : Int) (answers : Answers) (line : Line) :
    Reply :=
  match ctx with
  | none => (.error .einval, line)
  | some ctx =>
    writeSingle (some ctx) modbusFcWriteSingleCoil addr (if status ≠ 0 then 0xFF00 else 0) answers
      line

def modbusWriteRegister (ctx : Option ModbusT) (addr : Int) (value : UInt16) (answers : Answers)
    (line : Line) : Reply :=
  match ctx with
  | none => (.error .einval, line)
  | some ctx => writeSingle (some ctx) modbusFcWriteSingleRegister addr value.toNat answers line

def packByte (src : List Byte) (i : Nat) : Byte :=
  (List.range 8).foldl (fun byte bit =>
    if 8 * i + bit < src.length ∧ src.getD (8 * i + bit) 0 ≠ 0 then byte ||| .ofNat (1 <<< bit)
    else byte) 0

def modbusWriteBits (ctx : Option ModbusT) (addr nb : Int) (src : Nat → Byte) (answers : Answers)
    (line : Line) : Reply :=
  match ctx with
  | none => (.error .einval, line)
  | some ctx =>
    if nb > modbusMaxWriteBits then (.error .mData, line)
    else
      let req := buildRequestBasis ctx modbusFcWriteMultipleCoils addr nb ++
        [.ofInt (byteCount nb)] ++
        (List.range (byteCount nb).toNat).map (packByte (elements nb src))
      confirmed ctx req answers line

def modbusWriteRegisters (ctx : Option ModbusT) (addr nb : Int) (src : Nat → UInt16)
    (answers : Answers) (line : Line) : Reply :=
  match ctx with
  | none => (.error .einval, line)
  | some ctx =>
    if nb > modbusMaxWriteRegisters then (.error .mData, line)
    else
      let req := buildRequestBasis ctx modbusFcWriteMultipleRegisters addr nb ++
        [.ofInt (nb * 2)] ++ (elements nb src).flatMap fun value => wordBytes value.toNat
      confirmed ctx req answers line

/-- The count of the basis gives way to the masks.  The context is not compared with `NULL` here. -/
def modbusMaskWriteRegister (ctx : ModbusT) (addr : Int) (andMask orMask : UInt16)
    (answers : Answers) (line : Line) : Reply :=
  let basis := buildRequestBasis ctx modbusFcMaskWriteRegister addr 0
  let req := basis.take (basis.length - 2) ++ wordBytes andMask.toNat ++ wordBytes orMask.toNat
  confirmed ctx req answers line

def modbusWriteAndReadRegisters (ctx : Option ModbusT) (writeAddr writeNb : Int)
    (src : Nat → UInt16) (readAddr readNb : Int) (answers : Answers) (line : Line) : Reply :=
  match ctx with
  | none => (.error .einval, line)
  | some ctx =>
    if writeNb > modbusMaxWrWriteRegisters then (.error .mData, line)
    else if readNb > modbusMaxWrReadRegisters then (.error .mData, line)
    else
      let req := buildRequestBasis ctx modbusFcWriteAndReadRegisters readAddr readNb ++
        wordBytes (onLine writeAddr) ++ wordBytes (onLine writeNb) ++ [.ofInt (writeNb * 2)] ++
        (elements writeNb src).flatMap fun value => wordBytes value.toNat
      let (confirmation, line) := exchange ctx req answers line
      (confirmation.map fun (rc, rsp) =>
        ⟨rc, [], wordsFrom rsp (modbusRtuHeaderLength + 2) rc⟩, line)

/-- Neither the address nor the count of the basis is sent. -/
def modbusReportSlaveId (ctx : Option ModbusT) (maxDest : Int) (answers : Answers) (line : Line) :
    Reply :=
  match ctx with
  | none => (.error .einval, line)
  | some ctx =>
    if maxDest ≤ 0 then (.error .einval, line)
    else
      let basis := buildRequestBasis ctx modbusFcReportSlaveId 0 0
      let (confirmation, line) := exchange ctx (basis.take (basis.length - 4)) answers line
      let offset := modbusRtuHeaderLength + 2
      (confirmation.map fun (rc, rsp) =>
        ⟨rc, ((rsp.drop offset).take rc).take maxDest.toNat, []⟩, line)

inductive Call
  | readBits (addr nb : Int)
  | readInputBits (addr nb : Int)
  | readRegisters (addr nb : Int)
  | readInputRegisters (addr nb : Int)
  | writeBit (addr status : Int)
  | writeRegister (addr : Int) (value : UInt16)
  | writeBits (addr nb : Int) (src : Nat → Byte)
  | writeRegisters (addr nb : Int) (src : Nat → UInt16)
  | maskWriteRegister (addr : Int) (andMask orMask : UInt16)
  | writeAndReadRegisters (writeAddr writeNb : Int) (src : Nat → UInt16) (readAddr readNb : Int)
  | reportSlaveId (maxDest : Int)

def Call.make (call : Call) (ctx : ModbusT) : Answers → Line → Reply :=
  match call with
  | readBits addr nb => modbusReadBits (some ctx) addr nb
  | readInputBits addr nb => modbusReadInputBits (some ctx) addr nb
  | readRegisters addr nb => modbusReadRegisters (some ctx) addr nb
  | readInputRegisters addr nb => modbusReadInputRegisters (some ctx) addr nb
  | writeBit addr status => modbusWriteBit (some ctx) addr status
  | writeRegister addr value => modbusWriteRegister (some ctx) addr value
  | writeBits addr nb src => modbusWriteBits (some ctx) addr nb src
  | writeRegisters addr nb src => modbusWriteRegisters (some ctx) addr nb src
  | maskWriteRegister addr andMask orMask => modbusMaskWriteRegister ctx addr andMask orMask
  | writeAndReadRegisters writeAddr writeNb src readAddr readNb =>
    modbusWriteAndReadRegisters (some ctx) writeAddr writeNb src readAddr readNb
  | reportSlaveId maxDest => modbusReportSlaveId (some ctx) maxDest

/-- `modbus_send_raw_request`; a reply to it is read with `modbus_receive_confirmation`. -/
def modbusSendRawRequest (ctx : Option ModbusT) (rawReq : List Byte) (answers : Answers)
    (line : Line) : Except Errno Nat × Line :=
  match ctx with
  | none => (.error .einval, line)
  | some _ =>
    if rawReq.length < 2 ∨ rawReq.length > modbusMaxPduLength + 1 then (.error .einval, line)
    else
      let (rc, line) := sendMsg rawReq answers line
      (.ok rc, line)

def modbusReceiveConfirmation (ctx : Option ModbusT) (line : Line) :
    Except Errno Nat × List Byte × Line :=
  match ctx with
  | none => (.error .einval, [], line)
  | some ctx => receiveMsg .confirmation ctx line

end EspBridges.Modbus
