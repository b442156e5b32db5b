import EspBridges.Lib.Bytes
import EspBridges.Lib.Program

/-! `icom_config_storage.c`: the start-up configuration, and how it is saved to flash. -/

namespace EspBridges.Icom

open Bytes

structure IcomMbusRegInfo where
  regType : Byte
  regAddress : UInt16
  pollingFreqSec : UInt16
  pollTimer : UInt32

def maxConfigurableRegisters : Nat := 100

structure IcomStartupConfig where
  slaveAddress : Int32
  cfgRegCount : Int32
  mbusReg : Fin maxConfigurableRegisters → IcomMbusRegInfo
  cloudProtocolFlag : Byte
  mqttBroker : Buf 100
  mqttBrokerUsername : Buf 32
  mqttBrokerPasswd : Buf 32
  httpServer : Buf 100

def le16 (x : UInt16) : List Byte := [x.toUInt8, (x >>> 8).toUInt8]

def le32 (x : UInt32) : List Byte :=
  [x.toUInt8, (x >>> 8).toUInt8, (x >>> 16).toUInt8, (x >>> 24).toUInt8]

/-- The row as it lies in memory, with the padding around its fields. -/
def IcomMbusRegInfo.bytes (r : IcomMbusRegInfo) : List Byte :=
  [r.regType, 0] ++ le16 r.regAddress ++ le16 r.pollingFreqSec ++ [0, 0] ++ le32 r.pollTimer

namespace IcomStartupConfig

def zero : IcomStartupConfig :=
  ⟨0, 0, fun _ => ⟨0, 0, 0, 0⟩, 0, Buf.zero, Buf.zero, Buf.zero, Buf.zero⟩

def bytes (c : IcomStartupConfig) : List Byte :=
  le32 c.slaveAddress.toUInt32 ++ le32 c.cfgRegCount.toUInt32 ++
    (List.ofFn c.mbusReg).flatMap IcomMbusRegInfo.bytes ++ [c.cloudProtocolFlag] ++
    List.ofFn c.mqttBroker ++ List.ofFn c.mqttBrokerUsername ++ List.ofFn c.mqttBrokerPasswd ++
    List.ofFn c.httpServer ++ [0, 0, 0]

end IcomStartupConfig

def sizeofIcomStartupConfig : Nat := 1476

abbrev EspErr := Int

def espOk : EspErr := 0
def espErrNvsNotFound : EspErr := 0x1102
def espErrNvsInvalidHandle : EspErr := 0x1107
def espErrNvsInvalidLength : EspErr := 0x110C

abbrev Fault := { err : EspErr // err ≠ espOk }

abbrev Store := String → Option (List Byte)

/-- `heap b` is what lies from the start of block `b` on, and `beyond b` how many bytes behind the
block can be loaded. -/
structure Ram where
  heap : Nat → Nat → Byte
  beyond : Nat → Nat

/-- `store` is what flash holds, `cache` what it will hold with the next commit.  Call number
`k` of the system fails when `fault k` says so. -/
structure Sys where
  startupCfg : IcomStartupConfig
  cache : Store
  store : Store
  handles : List Nat
  nextHandle : Nat
  blocks : List Nat
  nextBlock : Nat
  overrun : Bool
  ram : Ram
  fault : Nat → Option Fault
  calls : Nat

/-- A reboot: the statics are zero again, and only flash is left of the rest. -/
def Sys.reboot (s : Sys) (fault : Nat → Option Fault) (ram : Ram) : Sys where
  startupCfg := .zero
  cache := s.store
  store := s.store
  handles := []
  nextHandle := 1
  blocks := []
  nextBlock := 1
  overrun := false
  ram := ram
  fault := fault
  calls := 0

def Ram.filled (m : Ram) (block : Nat) (blob : List Byte) (i : Nat) : Byte :=
  if i < blob.length then blob.getD i 0 else m.heap block i

def Ram.fill (m : Ram) (block : Nat) (blob : List Byte) : Ram :=
  { m with heap := fun b => if b = block then m.filled block blob else m.heap b }

@[simp] theorem Ram.fill_heap (m : Ram) (block : Nat) (blob : List Byte) :
    (m.fill block blob).heap block = m.filled block blob := if_pos rfl

def attempt (failed : Fault → α) (work : Sys → α × Sys) : Program Sys α := fun s =>
  match s.fault s.calls with
  | some err => some (failed err, { s with calls := s.calls + 1 })
  | none => some (work { s with calls := s.calls + 1 })

def nvsFlashInit : Program Sys EspErr := attempt Subtype.val fun s => (espOk, s)

def nvsOpen : Program Sys (EspErr × Nat) :=
  attempt (fun err => (err.val, 0)) fun s =>
    ((espOk, s.nextHandle),
      { s with handles := s.nextHandle :: s.handles, nextHandle := s.nextHandle + 1 })

/-- The error, and what the call leaves in `*length`.  The block that `outValue` points to has
room for a configuration. -/
def nvsGetBlob (handle : Nat) (key : String) (outValue : Option Nat) (length : Nat) :
    Program Sys (EspErr × Nat) :=
  attempt (fun err => (err.val, length)) fun s =>
    if handle ∉ s.handles then ((espErrNvsInvalidHandle, length), s)
    else
      match s.cache key, outValue with
      | none, _ => ((espErrNvsNotFound, length), s)
      | some blob, none => ((espOk, blob.length), s)
      | some blob, some block =>
        if length < blob.length then ((espErrNvsInvalidLength, blob.length), s)
        else
          ((espOk, blob.length), { s with
            overrun := s.overrun || sizeofIcomStartupConfig < blob.length
            ram := s.ram.fill block blob })

def nvsSetBlob (handle : Nat) (key : String) (value : List Byte) : Program Sys EspErr :=
  attempt Subtype.val fun s =>
    if handle ∉ s.handles then (espErrNvsInvalidHandle, s)
    else (espOk, { s with cache := fun k => if k = key then some value else s.cache k })

def nvsCommit (handle : Nat) : Program Sys EspErr :=
  attempt Subtype.val fun s =>
    if handle ∉ s.handles then (espErrNvsInvalidHandle, s)
    else (espOk, { s with store := s.cache })

def nvsClose (handle : Nat) : Program Sys Unit :=
  modify fun s => { s with handles := s.handles.erase handle }

def malloc : Program Sys (Option Nat) :=
  attempt (fun _ => none) fun s =>
    (some s.nextBlock, { s with blocks := s.nextBlock :: s.blocks, nextBlock := s.nextBlock + 1 })

def free (block : Option Nat) : Program Sys Unit :=
  modify fun s => { s with blocks := s.blocks.filter fun b => block ≠ some b }

/-- `n` bytes from byte `offset` of a block on.  A load faults where there is no memory. -/
def load (block offset n : Nat) : Program Sys (List Byte) := fun s =>
  if offset + n ≤ sizeofIcomStartupConfig + s.ram.beyond block then
    some ((List.range n).map fun i => s.ram.heap block (offset + i), s)
  else none

def intOf (bytes : List Byte) : Int32 :=
  (UInt32.ofNat (bytes.foldr (fun b n => b.toNat + 256 * n) 0)).toInt32

def printRow (block i : Nat) : Program Sys Unit := do
  let _ ← load block (8 + 12 * i) 1
  let _ ← load block (8 + 12 * i + 2) 2
  let _ ← load block (8 + 12 * i + 4) 2

/-- The count is the one that was read, and nothing checks it. -/
def printConfig (block : Nat) : Program Sys Unit := do
  let _ ← load block 0 4
  let cfgRegCount ← load block 4 4
  (List.range (intOf cfgRegCount).toInt.toNat).forM (printRow block)

def populateRows (n : Nat) (c : IcomStartupConfig) : IcomStartupConfig :=
  { c with mbusReg := fun i =>
      if i.val < n then
        { c.mbusReg i with regType := 0x03, regAddress := .ofNat i.val, pollingFreqSec := 5 }
      else c.mbusReg i }

def populateDummyCfg (c : IcomStartupConfig) : IcomStartupConfig :=
  let c := { c with slaveAddress := 100, cfgRegCount := 1 }
  populateRows c.cfgRegCount.toInt.toNat c

/-- "Read previously saved blob if available". -/
def readPrevious (myHandle : Nat) (runTime : Option Nat) (requiredSize : Nat) :
    Program Sys (EspErr × Nat) :=
  if requiredSize > 0 then nvsGetBlob myHandle "mbus_cfg" runTime requiredSize
  else pure (espOk, requiredSize)

def icomWriteMbusRegConfig : Program Sys EspErr := do
  let (err, myHandle) ← nvsOpen
  if err ≠ espOk then return err
  else
    let (err, requiredSize) ← nvsGetBlob myHandle "mbus_cfg" none 0
    if err ≠ espOk ∧ err ≠ espErrNvsNotFound then return err
    else
      let runTime ← malloc
      let (err, _) ← readPrevious myHandle runTime requiredSize
      if err ≠ espOk then
        free runTime
        return err
      else if runTime = none then failure  -- the copy to `NULL`
      else
        let err ← nvsSetBlob myHandle "mbus_cfg" (← get).startupCfg.bytes
        free runTime
        if err ≠ espOk then return err
        else
          let err ← nvsCommit myHandle
          if err ≠ espOk then return err
          else
            nvsClose myHandle
            return espOk

/-- What is read is printed and freed; `startup_cfg` is not what it is read to. -/
def icomReadMbusRegConfig : Program Sys EspErr := do
  let (err, myHandle) ← nvsOpen
  if err ≠ espOk then return err
  else
    let (err, requiredSize) ← nvsGetBlob myHandle "mbus_cfg" none 0
    if err ≠ espOk ∧ err ≠ espErrNvsNotFound then return err
    else if requiredSize = 0 then
      nvsClose myHandle
      return espOk
    else
      match ← malloc with
      | none =>
        nvsClose myHandle
        return 1
      | some runTime =>
        let (err, _) ← nvsGetBlob myHandle "mbus_cfg" (some runTime) requiredSize
        if err ≠ espOk then
          free (some runTime)
          return err
        else
          printConfig runTime
          free (some runTime)
          nvsClose myHandle
          return espOk

def icomInitConfigSubsys : Program Sys Unit := do
  let _ ← nvsFlashInit
  modify fun s => { s with startupCfg := populateDummyCfg s.startupCfg }

def icomGetConfiguredModbusRegisterCount (c : IcomStartupConfig) : Int32 := c.cfgRegCount

/-- `none` is `NULL`; otherwise which row of `mbus_reg` the pointer is at. -/
def icomGetConfiguredModbusRegister (index : Int) : Option Int :=
  if index > maxConfigurableRegisters then none else some index

inductive StaticObj where
  | startupCfg

def IcomStartupConfig.at (c : IcomStartupConfig) (w : Wild StaticObj) (offset : Nat) : View :=
  ⟨fun i => c.bytes.getD (offset + i) (w.byte .startupCfg (offset + i)),
    sizeofIcomStartupConfig - offset, w.run .startupCfg⟩

/-- The string at a field, when it is not empty; `none` is a return of 1. -/
def configuredText (text : View) : Option (List Byte) :=
  if text.strlen = 0 then none else some (text.bytes text.strlen)

def icomGetConfiguredMqttBroker (c : IcomStartupConfig) (w : Wild StaticObj) :
    Option (List Byte) := configuredText (c.at w 1209)

def icomGetConfiguredMqttBrokerUsername (c : IcomStartupConfig) (w : Wild StaticObj) :
    Option (List Byte) := configuredText (c.at w 1309)

def icomGetConfiguredMqttBrokerPasswd (c : IcomStartupConfig) (w : Wild StaticObj) :
    Option (List Byte) := configuredText (c.at w 1341)

def icomGetConfiguredHttpServer (c : IcomStartupConfig) (w : Wild StaticObj) :
    Option (List Byte) := configuredText (c.at w 1373)

abbrev CStr := { s : List Byte // ∀ x ∈ s, x ≠ 0 }

def copied (text : List Byte) (offset base : Nat) (field : Buf n) : Buf n := fun j =>
  if offset ≤ base + j.val then text.getD (base + j.val - offset) (field j) else field j

/-- `strcpy` to a field.  It goes on into the fields behind; past the last one it is dropped. -/
def IcomStartupConfig.strcpy (c : IcomStartupConfig) (offset : Nat) (p : CStr) :
    IcomStartupConfig :=
  let text := p.val ++ [0]
  { c with
    mqttBroker := copied text offset 1209 c.mqttBroker
    mqttBrokerUsername := copied text offset 1309 c.mqttBrokerUsername
    mqttBrokerPasswd := copied text offset 1341 c.mqttBrokerPasswd
    httpServer := copied text offset 1373 c.httpServer }

def configureText (offset : Nat) (p : CStr) (c : IcomStartupConfig) : Nat × IcomStartupConfig :=
  if p.val.length = 0 then (1, c) else (0, c.strcpy offset p)

def icomSetConfiguredHttpServer := configureText 1373

def icomSetConfiguredMqttBroker := configureText 1209

def icomSetConfiguredMqttBrokerUsername := configureText 1309

def icomSetConfiguredMqttBrokerPasswd := configureText 1341

end EspBridges.Icom
