import EspBridges.Icom.Timer

/-! `icom_modbus_task.c`: the task that polls the configured registers of the slave. -/

namespace EspBridges.Icom

open Bytes

def icomMbusCoilStatusReg : Byte := 0x01
def icomMbusInputStatusReg : Byte := 0x02
def icomMbusHoldingReg : Byte := 0x03
def icomMbusInputReg : Byte := 0x04

def icomModbusRegCount : Nat := 1

/-- `ICOM_MBUS_RT_REG_INFO`; `pMbusConfReg` points to a row of the configuration. -/
structure IcomMbusRtRegInfo where
  regAddress : UInt16
  regBits : Byte
  regValue : UInt16
  timerHandle : Option Nat
  pMbusConfReg : Option (Fin maxConfigurableRegisters)

structure ModbusTask where
  startupCfg : IcomStartupConfig
  pModbusRtuCtx : Option ModbusT
  pModbusRtuClientTimer : Option Nat
  modbusClientConnectFlag : Byte
  mbusRegRtInfo : Fin maxConfigurableRegisters → IcomMbusRtRegInfo
  timers : TimerSys
  line : Line

def ModbusTask.boot (cfg : IcomStartupConfig) : ModbusTask where
  startupCfg := cfg
  pModbusRtuCtx := none
  pModbusRtuClientTimer := none
  modbusClientConnectFlag := 0
  mbusRegRtInfo := fun _ => ⟨0, 0, 0, none, none⟩
  timers := ⟨[], []⟩
  line := ⟨[], []⟩

def icomModbusConnectToClient (fd : Int) (t : ModbusTask) : Nat × ModbusTask :=
  match modbusConnect t.pModbusRtuCtx fd with
  | (rc, ctx) =>
    if rc = -1 then (1, t)
    else (0, { t with pModbusRtuCtx := ctx, modbusClientConnectFlag := 1 })

/-- `pArg` is the timer whose callback it is; `none` where it writes through a `NULL`. -/
def icomModbusClientConnectTimerCallback (pArg : Option Nat) (fd : Int) (t : ModbusTask) :
    Option (Nat × ModbusTask) :=
  let (rc, t) := icomModbusConnectToClient fd t
  if rc = 0 then
    pArg.map fun pTimer =>
      let hndls := t.timers.hndls.modify pTimer fun hndl => { hndl with repeatFlag := 0 }
      (0, { t with timers := { t.timers with hndls := hndls } })
  else some (0, t)

/-- What the calls that `icom_modbus_init` makes come to. -/
structure InitOutcome where
  ctxAllocated : Bool
  fd : Int
  timerAllocated : Bool

def icomModbusInit (o : InitOutcome) (t : ModbusTask) : Option (Nat × ModbusTask) :=
  let t := { t with pModbusRtuCtx := if o.ctxAllocated then some modbusNewRtu else none }
  let (rc, t) := icomModbusConnectToClient o.fd t
  if rc = 0 then some (0, t)
  else
    let (hndl, timers) := icomCreateTimer o.timerAllocated healthPingTimerId
      .icomModbusClientConnectTimerCallback .null t.timers
    let t := { t with pModbusRtuClientTimer := hndl, timers := timers }
    match hndl with
    | none => some (1, t)
    | some pTimer =>
      (icomStartTimer pTimer 5 1 t.timers).map fun timers => (1, { t with timers := timers })

def ModbusTask.setRow (t : ModbusTask) (i : Fin maxConfigurableRegisters)
    (row : IcomMbusRtRegInfo) : ModbusTask :=
  { t with mbusRegRtInfo := fun k => if k = i then row else t.mbusRegRtInfo k }

section SetRow

variable (t : ModbusTask) {i k : Fin maxConfigurableRegisters} (row : IcomMbusRtRegInfo)

@[simp] theorem setRow_row (i : Fin maxConfigurableRegisters) : (t.setRow i row).mbusRegRtInfo i = row :=
  if_pos rfl

@[simp] theorem setRow_other (h : k ≠ i) : (t.setRow i row).mbusRegRtInfo k = t.mbusRegRtInfo k := if_neg h

variable {row}

theorem setRow_keeps {α : Type} (f : IcomMbusRtRegInfo → α) (h : f row = f (t.mbusRegRtInfo i)) :
    f ((t.setRow i row).mbusRegRtInfo k) = f (t.mbusRegRtInfo k) := by
  by_cases hk : k = i
  · rw [hk, setRow_row, h]
  · rw [setRow_other t row hk]

theorem setRow_same (i : Fin maxConfigurableRegisters) : t.setRow i (t.mbusRegRtInfo i) = t := by
  have hrows : (t.setRow i (t.mbusRegRtInfo i)).mbusRegRtInfo = t.mbusRegRtInfo :=
    funext fun k => setRow_keeps t id rfl
  show { t with mbusRegRtInfo := (t.setRow i (t.mbusRegRtInfo i)).mbusRegRtInfo } = t
  rw [hrows]

end SetRow

/-- One turn of the loop; `none` where it reads through a `NULL` or past the tables. -/
def createPollTimer (allocated : Bool) (i : Nat) (t : ModbusTask) : Option ModbusTask :=
  match icomGetConfiguredModbusRegister i with
  | none => none
  | some _ =>
    if hi : i < maxConfigurableRegisters then
      let pMbusReg := t.startupCfg.mbusReg ⟨i, hi⟩
      let (hndl, timers) := icomCreateTimer allocated healthPingTimerId
        .icomModbusRtuRegPollCallback (.rtRow i) t.timers
      let t := { t with timers := timers }.setRow ⟨i, hi⟩ { t.mbusRegRtInfo ⟨i, hi⟩ with
        regAddress := pMbusReg.regAddress
        pMbusConfReg := some ⟨i, hi⟩
        timerHandle := hndl }
      match hndl with
      | none => some t
      | some pTimer =>
        (icomStartTimer pTimer pMbusReg.pollingFreqSec.toUInt32 1 t.timers).map fun timers =>
          { t with timers := timers }
    else none

def icomCreateModbusRtuPollTimers (allocated : Nat → Bool) (t : ModbusTask) : Option ModbusTask :=
  (List.range (icomGetConfiguredModbusRegisterCount t.startupCfg).toInt.toNat).foldlM
    (fun t i => createPollTimer (allocated i) i t) t

def icomModbusTask (o : InitOutcome) (allocated : Nat → Bool) (cfg : IcomStartupConfig) :
    Option ModbusTask :=
  (icomModbusInit o (.boot cfg)).bind fun r => icomCreateModbusRtuPollTimers allocated r.2

section Cases

variable (i : Fin maxConfigurableRegisters) (addr : Nat) (answers : Answers) (t : ModbusTask)

def pollBits (read : Option ModbusT → Nat → Nat → Answers → Line → Int × List Byte × Line) :
    ModbusTask :=
  let (_, dest, line) := read t.pModbusRtuCtx addr icomModbusRegCount answers t.line
  let row := t.mbusRegRtInfo i
  { t with line := line }.setRow i { row with regBits := dest.getD 0 row.regBits }

def pollValue (read : Option ModbusT → Nat → Nat → Answers → Line → Int × List UInt16 × Line) :
    ModbusTask :=
  let (_, dest, line) := read t.pModbusRtuCtx addr icomModbusRegCount answers t.line
  let row := t.mbusRegRtInfo i
  { t with line := line }.setRow i { row with regValue := dest.getD 0 row.regValue }

end Cases

/-- The cases of the coils and of the inputs have no `break`. -/
def icomModbusRtuRegPollCallback (pArg : Option (Fin maxConfigurableRegisters))
    (answers : Answers) (t : ModbusTask) : Nat × ModbusTask :=
  match pArg with
  | none => (1, t)
  | some i =>
    match (t.mbusRegRtInfo i).pMbusConfReg with
    | none => (2, t)
    | some conf =>
      let reg := t.startupCfg.mbusReg conf
      let addr := reg.regAddress.toNat
      let coils t := pollBits i addr answers t modbusReadBits
      let inputs t := pollBits i addr answers t modbusReadInputBits
      let holding t := pollValue i addr answers t modbusReadRegisters
      let inputRegisters t := pollValue i addr answers t modbusReadInputRegisters
      if reg.regType = icomMbusCoilStatusReg then (0, holding (inputs (coils t)))
      else if reg.regType = icomMbusInputStatusReg then (0, holding (inputs t))
      else if reg.regType = icomMbusHoldingReg then (0, holding t)
      else if reg.regType = icomMbusInputReg then (0, inputRegisters t)
      else (0, t)

end EspBridges.Icom
