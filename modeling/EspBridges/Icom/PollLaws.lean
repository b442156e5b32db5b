import EspBridges.Icom.ModbusLaws
import EspBridges.Icom.ModbusTask
import EspBridges.Lib.Machine
import EspBridges.Lib.Program

namespace EspBridges.Icom

open Bytes

section Start

def TimerSys.Fresh (timers : TimerSys) : Prop :=
  ∀ k ∈ timers.running.map Prod.fst, k < timers.hndls.length

def TimerSys.startNew (timers : TimerSys) (hndl : IcomTimerHndl) : TimerSys where
  hndls := timers.hndls ++ [hndl]
  running := timers.running ++
    [(timers.hndls.length, (localTimeout hndl.timeout).toInt64.toUInt64)]

theorem TimerSys.Fresh.startNew {timers : TimerSys} (h : timers.Fresh) (hndl : IcomTimerHndl) :
    (timers.startNew hndl).Fresh := by
  intro k hk
  have hlength : (timers.startNew hndl).hndls.length = timers.hndls.length + 1 := List.length_append
  rw [hlength]
  rw [TimerSys.startNew, List.map_append, List.mem_append, List.map_singleton,
    List.mem_singleton] at hk
  rcases hk with hk | rfl
  · exact Nat.lt_succ_of_lt (h k hk)
  · exact Nat.lt_succ_self _

theorem icomStartTimer_new {timers : TimerSys} (h : timers.Fresh) (hndl : IcomTimerHndl)
    (timeout : UInt32) (repeatFlag : Byte) :
    icomStartTimer timers.hndls.length timeout repeatFlag
      { timers with hndls := timers.hndls ++ [hndl] } =
      some (timers.startNew { hndl with timeout := timeout, repeatFlag := repeatFlag }) := by
  have hnew : timers.hndls.length ∉ timers.running.map Prod.fst := fun hmem =>
    Nat.lt_irrefl _ (h _ hmem)
  have hset : (timers.hndls ++ [hndl]).modify timers.hndls.length
      (fun hndl => { hndl with timeout := timeout, repeatFlag := repeatFlag }) =
      timers.hndls ++ [{ hndl with timeout := timeout, repeatFlag := repeatFlag }] :=
    List.modifyTailIdx_add _ 0 timers.hndls [hndl]
  unfold icomStartTimer
  rw [if_neg hnew, hset]
  rfl

def ModbusTask.pollRow (t : ModbusTask) (i : Fin maxConfigurableRegisters) (hndl : Option Nat) :
    IcomMbusRtRegInfo :=
  { t.mbusRegRtInfo i with
    regAddress := (t.startupCfg.mbusReg i).regAddress
    pMbusConfReg := some i
    timerHandle := hndl }

def ModbusTask.pollHndl (t : ModbusTask) (i : Fin maxConfigurableRegisters) : IcomTimerHndl where
  timerId := healthPingTimerId
  timeout := (t.startupCfg.mbusReg i).pollingFreqSec.toUInt32
  repeatFlag := 1
  pCallback := .icomModbusRtuRegPollCallback
  pCallbackContext := .rtRow i

def ModbusTask.polled (t : ModbusTask) (i : Fin maxConfigurableRegisters) : Bool → ModbusTask
  | false => t.setRow i (t.pollRow i none)
  | true => { t with timers := t.timers.startNew (t.pollHndl i) }.setRow i
      (t.pollRow i (some t.timers.hndls.length))

theorem createPollTimer_row {t : ModbusTask} (hfresh : t.timers.Fresh) (allocated : Bool)
    (i : Fin maxConfigurableRegisters) : createPollTimer allocated i t = some (t.polled i allocated) := by
  have hindex : ¬ ((i.val : Int) > maxConfigurableRegisters) := by omega
  unfold createPollTimer icomGetConfiguredModbusRegister
  rw [if_neg hindex]
  dsimp only
  rw [dif_pos i.isLt]
  cases allocated with
  | false => rfl
  | true =>
    have hstart := icomStartTimer_new hfresh
      ⟨healthPingTimerId, 0, 0, .icomModbusRtuRegPollCallback, .rtRow i⟩
      (t.startupCfg.mbusReg i).pollingFreqSec.toUInt32 1
    exact congrArg (Option.map _) hstart

theorem ModbusTask.polled_fresh {t : ModbusTask} (hfresh : t.timers.Fresh)
    (i : Fin maxConfigurableRegisters) (allocated : Bool) : (t.polled i allocated).timers.Fresh := by
  cases allocated with
  | false => exact hfresh
  | true => exact hfresh.startNew (t.pollHndl i)

theorem createPollTimers_returns (allocated : Nat → Bool) {t : ModbusTask}
    (hfresh : t.timers.Fresh) (hcount : t.startupCfg.cfgRegCount.toInt ≤ maxConfigurableRegisters)
    (Inv : Nat → ModbusTask → Prop)
    (hturn : ∀ (i : Fin maxConfigurableRegisters) t, t.timers.Fresh → Inv i t →
      Inv (i + 1) (t.polled i (allocated i))) (h0 : Inv 0 t) :
    ∃ t', icomCreateModbusRtuPollTimers allocated t = some t' ∧
      Inv t.startupCfg.cfgRegCount.toInt.toNat t' ∧ t'.timers.Fresh := by
  unfold icomCreateModbusRtuPollTimers icomGetConfiguredModbusRegisterCount
  apply Program.foldlM_range (fun k t => Inv k t ∧ t.timers.Fresh) ?_ ⟨h0, hfresh⟩
  rintro k t hk ⟨hinv, hfresh⟩
  have hi : k < maxConfigurableRegisters := by omega
  exact ⟨_, createPollTimer_row hfresh (allocated k) ⟨k, hi⟩, hturn ⟨k, hi⟩ t hfresh hinv,
    t.polled_fresh hfresh ⟨k, hi⟩ (allocated k)⟩

def ModbusTask.Unset (t : ModbusTask) : Prop := ∃ s, t.pModbusRtuCtx = some ⟨-1, s⟩

structure Started (cfg : IcomStartupConfig) (n : Nat) (t : ModbusTask) : Prop where
  config : t.startupCfg = cfg
  unset : t.modbusClientConnectFlag = 1 → t.Unset
  rows : ∀ i, i.val < n → (t.mbusRegRtInfo i).pMbusConfReg = some i
  fresh : t.timers.Fresh

theorem Started.polled {cfg : IcomStartupConfig} {t : ModbusTask} {i : Fin maxConfigurableRegisters}
    (h : Started cfg i t) (allocated : Bool) : Started cfg (i + 1) (t.polled i allocated) := by
  have hrows : ∀ row : IcomMbusRtRegInfo, row.pMbusConfReg = some i → ∀ k, k.val < i.val + 1 →
      (if k = i then row else t.mbusRegRtInfo k).pMbusConfReg = some k := by
    intro row hrow k hk
    by_cases hki : k = i
    · rw [if_pos hki, hrow, hki]
    · have hne : k.val ≠ i.val := fun h => hki (Fin.ext h)
      rw [if_neg hki]
      exact h.rows k (by omega)
  have hfresh := t.polled_fresh h.fresh i allocated
  cases allocated with
  | false => exact ⟨h.config, h.unset, hrows _ rfl, hfresh⟩
  | true => exact ⟨h.config, h.unset, hrows _ rfl, hfresh⟩

variable (o : InitOutcome) (allocated : Nat → Bool) (cfg : IcomStartupConfig)

def retryHndl : IcomTimerHndl where
  timerId := healthPingTimerId
  timeout := 5
  repeatFlag := 1
  pCallback := .icomModbusClientConnectTimerCallback
  pCallbackContext := .null

/-- The task after `icom_modbus_init`, which takes the connection for made whatever the port says. -/
def initialised : InitOutcome → ModbusTask
  | ⟨true, fd, _⟩ =>
    { ModbusTask.boot cfg with pModbusRtuCtx := some ⟨-1, fd⟩, modbusClientConnectFlag := 1 }
  | ⟨false, _, false⟩ => ModbusTask.boot cfg
  | ⟨false, _, true⟩ =>
    { ModbusTask.boot cfg with
      pModbusRtuClientTimer := some 0
      timers := TimerSys.startNew ⟨[], []⟩ retryHndl }

theorem icomModbusInit_eq :
    icomModbusInit o (.boot cfg) = some (if o.ctxAllocated then 0 else 1, initialised cfg o) := by
  obtain ⟨ctxAllocated, fd, timerAllocated⟩ := o
  cases ctxAllocated with
  | true => rfl
  | false =>
    cases timerAllocated with
    | false => rfl
    | true => rfl

theorem initialised_started : Started cfg 0 (initialised cfg o) := by
  obtain ⟨ctxAllocated, fd, timerAllocated⟩ := o
  have hempty : TimerSys.Fresh ⟨[], []⟩ := nofun
  cases ctxAllocated with
  | true => exact ⟨rfl, fun _ => ⟨fd, rfl⟩, nofun, hempty⟩
  | false =>
    cases timerAllocated with
    | false => exact ⟨rfl, nofun, nofun, hempty⟩
    | true => exact ⟨rfl, nofun, nofun, hempty.startNew retryHndl⟩

theorem icomModbusTask_eq : icomModbusTask o allocated cfg =
    icomCreateModbusRtuPollTimers allocated (initialised cfg o) := by
  unfold icomModbusTask
  rw [icomModbusInit_eq]
  rfl

theorem icomModbusTask_started (hcount : cfg.cfgRegCount.toInt ≤ maxConfigurableRegisters) :
    ∃ t, icomModbusTask o allocated cfg = some t ∧ Started cfg cfg.cfgRegCount.toInt.toNat t := by
  have hstarted := initialised_started o cfg
  obtain ⟨t, hpoll, ht, -⟩ := createPollTimers_returns allocated hstarted.fresh
    (by rw [hstarted.config]; exact hcount) (Started cfg) (fun i t _ h => h.polled (allocated i)) hstarted
  rw [hstarted.config] at ht
  exact ⟨t, (icomModbusTask_eq o allocated cfg).trans hpoll, ht⟩

end Start

section Reads

variable {t : ModbusTask} {i : Fin maxConfigurableRegisters} {addr : Nat} {answers : Answers}
  {rc : Int} {line : Line}

theorem pollBits_eq {read : Option ModbusT → Nat → Nat → Answers → Line → Int × List Byte × Line}
    {dest : List Byte} (h : read t.pModbusRtuCtx addr 1 answers t.line = (rc, dest, line)) :
    pollBits i addr answers t read = { t with line := line }.setRow i { t.mbusRegRtInfo i with
      regBits := dest.getD 0 (t.mbusRegRtInfo i).regBits } := by
  unfold pollBits icomModbusRegCount
  rw [h]

theorem pollValue_eq
    {read : Option ModbusT → Nat → Nat → Answers → Line → Int × List UInt16 × Line}
    {dest : List UInt16} (h : read t.pModbusRtuCtx addr 1 answers t.line = (rc, dest, line)) :
    pollValue i addr answers t read = { t with line := line }.setRow i { t.mbusRegRtInfo i with
      regValue := dest.getD 0 (t.mbusRegRtInfo i).regValue } := by
  unfold pollValue icomModbusRegCount
  rw [h]

theorem poll_reads {P : ModbusTask → Prop} (answers : Answers)
    (pArg : Option (Fin maxConfigurableRegisters)) (h : P t)
    (hbits : ∀ i addr function t, function < modbusFcReportSlaveId → P t →
      P (pollBits i addr answers t (readBitsWith function)))
    (hvalue : ∀ i addr function t, function < modbusFcReportSlaveId → P t →
      P (pollValue i addr answers t (readRegistersWith function))) :
    P (icomModbusRtuRegPollCallback pArg answers t).2 := by
  unfold icomModbusRtuRegPollCallback
  split
  · exact h
  · split
    · exact h
    · dsimp only
      split
      · apply hvalue _ _ _ _ (by decide)
        apply hbits _ _ _ _ (by decide)
        exact hbits _ _ _ _ (by decide) h
      · split
        · apply hvalue _ _ _ _ (by decide)
          exact hbits _ _ _ _ (by decide) h
        · split
          · exact hvalue _ _ _ _ (by decide) h
          · split
            · exact hvalue _ _ _ _ (by decide) h
            · exact h

end Reads

section Unset

def Asks (t t' : ModbusTask) : Prop :=
  ∃ line reqs, t' = { t with line := line } ∧ line.sent = t.line.sent ++ reqs ∧
    ∀ req ∈ reqs, byteAt req 0 = 255

theorem Asks.refl (t : ModbusTask) : Asks t t := ⟨t.line, [], rfl, (List.append_nil _).symm, nofun⟩

theorem Asks.trans {t t' t'' : ModbusTask} (h : Asks t t') (h' : Asks t' t'') : Asks t t'' := by
  obtain ⟨line, reqs, rfl, hsent, hreqs⟩ := h
  obtain ⟨line', more, rfl, hsent', hmore⟩ := h'
  refine ⟨line', reqs ++ more, rfl, hsent'.trans (by rw [hsent, List.append_assoc]), ?_⟩
  intro req hreq
  exact (List.mem_append.mp hreq).elim (hreqs req) (hmore req)

theorem Asks.unset {t t' : ModbusTask} (h : Asks t t') (hunset : t.Unset) : t'.Unset := by
  obtain ⟨line, reqs, rfl, -⟩ := h
  exact hunset

theorem asks_one {t : ModbusTask} {line : Line} {s : Int} {function addr : Nat}
    (h : line.sent = t.line.sent ++ [frame (buildRequestBasis ⟨-1, s⟩ function addr 1)]) :
    Asks t { t with line := line } := by
  refine ⟨line, _, rfl, h, fun req hreq => ?_⟩
  rw [List.mem_singleton.mp hreq]
  exact buildRequestBasis_unset rfl function addr 1

variable {t : ModbusTask} (i : Fin maxConfigurableRegisters) (addr : Nat) (answers : Answers)
  {function : Nat}

theorem pollBits_asks (hunset : t.Unset) (hfunction : function < modbusFcReportSlaveId) :
    Asks t (pollBits i addr answers t (readBitsWith function)) := by
  obtain ⟨s, hctx⟩ := hunset
  have hslave : (⟨-1, s⟩ : ModbusT).slave = -1 := rfl
  obtain ⟨line, hread, hsent⟩ :=
    readBitsWith_unset hslave hfunction (by decide : 1 ≤ modbusMaxReadBits) addr answers t.line
  rw [← hctx] at hread
  have hpoll := (pollBits_eq hread).trans (setRow_same { t with line := line } i)
  rw [hpoll]
  exact asks_one hsent

theorem pollValue_asks (hunset : t.Unset) (hfunction : function < modbusFcReportSlaveId) :
    Asks t (pollValue i addr answers t (readRegistersWith function)) := by
  obtain ⟨s, hctx⟩ := hunset
  have hslave : (⟨-1, s⟩ : ModbusT).slave = -1 := rfl
  obtain ⟨line, hread, hsent⟩ := readRegistersWith_unset hslave hfunction
    (by decide : 1 ≤ modbusMaxReadRegisters) addr answers t.line
  rw [← hctx] at hread
  have hpoll := (pollValue_eq hread).trans (setRow_same { t with line := line } i)
  rw [hpoll]
  exact asks_one hsent

theorem poll_asks (hunset : t.Unset) (pArg : Option (Fin maxConfigurableRegisters)) :
    Asks t (icomModbusRtuRegPollCallback pArg answers t).2 := by
  apply poll_reads answers pArg (Asks.refl t)
  · intro i addr function t' hfunction h
    exact h.trans (pollBits_asks i addr answers (h.unset hunset) hfunction)
  · intro i addr function t' hfunction h
    exact h.trans (pollValue_asks i addr answers (h.unset hunset) hfunction)

def pollStep (t : ModbusTask) (poll : Fin maxConfigurableRegisters × Answers) : Option ModbusTask :=
  some (icomModbusRtuRegPollCallback (some poll.1) poll.2 t).2

theorem polls_ask {t₀ : ModbusTask} (hunset : t₀.Unset) (hreach : Machine.Reachable pollStep t₀ t) :
    Asks t₀ t := by
  refine hreach.invariant (Asks.refl t₀) fun t poll t' h hstep => ?_
  obtain rfl := Option.some.inj hstep
  exact h.trans (poll_asks poll.2 (h.unset hunset) (some poll.1))

end Unset

inductive Held where
  | bit (b : Bool)
  | word (w : UInt16)

namespace Held

def Fits (regType : Byte) : Held → Prop
  | bit _ => regType = icomMbusCoilStatusReg ∨ regType = icomMbusInputStatusReg
  | word _ => regType = icomMbusHoldingReg ∨ regType = icomMbusInputReg

/-- The reply of the slave; a type of register is also the function that reads it. -/
def reply (unit regType : Byte) : Held → List Byte
  | bit b => frame (bitReply unit regType.toNat b)
  | word w => frame (registerReply unit regType.toNat w)

def InRow (row : IcomMbusRtRegInfo) : Held → Prop
  | bit b => row.regBits = if b then 1 else 0
  | word w => row.regValue = w

end Held

/-- What a poll of a register is for: the slave is asked for it, and what it answers is kept. -/
structure PollDelivers (t : ModbusTask) (i : Fin maxConfigurableRegisters) (v : Held) : Prop where
  asked : ∀ answers, ∃ req more,
    (icomModbusRtuRegPollCallback (some i) answers t).2.line.sent = t.line.sent ++ req :: more ∧
      byteAt req 0 = t.startupCfg.slaveAddress.toInt ∧
      byteAt req 2 * 256 + byteAt req 3 = (t.startupCfg.mbusReg i).regAddress.toNat
  kept : ∀ answers, t.line.rx = [] →
    (∀ req, answers (t.line.sent ++ [req]) =
      v.reply (.ofInt t.startupCfg.slaveAddress.toInt) (t.startupCfg.mbusReg i).regType) →
    v.InRow ((icomModbusRtuRegPollCallback (some i) answers t).2.mbusRegRtInfo i)

section SetSlave

variable {t : ModbusTask} {ctx : ModbusT} {i : Fin maxConfigurableRegisters} {answers : Answers}

theorem pollBits_sent (hctx : t.pModbusRtuCtx = some ctx) (function addr : Nat) :
    (pollBits i addr answers t (readBitsWith function)).line.sent =
      t.line.sent ++ [frame (buildRequestBasis ctx function addr 1)] := by
  rw [← confirm_sent ctx function addr 1 answers t.line]
  unfold pollBits readBitsWith readIoStatus icomModbusRegCount
  rw [hctx]
  dsimp only
  rw [if_neg (by decide)]
  split <;> rfl

theorem pollValue_sent (hctx : t.pModbusRtuCtx = some ctx) (function addr : Nat) :
    (pollValue i addr answers t (readRegistersWith function)).line.sent =
      t.line.sent ++ [frame (buildRequestBasis ctx function addr 1)] := by
  rw [← confirm_sent ctx function addr 1 answers t.line]
  unfold pollValue readRegistersWith readRegisters icomModbusRegCount
  rw [hctx]
  dsimp only
  rw [if_neg (by decide), if_neg (by decide)]
  split <;> rfl

theorem modbusSetSlave_unit {ctx₀ : ModbusT} {slave : Int}
    (h : modbusSetSlave ctx₀ slave = some ctx) :
    ctx.slave = slave ∧ ctx.slave = (UInt8.ofInt slave).toNat := by
  unfold modbusSetSlave at h
  split at h
  · rename_i hrange
    obtain rfl := Option.some.inj h
    refine ⟨rfl, ?_⟩
    show slave = ((UInt8.ofNat (slave % 2 ^ 8).toNat).toNat : Int)
    rw [UInt8.toNat_ofNat']
    omega
  · exact nomatch h

theorem request_fields {unit : Byte} (hslave : ctx.slave = unit.toNat) (function : Nat)
    (addr : UInt16) :
    byteAt (frame (buildRequestBasis ctx function addr.toNat 1)) 0 = ctx.slave ∧
      byteAt (frame (buildRequestBasis ctx function addr.toNat 1)) 2 * 256 +
        byteAt (frame (buildRequestBasis ctx function addr.toNat 1)) 3 = addr.toNat := by
  have hunit : byteAt (frame (buildRequestBasis ctx function addr.toNat 1)) 0 = unit.toNat :=
    @buildRequestBasis_unit ctx unit function hslave addr.toNat 1
  have hhi : byteAt (frame (buildRequestBasis ctx function addr.toNat 1)) 2 =
      addr.toNat / 256 % 2 ^ 8 := UInt8.toNat_ofNat'
  have hlo : byteAt (frame (buildRequestBasis ctx function addr.toNat 1)) 3 = addr.toNat % 2 ^ 8 :=
    UInt8.toNat_ofNat'
  have hlt := addr.toNat_lt
  refine ⟨?_, ?_⟩
  · rw [hunit, hslave]
  · rw [hhi, hlo]
    omega

theorem pollBits_ctx {read : Option ModbusT → Nat → Nat → Answers → Line → Int × List Byte × Line}
    {addr : Nat} : (pollBits i addr answers t read).pModbusRtuCtx = t.pModbusRtuCtx := rfl

section BitReply

variable {unit : Byte} {function : Nat} {b : Bool} (hctx : t.pModbusRtuCtx = some ctx)
  (hunit : ctx.slave = unit.toNat) (hfunction : function = 1 ∨ function = 2) (addr : Nat)
  (hrx : t.line.rx = [])
  (hanswers : ∀ req, answers (t.line.sent ++ [req]) = frame (bitReply unit function b))

include hctx hunit hfunction hrx hanswers

theorem pollBits_reply : pollBits i addr answers t (readBitsWith function) =
    { t with line := ⟨t.line.sent ++ [frame (buildRequestBasis ctx function addr 1)], []⟩ }.setRow i
      { t.mbusRegRtInfo i with regBits := if b then 1 else 0 } := by
  have hread := readBitsWith_reply hunit hfunction addr b hrx hanswers
  rw [← hctx] at hread
  exact pollBits_eq hread

theorem pollBits_reply_regBits :
    ((pollBits i addr answers t (readBitsWith function)).mbusRegRtInfo i).regBits =
      if b then 1 else 0 := by
  rw [pollBits_reply hctx hunit hfunction addr hrx hanswers, setRow_row]

theorem pollBits_reply_line : (pollBits i addr answers t (readBitsWith function)).line =
    ⟨t.line.sent ++ [frame (buildRequestBasis ctx function addr 1)], []⟩ := by
  rw [pollBits_reply hctx hunit hfunction addr hrx hanswers]
  rfl

end BitReply

theorem pollValue_regBits
    {read : Option ModbusT → Nat → Nat → Answers → Line → Int × List UInt16 × Line} {addr : Nat} :
    ((pollValue i addr answers t read).mbusRegRtInfo i).regBits = (t.mbusRegRtInfo i).regBits := by
  unfold pollValue
  dsimp only
  rw [setRow_row]

section Row

variable (hrow : (t.mbusRegRtInfo i).pMbusConfReg = some i)

include hrow

theorem poll_inputStatus (hreg : (t.startupCfg.mbusReg i).regType = icomMbusInputStatusReg) :
    (icomModbusRtuRegPollCallback (some i) answers t).2 =
      pollValue i (t.startupCfg.mbusReg i).regAddress.toNat answers
        (pollBits i (t.startupCfg.mbusReg i).regAddress.toNat answers t
          (readBitsWith (t.startupCfg.mbusReg i).regType.toNat)) modbusReadRegisters := by
  unfold icomModbusRtuRegPollCallback
  dsimp only
  rw [hrow]
  dsimp only
  rw [hreg]
  rfl

theorem poll_registers (hreg : (t.startupCfg.mbusReg i).regType = icomMbusHoldingReg ∨
      (t.startupCfg.mbusReg i).regType = icomMbusInputReg) :
    (icomModbusRtuRegPollCallback (some i) answers t).2 =
      pollValue i (t.startupCfg.mbusReg i).regAddress.toNat answers t
        (readRegistersWith (t.startupCfg.mbusReg i).regType.toNat) := by
  unfold icomModbusRtuRegPollCallback
  dsimp only
  rw [hrow]
  dsimp only
  rcases hreg with hreg | hreg
  · rw [hreg]
    rfl
  · rw [hreg]
    rfl

theorem poll_coil (hreg : (t.startupCfg.mbusReg i).regType = icomMbusCoilStatusReg) :
    (icomModbusRtuRegPollCallback (some i) answers t).2 =
      pollValue i (t.startupCfg.mbusReg i).regAddress.toNat answers
        (pollBits i (t.startupCfg.mbusReg i).regAddress.toNat answers
          (pollBits i (t.startupCfg.mbusReg i).regAddress.toNat answers t modbusReadBits)
          modbusReadInputBits) modbusReadRegisters := by
  unfold icomModbusRtuRegPollCallback
  dsimp only
  rw [hrow]
  dsimp only
  rw [hreg]
  rfl

end Row

variable {ctx₀ : ModbusT} (hctx : t.pModbusRtuCtx = some ctx)
  (hset : modbusSetSlave ctx₀ t.startupCfg.slaveAddress.toInt = some ctx)
  (hrow : (t.mbusRegRtInfo i).pMbusConfReg = some i)

include hctx hset hrow

theorem poll_delivers_word {w : UInt16}
    (hreg : (t.startupCfg.mbusReg i).regType = icomMbusHoldingReg ∨
      (t.startupCfg.mbusReg i).regType = icomMbusInputReg) : PollDelivers t i (.word w) := by
  obtain ⟨hslave, hunit⟩ := modbusSetSlave_unit hset
  have hfunction : (t.startupCfg.mbusReg i).regType.toNat = 3 ∨
      (t.startupCfg.mbusReg i).regType.toNat = 4 :=
    hreg.imp (congrArg UInt8.toNat) (congrArg UInt8.toNat)
  refine ⟨fun answers => ?_, fun answers hrx hanswers => ?_⟩
  · obtain ⟨hto, haddr⟩ := request_fields hunit (t.startupCfg.mbusReg i).regType.toNat
      (t.startupCfg.mbusReg i).regAddress
    rw [poll_registers hrow hreg]
    exact ⟨_, [], pollValue_sent hctx _ _, hto.trans hslave, haddr⟩
  · have hread := readRegistersWith_reply hunit hfunction
      (t.startupCfg.mbusReg i).regAddress.toNat w hrx hanswers
    rw [← hctx] at hread
    rw [poll_registers hrow hreg, pollValue_eq hread, setRow_row]
    rfl

theorem poll_delivers_bit {b : Bool}
    (hreg : (t.startupCfg.mbusReg i).regType = icomMbusInputStatusReg) :
    PollDelivers t i (.bit b) := by
  obtain ⟨hslave, hunit⟩ := modbusSetSlave_unit hset
  have hfunction : (t.startupCfg.mbusReg i).regType.toNat = 1 ∨
      (t.startupCfg.mbusReg i).regType.toNat = 2 := .inr (congrArg UInt8.toNat hreg)
  refine ⟨fun answers => ?_, fun answers hrx hanswers => ?_⟩
  · obtain ⟨hto, haddr⟩ := request_fields hunit (t.startupCfg.mbusReg i).regType.toNat
      (t.startupCfg.mbusReg i).regAddress
    refine ⟨_, [frame (buildRequestBasis ctx modbusFcReadHoldingRegisters
      (t.startupCfg.mbusReg i).regAddress.toNat 1)], ?_, hto.trans hslave, haddr⟩
    rw [poll_inputStatus hrow hreg, modbusReadRegisters, pollValue_sent (pollBits_ctx.trans hctx),
      pollBits_sent hctx, List.append_assoc]
    rfl
  · show ((icomModbusRtuRegPollCallback (some i) answers t).2.mbusRegRtInfo i).regBits = _
    rw [poll_inputStatus hrow hreg, pollValue_regBits]
    exact pollBits_reply_regBits hctx hunit hfunction _ hrx hanswers

def crossedAnswers (before : Nat) (unit : Byte) (b : Bool) : Answers := fun sent =>
  if sent.length = before + 1 then frame (bitReply unit 1 b) else frame (bitReply unit 2 (!b))

omit hctx hset hrow in
theorem crossedAnswers_first (sent : List (List Byte)) (unit : Byte) (b : Bool) (req : List Byte) :
    crossedAnswers sent.length unit b (sent ++ [req]) = frame (bitReply unit 1 b) :=
  if_pos List.length_append

omit hctx hset hrow in
theorem crossedAnswers_second (sent : List (List Byte)) (unit : Byte) (b : Bool)
    (asked req : List Byte) :
    crossedAnswers sent.length unit b (sent ++ [asked] ++ [req]) = frame (bitReply unit 2 (!b)) := by
  have hlength : (sent ++ [asked] ++ [req]).length = sent.length + 2 := by
    rw [List.length_append, List.length_append]
    rfl
  exact if_neg (by omega)

/-- A coil is not delivered: its bit gives way to the one of the input at the same address. -/
theorem coil_not_delivered {b : Bool} (hrx : t.line.rx = [])
    (hreg : (t.startupCfg.mbusReg i).regType = icomMbusCoilStatusReg) :
    ¬ PollDelivers t i (.bit b) := by
  intro h
  have hunit := (modbusSetSlave_unit hset).2
  have hcoil := crossedAnswers_first t.line.sent (.ofInt t.startupCfg.slaveAddress.toInt) b
  have hline := pollBits_reply_line (i := i) hctx hunit (.inl rfl)
    (t.startupCfg.mbusReg i).regAddress.toNat hrx hcoil
  have hinput : _ = if !b then (1 : Byte) else 0 :=
    pollBits_reply_regBits (i := i) (pollBits_ctx.trans hctx) hunit (.inr rfl)
      (t.startupCfg.mbusReg i).regAddress.toNat (congrArg Line.rx hline) fun req => by
        rw [hline]
        exact crossedAnswers_second _ _ b _ req
  have hkept : ((icomModbusRtuRegPollCallback (some i) _ t).2.mbusRegRtInfo i).regBits =
      if b then 1 else 0 := h.kept _ hrx (by rw [hreg]; exact hcoil)
  rw [poll_coil hrow hreg, pollValue_regBits] at hkept
  have hsame := hinput.symm.trans hkept
  revert hsame
  cases b with
  | false => decide
  | true => decide

end SetSlave

theorem Asks.not_delivers {t : ModbusTask} {i : Fin maxConfigurableRegisters} {v : Held}
    (hunset : t.Unset) (hslave : t.startupCfg.slaveAddress.toInt ≤ 247) : ¬ PollDelivers t i v := by
  intro h
  obtain ⟨req, more, hsent, hunit, -⟩ := h.asked fun _ => []
  obtain ⟨line, reqs, hline, hreqs, hall⟩ := poll_asks (fun _ => []) hunset (some i)
  rw [hline] at hsent
  have heq : reqs = req :: more := List.append_cancel_left (hreqs.symm.trans hsent)
  have h255 : byteAt req 0 = 255 := hall req (heq ▸ List.mem_cons_self)
  omega

/-- No poll ever delivers: the slave that is configured never reaches the context. -/
theorem polls_never_deliver {o : InitOutcome} {allocated : Nat → Bool} {cfg : IcomStartupConfig}
    {t₀ t : ModbusTask} (hcount : cfg.cfgRegCount.toInt ≤ maxConfigurableRegisters)
    (hslave : cfg.slaveAddress.toInt ≤ 247) (hstart : icomModbusTask o allocated cfg = some t₀)
    (hconnect : t₀.modbusClientConnectFlag = 1) (hreach : Machine.Reachable pollStep t₀ t)
    (i : Fin maxConfigurableRegisters) (v : Held) : ¬ PollDelivers t i v := by
  obtain ⟨t₁, hstart₁, hstarted⟩ := icomModbusTask_started o allocated cfg hcount
  obtain rfl := Option.some.inj (hstart.symm.trans hstart₁)
  have hunset := hstarted.unset hconnect
  have hasks := polls_ask hunset hreach
  have hconfig : t.startupCfg = cfg := by
    obtain ⟨line, reqs, rfl, -⟩ := hasks
    exact hstarted.config
  exact Asks.not_delivers (hasks.unset hunset) (hconfig ▸ hslave)

def slave17Cfg : IcomStartupConfig :=
  { IcomStartupConfig.zero with
    slaveAddress := 17
    cfgRegCount := 1
    mbusReg := fun _ => ⟨icomMbusHoldingReg, 107, 5, 0⟩ }

theorem slave17_connects :
    ∃ t₀, icomModbusTask ⟨true, 3, true⟩ (fun _ => true) slave17Cfg = some t₀ ∧
      t₀.modbusClientConnectFlag = 1 :=
  ⟨_, rfl, rfl⟩

theorem slave17_never_delivers : ∃ t₀ t, ∃ i : Fin maxConfigurableRegisters,
    icomModbusTask ⟨true, 3, true⟩ (fun _ => true) slave17Cfg = some t₀ ∧
      t₀.modbusClientConnectFlag = 1 ∧ Machine.Reachable pollStep t₀ t ∧
        ¬ PollDelivers t i (.word 5) := by
  obtain ⟨t₀, hstart, hconnect⟩ := slave17_connects
  have hreach : Machine.Reachable pollStep t₀
      (icomModbusRtuRegPollCallback (some ⟨0, by decide⟩) (fun _ => []) t₀).2 :=
    .step .refl (e := (⟨0, by decide⟩, fun _ => [])) rfl
  exact ⟨t₀, _, ⟨0, by decide⟩, hstart, hconnect, hreach,
    polls_never_deliver (by decide) (by decide) hstart hconnect hreach _ _⟩

/-- The register that slave 17 is to be polled for is asked of unit 255. -/
theorem slave17_not_polled :
    ¬ ∀ (o : InitOutcome) (allocated : Nat → Bool) (cfg : IcomStartupConfig) (t₀ t : ModbusTask),
      1 ≤ cfg.cfgRegCount.toInt → cfg.cfgRegCount.toInt ≤ maxConfigurableRegisters →
      1 ≤ cfg.slaveAddress.toInt → cfg.slaveAddress.toInt ≤ 247 →
      icomModbusTask o allocated cfg = some t₀ → t₀.modbusClientConnectFlag = 1 →
      Machine.Reachable pollStep t₀ t → ∀ i : Fin maxConfigurableRegisters,
      i.val < cfg.cfgRegCount.toInt.toNat → ∀ v : Held, v.Fits (cfg.mbusReg i).regType →
      PollDelivers t i v := by
  intro hevery
  obtain ⟨t₀, hstart, hconnect⟩ := slave17_connects
  have hdelivers : PollDelivers t₀ ⟨0, by decide⟩ (.word 5) :=
    hevery _ _ slave17Cfg t₀ t₀ (by decide) (by decide) (by decide) (by decide) hstart hconnect .refl
      _ (by decide) _ (.inl rfl)
  obtain ⟨t₁, hstart₁, hstarted⟩ :=
    icomModbusTask_started ⟨true, 3, true⟩ (fun _ => true) slave17Cfg (by decide)
  obtain rfl := Option.some.inj (hstart.symm.trans hstart₁)
  refine Asks.not_delivers (hstarted.unset hconnect) ?_ hdelivers
  rw [hstarted.config]
  decide

end EspBridges.Icom
