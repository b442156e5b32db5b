import EspBridges.Icom.PollLaws

/-! The reads that a poll asks for, over any library that reads bits and registers. -/

namespace EspBridges.Icom

open Bytes

inductive ReadFn where
  | modbusReadBits | modbusReadInputBits | modbusReadRegisters | modbusReadInputRegisters
  deriving DecidableEq

/-- What a read of one bit or one register brings over the bus, `none` when it fails; what it does
not bring it does not write. -/
structure Libmodbus (σ : Type) where
  modbusReadBits : Nat → σ → Option Byte × σ
  modbusReadInputBits : Nat → σ → Option Byte × σ
  modbusReadRegisters : Nat → σ → Option UInt16 × σ
  modbusReadInputRegisters : Nat → σ → Option UInt16 × σ

structure Asking (σ : Type) where
  task : ModbusTask
  bus : σ
  calls : List (ReadFn × Nat)

section Poll

variable {σ : Type} (i : Fin maxConfigurableRegisters) (addr : Nat) (fn : ReadFn) (a : Asking σ)

def askBits (read : Nat → σ → Option Byte × σ) : Asking σ :=
  let (got, bus) := read addr a.bus
  let row := a.task.mbusRegRtInfo i
  { task := a.task.setRow i { row with regBits := got.getD row.regBits }
    bus := bus
    calls := a.calls ++ [(fn, addr)] }

def askValue (read : Nat → σ → Option UInt16 × σ) : Asking σ :=
  let (got, bus) := read addr a.bus
  let row := a.task.mbusRegRtInfo i
  { task := a.task.setRow i { row with regValue := got.getD row.regValue }
    bus := bus
    calls := a.calls ++ [(fn, addr)] }

@[simp] theorem askBits_calls (read : Nat → σ → Option Byte × σ) :
    (askBits i addr fn a read).calls = a.calls ++ [(fn, addr)] := rfl

@[simp] theorem askValue_calls (read : Nat → σ → Option UInt16 × σ) :
    (askValue i addr fn a read).calls = a.calls ++ [(fn, addr)] := rfl

variable (lib : Libmodbus σ)

def readReg (reg : IcomMbusRegInfo) : Asking σ :=
  let addr := reg.regAddress.toNat
  let coils a := askBits i addr .modbusReadBits a lib.modbusReadBits
  let inputs a := askBits i addr .modbusReadInputBits a lib.modbusReadInputBits
  let holding a := askValue i addr .modbusReadRegisters a lib.modbusReadRegisters
  let inputRegisters a := askValue i addr .modbusReadInputRegisters a lib.modbusReadInputRegisters
  if reg.regType = icomMbusCoilStatusReg then holding (inputs (coils a))
  else if reg.regType = icomMbusInputStatusReg then holding (inputs a)
  else if reg.regType = icomMbusHoldingReg then holding a
  else if reg.regType = icomMbusInputReg then inputRegisters a
  else a

def pollOver (pArg : Option (Fin maxConfigurableRegisters)) : Nat × Asking σ :=
  match pArg with
  | none => (1, a)
  | some i =>
    match (a.task.mbusRegRtInfo i).pMbusConfReg with
    | none => (2, a)
    | some conf => (0, readReg i a lib (a.task.startupCfg.mbusReg conf))

end Poll

section Rtu

def rtuLibrary (ctx : Option ModbusT) (answers : Answers) : Libmodbus Line where
  modbusReadBits addr line :=
    let (_, dest, line) := modbusReadBits ctx addr icomModbusRegCount answers line
    (dest.head?, line)
  modbusReadInputBits addr line :=
    let (_, dest, line) := modbusReadInputBits ctx addr icomModbusRegCount answers line
    (dest.head?, line)
  modbusReadRegisters addr line :=
    let (_, dest, line) := modbusReadRegisters ctx addr icomModbusRegCount answers line
    (dest.head?, line)
  modbusReadInputRegisters addr line :=
    let (_, dest, line) := modbusReadInputRegisters ctx addr icomModbusRegCount answers line
    (dest.head?, line)

def Asking.onLine (a : Asking Line) : ModbusTask := { a.task with line := a.bus }

variable (i : Fin maxConfigurableRegisters) (addr : Nat) (fn : ReadFn) (answers : Answers)

theorem head?_getD {α : Type} (dest : List α) (b : α) : dest.head?.getD b = dest.getD 0 b := by
  cases dest with
  | nil => rfl
  | cons x xs => rfl

theorem pollBits_onLine (a : Asking Line)
    (read : Option ModbusT → Nat → Nat → Answers → Line → Int × List Byte × Line) :
    pollBits i addr answers a.onLine read = (askBits i addr fn a fun addr line =>
      let (_, dest, line) := read a.task.pModbusRtuCtx addr icomModbusRegCount answers line
      (dest.head?, line)).onLine := by
  unfold askBits
  dsimp only
  rw [head?_getD]
  rfl

theorem pollValue_onLine (a : Asking Line)
    (read : Option ModbusT → Nat → Nat → Answers → Line → Int × List UInt16 × Line) :
    pollValue i addr answers a.onLine read = (askValue i addr fn a fun addr line =>
      let (_, dest, line) := read a.task.pModbusRtuCtx addr icomModbusRegCount answers line
      (dest.head?, line)).onLine := by
  unfold askValue
  dsimp only
  rw [head?_getD]
  rfl

theorem poll_onLine (pArg : Option (Fin maxConfigurableRegisters)) (a : Asking Line) :
    icomModbusRtuRegPollCallback pArg answers a.onLine =
      ((pollOver a (rtuLibrary a.task.pModbusRtuCtx answers) pArg).1,
        (pollOver a (rtuLibrary a.task.pModbusRtuCtx answers) pArg).2.onLine) := by
  unfold icomModbusRtuRegPollCallback pollOver
  cases pArg with
  | none => rfl
  | some i =>
    cases hconf : (a.task.mbusRegRtInfo i).pMbusConfReg with
    | none =>
      have hline : (a.onLine.mbusRegRtInfo i).pMbusConfReg = none := hconf
      dsimp only
      rw [hline, hconf]
    | some conf =>
      have hline : (a.onLine.mbusRegRtInfo i).pMbusConfReg = some conf := hconf
      have hreg : a.onLine.startupCfg.mbusReg conf = a.task.startupCfg.mbusReg conf := rfl
      dsimp only
      rw [hline, hconf]
      dsimp only
      rw [hreg, pollBits_onLine i _ .modbusReadBits, pollBits_onLine i _ .modbusReadInputBits,
        pollBits_onLine i _ .modbusReadInputBits, pollValue_onLine i _ .modbusReadRegisters,
        pollValue_onLine i _ .modbusReadRegisters, pollValue_onLine i _ .modbusReadRegisters,
        pollValue_onLine i _ .modbusReadInputRegisters]
      unfold readReg
      split
      · rfl
      · split
        · rfl
        · split
          · rfl
          · split
            · rfl
            · rfl

end Rtu

section Own

variable {σ : Type}

def regOf (t : ModbusTask) (i : Fin maxConfigurableRegisters) : Option IcomMbusRegInfo :=
  (t.mbusRegRtInfo i).pMbusConfReg.map t.startupCfg.mbusReg

def ownRead (regType : Byte) : Option ReadFn :=
  if regType = icomMbusCoilStatusReg then some .modbusReadBits
  else if regType = icomMbusInputStatusReg then some .modbusReadInputBits
  else if regType = icomMbusHoldingReg then some .modbusReadRegisters
  else if regType = icomMbusInputReg then some .modbusReadInputRegisters
  else none

namespace Libmodbus

variable (lib : Libmodbus σ) (reg : IcomMbusRegInfo) (bus : σ)

def ownBit : Option Byte :=
  if reg.regType = icomMbusCoilStatusReg then (lib.modbusReadBits reg.regAddress.toNat bus).1
  else if reg.regType = icomMbusInputStatusReg then
    (lib.modbusReadInputBits reg.regAddress.toNat bus).1
  else none

def ownValue : Option UInt16 :=
  if reg.regType = icomMbusHoldingReg then (lib.modbusReadRegisters reg.regAddress.toNat bus).1
  else if reg.regType = icomMbusInputReg then
    (lib.modbusReadInputRegisters reg.regAddress.toNat bus).1
  else none

end Libmodbus

/-- From `a` to `a'` row `i` was read for its register, and for that only. -/
structure ReadsOwn (lib : Libmodbus σ) (i : Fin maxConfigurableRegisters) (reg : IcomMbusRegInfo)
    (a a' : Asking σ) : Prop where
  asked : ∃ fn, ownRead reg.regType = some fn ∧ a'.calls = a.calls ++ [(fn, reg.regAddress.toNat)]
  row : a'.task.mbusRegRtInfo i = { a.task.mbusRegRtInfo i with
    regBits := (lib.ownBit reg a.bus).getD (a.task.mbusRegRtInfo i).regBits
    regValue := (lib.ownValue reg a.bus).getD (a.task.mbusRegRtInfo i).regValue }
  others : ∀ k, k ≠ i → a'.task.mbusRegRtInfo k = a.task.mbusRegRtInfo k

def Known (regType : Byte) : Prop :=
  regType = icomMbusCoilStatusReg ∨ regType = icomMbusInputStatusReg ∨
    regType = icomMbusHoldingReg ∨ regType = icomMbusInputReg

variable {lib : Libmodbus σ} {i : Fin maxConfigurableRegisters} {reg : IcomMbusRegInfo}
  {a : Asking σ}

theorem askValue_own {fn : ReadFn} {read : Nat → σ → Option UInt16 × σ} (addr : Nat) (lib : Libmodbus σ)
    (hfn : ownRead reg.regType = some fn) (haddr : addr = reg.regAddress.toNat)
    (hbit : lib.ownBit reg a.bus = none) (hvalue : lib.ownValue reg a.bus = (read addr a.bus).1) :
    ReadsOwn lib i reg a (askValue i addr fn a read) := by
  subst haddr
  refine ⟨⟨fn, hfn, rfl⟩, ?_, fun k hk => setRow_other a.task _ hk⟩
  rw [hbit, hvalue]
  exact setRow_row a.task _ i

theorem ReadsOwn.calls_length {a' : Asking σ} (h : ReadsOwn lib i reg a a') :
    a'.calls.length = a.calls.length + 1 := by
  obtain ⟨fn, -, hcalls⟩ := h.asked
  rw [hcalls, List.length_append]
  rfl

/-- A poll of a register reads it for itself just in case it holds a value: from the bits it falls
through to the reads after them. -/
theorem readReg_own_iff (hknown : Known reg.regType) : ReadsOwn lib i reg a (readReg i a lib reg) ↔
    reg.regType = icomMbusHoldingReg ∨ reg.regType = icomMbusInputReg := by
  rcases hknown with htype | htype | htype | htype
  · refine iff_of_false (fun h => ?_) (by rw [htype]; decide)
    have hlength := h.calls_length
    rw [readReg, if_pos htype] at hlength
    simp only [askValue_calls, askBits_calls, List.length_append, List.length_singleton] at hlength
    omega
  · refine iff_of_false (fun h => ?_) (by rw [htype]; decide)
    have hlength := h.calls_length
    rw [readReg, if_neg (by rw [htype]; decide), if_pos htype] at hlength
    simp only [askValue_calls, askBits_calls, List.length_append, List.length_singleton] at hlength
    omega
  · refine iff_of_true ?_ (.inl htype)
    have hread : readReg i a lib reg = askValue i reg.regAddress.toNat .modbusReadRegisters a
        lib.modbusReadRegisters := by
      rw [readReg, if_neg (by rw [htype]; decide), if_neg (by rw [htype]; decide), if_pos htype]
    rw [hread]
    apply askValue_own _ lib ?_ rfl
    · rw [Libmodbus.ownBit, htype]
      rfl
    · rw [Libmodbus.ownValue, if_pos htype]
    · rw [htype]
      rfl
  · refine iff_of_true ?_ (.inr htype)
    have hread : readReg i a lib reg = askValue i reg.regAddress.toNat .modbusReadInputRegisters a
        lib.modbusReadInputRegisters := by
      rw [readReg, if_neg (by rw [htype]; decide), if_neg (by rw [htype]; decide),
        if_neg (by rw [htype]; decide), if_pos htype]
    rw [hread]
    apply askValue_own _ lib ?_ rfl
    · rw [Libmodbus.ownBit, htype]
      rfl
    · rw [Libmodbus.ownValue, if_neg (by rw [htype]; decide), if_pos htype]
    · rw [htype]
      rfl

end Own

section Runs

variable {σ : Type} (lib : Libmodbus σ)

def pollsOver (is : List (Fin maxConfigurableRegisters)) (a : Asking σ) : Asking σ :=
  is.foldl (fun a i => (pollOver a lib (some i)).2) a

theorem askBits_regOf (i k : Fin maxConfigurableRegisters) (addr : Nat) (fn : ReadFn) (a : Asking σ)
    (read : Nat → σ → Option Byte × σ) : regOf (askBits i addr fn a read).task k = regOf a.task k :=
  congrArg (Option.map _) (setRow_keeps a.task IcomMbusRtRegInfo.pMbusConfReg rfl)

theorem askValue_regOf (i k : Fin maxConfigurableRegisters) (addr : Nat) (fn : ReadFn) (a : Asking σ)
    (read : Nat → σ → Option UInt16 × σ) : regOf (askValue i addr fn a read).task k = regOf a.task k :=
  congrArg (Option.map _) (setRow_keeps a.task IcomMbusRtRegInfo.pMbusConfReg rfl)

theorem readReg_regOf (i k : Fin maxConfigurableRegisters) (a : Asking σ) (reg : IcomMbusRegInfo) :
    regOf (readReg i a lib reg).task k = regOf a.task k := by
  unfold readReg
  split
  · rw [askValue_regOf, askBits_regOf, askBits_regOf]
  · split
    · rw [askValue_regOf, askBits_regOf]
    · split
      · rw [askValue_regOf]
      · split
        · rw [askValue_regOf]
        · rfl

theorem pollOver_regOf {i : Fin maxConfigurableRegisters} {a : Asking σ} {reg : IcomMbusRegInfo}
    (h : regOf a.task i = some reg) : (pollOver a lib (some i)).2 = readReg i a lib reg := by
  obtain ⟨conf, hconf, rfl⟩ := Option.map_eq_some_iff.mp h
  unfold pollOver
  dsimp only
  rw [hconf]

theorem pollOver_keepsRegOf (i k : Fin maxConfigurableRegisters) (a : Asking σ) :
    regOf (pollOver a lib (some i)).2.task k = regOf a.task k := by
  unfold pollOver
  dsimp only
  split
  · rfl
  · exact readReg_regOf lib i k a _

theorem pollsOver_regOf (is : List (Fin maxConfigurableRegisters)) (k : Fin maxConfigurableRegisters)
    (a : Asking σ) : regOf (pollsOver lib is a).task k = regOf a.task k := by
  induction is generalizing a with
  | nil => rfl
  | cons i is ih => exact (ih _).trans (pollOver_keepsRegOf lib i k a)

theorem pollsOver_last (past : List (Fin maxConfigurableRegisters)) (i : Fin maxConfigurableRegisters)
    (a : Asking σ) : pollsOver lib (past ++ [i]) a = (pollOver (pollsOver lib past a) lib (some i)).2 :=
  List.foldl_append

/-- Each poll of a run reads its register for itself just in case all of them hold values. -/
theorem polls_readOwn_iff {is : List (Fin maxConfigurableRegisters)} {a : Asking σ}
    (hknown : ∀ i ∈ is, ∃ reg, regOf a.task i = some reg ∧ Known reg.regType) :
    (∀ past i rest, is = past ++ i :: rest → ∀ reg, regOf a.task i = some reg →
      ReadsOwn lib i reg (pollsOver lib past a) (pollsOver lib (past ++ [i]) a)) ↔
    ∀ i ∈ is, ∀ reg, regOf a.task i = some reg →
      reg.regType = icomMbusHoldingReg ∨ reg.regType = icomMbusInputReg := by
  have hpoll : ∀ past, ∀ i ∈ is, ∀ reg, regOf a.task i = some reg →
      (ReadsOwn lib i reg (pollsOver lib past a) (pollsOver lib (past ++ [i]) a) ↔
        reg.regType = icomMbusHoldingReg ∨ reg.regType = icomMbusInputReg) := by
    intro past i hi reg hreg
    obtain ⟨reg', hreg', htype⟩ := hknown i hi
    obtain rfl := Option.some.inj (hreg.symm.trans hreg')
    rw [pollsOver_last, pollOver_regOf lib ((pollsOver_regOf lib past i a).trans hreg)]
    exact readReg_own_iff htype
  constructor
  · intro h i hi reg hreg
    obtain ⟨past, rest, his⟩ := List.append_of_mem hi
    exact (hpoll past i hi reg hreg).mp (h past i rest his reg hreg)
  · intro h past i rest his reg hreg
    have hi : i ∈ is := his ▸ List.mem_append_right past List.mem_cons_self
    exact (hpoll past i hi reg hreg).mpr (h i hi reg hreg)

def onesLibrary : Libmodbus Unit where
  modbusReadBits _ _ := (some 1, ())
  modbusReadInputBits _ _ := (some 1, ())
  modbusReadRegisters _ _ := (some 1, ())
  modbusReadInputRegisters _ _ := (some 1, ())

def askingOne (cfg : IcomStartupConfig) : Asking Unit :=
  ⟨(ModbusTask.boot cfg).polled ⟨0, by decide⟩ false, (), []⟩

theorem slave17_readOwn :
    ReadsOwn onesLibrary ⟨0, by decide⟩ ⟨icomMbusHoldingReg, 107, 5, 0⟩ (askingOne slave17Cfg)
        (pollsOver onesLibrary [⟨0, by decide⟩] (askingOne slave17Cfg)) ∧
      ReadsOwn onesLibrary ⟨0, by decide⟩ ⟨icomMbusHoldingReg, 107, 5, 0⟩
        (pollsOver onesLibrary [⟨0, by decide⟩] (askingOne slave17Cfg))
        (pollsOver onesLibrary [⟨0, by decide⟩, ⟨0, by decide⟩] (askingOne slave17Cfg)) := by
  have hreg : ∀ i ∈ ([⟨0, by decide⟩, ⟨0, by decide⟩] : List (Fin maxConfigurableRegisters)),
      regOf (askingOne slave17Cfg).task i = some ⟨icomMbusHoldingReg, 107, 5, 0⟩ := by
    intro i hi
    simp only [List.mem_cons, List.not_mem_nil, or_false, or_self] at hi
    rw [hi]
    rfl
  have hall := (polls_readOwn_iff onesLibrary fun i hi =>
    ⟨_, hreg i hi, .inr (.inr (.inl rfl))⟩).mpr fun i hi reg h => by
      obtain rfl := Option.some.inj ((hreg i hi).symm.trans h)
      exact .inl rfl
  exact ⟨hall [] _ [_] rfl _ rfl, hall [_] _ [] rfl _ rfl⟩

def coilCfg : IcomStartupConfig :=
  { IcomStartupConfig.zero with
    slaveAddress := 17
    cfgRegCount := 1
    mbusReg := fun _ => ⟨icomMbusCoilStatusReg, 107, 5, 0⟩ }

/-- For a coil three reads are asked for. -/
theorem coil_readThrice : ¬ ∀ (lib : Libmodbus Unit) (is : List (Fin maxConfigurableRegisters))
    (a : Asking Unit), (∀ i ∈ is, ∃ reg, regOf a.task i = some reg ∧ Known reg.regType) →
    ∀ past i rest, is = past ++ i :: rest → ∀ reg, regOf a.task i = some reg →
      ReadsOwn lib i reg (pollsOver lib past a) (pollsOver lib (past ++ [i]) a) := by
  intro h
  have hreg : regOf (askingOne coilCfg).task ⟨0, by decide⟩ = some ⟨icomMbusCoilStatusReg, 107, 5, 0⟩ :=
    rfl
  have hown := h onesLibrary [⟨0, by decide⟩] (askingOne coilCfg) (fun i hi => by
    rw [List.mem_singleton.mp hi]
    exact ⟨_, hreg, .inl rfl⟩) [] _ [] rfl _ hreg
  exact absurd hown.calls_length (by decide)

end Runs

end EspBridges.Icom
