import EspBridges.Lib.Machine
import EspBridges.Icom.ReadLaws
import EspBridges.Modbus.MasterLaws

namespace EspBridges.Modbus

open Bytes Icom Cells

def Server.hear (server : Server) (msg : List Byte) : Option Server :=
  (server.turn ⟨[], msg⟩).map Prod.fst

def Server.answers (server : Server) : Answers := fun sent =>
  ((Machine.run Server.hear server sent.dropLast).bind fun server =>
    (server.turn ⟨[], sent.getLastD []⟩).map fun turned => turned.2.sent.flatten).getD []

/-- A library that reads where a unit holds what is read. -/
def memoryLibrary (memory : Memory) : Libmodbus Unit where
  modbusReadBits addr _ := ((memory.coils (onLine addr)).map flag, ())
  modbusReadInputBits addr _ := ((memory.inputs (onLine addr)).map flag, ())
  modbusReadRegisters addr _ := (memory.registers (onLine addr), ())
  modbusReadInputRegisters addr _ := (memory.inputRegisters (onLine addr), ())

section Simulation

variable {σ τ : Type} {R : σ → τ → Prop}

def Alike {α : Type} (R : σ → τ → Prop) (read : Nat → σ → Option α × σ)
    (read' : Nat → τ → Option α × τ) : Prop :=
  ∀ addr s t, R s t → (read addr s).1 = (read' addr t).1 ∧ R (read addr s).2 (read' addr t).2

structure Simulates (R : σ → τ → Prop) (lib : Libmodbus σ) (lib' : Libmodbus τ) : Prop where
  bits : Alike R lib.modbusReadBits lib'.modbusReadBits
  inputBits : Alike R lib.modbusReadInputBits lib'.modbusReadInputBits
  registers : Alike R lib.modbusReadRegisters lib'.modbusReadRegisters
  inputRegisters : Alike R lib.modbusReadInputRegisters lib'.modbusReadInputRegisters

structure Matches (R : σ → τ → Prop) (a : Asking σ) (b : Asking τ) : Prop where
  task : a.task = b.task
  bus : R a.bus b.bus
  calls : a.calls = b.calls

variable {i : Fin maxConfigurableRegisters} {addr : Nat} {fn : ReadFn} {a : Asking σ} {b : Asking τ}

theorem Matches.bits {read : Nat → σ → Option Byte × σ} {read' : Nat → τ → Option Byte × τ}
    (h : Matches R a b) (halike : Alike R read read') :
    Matches R (askBits i addr fn a read) (askBits i addr fn b read') := by
  obtain ⟨hsame, hbus⟩ := halike addr a.bus b.bus h.bus
  refine ⟨?_, hbus, ?_⟩
  · unfold askBits
    dsimp only
    rw [hsame, h.task]
  · rw [askBits_calls, askBits_calls, h.calls]

theorem Matches.value {read : Nat → σ → Option UInt16 × σ} {read' : Nat → τ → Option UInt16 × τ}
    (h : Matches R a b) (halike : Alike R read read') :
    Matches R (askValue i addr fn a read) (askValue i addr fn b read') := by
  obtain ⟨hsame, hbus⟩ := halike addr a.bus b.bus h.bus
  refine ⟨?_, hbus, ?_⟩
  · unfold askValue
    dsimp only
    rw [hsame, h.task]
  · rw [askValue_calls, askValue_calls, h.calls]

variable {lib : Libmodbus σ} {lib' : Libmodbus τ}

theorem Matches.readReg (h : Matches R a b) (hlib : Simulates R lib lib') (reg : IcomMbusRegInfo) :
    Matches R (readReg i a lib reg) (readReg i b lib' reg) := by
  unfold Icom.readReg
  dsimp only
  by_cases hcoil : reg.regType = icomMbusCoilStatusReg
  · rw [if_pos hcoil, if_pos hcoil]
    exact ((h.bits hlib.bits).bits hlib.inputBits).value hlib.registers
  rw [if_neg hcoil, if_neg hcoil]
  by_cases hinput : reg.regType = icomMbusInputStatusReg
  · rw [if_pos hinput, if_pos hinput]
    exact (h.bits hlib.inputBits).value hlib.registers
  rw [if_neg hinput, if_neg hinput]
  by_cases hholding : reg.regType = icomMbusHoldingReg
  · rw [if_pos hholding, if_pos hholding]
    exact h.value hlib.registers
  rw [if_neg hholding, if_neg hholding]
  by_cases hregister : reg.regType = icomMbusInputReg
  · rw [if_pos hregister, if_pos hregister]
    exact h.value hlib.inputRegisters
  · rw [if_neg hregister, if_neg hregister]
    exact h

theorem Matches.poll (h : Matches R a b) (hlib : Simulates R lib lib')
    (i : Fin maxConfigurableRegisters) :
    Matches R (pollOver a lib (some i)).2 (pollOver b lib' (some i)).2 := by
  unfold pollOver
  dsimp only
  rw [h.task]
  cases (b.task.mbusRegRtInfo i).pMbusConfReg with
  | none => exact h
  | some conf => exact h.readReg hlib _

theorem Matches.polls (h : Matches R a b) (hlib : Simulates R lib lib')
    (is : List (Fin maxConfigurableRegisters)) :
    Matches R (pollsOver lib is a) (pollsOver lib' is b) := by
  induction is generalizing a b with
  | nil => exact h
  | cons i is ih => exact ih (h.poll hlib i)

end Simulation

section Served

variable {ctx : ModbusT} {memory : Memory} {server : Server} {call : Call} {line : Line}

/-- A server that waits for a request, and holds what is to be read. -/
structure Serving (ctx : ModbusT) (memory : Memory) (server : Server) : Prop where
  slave : server.ctx.slave = ctx.slave
  waits : server.confirmationToIgnore = false
  sound : server.mapping.Sound
  memory : server.mapping.memory = memory

def Served (ctx : ModbusT) (memory : Memory) (server : Server) (line : Line) (_ : Unit) : Prop :=
  line.rx = [] ∧ ∃ server', Machine.run Server.hear server line.sent = some server' ∧
    Serving ctx memory server'

theorem make_served (hslave : 1 ≤ ctx.slave ∧ ctx.slave ≤ 247) (hcounts : call.Counts)
    (hrefused : call.refused = none) (hwithin : ∀ start, call.Within start)
    (hafter : memory.after call = memory) (h : Served ctx memory server line ()) :
    (call.make ctx server.answers line).1 = memory.result call ∧
      Served ctx memory server (call.make ctx server.answers line).2 () := by
  obtain ⟨hrx, server', hrun, hserving⟩ := h
  have hto : ((unitOf ctx).toNat : Int) = ctx.slave := unitOf_toNat (by omega)
  have hunicast : (unitOf ctx).toNat ≠ modbusBroadcastAddress := by
    unfold modbusBroadcastAddress
    omega
  obtain ⟨response, hsettles, hkeeps, hturn⟩ := @turn_own server' ctx call hserving.waits
    (.inl (hto.trans hserving.slave.symm)) hcounts hrefused (hwithin _) hserving.sound [] []
  rw [List.append_nil] at hturn
  have hanswer : server.answers (line.sent ++ [frame (call.request ctx)]) = frame response.rsp := by
    unfold Server.answers
    rw [List.dropLast_concat, hrun, Option.bind_some, List.getLastD_concat, hturn, Option.map_some,
      Option.getD_some, sentFor, if_neg hunicast]
    exact List.append_nil _
  have hmin := hsettles.whole.length_ge
  have hunit : byteAt (frame response.rsp) 0 = byteAt (call.request ctx) 0 := by
    rw [byteAt_frame (by rw [length_frame] at hmin; omega), hsettles.unit]
  have hline : line.rx ++ server.answers (line.sent ++ [frame (call.request ctx)]) =
      frame response.rsp ++ [] := by
    rw [hrx, hanswer]
    exact (List.append_nil _).symm
  rw [make_answered (.inl hto) hrefused hsettles.whole hunit hline, hsettles.result,
    hserving.memory]
  refine ⟨rfl, rfl, { server' with mapping := response.mapping }, ?_, hserving.slave,
    hserving.waits, hsettles.sound, ?_⟩
  · rw [Machine.run_append, hrun, Option.bind_some]
    show (server'.hear (frame (call.request ctx))).bind _ = _
    unfold Server.hear
    rw [hturn]
    rfl
  · show response.mapping.memory = memory
    rw [hsettles.after, hserving.memory, hafter]

theorem fetch_one {α : Type} (m : Bank α) (addr : Int) : fetch m addr 1 =
    match m (onLine addr) with
    | some x => .ok [x]
    | none => .error modbusExceptionIllegalDataAddress := by
  cases hx : m (onLine addr) with
  | none =>
    refine fetch_hasNot Nat.one_ne_zero fun hhas => ?_
    have hsome := hhas 0 Nat.one_pos
    rw [Nat.add_zero, hx] at hsome
    exact Bool.false_ne_true hsome
  | some x =>
    have hhas : m.Has (onLine addr) 1 :=
      Bank.has_succ.mpr ⟨by rw [hx]; rfl, fun _ h => absurd h (Nat.not_lt_zero _)⟩
    rw [fetch_has Nat.one_ne_zero hhas, Bank.read_succ hx]
    rfl

theorem alike_of_make {α : Type} {makes : Nat → Call} {pick : Got → Option α} {held : Bank α}
    {read : Nat → Line → Option α × Line} (hslave : 1 ≤ ctx.slave ∧ ctx.slave ≤ 247)
    (hplain : ∀ addr, (makes addr).Counts ∧ (makes addr).refused = none ∧
      (∀ start, (makes addr).Within start) ∧ memory.after (makes addr) = memory)
    (hread : ∀ addr line, read addr line =
      (((makes addr).make ctx server.answers line).1.toOption.bind pick,
        ((makes addr).make ctx server.answers line).2))
    (hresult : ∀ addr, (memory.result (makes addr)).toOption.bind pick = held (onLine addr)) :
    Alike (Served ctx memory server) read fun addr bus => (held (onLine addr), bus) := by
  intro addr line _ h
  obtain ⟨hcounts, hrefused, hwithin, hafter⟩ := hplain addr
  obtain ⟨hsame, hnext⟩ := make_served hslave hcounts hrefused hwithin hafter h
  rw [hread, hsame, hresult]
  exact ⟨rfl, hnext⟩

theorem after_of_map {α : Type} {x : Except Nat α} {f : α → Got}
    (h : memory.serve call = x.map fun a => (f a, memory)) : memory.after call = memory := by
  unfold Memory.after
  rw [h]
  cases x <;> rfl

theorem bits_of_fetch {m : Bank Bool} {addr : Int} (h : memory.serve call =
      (fetch m addr 1).map fun bits => (⟨1, bits.map flag, []⟩, memory)) :
    (memory.result call).toOption.bind (·.bytes.head?) = m.map flag (onLine addr) := by
  unfold Memory.result Bank.map
  rw [h, fetch_one]
  cases m (onLine addr) <;> rfl

theorem words_of_fetch {m : Bank UInt16} {addr : Int} (h : memory.serve call =
      (fetch m addr 1).map fun words => (⟨1, [], words⟩, memory)) :
    (memory.result call).toOption.bind (·.words.head?) = m (onLine addr) := by
  unfold Memory.result
  rw [h, fetch_one]
  cases m (onLine addr) <;> rfl

theorem readBits_plain (function : Nat) (ctx : Option ModbusT) (addr nb : Nat) (answers : Answers)
    (line : Line) : ((Icom.readBitsWith function ctx addr nb answers line).2.1.head?,
      (Icom.readBitsWith function ctx addr nb answers line).2.2) =
    ((readBitsWith function ctx addr nb answers line).1.toOption.bind (·.bytes.head?),
      (readBitsWith function ctx addr nb answers line).2) := by
  rw [readBitsWith_plain]
  generalize readBitsWith function ctx addr nb answers line = x
  obtain ⟨got, line'⟩ := x
  cases got <;> rfl

theorem readWords_plain (function : Nat) (ctx : Option ModbusT) (addr nb : Nat) (answers : Answers)
    (line : Line) : ((Icom.readRegistersWith function ctx addr nb answers line).2.1.head?,
      (Icom.readRegistersWith function ctx addr nb answers line).2.2) =
    ((readRegistersWith function ctx addr nb answers line).1.toOption.bind (·.words.head?),
      (readRegistersWith function ctx addr nb answers line).2) := by
  rw [readRegistersWith_plain]
  generalize readRegistersWith function ctx addr nb answers line = x
  obtain ⟨got, line'⟩ := x
  cases got <;> rfl

theorem rtu_simulates (hslave : 1 ≤ ctx.slave ∧ ctx.slave ≤ 247) :
    Simulates (Served ctx memory server) (rtuLibrary (some ctx) server.answers)
      (memoryLibrary memory) where
  bits := @alike_of_make ctx memory server _ (Call.readBits · 1) (·.bytes.head?)
    (memory.coils.map flag) _ hslave (fun _ => ⟨Int.natCast_nonneg 1, rfl, fun _ => trivial, after_of_map rfl⟩)
    (fun addr line => readBits_plain _ (some ctx) addr 1 server.answers line)
    fun _ => bits_of_fetch rfl
  inputBits := @alike_of_make ctx memory server _ (Call.readInputBits · 1) (·.bytes.head?)
    (memory.inputs.map flag) _ hslave (fun _ => ⟨Int.natCast_nonneg 1, rfl, fun _ => trivial, after_of_map rfl⟩)
    (fun addr line => readBits_plain _ (some ctx) addr 1 server.answers line)
    fun _ => bits_of_fetch rfl
  registers := @alike_of_make ctx memory server _ (Call.readRegisters · 1) (·.words.head?)
    memory.registers _ hslave (fun _ => ⟨Int.natCast_nonneg 1, rfl, fun _ => trivial, after_of_map rfl⟩)
    (fun addr line => readWords_plain _ (some ctx) addr 1 server.answers line)
    fun _ => words_of_fetch rfl
  inputRegisters := @alike_of_make ctx memory server _ (Call.readInputRegisters · 1) (·.words.head?)
    memory.inputRegisters _ hslave (fun _ => ⟨Int.natCast_nonneg 1, rfl, fun _ => trivial, after_of_map rfl⟩)
    (fun addr line => readWords_plain _ (some ctx) addr 1 server.answers line)
    fun _ => words_of_fetch rfl

end Served

def polls (answers : Answers) (is : List (Fin maxConfigurableRegisters)) (t : ModbusTask) :
    ModbusTask :=
  is.foldl (fun t i => (icomModbusRtuRegPollCallback (some i) answers t).2) t

section Polls

variable {σ : Type}

theorem readReg_ctx (i : Fin maxConfigurableRegisters) (a : Asking σ) (lib : Libmodbus σ)
    (reg : IcomMbusRegInfo) : (readReg i a lib reg).task.pModbusRtuCtx = a.task.pModbusRtuCtx := by
  unfold readReg
  dsimp only
  split
  · rfl
  · split
    · rfl
    · split
      · rfl
      · split <;> rfl

theorem pollOver_ctx (i : Fin maxConfigurableRegisters) (a : Asking σ) (lib : Libmodbus σ) :
    (pollOver a lib (some i)).2.task.pModbusRtuCtx = a.task.pModbusRtuCtx := by
  unfold pollOver
  dsimp only
  cases (a.task.mbusRegRtInfo i).pMbusConfReg with
  | none => rfl
  | some conf => exact readReg_ctx i a lib _

theorem polls_onLine {ctx : Option ModbusT} (answers : Answers)
    (is : List (Fin maxConfigurableRegisters)) {a : Asking Line}
    (hctx : a.task.pModbusRtuCtx = ctx) :
    polls answers is a.onLine = (pollsOver (rtuLibrary ctx answers) is a).onLine := by
  induction is generalizing a with
  | nil => rfl
  | cons i is ih =>
    have hpoll : (icomModbusRtuRegPollCallback (some i) answers a.onLine).2 =
        (pollOver a (rtuLibrary ctx answers) (some i)).2.onLine := by
      rw [poll_onLine, hctx]
    have hnext := ih ((pollOver_ctx i a (rtuLibrary ctx answers)).trans hctx)
    rw [← hpoll] at hnext
    exact hnext

end Polls

theorem polls_unset {t : ModbusTask} (hunset : t.Unset) (answers : Answers)
    (is : List (Fin maxConfigurableRegisters)) : (polls answers is t).mbusRegRtInfo = t.mbusRegRtInfo := by
  induction is generalizing t with
  | nil => rfl
  | cons i is ih =>
    have hasks := poll_asks answers hunset (some i)
    have hrest := ih (hasks.unset hunset)
    obtain ⟨line, -, hline, -⟩ := hasks
    rw [hline] at hrest
    show (polls answers is (icomModbusRtuRegPollCallback (some i) answers t).2).mbusRegRtInfo = _
    rw [hline]
    exact hrest

/-- Whatever rows are polled, and how often: on a line with a server of the library they come to hold
what they would if they were read from its memory, once the context has been given its unit.  As it
is made it asks no unit, and the rows stay what they are. -/
theorem polls_served {t : ModbusTask} {ctx : ModbusT} {server : Server}
    (hctx : t.pModbusRtuCtx = some ctx) (hline : t.line = ⟨[], []⟩)
    (hunit : ctx.slave = -1 ∨
      (1 ≤ ctx.slave ∧ ctx.slave ≤ 247) ∧ Serving ctx server.mapping.memory server)
    (is : List (Fin maxConfigurableRegisters)) :
    (polls server.answers is t).mbusRegRtInfo =
      if ctx.slave = -1 then t.mbusRegRtInfo
      else
        (pollsOver (memoryLibrary server.mapping.memory) is ⟨t, (), []⟩).task.mbusRegRtInfo := by
  rcases hunit with hnone | ⟨hslave, hserving⟩
  · have hunset : t.Unset := ⟨ctx.s, by rw [hctx, ← hnone]⟩
    rw [if_pos hnone, polls_unset hunset]
  have hserved : Served ctx server.mapping.memory server t.line () := by
    rw [hline]
    exact ⟨rfl, server, rfl, hserving⟩
  have hmatches : Matches (Served ctx server.mapping.memory server)
      (⟨t, t.line, []⟩ : Asking Line) (⟨t, (), []⟩ : Asking Unit) := ⟨rfl, hserved, rfl⟩
  have hpolls := hmatches.polls (rtu_simulates hslave) is
  have honLine := @polls_onLine (some ctx) server.answers is ⟨t, t.line, []⟩ hctx
  rw [if_neg (by omega)]
  calc (polls server.answers is t).mbusRegRtInfo
    _ = (pollsOver (rtuLibrary (some ctx) server.answers) is ⟨t, t.line, []⟩).onLine.mbusRegRtInfo :=
      congrArg ModbusTask.mbusRegRtInfo honLine
    _ = (pollsOver (rtuLibrary (some ctx) server.answers) is ⟨t, t.line, []⟩).task.mbusRegRtInfo :=
      rfl
    _ = _ := congrArg ModbusTask.mbusRegRtInfo hpolls.task

def coilServer : Server := ⟨⟨17, 3⟩, false, ⟨⟨107, [1]⟩, ⟨0, []⟩, ⟨107, [42]⟩, ⟨0, []⟩⟩⟩

theorem coilServer_serving : Serving ⟨17, 3⟩ coilServer.mapping.memory coilServer where
  slave := rfl
  waits := rfl
  sound := ⟨fun _ h => .inr (List.mem_singleton.mp h), fun _ h => absurd h List.not_mem_nil⟩
  memory := rfl

/-- The poll of the coil falls through to the register. -/
theorem coil_served : ∃ t ctx, icomModbusTask ⟨true, 3, true⟩ (fun _ => true) coilCfg = some t ∧
    (t.pModbusRtuCtx.bind (modbusSetSlave · 17)) = some ctx ∧
    ((polls coilServer.answers [⟨0, by decide⟩]
      { t with pModbusRtuCtx := some ctx }).mbusRegRtInfo ⟨0, by decide⟩).regBits = 1 ∧
    ((polls coilServer.answers [⟨0, by decide⟩]
      { t with pModbusRtuCtx := some ctx }).mbusRegRtInfo ⟨0, by decide⟩).regValue = 42 := by
  refine ⟨_, ⟨17, 3⟩, rfl, rfl, ?_⟩
  rw [polls_served rfl rfl (.inr ⟨by decide, coilServer_serving⟩)]
  exact ⟨rfl, rfl⟩

end EspBridges.Modbus
