import EspBridges.Icom.Expiry
import EspBridges.Icom.PollLaws

namespace EspBridges.Icom

structure Connecting where
  task : ModbusTask
  opened : List Int

def opens (ctx : Option ModbusT) (fd : Int) : List Int :=
  match ctx with
  | none => []
  | some _ => [fd]

def connectStart (o : InitOutcome) (cfg : IcomStartupConfig) : Option Connecting :=
  (icomModbusInit o (.boot cfg)).map fun r =>
    ⟨r.2, opens (if o.ctxAllocated then some modbusNewRtu else none) o.fd⟩

/-- The timer for the connection runs out, if it runs; `fd` is what `open` returns then. -/
def connectExpiry (c : Connecting) (fd : Int) : Option Connecting :=
  match c.task.pModbusRtuClientTimer with
  | none => some c
  | some k =>
    if k ∈ c.task.timers.running.map Prod.fst then
      (timerExpiry c.task ⟨k, fd, fun _ => []⟩).map fun t =>
        ⟨t, c.opened ++ opens c.task.pModbusRtuCtx fd⟩
    else some c

/-- The task from `icom_modbus_init` on; `none` when it reads or writes through a `NULL`. -/
def connectRun (o : InitOutcome) (cfg : IcomStartupConfig) (fds : List Int) : Option Connecting :=
  (connectStart o cfg).bind fun c => Machine.run connectExpiry c fds

/-- What the flag is to say about the port. -/
structure FlagTells (c : Connecting) : Prop where
  connected : c.task.modbusClientConnectFlag = 1 →
    ∃ ctx, c.task.pModbusRtuCtx = some ctx ∧ ctx.s ≠ -1 ∧ ctx.s ∈ c.opened
  waiting : c.task.modbusClientConnectFlag = 0 →
    ∃ k, c.task.pModbusRtuClientTimer = some k ∧ k ∈ c.task.timers.running.map Prod.fst
  once : ∀ past fd rest, c.opened = past ++ fd :: rest → fd ≠ -1 →
    c.task.modbusClientConnectFlag = 1 ∧ rest = [] ∧ ∀ failed ∈ past, failed = -1

variable (cfg : IcomStartupConfig)

theorem opened_flagTells {fd : Int} {timerAllocated : Bool} :
    FlagTells ⟨initialised cfg ⟨true, fd, timerAllocated⟩, [fd]⟩ ↔ fd ≠ -1 := by
  constructor
  · intro h
    obtain ⟨ctx, hctx, hs, -⟩ := h.connected rfl
    cases hctx
    exact hs
  · intro hfd
    refine ⟨fun _ => ⟨_, rfl, hfd, List.mem_cons_self⟩, nofun, fun past fd' rest h _ => ?_⟩
    cases past with
    | nil =>
      obtain ⟨-, rfl⟩ := List.cons.inj h
      exact ⟨rfl, rfl, nofun⟩
    | cons failed past => exact absurd (List.cons.inj h).2 (by simp)

theorem retry_again (fd fd' : Int) :
    connectExpiry ⟨initialised cfg ⟨false, fd, true⟩, []⟩ fd' =
      some ⟨initialised cfg ⟨false, fd, true⟩, []⟩ := rfl

theorem retry_flagTells (fd : Int) : FlagTells ⟨initialised cfg ⟨false, fd, true⟩, []⟩ :=
  ⟨nofun, fun _ => ⟨0, rfl, List.mem_cons_self⟩, fun _ _ _ h => absurd h (by simp)⟩

theorem connectRun_eq (o : InitOutcome) (fds : List Int) : connectRun o cfg fds =
    Machine.run connectExpiry ⟨initialised cfg o, if o.ctxAllocated then [o.fd] else []⟩ fds := by
  unfold connectRun connectStart
  rw [icomModbusInit_eq]
  obtain ⟨ctxAllocated, fd, timerAllocated⟩ := o
  cases ctxAllocated with
  | true => rfl
  | false => rfl

/-- The flag is right in every state when the port opens at the first attempt, and when there is
no memory for the context but some for the timer. -/
theorem connection_flagTells_iff (o : InitOutcome) :
    (∀ fds, ∃ c, connectRun o cfg fds = some c ∧ FlagTells c) ↔
      o.ctxAllocated = true ∧ o.fd ≠ -1 ∨ o.ctxAllocated = false ∧ o.timerAllocated = true := by
  simp only [connectRun_eq]
  obtain ⟨ctxAllocated, fd, timerAllocated⟩ := o
  cases ctxAllocated with
  | true =>
    have hidle : ∀ fds, Machine.run connectExpiry
        ⟨initialised cfg ⟨true, fd, timerAllocated⟩, [fd]⟩ fds = some _ :=
      Machine.run_idle fun _ => rfl
    constructor
    · intro h
      obtain ⟨c, hrun, hc⟩ := h []
      cases hrun
      exact .inl ⟨rfl, (opened_flagTells cfg).mp hc⟩
    · rintro (⟨-, hfd⟩ | ⟨hctx, -⟩)
      · exact fun fds => ⟨_, hidle fds, (opened_flagTells cfg).mpr hfd⟩
      · exact nomatch hctx
  | false =>
    cases timerAllocated with
    | true =>
      have hidle : ∀ fds, Machine.run connectExpiry
          ⟨initialised cfg ⟨false, fd, true⟩, []⟩ fds = some _ :=
        Machine.run_idle (retry_again cfg fd)
      exact iff_of_true (fun fds => ⟨_, hidle fds, retry_flagTells cfg fd⟩) (.inr ⟨rfl, rfl⟩)
    | false =>
      constructor
      · intro h
        obtain ⟨c, hrun, hc⟩ := h []
        cases hrun
        obtain ⟨k, hk, -⟩ := hc.waiting rfl
        exact nomatch hk
      · rintro (⟨hctx, -⟩ | ⟨-, htimer⟩)
        · exact nomatch hctx
        · exact nomatch htimer

/-- A port that does not open is taken for one that does. -/
theorem unopenedPort_connected : ¬ ∀ (fd : Int) (cfg : IcomStartupConfig) (fds : List Int),
    ∃ c, connectRun ⟨true, fd, true⟩ cfg fds = some c ∧ FlagTells c := by
  intro h
  obtain ⟨c, hrun, hc⟩ := h (-1) .zero []
  rw [connectRun_eq] at hrun
  cases hrun
  exact (opened_flagTells .zero).mp hc rfl

end EspBridges.Icom
