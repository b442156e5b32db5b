import EspBridges.Icom.Expiry
import EspBridges.Icom.TableLaws

namespace EspBridges.Icom

section Time

theorem localTimeout_toInt (timeout : UInt32) : (localTimeout timeout).toInt =
    if 2 * (timeout * 1000000).toNat < 4294967296 then ((timeout * 1000000).toNat : Int)
    else (timeout * 1000000).toNat - 4294967296 :=
  BitVec.toInt_eq_toNat_cond (timeout * 1000000).toBitVec

/-- The sign goes with the `int` into the 64 bits. -/
theorem passed_toNat (timeout : Int32) : (timeout.toInt64.toUInt64.toNat : Int) =
    if timeout.toInt < 0 then timeout.toInt + 18446744073709551616 else timeout.toInt := by
  have hcond : timeout.toInt64.toInt = if 2 * timeout.toInt64.toUInt64.toNat < 18446744073709551616
      then (timeout.toInt64.toUInt64.toNat : Int)
      else timeout.toInt64.toUInt64.toNat - 18446744073709551616 :=
    BitVec.toInt_eq_toNat_cond timeout.toInt64.toBitVec
  have hlt := timeout.toInt64.toUInt64.toNat_lt
  rw [Int32.toInt_toInt64] at hcond
  split at hcond
  · rw [if_neg (by omega)]
    omega
  · rw [if_pos (by omega)]
    omega

structure RunsFor (seconds : UInt16) (passed : UInt64) : Prop where
  product : (seconds.toUInt32 * 1000000).toNat = seconds.toNat * 1000000
  signed : (localTimeout seconds.toUInt32).toInt = seconds.toNat * 1000000
  passed : passed.toNat = seconds.toNat * 1000000

theorem runsFor_iff (seconds : UInt16) :
    RunsFor seconds (localTimeout seconds.toUInt32).toInt64.toUInt64 ↔ seconds.toNat ≤ 2147 := by
  have hproduct : (seconds.toUInt32 * 1000000).toNat = seconds.toNat * 1000000 % 2 ^ 32 := by
    rw [UInt32.toNat_mul, UInt16.toNat_toUInt32]
    rfl
  have hsigned := localTimeout_toInt seconds.toUInt32
  have hpassed := passed_toNat (localTimeout seconds.toUInt32)
  have hlt := seconds.toNat_lt
  constructor
  · intro h
    have hp := h.product
    have hs := h.signed
    split at hsigned <;> omega
  · intro h
    have hexact : (seconds.toUInt32 * 1000000).toNat = seconds.toNat * 1000000 := by omega
    rw [if_pos (by omega), hexact] at hsigned
    rw [if_neg (by omega)] at hpassed
    exact ⟨hexact, by omega, by omega⟩

end Time

section Expiry

variable {t t' : ModbusTask} {e : Expiry}

structure KeepsTimers (t t' : ModbusTask) : Prop where
  config : t'.startupCfg = t.startupCfg
  timers : t'.timers = t.timers
  handles : ∀ i, (t'.mbusRegRtInfo i).timerHandle = (t.mbusRegRtInfo i).timerHandle

theorem setRow_keepsTimers (h : KeepsTimers t t') {i : Fin maxConfigurableRegisters}
    {row : IcomMbusRtRegInfo} (hrow : row.timerHandle = (t'.mbusRegRtInfo i).timerHandle) :
    KeepsTimers t (t'.setRow i row) :=
  ⟨h.config, h.timers, fun k =>
    (setRow_keeps t' IcomMbusRtRegInfo.timerHandle hrow).trans (h.handles k)⟩

theorem poll_keepsTimers (pArg : Option (Fin maxConfigurableRegisters)) (answers : Answers)
    (t : ModbusTask) : KeepsTimers t (icomModbusRtuRegPollCallback pArg answers t).2 := by
  apply poll_reads answers pArg ⟨rfl, rfl, fun _ => rfl⟩
  · intro i addr function t' _ h
    have hline (line : Line) : KeepsTimers t { t' with line := line } :=
      ⟨h.config, h.timers, h.handles⟩
    exact setRow_keepsTimers (hline _) rfl
  · intro i addr function t' _ h
    have hline (line : Line) : KeepsTimers t { t' with line := line } :=
      ⟨h.config, h.timers, h.handles⟩
    exact setRow_keepsTimers (hline _) rfl

theorem connectCallback_keeps {fd : Int} {rc : Nat}
    (h : icomModbusClientConnectTimerCallback none fd t = some (rc, t')) : t' = t := by
  unfold icomModbusClientConnectTimerCallback icomModbusConnectToClient at h
  dsimp only at h
  split at h
  · cases h
    rfl
  · exact nomatch h

theorem call_keepsTimers {hndl : IcomTimerHndl} (h : hndl.call e t = some t') :
    KeepsTimers t t' := by
  unfold IcomTimerHndl.call at h
  split at h
  · obtain ⟨⟨rc, t₁⟩, hcall, rfl⟩ := Option.map_eq_some_iff.mp h
    obtain rfl := connectCallback_keeps hcall
    exact ⟨rfl, rfl, fun _ => rfl⟩
  · exact nomatch h
  · cases h
    exact poll_keepsTimers none e.answers t
  · split at h
    · cases h
      exact poll_keepsTimers _ e.answers t
    · exact nomatch h

def TimerSys.expired (timers : TimerSys) (k : Nat) (hndl : IcomTimerHndl) : TimerSys :=
  { timers with running := timers.running.filter (fun entry => entry.1 ≠ k) ++
      if hndl.repeatFlag ≠ 0 then [(k, (localTimeout hndl.timeout).toInt64.toUInt64)] else [] }

theorem modify_same {hndls : List IcomTimerHndl} {k : Nat} {hndl : IcomTimerHndl}
    (h : hndls[k]? = some hndl) : (hndls.modify k fun old =>
      { old with timeout := hndl.timeout, repeatFlag := hndl.repeatFlag }) = hndls := by
  apply List.ext_getElem?
  intro j
  rw [List.getElem?_modify]
  by_cases hj : k = j
  · subst hj
    rw [h]
    exact congrArg some (if_pos rfl)
  · simp [hj]

theorem icomStartTimer_again {timers : TimerSys} {k : Nat} {hndl : IcomTimerHndl}
    (h : timers.hndls[k]? = some hndl) (hrepeat : hndl.repeatFlag ≠ 0) :
    icomStartTimer k hndl.timeout hndl.repeatFlag
      { timers with running := timers.running.filter fun entry => entry.1 ≠ k } =
        some (timers.expired k hndl) := by
  have hstopped : k ∉ (timers.running.filter fun entry => entry.1 ≠ k).map Prod.fst := by
    rw [List.mem_map]
    rintro ⟨entry, hentry, hk⟩
    exact of_decide_eq_true (List.mem_filter.mp hentry).2 hk
  unfold icomStartTimer TimerSys.expired
  rw [if_neg hstopped, modify_same h, if_pos hrepeat]

theorem timerExpiry_cases (h : timerExpiry t e = some t') :
    ∃ hndl, t.timers.hndls[e.timer]? = some hndl ∧ t'.timers = t.timers.expired e.timer hndl ∧
      t'.startupCfg = t.startupCfg ∧
      ∀ i, (t'.mbusRegRtInfo i).timerHandle = (t.mbusRegRtInfo i).timerHandle := by
  unfold timerExpiry at h
  split at h
  · unfold genericPollingTimerCallback at h
    simp only [Option.bind_eq_bind, Option.bind_eq_some_iff] at h
    obtain ⟨hndl, hhndl, t₁, hcall, hndl', hhndl', hagain⟩ := h
    have hkeeps := call_keepsTimers hcall
    rw [hkeeps.timers] at hhndl' hagain
    obtain rfl := Option.some.inj (hhndl.symm.trans hhndl')
    refine ⟨hndl, hhndl, ?_⟩
    split at hagain
    · rename_i hrepeat
      rw [icomStartTimer_again hhndl hrepeat] at hagain
      cases hagain
      exact ⟨rfl, hkeeps.config, hkeeps.handles⟩
    · rename_i hrepeat
      cases hagain
      refine ⟨?_, hkeeps.config, hkeeps.handles⟩
      rw [hkeeps.timers, TimerSys.expired, if_neg hrepeat, List.append_nil]
  · exact nomatch h

end Expiry

section Ticking

variable {timers : TimerSys}

structure TimerSys.Ticking (timers : TimerSys) : Prop where
  fresh : timers.Fresh
  given : ∀ k passed hndl, (k, passed) ∈ timers.running → timers.hndls[k]? = some hndl →
    passed = (localTimeout hndl.timeout).toInt64.toUInt64
  repeats : ∀ (k : Nat) hndl, timers.hndls[k]? = some hndl → hndl.repeatFlag ≠ 0 →
    k ∈ timers.running.map Prod.fst

theorem TimerSys.Ticking.startNew (h : timers.Ticking) (new : IcomTimerHndl) :
    (timers.startNew new).Ticking := by
  refine ⟨h.fresh.startNew new, fun k passed hndl hk hhndl => ?_, fun k hndl hhndl hrepeat => ?_⟩
  · rw [TimerSys.startNew, List.mem_append, List.mem_singleton, Prod.mk.injEq] at hk
    rcases hk with hk | ⟨rfl, rfl⟩
    · have hlt := h.fresh k (List.mem_map_of_mem (f := Prod.fst) hk)
      rw [TimerSys.startNew, List.getElem?_append_left hlt] at hhndl
      exact h.given k passed hndl hk hhndl
    · rw [TimerSys.startNew, List.getElem?_concat_length] at hhndl
      cases hhndl
      rfl
  · rw [TimerSys.startNew, List.map_append, List.mem_append]
    rw [TimerSys.startNew, List.getElem?_append] at hhndl
    split at hhndl
    · exact .inl (h.repeats k hndl hhndl hrepeat)
    · have hk : k = timers.hndls.length := by
        obtain ⟨hlt, -⟩ := List.getElem?_eq_some_iff.mp hhndl
        rw [List.length_singleton] at hlt
        omega
      exact .inr (List.mem_singleton.mpr hk)

theorem TimerSys.Ticking.expired (h : timers.Ticking) {k : Nat} {hndl : IcomTimerHndl}
    (hhndl : timers.hndls[k]? = some hndl) : (timers.expired k hndl).Ticking := by
  obtain ⟨hk, -⟩ := List.getElem?_eq_some_iff.mp hhndl
  have hentry : ∀ j passed, (j, passed) ∈ (timers.expired k hndl).running →
      (j, passed) ∈ timers.running ∨
        j = k ∧ passed = (localTimeout hndl.timeout).toInt64.toUInt64 := by
    intro j passed hmem
    rcases List.mem_append.mp hmem with hmem | hmem
    · exact .inl (List.mem_filter.mp hmem).1
    · split at hmem
      · exact .inr (Prod.mk.inj (List.mem_singleton.mp hmem))
      · exact nomatch hmem
  refine ⟨fun j hj => ?_, fun j passed other hj hother => ?_, fun j other hother hrepeat => ?_⟩
  · obtain ⟨⟨j, passed⟩, hmem, rfl⟩ := List.mem_map.mp hj
    rcases hentry j passed hmem with hmem | ⟨rfl, -⟩
    · exact h.fresh j (List.mem_map_of_mem (f := Prod.fst) hmem)
    · exact hk
  · rcases hentry j passed hj with hmem | ⟨rfl, hpassed⟩
    · exact h.given j passed other hmem hother
    · obtain rfl := Option.some.inj (hhndl.symm.trans hother)
      exact hpassed
  · rw [TimerSys.expired, List.map_append, List.mem_append]
    by_cases hjk : j = k
    · subst hjk
      obtain rfl := Option.some.inj (hhndl.symm.trans hother)
      rw [if_pos hrepeat]
      exact .inr List.mem_cons_self
    · obtain ⟨entry, hmem, rfl⟩ := List.mem_map.mp (h.repeats j other hother hrepeat)
      refine .inl (List.mem_map_of_mem (f := Prod.fst) (List.mem_filter.mpr ⟨hmem, ?_⟩))
      exact decide_eq_true hjk

end Ticking

section Runs

variable {cfg : IcomStartupConfig} {t t' : ModbusTask}

structure Polling (cfg : IcomStartupConfig) (t : ModbusTask) : Prop where
  config : t.startupCfg = cfg
  ticking : t.timers.Ticking
  rows : ∀ i k, (t.mbusRegRtInfo i).timerHandle = some k →
    t.timers.hndls[k]? = some (t.pollHndl i)

theorem initialised_polling (o : InitOutcome) : Polling cfg (initialised cfg o) := by
  obtain ⟨ctxAllocated, fd, timerAllocated⟩ := o
  have hempty : TimerSys.Ticking ⟨[], []⟩ := ⟨nofun, nofun, nofun⟩
  cases ctxAllocated with
  | true => exact ⟨rfl, hempty, nofun⟩
  | false =>
    cases timerAllocated with
    | false => exact ⟨rfl, hempty, nofun⟩
    | true => exact ⟨rfl, hempty.startNew retryHndl, nofun⟩

theorem Polling.polled (h : Polling cfg t) (i : Fin maxConfigurableRegisters) (made : Bool) :
    Polling cfg (t.polled i made) := by
  have hconfig : (t.polled i made).startupCfg = cfg := polled_config.trans h.config
  have hhndl : (t.polled i made).pollHndl = t.pollHndl := by
    unfold ModbusTask.pollHndl
    rw [hconfig, h.config]
  refine ⟨hconfig, ?_, fun j k hk => ?_⟩
  · cases made with
    | false => exact h.ticking
    | true => exact h.ticking.startNew (t.pollHndl i)
  · rw [hhndl]
    by_cases hji : j = i
    · subst hji
      rw [polled_handle] at hk
      cases made with
      | false => exact nomatch hk
      | true =>
        obtain rfl := Option.some.inj hk
        exact List.getElem?_concat_length
    · rw [polled_other hji] at hk
      exact polled_hndls (h.rows j k hk) made

theorem Polling.expiry {e : Expiry} (h : Polling cfg t) (hstep : timerExpiry t e = some t') :
    Polling cfg t' := by
  obtain ⟨hndl, hhndl, htimers, hconfig, hhandles⟩ := timerExpiry_cases hstep
  have hpollHndl : t'.pollHndl = t.pollHndl := by
    unfold ModbusTask.pollHndl
    rw [hconfig]
  refine ⟨hconfig.trans h.config, ?_, fun i k hk => ?_⟩
  · rw [htimers]
    exact h.ticking.expired hhndl
  · rw [hhandles] at hk
    rw [htimers, hpollHndl]
    exact h.rows i k hk

theorem icomModbusTask_polling {o : InitOutcome} {allocated : Nat → Bool}
    (h : icomModbusTask o allocated cfg = some t) : Polling cfg t := by
  have hstart : Polling cfg (initialised cfg o) := initialised_polling o
  rw [icomModbusTask_eq] at h
  have hcount : (initialised cfg o).startupCfg.cfgRegCount.toInt ≤ maxConfigurableRegisters := by
    apply Int.not_lt.mp
    intro hpast
    exact nomatch (createPollTimers_past allocated hpast).symm.trans h
  obtain ⟨t₁, hrun, ht, -⟩ := createPollTimers_returns allocated hstart.ticking.fresh hcount
    (fun _ => Polling cfg) (fun i t _ h => h.polled i (allocated i)) hstart
  obtain rfl := Option.some.inj (h.symm.trans hrun)
  exact ht

/-- At any time the timer of a row runs, and with its time just in case that is no more than 2147
seconds. -/
theorem timers_run_iff {o : InitOutcome} {allocated : Nat → Bool} {t₀ : ModbusTask}
    (hstart : icomModbusTask o allocated cfg = some t₀)
    (hreach : Machine.Reachable timerExpiry t₀ t) {i : Fin maxConfigurableRegisters} {k : Nat}
    (hk : (t.mbusRegRtInfo i).timerHandle = some k) :
    k ∈ t.timers.running.map Prod.fst ∧ ∀ passed, (k, passed) ∈ t.timers.running →
      (RunsFor (cfg.mbusReg i).pollingFreqSec passed ↔
        (cfg.mbusReg i).pollingFreqSec.toNat ≤ 2147) := by
  have hpolling : Polling cfg t :=
    hreach.invariant (icomModbusTask_polling hstart) fun t e t' h hstep => h.expiry hstep
  have hhndl := hpolling.rows i k hk
  refine ⟨hpolling.ticking.repeats k _ hhndl (by decide : (1 : UInt8) ≠ 0), ?_⟩
  intro passed hpassed
  have hgiven := hpolling.ticking.given k passed _ hpassed hhndl
  unfold ModbusTask.pollHndl at hgiven
  rw [hpolling.config] at hgiven
  rw [hgiven]
  exact runsFor_iff (cfg.mbusReg i).pollingFreqSec

def slowCfg : IcomStartupConfig :=
  { IcomStartupConfig.zero with
    slaveAddress := 17
    cfgRegCount := 1
    mbusReg := fun _ => ⟨icomMbusHoldingReg, 107, 2160, 0⟩ }

theorem slave17_runs : ∃ t₀, ∃ i : Fin maxConfigurableRegisters, ∃ k passed,
    icomModbusTask ⟨true, 3, true⟩ (fun _ => true) slave17Cfg = some t₀ ∧
      (t₀.mbusRegRtInfo i).timerHandle = some k ∧ (k, passed) ∈ t₀.timers.running ∧
        RunsFor 5 passed := by
  refine ⟨_, ⟨0, by decide⟩, 0, (localTimeout 5).toInt64.toUInt64, rfl, rfl, List.mem_cons_self, ?_⟩
  have hstart : icomModbusTask ⟨true, 3, true⟩ (fun _ => true) slave17Cfg = some _ := rfl
  exact ((timers_run_iff hstart .refl (i := ⟨0, by decide⟩) rfl).2 _ List.mem_cons_self).mpr
    (by decide)

/-- A poll every 36 minutes is given a timer of more than half a million years. -/
theorem slowCfg_overflows :
    ¬ ∀ (o : InitOutcome) (allocated : Nat → Bool) (cfg : IcomStartupConfig) (t₀ t : ModbusTask),
      icomModbusTask o allocated cfg = some t₀ → Machine.Reachable timerExpiry t₀ t →
      ∀ (i : Fin maxConfigurableRegisters) k, (t.mbusRegRtInfo i).timerHandle = some k →
      ∀ passed, (k, passed) ∈ t.timers.running → RunsFor (cfg.mbusReg i).pollingFreqSec passed := by
  intro h
  have hslow : RunsFor 2160 (localTimeout 2160).toInt64.toUInt64 :=
    h ⟨true, 3, true⟩ (fun _ => true) slowCfg _ _ rfl .refl ⟨0, by decide⟩ 0 rfl _ List.mem_cons_self
  exact absurd ((runsFor_iff 2160).mp hslow) (by decide)

end Runs

end EspBridges.Icom
