import EspBridges.Icom.PollLaws

namespace EspBridges.Icom

structure PolledRow (cfg : IcomStartupConfig) (t : ModbusTask)
    (i : Fin maxConfigurableRegisters) : Prop where
  register : (t.mbusRegRtInfo i).pMbusConfReg = some i
  address : (t.mbusRegRtInfo i).regAddress = (cfg.mbusReg i).regAddress
  timer : ∃ k hndl, (t.mbusRegRtInfo i).timerHandle = some k ∧ t.timers.hndls[k]? = some hndl ∧
    hndl.pCallback = .icomModbusRtuRegPollCallback ∧ hndl.pCallbackContext = .rtRow i

/-- Two rows never share a timer, since it comes back to one of them only. -/
theorem PolledRow.own {cfg : IcomStartupConfig} {t : ModbusTask}
    {i j : Fin maxConfigurableRegisters} (hi : PolledRow cfg t i) (hj : PolledRow cfg t j)
    (h : (t.mbusRegRtInfo i).timerHandle = (t.mbusRegRtInfo j).timerHandle) : i = j := by
  obtain ⟨k, hndl, hk, hhndl, -, hcontext⟩ := hi.timer
  obtain ⟨k', hndl', hk', hhndl', -, hcontext'⟩ := hj.timer
  obtain rfl := Option.some.inj (hk.symm.trans (h.trans hk'))
  obtain rfl := Option.some.inj (hhndl.symm.trans hhndl')
  exact Fin.ext (CallbackContext.rtRow.inj (hcontext.symm.trans hcontext'))

structure TimersMatch (cfg : IcomStartupConfig) (t : ModbusTask) : Prop where
  rows : ∀ i : Fin maxConfigurableRegisters, (i : Int) < cfg.cfgRegCount.toInt → PolledRow cfg t i
  own : ∀ i j : Fin maxConfigurableRegisters, (i : Int) < cfg.cfgRegCount.toInt →
    (j : Int) < cfg.cfgRegCount.toInt →
    (t.mbusRegRtInfo i).timerHandle = (t.mbusRegRtInfo j).timerHandle → i = j

section Loop

variable {cfg : IcomStartupConfig} {t : ModbusTask} {i k : Fin maxConfigurableRegisters}

theorem polled_config {made : Bool} : (t.polled i made).startupCfg = t.startupCfg := by
  cases made with
  | false => rfl
  | true => rfl

theorem polled_row {made : Bool} : (t.polled i made).mbusRegRtInfo i =
    t.pollRow i (if made then some t.timers.hndls.length else none) := by
  cases made with
  | false => exact setRow_row t _ i
  | true => exact setRow_row _ _ i

theorem polled_handle {made : Bool} : ((t.polled i made).mbusRegRtInfo i).timerHandle =
    if made then some t.timers.hndls.length else none :=
  congrArg IcomMbusRtRegInfo.timerHandle polled_row

theorem polled_other (h : k ≠ i) (made : Bool) :
    (t.polled i made).mbusRegRtInfo k = t.mbusRegRtInfo k := by
  cases made with
  | false => exact setRow_other t _ h
  | true => exact setRow_other _ _ h

theorem polled_hndls {n : Nat} {hndl : IcomTimerHndl} (h : t.timers.hndls[n]? = some hndl)
    (made : Bool) : (t.polled i made).timers.hndls[n]? = some hndl := by
  cases made with
  | false => exact h
  | true =>
    obtain ⟨hn, -⟩ := List.getElem?_eq_some_iff.mp h
    exact (List.getElem?_append_left hn).trans h

theorem PolledRow.polled (h : PolledRow cfg t k) (hk : k ≠ i) (made : Bool) :
    PolledRow cfg (t.polled i made) k := by
  have hrow := polled_other (t := t) hk made
  obtain ⟨n, hndl, hn, hhndl, hcallback⟩ := h.timer
  exact ⟨(congrArg _ hrow).trans h.register, (congrArg _ hrow).trans h.address,
    n, hndl, (congrArg _ hrow).trans hn, polled_hndls hhndl made, hcallback⟩

theorem polled_setRow (t : ModbusTask) (i : Fin maxConfigurableRegisters) :
    PolledRow t.startupCfg (t.polled i true) i := by
  have hrow : (t.polled i true).mbusRegRtInfo i = t.pollRow i (some t.timers.hndls.length) :=
    polled_row
  have hhndl : (t.polled i true).timers.hndls[t.timers.hndls.length]? = some (t.pollHndl i) :=
    List.getElem?_concat_length
  exact ⟨congrArg _ hrow, congrArg _ hrow, _, _, congrArg _ hrow, hhndl, rfl, rfl⟩

structure SetRows (allocated : Nat → Bool) (cfg : IcomStartupConfig) (n : Nat) (t : ModbusTask) :
    Prop where
  config : t.startupCfg = cfg
  made : ∀ i : Fin maxConfigurableRegisters, i.val < n → allocated i = true → PolledRow cfg t i
  missing : ∀ i : Fin maxConfigurableRegisters, i.val < n → allocated i = false →
    (t.mbusRegRtInfo i).timerHandle = none

theorem SetRows.polled {allocated : Nat → Bool} (h : SetRows allocated cfg i t) :
    SetRows allocated cfg (i + 1) (t.polled i (allocated i)) := by
  refine ⟨polled_config.trans h.config, fun k hk hmade => ?_, fun k hk hmissing => ?_⟩
  · by_cases hki : k = i
    · rw [hki] at hmade ⊢
      rw [hmade, ← h.config]
      exact polled_setRow t i
    · have hne : k.val ≠ i.val := fun h => hki (Fin.ext h)
      exact (h.made k (by omega) hmade).polled hki _
  · by_cases hki : k = i
    · rw [hki] at hmissing ⊢
      rw [polled_handle, hmissing]
      exact if_neg Bool.false_ne_true
    · have hne : k.val ≠ i.val := fun h => hki (Fin.ext h)
      rw [polled_other hki]
      exact h.missing k (by omega) hmissing

/-- Past the limit the accessor still gives a pointer, and the loop goes past the tables. -/
theorem createPollTimers_past (allocated : Nat → Bool)
    (h : maxConfigurableRegisters < t.startupCfg.cfgRegCount.toInt) :
    icomCreateModbusRtuPollTimers allocated t = none := by
  have hn : maxConfigurableRegisters < t.startupCfg.cfgRegCount.toInt.toNat := by omega
  exact Program.foldlM_range_crash hn (fun t => rfl) t

end Loop

/-- The loop leaves the table right for the counts that fit it, as long as there is memory for the
timers, and the accessor is wrong below the table and just past it. -/
theorem pollTimers_match_iff {t : ModbusTask} (hfresh : t.timers.Fresh) (allocated : Nat → Bool) :
    ((∃ t', icomCreateModbusRtuPollTimers allocated t = some t' ∧ TimersMatch t.startupCfg t') ↔
      t.startupCfg.cfgRegCount.toInt ≤ maxConfigurableRegisters ∧
        ∀ i : Nat, (i : Int) < t.startupCfg.cfgRegCount.toInt → allocated i = true) ∧
    ∀ index : Int, ((icomGetConfiguredModbusRegister index).isSome = true ↔
        0 ≤ index ∧ index < maxConfigurableRegisters) ↔
      ¬ (index < 0 ∨ index = maxConfigurableRegisters) := by
  refine ⟨⟨?_, ?_⟩, fun index => ?_⟩
  · rintro ⟨t', hrun, hmatch⟩
    have hcount : t.startupCfg.cfgRegCount.toInt ≤ maxConfigurableRegisters := by
      apply Int.not_lt.mp
      intro hpast
      rw [createPollTimers_past allocated hpast] at hrun
      exact nomatch hrun
    obtain ⟨t₁, hrun₁, hset, -⟩ := createPollTimers_returns allocated hfresh hcount
      (SetRows allocated t.startupCfg) (fun i t _ h => h.polled) ⟨rfl, nofun, nofun⟩
    obtain rfl := Option.some.inj (hrun.symm.trans hrun₁)
    refine ⟨hcount, fun i hi => ?_⟩
    obtain ⟨k, hndl, hk, -⟩ := (hmatch.rows ⟨i, by omega⟩ hi).timer
    cases hmade : allocated i with
    | true => rfl
    | false =>
      have hin : i < t.startupCfg.cfgRegCount.toInt.toNat := by omega
      exact nomatch (hset.missing ⟨i, by omega⟩ hin hmade).symm.trans hk
  · rintro ⟨hcount, hmade⟩
    obtain ⟨t', hrun, hset, -⟩ := createPollTimers_returns allocated hfresh hcount
      (SetRows allocated t.startupCfg) (fun i t _ h => h.polled) ⟨rfl, nofun, nofun⟩
    have hrow : ∀ i : Fin maxConfigurableRegisters, (i : Int) < t.startupCfg.cfgRegCount.toInt →
        PolledRow t.startupCfg t' i := fun i hi => hset.made i (by omega) (hmade i hi)
    exact ⟨t', hrun, hrow, fun i j hi hj => (hrow i hi).own (hrow j hj)⟩
  · unfold icomGetConfiguredModbusRegister maxConfigurableRegisters
    by_cases hpast : index > (100 : Nat)
    · rw [if_pos hpast]
      refine iff_of_true (iff_of_false nofun ?_) ?_ <;> omega
    · rw [if_neg hpast]
      constructor
      · intro h
        have hin := h.mp rfl
        omega
      · intro h
        exact iff_of_true rfl (by omega)

theorem slave17_rows_match : ∃ t',
    icomCreateModbusRtuPollTimers (fun _ => true) (.boot slave17Cfg) = some t' ∧
      TimersMatch slave17Cfg t' :=
  (pollTimers_match_iff (t := .boot slave17Cfg) nofun fun _ => true).1.mpr
    ⟨by decide, fun _ _ => rfl⟩

/-- With 101 registers the loop does not come to its end. -/
theorem register101_crashes : ¬ ((∀ cfg : IcomStartupConfig,
      ∃ t', icomModbusTask ⟨true, 3, true⟩ (fun _ => true) cfg = some t' ∧ TimersMatch cfg t') ∧
    ∀ index : Int, (icomGetConfiguredModbusRegister index).isSome = true ↔
      0 ≤ index ∧ index < maxConfigurableRegisters) := by
  rintro ⟨h, -⟩
  obtain ⟨t', hrun, -⟩ := h { IcomStartupConfig.zero with cfgRegCount := 101 }
  rw [icomModbusTask_eq, createPollTimers_past _ (by decide)] at hrun
  exact nomatch hrun

end EspBridges.Icom
