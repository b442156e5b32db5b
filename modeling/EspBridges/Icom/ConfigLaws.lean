import EspBridges.Icom.Config

namespace EspBridges.Icom

open Bytes Program

section Attempt

variable {failed : Fault → α} {work : Sys → α × Sys} {P : Sys → Prop} {Q : α → Sys → Prop}

def CallFree (P : Sys → Prop) : Prop := ∀ s n, P s → P { s with calls := n }

theorem attempt_ensures (hP : CallFree P) (hfailed : ∀ err s, P s → Q (failed err) s)
    (hwork : ∀ s, P s → Q (work s).1 (work s).2) : Ensures P (attempt failed work) Q := by
  intro s a s' hs hrun
  unfold attempt at hrun
  split at hrun
  · cases hrun
    exact hfailed _ _ (hP s _ hs)
  · have hq := hwork _ (hP s (s.calls + 1) hs)
    rw [Option.some.inj hrun] at hq
    exact hq

theorem attempt_keeps (hP : CallFree P) (hwork : ∀ s, P s → P (work s).2) :
    Keeps P (attempt failed work) :=
  attempt_ensures hP (fun _ _ hs => hs) hwork

theorem attempt_returns (hP : CallFree P) (hfault : ∀ s, P s → ∀ k, s.fault k = none)
    (hwork : ∀ s, P s → Q (work s).1 (work s).2) : Returns P (attempt failed work) Q := by
  intro s hs
  refine ⟨_, _, ?_, hwork _ (hP s (s.calls + 1) hs)⟩
  rw [attempt, hfault s hs]

end Attempt

theorem modify_ensures {P Q : Sys → Prop} {f : Sys → Sys} (h : ∀ s, P s → Q (f s)) :
    Ensures P (modify f : Program Sys Unit) fun _ => Q := by
  intro s a s' hs hrun
  cases hrun
  exact h s hs

section Print

variable {s : Sys} {block : Nat}

def rowsAt (held : Nat → Byte) : Nat := (intOf ((List.range 4).map fun i => held (4 + i))).toInt.toNat

def Sys.RowsFit (s : Sys) (block n : Nat) : Prop :=
  12 * n + 2 ≤ sizeofIcomStartupConfig + s.ram.beyond block

instance (s : Sys) (block n : Nat) : Decidable (s.RowsFit block n) :=
  inferInstanceAs (Decidable (_ ≤ _))

theorem load_bind {offset n : Nat} {f : List Byte → Program Sys α} : (load block offset n >>= f) s =
    if offset + n ≤ sizeofIcomStartupConfig + s.ram.beyond block then
      f ((List.range n).map fun i => s.ram.heap block (offset + i)) s
    else none := by
  rw [bind_apply]
  unfold load
  split <;> rfl

theorem printRow_eq (i : Nat) :
    printRow block i s = if s.RowsFit block (i + 1) then some ((), s) else none := by
  unfold printRow
  by_cases hfit : s.RowsFit block (i + 1)
  · rw [if_pos hfit]
    unfold Sys.RowsFit at hfit
    rw [load_bind, if_pos (by omega), load_bind, if_pos (by omega), load_bind, if_pos (by omega)]
    rfl
  · rw [if_neg hfit]
    unfold Sys.RowsFit at hfit
    rw [load_bind]
    split
    · rw [load_bind]
      split
      · rw [load_bind, if_neg (by omega)]
      · rfl
    · rfl

theorem printRows_eq (i n : Nat) : (List.range' i n).forM (printRow block) s =
    if n = 0 ∨ s.RowsFit block (i + n) then some ((), s) else none := by
  induction n generalizing i with
  | zero => exact (if_pos (.inl rfl)).symm
  | succ n ih =>
    show (printRow block i >>= fun _ => (List.range' (i + 1) n).forM (printRow block)) s = _
    rw [bind_apply, printRow_eq]
    have hnext : i + (n + 1) = i + 1 + n := by omega
    by_cases hfirst : s.RowsFit block (i + 1)
    · rw [if_pos hfirst]
      refine (ih (i + 1)).trans ?_
      rw [hnext]
      by_cases hrest : s.RowsFit block (i + 1 + n)
      · rw [if_pos (.inr hrest), if_pos (.inr hrest)]
      · have hsome : n ≠ 0 := by
          rintro rfl
          exact hrest hfirst
        rw [if_neg (fun h => h.elim hsome hrest), if_neg (fun h => h.elim (Nat.succ_ne_zero n) hrest)]
    · have hlast : ¬(n + 1 = 0 ∨ s.RowsFit block (i + (n + 1))) := by
        unfold Sys.RowsFit at hfirst ⊢
        omega
      rw [if_neg hfirst, if_neg hlast]
      rfl

theorem printConfig_eq (block : Nat) (s : Sys) : printConfig block s =
    if s.RowsFit block (rowsAt (s.ram.heap block)) then some ((), s) else none := by
  have hhead : 8 ≤ sizeofIcomStartupConfig := by decide
  unfold printConfig
  rw [load_bind, if_pos (by omega), load_bind, if_pos (by omega), List.range_eq_range', printRows_eq,
    Nat.zero_add]
  show (if rowsAt (s.ram.heap block) = 0 ∨ s.RowsFit block (rowsAt (s.ram.heap block)) then
    some ((), s) else none) = _
  by_cases hfit : s.RowsFit block (rowsAt (s.ram.heap block))
  · rw [if_pos (Or.inr hfit), if_pos hfit]
  · have hsome : rowsAt (s.ram.heap block) ≠ 0 := by
      intro hnone
      unfold Sys.RowsFit at hfit
      omega
    rw [if_neg (fun h => h.elim hsome hfit), if_neg hfit]

theorem printConfig_keeps {P : Sys → Prop} (block : Nat) : Keeps P (printConfig block) := by
  intro s a s' hs hrun
  rw [printConfig_eq] at hrun
  split at hrun
  · cases hrun
    exact hs
  · cases hrun

end Print

structure SystemKeeps (P : Sys → Prop) : Prop where
  opened : Keeps P nvsOpen
  read (handle : Nat) (key : String) (outValue : Option Nat) (length : Nat) :
    Keeps P (nvsGetBlob handle key outValue length)
  written (handle : Nat) (key : String) (value : List Byte) : Keeps P (nvsSetBlob handle key value)
  committed (handle : Nat) : Keeps P (nvsCommit handle)
  closed (handle : Nat) : Keeps P (nvsClose handle)
  allocated : Keeps P malloc
  freed (block : Option Nat) : Keeps P (free block)

section SystemKeeps

variable {P : Sys → Prop}

theorem SystemKeeps.readPrevious (h : SystemKeeps P) (myHandle : Nat) (runTime : Option Nat)
    (size : Nat) : Keeps P (readPrevious myHandle runTime size) :=
  .ite (h.read _ _ _ _) (.pure _)

theorem SystemKeeps.icomReadMbusRegConfig (h : SystemKeeps P) : Keeps P icomReadMbusRegConfig := by
  have hclose : ∀ handle (err : EspErr), Keeps P (nvsClose handle >>= fun _ => pure err) :=
    fun handle err => (h.closed handle).bind fun _ => .pure err
  refine h.opened.bind fun ⟨err, myHandle⟩ => .ite (.pure err) ?_
  refine (h.read _ _ _ _).bind fun ⟨err, requiredSize⟩ => .ite (.pure err) ?_
  refine .ite (hclose _ _) (h.allocated.bind fun runTime => ?_)
  cases runTime with
  | none => exact hclose _ _
  | some runTime =>
    refine (h.read _ _ _ _).bind fun ⟨err, _⟩ => .ite ?_ ?_
    · exact (h.freed _).bind fun _ => .pure err
    · exact (printConfig_keeps runTime).bind fun _ => (h.freed _).bind fun _ => hclose _ _

theorem SystemKeeps.icomWriteMbusRegConfig (h : SystemKeeps P) :
    Keeps P icomWriteMbusRegConfig := by
  refine h.opened.bind fun ⟨err, myHandle⟩ => .ite (.pure err) ?_
  refine (h.read _ _ _ _).bind fun ⟨err, requiredSize⟩ => .ite (.pure err) ?_
  refine h.allocated.bind fun runTime => (h.readPrevious _ _ _).bind fun ⟨err, _⟩ => .ite ?_ ?_
  · exact (h.freed runTime).bind fun _ => .pure err
  refine .ite (fun _ _ _ _ hrun => nomatch hrun) ?_
  have hget : Keeps P (get : Program Sys Sys) := by
    intro s _ _ hs hrun
    cases hrun
    exact hs
  refine hget.bind fun _ => (h.written _ _ _).bind fun err => (h.freed runTime).bind fun _ => ?_
  refine .ite (.pure err) ((h.committed myHandle).bind fun err => .ite (.pure err) ?_)
  exact (h.closed myHandle).bind fun _ => .pure espOk

end SystemKeeps

def HasCfg (c : IcomStartupConfig) (s : Sys) : Prop := s.startupCfg = c

section Keeps

variable (c : IcomStartupConfig)

theorem hasCfg_callFree : CallFree (HasCfg c) := fun _ _ h => h

theorem nvsFlashInit_keeps : Keeps (HasCfg c) nvsFlashInit :=
  attempt_keeps (hasCfg_callFree c) fun _ h => h

theorem hasCfg_systemKeeps : SystemKeeps (HasCfg c) where
  opened := attempt_keeps (hasCfg_callFree c) fun _ h => h
  read handle key outValue length := by
    refine attempt_keeps (hasCfg_callFree c) fun s h => ?_
    split
    · exact h
    · split
      · exact h
      · exact h
      · split <;> exact h
  written handle key value := by
    refine attempt_keeps (hasCfg_callFree c) fun s h => ?_
    split <;> exact h
  committed handle := by
    refine attempt_keeps (hasCfg_callFree c) fun s h => ?_
    split <;> exact h
  closed _ := modify_ensures fun _ h => h
  allocated := attempt_keeps (hasCfg_callFree c) fun _ h => h
  freed _ := modify_ensures fun _ h => h

end Keeps

section Saves

variable {c : IcomStartupConfig}

def Saves (c : IcomStartupConfig) (err : EspErr) (s : Sys) : Prop :=
  err = espOk → s.store "mbus_cfg" = some c.bytes

theorem failed_saves {err : EspErr} (h : err ≠ espOk) {P : Sys → Prop} :
    Ensures P (pure err) (Saves c) :=
  .pure err fun _ _ hok => absurd hok h

theorem nvsSetBlob_ensures (handle : Nat) (value : List Byte) :
    Ensures (fun _ => True) (nvsSetBlob handle "mbus_cfg" value) fun err s =>
      err = espOk → s.cache "mbus_cfg" = some value := by
  refine attempt_ensures (fun _ _ h => h) (fun err _ _ hok => absurd hok err.2) fun s _ => ?_
  split
  · nofun
  · intro _
    show (if "mbus_cfg" = "mbus_cfg" then some value else s.cache "mbus_cfg") = _
    rw [if_pos rfl]

theorem nvsCommit_ensures (handle : Nat) :
    Ensures (fun s => s.cache "mbus_cfg" = some c.bytes) (nvsCommit handle) (Saves c) := by
  refine attempt_ensures (fun _ _ h => h) (fun err _ _ hok => absurd hok err.2) fun s h => ?_
  split
  · nofun
  · exact fun _ => h

theorem commitAndClose_ensures (handle : Nat) :
    Ensures (fun s => s.cache "mbus_cfg" = some c.bytes)
      (do
        let err ← nvsCommit handle
        if err ≠ espOk then return err
        else
          nvsClose handle
          return espOk) (Saves c) := by
  refine Ensures.bind (nvsCommit_ensures handle) fun err => ?_
  split
  · exact failed_saves ‹_›
  · refine Ensures.bind (modify_ensures (Q := fun s => s.store "mbus_cfg" = some c.bytes)
      fun _ h => h (Decidable.not_not.mp ‹_›)) fun _ => ?_
    exact .pure _ fun _ h _ => h

theorem icomWriteMbusRegConfig_saves : Ensures (HasCfg c) icomWriteMbusRegConfig (Saves c) := by
  refine Ensures.bind (hasCfg_systemKeeps c).opened fun ⟨err, myHandle⟩ => ?_
  dsimp only
  split
  · exact failed_saves ‹_›
  refine Ensures.bind ((hasCfg_systemKeeps c).read _ _ _ _) fun ⟨err, requiredSize⟩ => ?_
  dsimp only
  split
  · exact failed_saves (And.left ‹_›)
  refine Ensures.bind (hasCfg_systemKeeps c).allocated fun runTime => ?_
  refine Ensures.bind ((hasCfg_systemKeeps c).readPrevious _ _ _) fun ⟨err, _⟩ => ?_
  dsimp only
  split
  · exact Ensures.bind ((hasCfg_systemKeeps c).freed runTime) fun _ => failed_saves ‹_›
  split
  · exact fun _ _ _ _ hrun => nomatch hrun
  have hread : Ensures (HasCfg c) (get : Program Sys Sys) fun s _ => s.startupCfg = c := by
    intro s _ _ hs hrun
    cases hrun
    exact hs
  refine hread.bind fun s => ?_
  intro s₀ err s₄ hcfg hrun
  rw [show s.startupCfg = c from hcfg] at hrun
  refine Ensures.bind (nvsSetBlob_ensures myHandle c.bytes) (fun err => ?_) s₀ err s₄ trivial hrun
  refine Ensures.bind (modify_ensures
    (Q := fun s => err = espOk → s.cache "mbus_cfg" = some c.bytes) fun _ h => h) fun _ => ?_
  split
  · exact failed_saves ‹_›
  · exact (commitAndClose_ensures myHandle).pre fun _ h => h (Decidable.not_not.mp ‹_›)

end Saves

theorem icomInitConfigSubsys_ensures (c : IcomStartupConfig) :
    Ensures (HasCfg c) icomInitConfigSubsys fun _ => HasCfg (populateDummyCfg c) := by
  refine Ensures.bind (nvsFlashInit_keeps c) fun _ => ?_
  exact modify_ensures fun _ h => congrArg populateDummyCfg h

def bootConfig : Program Sys EspErr := do
  icomInitConfigSubsys
  icomReadMbusRegConfig

theorem bootConfig_ensures : Ensures (HasCfg .zero) bootConfig fun _ =>
    HasCfg (populateDummyCfg .zero) :=
  (icomInitConfigSubsys_ensures .zero).bind fun _ =>
    (hasCfg_systemKeeps _).icomReadMbusRegConfig

structure SameAnswers (c c' : IcomStartupConfig) : Prop where
  count : icomGetConfiguredModbusRegisterCount c = icomGetConfiguredModbusRegisterCount c'
  register : ∀ (index : Int) (row : Fin maxConfigurableRegisters),
    icomGetConfiguredModbusRegister index = some (row.val : Int) → c.mbusReg row = c'.mbusReg row
  mqttBroker : ∀ w, icomGetConfiguredMqttBroker c w = icomGetConfiguredMqttBroker c' w
  mqttBrokerUsername : ∀ w,
    icomGetConfiguredMqttBrokerUsername c w = icomGetConfiguredMqttBrokerUsername c' w
  mqttBrokerPasswd : ∀ w,
    icomGetConfiguredMqttBrokerPasswd c w = icomGetConfiguredMqttBrokerPasswd c' w
  httpServer : ∀ w, icomGetConfiguredHttpServer c w = icomGetConfiguredHttpServer c' w

theorem SameAnswers.refl (c : IcomStartupConfig) : SameAnswers c c :=
  ⟨rfl, fun _ _ _ => rfl, fun _ => rfl, fun _ => rfl, fun _ => rfl, fun _ => rfl⟩

/-- The store is persistent: what is saved is not reported missing. -/
def Persistent (fault : Nat → Option Fault) : Prop :=
  ∀ k err, fault k = some err → err.val ≠ espErrNvsNotFound

/-- A configuration that was saved is in use after a reboot; `reach` is as far as memory goes behind
a block. -/
def Survives (reach : Nat) (c : IcomStartupConfig) : Prop :=
  ∀ (s s₁ s₂ : Sys) (fault : Nat → Option Fault) (ram : Ram), s.startupCfg = c →
    Persistent fault → (∀ b, ram.beyond b ≤ reach) →
    icomWriteMbusRegConfig s = some (espOk, s₁) →
    bootConfig (s₁.reboot fault ram) = some (espOk, s₂) →
    s₂.startupCfg = c ∧ SameAnswers s₂.startupCfg c

section Bytes

variable (c : IcomStartupConfig)

theorem intOf_le32 (x : Int32) : intOf (le32 x.toUInt32) = x := by
  have hvalue : UInt32.ofNat ((le32 x.toUInt32).foldr (fun b n => b.toNat + 256 * n) 0) =
      x.toUInt32 := by
    apply UInt32.toNat.inj
    generalize x.toUInt32 = y
    have hlt := y.toNat_lt
    have h8 : (y >>> 8).toNat = y.toNat / 256 :=
      (UInt32.toNat_shiftRight y 8).trans (Nat.shiftRight_eq_div_pow y.toNat 8)
    have h16 : (y >>> 16).toNat = y.toNat / 65536 :=
      (UInt32.toNat_shiftRight y 16).trans (Nat.shiftRight_eq_div_pow y.toNat 16)
    have h24 : (y >>> 24).toNat = y.toNat / 16777216 :=
      (UInt32.toNat_shiftRight y 24).trans (Nat.shiftRight_eq_div_pow y.toNat 24)
    rw [UInt32.toNat_ofNat']
    show (y.toUInt8.toNat + 256 * ((y >>> 8).toUInt8.toNat + 256 * ((y >>> 16).toUInt8.toNat +
      256 * ((y >>> 24).toUInt8.toNat + 256 * 0)))) % 4294967296 = y.toNat
    rw [UInt32.toNat_toUInt8, UInt32.toNat_toUInt8, UInt32.toNat_toUInt8, UInt32.toNat_toUInt8, h8,
      h16, h24]
    omega
  unfold intOf
  rw [hvalue, Int32.toInt32_toUInt32]

theorem length_rows (rows : List IcomMbusRegInfo) :
    (rows.flatMap IcomMbusRegInfo.bytes).length = 12 * rows.length := by
  induction rows with
  | nil => rfl
  | cons row rows ih =>
    rw [List.flatMap_cons, List.length_append, ih, List.length_cons]
    show 12 + _ = _
    omega

@[simp] theorem IcomStartupConfig.length_bytes : c.bytes.length = sizeofIcomStartupConfig := by
  simp only [IcomStartupConfig.bytes, List.length_append, length_rows, List.length_ofFn]
  rfl

theorem rowsAt_filled (m : Ram) (block : Nat) :
    rowsAt (m.filled block c.bytes) = c.cfgRegCount.toInt.toNat := by
  have hcount : ((List.range 4).map fun i => m.filled block c.bytes (4 + i)) =
      le32 c.cfgRegCount.toUInt32 := by
    have hin : ∀ i, i < 4 → m.filled block c.bytes (4 + i) = c.bytes.getD (4 + i) 0 := by
      intro i hi
      refine if_pos ?_
      rw [c.length_bytes]
      show _ < 1476
      omega
    rw [List.map_congr_left fun i hi => hin i (List.mem_range.mp hi)]
    rfl
  unfold rowsAt
  rw [hcount, intOf_le32]

end Bytes

def RowsReached (reach : Nat) (c : IcomStartupConfig) : Prop :=
  12 * c.cfgRegCount.toInt.toNat + 2 ≤ sizeofIcomStartupConfig + reach

def Sys.blank (c : IcomStartupConfig) : Sys where
  startupCfg := c
  cache := fun _ => none
  store := fun _ => none
  handles := []
  nextHandle := 1
  blocks := []
  nextBlock := 1
  overrun := false
  ram := ⟨fun _ _ => 0, fun _ => 0⟩
  fault := fun _ => none
  calls := 0

section Saved

variable {c : IcomStartupConfig} {reach : Nat}

def Saved (c : IcomStartupConfig) (s : Sys) : Prop :=
  (∀ k, s.fault k = none) ∧ s.cache "mbus_cfg" = some c.bytes ∧
    ∀ b, s.RowsFit b c.cfgRegCount.toInt.toNat

theorem saved_callFree : CallFree (Saved c) := fun _ _ h => h

theorem nvsOpen_returns : Returns (Saved c) nvsOpen fun r s =>
    r.1 = espOk ∧ Saved c s ∧ r.2 ∈ s.handles :=
  attempt_returns saved_callFree (fun _ h => h.1) fun _ h => ⟨rfl, h, .head _⟩

theorem nvsGetBlob_answers {handle length : Nat} :
    Returns (fun s => Saved c s ∧ handle ∈ s.handles)
      (nvsGetBlob handle "mbus_cfg" none length) fun r s =>
        r = (espOk, sizeofIcomStartupConfig) ∧ Saved c s ∧ handle ∈ s.handles := by
  refine attempt_returns (fun _ _ h => h) (fun _ h => h.1.1) fun s h => ?_
  rw [if_neg (Decidable.not_not.mpr h.2), h.1.2.1]
  exact ⟨congrArg (Prod.mk espOk) c.length_bytes, h⟩

theorem nvsGetBlob_returns {handle block : Nat} :
    Returns (fun s => Saved c s ∧ handle ∈ s.handles)
      (nvsGetBlob handle "mbus_cfg" (some block) sizeofIcomStartupConfig) fun r s =>
        r.1 = espOk ∧ Saved c s ∧ rowsAt (s.ram.heap block) = c.cfgRegCount.toInt.toNat := by
  refine attempt_returns (fun _ _ h => h) (fun _ h => h.1.1) fun s h => ?_
  rw [if_neg (Decidable.not_not.mpr h.2), h.1.2.1]
  dsimp only
  rw [if_neg (Nat.not_lt.mpr (Nat.le_of_eq c.length_bytes))]
  refine ⟨rfl, h.1, ?_⟩
  show rowsAt ((s.ram.fill block c.bytes).heap block) = _
  rw [Ram.fill_heap, rowsAt_filled]

end Saved

theorem bootConfig_returns (c : IcomStartupConfig) :
    Returns (Saved c) bootConfig fun err _ => err = espOk := by
  have hinit : Returns (Saved c) icomInitConfigSubsys fun _ => Saved c := by
    have hflash : Returns (Saved c) nvsFlashInit fun _ => Saved c :=
      attempt_returns saved_callFree (fun _ h => h.1) fun _ h => h
    exact hflash.bind fun _ s hs => ⟨_, _, rfl, hs⟩
  refine hinit.bind fun _ => nvsOpen_returns.bind fun ⟨err, myHandle⟩ => .assume ?_
  rintro (rfl : err = espOk)
  dsimp only
  rw [if_neg (fun h => h rfl)]
  refine nvsGetBlob_answers.bind fun r => .assume ?_
  rintro rfl
  dsimp only
  rw [if_neg (fun h => h.1 rfl), if_neg (by decide)]
  have hmalloc : Returns (fun s => Saved c s ∧ myHandle ∈ s.handles) malloc fun runTime s =>
      runTime ≠ none ∧ Saved c s ∧ myHandle ∈ s.handles :=
    attempt_returns (fun _ _ h => h) (fun _ h => h.1.1) fun _ h => ⟨nofun, h⟩
  refine hmalloc.bind fun runTime => .assume fun hrunTime => ?_
  cases runTime with
  | none => exact absurd rfl hrunTime
  | some runTime =>
    refine nvsGetBlob_returns.bind fun ⟨err, _⟩ => .assume ?_
    rintro (rfl : err = espOk)
    dsimp only
    rw [if_neg (fun h => h rfl)]
    have hprint : Returns (fun s => Saved c s ∧
        rowsAt (s.ram.heap runTime) = c.cfgRegCount.toInt.toNat) (printConfig runTime)
          fun _ _ => True := by
      rintro s ⟨hsaved, hrows⟩
      refine ⟨(), s, ?_, trivial⟩
      rw [printConfig_eq, hrows, if_pos (hsaved.2.2 runTime)]
    exact hprint.bind fun _ s _ => ⟨_, _, rfl, rfl⟩

def dummyCfg : IcomStartupConfig :=
  { IcomStartupConfig.zero with
    slaveAddress := 100
    cfgRegCount := 1
    mbusReg := fun i => if i.val = 0 then ⟨0x03, 0, 5, 0⟩ else ⟨0, 0, 0, 0⟩ }

theorem populateDummyCfg_zero : populateDummyCfg .zero = dummyCfg := by
  unfold populateDummyCfg populateRows dummyCfg
  rw [IcomStartupConfig.mk.injEq]
  refine ⟨rfl, rfl, funext fun i => ?_, rfl, rfl, rfl, rfl, rfl⟩
  show (if i.val < 1 then _ else _) = _
  by_cases hi : i.val = 0
  · rw [if_pos (by omega), if_pos hi, hi]
    rfl
  · rw [if_neg (by omega), if_neg hi]
    rfl

theorem survives_dummy {reach : Nat} {c : IcomStartupConfig} (h : Survives reach c)
    (hreach : RowsReached reach c) : c = dummyCfg := by
  have hwrite : ∃ s₁, icomWriteMbusRegConfig (.blank c) = some (espOk, s₁) := ⟨_, rfl⟩
  obtain ⟨s₁, hwrite⟩ := hwrite
  have hstore := icomWriteMbusRegConfig_saves (.blank c) _ _ rfl hwrite rfl
  obtain ⟨err, s₂, hboot, rfl⟩ := bootConfig_returns c
    (s₁.reboot (fun _ => none) ⟨fun _ _ => 0, fun _ => reach⟩) ⟨fun _ => rfl, hstore, fun _ => hreach⟩
  have hdummy := bootConfig_ensures (s₁.reboot _ _) _ _ rfl hboot
  have hpersistent : Persistent fun _ => none :=
    fun _ _ hfault => absurd hfault.symm (Option.some_ne_none _)
  exact (h _ _ _ _ _ rfl hpersistent (fun _ => Nat.le_refl _) hwrite hboot).1.symm.trans
    (hdummy.trans populateDummyCfg_zero)

section Unread

variable {c : IcomStartupConfig} {reach : Nat}

def Stored (c : IcomStartupConfig) (reach : Nat) (s : Sys) : Prop :=
  s.cache "mbus_cfg" = some c.bytes ∧ Persistent s.fault ∧ ∀ b, s.ram.beyond b ≤ reach

theorem stored_size (handle : Nat) :
    Ensures (Stored c reach) (nvsGetBlob handle "mbus_cfg" none 0) fun r s => Stored c reach s ∧
      (r = (espOk, sizeofIcomStartupConfig) ∨ r.1 ≠ espOk ∧ r.1 ≠ espErrNvsNotFound) := by
  intro s r s' h hrun
  unfold nvsGetBlob attempt at hrun
  cases hfault : s.fault s.calls with
  | some err =>
    rw [hfault] at hrun
    cases hrun
    exact ⟨h, .inr ⟨err.2, h.2.1 _ _ hfault⟩⟩
  | none =>
    rw [hfault] at hrun
    dsimp only at hrun
    split at hrun
    · cases hrun
      exact ⟨h, .inr (by decide)⟩
    · rw [h.1] at hrun
      cases hrun
      exact ⟨h, .inl (congrArg (Prod.mk espOk) c.length_bytes)⟩

theorem stored_read (handle block : Nat) :
    Ensures (Stored c reach)
      (nvsGetBlob handle "mbus_cfg" (some block) sizeofIcomStartupConfig) fun r s =>
        Stored c reach s ∧
          (r.1 = espOk → rowsAt (s.ram.heap block) = c.cfgRegCount.toInt.toNat) := by
  refine attempt_ensures (fun _ _ h => h) (fun err _ h => ⟨h, fun hok => absurd hok err.2⟩)
    fun s h => ?_
  split
  · exact ⟨h, nofun⟩
  · rw [h.1]
    dsimp only
    rw [if_neg (Nat.not_lt.mpr (Nat.le_of_eq c.length_bytes))]
    refine ⟨h, fun _ => ?_⟩
    show rowsAt ((s.ram.fill block c.bytes).heap block) = _
    rw [Ram.fill_heap, rowsAt_filled]

theorem print_unreached (hreach : ¬RowsReached reach c) {block : Nat} {Q : Unit → Sys → Prop} :
    Ensures (fun s => Stored c reach s ∧ rowsAt (s.ram.heap block) = c.cfgRegCount.toInt.toNat)
      (printConfig block) Q := by
  rintro s a s' ⟨hs, hrows⟩ hrun
  have hbeyond := hs.2.2 block
  have hnot : ¬s.RowsFit block c.cfgRegCount.toInt.toNat := by
    unfold Sys.RowsFit
    unfold RowsReached at hreach
    omega
  rw [printConfig_eq, hrows, if_neg hnot] at hrun
  cases hrun

theorem read_unreached (hreach : ¬RowsReached reach c) :
    Ensures (Stored c reach) icomReadMbusRegConfig fun err _ => err ≠ espOk := by
  have hfails : ∀ {err : EspErr} {x : Program Sys Unit}, err ≠ espOk →
      Ensures (fun _ => True) (x >>= fun _ => pure err) fun err' _ => err' ≠ espOk :=
    fun herr => Ensures.bind (Q := fun _ _ => True) (fun _ _ _ _ _ => trivial)
      fun _ => .pure _ fun _ _ => herr
  have hopen : Ensures (Stored c reach) nvsOpen fun _ => Stored c reach :=
    attempt_keeps (fun _ _ h => h) fun _ h => h
  refine hopen.bind fun ⟨err, myHandle⟩ => ?_
  dsimp only
  split
  · exact .pure _ fun _ _ => ‹_›
  refine (stored_size myHandle).bind fun ⟨err, requiredSize⟩ => ?_
  dsimp only
  split
  · exact .pure _ fun _ _ => And.left ‹_›
  rename_i hanswer
  refine Ensures.assume (φ := requiredSize = sizeofIcomStartupConfig) (P := Stored c reach) ?_ ?_
  · rintro s ⟨hs, hok | hbad⟩
    · exact ⟨congrArg Prod.snd hok, hs⟩
    · exact absurd hbad hanswer
  rintro rfl
  rw [if_neg (by decide)]
  have hmalloc : Ensures (Stored c reach) malloc fun _ => Stored c reach :=
    attempt_keeps (fun _ _ h => h) fun _ h => h
  refine hmalloc.bind fun runTime => ?_
  cases runTime with
  | none => exact (hfails (by decide)).pre fun _ _ => trivial
  | some runTime =>
    refine (stored_read myHandle runTime).bind fun ⟨err, _⟩ => ?_
    dsimp only
    split
    · exact (hfails ‹_›).pre fun _ _ => trivial
    · refine Ensures.bind ((print_unreached hreach (Q := fun _ _ => False)).pre fun s hs => ?_)
        fun _ _ _ _ hfalse => hfalse.elim
      exact ⟨hs.1, hs.2 (Decidable.not_not.mp ‹_›)⟩

end Unread

/-- A configuration survives just in case it is the one the program makes up, or has so many rows
that reading them does not succeed. -/
theorem survives_iff (reach : Nat) (c : IcomStartupConfig) :
    Survives reach c ↔ c = dummyCfg ∨ ¬RowsReached reach c := by
  constructor
  · intro h
    by_cases hreach : RowsReached reach c
    · exact .inl (survives_dummy h hreach)
    · exact .inr hreach
  · intro h s s₁ s₂ fault ram hcfg hpersistent hbeyond hwrite hboot
    have hdummy : s₂.startupCfg = _ := bootConfig_ensures (s₁.reboot _ _) _ _ rfl hboot
    rcases h with rfl | hreach
    · rw [hdummy, populateDummyCfg_zero]
      exact ⟨rfl, .refl _⟩
    · have hstored : Stored c reach (s₁.reboot fault ram) :=
        ⟨icomWriteMbusRegConfig_saves s _ _ hcfg hwrite rfl, hpersistent, hbeyond⟩
      have hinit : Keeps (Stored c reach) icomInitConfigSubsys :=
        Ensures.bind (attempt_keeps (fun _ _ h => h) fun _ h => h) fun _ => modify_ensures fun _ h => h
      exact absurd rfl (Ensures.bind hinit (fun _ => read_unreached hreach) _ _ _ hstored hboot)

/-- A device told to poll slave 17 polls slave 100 after it is switched on again. -/
theorem slaveAddress_lost : ¬ ∀ reach c, Survives reach c := by
  intro hevery
  have hsame := survives_dummy (hevery 0 { IcomStartupConfig.zero with slaveAddress := 17 })
    (show 2 ≤ 1476 by decide)
  have haddress : (17 : Int32) = 100 := congrArg IcomStartupConfig.slaveAddress hsame
  revert haddress
  decide

end EspBridges.Icom
