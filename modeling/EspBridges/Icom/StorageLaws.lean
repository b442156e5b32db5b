import EspBridges.Icom.ConfigLaws
import EspBridges.Lib.Machine

namespace EspBridges.Icom

open Bytes Program

def Sys.Fresh (s : Sys) : Prop := ∀ h ∈ s.handles, h < s.nextHandle

inductive ConfigCall where
  | write | read
  deriving DecidableEq

def ConfigCall.program : ConfigCall → Program Sys EspErr
  | write => icomWriteMbusRegConfig
  | read => icomReadMbusRegConfig

structure Settled (call : ConfigCall) (s : Sys) (err : EspErr) (s' : Sys) : Prop where
  handles : ∀ h ∈ s'.handles, h ∈ s.handles
  blocks : ∀ b ∈ s'.blocks, b ∈ s.blocks
  inBlock : s'.overrun = false
  startupCfg : s'.startupCfg = s.startupCfg
  stored : call = .write → err = espOk ∨ s'.cache = s.cache ∧ s'.store = s.store

def reportedSize (s : Sys) : Nat :=
  match s.fault (s.calls + 1), s.cache "mbus_cfg" with
  | none, some blob => blob.length
  | _, _ => 0

def SizeAnswered (s : Sys) : Prop :=
  ∀ err, s.fault (s.calls + 1) = some err → err.val = espErrNvsNotFound

/-- The number of rows that the block of a call will say it holds, and with it what lies there. -/
def reportedRows (s : Sys) : Nat :=
  match s.cache "mbus_cfg" with
  | some blob => rowsAt (s.ram.filled s.nextBlock blob)
  | none => 0

/-- The outcomes of its calls of the system with which a function cleans up after itself. -/
def ConfigCall.CleansUp (s : Sys) : ConfigCall → Prop
  | write =>
    s.fault s.calls ≠ none ∨ SizeAnswered s ∧ reportedSize s ≤ sizeofIcomStartupConfig ∧
      ∀ k, 2 ≤ k → k < (if reportedSize s = 0 then 5 else 6) → s.fault (s.calls + k) = none
  | read =>
    s.fault s.calls ≠ none ∨ SizeAnswered s ∧ (reportedSize s = 0 ∨ s.fault (s.calls + 2) ≠ none ∨
      s.fault (s.calls + 3) = none ∧ reportedSize s ≤ sizeofIcomStartupConfig ∧
        s.RowsFit s.nextBlock (reportedRows s))

def Sys.called (s : Sys) : Sys := { s with calls := s.calls + 1 }

def Sys.opened (s : Sys) : Sys :=
  { s.called with handles := s.nextHandle :: s.handles, nextHandle := s.nextHandle + 1 }

section Calls

variable {s : Sys} {handle size : Nat} {outValue : Option Nat} {err : Fault}

theorem attempt_fails {failed : Fault → α} {work : Sys → α × Sys}
    (h : s.fault s.calls = some err) : attempt failed work s = some (failed err, s.called) := by
  unfold attempt
  rw [h]
  rfl

theorem attempt_works {failed : Fault → α} {work : Sys → α × Sys}
    (h : s.fault s.calls = none) : attempt failed work s = some (work s.called) := by
  unfold attempt
  rw [h]
  rfl

theorem nvsOpen_fails (h : s.fault s.calls = some err) :
    nvsOpen s = some ((err.val, 0), s.called) := attempt_fails h

theorem nvsOpen_works (h : s.fault s.calls = none) :
    nvsOpen s = some ((espOk, s.nextHandle), s.opened) := attempt_works h

theorem nvsGetBlob_fails (h : s.fault s.calls = some err) :
    nvsGetBlob handle "mbus_cfg" outValue size s = some ((err.val, size), s.called) :=
  attempt_fails h

theorem nvsGetBlob_works {r : (EspErr × Nat) × Sys} (hopen : handle ∈ s.handles)
    (h : s.fault s.calls = none)
    (hr : (match s.cache "mbus_cfg", outValue with
      | none, _ => ((espErrNvsNotFound, size), s.called)
      | some blob, none => ((espOk, blob.length), s.called)
      | some blob, some block =>
        if size < blob.length then ((espErrNvsInvalidLength, blob.length), s.called)
        else
          ((espOk, blob.length), { s.called with
            overrun := s.overrun || sizeofIcomStartupConfig < blob.length
            ram := s.ram.fill block blob })) = r) :
    nvsGetBlob handle "mbus_cfg" outValue size s = some r := by
  subst hr
  exact (attempt_works h).trans (congrArg some (if_neg (Decidable.not_not.mpr hopen)))

theorem nvsGetBlob_absent (hopen : handle ∈ s.handles) (h : s.fault s.calls = none)
    (hcache : s.cache "mbus_cfg" = none) :
    nvsGetBlob handle "mbus_cfg" outValue size s = some ((espErrNvsNotFound, size), s.called) :=
  nvsGetBlob_works hopen h (by rw [hcache])

theorem nvsGetBlob_size {blob : List Byte} (hopen : handle ∈ s.handles)
    (h : s.fault s.calls = none) (hcache : s.cache "mbus_cfg" = some blob) :
    nvsGetBlob handle "mbus_cfg" none size s = some ((espOk, blob.length), s.called) :=
  nvsGetBlob_works hopen h (by rw [hcache])

theorem nvsGetBlob_reads {blob : List Byte} {block : Nat} (hopen : handle ∈ s.handles)
    (h : s.fault s.calls = none) (hcache : s.cache "mbus_cfg" = some blob) :
    nvsGetBlob handle "mbus_cfg" (some block) blob.length s = some ((espOk, blob.length),
      { s.called with
        overrun := s.overrun || sizeofIcomStartupConfig < blob.length
        ram := s.ram.fill block blob }) :=
  nvsGetBlob_works hopen h (by rw [hcache]; exact if_neg (Nat.lt_irrefl _))

end Calls

def openAndSize (rest : Nat → Nat → Program Sys EspErr) : Program Sys EspErr := do
  let (err, myHandle) ← nvsOpen
  if err ≠ espOk then return err
  else
    let (err, requiredSize) ← nvsGetBlob myHandle "mbus_cfg" none 0
    if err ≠ espOk ∧ err ≠ espErrNvsNotFound then return err
    else rest myHandle requiredSize

def saveAndClose (myHandle : Nat) (runTime : Option Nat) : Program Sys EspErr := do
  let err ← nvsSetBlob myHandle "mbus_cfg" (← get).startupCfg.bytes
  free runTime
  if err ≠ espOk then return err
  else
    let err ← nvsCommit myHandle
    if err ≠ espOk then return err
    else
      nvsClose myHandle
      return espOk

def writeRest (myHandle requiredSize : Nat) : Program Sys EspErr := do
  let runTime ← malloc
  let (err, _) ← readPrevious myHandle runTime requiredSize
  if err ≠ espOk then
    free runTime
    return err
  else if runTime = none then failure
  else saveAndClose myHandle runTime

theorem icomWriteMbusRegConfig_eq : icomWriteMbusRegConfig = openAndSize writeRest := rfl

def printAndClose (myHandle runTime : Nat) : Program Sys EspErr := do
  printConfig runTime
  free (some runTime)
  nvsClose myHandle
  return espOk

def readRest (myHandle requiredSize : Nat) : Program Sys EspErr :=
  if requiredSize = 0 then do
    nvsClose myHandle
    return espOk
  else do
    match ← malloc with
    | none =>
      nvsClose myHandle
      return 1
    | some runTime =>
      let (err, _) ← nvsGetBlob myHandle "mbus_cfg" (some runTime) requiredSize
      if err ≠ espOk then
        free (some runTime)
        return err
      else
        printAndClose myHandle runTime

theorem icomReadMbusRegConfig_eq : icomReadMbusRegConfig = openAndSize readRest := rfl

section Start

variable {s : Sys} {call : ConfigCall} {rest : Nat → Nat → Program Sys EspErr}

theorem Settled.unchanged {s' : Sys} (err : EspErr) (hhandles : s'.handles = s.handles)
    (hblocks : s'.blocks = s.blocks) (hinBlock : s'.overrun = false)
    (hcfg : s'.startupCfg = s.startupCfg) (hcache : s'.cache = s.cache)
    (hstore : s'.store = s.store) : Settled call s err s' where
  handles := hhandles ▸ fun _ h => h
  blocks := hblocks ▸ fun _ h => h
  inBlock := hinBlock
  startupCfg := hcfg
  stored _ := .inr ⟨hcache, hstore⟩

theorem Settled.closed {s' : Sys} {err : EspErr} (h : Settled call s err s') (hfresh : s.Fresh)
    (hopen : s.nextHandle ∈ s'.handles) : False :=
  Nat.lt_irrefl _ (hfresh _ (h.handles _ hopen))

theorem openAndSize_settles (hfresh : s.Fresh) (hin : s.overrun = false) :
    Yields (openAndSize rest) s (Settled call s) ↔ s.fault s.calls ≠ none ∨
      SizeAnswered s ∧ Yields (rest s.nextHandle (reportedSize s)) s.opened.called (Settled call s) := by
  have goesOn : ∀ (err : EspErr) (size : Nat), err = espOk ∨ err = espErrNvsNotFound →
      (Yields (if err ≠ espOk ∧ err ≠ espErrNvsNotFound then (pure err : Program Sys EspErr)
        else rest s.nextHandle size) s.opened.called (Settled call s) ↔
          Yields (rest s.nextHandle size) s.opened.called (Settled call s)) := by
    intro err size herr
    rw [if_neg]
    exact fun h => herr.elim h.1 h.2
  unfold openAndSize
  cases hopen : s.fault s.calls with
  | some err =>
    rw [yields_bind_of_eq (nvsOpen_fails hopen)]
    show Yields (if err.val ≠ espOk then (pure err.val : Program Sys EspErr) else _) _ _ ↔ _
    rw [if_pos err.2, yields_pure]
    exact iff_of_true (.unchanged _ rfl rfl hin rfl rfl rfl) (.inl nofun)
  | none =>
    rw [yields_bind_of_eq (nvsOpen_works hopen)]
    show Yields (nvsGetBlob s.nextHandle "mbus_cfg" none 0 >>= _) s.opened _ ↔ _
    replace hopen : s.nextHandle ∈ s.opened.handles := .head _
    unfold SizeAnswered reportedSize
    cases hsize : s.fault (s.calls + 1) with
    | some err =>
      rw [yields_bind_of_eq (nvsGetBlob_fails hsize)]
      by_cases hnone : err.val = espErrNvsNotFound
      · refine (goesOn err.val 0 (.inr hnone)).trans ?_
        simp [hnone]
      · show Yields (if err.val ≠ espOk ∧ err.val ≠ espErrNvsNotFound then
          (pure err.val : Program Sys EspErr) else _) _ _ ↔ _
        rw [if_pos ⟨err.2, hnone⟩, yields_pure]
        refine iff_of_false (fun h => h.closed hfresh (.head _)) ?_
        simp [hnone]
    | none =>
      cases hcache : s.cache "mbus_cfg" with
      | none =>
        rw [yields_bind_of_eq (nvsGetBlob_absent hopen hsize hcache)]
        refine (goesOn _ 0 (.inr rfl)).trans ?_
        simp
      | some blob =>
        rw [yields_bind_of_eq (nvsGetBlob_size hopen hsize hcache)]
        refine (goesOn _ blob.length (.inl rfl)).trans ?_
        simp

end Start

section Stores

variable {s : Sys} {handle : Nat}

theorem nvsSetBlob_fails {err : Fault} {value : List Byte} (h : s.fault s.calls = some err) :
    nvsSetBlob handle "mbus_cfg" value s = some (err.val, s.called) := attempt_fails h

theorem nvsSetBlob_works {value : List Byte} (hopen : handle ∈ s.handles)
    (h : s.fault s.calls = none) :
    nvsSetBlob handle "mbus_cfg" value s = some (espOk, { s.called with
      cache := fun k => if k = "mbus_cfg" then some value else s.cache k }) :=
  (attempt_works h).trans (congrArg some (if_neg (Decidable.not_not.mpr hopen)))

theorem nvsCommit_fails {err : Fault} (h : s.fault s.calls = some err) :
    nvsCommit handle s = some (err.val, s.called) := attempt_fails h

theorem nvsCommit_works (hopen : handle ∈ s.handles) (h : s.fault s.calls = none) :
    nvsCommit handle s = some (espOk, { s.called with store := s.cache }) :=
  (attempt_works h).trans (congrArg some (if_neg (Decidable.not_not.mpr hopen)))

end Stores

structure Holding (s t : Sys) : Prop where
  handles : t.handles = s.nextHandle :: s.handles
  blocks : ∀ b ∈ t.blocks, some b ≠ some s.nextBlock → b ∈ s.blocks
  startupCfg : t.startupCfg = s.startupCfg
  fault : t.fault = s.fault

def Sys.allocated (s : Sys) : Sys :=
  { s.called with blocks := s.nextBlock :: s.blocks, nextBlock := s.nextBlock + 1 }

theorem holding_allocated (s : Sys) : Holding s s.opened.called.allocated :=
  ⟨rfl, fun _ hb hne => (List.mem_cons.mp hb).resolve_left fun h => hne (congrArg some h), rfl, rfl⟩

theorem noOverrun_iff {s : Sys} (hin : s.overrun = false) (size : Nat) :
    (s.overrun || decide (sizeofIcomStartupConfig < size)) = false ↔
      size ≤ sizeofIcomStartupConfig := by
  rw [hin, Bool.false_or, decide_eq_false_iff_not, Nat.not_lt]

theorem erase_opened (s : Sys) : ∀ h ∈ (s.nextHandle :: s.handles).erase s.nextHandle, h ∈ s.handles := by
  rw [List.erase_cons_head]
  exact fun _ h => h

section Write

variable {s t : Sys}

theorem Holding.closed (h : Holding s t) :
    ∀ x ∈ t.handles.erase s.nextHandle, x ∈ s.handles := by
  rw [h.handles]
  exact erase_opened s

theorem Holding.freed (h : Holding s t) :
    ∀ b ∈ t.blocks.filter fun b => some s.nextBlock ≠ some b, b ∈ s.blocks := by
  intro b hb
  obtain ⟨hb, hne⟩ := List.mem_filter.mp hb
  exact h.blocks b hb fun heq => of_decide_eq_true hne heq.symm

theorem Holding.read (h : Holding s t) (overrun : Bool) (ram : Ram) :
    Holding s { t.called with overrun := overrun, ram := ram } :=
  ⟨h.handles, h.blocks, h.startupCfg, h.fault⟩

theorem Holding.not_settled {call : ConfigCall} {err : EspErr} {t' : Sys} (h : Holding s t)
    (hfresh : s.Fresh) (hsame : t'.handles = t.handles) : ¬ Settled call s err t' := by
  intro hsettled
  refine hsettled.closed hfresh ?_
  rw [hsame, h.handles]
  exact .head _

theorem saveAndClose_settles (h : Holding s t) (hfresh : s.Fresh) :
    Yields (saveAndClose s.nextHandle (some s.nextBlock)) t (Settled .write s) ↔
      s.fault t.calls = none ∧ s.fault (t.calls + 1) = none ∧ t.overrun = false := by
  have hopen : s.nextHandle ∈ t.handles := h.handles ▸ .head _
  unfold saveAndClose
  rw [← h.fault, yields_bind_of_eq (show (get : Program Sys Sys) t = some (t, t) from rfl)]
  cases hset : t.fault t.calls with
  | some err =>
    rw [yields_bind_of_eq (nvsSetBlob_fails hset), yields_bind_of_eq rfl, if_pos err.2, yields_pure]
    exact iff_of_false (h.not_settled hfresh rfl) (fun h => nomatch h.1)
  | none =>
    rw [yields_bind_of_eq (nvsSetBlob_works hopen hset), yields_bind_of_eq rfl,
      if_neg (fun h => h rfl)]
    cases hcommit : t.fault (t.calls + 1) with
    | some err =>
      rw [yields_bind_of_eq (nvsCommit_fails hcommit), if_pos err.2, yields_pure]
      exact iff_of_false (h.not_settled hfresh rfl) (fun h => nomatch h.2.1)
    | none =>
      refine (yields_bind_of_eq (nvsCommit_works ?_ ?_)).trans ?_
      · exact hopen
      · exact hcommit
      rw [if_neg (fun h => h rfl), yields_bind_of_eq rfl, yields_pure]
      constructor
      · exact fun hsettled => ⟨rfl, rfl, hsettled.inBlock⟩
      · rintro ⟨_, _, hin⟩
        exact ⟨h.closed, h.freed, hin, h.startupCfg, fun _ => .inl rfl⟩

theorem malloc_fails {err : Fault} (h : s.fault s.calls = some err) :
    malloc s = some (none, s.called) := attempt_fails h

theorem malloc_works (h : s.fault s.calls = none) :
    malloc s = some (some s.nextBlock, s.allocated) := attempt_works h

theorem reportedSize_cases (s : Sys) : reportedSize s = 0 ∨
    ∃ blob, s.cache "mbus_cfg" = some blob ∧ reportedSize s = blob.length := by
  unfold reportedSize
  split
  case h_1 blob _ hcache => exact .inr ⟨blob, hcache, rfl⟩
  case h_2 => exact .inl rfl

theorem readPrevious_handles (handles : List Nat) (myHandle : Nat) (runTime : Option Nat)
    (size : Nat) : Keeps (fun t => t.handles = handles) (readPrevious myHandle runTime size) := by
  refine .ite (attempt_keeps (fun _ _ h => h) fun t h => ?_) (.pure _)
  split
  · exact h
  · split
    · exact h
    · exact h
    · split <;> exact h

theorem writeRest_noBlock (hfresh : s.Fresh) {size : Nat} {err : Fault}
    (h : s.fault (s.calls + 2) = some err) :
    ¬ Yields (writeRest s.nextHandle size) s.opened.called (Settled .write s) := by
  unfold writeRest
  rw [yields_bind_of_eq (malloc_fails h), yields_bind]
  rintro ⟨⟨err', _⟩, t, hrun, hsettled⟩
  have hhandles := readPrevious_handles _ _ _ _ _ _ _ rfl hrun
  dsimp only at hsettled
  by_cases herr : err' = espOk
  · rw [if_neg (fun hne => hne herr), if_pos rfl] at hsettled
    exact yields_failure hsettled
  · rw [if_pos herr, yields_bind_of_eq rfl, yields_pure] at hsettled
    refine hsettled.closed hfresh ?_
    show s.nextHandle ∈ t.handles
    rw [hhandles]
    exact .head _

theorem writeRest_settles (hfresh : s.Fresh) (hin : s.overrun = false) :
    Yields (writeRest s.nextHandle (reportedSize s)) s.opened.called (Settled .write s) ↔
      reportedSize s ≤ sizeofIcomStartupConfig ∧
        ∀ k, 2 ≤ k → k < (if reportedSize s = 0 then 5 else 6) → s.fault (s.calls + k) = none := by
  cases hmalloc : s.fault (s.calls + 2) with
  | some err =>
    refine iff_of_false (writeRest_noBlock hfresh hmalloc) fun h => ?_
    have hworks := h.2 2 (Nat.le_refl 2) (by split <;> decide)
    rw [hmalloc] at hworks
    cases hworks
  | none =>
    have hholding := holding_allocated s
    unfold writeRest
    rw [yields_bind_of_eq (malloc_works hmalloc)]
    by_cases hzero : reportedSize s = 0
    · rw [hzero, if_pos rfl]
      refine (yields_bind_of_eq rfl).trans ?_
      dsimp only
      rw [if_neg (fun hne => hne rfl), if_neg nofun]
      refine (saveAndClose_settles hholding hfresh).trans ?_
      constructor
      · rintro ⟨h3, h4, _⟩
        refine ⟨Nat.zero_le _, fun k hlo hhi => ?_⟩
        obtain rfl | rfl | rfl : k = 2 ∨ k = 3 ∨ k = 4 := by omega
        · exact hmalloc
        · exact h3
        · exact h4
      · rintro ⟨_, h⟩
        exact ⟨h 3 (by decide) (by decide), h 4 (by decide) (by decide), hin⟩
    · obtain ⟨blob, hcache, hsize⟩ := (reportedSize_cases s).resolve_left hzero
      rw [if_neg hzero, hsize]
      have hread : readPrevious s.nextHandle (some s.nextBlock) blob.length =
          nvsGetBlob s.nextHandle "mbus_cfg" (some s.nextBlock) blob.length :=
        if_pos (by omega)
      show Yields (readPrevious s.nextHandle (some s.nextBlock) blob.length >>= _) _ _ ↔ _
      rw [hread]
      cases hget : s.fault (s.calls + 3) with
      | some err =>
        rw [yields_bind_of_eq (nvsGetBlob_fails hget)]
        dsimp only
        rw [if_pos err.2, yields_bind_of_eq rfl, yields_pure]
        refine iff_of_false (hholding.not_settled hfresh rfl) fun h => ?_
        have hworks := h.2 3 (by decide) (by decide)
        rw [hget] at hworks
        cases hworks
      | none =>
        refine (yields_bind_of_eq (nvsGetBlob_reads ?_ ?_ ?_)).trans ?_
        · exact .head _
        · exact hget
        · exact hcache
        dsimp only
        rw [if_neg (fun hne => hne rfl), if_neg nofun]
        refine (saveAndClose_settles (hholding.read _ _) hfresh).trans ?_
        show _ ∧ _ ∧ (s.overrun || decide (sizeofIcomStartupConfig < blob.length)) = false ↔ _
        rw [noOverrun_iff hin]
        constructor
        · rintro ⟨h4, h5, hfit⟩
          refine ⟨hfit, fun k hlo hhi => ?_⟩
          obtain rfl | rfl | rfl | rfl : k = 2 ∨ k = 3 ∨ k = 4 ∨ k = 5 := by omega
          · exact hmalloc
          · exact hget
          · exact h4
          · exact h5
        · rintro ⟨hfit, h⟩
          exact ⟨h 4 (by decide) (by decide), h 5 (by decide) (by decide), hfit⟩

end Write

section Read

variable {s : Sys}

theorem printAndClose_settles {t : Sys} (h : Holding s t) :
    Yields (printAndClose s.nextHandle s.nextBlock) t (Settled .read s) ↔
      t.overrun = false ∧ t.RowsFit s.nextBlock (rowsAt (t.ram.heap s.nextBlock)) := by
  unfold printAndClose
  by_cases hload : t.RowsFit s.nextBlock (rowsAt (t.ram.heap s.nextBlock))
  · rw [yields_bind_of_eq ((printConfig_eq _ t).trans (if_pos hload)), yields_bind_of_eq rfl,
      yields_bind_of_eq rfl, yields_pure]
    constructor
    · exact fun hsettled => ⟨hsettled.inBlock, hload⟩
    · exact fun hin => ⟨h.closed, h.freed, hin.1, h.startupCfg, nofun⟩
  · refine iff_of_false ?_ fun hin => hload hin.2
    rw [yields_bind]
    rintro ⟨_, _, hrun, -⟩
    rw [printConfig_eq, if_neg hload] at hrun
    cases hrun

theorem readRest_settles (hfresh : s.Fresh) (hin : s.overrun = false) :
    Yields (readRest s.nextHandle (reportedSize s)) s.opened.called (Settled .read s) ↔
      reportedSize s = 0 ∨ s.fault (s.calls + 2) ≠ none ∨
        s.fault (s.calls + 3) = none ∧ reportedSize s ≤ sizeofIcomStartupConfig ∧
          s.RowsFit s.nextBlock (reportedRows s) := by
  unfold readRest
  by_cases hzero : reportedSize s = 0
  · rw [if_pos hzero, yields_bind_of_eq rfl, yields_pure]
    exact iff_of_true ⟨erase_opened s, fun _ hb => hb, hin, rfl, nofun⟩ (.inl hzero)
  obtain ⟨blob, hcache, hsize⟩ := (reportedSize_cases s).resolve_left hzero
  rw [if_neg hzero]
  cases hmalloc : s.fault (s.calls + 2) with
  | some err =>
    rw [yields_bind_of_eq (malloc_fails hmalloc), yields_bind_of_eq rfl, yields_pure]
    exact iff_of_true ⟨erase_opened s, fun _ hb => hb, hin, rfl, nofun⟩ (.inr (.inl nofun))
  | none =>
    have hholding := holding_allocated s
    rw [yields_bind_of_eq (malloc_works hmalloc), hsize]
    dsimp only
    cases hget : s.fault (s.calls + 3) with
    | some err =>
      rw [yields_bind_of_eq (nvsGetBlob_fails hget)]
      dsimp only
      rw [if_pos err.2, yields_bind_of_eq rfl, yields_pure]
      refine iff_of_false (hholding.not_settled hfresh rfl) ?_
      simp [hsize ▸ hzero]
    | none =>
      refine (yields_bind_of_eq (nvsGetBlob_reads ?_ ?_ ?_)).trans ?_
      · exact .head _
      · exact hget
      · exact hcache
      dsimp only
      rw [if_neg (fun hne => hne rfl)]
      refine (printAndClose_settles (hholding.read _ _)).trans ?_
      have hrows : rowsAt (s.ram.filled s.nextBlock blob) = reportedRows s := by
        rw [reportedRows, hcache]
      show (s.overrun || decide (sizeofIcomStartupConfig < blob.length)) = false ∧
        s.RowsFit s.nextBlock (rowsAt ((s.ram.fill s.nextBlock blob).heap s.nextBlock)) ↔ _
      rw [noOverrun_iff hin, Ram.fill_heap, hrows]
      constructor
      · exact fun hfit => .inr (.inr ⟨rfl, hfit⟩)
      · rintro (h | h | h)
        · exact absurd (hsize.trans h) hzero
        · exact absurd rfl h
        · exact h.2

end Read

theorem settles_iff (call : ConfigCall) {s : Sys} (hfresh : s.Fresh) (hin : s.overrun = false) :
    Yields call.program s (Settled call s) ↔ call.CleansUp s := by
  cases call with
  | write =>
    show Yields icomWriteMbusRegConfig s _ ↔ _
    rw [icomWriteMbusRegConfig_eq, openAndSize_settles hfresh hin, writeRest_settles hfresh hin]
    rfl
  | read =>
    show Yields icomReadMbusRegConfig s _ ↔ _
    rw [icomReadMbusRegConfig_eq, openAndSize_settles hfresh hin, readRest_settles hfresh hin]
    rfl

theorem fresh_systemKeeps : SystemKeeps Sys.Fresh where
  opened := by
    refine attempt_keeps (fun _ _ h => h) fun s h handle hmem => ?_
    rcases List.mem_cons.mp hmem with rfl | hmem
    · exact Nat.lt_succ_self _
    · exact Nat.lt_succ_of_lt (h handle hmem)
  read handle key outValue length := by
    refine attempt_keeps (fun _ _ h => h) fun s h => ?_
    split
    · exact h
    · split
      · exact h
      · exact h
      · split <;> exact h
  written handle key value := by
    refine attempt_keeps (fun _ _ h => h) fun s h => ?_
    split <;> exact h
  committed handle := by
    refine attempt_keeps (fun _ _ h => h) fun s h => ?_
    split <;> exact h
  closed _ := modify_ensures fun _ h handle hmem => h handle (List.mem_of_mem_erase hmem)
  allocated := attempt_keeps (fun _ _ h => h) fun _ h => h
  freed _ := modify_ensures fun _ h => h

theorem ConfigCall.keeps_fresh (call : ConfigCall) : Keeps Sys.Fresh call.program := by
  cases call with
  | write => exact fresh_systemKeeps.icomWriteMbusRegConfig
  | read => exact fresh_systemKeeps.icomReadMbusRegConfig

def configStep (s : Sys) (call : ConfigCall) : Option Sys := (call.program s).map Prod.snd

theorem run_settles {s s' : Sys} {calls : List ConfigCall} (hfresh : s.Fresh)
    (hin : s.overrun = false) (hr : Machine.run configStep s calls = some s')
    (hclean : Machine.Guarded configStep (fun s call => call.CleansUp s) s calls) :
    (∀ h ∈ s'.handles, h ∈ s.handles) ∧ ∀ b ∈ s'.blocks, b ∈ s.blocks := by
  induction calls generalizing s with
  | nil =>
    cases hr
    exact ⟨fun _ h => h, fun _ h => h⟩
  | cons call calls ih =>
    simp only [Machine.run, Option.bind_eq_some_iff] at hr
    obtain ⟨mid, hstep, hrest⟩ := hr
    obtain ⟨hcall, hclean⟩ := hclean mid hstep
    obtain ⟨⟨err, _⟩, hrun, rfl⟩ := Option.map_eq_some_iff.mp hstep
    have hsettled := (yields_of_eq hrun).mp ((settles_iff call hfresh hin).mpr hcall)
    obtain ⟨hhandles, hblocks⟩ := ih (call.keeps_fresh s err _ hfresh hrun) hsettled.inBlock hrest
      hclean
    exact ⟨fun h hmem => hsettled.handles h (hhandles h hmem),
      fun b hmem => hsettled.blocks b (hblocks b hmem)⟩

/-- A function leaves nothing behind just in case its calls of the system go as they should, and
a run of such functions cannot exhaust the system. -/
theorem configCalls_settle {s : Sys} (hfresh : s.Fresh) (hin : s.overrun = false) :
    (∀ call : ConfigCall, Yields call.program s (Settled call s) ↔ call.CleansUp s) ∧
      ∀ (calls : List ConfigCall) (s' : Sys), Machine.run configStep s calls = some s' →
        Machine.Guarded configStep (fun s call => call.CleansUp s) s calls →
        (∀ h ∈ s'.handles, h ∈ s.handles) ∧ ∀ b ∈ s'.blocks, b ∈ s.blocks :=
  ⟨fun call => settles_iff call hfresh hin, fun _ _ hr hclean => run_settles hfresh hin hr hclean⟩

def firstSave : Program Sys EspErr := do
  icomInitConfigSubsys
  icomWriteMbusRegConfig

theorem firstSave_settles : ∃ s, firstSave (.blank .zero) = some (espOk, s) ∧
    s.cache "mbus_cfg" = some (populateDummyCfg .zero).bytes ∧
      Yields icomReadMbusRegConfig s (Settled .read s) := by
  obtain ⟨s, hsave, hhandles, hin, hfault, hcache, hram⟩ : ∃ s, firstSave (.blank .zero) =
      some (espOk, s) ∧ s.handles = [] ∧ s.overrun = false ∧ s.fault = (fun _ => none) ∧
        s.cache "mbus_cfg" = some (populateDummyCfg .zero).bytes ∧
        s.ram = (Sys.blank .zero).ram := ⟨_, rfl, rfl, rfl, rfl, rfl, rfl⟩
  have hfresh : s.Fresh := by
    intro h hmem
    rw [hhandles] at hmem
    exact absurd hmem List.not_mem_nil
  have hrows : reportedRows s = 1 := by
    rw [reportedRows, hcache]
    exact rowsAt_filled _ _ _
  have hsize : reportedSize s = sizeofIcomStartupConfig := by
    rw [reportedSize, hfault, hcache]
    exact IcomStartupConfig.length_bytes _
  refine ⟨s, hsave, hcache, ((configCalls_settle hfresh hin).1 .read).mpr (.inr ⟨?_, ?_⟩)⟩
  · intro err herr
    rw [hfault] at herr
    cases herr
  · refine .inr (.inr ⟨by rw [hfault], Nat.le_of_eq hsize, ?_⟩)
    rw [hrows, Sys.RowsFit, hram]
    show 14 ≤ 1476 + 0
    decide

def commitFails : Sys :=
  { Sys.blank .zero with fault := fun k => if k = 4 then some ⟨0x1101, by decide⟩ else none }

theorem commitFails_fresh : commitFails.Fresh := nofun

/-- When the commit fails the handle of the save stays open. -/
theorem failedCommit_leaks : ¬ ∀ (call : ConfigCall) (s : Sys), s.Fresh → s.overrun = false →
    Yields call.program s (Settled call s) := by
  intro hevery
  have hsettles := hevery .write commitFails commitFails_fresh rfl
  obtain h | ⟨_, _, hcalls⟩ := (settles_iff .write commitFails_fresh rfl).mp hsettles
  · exact h rfl
  · have hcommit := hcalls 4 (by decide) (by decide)
    cases hcommit

end EspBridges.Icom
