import EspBridges.Ccu.ListingLaws
import EspBridges.Ccu.SourceLaws

namespace EspBridges.Ccu

open Bytes

def Cid.checksType : Cid → Bool
  | .register | .changePassword | .storeEmergencyNumbers | .storePersonalNumbers | .selectAWifi
  | .enterLocalHelpNumbers | .ccuActivate => true
  | _ => false

def rejection (value : List Byte) : Option Byte :=
  match Cid.ofByte? (value.getD 2 0) with
  | none => some errorUnrecognizedCommand
  | some cmd =>
    if cmd.checksType ∧ value.getD 3 0 ∉ cmd.dataTypes then some errorUnrecognizedData else none

structure LeftAlone (g g' : Globals) : Prop where
  noFrame : g'.env.io = g.env.io
  fsmState : g'.fsm.btState = g.fsm.btState
  thisCcu : g'.ble.thisCcu = g.ble.thisCcu
  savedMessages : g'.ble.savedMessages = g.ble.savedMessages

def ReportedNext (code : Byte) (b : Bridge) : Prop :=
  ∀ es mid read b', (∀ e ∈ es, e.action.isIdle = true) → Machine.run step b es = some mid →
    read.action = .gattRead → step mid read = some b' → b'.glob.main.epReturnMessage 6 = code

structure TurnedAway (code : Byte) (b b' : Bridge) : Prop where
  leftAlone : LeftAlone b.glob b'.glob
  reported : ReportedNext code b'

/-- The states in which a rejected message changes nothing: those its handler sets before it
looks at the data type, as far as a read does not ask for patience in them. -/
def RejectsCleanly (value : List Byte) (g : Globals) : Prop :=
  match Cid.ofByte? (value.getD 2 0) with
  | none | some .ccuActivate => waiting g.fsm.btState = false
  | some .register =>
    g.fsm.btState = .mobRegistered ∧ g.ble.thisCcu.pairedMob1.dataStatus &&& flagDataSetMob1Id ≠ 0
  | some .selectAWifi => g.fsm.btState = .wifiSelectInProgress
  | _ => False

theorem reportedNext_iff {b : Bridge} (hservice : b.glob.main.serviceCreated = true)
    {code : Byte} : ReportedNext code b ↔
      (if waiting b.glob.fsm.btState then returnMsgNotReady else b.glob.main.epReturnMessage 6) =
        code := by
  constructor
  · intro h
    have hread : step b (.calm .gattRead) =
        some { b with glob := gattsReadEvt (b.at (.calm .gattRead)).glob } := if_pos hservice
    have hcode := h [] b _ _ (by simp) rfl rfl hread
    exact (gattsReadEvt_rc (b.at (.calm .gattRead)).glob).symm.trans hcode
  · intro h es mid read b' hidle hrun hread hs
    obtain ⟨hmain, hfsm⟩ := run_idle hservice hrun hidle
    obtain ⟨_, rfl⟩ := step_eq_some hs
    rw [hread, ← h, ← hmain, ← hfsm]
    exact gattsReadEvt_rc (mid.at read).glob

theorem rejection_tables {value : List Byte} {code : Byte} (h : rejection value = some code)
    (g : Globals) (rc : Byte) :
    requests g (value.getD 3 0) (Cid.ofByte? (value.getD 2 0)) = false ∧
      savesRow (value.getD 3 0) (Cid.ofByte? (value.getD 2 0)) = none ∧
      commandRc g (value.getD 3 0) rc (Cid.ofByte? (value.getD 2 0)) = code := by
  unfold rejection at h
  generalize value.getD 3 0 = t at *
  cases hcmd : Cid.ofByte? (value.getD 2 0) with
  | none =>
    rw [hcmd] at h
    exact ⟨rfl, rfl, Option.some.inj h⟩
  | some cmd =>
    rw [hcmd] at h
    simp only [Option.ite_none_right_eq_some, Option.some.injEq] at h
    obtain ⟨⟨hchecks, ht⟩, hcode⟩ := h
    cases cmd with
    | register =>
      simp only [requests, savesRow, commandRc]
      exact ⟨decide_eq_false ht, trivial, by rw [if_neg ht, hcode]⟩
    | changePassword | storeEmergencyNumbers | storePersonalNumbers | selectAWifi
    | enterLocalHelpNumbers | ccuActivate =>
      simp only [Cid.dataTypes, List.mem_cons, List.not_mem_nil, not_or] at ht
      simp only [requests, savesRow, commandRc]
      simp [ht, ← hcode]
    | _ => cases hchecks

theorem pairing_ne_self {iMsg : View} {p : Mob1} (hreg : iMsg.byte 2 = Cid.code .register)
    (hflag : p.dataStatus &&& flagDataSetMob1Id = 0) : pairing iMsg p ≠ p := by
  intro hsame
  have hstatus := congrArg Mob1.dataStatus hsame
  unfold pairing at hstatus
  rw [if_pos ⟨hreg.symm, hflag⟩] at hstatus
  dsimp only at hstatus
  have hset : (p.dataStatus ||| flagDataSetMob1Id) &&& flagDataSetMob1Id = flagDataSetMob1Id := by
    apply UInt8.eq_of_toBitVec_eq
    simp only [flagDataSetMob1Id, UInt8.toBitVec_and, UInt8.toBitVec_or]
    ext i hi
    simp only [BitVec.getElem_and, BitVec.getElem_or]
    grind
  rw [hstatus, hflag] at hset
  exact absurd hset (by decide)

section Rejected

variable {value : List Byte} {code : Byte} (frame : Nat) {g : Globals}

theorem rejected_leftAlone (hcode : rejection value = some code)
    (hcopied : NumberCopied g.ble.thisCcu) :
    LeftAlone g (gattsWriteEvt false frame value g) ↔
      commandState g (value.getD 3 0) (Cid.ofByte? (value.getD 2 0)) = g.fsm.btState ∧
        (value.getD 2 0 = Cid.code .register →
          g.ble.thisCcu.pairedMob1.dataStatus &&& flagDataSetMob1Id ≠ 0) := by
  obtain ⟨hstate, hio, _⟩ := gattsWriteEvt_tables frame value g
  obtain ⟨hreq, hrow, _⟩ := rejection_tables hcode g success
  constructor
  · intro h
    refine ⟨hstate.symm.trans h.fsmState, fun hreg hflag => ?_⟩
    have hmob := congrArg ThisCcu.pairedMob1 h.thisCcu
    rw [(gattsWriteEvt_effect frame value g).paired, (received_spec frame value g).ble] at hmob
    refine pairing_ne_self ?_ hflag hmob
    rw [messageOf_byte _ _ (by omega)]
    exact hreg
  · rintro ⟨hkeep, hpair⟩
    obtain ⟨hccu, hsaved⟩ := gattsWriteEvt_quiet frame value hcopied hreq hrow hpair
    exact ⟨hio.mpr hreq, hstate.trans hkeep, hccu, hsaved⟩

theorem rejectsCleanly_iff (hcode : rejection value = some code) : RejectsCleanly value g ↔
    (commandState g (value.getD 3 0) (Cid.ofByte? (value.getD 2 0)) = g.fsm.btState ∧
      (value.getD 2 0 = Cid.code .register →
        g.ble.thisCcu.pairedMob1.dataStatus &&& flagDataSetMob1Id ≠ 0)) ∧
      waiting g.fsm.btState = false := by
  have hother : ∀ {cmd}, Cid.ofByte? (value.getD 2 0) = cmd → cmd ≠ some .register →
      value.getD 2 0 ≠ Cid.code .register := by
    intro cmd hcmd hne hreg
    exact hne (hcmd.symm.trans (Cid.ofByte?_eq_some.mpr hreg))
  unfold rejection at hcode
  unfold RejectsCleanly
  cases hcmd : Cid.ofByte? (value.getD 2 0) with
  | none =>
    have hne := hother hcmd (by simp)
    exact ⟨fun h => ⟨⟨rfl, fun hreg => absurd hreg hne⟩, h⟩, fun h => h.2⟩
  | some cmd =>
    rw [hcmd] at hcode
    simp only [Option.ite_none_right_eq_some, Option.some.injEq] at hcode
    obtain ⟨⟨hchecks, ht⟩, _⟩ := hcode
    cases cmd with
    | register =>
      have hreg := Cid.ofByte?_eq_some.mp hcmd
      constructor
      · rintro ⟨hq, hflag⟩
        exact ⟨⟨hq.symm, fun _ => hflag⟩, by rw [hq]; rfl⟩
      · rintro ⟨⟨hq, hflag⟩, _⟩
        exact ⟨hq.symm, hflag hreg⟩
    | ccuActivate =>
      have hne := hother hcmd (by simp)
      exact ⟨fun h => ⟨⟨rfl, fun hreg => absurd hreg hne⟩, h⟩, fun h => h.2⟩
    | selectAWifi =>
      have hne := hother hcmd (by simp)
      simp only [Cid.dataTypes, List.mem_cons, List.not_mem_nil, not_or] at ht
      have hset : commandState g (value.getD 3 0) (some .selectAWifi) = .wifiSelectInProgress :=
        if_neg ht.2.1
      rw [hset]
      exact ⟨fun hq => ⟨⟨hq.symm, fun hreg => absurd hreg hne⟩, by rw [hq]; rfl⟩, fun h => h.1.1.symm⟩
    | changePassword =>
      simp only [Cid.dataTypes, List.mem_cons, List.not_mem_nil, not_or] at ht
      constructor
      · exact False.elim
      · intro h
        have hwait := h.2
        rw [← h.1.1, commandState, if_neg ht.1] at hwait
        cases hwait
    | storeEmergencyNumbers | storePersonalNumbers | enterLocalHelpNumbers =>
      constructor
      · exact False.elim
      · intro h
        have hwait := h.2
        rw [← h.1.1] at hwait
        cases hwait
    | _ => cases hchecks

end Rejected

theorem leftAlone_at {b : Bridge} {e : Event} {g' : Globals} :
    LeftAlone (b.at e).glob g' ↔ LeftAlone b.glob g' :=
  ⟨fun h => ⟨h.noFrame, h.fsmState, h.thisCcu, h.savedMessages⟩,
    fun h => ⟨h.noFrame, h.fsmState, h.thisCcu, h.savedMessages⟩⟩

/-- A message is turned away with its error alone just in the states its handler leaves. -/
theorem turnedAway_iff {b b' : Bridge} {e : Event} {frame : Nat} {value : List Byte} {code : Byte}
    (hb : Reachable b) (he : e.action = .gattWrite false frame value)
    (hs : step b e = some b') (hcode : rejection value = some code) :
    TurnedAway code b b' ↔ RejectsCleanly value b.glob := by
  obtain ⟨henabled, rfl⟩ := step_eq_some hs
  rw [he] at henabled ⊢
  have halive := (received_spec frame value (b.at e).glob).alive.trans
    (gattsWriteEvt_effect frame value (b.at e).glob).alive
  have hreported : ReportedNext code
      { b with glob := gattsWriteEvt false frame value (b.at e).glob } ↔ _ :=
    reportedNext_iff (halive.service.trans henabled)
  obtain ⟨hstate, _, hrc⟩ := gattsWriteEvt_tables frame value (b.at e).glob
  have hleft := rejected_leftAlone frame (g := (b.at e).glob) hcode hb.numberCopied
  have hclean := rejectsCleanly_iff (g := (b.at e).glob) hcode
  rw [(rejection_tables hcode (b.at e).glob _).2.2] at hrc
  have hne : returnMsgNotReady ≠ code := by
    rintro rfl
    unfold rejection at hcode
    split at hcode
    · exact absurd hcode (by decide)
    · simp only [Option.ite_none_right_eq_some] at hcode
      exact absurd hcode.2 (by decide)
  show _ ↔ RejectsCleanly value (b.at e).glob
  rw [hclean]
  constructor
  · intro h
    have hkeep := hleft.mp (leftAlone_at.mpr h.leftAlone)
    refine ⟨hkeep, ?_⟩
    have hcodes := hreported.mp h.reported
    dsimp only at hcodes
    rw [hstate, hkeep.1] at hcodes
    rw [Bool.eq_false_iff]
    intro hwait
    rw [if_pos hwait] at hcodes
    exact hne hcodes
  · rintro ⟨hkeep, hwait⟩
    refine ⟨leftAlone_at.mp (hleft.mpr hkeep), hreported.mpr ?_⟩
    dsimp only
    rw [hstate, hkeep.1, hwait, hrc]
    rfl

def unknownCommand : List Byte := [0x4D, 1, 0x7F, 1, 0, 0, 0, 0, 0, 0, 0, 0, 0, 0, 0, 0, 0, 0, 0, 0]

theorem unknownCommand_turnedAway : ∃ b b', Reachable b ∧
    step b (.calm (.gattWrite false 0 unknownCommand)) = some b' ∧
      TurnedAway errorUnrecognizedCommand b b' := by
  have hrun : (Machine.run step .boot startUp).map (fun b =>
      (b.glob.main.serviceCreated, waiting b.glob.fsm.btState)) = some (true, false) := by
    decide +kernel
  obtain ⟨b, hb, hfields⟩ := Option.map_eq_some_iff.mp hrun
  simp only [Prod.mk.injEq] at hfields
  obtain ⟨b', hs⟩ : ∃ b', step b (.calm (.gattWrite false 0 unknownCommand)) = some b' :=
    ⟨_, if_pos hfields.1⟩
  have hreach : Reachable b := Machine.reachable_of_run .refl hb
  have hclean : RejectsCleanly unknownCommand b.glob := hfields.2
  exact ⟨b, b', hreach, hs, (turnedAway_iff hreach rfl hs rfl).mpr hclean⟩

def unknownPart : List Byte := [0x4D, 1, 0x04, 3, 0, 0, 0, 0, 0, 0, 0, 0, 0, 0, 0, 0, 0, 0, 0, 0]

/-- At a part it does not know the bridge waits for the reply to a request it has not sent. -/
theorem unknownPart_waits : ¬ ∀ (b b' : Bridge) (e : Event) (frame : Nat) (value : List Byte)
    (code : Byte), Reachable b → e.action = .gattWrite false frame value → value.length = 20 →
      rejection value = some code → step b e = some b' → TurnedAway code b b' := by
  intro hevery
  obtain ⟨b, hb, _⟩ := exists_serving
  let e := Event.calm (.gattWrite false 0 unknownPart)
  obtain ⟨b', hs⟩ : ∃ b', step b e = some b' := ⟨_, if_pos hb.service⟩
  have hturned := hevery b b' e 0 unknownPart errorUnrecognizedData hb.reachable rfl rfl rfl hs
  obtain ⟨_, rfl⟩ := step_eq_some hs
  have halive := (received_spec 0 unknownPart (b.at e).glob).alive.trans
    (gattsWriteEvt_effect 0 unknownPart (b.at e).glob).alive
  have hstate : (gattsWriteEvt false 0 unknownPart (b.at e).glob).fsm.btState = .changePasswd :=
    (gattsWriteEvt_tables 0 unknownPart (b.at e).glob).1
  have hcode := (reportedNext_iff (halive.service.trans hb.service)).mp hturned.reported
  have hwait : waiting ((b.at e).perform e.action).glob.fsm.btState = true :=
    congrArg waiting hstate
  rw [if_pos hwait] at hcode
  exact absurd hcode (by decide)

end EspBridges.Ccu
