import EspBridges.Ccu.BridgeLaws

namespace EspBridges.Ccu

open Bytes

def passedOver (g : Globals) (t : Byte) : Option Cid → Prop
  | some .login => t ≠ 1 ∧ t ≠ 2 ∧ t ≠ 3 ∧ t ≠ 4 ∧ g.fsm.btState = .init
  | some .recordPersonalVoiceMsg =>
    g.fsm.btState = .voiceRecordingInProgress ∧
      if g.ble.voice.flagSendingVoiceData then
        t ≠ 8 ∧ flushes (g.ble.voice.chunker .recordVoice) g.ble.voice.recordMessageLength = false
      else t ≠ 3 ∧ t ≠ 4
  | some .scanWifis => t ≠ 1 ∧ isScanState g.fsm.btState = true
  | some .addressVisiting =>
    t ≠ 0 ∧ t ≠ 8 ∧ (t = 1 →
      flushes (g.ble.voice.chunker .addressVisiting) g.ble.voice.visitingMessageLength = false)
  | _ => False

def turnedDown (q : CcuFsmStates) (t : Byte) : Option Cid → Prop
  | none => True
  | some .register => t ∉ Cid.dataTypes .register ∧ q = .mobRegistered
  | some .changePassword => t ≠ 1 ∧ t ≠ 2 ∧ q = .changePasswd
  | some .storeEmergencyNumbers => t ≠ 1 ∧ t ≠ 2 ∧ q = .setEmerNumSending
  | some .storePersonalNumbers => t ≠ 1 ∧ t ≠ 2 ∧ q = .setPersonalNumSending
  | some .selectAWifi => t ≠ 1 ∧ t ≠ 2 ∧ q = .wifiSelectInProgress
  | some .enterLocalHelpNumbers => t ≠ 1 ∧ t ≠ 2 ∧ q = .cfgSetHelpNumSending
  | some .ccuActivate => t ≠ 1 ∧ t ≠ 2 ∧ t ≠ 3
  | _ => False

theorem passedOver_iff (cmd : Option Cid) (t : Byte) (g : Globals) :
    passedOver g t cmd ↔
      commandState g t cmd = g.fsm.btState ∧ requests g t cmd = false ∧
        commandRc g t errorSourceAppTypeMismatch cmd = errorSourceAppTypeMismatch := by
  cases cmd with
  | none => simp [passedOver, commandRc]
  | some cmd =>
    cases cmd <;> simp only [passedOver, commandState, requests, commandRc] <;>
      grind [isScanState]

theorem turnedDown_iff (cmd : Option Cid) (t : Byte) (g : Globals) :
    turnedDown g.fsm.btState t cmd ↔
      commandState g t cmd = g.fsm.btState ∧ requests g t cmd = false ∧
        commandRc g t success cmd ≠ success := by
  cases cmd with
  | none => simp [turnedDown, commandState, requests, commandRc]
  | some cmd => cases cmd <;> simp only [turnedDown, commandState, requests, commandRc] <;> grind

theorem savesRow_eq_none {cmd : Option Cid} {t rc : Byte} (hreq : requests g t cmd = false)
    (hrc : commandRc g t rc cmd ≠ success) : savesRow t cmd = none := by
  unfold savesRow
  split
  case h_4 => rfl
  all_goals
    simp only [requests, commandRc] at hreq hrc
    grind

def NumberCopied (c : ThisCcu) : Prop :=
  c.confPersonalNos.mob1MobileNumber = c.pairedMob1.mobileNumber

section ThisCcu

variable (cmd : Option Cid) (iMsg iCmd : View) (g : Globals)

theorem dispatch_numberCopied (h : NumberCopied g.ble.thisCcu) :
    NumberCopied (dispatch cmd iMsg iCmd g).ble.thisCcu := by
  unfold NumberCopied at *
  by_cases hpersonal : cmd = some .storePersonalNumbers
  · subst hpersonal
    unfold dispatch executeStorePersonalNumber
    dsimp only
    split <;> rfl
  by_cases hlocal : cmd = some .enterLocalHelpNumbers
  · subst hlocal
    unfold dispatch executeEnterLocalHelpNumber
    dsimp only
    split <;> exact h
  by_cases hselect : cmd = some .selectAWifi
  · subst hselect
    unfold dispatch executeSelectAWifi
    dsimp only
    split <;> exact h
  rw [(dispatch_untouched cmd iMsg iCmd g).thisCcu hpersonal hlocal hselect]
  exact h

theorem dispatch_quiet (h : NumberCopied g.ble.thisCcu)
    (hreq : requests g (iCmd.byte 0) cmd = false) (hrow : savesRow (iCmd.byte 0) cmd = none) :
    (dispatch cmd iMsg iCmd g).ble.thisCcu = g.ble.thisCcu := by
  by_cases hpersonal : cmd = some .storePersonalNumbers
  · subst hpersonal
    unfold dispatch executeStorePersonalNumber
    unfold requests at hreq
    generalize iCmd.byte 0 = t at *
    dsimp only
    split
    case h_1 => cases hreq
    case h_2 => cases hreq
    case h_3 =>
      show { g.ble.thisCcu with
        confPersonalNos.mob1MobileNumber := g.ble.thisCcu.pairedMob1.mobileNumber } = g.ble.thisCcu
      rw [← h]
  by_cases hlocal : cmd = some .enterLocalHelpNumbers
  · subst hlocal
    unfold dispatch executeEnterLocalHelpNumber
    unfold requests at hreq
    generalize iCmd.byte 0 = t at *
    dsimp only
    split
    case h_3 => rfl
    all_goals cases hreq
  by_cases hselect : cmd = some .selectAWifi
  · subst hselect
    unfold dispatch executeSelectAWifi
    unfold savesRow at hrow
    generalize iCmd.byte 0 = t at *
    dsimp only
    split
    case h_3 => rfl
    all_goals cases hrow
  exact (dispatch_untouched cmd iMsg iCmd g).thisCcu hpersonal hlocal hselect

end ThisCcu

theorem received_numberCopied (frame : Nat) (value : List Byte) {g : Globals}
    (h : NumberCopied g.ble.thisCcu) : NumberCopied (received frame value g).ble.thisCcu := by
  rw [(received_spec frame value g).ble]
  exact Eq.trans h (pairing_keeps _ _).1.symm

theorem gattsWriteEvt_numberCopied (isPrep : Bool) (frame : Nat) (value : List Byte) {g : Globals}
    (h : NumberCopied g.ble.thisCcu) :
    NumberCopied (gattsWriteEvt isPrep frame value g).ble.thisCcu := by
  cases isPrep with
  | true => exact h
  | false =>
    rw [gattsWriteEvt_eq]
    exact dispatch_numberCopied _ _ _ _ (received_numberCopied frame value h)

theorem Polled.numberCopied (h : Polled g g') (hg : NumberCopied g.ble.thisCcu) :
    NumberCopied g'.ble.thisCcu := by
  rw [h.ble]
  split <;> exact hg

theorem step_numberCopied (b : Bridge) (e : Event) (b' : Bridge)
    (h : NumberCopied b.glob.ble.thisCcu) (hs : step b e = some b') :
    NumberCopied b'.glob.ble.thisCcu := by
  obtain ⟨_, rfl⟩ := step_eq_some hs
  cases e.action with
  | regEvt =>
    rcases gattsRegEvt_eq (b.at e).glob with ⟨_, hpoll⟩ | ⟨_, _, hble, _⟩
    · exact hpoll.numberCopied h
    · show NumberCopied (gattsRegEvt (b.at e).glob).ble.thisCcu
      rw [hble]
      exact h
  | gattRead => exact (gattsReadEvt_polled (b.at e).glob).numberCopied h
  | gattWrite isPrep frame value => exact gattsWriteEvt_numberCopied isPrep frame value h
  | timerExpiry =>
    rw [(timerExpiry_glob b e).2.1]
    exact h
  | byteReceived dataByte => exact h
  | advDataSet | updateConnParams | gattDisconnect => exact h

theorem Reachable.numberCopied {b : Bridge} (h : Reachable b) :
    NumberCopied b.glob.ble.thisCcu := by
  refine h.invariant ?_ step_numberCopied
  rfl

def Strange (value : List Byte) (mob1 : Mob1) : Prop :=
  value.getD 0 0 ≠ mob1AppTypeId ∨
    mob1.dataStatus &&& flagDataSetMob1Id ≠ 0 ∧ value.getD 1 0 ≠ mob1.id

structure Rejected (value : List Byte) (g g' : Globals) : Prop where
  noFrame : g'.env.io = g.env.io
  fsmState : g'.fsm.btState = g.fsm.btState
  thisCcu : g'.ble.thisCcu = g.ble.thisCcu
  savedMessages : g'.ble.savedMessages = g.ble.savedMessages
  error : g'.main.epReturnMessage 6 ≠ success
  mismatch : value.getD 0 0 ≠ mob1AppTypeId →
    g'.main.epReturnMessage 6 = errorSourceAppTypeMismatch

/-- The messages of a stranger that come to nothing: those of the wrong type byte that their
handler passes over, and those of the right one that it turns down. -/
def comesToNothing (value : List Byte) (g : Globals) : Prop :=
  if value.getD 0 0 = mob1AppTypeId then
    turnedDown g.fsm.btState (value.getD 3 0) (Cid.ofByte? (value.getD 2 0))
  else passedOver g (value.getD 3 0) (Cid.ofByte? (value.getD 2 0))

theorem Sent.io_eq_iff {sends : Bool} {opcode : Byte} (h : Sent sends opcode g g') :
    g'.env.io = g.env.io ↔ sends = false := by
  obtain ⟨frame, _, hio⟩ := h
  rw [hio]
  cases sends <;> simp

theorem received_tables (frame : Nat) (value : List Byte) (g : Globals) (t : Byte)
    (cmd : Option Cid) :
    commandState (received frame value g) t cmd = commandState g t cmd ∧
      requests (received frame value g) t cmd = requests g t cmd ∧
      ∀ rc, commandRc (received frame value g) t rc cmd = commandRc g t rc cmd := by
  have hrec := received_spec frame value g
  have hvoice : (received frame value g).ble.voice = g.ble.voice := by rw [hrec.ble]
  unfold commandState requests commandRc
  rw [hrec.fsm, hvoice]
  exact ⟨rfl, rfl, fun _ => rfl⟩

theorem gattsWriteEvt_tables (frame : Nat) (value : List Byte) (g : Globals) :
    (gattsWriteEvt false frame value g).fsm.btState =
        commandState g (value.getD 3 0) (Cid.ofByte? (value.getD 2 0)) ∧
      ((gattsWriteEvt false frame value g).env.io = g.env.io ↔
        requests g (value.getD 3 0) (Cid.ofByte? (value.getD 2 0)) = false) ∧
      (gattsWriteEvt false frame value g).main.epReturnMessage 6 =
        commandRc g (value.getD 3 0)
          (if value.getD 0 0 = mob1AppTypeId then success else errorSourceAppTypeMismatch)
          (Cid.ofByte? (value.getD 2 0)) := by
  have heff := gattsWriteEvt_effect frame value g
  have hrec := received_spec frame value g
  obtain ⟨hstate, hreq, hrc⟩ :=
    received_tables frame value g (value.getD 3 0) (Cid.ofByte? (value.getD 2 0))
  refine ⟨heff.state.trans hstate, ?_, ?_⟩
  · rw [← hrec.io, heff.sent.io_eq_iff, hreq]
  · rw [heff.rc, hrc, hrec.rc]

theorem pairing_eq_self {iMsg : View} {p : Mob1}
    (h : iMsg.byte 2 = Cid.code .register → p.dataStatus &&& flagDataSetMob1Id ≠ 0) :
    pairing iMsg p = p := by
  unfold pairing
  rw [if_neg]
  exact fun hfirst => h hfirst.1.symm hfirst.2

theorem gattsWriteEvt_quiet (frame : Nat) (value : List Byte) {g : Globals}
    (h : NumberCopied g.ble.thisCcu)
    (hreq : requests g (value.getD 3 0) (Cid.ofByte? (value.getD 2 0)) = false)
    (hrow : savesRow (value.getD 3 0) (Cid.ofByte? (value.getD 2 0)) = none)
    (hpair : value.getD 2 0 = Cid.code .register →
      g.ble.thisCcu.pairedMob1.dataStatus &&& flagDataSetMob1Id ≠ 0) :
    (gattsWriteEvt false frame value g).ble.thisCcu = g.ble.thisCcu ∧
      (gattsWriteEvt false frame value g).ble.savedMessages = g.ble.savedMessages := by
  have hrec := received_spec frame value g
  have htype := bleCommandView_byte value g.env.wild (i := 0) (by omega)
  have hsame : (received frame value g).ble.thisCcu = g.ble.thisCcu := by
    rw [hrec.ble, pairing_eq_self]
    rw [messageOf_byte _ _ (by omega)]
    exact hpair
  constructor
  · rw [gattsWriteEvt_eq, dispatch_quiet _ _ _ _ (received_numberCopied frame value h), hsame]
    · rw [htype, (received_tables frame value g _ _).2.1]
      exact hreq
    · rw [htype]
      exact hrow
  · rw [(gattsWriteEvt_effect frame value g).saved, hrow, hrec.ble]
    rfl

/-- A stranger's message is rejected just when it comes to nothing. -/
theorem rejected_iff {b b' : Bridge} {e : Event} {frame : Nat} {value : List Byte}
    (hb : Reachable b) (he : e.action = .gattWrite false frame value)
    (hs : step b e = some b') (hstrange : Strange value b.glob.ble.thisCcu.pairedMob1) :
    Rejected value b.glob b'.glob ↔ comesToNothing value b.glob := by
  obtain ⟨_, rfl⟩ := step_eq_some hs
  rw [he]
  show Rejected value b.glob (gattsWriteEvt false frame value (b.at e).glob) ↔ _
  obtain ⟨hstate, hio, hrc⟩ := gattsWriteEvt_tables frame value (b.at e).glob
  have hquiet := gattsWriteEvt_quiet frame value (g := (b.at e).glob) hb.numberCopied
  unfold comesToNothing
  by_cases htype : value.getD 0 0 = mob1AppTypeId
  · rw [if_pos htype] at hrc ⊢
    rw [turnedDown_iff]
    constructor
    · intro h
      exact ⟨hstate.symm.trans h.fsmState, hio.mp h.noFrame, hrc ▸ h.error⟩
    · rintro ⟨hkeep, hreq, herror⟩
      obtain ⟨hccu, hsaved⟩ := hquiet hreq (savesRow_eq_none hreq herror) fun _ =>
        (hstrange.resolve_left fun h => h htype).1
      exact ⟨hio.mpr hreq, hstate.trans hkeep, hccu, hsaved, hrc ▸ herror, fun h => absurd htype h⟩
  · rw [if_neg htype] at hrc ⊢
    rw [passedOver_iff]
    constructor
    · intro h
      exact ⟨hstate.symm.trans h.fsmState, hio.mp h.noFrame, hrc ▸ h.mismatch htype⟩
    · rintro ⟨hkeep, hreq, herror⟩
      have hne : commandRc b.glob (value.getD 3 0) errorSourceAppTypeMismatch
          (Cid.ofByte? (value.getD 2 0)) ≠ success := by
        rw [herror]
        decide
      obtain ⟨hccu, hsaved⟩ := hquiet hreq (savesRow_eq_none hreq hne) fun hreg => by
        rw [Cid.ofByte?_eq_some.mpr hreg] at herror
        dsimp only [commandRc] at herror
        split at herror <;> cases herror
      exact ⟨hio.mpr hreq, hstate.trans hkeep, hccu, hsaved, hrc ▸ hne,
        fun _ => hrc.trans herror⟩

def strangersLogin : List Byte := [0x42, 1, 0x02, 4, 0, 0, 0, 0, 0, 0, 0, 0, 0, 0, 0, 0, 0, 0, 0, 0]

theorem strangersLogin_step : ∃ b b', Reachable b ∧
    step b (.calm (.gattWrite false 0 strangersLogin)) = some b' := by
  obtain ⟨b, hb, _⟩ := exists_serving
  exact ⟨b, _, hb.reachable, if_pos hb.service⟩

theorem strangersLogin_notRejected : ∃ b b', Reachable b ∧
    step b (.calm (.gattWrite false 0 strangersLogin)) = some b' ∧
      ¬ Rejected strangersLogin b.glob b'.glob := by
  obtain ⟨b, b', hb, hs⟩ := strangersLogin_step
  refine ⟨b, b', hb, hs, ?_⟩
  rw [rejected_iff hb rfl hs (.inl (by decide))]
  intro h
  exact h.2.2.2.1 rfl

/-- The type byte stops nobody: the login of a stranger goes on to the CCU. -/
theorem strangersLogin_accepted : ¬ ∀ (b b' : Bridge) (e : Event) (frame : Nat) (value : List Byte),
    Reachable b → e.action = .gattWrite false frame value → value.length = 20 →
      step b e = some b' → Strange value b.glob.ble.thisCcu.pairedMob1 →
        Rejected value b.glob b'.glob := by
  intro h
  obtain ⟨b, b', hb, hs⟩ := strangersLogin_step
  have hrejected := h b b' _ 0 strangersLogin hb rfl rfl hs (.inl (by decide))
  obtain ⟨_, rfl⟩ := step_eq_some hs
  have hio := (gattsWriteEvt_tables 0 strangersLogin
    (b.at (.calm (.gattWrite false 0 strangersLogin))).glob).2.1
  have hquiet := hio.mp hrejected.noFrame
  cases hquiet

end EspBridges.Ccu
