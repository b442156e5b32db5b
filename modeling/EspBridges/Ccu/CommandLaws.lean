import EspBridges.Ccu.BleApis
import EspBridges.Ccu.FrameLaws

namespace EspBridges.Ccu

open Bytes

def Cid.dataTypes : Cid → List Byte
  | .register => [1, 2, 3, 4, 5, 6, 7, 8]
  | .login => [1, 2, 3, 4]
  | .ccuActivate => [1, 2, 3]
  | .scanWifis => [1]
  | _ => [1, 2]

def commandState (g : Globals) (t : Byte) : Option Cid → CcuFsmStates
  | some .register => .mobRegistered
  | some .login => if t = 4 then .login else .init
  | some .forgotPassword => .forgotPasswd
  | some .changePassword => if t = 1 then .init else .changePasswd
  | some .recordPersonalVoiceMsg =>
    if g.ble.voice.flagSendingVoiceData ∧ t = 8 then .voiceRecordingComplete
    else .voiceRecordingInProgress
  | some .storeEmergencyNumbers => .setEmerNumSending
  | some .storePersonalNumbers => .setPersonalNumSending
  | some .scanWifis =>
    if t ≠ 1 ∧ isScanState g.fsm.btState then g.fsm.btState else .wifiScanInProgress
  | some .selectAWifi => if t = 2 then .wifiConnectInProgress else .wifiSelectInProgress
  | some .addressVisiting => if t = 8 then .voiceRecordingComplete else g.fsm.btState
  | some .enterLocalHelpNumbers => .cfgSetHelpNumSending
  | some .ccuActivate => g.fsm.btState
  | some .connectToWifi => .wifiConnectInProgress
  | some .disconnectFromWifi => .wifiDisconnectInProgress
  | some .updateCcuSw => .fwUpgradeInProgress
  | some .setCcuReboot => .fwRebootMsgSending
  | some .setCcuWifiMode => .wifiModeSetInProgress
  | some .uploadTripInfo => .tripInfoUploadInProgress
  | none => g.fsm.btState

def flushes (c : Chunker) (voiceMessageLength : Nat) : Bool :=
  voiceMessageLength ≤ (c.receivedAudioSize + 16) % 2 ^ 32 || 256 ≤ c.chunkOffset + 16

def requests (g : Globals) (t : Byte) : Option Cid → Bool
  | some .register => t ∈ Cid.dataTypes .register
  | some .login => t = 4
  | some .changePassword => t = 2
  | some .recordPersonalVoiceMsg =>
    if g.ble.voice.flagSendingVoiceData then
      t ≠ 8 && flushes (g.ble.voice.chunker .recordVoice) g.ble.voice.recordMessageLength
    else t = 3 || t = 4
  | some .storeEmergencyNumbers | some .storePersonalNumbers | some .enterLocalHelpNumbers =>
    t = 1 || t = 2
  | some .scanWifis => t = 1
  | some .selectAWifi => t = 2
  | some .addressVisiting =>
    t = 0 || t = 1 &&
      flushes (g.ble.voice.chunker .addressVisiting) g.ble.voice.visitingMessageLength
  | some .ccuActivate => t = 3
  | some .forgotPassword | some .connectToWifi | some .disconnectFromWifi | some .updateCcuSw
  | some .setCcuReboot | some .setCcuWifiMode | some .uploadTripInfo => true
  | none => false

def Cid.requestOpcode : Cid → Byte
  | .disconnectFromWifi => btCpOpcodeCidDisconnectFromWifi
  | .updateCcuSw => btCpOpcodeCidUpdateCcuSw
  | .uploadTripInfo => btCpOpcodeCidUploadTripInfo
  | .setCcuWifiMode => btCpOpcodeCidWifiSetMode
  | .setCcuReboot => btCpOpcodeCidRequestReboot
  | cmd => cmd.code

/-- The return code, which some commands leave as they find it. -/
def commandRc (g : Globals) (t rc : Byte) : Option Cid → Byte
  | some .register =>
    if t ∈ Cid.dataTypes .register then success else errorUnrecognizedData
  | some .login => if t = 1 ∨ t = 2 ∨ t = 3 then success else rc
  | some .changePassword =>
    if t = 1 then success else if t = 2 then rc else errorUnrecognizedData
  | some .recordPersonalVoiceMsg =>
    if g.ble.voice.flagSendingVoiceData ∧ t = 8 then success else rc
  | some .storeEmergencyNumbers | some .storePersonalNumbers | some .selectAWifi =>
    if t = 1 ∨ t = 2 then success else errorUnrecognizedData
  | some .enterLocalHelpNumbers => if t = 1 ∨ t = 2 then rc else errorUnrecognizedData
  | some .addressVisiting => if t = 0 ∨ t = 8 then success else rc
  | some .ccuActivate =>
    if t = 1 ∨ t = 2 then success else if t = 3 then rc else errorUnrecognizedData
  | some .scanWifis | some .forgotPassword | some .connectToWifi | some .disconnectFromWifi
  | some .updateCcuSw | some .setCcuReboot | some .setCcuWifiMode | some .uploadTripInfo => rc
  | none => errorUnrecognizedCommand

/-- The row of `saved_messages` the message is copied to, counted from 1. -/
def savesRow (t : Byte) : Option Cid → Option Nat
  | some .changePassword | some .selectAWifi | some .ccuActivate =>
    if t = 1 then some 1 else if t = 2 then some 2 else none
  | _ => none

def Sent (sends : Bool) (opcode : Byte) (g g' : Globals) : Prop :=
  ∃ frame : List Byte, frame.head? = some opcode ∧
    g'.env.io = g.env.io ++ bif sends then [.tx frame] else []

structure Alive (g g' : Globals) : Prop where
  aborting : g'.env.aborting = g.env.aborting
  service : g'.main.serviceCreated = g.main.serviceCreated
  handler : g'.handler = g.handler

theorem Alive.trans (h : Alive g g') (h' : Alive g' g'') : Alive g g'' :=
  ⟨h'.aborting.trans h.aborting, h'.service.trans h.service, h'.handler.trans h.handler⟩

structure Effect (cmd : Option Cid) (t : Byte) (g g' : Globals) : Prop where
  state : g'.fsm.btState = commandState g t cmd
  sent : Sent (requests g t cmd) ((cmd.map Cid.requestOpcode).getD 0) g g'
  rc : g'.main.epReturnMessage 6 = commandRc g t (g.main.epReturnMessage 6) cmd
  saved : g'.ble.savedMessages = ((savesRow t cmd).map fun row =>
    (saveGroupMessages (recvdMsgFull g) row g).ble.savedMessages).getD g.ble.savedMessages
  paired : g'.ble.thisCcu.pairedMob1 = g.ble.thisCcu.pairedMob1
  pointer : g'.ble.pRecvdMsgFull = g.ble.pRecvdMsgFull ∧
    g'.ble.flagSetRecvdMsgPtr = g.ble.flagSetRecvdMsgPtr
  alive : Alive g g'

theorem Sent.nothing (opcode : Byte) (g : Globals) {g' : Globals} (h : g'.env.io = g.env.io) :
    Sent false opcode g g' :=
  ⟨[opcode], rfl, by simp [h]⟩

theorem Sent.frame {f : Wild Obj → Tx} (hf : Opens opcode f) {g g' m : Globals}
    (hio : m.env.io = g.env.io)
    (h : g'.env.io = m.env.io ++ [.tx ((f g.env.wild).frame g.env.wild)]) :
    Sent true opcode g g' :=
  ⟨_, hf.head g.env.wild, by rw [h, hio]; rfl⟩

theorem storeAndSend_sent (u : AudioUpload) (opcode : Byte) (data : View) (audioNumber : Byte)
    (voiceMessageLength : Nat) (g : Globals) :
    Sent (flushes (g.ble.voice.chunker u) voiceMessageLength) opcode g
      (storeAndSend u (rawAudioMsg opcode) data audioNumber voiceMessageLength g) := by
  unfold storeAndSend flushes
  dsimp only
  by_cases hlast : voiceMessageLength ≤ ((g.ble.voice.chunker u).receivedAudioSize + 16) % 2 ^ 32
  · rw [if_pos hlast, decide_eq_true hlast]
    exact Sent.frame (opens_rawAudio _ _ _ _) (m := g) rfl rfl
  · rw [if_neg hlast, decide_eq_false hlast]
    by_cases hfull : 256 ≤ (g.ble.voice.chunker u).chunkOffset + 16
    · rw [if_pos hfull, decide_eq_true hfull]
      exact Sent.frame (opens_rawAudio _ _ _ _) (m := g) rfl rfl
    · rw [if_neg hfull, decide_eq_false hfull]
      exact Sent.nothing _ _ rfl

theorem storeAndSend_frame (u : AudioUpload) (raw : View → Nat → Byte → Wild Obj → Tx)
    (data : View) (audioNumber : Byte) (voiceMessageLength : Nat) (g : Globals) :
    (storeAndSend u raw data audioNumber voiceMessageLength g).fsm = g.fsm ∧
      (storeAndSend u raw data audioNumber voiceMessageLength g).main = g.main ∧
      Alive g (storeAndSend u raw data audioNumber voiceMessageLength g) ∧
      (storeAndSend u raw data audioNumber voiceMessageLength g).ble =
        { g.ble with
          voice := (storeAndSend u raw data audioNumber voiceMessageLength g).ble.voice } := by
  unfold storeAndSend
  dsimp only
  split
  · exact ⟨rfl, rfl, ⟨rfl, rfl, rfl⟩, rfl⟩
  · split <;> exact ⟨rfl, rfl, ⟨rfl, rfl, rfl⟩, rfl⟩

theorem Effect.quiet {cmd : Option Cid} {t : Byte} {g g' : Globals}
    (hreq : requests g t cmd = false) (hrow : savesRow t cmd = none)
    (hstate : g'.fsm.btState = commandState g t cmd)
    (hrc : g'.main.epReturnMessage 6 = commandRc g t (g.main.epReturnMessage 6) cmd)
    (hio : g'.env.io = g.env.io) (hsaved : g'.ble.savedMessages = g.ble.savedMessages)
    (hpaired : g'.ble.thisCcu.pairedMob1 = g.ble.thisCcu.pairedMob1)
    (hpointer : g'.ble.pRecvdMsgFull = g.ble.pRecvdMsgFull ∧
      g'.ble.flagSetRecvdMsgPtr = g.ble.flagSetRecvdMsgPtr)
    (halive : Alive g g') : Effect cmd t g g' where
  state := hstate
  sent := by
    rw [hreq]
    exact Sent.nothing _ _ hio
  rc := hrc
  saved := by
    rw [hrow, hsaved]
    rfl
  paired := hpaired
  pointer := hpointer
  alive := halive

theorem Effect.upload {cmd : Option Cid} {t : Byte} (q : CcuFsmStates) (u : AudioUpload)
    (data : View) (audioNumber : Byte) (voiceMessageLength : Nat) (g : Globals)
    (hreq : requests g t cmd = flushes (g.ble.voice.chunker u) voiceMessageLength)
    (hrow : savesRow t cmd = none) (hstate : commandState g t cmd = q)
    (hrc : commandRc g t (g.main.epReturnMessage 6) cmd = g.main.epReturnMessage 6) :
    Effect cmd t g (storeAndSend u (rawAudioMsg ((cmd.map Cid.requestOpcode).getD 0)) data
      audioNumber voiceMessageLength (g.akbiSetFsmState q)) := by
  obtain ⟨hfsm, hmain, halive, hble⟩ := storeAndSend_frame u
    (rawAudioMsg ((cmd.map Cid.requestOpcode).getD 0)) data audioNumber voiceMessageLength
    (g.akbiSetFsmState q)
  refine ⟨?_, ?_, ?_, ?_, ?_, ?_, halive.aborting, halive.service, halive.handler⟩
  · rw [hfsm, hstate]
    rfl
  · rw [hreq]
    exact storeAndSend_sent u _ data audioNumber voiceMessageLength (g.akbiSetFsmState q)
  · rw [hmain, hrc]
    rfl
  · rw [hble, hrow]
    rfl
  · rw [hble]
    rfl
  · rw [hble]
    exact ⟨rfl, rfl⟩

section Effects

variable (iMsg iCmd : View) (g : Globals)

theorem register_effect :
    Effect (some .register) (iCmd.byte 0) g (dispatch (some .register) iMsg iCmd g) := by
  unfold dispatch executeRegister
  generalize iCmd.byte 0 = t
  dsimp only
  split
  case h_9 h1 h2 h3 h4 h5 h6 h7 h8 =>
    have hnot : t ∉ Cid.dataTypes .register := by
      simp [Cid.dataTypes]
      exact ⟨h1, h2, h3, h4, h5, h6, h7, h8⟩
    exact .quiet (decide_eq_false hnot) rfl rfl (if_neg hnot).symm
      rfl rfl rfl ⟨rfl, rfl⟩ ⟨rfl, rfl, rfl⟩
  all_goals
    exact ⟨rfl, Sent.frame (opens_reg _ _ _) (m := g) rfl rfl, rfl, rfl, rfl,
      ⟨rfl, rfl⟩, ⟨rfl, rfl, rfl⟩⟩

theorem login_effect :
    Effect (some .login) (iCmd.byte 0) g (dispatch (some .login) iMsg iCmd g) := by
  unfold dispatch executeLogin
  generalize iCmd.byte 0 = t
  dsimp only
  split
  case h_4 =>
    exact ⟨rfl, Sent.frame (opens_login _ _ _) (m := g) rfl rfl, rfl, rfl, rfl,
      ⟨rfl, rfl⟩, ⟨rfl, rfl, rfl⟩⟩
  case h_5 h1 h2 h3 h4 =>
    have hnot : ¬ (t = 1 ∨ t = 2 ∨ t = 3) := fun h => h.elim h1 fun h => h.elim h2 h3
    exact .quiet (decide_eq_false h4) rfl (if_neg h4).symm (if_neg hnot).symm
      rfl rfl rfl ⟨rfl, rfl⟩ ⟨rfl, rfl, rfl⟩
  all_goals exact ⟨rfl, Sent.nothing _ _ rfl, rfl, rfl, rfl, ⟨rfl, rfl⟩, ⟨rfl, rfl, rfl⟩⟩

theorem changePassword_effect :
    Effect (some .changePassword) (iCmd.byte 0) g (dispatch (some .changePassword) iMsg iCmd g) := by
  unfold dispatch executeChangePassword
  generalize iCmd.byte 0 = t
  dsimp only
  split
  case h_1 => exact ⟨rfl, Sent.nothing _ _ rfl, rfl, rfl, rfl, ⟨rfl, rfl⟩, ⟨rfl, rfl, rfl⟩⟩
  case h_2 =>
    exact ⟨rfl, Sent.frame (opens_changePasswd _ _) (m := g) rfl rfl, rfl, rfl, rfl,
      ⟨rfl, rfl⟩, ⟨rfl, rfl, rfl⟩⟩
  case h_3 h1 h2 =>
    have n1 : ¬ t = 1 := h1
    have n2 : ¬ t = 2 := h2
    refine .quiet (by simp [requests, n2]) (by simp [savesRow, n1, n2]) (if_neg n1).symm ?_
      rfl rfl rfl ⟨rfl, rfl⟩ ⟨rfl, rfl, rfl⟩
    rw [commandRc, if_neg n1, if_neg n2]
    rfl

theorem recordPersonalVoiceMsg_effect (ht : iMsg.byte 3 = iCmd.byte 0) :
    Effect (some .recordPersonalVoiceMsg) (iCmd.byte 0) g
      (dispatch (some .recordPersonalVoiceMsg) iMsg iCmd g) := by
  unfold dispatch executeRecordPersonalVoiceMsgNew
  rw [ht]
  generalize iCmd.byte 0 = t
  have hkeep : (Globals.akbiSetFsmState .voiceRecordingInProgress g).ble.voice = g.ble.voice := rfl
  dsimp only
  rw [hkeep]
  by_cases hflag : g.ble.voice.flagSendingVoiceData = true
  · rw [if_pos hflag]
    by_cases h8 : t = 8
    · subst h8
      exact .quiet (by simp [requests, hflag]) rfl (by simp [commandState, hflag])
        (by simp [commandRc, hflag]; rfl) rfl rfl rfl ⟨rfl, rfl⟩ ⟨rfl, rfl, rfl⟩
    · rw [if_neg h8]
      exact .upload .voiceRecordingInProgress .recordVoice iMsg t g.ble.voice.recordMessageLength g
        (by simp [requests, hflag, h8]) rfl (by simp [commandState, h8]) (by simp [commandRc, h8])
  · rw [if_neg hflag]
    have hstate : commandState g t (some .recordPersonalVoiceMsg) = .voiceRecordingInProgress := by
      simp [commandState, hflag]
    have hrc : commandRc g t (g.main.epReturnMessage 6) (some .recordPersonalVoiceMsg) =
        g.main.epReturnMessage 6 := by
      simp [commandRc, hflag]
    split
    case h_3 h3 h4 =>
      have n3 : ¬ t = 3 := h3
      have n4 : ¬ t = 4 := h4
      exact .quiet (by simp [requests, hflag, n3, n4]) rfl hstate.symm hrc.symm
        rfl rfl rfl ⟨rfl, rfl⟩ ⟨rfl, rfl, rfl⟩
    all_goals
      refine ⟨hstate.symm, ?_, hrc.symm, rfl, rfl, ⟨rfl, rfl⟩, ⟨rfl, rfl, rfl⟩⟩
      simp only [requests, hflag]
      exact Sent.frame (opens_recordVoice _ _) (m := g) rfl rfl

theorem storeEmergencyNumbers_effect :
    Effect (some .storeEmergencyNumbers) (iCmd.byte 0) g
      (dispatch (some .storeEmergencyNumbers) iMsg iCmd g) := by
  unfold dispatch executeStoreEmergencyNumber
  generalize iCmd.byte 0 = t
  dsimp only
  split
  case h_3 h1 h2 =>
    have n1 : ¬ t = 1 := h1
    have n2 : ¬ t = 2 := h2
    refine .quiet (by simp [requests, n1, n2]) rfl rfl ?_ rfl rfl rfl ⟨rfl, rfl⟩ ⟨rfl, rfl, rfl⟩
    rw [commandRc, if_neg (by simp [n1, n2])]
    rfl
  all_goals
    exact ⟨rfl, Sent.frame (opens_number _ _ _) (m := g) rfl rfl, rfl, rfl, rfl,
      ⟨rfl, rfl⟩, ⟨rfl, rfl, rfl⟩⟩

theorem storePersonalNumbers_effect :
    Effect (some .storePersonalNumbers) (iCmd.byte 0) g
      (dispatch (some .storePersonalNumbers) iMsg iCmd g) := by
  unfold dispatch executeStorePersonalNumber
  generalize iCmd.byte 0 = t
  dsimp only
  split
  case h_3 h1 h2 =>
    have n1 : ¬ t = 1 := h1
    have n2 : ¬ t = 2 := h2
    refine .quiet (by simp [requests, n1, n2]) rfl rfl ?_ rfl rfl rfl ⟨rfl, rfl⟩ ⟨rfl, rfl, rfl⟩
    rw [commandRc, if_neg (by simp [n1, n2])]
    rfl
  all_goals
    exact ⟨rfl, Sent.frame (opens_number _ _ _) (m := g) rfl rfl, rfl, rfl, rfl,
      ⟨rfl, rfl⟩, ⟨rfl, rfl, rfl⟩⟩

theorem enterLocalHelpNumbers_effect :
    Effect (some .enterLocalHelpNumbers) (iCmd.byte 0) g
      (dispatch (some .enterLocalHelpNumbers) iMsg iCmd g) := by
  unfold dispatch executeEnterLocalHelpNumber
  generalize iCmd.byte 0 = t
  dsimp only
  split
  case h_3 h1 h2 =>
    have n1 : ¬ t = 1 := h1
    have n2 : ¬ t = 2 := h2
    refine .quiet (by simp [requests, n1, n2]) rfl rfl ?_ rfl rfl rfl ⟨rfl, rfl⟩ ⟨rfl, rfl, rfl⟩
    rw [commandRc, if_neg (by simp [n1, n2])]
    rfl
  all_goals
    exact ⟨rfl, Sent.frame (opens_number _ _ _) (m := g) rfl rfl, rfl, rfl, rfl,
      ⟨rfl, rfl⟩, ⟨rfl, rfl, rfl⟩⟩

/-- A type other than 1 starts no scan, but outside the scan states the FSM waits for one. -/
theorem scanWifis_other {t : Byte} {g mid : Globals} (n1 : ¬ t = 1) (hfsm : mid.fsm = g.fsm)
    (hrc : mid.main.epReturnMessage 6 = g.main.epReturnMessage 6) (hio : mid.env.io = g.env.io)
    (hble : mid.ble = g.ble) (halive : Alive g mid) :
    Effect (some .scanWifis) t g
      (if isScanState mid.fsm.btState then mid else mid.akbiSetFsmState .wifiScanInProgress) := by
  have hreq : requests g t (some .scanWifis) = false := by simp [requests, n1]
  rw [hfsm]
  by_cases hscan : isScanState g.fsm.btState = true
  · rw [if_pos hscan]
    exact .quiet hreq rfl (by simp [commandState, n1, hscan, hfsm]) hrc hio (by rw [hble])
      (by rw [hble]) (by rw [hble]; exact ⟨rfl, rfl⟩) halive
  · rw [if_neg hscan]
    exact .quiet hreq rfl (by simp [commandState, hscan]) hrc hio (congrArg _ hble)
      (congrArg (·.thisCcu.pairedMob1) hble)
      ⟨congrArg (·.pRecvdMsgFull) hble, congrArg (·.flagSetRecvdMsgPtr) hble⟩
      ⟨halive.aborting, halive.service, halive.handler⟩

theorem scanWifis_effect :
    Effect (some .scanWifis) (iCmd.byte 0) g (dispatch (some .scanWifis) iMsg iCmd g) := by
  unfold dispatch executeScanWifis
  generalize iCmd.byte 0 = t
  dsimp only
  split
  case h_1 =>
    exact ⟨rfl, Sent.frame (opens_headerOnly 24 _) (m := g) rfl rfl, rfl, rfl, rfl,
      ⟨rfl, rfl⟩, ⟨rfl, rfl, rfl⟩⟩
  case h_2 => exact scanWifis_other (by decide) rfl rfl rfl rfl ⟨rfl, rfl, rfl⟩
  case h_3 h1 _ => exact scanWifis_other h1 rfl rfl rfl rfl ⟨rfl, rfl, rfl⟩

theorem selectAWifi_effect :
    Effect (some .selectAWifi) (iCmd.byte 0) g (dispatch (some .selectAWifi) iMsg iCmd g) := by
  unfold dispatch executeSelectAWifi
  generalize iCmd.byte 0 = t
  dsimp only
  split
  case h_1 => exact ⟨rfl, Sent.nothing _ _ rfl, rfl, rfl, rfl, ⟨rfl, rfl⟩, ⟨rfl, rfl, rfl⟩⟩
  case h_2 =>
    exact ⟨rfl, Sent.frame (opens_configureWifi _ _) (m := g) rfl rfl, rfl, rfl, rfl,
      ⟨rfl, rfl⟩, ⟨rfl, rfl, rfl⟩⟩
  case h_3 h1 h2 =>
    have n1 : ¬ t = 1 := h1
    have n2 : ¬ t = 2 := h2
    refine .quiet (by simp [requests, n2]) (by simp [savesRow, n1, n2]) (if_neg n2).symm ?_
      rfl rfl rfl ⟨rfl, rfl⟩ ⟨rfl, rfl, rfl⟩
    rw [commandRc, if_neg (by simp [n1, n2])]
    rfl

theorem addressVisiting_effect (ht : iMsg.byte 3 = iCmd.byte 0) :
    Effect (some .addressVisiting) (iCmd.byte 0) g
      (dispatch (some .addressVisiting) iMsg iCmd g) := by
  unfold dispatch executeStoreAddressVisitingNew
  rw [ht]
  generalize iCmd.byte 0 = t
  dsimp only
  split
  case h_1 =>
    exact ⟨rfl, Sent.frame (opens_addressVisiting _ _) (m := g) rfl rfl, rfl, rfl, rfl,
      ⟨rfl, rfl⟩, ⟨rfl, rfl, rfl⟩⟩
  case h_2 =>
    exact .upload g.fsm.btState .addressVisiting iMsg 1 g.ble.voice.visitingMessageLength g
      (by simp [requests]) rfl rfl rfl
  case h_6 h0 h1 h3 h4 h8 =>
    have n0 : ¬ t = 0 := h0
    have n1 : ¬ t = 1 := h1
    have n8 : ¬ t = 8 := h8
    exact .quiet (by simp [requests, n0, n1]) rfl (if_neg n8).symm
      (if_neg (by simp [n0, n8])).symm rfl rfl rfl ⟨rfl, rfl⟩ ⟨rfl, rfl, rfl⟩
  all_goals exact ⟨rfl, Sent.nothing _ _ rfl, rfl, rfl, rfl, ⟨rfl, rfl⟩, ⟨rfl, rfl, rfl⟩⟩

theorem ccuActivate_effect :
    Effect (some .ccuActivate) (iCmd.byte 0) g (dispatch (some .ccuActivate) iMsg iCmd g) := by
  unfold dispatch executeCcuActivate
  generalize iCmd.byte 0 = t
  dsimp only
  split
  case h_3 =>
    exact ⟨rfl, Sent.frame (opens_activate _ _ _) (m := g) rfl rfl, rfl, rfl, rfl,
      ⟨rfl, rfl⟩, ⟨rfl, rfl, rfl⟩⟩
  case h_4 h1 h2 h3 =>
    have n1 : ¬ t = 1 := h1
    have n2 : ¬ t = 2 := h2
    have n3 : ¬ t = 3 := h3
    refine .quiet (by simp [requests, n3]) (by simp [savesRow, n1, n2]) rfl ?_
      rfl rfl rfl ⟨rfl, rfl⟩ ⟨rfl, rfl, rfl⟩
    rw [commandRc, if_neg (by simp [n1, n2]), if_neg n3]
    rfl
  all_goals exact ⟨rfl, Sent.nothing _ _ rfl, rfl, rfl, rfl, ⟨rfl, rfl⟩, ⟨rfl, rfl, rfl⟩⟩

end Effects

theorem dispatch_effect (cmd : Option Cid) (iMsg iCmd : View) (g : Globals)
    (ht : iMsg.byte 3 = iCmd.byte 0) :
    Effect cmd (iCmd.byte 0) g (dispatch cmd iMsg iCmd g) := by
  cases cmd with
  | none => exact ⟨rfl, Sent.nothing _ _ rfl, rfl, rfl, rfl, ⟨rfl, rfl⟩, ⟨rfl, rfl, rfl⟩⟩
  | some cmd =>
    cases cmd with
    | register => exact register_effect iMsg iCmd g
    | login => exact login_effect iMsg iCmd g
    | forgotPassword =>
      exact ⟨rfl, Sent.frame (opens_headerOnly 19 _) (m := g) rfl rfl, rfl, rfl, rfl,
        ⟨rfl, rfl⟩, ⟨rfl, rfl, rfl⟩⟩
    | changePassword => exact changePassword_effect iMsg iCmd g
    | recordPersonalVoiceMsg => exact recordPersonalVoiceMsg_effect iMsg iCmd g ht
    | storeEmergencyNumbers => exact storeEmergencyNumbers_effect iMsg iCmd g
    | storePersonalNumbers => exact storePersonalNumbers_effect iMsg iCmd g
    | scanWifis => exact scanWifis_effect iMsg iCmd g
    | selectAWifi => exact selectAWifi_effect iMsg iCmd g
    | addressVisiting => exact addressVisiting_effect iMsg iCmd g ht
    | enterLocalHelpNumbers => exact enterLocalHelpNumbers_effect iMsg iCmd g
    | ccuActivate => exact ccuActivate_effect iMsg iCmd g
    | connectToWifi =>
      exact ⟨rfl, Sent.frame (f := fun w => ccuSentConnectToWifi (localCopy (iCmd.shift 1)
        (iCmd.byte 0).toNat w) w) (fun w => opens_connect _ w) (m := g) rfl rfl, rfl, rfl, rfl,
        ⟨rfl, rfl⟩, ⟨rfl, rfl, rfl⟩⟩
    | updateCcuSw =>
      exact ⟨rfl, Sent.frame (f := fun w => ccuSentUpdateSwMsg (localCopy (iCmd.shift 1)
        (iCmd.byte 0).toNat w) w) (fun w => opens_updateSw _ w) (m := g) rfl rfl, rfl, rfl, rfl,
        ⟨rfl, rfl⟩, ⟨rfl, rfl, rfl⟩⟩
    | setCcuWifiMode =>
      exact ⟨rfl, Sent.frame (opens_wifiSetMode _) (m := g) rfl rfl, rfl, rfl, rfl,
        ⟨rfl, rfl⟩, ⟨rfl, rfl, rfl⟩⟩
    | disconnectFromWifi | uploadTripInfo | setCcuReboot =>
      exact ⟨rfl, Sent.frame (opens_headerOnly 19 _) (m := g) rfl rfl, rfl, rfl, rfl,
        ⟨rfl, rfl⟩, ⟨rfl, rfl, rfl⟩⟩

def replyHeader (ret : Buf 20) : List Byte := [ret 0, ret 1, ret 2, ret 3, ret 4, ret 5]

/-- What the handler of `cmd` leaves alone: the reply up to its return code, the statics inside
the functions of the other commands, and, but for three commands, the configuration. -/
structure Untouched (cmd : Option Cid) (g g' : Globals) : Prop where
  header : replyHeader g'.main.epReturnMessage = replyHeader g.main.epReturnMessage
  advSerNo : g'.main.advSerNo = g.main.advSerNo
  login : cmd ≠ some .login → g'.ble.login = g.ble.login
  voice : cmd ≠ some .recordPersonalVoiceMsg → cmd ≠ some .addressVisiting →
    g'.ble.voice = g.ble.voice
  thisCcu : cmd ≠ some .storePersonalNumbers → cmd ≠ some .enterLocalHelpNumbers →
    cmd ≠ some .selectAWifi → g'.ble.thisCcu = g.ble.thisCcu

namespace Untouched

variable {cmd : Option Cid} {g g' : Globals}

theorem plain (hheader : replyHeader g'.main.epReturnMessage = replyHeader g.main.epReturnMessage)
    (hserial : g'.main.advSerNo = g.main.advSerNo) (hlogin : g'.ble.login = g.ble.login)
    (hvoice : g'.ble.voice = g.ble.voice) (hccu : g'.ble.thisCcu = g.ble.thisCcu) :
    Untouched cmd g g' :=
  ⟨hheader, hserial, fun _ => hlogin, fun _ _ => hvoice, fun _ _ _ => hccu⟩

theorem upload (hcmd : cmd = some .recordPersonalVoiceMsg ∨ cmd = some .addressVisiting)
    (hheader : replyHeader g'.main.epReturnMessage = replyHeader g.main.epReturnMessage)
    (hserial : g'.main.advSerNo = g.main.advSerNo) {voice : VoiceStatics}
    (hble : g'.ble = { g.ble with voice := voice }) : Untouched cmd g g' := by
  refine ⟨hheader, hserial, fun _ => by rw [hble], fun hrecord hvisit => ?_,
    fun _ _ _ => by rw [hble]⟩
  exact absurd hcmd (not_or.mpr ⟨hrecord, hvisit⟩)

theorem sent (hcmd : cmd = some .recordPersonalVoiceMsg ∨ cmd = some .addressVisiting)
    {q : CcuFsmStates} (u : AudioUpload) (raw : View → Nat → Byte → Wild Obj → Tx) (data : View)
    (audioNumber : Byte) (voiceMessageLength : Nat) :
    Untouched cmd g
      (storeAndSend u raw data audioNumber voiceMessageLength (g.akbiSetFsmState q)) := by
  obtain ⟨_, hmain, _, hble⟩ :=
    storeAndSend_frame u raw data audioNumber voiceMessageLength (g.akbiSetFsmState q)
  exact .upload hcmd (by rw [hmain]; rfl) (by rw [hmain]; rfl) hble

end Untouched

theorem dispatch_untouched (cmd : Option Cid) (iMsg iCmd : View) (g : Globals) :
    Untouched cmd g (dispatch cmd iMsg iCmd g) := by
  cases cmd with
  | none => exact .plain rfl rfl rfl rfl rfl
  | some cmd =>
    cases cmd with
    | register =>
      unfold dispatch executeRegister
      dsimp only
      split <;> exact .plain rfl rfl rfl rfl rfl
    | login =>
      unfold dispatch executeLogin
      dsimp only
      split <;> exact ⟨rfl, rfl, fun h => absurd rfl h, fun _ _ => rfl, fun _ _ _ => rfl⟩
    | changePassword =>
      unfold dispatch executeChangePassword
      dsimp only
      split <;> exact .plain rfl rfl rfl rfl rfl
    | recordPersonalVoiceMsg =>
      unfold dispatch executeRecordPersonalVoiceMsgNew
      dsimp only
      split
      · split
        · exact .upload (.inl rfl) rfl rfl rfl
        · exact .sent (.inl rfl) _ _ _ _ _
      · split <;> exact .upload (.inl rfl) rfl rfl rfl
    | storeEmergencyNumbers =>
      unfold dispatch executeStoreEmergencyNumber
      dsimp only
      split <;> exact .plain rfl rfl rfl rfl rfl
    | storePersonalNumbers =>
      unfold dispatch executeStorePersonalNumber
      dsimp only
      split <;> exact ⟨rfl, rfl, fun _ => rfl, fun _ _ => rfl, fun h => absurd rfl h⟩
    | scanWifis =>
      unfold dispatch executeScanWifis
      dsimp only
      split <;> split <;> exact .plain rfl rfl rfl rfl rfl
    | selectAWifi =>
      unfold dispatch executeSelectAWifi
      dsimp only
      split <;> exact ⟨rfl, rfl, fun _ => rfl, fun _ _ => rfl, fun _ _ h => absurd rfl h⟩
    | addressVisiting =>
      unfold dispatch executeStoreAddressVisitingNew
      dsimp only
      split
      case h_2 => exact .sent (q := g.fsm.btState) (.inr rfl) _ _ _ _ _
      all_goals exact .upload (.inr rfl) rfl rfl rfl
    | enterLocalHelpNumbers =>
      unfold dispatch executeEnterLocalHelpNumber
      dsimp only
      split <;> exact ⟨rfl, rfl, fun _ => rfl, fun _ _ => rfl, fun _ h => absurd rfl h⟩
    | ccuActivate =>
      unfold dispatch executeCcuActivate
      dsimp only
      split <;> exact .plain rfl rfl rfl rfl rfl
    | forgotPassword | connectToWifi | disconnectFromWifi | updateCcuSw | setCcuReboot
    | setCcuWifiMode | uploadTripInfo => exact .plain rfl rfl rfl rfl rfl

end EspBridges.Ccu
