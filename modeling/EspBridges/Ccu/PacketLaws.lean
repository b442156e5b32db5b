import EspBridges.Ccu.MsgHandler

namespace EspBridges.Ccu

open Bytes

def rxOpcode (ccuMsg : Buf 500) : Option RxOpcode := RxOpcode.ofByte? (ccuMsg 0)

def cfgGroup (type : Byte) : Option CcuFsmStates :=
  if type = 2 ∨ type = 3 then some .setEmerNumReceived
  else if type = 5 ∨ type = 6 then some .setPersonalNumReceived
  else if type = 7 ∨ type = 8 then some .cfgSetHelpNumReceived
  else none

theorem cfgGroup_eq_none {type : Byte} : cfgGroup type = none ↔
    ¬ (type = 2 ∨ type = 3) ∧ ¬ (type = 5 ∨ type = 6) ∧ ¬ (type = 7 ∨ type = 8) := by
  unfold cfgGroup
  split
  · next h1 => simp [h1]
  · next h1 =>
    split
    · next h2 => simp [h2]
    · next h2 =>
      split
      · next h3 => simp [h3]
      · next h3 => simp only [h1, h2, h3, not_false_eq_true, and_self]

/-- The state a packet sets, whatever the state before it. -/
def packetState (ccuMsg : Buf 500) : Option CcuFsmStates :=
  let type := ccuMsg 3
  let code := ccuMsg 5
  match rxOpcode ccuMsg with
  | some .ccuReady => some .ccuReady
  | some .scanWifiResult => if type = 0 then some .wifiScanComplete else none
  | some .loginStatus => some .loginStatus
  | some .selectAWifiResult | some .wifiConnectCompleted => some .wifiConnectComplete
  | some .disconnectFromWifiStatus => some .wifiDisconnectComplete
  | some .cfgParamsSaveStatus => cfgGroup type
  | some .changePasswordStatus => if code = 6 ∨ code = 0 then some .changePasswdComplete else none
  | some .forgotPassword => if code = 7 then some .forgotPasswdResult else none
  | some .updateCcuSwStatus => some .fwUpgradeComplete
  | some .wifiSetModeStatus => some .wifiModeSetComplete
  | some .recordPersonalVoiceMsgStatus => some .voiceRecordingComplete
  | some .addressVisitingStatus => some .cfgSetAddressComplete
  | some .requestRebootStatus => some .fwRebootMsgAcknowledged
  | some .uploadTripInfoStatus => some .tripInfoUploadComplete
  | some .ccuActivateStatus => some .activateComplete
  | some .stopBleAdvCmd | none => none

theorem not_waiting_of_packetState (h : packetState ccuMsg = some q) : waiting q = false := by
  unfold packetState cfgGroup at h
  dsimp only at h
  split at h <;> (try split at h) <;> (try split at h) <;> (try split at h) <;> cases h <;> rfl

/-- The return code a packet leaves behind; a code its handler has no branch for leaves the
one that was there. -/
def packetRc (postResult : Byte) (ccuMsg : Buf 500) (rc : Byte) : Byte :=
  let type := ccuMsg 3
  let code := ccuMsg 5
  match rxOpcode ccuMsg with
  | some .scanWifiResult => if type = 0 then success else wifiScanningInProgress
  | some .loginStatus =>
    if code = success then
      if postResult = allSuccessPostValue then success else bleRetPostDataError
    else if code = errorLoginPasswordMismatch ∨ code = errorCcuLocked then code
    else rc
  | some .selectAWifiResult | some .wifiConnectCompleted =>
    if code = serverConnected then success
    else if code = inetConnected then 0x30
    else if code = wifiConnected then 0x31
    else if code = notConnected then 0x33
    else if code = pairedWifiUnreachable then 0x34
    else rc
  | some .cfgParamsSaveStatus =>
    match cfgGroup type with
    | none => rc
    | some q =>
      if code = 0 then
        if q = .setEmerNumReceived then 0x0B else if q = .setPersonalNumReceived then 0x0C else 0x1C
      else if code = 1 then success
      else rc
  | some .changePasswordStatus => if code = 6 then 9 else if code = 0 then success else rc
  | some .forgotPassword => if code = 7 then 7 else rc
  | some .uploadTripInfoStatus => if code = 0x0F then success else errorInfoNotUploaded
  | some .disconnectFromWifiStatus | some .updateCcuSwStatus | some .wifiSetModeStatus
  | some .recordPersonalVoiceMsgStatus | some .addressVisitingStatus | some .requestRebootStatus
  | some .ccuActivateStatus => code
  | some .ccuReady | some .stopBleAdvCmd | none => rc

def Globals.reported (q : CcuFsmStates) (rc : Byte) (aborting : Bool) (g : Globals) : Globals :=
  { g with
    fsm.btState := q
    main.epReturnMessage := g.main.epReturnMessage.put 6 rc
    env.aborting := aborting }

theorem reported_self (q : CcuFsmStates) (g : Globals) :
    g.akbiSetFsmState q = g.reported q (g.main.epReturnMessage 6) g.env.aborting := by
  have hput : g.main.epReturnMessage.put 6 (g.main.epReturnMessage 6) = g.main.epReturnMessage :=
    Buf.put_self _ 6
  unfold Globals.reported
  rw [hput]
  rfl

theorem wifiResultMsg_eq (code : Byte) (g : Globals) :
    wifiResultMsg code g = g.reported .wifiConnectComplete
      (if code = serverConnected then success
        else if code = inetConnected then 0x30
        else if code = wifiConnected then 0x31
        else if code = notConnected then 0x33
        else if code = pairedWifiUnreachable then 0x34
        else g.main.epReturnMessage 6) g.env.aborting := by
  unfold wifiResultMsg
  dsimp only
  repeat' split
  all_goals first | rfl | exact reported_self _ g

theorem cfgSaved_eq (received : CcuFsmStates) (failure code : Byte) (g : Globals) :
    cfgSaved received failure code g = g.reported received
      (if code = 0 then failure else if code = 1 then success else g.main.epReturnMessage 6)
      g.env.aborting := by
  unfold cfgSaved
  dsimp only
  split
  · rfl
  · split
    · rfl
    · exact reported_self _ g

theorem cfgParamsSaveStatusMsg_eq (type code : Byte) (g : Globals) :
    cfgParamsSaveStatusMsg type code g =
      if type = 2 ∨ type = 3 then cfgSaved .setEmerNumReceived 0x0B code g
      else if type = 5 ∨ type = 6 then cfgSaved .setPersonalNumReceived 0x0C code g
      else if type = 7 ∨ type = 8 then cfgSaved .cfgSetHelpNumReceived 0x1C code g
      else g := by
  unfold cfgParamsSaveStatusMsg
  dsimp only
  by_cases h1 : type = 2 ∨ type = 3
  · obtain rfl | rfl := h1 <;> rfl
  · by_cases h2 : type = 5 ∨ type = 6
    · obtain rfl | rfl := h2 <;> rfl
    · rw [if_neg h1, if_neg h2, if_neg h1, if_neg h2]

inductive PacketOutcome (ccuMsg : Buf 500) (g : Globals) : Globals → Prop
  | ready (hop : rxOpcode ccuMsg = some .ccuReady) :
    PacketOutcome ccuMsg g (ccuReadyMsg ccuMsg (g.akbiSetFsmState .ccuReady))
  | scanEnd (hop : rxOpcode ccuMsg = some .scanWifiResult) (htype : ccuMsg 3 = 0) :
    PacketOutcome ccuMsg g (scanCompleteMsg g)
  | scanned (hop : rxOpcode ccuMsg = some .scanWifiResult) (htype : ccuMsg 3 ≠ 0) :
    PacketOutcome ccuMsg g (scanWifiResultMsg ccuMsg g).1
  | login (hop : rxOpcode ccuMsg = some .loginStatus) :
    PacketOutcome ccuMsg g (loginStatusMsg (ccuMsg 5) g)
  | reported (aborting : Bool) (hready : rxOpcode ccuMsg ≠ some .ccuReady)
    (hscan : rxOpcode ccuMsg ≠ some .scanWifiResult)
    (hlogin : rxOpcode ccuMsg ≠ some .loginStatus) :
    PacketOutcome ccuMsg g (g.reported ((packetState ccuMsg).getD g.fsm.btState)
      (packetRc g.handler.postResult ccuMsg (g.main.epReturnMessage 6)) aborting)

theorem status_reported {ccuMsg : Buf 500} (length : Nat) (g : Globals)
    (hready : rxOpcode ccuMsg ≠ some .ccuReady) (hscan : rxOpcode ccuMsg ≠ some .scanWifiResult)
    (hlogin : rxOpcode ccuMsg ≠ some .loginStatus) : ∃ aborting,
    (akbiProcessRxSerialData ccuMsg length g).1 =
      g.reported ((packetState ccuMsg).getD g.fsm.btState)
        (packetRc g.handler.postResult ccuMsg (g.main.epReturnMessage 6)) aborting := by
  have hself := reported_self g.fsm.btState g
  unfold rxOpcode at hready hscan hlogin
  unfold packetState packetRc rxOpcode akbiProcessRxSerialData
  dsimp only
  cases hop : RxOpcode.ofByte? (ccuMsg 0) with
  | none => exact ⟨_, hself⟩
  | some opcode =>
    cases opcode with
    | ccuReady => exact absurd hop hready
    | scanWifiResult => exact absurd hop hscan
    | loginStatus => exact absurd hop hlogin
    | selectAWifiResult | wifiConnectCompleted => exact ⟨_, wifiResultMsg_eq _ g⟩
    | cfgParamsSaveStatus =>
      refine ⟨g.env.aborting, ?_⟩
      dsimp only
      rw [cfgParamsSaveStatusMsg_eq]
      unfold cfgGroup
      split
      · exact cfgSaved_eq _ _ _ g
      · split
        · exact cfgSaved_eq _ _ _ g
        · split
          · exact cfgSaved_eq _ _ _ g
          · exact hself
    | changePasswordStatus =>
      refine ⟨g.env.aborting, ?_⟩
      unfold changePasswordStatusMsg
      by_cases h6 : ccuMsg 5 = 6
      · simp only [h6, if_pos, true_or]
        rfl
      · by_cases h0 : ccuMsg 5 = 0
        · simp only [h0, if_pos, or_true]
          rfl
        · simp only [h6, h0, or_self, if_false]
          exact hself
    | forgotPassword =>
      refine ⟨g.env.aborting, ?_⟩
      simp only [forgotPasswordMsg]
      split
      · rfl
      · exact hself
    | updateCcuSwStatus =>
      dsimp only
      split <;> exact ⟨_, rfl⟩
    | uploadTripInfoStatus =>
      simp only [uploadTripInfoStatusMsg]
      split <;> exact ⟨_, rfl⟩
    | stopBleAdvCmd => exact ⟨_, hself⟩
    | disconnectFromWifiStatus | wifiSetModeStatus | recordPersonalVoiceMsgStatus
    | addressVisitingStatus | requestRebootStatus | ccuActivateStatus => exact ⟨_, rfl⟩

theorem packet_outcome (ccuMsg : Buf 500) (length : Nat) (g : Globals) :
    PacketOutcome ccuMsg g (akbiProcessRxSerialData ccuMsg length g).1 := by
  by_cases hready : rxOpcode ccuMsg = some .ccuReady
  · have houtcome := PacketOutcome.ready (g := g) hready
    unfold rxOpcode at hready
    unfold akbiProcessRxSerialData
    rw [hready]
    exact houtcome
  · by_cases hscan : rxOpcode ccuMsg = some .scanWifiResult
    · have hop := hscan
      unfold rxOpcode at hop
      unfold akbiProcessRxSerialData
      rw [hop]
      dsimp only
      split
      · next htype => exact .scanEnd hscan htype
      · next htype => exact .scanned hscan htype
    · by_cases hlogin : rxOpcode ccuMsg = some .loginStatus
      · have houtcome := PacketOutcome.login (g := g) hlogin
        unfold rxOpcode at hlogin
        unfold akbiProcessRxSerialData
        rw [hlogin]
        exact houtcome
      · obtain ⟨aborting, heq⟩ := status_reported length g hready hscan hlogin
        rw [heq]
        exact .reported aborting hready hscan hlogin

structure Settles (q : CcuFsmStates) (g g' : Globals) : Prop where
  state : g'.fsm.btState = q
  ble : g'.ble = g.ble
  io : g'.env.io = g.env.io
  service : g'.main.serviceCreated = g.main.serviceCreated

theorem loginStatusMsg_settles (code : Byte) (g : Globals) :
    Settles .loginStatus g (loginStatusMsg code g) := by
  unfold loginStatusMsg
  dsimp only
  split
  · split <;> exact ⟨rfl, rfl, rfl, rfl⟩
  · split
    · exact ⟨rfl, rfl, rfl, rfl⟩
    · split <;> exact ⟨rfl, rfl, rfl, rfl⟩

theorem scanWifiResultMsg_settles (ccuMsg : Buf 500) (g : Globals) :
    Settles g.fsm.btState g (scanWifiResultMsg ccuMsg g).1 := by
  unfold scanWifiResultMsg
  by_cases h : ccuMsg 3 = 1
  · simp only [if_pos h]
    exact ⟨rfl, rfl, rfl, rfl⟩
  · simp only [if_neg h]
    exact ⟨rfl, rfl, rfl, rfl⟩

theorem handled (ccuMsg : Buf 500) (length : Nat) (g : Globals) :
    Settles ((packetState ccuMsg).getD g.fsm.btState) g
      (akbiProcessRxSerialData ccuMsg length g).1 := by
  have houtcome := packet_outcome ccuMsg length g
  generalize (akbiProcessRxSerialData ccuMsg length g).1 = g' at houtcome
  cases houtcome with
  | ready hop =>
    unfold packetState
    rw [hop]
    exact ⟨rfl, rfl, rfl, rfl⟩
  | scanEnd hop htype =>
    unfold packetState
    rw [hop, htype]
    exact ⟨rfl, rfl, rfl, rfl⟩
  | scanned hop htype =>
    unfold packetState
    rw [hop]
    dsimp only
    rw [if_neg htype]
    exact scanWifiResultMsg_settles _ _
  | login hop =>
    unfold packetState
    rw [hop]
    exact loginStatusMsg_settles _ _
  | reported aborting => exact ⟨rfl, rfl, rfl, rfl⟩

theorem loginStatusMsg_rc (code : Byte) (g : Globals) :
    (loginStatusMsg code g).main.epReturnMessage 6 =
      if code = success then
        if g.handler.postResult = allSuccessPostValue then success else bleRetPostDataError
      else if code = errorLoginPasswordMismatch ∨ code = errorCcuLocked then code
      else g.main.epReturnMessage 6 := by
  have hhandler : (g.akbiSetFsmState .loginStatus).handler = g.handler := rfl
  unfold loginStatusMsg
  dsimp only
  rw [hhandler]
  by_cases h0 : code = success
  · rw [if_pos h0, if_pos h0]
    by_cases hpost : g.handler.postResult = allSuccessPostValue
    · rw [if_neg (fun hne => hne hpost), if_pos hpost]
      rfl
    · rw [if_pos hpost, if_neg hpost]
      rfl
  · rw [if_neg h0, if_neg h0]
    by_cases h6 : code = errorLoginPasswordMismatch
    · rw [if_pos h6, if_pos (.inl h6), h6]
      rfl
    · rw [if_neg h6]
      by_cases hlocked : code = errorCcuLocked
      · rw [if_pos hlocked, if_pos (.inr hlocked), hlocked]
        rfl
      · rw [if_neg hlocked, if_neg (fun h => h.elim h6 hlocked)]
        rfl

theorem handled_rc (ccuMsg : Buf 500) (length : Nat) (g : Globals) :
    (akbiProcessRxSerialData ccuMsg length g).1.main.epReturnMessage 6 =
      packetRc g.handler.postResult ccuMsg (g.main.epReturnMessage 6) := by
  have houtcome := packet_outcome ccuMsg length g
  generalize (akbiProcessRxSerialData ccuMsg length g).1 = g' at houtcome
  cases houtcome with
  | ready hop =>
    unfold packetRc
    rw [hop]
    rfl
  | scanEnd hop htype =>
    unfold packetRc
    rw [hop, htype]
    rfl
  | scanned hop htype =>
    unfold packetRc
    rw [hop]
    dsimp only
    rw [if_neg htype]
    unfold scanWifiResultMsg
    by_cases h1 : ccuMsg 3 = 1
    · simp only [if_pos h1]
      rfl
    · simp only [if_neg h1]
      rfl
  | login hop =>
    unfold packetRc
    rw [hop]
    exact loginStatusMsg_rc _ _
  | reported aborting => rfl

end EspBridges.Ccu
