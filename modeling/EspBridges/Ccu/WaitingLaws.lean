import EspBridges.Ccu.BridgeLaws

namespace EspBridges.Ccu

open Bytes

def isReplyTo (q : CcuFsmStates) (ccuMsg : Buf 500) : Bool :=
  let type := ccuMsg 3
  match q, rxOpcode ccuMsg with
  | .login, some .loginStatus => true
  | .forgotPasswd, some .forgotPassword => true
  | .changePasswd, some .changePasswordStatus => true
  | .voiceRecordingInProgress, some .recordPersonalVoiceMsgStatus => true
  | .setEmerNumSending, some .cfgParamsSaveStatus => type = 2 || type = 3
  | .setPersonalNumSending, some .cfgParamsSaveStatus => type = 5 || type = 6
  | .cfgSetHelpNumSending, some .cfgParamsSaveStatus => type = 7 || type = 8
  | .wifiScanInProgress, some .scanWifiResult => type = 0
  | .wifiConnectInProgress, some .selectAWifiResult => true
  | .wifiConnectInProgress, some .wifiConnectCompleted => true
  | .wifiDisconnectInProgress, some .disconnectFromWifiStatus => true
  | .fwUpgradeInProgress, some .updateCcuSwStatus => true
  | .fwRebootMsgSending, some .requestRebootStatus => true
  | .tripInfoUploadInProgress, some .uploadTripInfoStatus => true
  | .cfgSetAddress, some .addressVisitingStatus => true
  | .activateInProgress, some .ccuActivateStatus => true
  | .wifiModeSetInProgress, some .wifiSetModeStatus => true
  | _, _ => false

def requestsOf : CcuFsmStates → List Byte
  | .login => [btCpOpcodeCidLogin]
  | .forgotPasswd => [btCpOpcodeCidForgotPassword]
  | .changePasswd => [btCpOpcodeCidChangePassword]
  | .voiceRecordingInProgress => [btCpOpcodeCidRecordPersonalVoiceMsg]
  | .setEmerNumSending => [btCpOpcodeCidStoreEmergencyNumbers]
  | .setPersonalNumSending => [btCpOpcodeCidStorePersonalNumbers]
  | .cfgSetHelpNumSending => [btCpOpcodeCidEnterLocalHelpNumbers]
  | .wifiScanInProgress => [btCpOpcodeCidScanWifis]
  | .wifiConnectInProgress => [btCpOpcodeCidSelectAWifi, btCpOpcodeCidConnectToWifi]
  | .wifiDisconnectInProgress => [btCpOpcodeCidDisconnectFromWifi]
  | .fwUpgradeInProgress => [btCpOpcodeCidUpdateCcuSw]
  | .fwRebootMsgSending => [btCpOpcodeCidRequestReboot]
  | .tripInfoUploadInProgress => [btCpOpcodeCidUploadTripInfo]
  | .cfgSetAddress => [btCpOpcodeCidAddressVisiting]
  | .activateInProgress => [btCpOpcodeCidCcuActivate]
  | .wifiModeSetInProgress => [btCpOpcodeCidWifiSetMode]
  | _ => []

def Action.isWrite : Action → Bool
  | .gattWrite false _ _ => true
  | _ => false

inductive Unwritten : CcuFsmStates → List Io → CcuFsmStates → List Io → Prop
  | idle : Unwritten q io q io
  | poll : Unwritten .wifiScanComplete io .wifiNameSendInProgress io
  | frame (frame : List Byte) : Unwritten q io q (io ++ [.tx frame])
  | packet (ccuMsg : Buf 500) (length : Nat) :
    Unwritten q io ((packetState ccuMsg).getD q) (io ++ [.rx ccuMsg length])

theorem Polled.unwritten (h : Polled g g') :
    Unwritten g.fsm.btState g.env.io g'.fsm.btState g'.env.io := by
  rw [h.io, h.state]
  by_cases hq : g.fsm.btState = .wifiScanComplete
  · rw [if_pos hq, hq]
    exact .poll
  · rw [if_neg hq]
    exact .idle

theorem step_unwritten {b b' : Bridge} {e : Event} (hs : step b e = some b')
    (hw : e.action.isWrite = false) :
    Unwritten b.glob.fsm.btState b.glob.env.io b'.glob.fsm.btState b'.glob.env.io := by
  obtain ⟨_, rfl⟩ := step_eq_some hs
  cases ha : e.action with
  | regEvt =>
    rcases gattsRegEvt_eq (b.at e).glob with ⟨_, hpoll⟩ | ⟨_, hfsm, _, henv⟩
    · exact hpoll.unwritten
    · show Unwritten _ _ (gattsRegEvt (b.at e).glob).fsm.btState (gattsRegEvt (b.at e).glob).env.io
      rw [hfsm, henv]
      exact .idle
  | gattRead => exact (gattsReadEvt_polled (b.at e).glob).unwritten
  | gattWrite isPrep frame value =>
    cases isPrep with
    | true => exact .idle
    | false =>
      rw [ha] at hw
      cases hw
  | timerExpiry =>
    obtain ⟨hstate, _, hio⟩ := timerExpiry_glob b e
    rw [hstate, hio]
    exact .packet _ _
  | byteReceived dataByte => exact .idle
  | advDataSet | updateConnParams | gattDisconnect => exact .frame _

def settledBy (io : List Io) : Option CcuFsmStates :=
  io.foldl (fun last x => match x with
    | .rx ccuMsg _ => (packetState ccuMsg).or last
    | .tx _ => last) none

@[simp] theorem settledBy_tx (io : List Io) (frame : List Byte) :
    settledBy (io ++ [.tx frame]) = settledBy io := by
  simp [settledBy]

@[simp] theorem settledBy_rx (io : List Io) (ccuMsg : Buf 500) (length : Nat) :
    settledBy (io ++ [.rx ccuMsg length]) = (packetState ccuMsg).or (settledBy io) := by
  simp [settledBy]

theorem not_waiting_of_settledBy (io : List Io) :
    settledBy io = some q → waiting q = false := by
  suffices h : ∀ last : Option CcuFsmStates, (∀ q, last = some q → waiting q = false) →
      ∀ q, io.foldl (fun last x => match x with
        | .rx ccuMsg _ => (packetState ccuMsg).or last
        | .tx _ => last) last = some q → waiting q = false from
    h none nofun q
  induction io with
  | nil => exact fun last hlast q hq => hlast q hq
  | cons x io ih =>
    intro last hlast q hq
    refine ih _ ?_ q hq
    intro q' hq'
    cases x with
    | tx frame => exact hlast q' hq'
    | rx ccuMsg length =>
      rcases Option.or_eq_some_iff.mp hq' with hset | ⟨_, hold⟩
      · exact not_waiting_of_packetState hset
      · exact hlast q' hold

/-- Where the FSM can be when the traffic since state `q` is `new` and nothing was written:
at the state the last packet set, or one poll further for the scan table. -/
def Follows (q : CcuFsmStates) (new : List Io) (q' : CcuFsmStates) : Prop :=
  q' = (settledBy new).getD q ∨
    (settledBy new).getD q = .wifiScanComplete ∧ q' = .wifiNameSendInProgress

theorem Follows.step (h : Follows q new q') (hs : Unwritten q' (io ++ new) q'' io') :
    ∃ new', io' = io ++ new' ∧ Follows q new' q'' := by
  generalize hio : io ++ new = full at hs
  cases hs with
  | idle => exact ⟨new, hio.symm, h⟩
  | poll =>
    refine ⟨new, hio.symm, .inr ⟨?_, rfl⟩⟩
    rcases h with h | ⟨_, h⟩
    · exact h.symm
    · cases h
  | frame f =>
    refine ⟨new ++ [.tx f], by rw [← hio, List.append_assoc], ?_⟩
    simpa [Follows] using h
  | packet ccuMsg length =>
    refine ⟨new ++ [.rx ccuMsg length], by rw [← hio, List.append_assoc], ?_⟩
    unfold Follows
    rw [settledBy_rx]
    cases hp : packetState ccuMsg with
    | none => exact h
    | some q => exact .inl rfl

theorem run_follows {b b' : Bridge} {es : List Event} (hr : Machine.run step b es = some b')
    (hno : ∀ e ∈ es, e.action.isWrite = false) :
    ∃ new, b'.glob.env.io = b.glob.env.io ++ new ∧
      Follows b.glob.fsm.btState new b'.glob.fsm.btState := by
  suffices h : ∀ (mid : Bridge) (new : List Io), mid.glob.env.io = b.glob.env.io ++ new →
      Follows b.glob.fsm.btState new mid.glob.fsm.btState → Machine.run step mid es = some b' →
      ∃ new, b'.glob.env.io = b.glob.env.io ++ new ∧
        Follows b.glob.fsm.btState new b'.glob.fsm.btState from
    h b [] (List.append_nil _).symm (.inl rfl) hr
  clear hr
  induction es with
  | nil =>
    intro mid new hio hf hr
    simp only [Machine.run, Option.some.injEq] at hr
    subst hr
    exact ⟨new, hio, hf⟩
  | cons e es ih =>
    intro mid new hio hf hr
    simp only [Machine.run, Option.bind_eq_some_iff] at hr
    obtain ⟨next, hs, hrest⟩ := hr
    have hstep := step_unwritten hs (hno e List.mem_cons_self)
    rw [hio] at hstep
    obtain ⟨new', hio', hf'⟩ := hf.step hstep
    exact ih (fun e' he' => hno e' (List.mem_cons_of_mem _ he')) next new' hio' hf' hrest

theorem gattsReadEvt_waiting {g : Globals} (h : waiting g.fsm.btState = true) :
    gattsReadEvt g = g.setRet bleRetMsgRcOffset returnMsgNotReady := by
  unfold gattsReadEvt
  rw [check_waiting h]
  rfl

/-- From a waiting state on, as long as the phone writes nothing: the FSM keeps waiting, and
every read says so, until a packet arrives that sets a state.  Any such packet will do. -/
theorem waiting_until_settled {b b' : Bridge} {es : List Event}
    (hw : waiting b.glob.fsm.btState = true) (hr : Machine.run step b es = some b')
    (hno : ∀ e ∈ es, e.action.isWrite = false) :
    ∃ new, b'.glob.env.io = b.glob.env.io ++ new ∧
      (settledBy new = none → b'.glob.fsm.btState = b.glob.fsm.btState ∧
        ∀ e b'', e.action = .gattRead → step b' e = some b'' →
          b''.glob.fsm.btState = b.glob.fsm.btState ∧
          b''.glob.main.epReturnMessage =
            b'.glob.main.epReturnMessage.put bleRetMsgRcOffset returnMsgNotReady) ∧
      (∀ q, settledBy new = some q → waiting b'.glob.fsm.btState = false ∧
        (b'.glob.fsm.btState = q ∨
          q = .wifiScanComplete ∧ b'.glob.fsm.btState = .wifiNameSendInProgress)) := by
  obtain ⟨new, hio, hf⟩ := run_follows hr hno
  refine ⟨new, hio, ?_, ?_⟩
  · intro hnone
    have hsame : b'.glob.fsm.btState = b.glob.fsm.btState := by
      unfold Follows at hf
      rw [hnone] at hf
      rcases hf with hf | ⟨hq, _⟩
      · exact hf
      · rw [show b.glob.fsm.btState = .wifiScanComplete from hq] at hw
        cases hw
    refine ⟨hsame, ?_⟩
    intro e b'' ha hs
    obtain ⟨_, rfl⟩ := step_eq_some hs
    have hread := gattsReadEvt_waiting (g := (b'.at e).glob) (by
      show waiting b'.glob.fsm.btState = true
      rw [hsame]
      exact hw)
    rw [ha]
    show (gattsReadEvt (b'.at e).glob).fsm.btState = _ ∧
      (gattsReadEvt (b'.at e).glob).main.epReturnMessage = _
    rw [hread]
    exact ⟨hsame, rfl⟩
  · intro q hq
    have hnot : waiting q = false := not_waiting_of_settledBy new hq
    unfold Follows at hf
    rw [hq] at hf
    rcases hf with hf | ⟨hscan, hname⟩
    · exact ⟨by rw [hf]; exact hnot, .inl hf⟩
    · exact ⟨by rw [hname]; rfl, .inr ⟨hscan, hname⟩⟩

def loginSent : List Event := startUp ++ [.calm (.gattWrite false 0 [0x4D, 1, Cid.login.code, 4, 0])]

def loginReplied : List Event :=
  .calm .gattRead :: (burst [RxOpcode.loginStatus.code, 44, 0, 1, 1, 1] ++ [.calm .gattRead])

theorem loginSent_reads : ∃ b b', Machine.run step .boot loginSent = some b ∧
    b.glob.fsm.btState = .login ∧ Machine.run step b loginReplied = some b' ∧
      ∃ new, b'.glob.env.io = b.glob.env.io ++ new ∧
        (settledBy new = none → b'.glob.fsm.btState = b.glob.fsm.btState ∧
          ∀ e b'', e.action = .gattRead → step b' e = some b'' →
            b''.glob.fsm.btState = b.glob.fsm.btState ∧
            b''.glob.main.epReturnMessage =
              b'.glob.main.epReturnMessage.put bleRetMsgRcOffset returnMsgNotReady) ∧
        (∀ q, settledBy new = some q → waiting b'.glob.fsm.btState = false ∧
          (b'.glob.fsm.btState = q ∨
            q = .wifiScanComplete ∧ b'.glob.fsm.btState = .wifiNameSendInProgress)) := by
  have hrun : (Machine.run step .boot loginSent).map (fun b =>
      (b.glob.fsm.btState, (Machine.run step b loginReplied).isSome)) = some (.login, true) := by
    decide +kernel
  obtain ⟨b, hb, hpair⟩ := Option.map_eq_some_iff.mp hrun
  obtain ⟨hstate, hsome⟩ := Prod.mk.inj hpair
  obtain ⟨b', hb'⟩ := Option.isSome_iff_exists.mp hsome
  have hquiet : ∀ e ∈ loginReplied, e.action.isWrite = false := by
    simp [loginReplied, burst, Event.calm, Action.isWrite]
  exact ⟨b, b', hb, hstate, hb', waiting_until_settled (by rw [hstate]; rfl) hb' hquiet⟩

/-- What it would take to correlate: a wait ends by a write or by a reply to its command. -/
def Correlated (b : Bridge) (e : Event) (b' : Bridge) : Prop :=
  waiting b.glob.fsm.btState = true → b'.glob.fsm.btState ≠ b.glob.fsm.btState →
    e.action.isWrite = true ∨
      e.action = .timerExpiry ∧ isReplyTo b.glob.fsm.btState b.serial.packet = true

def unsolicited : List Event :=
  burst [0x13, 44, 0, 1, 0, 2, 0, 3, 0] ++
    [.calm .regEvt, .calm .regEvt, .calm (.gattWrite false 0 [0x4D, 1, 0x02, 4, 0])] ++
    [0x71, 44, 0, 1, 1, 0].map fun dataByte => .calm (.byteReceived dataByte)

theorem unsolicited_ends_wait :
    ¬ ∀ b e b', Reachable b → step b e = some b' → Correlated b e b' := by
  intro h
  have hrun : (Machine.run step .boot unsolicited).map (fun b =>
      (b.glob.fsm.btState, isReplyTo .login b.serial.packet,
        (step b (.calm .timerExpiry)).map fun b' => b'.glob.fsm.btState)) =
      some (.login, false, some .wifiConnectComplete) := by
    decide +kernel
  obtain ⟨b, hb, hpair⟩ := Option.map_eq_some_iff.mp hrun
  obtain ⟨hstate, hpair⟩ := Prod.mk.inj hpair
  obtain ⟨hreply, hnext⟩ := Prod.mk.inj hpair
  obtain ⟨b', hs, hstate'⟩ := Option.map_eq_some_iff.mp hnext
  have hreach : Reachable b := Machine.reachable_of_run .refl hb
  rcases h b (.calm .timerExpiry) b' hreach hs (by rw [hstate]; rfl)
    (by rw [hstate, hstate']; decide) with hwrite | ⟨_, hcorr⟩
  · cases hwrite
  · rw [hstate, hreply] at hcorr
    cases hcorr

/-! ### Outstanding requests -/

def outstandingStep (q : CcuFsmStates) (open' : Bool) : Io → Bool
  | .tx frame => open' || (requestsOf q).any fun opcode => frame.head? = some opcode
  | .rx ccuMsg _ => open' && !isReplyTo q ccuMsg

def outstanding (q : CcuFsmStates) (io : List Io) : Bool := io.foldl (outstandingStep q) false

theorem outstanding_snoc (q : CcuFsmStates) (io : List Io) (x : Io) :
    outstanding q (io ++ [x]) = outstandingStep q (outstanding q io) x := by
  simp [outstanding]

def waitsForCcu (q : CcuFsmStates) : Bool := waiting q && q ≠ .voiceRecordingInProgress

def NoIdleWait (b : Bridge) : Prop :=
  waitsForCcu b.glob.fsm.btState = true → outstanding b.glob.fsm.btState b.glob.env.io = true

/-- The state a command would have the phone wait in without sending the request for it. -/
def idleWait (q : CcuFsmStates) (t : Byte) : Option Cid → Option CcuFsmStates
  | some .changePassword => if t = 1 ∨ t = 2 then none else some .changePasswd
  | some .storeEmergencyNumbers => if t = 1 ∨ t = 2 then none else some .setEmerNumSending
  | some .storePersonalNumbers => if t = 1 ∨ t = 2 then none else some .setPersonalNumSending
  | some .enterLocalHelpNumbers => if t = 1 ∨ t = 2 then none else some .cfgSetHelpNumSending
  | some .scanWifis =>
    if t = 1 ∨ isScanState q = true then none else some .wifiScanInProgress
  | _ => none

/-- The two status codes no branch of the packet handler knows: they end no wait. -/
def unknownVerdict (q : CcuFsmStates) (ccuMsg : Buf 500) : Bool :=
  match q, rxOpcode ccuMsg with
  | .changePasswd, some .changePasswordStatus => ccuMsg 5 ≠ 6 && ccuMsg 5 ≠ 0
  | .forgotPasswd, some .forgotPassword => ccuMsg 5 ≠ 7
  | _, _ => false

/-- A step after which nobody waits in vain. -/
def waitOk (b : Bridge) (e : Event) : Prop :=
  match e.action with
  | .gattWrite false _ value =>
    ∀ q, idleWait b.glob.fsm.btState (value.getD 3 0) (Cid.ofByte? (value.getD 2 0)) = some q →
      outstanding q b.glob.env.io = true
  | .timerExpiry => unknownVerdict b.glob.fsm.btState b.serial.packet = false
  | _ => True

theorem reply_unsettled (h : packetState ccuMsg = none) :
    isReplyTo q ccuMsg = unknownVerdict q ccuMsg := by
  unfold packetState at h
  unfold isReplyTo unknownVerdict
  dsimp only at h ⊢
  cases hop : rxOpcode ccuMsg with
  | none => cases q <;> rfl
  | some opcode =>
    rw [hop] at h
    cases opcode with
    | changePasswordStatus =>
      have hcode : ccuMsg 5 ≠ 6 ∧ ccuMsg 5 ≠ 0 := by simpa using h
      cases q <;> simp [hcode]
    | forgotPassword =>
      have hcode : ccuMsg 5 ≠ 7 := by simpa using h
      cases q <;> simp [hcode]
    | scanWifiResult =>
      have htype : ccuMsg 3 ≠ 0 := by simpa using h
      cases q <;> simp [htype]
    | cfgParamsSaveStatus =>
      obtain ⟨hemer, hpersonal, hlocal⟩ := cfgGroup_eq_none.mp h
      cases q <;> simp_all
    | stopBleAdvCmd => cases q <;> rfl
    | _ => cases h

theorem unknownVerdict_cases (h : unknownVerdict q ccuMsg = true) :
    waitsForCcu q = true ∧ packetState ccuMsg = none := by
  unfold unknownVerdict at h
  split at h
  · next hop =>
    refine ⟨rfl, ?_⟩
    have hcode : ¬ ccuMsg 5 = 6 ∧ ¬ ccuMsg 5 = 0 := by simpa using h
    simp [packetState, hop, hcode]
  · next hop =>
    refine ⟨rfl, ?_⟩
    have hcode : ¬ ccuMsg 5 = 7 := by simpa using h
    simp [packetState, hop, hcode]
  · cases h

theorem packet_noIdleWait {q : CcuFsmStates} {io : List Io} (ccuMsg : Buf 500) (length : Nat)
    (h : waitsForCcu q = true → outstanding q io = true) :
    (waitsForCcu ((packetState ccuMsg).getD q) = true →
      outstanding ((packetState ccuMsg).getD q) (io ++ [.rx ccuMsg length]) = true) ↔
      unknownVerdict q ccuMsg = false := by
  cases hp : packetState ccuMsg with
  | some q' =>
    have hnot : waitsForCcu q' = false := by
      rw [waitsForCcu, not_waiting_of_packetState hp, Bool.false_and]
    have hknown : unknownVerdict q ccuMsg = false := by
      rw [← Bool.not_eq_true]
      intro hu
      rw [(unknownVerdict_cases hu).2] at hp
      cases hp
    simp [hnot, hknown]
  | none =>
    rw [Option.getD_none, outstanding_snoc]
    show (_ → (outstanding q io && !isReplyTo q ccuMsg) = true) ↔ _
    rw [reply_unsettled hp]
    by_cases hw : waitsForCcu q = true
    · simp [hw, h hw]
    · have hknown : unknownVerdict q ccuMsg = false := by
        rw [← Bool.not_eq_true]
        exact fun hu => hw (unknownVerdict_cases hu).1
      simp [hw, hknown]

theorem outstanding_sent {io : List Io} (hhead : frame.head? = some opcode)
    (hmem : opcode ∈ requestsOf q) : outstanding q (io ++ [.tx frame]) = true := by
  rw [outstanding_snoc]
  show (outstanding q io || (requestsOf q).any fun opcode => frame.head? = some opcode) = true
  have hany : ((requestsOf q).any fun opcode => frame.head? = some opcode) = true :=
    List.any_eq_true.mpr ⟨opcode, hmem, decide_eq_true hhead⟩
  rw [hany, Bool.or_true]

theorem outstanding_kept {io : List Io} (sends : Bool) (frame : List Byte)
    (h : outstanding q io = true) :
    outstanding q (io ++ bif sends then [.tx frame] else []) = true := by
  cases sends with
  | false => simpa using h
  | true =>
    rw [cond_true, outstanding_snoc]
    show (outstanding q io || _) = true
    rw [h, Bool.true_or]

section Command

variable {g : Globals} {t : Byte} {io : List Io} {frame : List Byte}

theorem number_noIdleWait (cmd : Cid) (q : CcuFsmStates)
    (hhead : frame.head? = some cmd.requestOpcode) (hmem : cmd.requestOpcode ∈ requestsOf q)
    (hwaits : waitsForCcu q = true) (hstate : commandState g t (some cmd) = q)
    (hreq : requests g t (some cmd) = (t = 1 || t = 2))
    (hidle : idleWait g.fsm.btState t (some cmd) = if t = 1 ∨ t = 2 then none else some q) :
    (waitsForCcu (commandState g t (some cmd)) = true →
      outstanding (commandState g t (some cmd))
        (io ++ bif requests g t (some cmd) then [.tx frame] else []) = true) ↔
      ∀ q, idleWait g.fsm.btState t (some cmd) = some q → outstanding q io = true := by
  rw [hstate, hreq, hidle]
  by_cases h12 : t = 1 ∨ t = 2
  · rw [if_pos h12, show (decide (t = 1) || decide (t = 2)) = true by simpa using h12]
    exact iff_of_true (fun _ => outstanding_sent hhead hmem) nofun
  · rw [if_neg h12, show (decide (t = 1) || decide (t = 2)) = false by simpa using h12]
    simp [hwaits]

theorem lastPart_noIdleWait (cmd : Cid) (k : Byte) {q q' : CcuFsmStates}
    (hhead : frame.head? = some cmd.requestOpcode) (hmem : cmd.requestOpcode ∈ requestsOf q)
    (hquiet : waitsForCcu q' = false)
    (hstate : commandState g t (some cmd) = if t = k then q else q')
    (hreq : requests g t (some cmd) = decide (t = k))
    (hidle : idleWait g.fsm.btState t (some cmd) = none) :
    (waitsForCcu (commandState g t (some cmd)) = true →
      outstanding (commandState g t (some cmd))
        (io ++ bif requests g t (some cmd) then [.tx frame] else []) = true) ↔
      ∀ q, idleWait g.fsm.btState t (some cmd) = some q → outstanding q io = true := by
  rw [hstate, hreq, hidle]
  refine iff_of_true ?_ nofun
  by_cases ht : t = k
  · rw [if_pos ht, decide_eq_true ht]
    exact fun _ => outstanding_sent hhead hmem
  · rw [if_neg ht, hquiet]
    exact nofun

theorem command_noIdleWait (cmd : Option Cid)
    (hhead : frame.head? = some ((cmd.map Cid.requestOpcode).getD 0))
    (h : waitsForCcu g.fsm.btState = true → outstanding g.fsm.btState io = true) :
    (waitsForCcu (commandState g t cmd) = true →
      outstanding (commandState g t cmd)
        (io ++ bif requests g t cmd then [.tx frame] else []) = true) ↔
      ∀ q, idleWait g.fsm.btState t cmd = some q → outstanding q io = true := by
  have quiet : ∀ {q}, waitsForCcu q = false → ∀ {io}, waitsForCcu q = true →
      outstanding q io = true := by
    intro q hq _ hw
    rw [hq] at hw
    cases hw
  have answered : ∀ {q opcode}, frame.head? = some opcode → opcode ∈ requestsOf q →
      (waitsForCcu q = true → outstanding q (io ++ [.tx frame]) = true) :=
    fun hop hmem _ => outstanding_sent hop hmem
  cases cmd with
  | none => exact iff_of_true (fun hw => outstanding_kept _ _ (h hw)) nofun
  | some cmd =>
    cases cmd with
    | register => exact iff_of_true (quiet rfl) nofun
    | login => exact lastPart_noIdleWait .login 4 hhead (by decide) rfl rfl rfl rfl
    | forgotPassword =>
      exact iff_of_true (answered (q := .forgotPasswd) hhead (by decide)) nofun
    | changePassword =>
      dsimp only [commandState, requests, idleWait]
      by_cases h1 : t = 1
      · rw [if_pos h1, if_pos (.inl h1)]
        exact iff_of_true (quiet rfl) nofun
      · rw [if_neg h1]
        by_cases h2 : t = 2
        · rw [if_pos (.inr h2), decide_eq_true h2]
          exact iff_of_true (answered (q := .changePasswd) hhead (by decide)) nofun
        · rw [if_neg (by simp [h1, h2]), decide_eq_false h2]
          simp [waitsForCcu, waiting]
    | recordPersonalVoiceMsg =>
      refine iff_of_true ?_ nofun
      dsimp only [commandState]
      split <;> exact quiet rfl
    | scanWifis =>
      dsimp only [commandState, requests, idleWait]
      by_cases h1 : t = 1
      · rw [if_neg (by simp [h1]), if_pos (.inl h1), decide_eq_true h1]
        exact iff_of_true (answered (q := .wifiScanInProgress) hhead (by decide)) nofun
      · rw [decide_eq_false h1]
        by_cases hscan : isScanState g.fsm.btState = true
        · rw [if_pos ⟨h1, hscan⟩, if_pos (.inr hscan)]
          exact iff_of_true (fun hw => outstanding_kept false frame (h hw)) nofun
        · rw [if_neg (by simp [hscan]), if_neg (by simp [h1, hscan])]
          simp [waitsForCcu, waiting]
    | selectAWifi => exact lastPart_noIdleWait .selectAWifi 2 hhead (by decide) rfl rfl rfl rfl
    | addressVisiting =>
      refine iff_of_true ?_ nofun
      dsimp only [commandState]
      by_cases ht : t = 8
      · rw [if_pos ht]
        exact quiet rfl
      · rw [if_neg ht]
        exact fun hw => outstanding_kept _ _ (h hw)
    | ccuActivate => exact iff_of_true (fun hw => outstanding_kept _ _ (h hw)) nofun
    | connectToWifi =>
      exact iff_of_true (answered (q := .wifiConnectInProgress) hhead (by decide)) nofun
    | disconnectFromWifi =>
      exact iff_of_true (answered (q := .wifiDisconnectInProgress) hhead (by decide)) nofun
    | updateCcuSw =>
      exact iff_of_true (answered (q := .fwUpgradeInProgress) hhead (by decide)) nofun
    | setCcuReboot =>
      exact iff_of_true (answered (q := .fwRebootMsgSending) hhead (by decide)) nofun
    | setCcuWifiMode =>
      exact iff_of_true (answered (q := .wifiModeSetInProgress) hhead (by decide)) nofun
    | uploadTripInfo =>
      exact iff_of_true (answered (q := .tripInfoUploadInProgress) hhead (by decide)) nofun
    | storeEmergencyNumbers =>
      exact number_noIdleWait .storeEmergencyNumbers .setEmerNumSending hhead (by decide) rfl rfl
        rfl rfl
    | storePersonalNumbers =>
      exact number_noIdleWait .storePersonalNumbers .setPersonalNumSending hhead (by decide) rfl
        rfl rfl rfl
    | enterLocalHelpNumbers =>
      exact number_noIdleWait .enterLocalHelpNumbers .cfgSetHelpNumSending hhead (by decide) rfl
        rfl rfl rfl

end Command

theorem write_noIdleWait (frame : Nat) (value : List Byte) (g : Globals)
    (h : waitsForCcu g.fsm.btState = true → outstanding g.fsm.btState g.env.io = true) :
    (waitsForCcu (gattsWriteEvt false frame value g).fsm.btState = true →
      outstanding (gattsWriteEvt false frame value g).fsm.btState
        (gattsWriteEvt false frame value g).env.io = true) ↔
      ∀ q, idleWait g.fsm.btState (value.getD 3 0) (Cid.ofByte? (value.getD 2 0)) = some q →
        outstanding q g.env.io = true := by
  have heff := gattsWriteEvt_effect frame value g
  have hrec := received_spec frame value g
  obtain ⟨f, hhead, hio⟩ := heff.sent
  rw [heff.state, hio, hrec.io, ← hrec.fsm]
  exact command_noIdleWait _ hhead (by rw [hrec.fsm]; exact h)

theorem Polled.noIdleWait (h : Polled g g')
    (hg : waitsForCcu g.fsm.btState = true → outstanding g.fsm.btState g.env.io = true) :
    waitsForCcu g'.fsm.btState = true → outstanding g'.fsm.btState g'.env.io = true := by
  rw [h.io, h.state]
  by_cases hq : g.fsm.btState = .wifiScanComplete
  · rw [if_pos hq]
    intro hw
    cases hw
  · rw [if_neg hq]
    exact hg

theorem step_noIdleWait_iff (b : Bridge) (e : Event) (b' : Bridge) (hb : NoIdleWait b)
    (hs : step b e = some b') : NoIdleWait b' ↔ waitOk b e := by
  obtain ⟨_, rfl⟩ := step_eq_some hs
  unfold NoIdleWait waitOk
  cases e.action with
  | regEvt =>
    refine iff_of_true ?_ trivial
    rcases gattsRegEvt_eq (b.at e).glob with ⟨_, hpoll⟩ | ⟨_, hfsm, _, henv⟩
    · exact hpoll.noIdleWait hb
    · show waitsForCcu (gattsRegEvt (b.at e).glob).fsm.btState = true →
        outstanding (gattsRegEvt (b.at e).glob).fsm.btState
          (gattsRegEvt (b.at e).glob).env.io = true
      rw [hfsm, henv]
      exact hb
  | gattRead => exact iff_of_true ((gattsReadEvt_polled (b.at e).glob).noIdleWait hb) trivial
  | gattWrite isPrep frame value =>
    cases isPrep with
    | true => exact iff_of_true hb trivial
    | false => exact write_noIdleWait frame value (b.at e).glob hb
  | timerExpiry =>
    obtain ⟨hstate, _, hio⟩ := timerExpiry_glob b e
    rw [hstate, hio]
    exact packet_noIdleWait _ _ hb
  | byteReceived dataByte => exact iff_of_true hb trivial
  | advDataSet | updateConnParams | gattDisconnect =>
    exact iff_of_true (fun hw => outstanding_kept true _ (hb hw)) trivial

/-- In a run from boot nobody waits in vain just when every step is one after which nobody
does: no unknown data type where a number or a password is expected, no scan sub-command
outside a scan, and no reply with a code its handler does not know. -/
theorem always_noIdleWait_iff (es : List Event) :
    Machine.Always step NoIdleWait .boot es ↔ Machine.Guarded step waitOk .boot es :=
  Machine.always_iff_guarded (fun _ => True) (fun _ _ _ _ _ => trivial)
    (fun b e b' _ hb hs => step_noIdleWait_iff b e b' hb hs) trivial nofun

def unknownNumber : List Event :=
  burst [0x13, 44, 0, 1, 0, 2, 0, 3, 0] ++
    [.calm .regEvt, .calm .regEvt, .calm (.gattWrite false 0 [0x4D, 1, 0x06, 9, 0])]

theorem unknownNumber_waits : ¬ Machine.Always step NoIdleWait .boot unknownNumber := by
  intro h
  have hrun : (Machine.run step .boot unknownNumber).map (fun b =>
      (waitsForCcu b.glob.fsm.btState, outstanding b.glob.fsm.btState b.glob.env.io)) =
        some (true, false) := by
    decide +kernel
  obtain ⟨b, hb, hpair⟩ := Option.map_eq_some_iff.mp hrun
  obtain ⟨hwaits, hopen⟩ := Prod.mk.inj hpair
  have hsound := h.last hb hwaits
  rw [hopen] at hsound
  cases hsound

end EspBridges.Ccu
