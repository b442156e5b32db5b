import EspBridges.Ccu.WaitingLaws

namespace EspBridges.Ccu

open Bytes

/-- The state in which a command of data type `t` waits for the reply to the request it has
sent. -/
def Cid.awaits (t : Byte) : Cid → Option CcuFsmStates
  | .login => if t = 4 then some .login else none
  | .selectAWifi => if t = 2 then some .wifiConnectInProgress else none
  | .connectToWifi => some .wifiConnectInProgress
  | .changePassword => if t = 2 then some .changePasswd else none
  | .forgotPassword => some .forgotPasswd
  | .storeEmergencyNumbers => if t = 1 ∨ t = 2 then some .setEmerNumSending else none
  | .storePersonalNumbers => if t = 1 ∨ t = 2 then some .setPersonalNumSending else none
  | .enterLocalHelpNumbers => if t = 1 ∨ t = 2 then some .cfgSetHelpNumSending else none
  | .uploadTripInfo => some .tripInfoUploadInProgress
  | .disconnectFromWifi => some .wifiDisconnectInProgress
  | .setCcuWifiMode => some .wifiModeSetInProgress
  | .updateCcuSw => some .fwUpgradeInProgress
  | .setCcuReboot => some .fwRebootMsgSending
  | .register | .recordPersonalVoiceMsg | .scanWifis | .addressVisiting | .ccuActivate => none

/-- The replies to the request; the type of an update's reply is not the one that reboots. -/
def Cid.answeredBy (cmd : Cid) (q : CcuFsmStates) (ccuMsg : Buf 500) : Prop :=
  isReplyTo q ccuMsg = true ∧ (cmd = .updateCcuSw → ccuMsg 3 ≠ tlvTypeUpdateFwReboot)

def Action.isPoll : Action → Prop
  | .gattRead | .byteReceived _ => True
  | _ => False

/-- In state `b` the phone sends `cmd`, polls, the CCU answers with `code` while the last power
on self-test was `post`, and the next read reports `rc`. -/
inductive Exchange (cmd : Cid) (code : Byte) (b : Bridge) (post rc : Byte) : Prop
  | intro (frame : Nat) (value : List Byte) (q : CcuFsmStates) (write reply read : Event)
    (polls : List Event) (asked polled answered done : Bridge)
    (hwrite : write.action = .gattWrite false frame value)
    (hcmd : Cid.ofByte? (value.getD 2 0) = some cmd) (hq : cmd.awaits (value.getD 3 0) = some q)
    (hasked : step b write = some asked)
    (hpolls : ∀ e ∈ polls, e.action.isPoll) (hpolled : Machine.run step asked polls = some polled)
    (hreply : reply.action = .timerExpiry) (hmatch : cmd.answeredBy q polled.serial.packet)
    (hcode : polled.serial.packet 5 = code) (hpost : polled.glob.handler.postResult = post)
    (hanswered : step polled reply = some answered)
    (hread : read.action = .gattRead) (hdone : step answered read = some done)
    (hrc : done.glob.main.epReturnMessage 6 = rc)

theorem awaits_spec {cmd : Cid} {t : Byte} (h : cmd.awaits t = some q) (g : Globals) :
    commandState g t (some cmd) = q ∧ requests g t (some cmd) = true ∧ waiting q = true := by
  cases cmd <;> simp only [Cid.awaits, Option.ite_none_right_eq_some, Option.some.injEq,
    reduceCtorEq] at h
  case login | selectAWifi | changePassword =>
    obtain ⟨rfl, rfl⟩ := h
    exact ⟨rfl, rfl, rfl⟩
  case storeEmergencyNumbers | storePersonalNumbers | enterLocalHelpNumbers =>
    obtain ⟨ht, rfl⟩ := h
    exact ⟨rfl, by simpa [requests] using ht, rfl⟩
  all_goals
    subst h
    exact ⟨rfl, rfl, rfl⟩

def verdict (post : Byte) (ccuMsg : Buf 500) (rc : Byte) : Byte :=
  if (packetState ccuMsg).isSome then packetRc post ccuMsg rc else returnMsgNotReady

def Cid.knows (code : Byte) : Cid → Prop
  | .login => code = 0 ∨ code = 6 ∨ code = 0x81
  | .selectAWifi | .connectToWifi => code = 0 ∨ code = 1 ∨ code = 2 ∨ code = 3 ∨ code = 4
  | .changePassword => code = 0 ∨ code = 6
  | .forgotPassword => code = 7
  | .storeEmergencyNumbers | .storePersonalNumbers | .enterLocalHelpNumbers => code = 0 ∨ code = 1
  | .disconnectFromWifi | .setCcuWifiMode | .updateCcuSw | .setCcuReboot =>
    code ≠ returnMsgNotReady
  | .uploadTripInfo => True
  | .register | .recordPersonalVoiceMsg | .scanWifis | .addressVisiting | .ccuActivate => True

def Cid.report (post code : Byte) : Cid → Byte
  | .login => if code = 0 then if post = 7 then 0 else 0x79 else code
  | .selectAWifi | .connectToWifi =>
    if code = 0 then 0 else if code = 1 then 0x30 else if code = 2 then 0x31
    else if code = 3 then 0x33 else 0x34
  | .changePassword => if code = 6 then 9 else 0
  | .storeEmergencyNumbers => if code = 0 then 0x0B else 0
  | .storePersonalNumbers => if code = 0 then 0x0C else 0
  | .enterLocalHelpNumbers => if code = 0 then 0x1C else 0
  | .uploadTripInfo => if code = 0x0F then 0 else 0x37
  | _ => code

/-- What the return code has to tell the phone: that the wait is over, and whether the command
has succeeded. -/
def Cid.Reported (post code rc : Byte) (cmd : Cid) : Prop :=
  rc ≠ returnMsgNotReady ∧
    match cmd with
    | .login => rc = success ↔ code = 0 ∧ post = allSuccessPostValue
    | .selectAWifi | .connectToWifi => rc = success ↔ code = serverConnected
    | .storeEmergencyNumbers | .storePersonalNumbers | .enterLocalHelpNumbers =>
      rc = success ↔ code = 1
    | .uploadTripInfo => rc = success ↔ code = 0x0F
    | .changePassword => rc = success ↔ code = 0
    | .forgotPassword => rc = 7 ↔ code = 7
    | _ => rc = code

theorem reported_of_knows (cmd : Cid) (post code : Byte) (h : cmd.knows code) {t : Byte}
    (hq : cmd.awaits t = some q) : cmd.Reported post code (cmd.report post code) := by
  unfold Cid.Reported Cid.report
  cases cmd <;> dsimp only [Cid.knows] at h <;> dsimp only
  case login =>
    obtain rfl | rfl | rfl := h
    · by_cases hpost : post = 7 <;> simp [hpost]
    · simp
    · simp
  case selectAWifi | connectToWifi => obtain rfl | rfl | rfl | rfl | rfl := h <;> simp
  case changePassword | storeEmergencyNumbers | storePersonalNumbers | enterLocalHelpNumbers =>
    obtain rfl | rfl := h <;> simp
  case forgotPassword =>
    subst h
    simp
  case uploadTripInfo => by_cases hcode : code = 0x0F <;> simp [hcode]
  case disconnectFromWifi | setCcuWifiMode | updateCcuSw | setCcuReboot => exact ⟨h, rfl⟩
  all_goals cases hq

theorem opcode_of_isReplyTo (h : isReplyTo q ccuMsg = true) :
    ∃ opcode, rxOpcode ccuMsg = some opcode := by
  cases hop : rxOpcode ccuMsg with
  | none => simp [isReplyTo, hop] at h
  | some opcode => exact ⟨opcode, rfl⟩

theorem wifi_verdict (code rc : Byte) :
    (Cid.connectToWifi.knows code →
      (if code = serverConnected then success
        else if code = inetConnected then 0x30
        else if code = wifiConnected then 0x31
        else if code = notConnected then 0x33
        else if code = pairedWifiUnreachable then 0x34
        else rc) = Cid.connectToWifi.report 0 code) ∧
      (¬ Cid.connectToWifi.knows code → rc = returnMsgNotReady →
        (if code = serverConnected then success
          else if code = inetConnected then 0x30
          else if code = wifiConnected then 0x31
          else if code = notConnected then 0x33
          else if code = pairedWifiUnreachable then 0x34
          else rc) = returnMsgNotReady) := by
  constructor
  · rintro (rfl | rfl | rfl | rfl | rfl) <;> simp [Cid.report]
  · intro hnot hrc
    simp only [Cid.knows, not_or] at hnot
    simp [hnot, hrc]

theorem number_verdict (failure code rc : Byte) :
    ((code = 0 ∨ code = 1) →
      (if code = 0 then failure else if code = 1 then success else rc) =
        if code = 0 then failure else 0) ∧
      (¬ (code = 0 ∨ code = 1) → rc = returnMsgNotReady →
        (if code = 0 then failure else if code = 1 then success else rc) = returnMsgNotReady) := by
  constructor
  · rintro (rfl | rfl) <;> simp
  · intro hnot hrc
    simp only [not_or] at hnot
    simp [hnot, hrc]

/-- For a code it knows, the handler's verdict does not depend on what the reply held before;
for any other, the verdict is what the reply held, or nothing. -/
theorem verdict_eq {cmd : Cid} {t : Byte} (hq : cmd.awaits t = some q) (post : Byte)
    {ccuMsg : Buf 500} (hm : cmd.answeredBy q ccuMsg) (rc : Byte) :
    (cmd.knows (ccuMsg 5) → verdict post ccuMsg rc = cmd.report post (ccuMsg 5)) ∧
      (¬ cmd.knows (ccuMsg 5) → rc = returnMsgNotReady →
        verdict post ccuMsg rc = returnMsgNotReady) := by
  obtain ⟨hreply, _⟩ := hm
  obtain ⟨opcode, hop⟩ := opcode_of_isReplyTo hreply
  unfold isReplyTo at hreply
  unfold verdict packetRc packetState
  generalize ccuMsg 5 = code at *
  rw [hop] at hreply ⊢
  cases cmd <;> simp only [Cid.awaits, Option.ite_none_right_eq_some, Option.some.injEq,
    reduceCtorEq] at hq
  case login =>
    obtain ⟨_, rfl⟩ := hq
    cases opcode <;> cases hreply
    constructor
    · rintro (rfl | rfl | rfl) <;> simp [Cid.report]
    · intro hnot hrc
      simp only [Cid.knows, not_or] at hnot
      simp [hnot, hrc]
  case selectAWifi =>
    obtain ⟨_, rfl⟩ := hq
    cases opcode <;> cases hreply
    all_goals exact wifi_verdict code rc
  case connectToWifi =>
    subst hq
    cases opcode <;> cases hreply
    all_goals exact wifi_verdict code rc
  case changePassword =>
    obtain ⟨_, rfl⟩ := hq
    cases opcode <;> cases hreply
    constructor
    · rintro (rfl | rfl) <;> simp [Cid.report]
    · intro hnot hrc
      simp only [Cid.knows, not_or] at hnot
      simp [hnot]
  case forgotPassword =>
    subst hq
    cases opcode <;> cases hreply
    constructor
    · rintro rfl
      simp [Cid.report]
    · intro hnot hrc
      simp only [Cid.knows] at hnot
      simp [hnot]
  case uploadTripInfo =>
    subst hq
    cases opcode <;> cases hreply
    exact ⟨fun _ => rfl, fun hnot => absurd trivial hnot⟩
  case disconnectFromWifi | setCcuWifiMode | updateCcuSw | setCcuReboot =>
    subst hq
    cases opcode <;> cases hreply
    exact ⟨fun _ => rfl, fun hnot _ => Decidable.not_not.mp hnot⟩
  case storeEmergencyNumbers | storePersonalNumbers | enterLocalHelpNumbers =>
    obtain ⟨_, rfl⟩ := hq
    cases opcode <;> first | cases hreply | skip
    simp only [Bool.or_eq_true, decide_eq_true_eq] at hreply
    obtain htype | htype := hreply
    all_goals
      rw [htype]
      exact number_verdict _ code rc

theorem run_polls {b b' : Bridge} (polls : List Event) (hpolls : ∀ e ∈ polls, e.action.isPoll)
    (hw : waiting b.glob.fsm.btState = true) (hr : Machine.run step b polls = some b') :
    b'.glob.fsm.btState = b.glob.fsm.btState := by
  induction polls generalizing b with
  | nil =>
    simp only [Machine.run, Option.some.injEq] at hr
    rw [hr]
  | cons e es ih =>
    simp only [Machine.run, Option.bind_eq_some_iff] at hr
    obtain ⟨mid, hs, hrest⟩ := hr
    obtain ⟨_, rfl⟩ := step_eq_some hs
    have hmid : ((b.at e).perform e.action).glob.fsm.btState = b.glob.fsm.btState := by
      have hpoll := hpolls e List.mem_cons_self
      cases ha : e.action with
      | gattRead =>
        show (gattsReadEvt (b.at e).glob).fsm.btState = _
        rw [gattsReadEvt_waiting (g := (b.at e).glob) hw]
        rfl
      | byteReceived dataByte => rfl
      | _ =>
        rw [ha] at hpoll
        exact hpoll.elim
    rw [← hmid]
    exact ih (fun e' he' => hpolls e' (List.mem_cons_of_mem _ he')) (by rw [hmid]; exact hw) hrest

theorem step_asks {b b' : Bridge} {e : Event} {frame : Nat} {value : List Byte} {cmd : Cid}
    (he : e.action = .gattWrite false frame value) (hcmd : Cid.ofByte? (value.getD 2 0) = some cmd)
    (hq : cmd.awaits (value.getD 3 0) = some q) (hs : step b e = some b') :
    b'.glob.fsm.btState = q := by
  obtain ⟨_, rfl⟩ := step_eq_some hs
  have heff := gattsWriteEvt_effect frame value (b.at e).glob
  rw [hcmd] at heff
  rw [he]
  exact heff.state.trans (awaits_spec hq _).1

theorem step_reports {polled answered done : Bridge} {reply read : Event}
    (hw : waiting polled.glob.fsm.btState = true) (hreply : reply.action = .timerExpiry)
    (hanswered : step polled reply = some answered) (hread : read.action = .gattRead)
    (hdone : step answered read = some done) :
    done.glob.main.epReturnMessage 6 = verdict polled.glob.handler.postResult
      polled.serial.packet (polled.glob.main.epReturnMessage 6) := by
  obtain ⟨_, rfl⟩ := step_eq_some hanswered
  obtain ⟨_, rfl⟩ := step_eq_some hdone
  rw [hreply, hread]
  have hstate := (timerExpiry_glob polled reply).1
  have hrc := handled_rc polled.serial.packet polled.serial.serialDataBytes
    { (polled.at reply).glob with
      env.io := polled.glob.env.io ++ [.rx polled.serial.packet polled.serial.serialDataBytes] }
  refine (gattsReadEvt_rc _).trans ?_
  show (if waiting ((polled.at reply).perform .timerExpiry).glob.fsm.btState = true then _ else
    ((polled.at reply).perform .timerExpiry).glob.main.epReturnMessage 6) = _
  rw [hstate]
  unfold verdict
  cases hp : packetState polled.serial.packet with
  | none =>
    rw [Option.getD_none, if_pos hw]
    rfl
  | some q' =>
    rw [Option.getD_some, if_neg (by rw [not_waiting_of_packetState hp]; decide), Option.isSome_some,
      if_pos rfl]
    exact hrc

theorem Exchange.verdict {cmd : Cid} {b : Bridge} (h : Exchange cmd code b post rc) :
    ∃ t q ccuMsg rc₀, cmd.awaits t = some q ∧ cmd.answeredBy q ccuMsg ∧ ccuMsg 5 = code ∧
      rc = Ccu.verdict post ccuMsg rc₀ := by
  obtain ⟨frame, value, q, write, reply, read, polls, asked, polled, answered, done, hwrite, hcmd,
    hq, hasked, hpolls, hpolled, hreply, hmatch, hcode, hpost, hanswered, hread, hdone, hrc⟩ := h
  have hstate : asked.glob.fsm.btState = q := step_asks hwrite hcmd hq hasked
  have hw : waiting asked.glob.fsm.btState = true := by
    rw [hstate]
    exact (awaits_spec hq b.glob).2.2
  have hkept := run_polls polls hpolls hw hpolled
  have hreport := step_reports (by rw [hkept]; exact hw) hreply hanswered hread hdone
  rw [hpost, hrc] at hreport
  exact ⟨_, q, _, _, hq, hmatch, hcode, hreport⟩

/-! ### Every exchange takes place -/

def Cid.asking : Cid → Byte
  | .login => 4
  | .selectAWifi | .changePassword => 2
  | _ => 1

def Cid.replyBytes (code : Byte) : Cid → List Byte
  | .login => [0x74, 44, 0, 1, 1, code]
  | .selectAWifi | .connectToWifi => [0x71, 44, 0, 1, 1, code]
  | .changePassword => [0x78, 44, 0, 1, 1, code]
  | .forgotPassword => [0x03, 44, 0, 1, 1, code]
  | .storeEmergencyNumbers => [0x75, 44, 0, 2, 1, code]
  | .storePersonalNumbers => [0x75, 44, 0, 5, 1, code]
  | .enterLocalHelpNumbers => [0x75, 44, 0, 7, 1, code]
  | .uploadTripInfo => [0x7E, 44, 0, 9, 1, code]
  | .disconnectFromWifi => [0x7B, 44, 0, 1, 1, code]
  | .setCcuWifiMode => [0x77, 44, 0, 1, 1, code]
  | .updateCcuSw => [0x79, 44, 0, 1, 1, code]
  | _ => [0x7D, 44, 0, 1, 1, code]

theorem length_replyBytes (cmd : Cid) (code : Byte) : (cmd.replyBytes code).length = 6 := by
  cases cmd <;> rfl

theorem answeredBy_replyBytes {cmd : Cid} (code : Byte) (hq : cmd.awaits cmd.asking = some q)
    {ccuMsg : Buf 500} (h0 : ccuMsg 0 = (cmd.replyBytes code).getD 0 0)
    (h3 : ccuMsg 3 = (cmd.replyBytes code).getD 3 0) : cmd.answeredBy q ccuMsg := by
  unfold Cid.answeredBy isReplyTo rxOpcode
  rw [h0, h3]
  cases cmd <;> cases hq <;> exact ⟨rfl, nofun⟩

theorem awaits_asking {cmd : Cid} (h : ¬ cmd.knows code) :
    ∃ q, cmd.awaits cmd.asking = some q := by
  cases cmd <;> first | exact ⟨_, rfl⟩ | exact absurd trivial h

structure Polling (cmd : Cid) (q : CcuFsmStates) (value : List Byte) (b asked polling : Bridge) :
    Prop where
  reachable : Reachable b
  asks : step b (.calm (.gattWrite false 0 value)) = some asked
  polls : step asked (.calm .gattRead) = some polling
  serving : Serving polling
  idle : polling.serial.Agrees []
  state : polling.glob.fsm.btState = q
  rc : polling.glob.main.epReturnMessage 6 = returnMsgNotReady

theorem exists_polling {cmd : Cid} (hq : cmd.awaits cmd.asking = some q) :
    ∃ b asked polling, Polling cmd q [mob1AppTypeId, 1, cmd.code, cmd.asking] b asked polling := by
  obtain ⟨b, hb, hserial⟩ := exists_serving
  let value : List Byte := [mob1AppTypeId, 1, cmd.code, cmd.asking]
  let write : Action := .gattWrite false 0 value
  have halive : Alive (b.at (.calm write)).glob
      (gattsWriteEvt false 0 value (b.at (.calm write)).glob) :=
    (received_spec 0 value _).alive.trans (gattsWriteEvt_effect 0 value _).alive
  obtain ⟨hasked, hb₁⟩ := hb.gatt (a := write) rfl rfl halive
  have hstate := step_asks (e := .calm write) rfl (Cid.ofByte?_code cmd) hq hasked
  generalize gattsWriteEvt false 0 value (b.at (.calm write)).glob = g₁ at *
  have hw : waiting g₁.fsm.btState = true := by
    rw [hstate]
    exact (awaits_spec hq b.glob).2.2
  obtain ⟨hpoll, hb₂⟩ := hb₁.gatt (a := .gattRead) rfl rfl (gattsReadEvt_polled _).alive
  have hpolled := gattsReadEvt_waiting (g := (Bridge.at ⟨b.serial, g₁⟩ (.calm .gattRead)).glob) hw
  refine ⟨b, _, _, hb.reachable, hasked, hpoll, hb₂, hserial, ?_, ?_⟩
  · show (gattsReadEvt (Bridge.at ⟨b.serial, g₁⟩ (.calm .gattRead)).glob).fsm.btState = q
    rw [hpolled]
    exact hstate
  · show (gattsReadEvt (Bridge.at ⟨b.serial, g₁⟩ (.calm .gattRead)).glob).main.epReturnMessage 6 = _
    rw [hpolled]
    rfl

theorem exists_exchange {cmd : Cid} (hq : cmd.awaits cmd.asking = some q) (code : Byte) :
    ∃ b post ccuMsg, Reachable b ∧ cmd.answeredBy q ccuMsg ∧ ccuMsg 5 = code ∧
      Exchange cmd code b post (verdict post ccuMsg returnMsgNotReady) := by
  obtain ⟨b, asked, polling, hpolling⟩ := exists_polling hq
  -- the reply
  have hlen := length_replyBytes cmd code
  obtain ⟨polled, mem, wild, hrun, hagrees, hglob⟩ := run_bytes hpolling.idle
    hpolling.serving.running (cmd.replyBytes code)
    ((cmd.replyBytes code).map fun dataByte => .calm (.byteReceived dataByte))
    (by simp [Event.calm]) (by simp [hlen])
  rw [List.nil_append] at hagrees
  have hpacket : ∀ i : Fin 500, i.val < 6 →
      polled.serial.packet i = (cmd.replyBytes code).getD i.val 0 :=
    fun i hi => packet_apply hagrees i (by omega) (by omega)
  have hmatch : cmd.answeredBy q polled.serial.packet :=
    answeredBy_replyBytes code hq (hpacket 0 (by decide)) (hpacket 3 (by decide))
  have hcode : polled.serial.packet 5 = code := by
    rw [hpacket 5 (by decide)]
    cases cmd <;> rfl
  obtain ⟨answered, hanswered, _, hglob'⟩ := step_pause (e := .calm .timerExpiry) hagrees
    (by rw [hglob]; exact hpolling.serving.running) (by omega) (by omega) rfl
  -- the read that reports it
  have hservice : answered.glob.main.serviceCreated = true := by
    rw [hglob']
    refine (handled _ _ _).service.trans ?_
    show polled.glob.main.serviceCreated = true
    rw [hglob]
    exact hpolling.serving.service
  have hdone : step answered (.calm .gattRead) =
      some ((answered.at (.calm .gattRead)).perform .gattRead) :=
    if_pos hservice
  have hwaiting : waiting polled.glob.fsm.btState = true := by
    rw [hglob]
    exact hpolling.state ▸ (awaits_spec hq b.glob).2.2
  have hreport := step_reports hwaiting rfl hanswered rfl hdone
  have hrc : polled.glob.main.epReturnMessage 6 = returnMsgNotReady := by
    rw [hglob]
    exact hpolling.rc
  rw [hrc] at hreport
  refine ⟨b, polled.glob.handler.postResult, polled.serial.packet, hpolling.reachable, hmatch,
    hcode, ?_⟩
  refine .intro 0 [mob1AppTypeId, 1, cmd.code, cmd.asking] q _ (.calm .timerExpiry)
    (.calm .gattRead) (.calm .gattRead ::
      (cmd.replyBytes code).map fun dataByte => .calm (.byteReceived dataByte)) asked polled
    answered _ rfl (Cid.ofByte?_code cmd) hq hpolling.asks ?_ ?_ rfl hmatch hcode rfl hanswered
    rfl hdone hreport
  · intro e he
    rcases List.mem_cons.mp he with rfl | he
    · trivial
    · obtain ⟨dataByte, _, rfl⟩ := List.mem_map.mp he
      trivial
  · simp only [Machine.run, hpolling.polls, Option.bind_some]
    exact hrun

/-- The promise of a reply with `code`: in every exchange from every reachable state it is
reported, and the report does not depend on how often the phone has polled. -/
def Cid.Faithful (cmd : Cid) (code : Byte) : Prop :=
  ∀ b post rc, Reachable b → Exchange cmd code b post rc →
    cmd.Reported post code rc ∧ ∀ rc', Exchange cmd code b post rc' → rc' = rc

theorem unfaithful {cmd : Cid} (h : ¬ cmd.knows code) : ¬ cmd.Faithful code := by
  intro hfaithful
  obtain ⟨q, hq⟩ := awaits_asking h
  obtain ⟨b, post, ccuMsg, hreach, hmatch, rfl, hexchange⟩ := exists_exchange hq code
  have hverdict := (verdict_eq hq post hmatch returnMsgNotReady).2 h rfl
  exact (hfaithful b post _ hreach hexchange).1.1 hverdict

/-- A login answered with a code between the known ones is never reported after a poll. -/
theorem unknownVerdict_unreported : ¬ Cid.login.Faithful 5 :=
  unfaithful (by simp [Cid.knows])

/-- A command's replies are reported faithfully for exactly the codes its handler knows. -/
theorem faithful_iff_knows (cmd : Cid) (code : Byte) : cmd.Faithful code ↔ cmd.knows code := by
  constructor
  · intro h
    exact Classical.byContradiction fun hnot => unfaithful hnot h
  · intro h b post rc _ hexchange
    have hreport : ∀ rc, Exchange cmd code b post rc →
        rc = cmd.report post code ∧ ∃ t q, cmd.awaits t = some q := by
      intro rc hexchange
      obtain ⟨t, q, ccuMsg, rc₀, hq, hmatch, rfl, rfl⟩ := hexchange.verdict
      exact ⟨(verdict_eq hq post hmatch rc₀).1 h, t, q, hq⟩
    obtain ⟨hrc, t, q, hq⟩ := hreport rc hexchange
    refine ⟨?_, fun rc' hexchange' => (hreport rc' hexchange').1.trans hrc.symm⟩
    rw [hrc]
    exact reported_of_knows cmd post code h hq

end EspBridges.Ccu
