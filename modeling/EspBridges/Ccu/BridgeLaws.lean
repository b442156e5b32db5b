import EspBridges.Ccu.CommandLaws
import EspBridges.Ccu.Gatts
import EspBridges.Ccu.PacketLaws
import EspBridges.Ccu.SerialLaws

namespace EspBridges.Ccu

open Bytes

theorem rxPktBuffer_rd (value : List Byte) (beyond : Nat → Byte) (h : i < 30) :
    (rxPktBuffer value).rd beyond i = value.getD i 0 := by
  unfold rxPktBuffer
  rw [Buf.rd_memcpy]
  by_cases hin : i < value.length
  · rw [if_pos ⟨Nat.zero_le i, by omega, h⟩, Nat.sub_zero]
  · rw [if_neg (by omega), Buf.rd_of_lt _ _ h, List.getD_eq_getElem?_getD,
      List.getElem?_eq_none (by omega)]
    rfl

def messageOf (value : List Byte) (w : Wild Obj) : View := (rxPktBuffer value).view w .rxPktBuffer

def bleCommandView (value : List Byte) (w : Wild Obj) : View :=
  (bleCommandOf (messageOf value w)).view w .bleCommand

def delivered (frame : Nat) (value : List Byte) (g : Globals) : Globals :=
  { g with
    main.epReturnMessage := Buf.zero
    env.mem := fun a => if a = frame then rxPktBuffer value else g.env.mem a
    env.oob := g.env.oob || !decide (value.length ≤ 30) }

def pointed (frame : Nat) (g : Globals) : Globals :=
  if g.ble.flagSetRecvdMsgPtr then g else setRecvdMsgPointer frame g

def received (frame : Nat) (value : List Byte) (g : Globals) : Globals :=
  (identify (messageOf value g.env.wild) (pointed frame (delivered frame value g))).2

theorem messageOf_byte (value : List Byte) (w : Wild Obj) (h : i < 30) :
    (messageOf value w).byte i = value.getD i 0 :=
  rxPktBuffer_rd value _ h

theorem bleCommandView_byte (value : List Byte) (w : Wild Obj) (h : i < 17) :
    (bleCommandView value w).byte i = value.getD (3 + i) 0 := by
  show (bleCommandOf (messageOf value w)).rd _ i = _
  unfold bleCommandOf
  rw [Buf.rd_memcpy, if_pos ⟨Nat.zero_le i, by simpa using h, h⟩]
  exact messageOf_byte value w (by omega)

/-- The flag that decides whether a message is handled is set again on every path. -/
theorem identify_fst (iMsg : View) (g : Globals) : (identify iMsg g).1 = true := by
  unfold identify
  dsimp only
  split <;> split <;> first | rfl | (split <;> rfl)

def pairing (iMsg : View) (p : Mob1) : Mob1 :=
  if Cid.code .register = iMsg.byte 2 ∧ p.dataStatus &&& flagDataSetMob1Id = 0 then
    { p with id := iMsg.byte 1, dataStatus := p.dataStatus ||| flagDataSetMob1Id }
  else p

theorem pairing_keeps (iMsg : View) (p : Mob1) :
    (pairing iMsg p).mobileNumber = p.mobileNumber ∧
      (pairing iMsg p).authenticationStatus = p.authenticationStatus := by
  unfold pairing
  split <;> exact ⟨rfl, rfl⟩

section Identify

variable (iMsg : View) (g : Globals)

theorem identify_env : (identify iMsg g).2.env = g.env := by
  unfold identify
  dsimp only
  split <;> split <;> first | rfl | (split <;> rfl)

theorem identify_fsm : (identify iMsg g).2.fsm = g.fsm := by
  unfold identify
  dsimp only
  split <;> split <;> first | rfl | (split <;> rfl)

theorem identify_ble : (identify iMsg g).2.ble =
    { g.ble with thisCcu.pairedMob1 := pairing iMsg g.ble.thisCcu.pairedMob1 } := by
  unfold identify pairing
  simp only [Globals.setRet]
  split <;> split <;> first | rfl | (split <;> rfl)

theorem identify_alive : Alive g (identify iMsg g).2 := by
  unfold identify
  dsimp only
  split <;> split <;> first | exact ⟨rfl, rfl, rfl⟩ | (split <;> exact ⟨rfl, rfl, rfl⟩)

theorem identify_rc : (identify iMsg g).2.main.epReturnMessage 6 =
    if iMsg.byte 0 = mob1AppTypeId then g.main.epReturnMessage 6
    else errorSourceAppTypeMismatch := by
  unfold identify
  dsimp only
  split <;> split <;> first | rfl | (split <;> rfl)

end Identify

theorem pointed_keeps (frame : Nat) (g : Globals) :
    (pointed frame g).fsm = g.fsm ∧ (pointed frame g).env = g.env ∧
      (pointed frame g).main = g.main ∧ (pointed frame g).handler = g.handler ∧
      (pointed frame g).ble =
        { g.ble with
          pRecvdMsgFull := if g.ble.flagSetRecvdMsgPtr then g.ble.pRecvdMsgFull else frame
          flagSetRecvdMsgPtr := true } := by
  unfold pointed
  by_cases h : g.ble.flagSetRecvdMsgPtr = true
  · rw [if_pos h, if_pos h, ← h]
    exact ⟨rfl, rfl, rfl, rfl, rfl⟩
  · rw [if_neg h, if_neg h]
    exact ⟨rfl, rfl, rfl, rfl, rfl⟩

structure Received (frame : Nat) (value : List Byte) (g g₁ : Globals) : Prop where
  fsm : g₁.fsm = g.fsm
  io : g₁.env.io = g.env.io
  mem : g₁.env.mem = fun a => if a = frame then rxPktBuffer value else g.env.mem a
  wild : g₁.env.wild = g.env.wild
  rc : g₁.main.epReturnMessage 6 =
    if value.getD 0 0 = mob1AppTypeId then success else errorSourceAppTypeMismatch
  alive : Alive g g₁
  ble : g₁.ble =
    { g.ble with
      thisCcu.pairedMob1 := pairing (messageOf value g.env.wild) g.ble.thisCcu.pairedMob1
      pRecvdMsgFull := if g.ble.flagSetRecvdMsgPtr then g.ble.pRecvdMsgFull else frame
      flagSetRecvdMsgPtr := true }

theorem received_spec (frame : Nat) (value : List Byte) (g : Globals) :
    Received frame value g (received frame value g) := by
  obtain ⟨hfsm, henv, hmain, hhandler, hble⟩ := pointed_keeps frame (delivered frame value g)
  have halive := identify_alive (messageOf value g.env.wild) (pointed frame (delivered frame value g))
  unfold received
  refine ⟨?_, ?_, ?_, ?_, ?_, ?_, ?_⟩
  · rw [identify_fsm, hfsm]
    rfl
  · rw [identify_env, henv]
    rfl
  · rw [identify_env, henv]
    rfl
  · rw [identify_env, henv]
    rfl
  · rw [identify_rc, hmain, messageOf_byte _ _ (by omega)]
    rfl
  · refine ⟨halive.aborting.trans ?_, halive.service.trans ?_, halive.handler.trans hhandler⟩
    · rw [henv]
      rfl
    · rw [hmain]
      rfl
  · rw [identify_ble, hble]
    rfl

theorem readBleMessage_eq (frame : Nat) (value : List Byte) (g : Globals)
    (hmem : g.env.mem frame = rxPktBuffer value) :
    readBleMessage frame g =
      dispatch (Cid.ofByte? (value.getD 2 0)) (messageOf value g.env.wild)
        (bleCommandView value g.env.wild)
        (identify (messageOf value g.env.wild) (pointed frame g)).2 := by
  have henv : (pointed frame g).env = g.env := by
    unfold pointed
    split <;> rfl
  have hmsg : ((pointed frame g).env.mem frame).view (pointed frame g).env.wild .rxPktBuffer =
      messageOf value g.env.wild := by
    rw [henv, hmem]
    rfl
  have hid : identify (messageOf value g.env.wild) (pointed frame g) =
      (true, (identify (messageOf value g.env.wild) (pointed frame g)).2) :=
    Prod.ext (identify_fst _ _) rfl
  unfold readBleMessage
  rw [← pointed]
  dsimp only
  rw [hmsg, hid]
  dsimp only
  rw [if_pos rfl, identify_env, henv, messageOf_byte _ _ (by omega)]
  rfl

theorem gattsWriteEvt_eq (frame : Nat) (value : List Byte) (g : Globals) :
    gattsWriteEvt false frame value g =
      dispatch (Cid.ofByte? (value.getD 2 0)) (messageOf value g.env.wild)
        (bleCommandView value g.env.wild) (received frame value g) :=
  readBleMessage_eq frame value (delivered frame value g) (if_pos rfl)

theorem gattsWriteEvt_effect (frame : Nat) (value : List Byte) (g : Globals) :
    Effect (Cid.ofByte? (value.getD 2 0)) (value.getD 3 0) (received frame value g)
      (gattsWriteEvt false frame value g) := by
  have htype := bleCommandView_byte value g.env.wild (i := 0) (by omega)
  have h := dispatch_effect (Cid.ofByte? (value.getD 2 0)) (messageOf value g.env.wild)
    (bleCommandView value g.env.wild) (received frame value g)
    (by rw [htype, messageOf_byte _ _ (by omega)])
  rw [htype] at h
  rw [gattsWriteEvt_eq]
  exact h

structure Polled (g g' : Globals) : Prop where
  state : g'.fsm.btState =
    if g.fsm.btState = .wifiScanComplete then .wifiNameSendInProgress else g.fsm.btState
  io : g'.env.io = g.env.io
  ble : g'.ble =
    if g.fsm.btState = .loginStatus then
      { g.ble with thisCcu.pairedMob1.authenticationStatus := .authenticated }
    else g.ble
  alive : Alive g g'

theorem wifiNameSend_keeps (g : Globals) :
    (wifiNameSend g).fsm.btState = g.fsm.btState ∧ (wifiNameSend g).ble = g.ble ∧
      (wifiNameSend g).env.io = g.env.io ∧ Alive g (wifiNameSend g) ∧
      (wifiNameSend g).main.epReturnMessage 6 = g.main.epReturnMessage 6 := by
  unfold wifiNameSend
  dsimp only
  split <;> exact ⟨rfl, rfl, rfl, ⟨rfl, rfl, rfl⟩, rfl⟩

theorem check_polled (g : Globals) : Polled g (akbiCheckFsmStateAndRespond g).2 := by
  unfold akbiCheckFsmStateAndRespond
  cases hq : g.fsm.btState with
  | ccuReady =>
    refine ⟨?_, rfl, ?_, ⟨rfl, rfl, rfl⟩⟩
    · rw [hq, if_neg (by decide)]
      exact hq
    · rw [hq]
      rfl
  | wifiNameSendInProgress =>
    obtain ⟨hstate, hble, hio, halive, _⟩ := wifiNameSend_keeps g
    refine ⟨?_, hio, ?_, halive⟩
    · rw [hq]
      exact hstate.trans hq
    · rw [hq]
      exact hble
  | _ => exact ⟨by rw [hq]; rfl, rfl, by rw [hq]; rfl, ⟨rfl, rfl, rfl⟩⟩

theorem check_rc (g : Globals) :
    (akbiCheckFsmStateAndRespond g).2.main.epReturnMessage 6 = g.main.epReturnMessage 6 := by
  unfold akbiCheckFsmStateAndRespond
  cases g.fsm.btState with
  | wifiNameSendInProgress => exact (wifiNameSend_keeps g).2.2.2.2
  | _ => rfl

theorem gattsReadEvt_polled (g : Globals) : Polled g (gattsReadEvt g) := by
  have h := check_polled g
  unfold gattsReadEvt
  dsimp only
  split
  · exact ⟨h.state, h.io, h.ble, ⟨h.alive.aborting, h.alive.service, h.alive.handler⟩⟩
  · exact h

theorem gattsReadEvt_rc (g : Globals) : (gattsReadEvt g).main.epReturnMessage 6 =
    if waiting g.fsm.btState then returnMsgNotReady else g.main.epReturnMessage 6 := by
  by_cases hw : waiting g.fsm.btState = true
  · rw [if_pos hw]
    unfold gattsReadEvt
    rw [check_waiting hw]
    rfl
  · have hfst := check_fst g
    rw [if_neg hw] at hfst
    rw [if_neg hw]
    unfold gattsReadEvt
    dsimp only
    rw [hfst]
    exact check_rc g

theorem step_eq_some {b b' : Bridge} {e : Event} (h : step b e = some b') :
    e.action.enabled b = true ∧ b' = (b.at e).perform e.action := by
  simp only [step, Option.ite_none_right_eq_some, Option.some.injEq] at h
  exact ⟨h.1, h.2.symm⟩

def Event.calm (a : Action) : Event := ⟨a, fun _ => Buf.zero, Wild.zero⟩

def burst (packet : List Byte) : List Event :=
  packet.map (fun dataByte => .calm (.byteReceived dataByte)) ++ [.calm .timerExpiry]

def Bridge.logged (b : Bridge) (e : Event) : Globals :=
  { (b.at e).glob with
    env.io := b.glob.env.io ++ [.rx b.serial.packet b.serial.serialDataBytes] }

theorem timerExpiry_eq (b : Bridge) (e : Event) :
    ((b.at e).perform .timerExpiry).glob =
      (akbiProcessRxSerialData b.serial.packet b.serial.serialDataBytes (b.logged e)).1 := rfl

theorem timerExpiry_glob (b : Bridge) (e : Event) :
    ((b.at e).perform .timerExpiry).glob.fsm.btState =
        (packetState b.serial.packet).getD b.glob.fsm.btState ∧
      ((b.at e).perform .timerExpiry).glob.ble = b.glob.ble ∧
      ((b.at e).perform .timerExpiry).glob.env.io =
        b.glob.env.io ++ [.rx b.serial.packet b.serial.serialDataBytes] := by
  have h := handled b.serial.packet b.serial.serialDataBytes (b.logged e)
  exact ⟨h.state, h.ble, h.io⟩

/-- The pass of the registration event either polls, or sets the service up. -/
theorem gattsRegEvt_eq (g : Globals) :
    (g.main.epReturnMessage 0 = 0 ∧ Polled g (gattsRegEvt g)) ∨
      (g.main.epReturnMessage 0 ≠ 0 ∧ (gattsRegEvt g).fsm = g.fsm ∧ (gattsRegEvt g).ble = g.ble ∧
        (gattsRegEvt g).env = g.env) := by
  unfold gattsRegEvt
  by_cases h : g.main.epReturnMessage 0 = 0
  · rw [if_pos h]
    exact .inl ⟨h, check_polled g⟩
  · rw [if_neg h]
    exact .inr ⟨h, rfl, rfl, rfl⟩

/-- What one event adds to the traffic: the frame of a command, a notice to the CCU of what the
phone does, the packet of an expiry, or nothing. -/
inductive Traffic (g : Globals) (a : Action) : List Io → Prop
  | quiet : Traffic g a []
  | packet (ccuMsg : Buf 500) (length : Nat) : Traffic g a [.rx ccuMsg length]
  | notice {opcode : Byte} {frame : List Byte}
      (hopcode : opcode ∈ [btCpOpcodeAdvStartedMsg, btCpOpcodeMobConnectedMsg,
        btCpOpcodeMobDisconnectedMsg]) (head : frame.head? = some opcode) : Traffic g a [.tx frame]
  | request {addr : Nat} {value frame : List Byte} {cmd : Cid}
      (write : a = .gattWrite false addr value) (hcmd : Cid.ofByte? (value.getD 2 0) = some cmd)
      (sends : requests (received addr value g) (value.getD 3 0) (some cmd) = true)
      (head : frame.head? = some cmd.requestOpcode) : Traffic g a [.tx frame]

theorem gattsWriteEvt_traffic (addr : Nat) (value : List Byte) (g : Globals) :
    ∃ more, (gattsWriteEvt false addr value g).env.io = g.env.io ++ more ∧
      Traffic g (.gattWrite false addr value) more := by
  obtain ⟨frame, head, hio⟩ := (gattsWriteEvt_effect addr value g).sent
  rw [(received_spec addr value g).io] at hio
  refine ⟨_, hio, ?_⟩
  cases hcmd : Cid.ofByte? (value.getD 2 0) with
  | none => exact .quiet
  | some cmd =>
    rw [hcmd] at head
    cases hsends : requests (received addr value g) (value.getD 3 0) (some cmd) with
    | false => exact .quiet
    | true => exact .request rfl hcmd hsends head

theorem step_traffic {b b' : Bridge} {e : Event} (hs : step b e = some b') :
    ∃ more, b'.glob.env.io = b.glob.env.io ++ more ∧ Traffic (b.at e).glob e.action more := by
  obtain ⟨_, rfl⟩ := step_eq_some hs
  have quiet : ∀ {g : Globals}, g.env.io = b.glob.env.io →
      ∃ more, g.env.io = b.glob.env.io ++ more ∧ Traffic (b.at e).glob e.action more :=
    fun h => ⟨[], h.trans (List.append_nil _).symm, .quiet⟩
  have notice : ∀ {opcode : Byte}, opcode ∈ [btCpOpcodeAdvStartedMsg, btCpOpcodeMobConnectedMsg,
        btCpOpcodeMobDisconnectedMsg] →
      ∃ more, ((b.at e).glob.transmit (headerOnlyMsg 20 opcode)).env.io = b.glob.env.io ++ more ∧
        Traffic (b.at e).glob e.action more :=
    fun h => ⟨_, rfl, .notice h ((opens_headerOnly 19 _).head _)⟩
  cases hact : e.action with
  | regEvt =>
    rw [hact] at quiet
    rcases gattsRegEvt_eq (b.at e).glob with ⟨_, hpoll⟩ | ⟨_, _, _, henv⟩
    · exact quiet hpoll.io
    · have hio : (gattsRegEvt (b.at e).glob).env.io = b.glob.env.io := by
        rw [henv]
        rfl
      exact quiet hio
  | gattRead =>
    rw [hact] at quiet
    exact quiet (gattsReadEvt_polled (b.at e).glob).io
  | advDataSet | updateConnParams | gattDisconnect =>
    rw [hact] at notice
    exact notice (by decide)
  | byteReceived dataByte =>
    rw [hact] at quiet
    exact quiet rfl
  | timerExpiry => exact ⟨_, (timerExpiry_glob b e).2.2, .packet _ _⟩
  | gattWrite isPrep addr value =>
    rw [hact] at quiet
    cases isPrep with
    | true => exact quiet rfl
    | false => exact gattsWriteEvt_traffic addr value (b.at e).glob

structure Serving (b : Bridge) : Prop where
  reachable : Reachable b
  service : b.glob.main.serviceCreated = true
  running : b.glob.env.aborting = false

def startUp : List Event :=
  burst [0x13, 44, 0, 1, 0, 2, 0, 3, 0] ++ [.calm .regEvt, .calm .regEvt]

theorem exists_serving : ∃ b, Serving b ∧ b.serial.Agrees [] := by
  have hrun : (Machine.run step .boot startUp).map (fun b =>
        (b.glob.main.serviceCreated, b.glob.env.aborting, b.serial.oneshotTimer,
          b.serial.serialTimerState, b.serial.serialDataBytes, b.serial.oob)) =
      some (true, false, ⟨false, false⟩, -1, 0, false) := by
    decide +kernel
  obtain ⟨b, hb, hfields⟩ := Option.map_eq_some_iff.mp hrun
  simp only [Prod.mk.injEq] at hfields
  obtain ⟨hservice, haborting, htimer, hstate, hbytes, hoob⟩ := hfields
  refine ⟨b, ⟨Machine.reachable_of_run .refl hb, hservice, haborting⟩, ?_⟩
  exact
    { calls_ok := by rw [htimer]
      armed_iff := by simp [htimer, hstate]
      timing_iff := by simp [hstate, hbytes]
      count := hbytes
      held := fun i h => absurd h (Nat.not_lt_zero i)
      in_bounds := hoob }

theorem Serving.gatt {b : Bridge} (h : Serving b) {a : Action} {g' : Globals}
    (henabled : a.enabled b = b.glob.main.serviceCreated)
    (hperform : (b.at (.calm a)).perform a = { b with glob := g' })
    (halive : Alive (b.at (.calm a)).glob g') :
    step b (.calm a) = some { b with glob := g' } ∧ Serving { b with glob := g' } := by
  have hstep : step b (.calm a) = some { b with glob := g' } := by
    rw [step]
    show (if a.enabled b = true then some ((b.at (.calm a)).perform a) else none) = _
    rw [henabled, if_pos h.service, hperform]
  refine ⟨hstep, h.reachable.step hstep, ?_, ?_⟩
  · exact halive.service.trans h.service
  · exact halive.aborting.trans h.running

end EspBridges.Ccu
