import EspBridges.Ccu.WaitingLaws

namespace EspBridges.Ccu

open Bytes

/-- The header the phone expects for command byte `bleCmdId`. -/
def headerFor (advSerNo : Buf 5) (bleCmdId : Byte) : List Byte :=
  [ccuTypeId, advSerNo 0, advSerNo 1, advSerNo 2, advSerNo 3, bleCmdId]

structure KeepsHeader (g g' : Globals) : Prop where
  header : replyHeader g'.main.epReturnMessage = replyHeader g.main.epReturnMessage
  advSerNo : g'.main.advSerNo = g.main.advSerNo

theorem identify_header (iMsg : View) (g : Globals) :
    replyHeader (identify iMsg g).2.main.epReturnMessage =
        headerFor g.main.advSerNo (iMsg.byte 2) ∧
      (identify iMsg g).2.main.advSerNo = g.main.advSerNo := by
  unfold identify
  dsimp only
  split <;> split <;> first | exact ⟨rfl, rfl⟩ | (split <;> exact ⟨rfl, rfl⟩)

theorem gattsWriteEvt_header (frame : Nat) (value : List Byte) (g : Globals) :
    replyHeader (gattsWriteEvt false frame value g).main.epReturnMessage =
        headerFor g.main.advSerNo (value.getD 2 0) ∧
      (gattsWriteEvt false frame value g).main.advSerNo = g.main.advSerNo := by
  have hkeep := dispatch_untouched (Cid.ofByte? (value.getD 2 0))
    (messageOf value g.env.wild) (bleCommandView value g.env.wild) (received frame value g)
  have hmain := (pointed_keeps frame (delivered frame value g)).2.2.1
  have hid := identify_header (messageOf value g.env.wild) (pointed frame (delivered frame value g))
  rw [hmain, messageOf_byte _ _ (by omega)] at hid
  rw [gattsWriteEvt_eq]
  exact ⟨hkeep.header.trans hid.1, hkeep.advSerNo.trans hid.2⟩

theorem wifiNameSend_keepsHeader (g : Globals) : KeepsHeader g (wifiNameSend g) := by
  unfold wifiNameSend
  dsimp only
  split <;> exact ⟨rfl, rfl⟩

/-- The scanned names go to the bytes behind the return code. -/
theorem gattsReadEvt_keepsHeader (g : Globals) (h : g.main.epReturnMessage 0 = ccuTypeId) :
    KeepsHeader g (gattsReadEvt g) := by
  by_cases hw : waiting g.fsm.btState = true
  · unfold gattsReadEvt
    rw [check_waiting hw]
    exact ⟨rfl, rfl⟩
  · have hfst := check_fst g
    rw [if_neg hw] at hfst
    unfold gattsReadEvt
    dsimp only
    rw [hfst]
    unfold akbiCheckFsmStateAndRespond
    cases g.fsm.btState with
    | wifiNameSendInProgress => exact wifiNameSend_keepsHeader g
    | ccuReady =>
      refine ⟨?_, rfl⟩
      unfold replyHeader
      rw [h]
      rfl
    | _ => exact ⟨rfl, rfl⟩

theorem loginStatusMsg_keepsHeader (code : Byte) (g : Globals) :
    KeepsHeader g (loginStatusMsg code g) := by
  unfold loginStatusMsg
  dsimp only
  split
  · split <;> exact ⟨rfl, rfl⟩
  · split
    · exact ⟨rfl, rfl⟩
    · split <;> exact ⟨rfl, rfl⟩

theorem scanWifiResultMsg_keepsHeader (ccuMsg : Buf 500) (g : Globals) :
    KeepsHeader g (scanWifiResultMsg ccuMsg g).1 := by
  unfold scanWifiResultMsg
  by_cases h : ccuMsg 3 = 1
  · simp only [if_pos h]
    exact ⟨rfl, rfl⟩
  · simp only [if_neg h]
    exact ⟨rfl, rfl⟩

theorem handled_keepsHeader (ccuMsg : Buf 500) (length : Nat) (g : Globals) :
    KeepsHeader g (akbiProcessRxSerialData ccuMsg length g).1 := by
  have houtcome := packet_outcome ccuMsg length g
  generalize (akbiProcessRxSerialData ccuMsg length g).1 = g' at houtcome
  cases houtcome with
  | ready => exact ⟨rfl, rfl⟩
  | scanEnd => exact ⟨rfl, rfl⟩
  | scanned => exact scanWifiResultMsg_keepsHeader _ _
  | login => exact loginStatusMsg_keepsHeader _ _
  | reported => exact ⟨rfl, rfl⟩

structure Headed (serial : Buf 5) (bleCmdId : Byte) (g : Globals) : Prop where
  service : g.main.serviceCreated = true
  advSerNo : g.main.advSerNo = serial
  header : replyHeader g.main.epReturnMessage = headerFor serial bleCmdId

theorem Headed.keep (h : Headed serial bleCmdId g) (hkeep : KeepsHeader g g')
    (hservice : g'.main.serviceCreated = g.main.serviceCreated) : Headed serial bleCmdId g' :=
  ⟨hservice.trans h.service, hkeep.advSerNo.trans h.advSerNo, hkeep.header.trans h.header⟩

theorem Headed.head (h : Headed serial bleCmdId g) : g.main.epReturnMessage 0 = ccuTypeId :=
  (List.cons.inj h.header).1

theorem step_headed {b b' : Bridge} {e : Event} (h : Headed serial bleCmdId b.glob)
    (hs : step b e = some b') (hw : e.action.isWrite = false) : Headed serial bleCmdId b'.glob := by
  obtain ⟨henabled, rfl⟩ := step_eq_some hs
  have hat : Headed serial bleCmdId (b.at e).glob := ⟨h.service, h.advSerNo, h.header⟩
  cases hact : e.action with
  | regEvt =>
    rw [hact] at henabled
    simp [Action.enabled, h.service] at henabled
  | gattRead =>
    exact hat.keep (gattsReadEvt_keepsHeader _ hat.head) (gattsReadEvt_polled _).alive.service
  | gattWrite isPrep frame value =>
    cases isPrep with
    | true => exact hat
    | false =>
      rw [hact] at hw
      cases hw
  | timerExpiry =>
    have hlogged : Headed serial bleCmdId (b.logged e) := ⟨h.service, h.advSerNo, h.header⟩
    rw [timerExpiry_eq]
    exact hlogged.keep (handled_keepsHeader _ _ _) (handled _ _ _).service
  | advDataSet | updateConnParams | gattDisconnect | byteReceived =>
    exact ⟨h.service, h.advSerNo, h.header⟩

theorem run_headed {b b' : Bridge} {es : List Event} (h : Headed serial bleCmdId b.glob)
    (hr : Machine.run step b es = some b') (hes : ∀ e ∈ es, e.action.isWrite = false) :
    Headed serial bleCmdId b'.glob := by
  induction es generalizing b with
  | nil =>
    cases hr
    exact h
  | cons e es ih =>
    simp only [Machine.run, Option.bind_eq_some_iff] at hr
    obtain ⟨mid, hstep, hrest⟩ := hr
    have hmid := step_headed h hstep (hes e (.head _))
    exact ih hmid hrest fun e' he' => hes e' (.tail _ he')

/-- From a write on, whatever the phone reads before its next one carries the bridge's type,
its serial number and the command byte of that write. -/
theorem reads_carry_header {b written polled done : Bridge} {write read : Event}
    {es : List Event} (hwrite : write.action = .gattWrite false frame value)
    (hwritten : step b write = some written) (hpolled : Machine.run step written es = some polled)
    (hes : ∀ e ∈ es, e.action.isWrite = false) (hread : read.action = .gattRead)
    (hdone : step polled read = some done) :
    replyHeader done.glob.main.epReturnMessage =
        headerFor done.glob.main.advSerNo (value.getD 2 0) ∧
      done.glob.main.advSerNo = b.glob.main.advSerNo := by
  obtain ⟨henabled, rfl⟩ := step_eq_some hwritten
  rw [hwrite] at henabled hpolled
  have hservice : b.glob.main.serviceCreated = true := henabled
  obtain ⟨hheader, hserial⟩ := gattsWriteEvt_header frame value (b.at write).glob
  have hafter : Headed b.glob.main.advSerNo (value.getD 2 0)
      (gattsWriteEvt false frame value (b.at write).glob) :=
    ⟨((received_spec frame value (b.at write).glob).alive.trans
      (gattsWriteEvt_effect frame value _).alive).service.trans hservice, hserial, hheader⟩
  have hfinal : Headed b.glob.main.advSerNo (value.getD 2 0) done.glob :=
    step_headed (run_headed hafter hpolled hes) hdone (by rw [hread]; rfl)
  exact ⟨by rw [hfinal.header, hfinal.advSerNo], hfinal.advSerNo⟩

def numbered : List Event :=
  burst [0x13, 44, 0, 1, 1, 0x31, 2, 4, 0x43, 0x43, 0x55, 0x39, 3, 0] ++
    [.calm .regEvt, .calm .regEvt]

/-- The phone is a stranger with an unknown command. -/
theorem numbered_header : ∃ b done, Machine.run step .boot numbered = some b ∧
    Machine.run step b (.calm (.gattWrite false 0 [0x42, 9, 0xEE]) ::
      (burst [0x71, 44, 0, 1, 1, 0] ++ [.calm .gattRead])) = some done ∧
    replyHeader done.glob.main.epReturnMessage = headerFor done.glob.main.advSerNo 0xEE ∧
    done.glob.main.advSerNo = b.glob.main.advSerNo := by
  have hsome : (Machine.run step .boot (numbered ++ .calm (.gattWrite false 0 [0x42, 9, 0xEE]) ::
      (burst [0x71, 44, 0, 1, 1, 0] ++ [.calm .gattRead]))).isSome = true := by
    decide +kernel
  obtain ⟨done, hrun⟩ := Option.isSome_iff_exists.mp hsome
  rw [Machine.run_append] at hrun
  obtain ⟨b, hb, hafter⟩ := Option.bind_eq_some_iff.mp hrun
  obtain ⟨written, hwritten, hpolls⟩ := Option.bind_eq_some_iff.mp hafter
  rw [Machine.run_append] at hpolls
  obtain ⟨polled, hpolled, hread⟩ := Option.bind_eq_some_iff.mp hpolls
  obtain ⟨done', hdone, hlast⟩ := Option.bind_eq_some_iff.mp hread
  obtain rfl := Option.some.inj hlast
  have hquiet : ∀ e ∈ burst [0x71, 44, 0, 1, 1, 0], e.action.isWrite = false := by
    simp [burst, Event.calm, Action.isWrite]
  have hwrite : (Event.calm (.gattWrite false 0 [0x42, 9, 0xEE])).action =
      .gattWrite false 0 [0x42, 9, 0xEE] := rfl
  exact ⟨b, _, hb, hafter, reads_carry_header hwrite hwritten hpolled hquiet rfl hdone⟩

end EspBridges.Ccu
