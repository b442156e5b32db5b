import EspBridges.Ccu.RequestLaws
import EspBridges.Ccu.WaitingLaws

namespace EspBridges.Ccu

open Bytes

def nameField (ret : Buf 20) : List Byte :=
  [ret 8, ret 9, ret 10, ret 11, ret 12, ret 13, ret 14, ret 15, ret 16, ret 17, ret 18, ret 19]

/-- How a row is shown: a name the field has no room for loses its end. -/
def shownName (ssid : View) (length : Nat) : List Byte :=
  if length > 12 then ssid.bytes 10 ++ [0x7E, 49] else ssid.bytes 12

theorem wifiNameSend_nameField (g : Globals) :
    nameField (wifiNameSend g).main.epReturnMessage =
      shownName (wifiReportRow g g.fsm.ssidIndex) (wifiReportLengthAt g g.fsm.ssidIndex) := by
  unfold wifiNameSend shownName
  dsimp only
  split <;> rfl

theorem gattsReadEvt_of_not_waiting {g : Globals} (h : waiting g.fsm.btState = false) :
    gattsReadEvt g = (akbiCheckFsmStateAndRespond g).2 := by
  have hfst := check_fst g
  rw [h] at hfst
  unfold gattsReadEvt
  dsimp only
  rw [hfst]
  rfl

def ReadUpTo (reads : Nat) (fsm : Fsm) : Prop :=
  match reads with
  | 0 => fsm.btState = .wifiScanComplete
  | k + 1 => fsm.btState = .wifiNameSendInProgress ∧ fsm.ssidIndex = k

structure SameTable (fsm fsm' : Fsm) : Prop where
  wifiReport : fsm'.wifiReport = fsm.wifiReport
  wifiReportLength : fsm'.wifiReportLength = fsm.wifiReportLength

theorem SameTable.trans (h : SameTable fsm fsm') (h' : SameTable fsm' fsm'') :
    SameTable fsm fsm'' :=
  ⟨h'.wifiReport.trans h.wifiReport, h'.wifiReportLength.trans h.wifiReportLength⟩

theorem wifiNameSend_table (g : Globals) :
    SameTable g.fsm (wifiNameSend g).fsm ∧
      (wifiNameSend g).fsm.ssidIndex = g.fsm.ssidIndex + 1 := by
  unfold wifiNameSend
  dsimp only
  split <;> exact ⟨⟨rfl, rfl⟩, rfl⟩

/-- The reply to the next read: the first one reports the count that is there already, each
later one a row. -/
def Replies (reads : Nat) (g : Globals) (ret : Buf 20) : Prop :=
  match reads with
  | 0 => ret = g.main.epReturnMessage
  | k + 1 => nameField ret = shownName (wifiReportRow g k) (wifiReportLengthAt g k)

theorem gattsReadEvt_readUpTo {g : Globals} {reads : Nat} (h : ReadUpTo reads g.fsm) :
    ReadUpTo (reads + 1) (gattsReadEvt g).fsm ∧ SameTable g.fsm (gattsReadEvt g).fsm ∧
      Replies reads g (gattsReadEvt g).main.epReturnMessage := by
  cases reads with
  | zero =>
    have hq : g.fsm.btState = .wifiScanComplete := h
    rw [gattsReadEvt_of_not_waiting (by rw [hq]; rfl)]
    unfold akbiCheckFsmStateAndRespond
    rw [hq]
    exact ⟨⟨rfl, rfl⟩, ⟨rfl, rfl⟩, rfl⟩
  | succ k =>
    obtain ⟨hq, rfl⟩ : g.fsm.btState = .wifiNameSendInProgress ∧ g.fsm.ssidIndex = k := h
    have hread : gattsReadEvt g = wifiNameSend g := by
      rw [gattsReadEvt_of_not_waiting (by rw [hq]; rfl)]
      unfold akbiCheckFsmStateAndRespond
      rw [hq]
    obtain ⟨htable, hnext⟩ := wifiNameSend_table g
    rw [hread]
    exact ⟨⟨(wifiNameSend_keeps g).1.trans hq, hnext⟩, htable, wifiNameSend_nameField g⟩

theorem ReadUpTo.isScanState {reads : Nat} {fsm : Fsm} (h : ReadUpTo reads fsm) :
    isScanState fsm.btState = true := by
  cases reads with
  | zero => rw [show fsm.btState = _ from h]; rfl
  | succ k => rw [h.1]; rfl

def asksNames (message : List Byte) : Bool :=
  Cid.ofByte? (message.getD 2 0) = some .scanWifis && message.getD 3 0 = 2

theorem asksNames_fsm {value : List Byte} (h : asksNames value = true) (frame : Nat) {g : Globals}
    (hscan : isScanState g.fsm.btState = true) :
    (gattsWriteEvt false frame value g).fsm = g.fsm := by
  simp only [asksNames, Bool.and_eq_true, decide_eq_true_eq] at h
  have hrec := (received_spec frame value g).fsm
  have htype : (bleCommandView value g.env.wild).byte 0 = 2 :=
    (bleCommandView_byte value g.env.wild (by omega)).trans h.2
  rw [gattsWriteEvt_eq, h.1]
  unfold dispatch executeScanWifis
  dsimp only
  rw [htype]
  show (if isScanState (received frame value g).fsm.btState then _ else _ : Globals).fsm = _
  rw [hrec, if_pos hscan]
  exact hrec

def Action.browses : Action → Bool
  | .gattWrite false _ value => asksNames value
  | .timerExpiry => false
  | _ => true

def Action.isRead : Action → Bool
  | .gattRead => true
  | _ => false

structure Browsing (reads : Nat) (table : Fsm) (g : Globals) : Prop where
  service : g.main.serviceCreated = true
  readUpTo : ReadUpTo reads g.fsm
  table : SameTable table g.fsm

theorem step_browsing {reads : Nat} {table : Fsm} {b b' : Bridge} {e : Event}
    (h : Browsing reads table b.glob) (hs : step b e = some b') (he : e.action.browses = true) :
    Browsing (if e.action.isRead then reads + 1 else reads) table b'.glob := by
  obtain ⟨henabled, rfl⟩ := step_eq_some hs
  have hat : Browsing reads table (b.at e).glob := ⟨h.service, h.readUpTo, h.table⟩
  cases hact : e.action with
  | regEvt =>
    rw [hact] at henabled
    simp [Action.enabled, h.service] at henabled
  | gattRead =>
    obtain ⟨hnext, htable, _⟩ := gattsReadEvt_readUpTo hat.readUpTo
    exact ⟨(gattsReadEvt_polled _).alive.service.trans hat.service, hnext, hat.table.trans htable⟩
  | gattWrite isPrep frame value =>
    cases isPrep with
    | true => exact hat
    | false =>
      rw [hact] at he
      have hfsm : (((b.at e).perform (.gattWrite false frame value)).glob).fsm = (b.at e).glob.fsm :=
        asksNames_fsm he frame hat.readUpTo.isScanState
      refine ⟨?_, by rw [hfsm]; exact hat.readUpTo, by rw [hfsm]; exact hat.table⟩
      exact ((received_spec frame value (b.at e).glob).alive.trans
        (gattsWriteEvt_effect frame value _).alive).service.trans hat.service
  | timerExpiry =>
    rw [hact] at he
    cases he
  | advDataSet | updateConnParams | gattDisconnect | byteReceived =>
    exact ⟨h.service, h.readUpTo, h.table⟩

theorem run_browsing {reads : Nat} {table : Fsm} {b b' : Bridge} {es : List Event}
    (h : Browsing reads table b.glob) (hr : Machine.run step b es = some b')
    (hes : ∀ e ∈ es, e.action.browses = true) :
    Browsing (reads + es.countP fun e => e.action.isRead) table b'.glob := by
  induction es generalizing b reads with
  | nil =>
    cases hr
    exact h
  | cons e es ih =>
    simp only [Machine.run, Option.bind_eq_some_iff] at hr
    obtain ⟨mid, hstep, hrest⟩ := hr
    have hmid := ih (step_browsing h hstep (hes e (.head _))) hrest fun e' he' => hes e' (.tail _ he')
    rw [List.countP_cons]
    by_cases hread : e.action.isRead = true
    · rw [if_pos hread] at hmid ⊢
      rwa [Nat.add_comm (es.countP _), ← Nat.add_assoc]
    · rw [if_neg hread] at hmid ⊢
      exact hmid

def Action.isIdle (a : Action) : Bool := a.browses && !a.isRead && !a.isWrite

theorem step_idle {b b' : Bridge} {e : Event} (hservice : b.glob.main.serviceCreated = true)
    (hs : step b e = some b') (he : e.action.isIdle = true) :
    b'.glob.main = b.glob.main ∧ b'.glob.fsm = b.glob.fsm := by
  obtain ⟨henabled, rfl⟩ := step_eq_some hs
  cases hact : e.action with
  | regEvt =>
    rw [hact] at henabled
    simp [Action.enabled, hservice] at henabled
  | gattWrite isPrep frame value =>
    cases isPrep with
    | true => exact ⟨rfl, rfl⟩
    | false =>
      rw [hact] at he
      simp [Action.isIdle, Action.isWrite] at he
  | gattRead | timerExpiry =>
    rw [hact] at he
    cases he
  | advDataSet | updateConnParams | gattDisconnect | byteReceived => exact ⟨rfl, rfl⟩

theorem run_idle {b b' : Bridge} {es : List Event} (hservice : b.glob.main.serviceCreated = true)
    (hr : Machine.run step b es = some b') (hes : ∀ e ∈ es, e.action.isIdle = true) :
    b'.glob.main = b.glob.main ∧ b'.glob.fsm = b.glob.fsm := by
  induction es generalizing b with
  | nil =>
    cases hr
    exact ⟨rfl, rfl⟩
  | cons e es ih =>
    simp only [Machine.run, Option.bind_eq_some_iff] at hr
    obtain ⟨mid, hstep, hrest⟩ := hr
    obtain ⟨hmain, hfsm⟩ := step_idle hservice hstep (hes e (.head _))
    obtain ⟨hmain', hfsm'⟩ := ih (by rw [hmain]; exact hservice) hrest
      fun e' he' => hes e' (.tail _ he')
    exact ⟨hmain'.trans hmain, hfsm'.trans hfsm⟩

structure Listed (ssids : List (List Byte)) (g : Globals) : Prop where
  row : ∀ k (h : k < ssids.length) beyond i, i < 50 →
    g.fsm.wifiReport.rd beyond (50 * k + i) = ssids[k].getD i 0
  length : ∀ k (h : k < ssids.length) (h' : k < 50),
    g.fsm.wifiReportLength ⟨k, h'⟩ = ssids[k].length
  count : g.handler.wifiScanReport.apCount = ssids.length

def listedName (s : List Byte) : List Byte :=
  if s.length ≤ 12 then s ++ List.replicate (12 - s.length) 0 else s.take 10 ++ [0x7E, 0x31]

theorem shownName_eq {v : View} {s : List Byte} (h : ∀ i, i < 12 → v.byte i = s.getD i 0) :
    shownName v s.length = listedName s := by
  unfold shownName listedName
  by_cases hlong : s.length > 12
  · rw [if_pos hlong, if_neg (by omega)]
    congr 1
    have htake : (s.take 10).length = 10 := by
      rw [List.length_take]
      omega
    refine View.bytes_eq v htake fun i hi => ?_
    rw [h i (by omega), List.getD_eq_getElem?_getD, List.getD_eq_getElem?_getD,
      List.getElem?_take_of_lt (by omega)]
  · rw [if_neg hlong, if_pos (by omega)]
    have hpad : (s ++ List.replicate (12 - s.length) 0).length = 12 := by
      rw [List.length_append, List.length_replicate]
      omega
    refine View.bytes_eq v hpad fun i hi => ?_
    rw [h i (by omega), List.getD_eq_getElem?_getD, List.getD_eq_getElem?_getD]
    by_cases hin : i < s.length
    · rw [List.getElem?_append_left hin]
    · rw [List.getElem?_append_right (by omega), List.getElem?_replicate,
        List.getElem?_eq_none (by omega), if_pos (by omega)]
      rfl

def isScanEnd (ccuMsg : Buf 500) : Prop := rxOpcode ccuMsg = some .scanWifiResult ∧ ccuMsg 3 = 0

theorem scanEnd_handled {ccuMsg : Buf 500} (h : isScanEnd ccuMsg) (length : Nat) (g : Globals) :
    (akbiProcessRxSerialData ccuMsg length g).1 = scanCompleteMsg g := by
  have hop : RxOpcode.ofByte? (ccuMsg 0) = some .scanWifiResult := h.1
  unfold akbiProcessRxSerialData
  dsimp only
  rw [hop]
  dsimp only
  rw [if_pos h.2]

structure Browsed (ssids : List (List Byte)) (scanned completed : Bridge) (es : List Event)
    (b : Bridge) : Prop where
  room : ssids.length ≤ 20
  listed : Listed ssids scanned.glob
  service : scanned.glob.main.serviceCreated = true
  completes : ∃ e : Event, e.action = .timerExpiry ∧ isScanEnd scanned.serial.packet ∧
    step scanned e = some completed
  browses : ∀ e ∈ es, e.action.browses = true
  run : Machine.run step completed es = some b

section Browsed

variable {ssids : List (List Byte)} {scanned completed b b' : Bridge} {es : List Event} {read : Event}

theorem Browsed.after_scan (h : Browsed ssids scanned completed es b) :
    Browsing 0 scanned.glob.fsm completed.glob ∧
      completed.glob.main.epReturnMessage 6 = success ∧
      completed.glob.main.epReturnMessage 8 = UInt8.ofNat ssids.length := by
  obtain ⟨e, he, hend, hstep⟩ := h.completes
  obtain ⟨_, rfl⟩ := step_eq_some hstep
  rw [he, timerExpiry_eq, scanEnd_handled hend]
  have hcount : (scanned.logged e).handler.wifiScanReport.apCount = ssids.length := h.listed.count
  refine ⟨⟨h.service, rfl, ⟨rfl, rfl⟩⟩, rfl, ?_⟩
  rw [← hcount]
  rfl

theorem Browsed.first_read (h : Browsed ssids scanned completed es b)
    (hidle : ∀ e ∈ es, e.action.isIdle = true) (hread : read.action = .gattRead)
    (hs : step b read = some b') : b'.glob.main.epReturnMessage 6 = success ∧
      b'.glob.main.epReturnMessage 8 = UInt8.ofNat ssids.length := by
  obtain ⟨hstart, hrc, hcount⟩ := h.after_scan
  have hmain := (run_idle hstart.service h.run hidle).1
  have hnone : (es.countP fun e => e.action.isRead) = 0 := by
    rw [List.countP_eq_zero]
    intro e he hisRead
    have hnot := hidle e he
    rw [Action.isIdle, hisRead] at hnot
    simp at hnot
  have hbrowsing := run_browsing hstart h.run h.browses
  rw [hnone] at hbrowsing
  obtain ⟨_, rfl⟩ := step_eq_some hs
  have hreply : (gattsReadEvt (b.at read).glob).main.epReturnMessage = b.glob.main.epReturnMessage :=
    (gattsReadEvt_readUpTo (g := (b.at read).glob) hbrowsing.readUpTo).2.2
  rw [hread]
  show (gattsReadEvt (b.at read).glob).main.epReturnMessage 6 = _ ∧
    (gattsReadEvt (b.at read).glob).main.epReturnMessage 8 = _
  rw [hreply, hmain]
  exact ⟨hrc, hcount⟩

theorem Browsed.next_read (h : Browsed ssids scanned completed es b) {k : Nat}
    (hk : k < ssids.length) (hreads : (es.countP fun e => e.action.isRead) = k + 1)
    (hread : read.action = .gattRead) (hs : step b read = some b') :
    nameField b'.glob.main.epReturnMessage = listedName ssids[k] := by
  have hroom := h.room
  have hbrowsing := run_browsing h.after_scan.1 h.run h.browses
  rw [hreads, Nat.zero_add] at hbrowsing
  obtain ⟨_, rfl⟩ := step_eq_some hs
  have hreply : nameField (gattsReadEvt (b.at read).glob).main.epReturnMessage =
      shownName (wifiReportRow (b.at read).glob k) (wifiReportLengthAt (b.at read).glob k) :=
    (gattsReadEvt_readUpTo (g := (b.at read).glob) hbrowsing.readUpTo).2.2
  have hlength : wifiReportLengthAt (b.at read).glob k = ssids[k].length := by
    unfold wifiReportLengthAt
    rw [dif_pos (by omega)]
    show b.glob.fsm.wifiReportLength _ = _
    rw [hbrowsing.table.wifiReportLength, h.listed.length k hk]
  rw [hread]
  show nameField (gattsReadEvt (b.at read).glob).main.epReturnMessage = _
  rw [hreply, hlength]
  refine shownName_eq fun i hi => ?_
  show b.glob.fsm.wifiReport.rd _ (50 * k + i) = _
  rw [hbrowsing.table.wifiReport]
  exact h.listed.row k hk _ i (by omega)

/-- The count, the names in their order, and the network the phone picks agree with the list. -/
theorem listing_agrees (h : Browsed ssids scanned completed es b) :
    (∀ read b', read.action = .gattRead → step b read = some b' →
      ((∀ e ∈ es, e.action.isIdle = true) →
        b'.glob.main.epReturnMessage 6 = success ∧
          b'.glob.main.epReturnMessage 8 = UInt8.ofNat ssids.length) ∧
      ∀ k (hk : k < ssids.length), (es.countP fun e => e.action.isRead) = k + 1 →
        nameField b'.glob.main.epReturnMessage = listedName ssids[k]) ∧
    ∀ k < ssids.length, ∀ frame key m₁ m₂ b', Selection frame k key m₁ m₂ b b' →
      RelaysSelection (UInt8.ofNat (k + 1)) key b b' :=
  ⟨fun _ _ hread hs => ⟨fun hidle => h.first_read hidle hread hs,
      fun _ hk hreads => h.next_read hk hreads hread hs⟩,
    fun _ _ _ _ _ _ _ hselect => hselect.relayed⟩

end Browsed

def twoNames : List (List Byte) :=
  [[0x48, 0x6F, 0x6D, 0x65],
    [0x47, 0x75, 0x65, 0x73, 0x74, 0x20, 0x6E, 0x65, 0x74, 0x77, 0x6F, 0x72, 0x6B, 0x73]]

def twoFound : List Event :=
  startUp ++ [.calm (.gattWrite false 0 [0x4D, 1, Cid.scanWifis.code, 1])] ++
    burst ([RxOpcode.scanWifiResult.code, 44, 0, 1, 4] ++ twoNames[0]) ++ burst ([RxOpcode.scanWifiResult.code, 44, 0, 2, 14] ++ twoNames[1]) ++
    [RxOpcode.scanWifiResult.code, 44, 0, 0, 0, 0].map fun dataByte => .calm (.byteReceived dataByte)

theorem twoFound_listed : ∃ scanned, Machine.run step .boot twoFound = some scanned ∧
    Listed twoNames scanned.glob ∧ scanned.glob.main.serviceCreated = true ∧
    isScanEnd scanned.serial.packet := by
  have hrun : ((Machine.run step .boot twoFound).any fun b =>
      decide ((∀ k (h : k < twoNames.length), ∀ i, i < 50 →
          b.glob.fsm.wifiReport.rd (fun _ => 0) (50 * k + i) = twoNames[k].getD i 0) ∧
        (∀ k (h : k < twoNames.length) (h' : k < 50),
          b.glob.fsm.wifiReportLength ⟨k, h'⟩ = twoNames[k].length) ∧
        b.glob.handler.wifiScanReport.apCount = twoNames.length ∧
        b.glob.main.serviceCreated = true ∧
        (rxOpcode b.serial.packet = some .scanWifiResult ∧ b.serial.packet 3 = 0))) = true := by
    decide +kernel
  obtain ⟨b, hb, hfacts⟩ := (Option.any_eq_true _ _).mp hrun
  obtain ⟨hrow, hlength, hcount, hservice, hend⟩ := of_decide_eq_true hfacts
  refine ⟨b, hb, ⟨fun k h beyond i hi => ?_, hlength, hcount⟩, hservice, hend⟩
  have hroom : 50 * k + i < 2500 := by
    have hk : k < 2 := h
    omega
  rw [← hrow k h i hi, Buf.rd_of_lt _ _ hroom, Buf.rd_of_lt _ _ hroom]

/-- After the count and the first name the second one is read. -/
theorem twoNetworks_read : ∃ scanned completed b b',
    Machine.run step .boot twoFound = some scanned ∧
      Browsed twoNames scanned completed [.calm .gattRead, .calm .gattRead] b ∧
      step b (.calm .gattRead) = some b' ∧
      nameField b'.glob.main.epReturnMessage = listedName twoNames[1] := by
  obtain ⟨scanned, hscanned, hlisted, hservice, hend⟩ := twoFound_listed
  have hsome : (Machine.run step .boot (twoFound ++ (.calm .timerExpiry ::
      ([.calm .gattRead, .calm .gattRead] ++ [.calm .gattRead])))).isSome = true := by
    decide +kernel
  obtain ⟨last, hlast⟩ := Option.isSome_iff_exists.mp hsome
  rw [Machine.run_append, hscanned, Option.bind_some] at hlast
  obtain ⟨completed, hcompleted, hreads⟩ := Option.bind_eq_some_iff.mp hlast
  rw [Machine.run_append] at hreads
  obtain ⟨b, hrun, hread⟩ := Option.bind_eq_some_iff.mp hreads
  obtain ⟨b', hb', -⟩ := Option.bind_eq_some_iff.mp hread
  have h : Browsed twoNames scanned completed [.calm .gattRead, .calm .gattRead] b :=
    { room := by decide
      listed := hlisted
      service := hservice
      completes := ⟨.calm .timerExpiry, rfl, hend, hcompleted⟩
      browses := by simp [Event.calm, Action.browses]
      run := hrun }
  have hname := ((listing_agrees h).1 (.calm .gattRead) b' rfl hb').2 1 (by decide) rfl
  exact ⟨scanned, completed, b, b', hscanned, h, hb', hname⟩

end EspBridges.Ccu
