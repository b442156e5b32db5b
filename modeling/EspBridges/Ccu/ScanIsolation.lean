import EspBridges.Ccu.ListingLaws
import EspBridges.Ccu.Moments
import EspBridges.Ccu.ScanLaws

namespace EspBridges.Ccu

open Bytes

/-- The name of a network that neither workaround for the serial driver applies to. -/
structure Network where
  ssid : List Byte
  length_pos : 0 < ssid.length
  length_le : ssid.length ≤ 32
  length_ne : ssid.length ≠ 10
  nonzero : ∀ b ∈ ssid, b ≠ 0

def resultPacket (trans : Byte × Byte) (k : Nat) (ssid : List Byte) : List Byte :=
  [RxOpcode.scanWifiResult.code, trans.1, trans.2, UInt8.ofNat k, UInt8.ofNat ssid.length] ++ ssid

def asksScan (value : List Byte) : Bool :=
  Cid.ofByte? (value.getD 2 0) = some .scanWifis && value.getD 3 0 = 1

inductive Results : Nat → List Network → List Moment → Prop
  | read : m.input = .read → Results k networks ms → Results k networks (m :: ms)
  | found {trans : Byte × Byte} : m.input = .packet ccuMsg length →
      ccuMsg.StartsWith (resultPacket trans k network.ssid) →
      Results (k + 1) networks ms → Results k (network :: networks) (m :: ms)
  | ended : m.input = .packet ccuMsg length → isScanEnd ccuMsg → Results k [] [m]

def lengthOr (rows : List (List Byte)) (stale : Fin 50 → Nat) (k : Fin 50) : Nat :=
  (rows[k.val]?.map List.length).getD (stale k)

/-- A scan in progress over what `left` holds: the lengths below the rows are still those of
earlier scans, and so is the count until the first packet clears it. -/
structure InScan (left : Globals) (rows : List (List Byte)) (g : Globals) : Prop where
  btState : g.fsm.btState = .wifiScanInProgress
  wifiReport : g.fsm.wifiReport.HoldsRows 50 rows
  wifiReportLength : g.fsm.wifiReportLength = lengthOr rows left.fsm.wifiReportLength
  report : rows ≠ [] → Rows rows g.handler.wifiScanReport
  apCount : rows = [] → g.handler.wifiScanReport.apCount = left.handler.wifiScanReport.apCount

theorem InScan.amid {left g : Globals} {rows : List (List Byte)} (h : InScan left rows g)
    (env : Env) : InScan left rows { g with env := env } :=
  ⟨h.btState, h.wifiReport, h.wifiReportLength, h.report, h.apCount⟩

theorem asksScan_inScan {value : List Byte} (h : asksScan value = true) (frame : Nat)
    (g : Globals) : InScan g [] (gattsWriteEvt false frame value g) := by
  simp only [asksScan, Bool.and_eq_true, decide_eq_true_eq] at h
  have hrec := received_spec frame value g
  have htype : (bleCommandView value g.env.wild).byte 0 = 1 :=
    (bleCommandView_byte value g.env.wild (by omega)).trans h.2
  have hstate : (gattsWriteEvt false frame value g).fsm =
      { g.fsm with
        btState := .wifiScanInProgress
        wifiReport := Buf.zero
        noOfStoredSsids := 0
        ssidIndex := 0 } := by
    rw [gattsWriteEvt_eq, h.1, ← hrec.fsm]
    unfold dispatch executeScanWifis
    dsimp only
    rw [htype]
    rfl
  have hhandler := ((received_spec frame value g).alive.trans
    (gattsWriteEvt_effect frame value g).alive).handler
  refine ⟨by rw [hstate], ?_, ?_, fun hne => absurd rfl hne, fun _ => by rw [hhandler]⟩
  · rw [hstate]
    exact Buf.holdsRows_zero 50
  · rw [hstate]
    rfl

theorem InScan.read {left g : Globals} {rows : List (List Byte)} (h : InScan left rows g) :
    InScan left rows (gattsReadEvt g) := by
  have hpoll : gattsReadEvt g = g.setRet bleRetMsgRcOffset returnMsgNotReady := by
    unfold gattsReadEvt
    rw [check_waiting (by rw [h.btState]; rfl)]
    rfl
  rw [hpoll]
  exact ⟨h.btState, h.wifiReport, h.wifiReportLength, h.report, h.apCount⟩

/-- Row 11 tells a packet number 10 from an altered 13; in time it is still empty. -/
theorem Rows.eleven_empty {g : Globals} {rows : List (List Byte)}
    (h : Rows rows g.handler.wifiScanReport) (hlen : rows.length ≤ 11) :
    (apNameRow g 0x0b).strlen = 0 := by
  have hroom : 0 < (apNameRow g 0x0b).room := by
    show 0 < 2000 - 100 * 0x0b
    omega
  have hfirst : (apNameRow g 0x0b).byte 0 = (rows.getD 11 []).getD 0 0 :=
    h.apName (g.env.wild.byte .apName) 11 0 (by omega) (by omega)
  unfold View.strlen
  rw [cstrlen_eq_zero _ hroom, hfirst]
  simp [List.getD_eq_getElem?_getD, List.getElem?_eq_none hlen]

theorem number_toNat : ∀ k < 20, (UInt8.ofNat (k + 1)).toNat = k + 1 ∧ UInt8.ofNat (k + 1) ≠ 0 ∧
    (UInt8.ofNat (k + 1) = 1 ↔ k = 0) ∧ (UInt8.ofNat (k + 1) = 0x0a ↔ k = 9) := by
  decide

theorem Rows.ssidRow {g : Globals} {rows : List (List Byte)}
    (h : Rows rows g.handler.wifiScanReport) (hroom : rows.length < 20) :
    ssidRow (UInt8.ofNat (rows.length + 1)) g = rows.length + 1 := by
  obtain ⟨hnat, _, _, hten⟩ := number_toNat rows.length hroom
  unfold Ccu.ssidRow
  rw [if_neg, hnat]
  rintro ⟨h10, hrow⟩
  exact hrow (h.eleven_empty (by rw [hten.mp h10]; omega))

theorem ssidLength_number : ∀ n, n ≤ 32 → n ≠ 10 →
    UInt8.ofNat n ≠ 0x0a ∧ (UInt8.ofNat n).toNat = n := by
  intro n hn
  have h : ∀ n < 33, n ≠ 10 → UInt8.ofNat n ≠ 0x0a ∧ (UInt8.ofNat n).toNat = n := by
    decide
  exact h n (by omega)

theorem storeSsid_btState (type : Byte) (length : Nat) (payload : Nat → Byte) (g : Globals) :
    (storeSsid type length payload g).fsm.btState = g.fsm.btState := by
  unfold storeSsid
  dsimp only
  split <;> rfl

theorem lengthOr_snoc (rows : List (List Byte)) (row : List Byte) (stale : Fin 50 → Nat) :
    (fun k : Fin 50 => if k.val = rows.length then row.length else lengthOr rows stale k) =
      lengthOr (rows ++ [row]) stale := by
  funext k
  unfold lengthOr
  by_cases hat : k.val = rows.length
  · rw [if_pos hat, hat, List.getElem?_append_right (Nat.le_refl _), Nat.sub_self]
    rfl
  · rw [if_neg hat]
    by_cases hbefore : k.val < rows.length
    · rw [List.getElem?_append_left hbefore]
    · rw [List.getElem?_eq_none (by omega), List.getElem?_eq_none (by simp; omega)]

theorem InScan.found {left g : Globals} {rows : List (List Byte)} (h : InScan left rows g)
    {network : Network} {trans : Byte × Byte} {ccuMsg : Buf 500}
    (hpacket : ccuMsg.StartsWith (resultPacket trans (rows.length + 1) network.ssid))
    (hroom : rows.length < 20) (length : Nat) :
    InScan left (rows ++ [network.ssid]) (akbiProcessRxSerialData ccuMsg length g).1 := by
  have hle := network.length_le
  have hlen : (resultPacket trans (rows.length + 1) network.ssid).length =
      5 + network.ssid.length := by
    simp [resultPacket]
    omega
  have h0 : ccuMsg 0 = RxOpcode.scanWifiResult.code :=
    hpacket (fun _ => 0) 0 (by omega) (by decide)
  have h3 : ccuMsg 3 = UInt8.ofNat (rows.length + 1) :=
    hpacket (fun _ => 0) 3 (by omega) (by decide)
  have h4 : ccuMsg 4 = UInt8.ofNat network.ssid.length :=
    hpacket (fun _ => 0) 4 (by omega) (by decide)
  obtain ⟨_, hsome, hone, _⟩ := number_toNat rows.length hroom
  obtain ⟨hten, hnat⟩ := ssidLength_number network.ssid.length hle network.length_ne
  have hhandled : (akbiProcessRxSerialData ccuMsg length g).1 = (scanWifiResultMsg ccuMsg g).1 := by
    unfold akbiProcessRxSerialData
    dsimp only
    rw [h0, RxOpcode.ofByte?_code, h3]
    dsimp only
    rw [if_neg hsome]
  have hlength : ssidLength ccuMsg = network.ssid.length := by
    unfold ssidLength
    rw [h4, if_neg (fun hfix => hten hfix.1), hnat]
  rw [hhandled, scanWifiResultMsg_eq, h3, hlength]
  have hfirst : UInt8.ofNat (rows.length + 1) = 1 ↔ rows = [] := by
    rw [hone, List.length_eq_zero_iff]
  have hpayload : ∀ i, i < network.ssid.length →
      ccuMsg.rd (g.env.wild.byte .serialRxData) (5 + i) = network.ssid.getD i 0 := by
    intro i hi
    rw [hpacket (g.env.wild.byte .serialRxData) (5 + i) (by omega) (by omega), resultPacket,
      List.getD_eq_getElem?_getD, List.getElem?_append_right (by simp), List.getD_eq_getElem?_getD]
    congr 2
    simp
  obtain ⟨hwifi, hrows, hlengths, _⟩ := storeSsid_rows h.wifiReport
    (rows_cleared hfirst h.report) (fun g' hg' => hg'.ssidRow hroom) hroom hle hpayload
  refine ⟨(storeSsid_btState ..).trans h.btState, hwifi, ?_, fun _ => hrows, ?_⟩
  · rw [hlengths, h.wifiReportLength]
    exact lengthOr_snoc rows network.ssid left.fsm.wifiReportLength
  · intro hnil
    simp at hnil

structure AfterScan (left : Globals) (rows : List (List Byte)) (g : Globals) : Prop where
  btState : g.fsm.btState = .wifiScanComplete
  wifiReport : g.fsm.wifiReport.HoldsRows 50 rows
  wifiReportLength : g.fsm.wifiReportLength = lengthOr rows left.fsm.wifiReportLength
  count : g.main.epReturnMessage 8 = UInt8.ofNat
    (if rows = [] then left.handler.wifiScanReport.apCount else rows.length)

theorem InScan.ended {left g : Globals} {rows : List (List Byte)} (h : InScan left rows g)
    {ccuMsg : Buf 500} (hend : isScanEnd ccuMsg) (length : Nat) :
    AfterScan left rows (akbiProcessRxSerialData ccuMsg length g).1 := by
  rw [scanEnd_handled hend]
  refine ⟨rfl, h.wifiReport, h.wifiReportLength, ?_⟩
  have hcount : g.handler.wifiScanReport.apCount =
      if rows = [] then left.handler.wifiScanReport.apCount else rows.length := by
    by_cases hnil : rows = []
    · rw [if_pos hnil, h.apCount hnil]
    · rw [if_neg hnil, (h.report hnil).apCount]
  rw [← hcount]
  rfl

theorem InScan.results {left g : Globals} {rows : List (List Byte)} (h : InScan left rows g)
    {networks : List Network} {ms : List Moment} (hms : Results (rows.length + 1) networks ms)
    (hroom : rows.length + networks.length ≤ 20) :
    AfterScan left (rows ++ networks.map Network.ssid) (g.meets ms) := by
  generalize hk : rows.length + 1 = k at hms
  induction hms generalizing g rows with
  | read hinput _ ih =>
    rw [Globals.meets_cons, g.meet_read hinput]
    exact ih (h.amid _).read hroom hk
  | found hinput hpacket _ ih =>
    subst hk
    rw [List.length_cons] at hroom
    rw [Globals.meets_cons, g.meet_packet hinput, List.map_cons, List.append_cons]
    exact ih ((h.amid _).found hpacket (by omega) _) (by simp; omega) (by simp)
  | ended hinput hend =>
    rw [List.map_nil, List.append_nil, Globals.meets_cons, Globals.meets_nil,
      g.meet_packet hinput]
    exact (h.amid _).ended hend _

inductive Scan (networks : List Network) : List Moment → Prop
  | intro : m.input = .write frame value → asksScan value = true → networks.length ≤ 20 →
      Results 1 networks ms → Scan networks (m :: ms)

theorem Scan.after {networks : List Network} {ms : List Moment} (h : Scan networks ms)
    (g : Globals) : AfterScan g (networks.map Network.ssid) (g.meets ms) := by
  obtain ⟨hinput, hasks, hroom, hresults⟩ := h
  rw [Globals.meets_cons, g.meet_write hinput]
  refine (show InScan g [] _ from ?_).results hresults (by simpa using hroom)
  have hstart := asksScan_inScan hasks
  exact ⟨(hstart _ _).btState, (hstart _ _).wifiReport, (hstart _ _).wifiReportLength,
    (hstart _ _).report, (hstart _ _).apCount⟩

/-- What the phone gets to know from its reads after a scan: the count, then name by name. -/
def listing : List (Buf 20) → List (List Byte)
  | [] => []
  | reply :: replies => [reply 8] :: replies.map nameField

def tableRow (fsm : Fsm) (k : Nat) : View :=
  ⟨fun i => fsm.wifiReport.rd (fun _ => 0) (50 * k + i), 2500 - 50 * k, 0⟩

def rowName (fsm : Fsm) (k : Nat) : List Byte :=
  shownName (tableRow fsm k) (if h : k < 50 then fsm.wifiReportLength ⟨k, h⟩ else 0)

theorem shownName_congr {v v' : View} (h : ∀ i, i < 12 → v.byte i = v'.byte i) (length : Nat) :
    shownName v length = shownName v' length := by
  unfold shownName
  rw [View.bytes_congr fun i hi => h i hi, View.bytes_congr fun i hi => h i (by omega)]

theorem shownName_row (g : Globals) {k : Nat} (hk : k < 49) :
    shownName (wifiReportRow g k) (wifiReportLengthAt g k) = rowName g.fsm k := by
  unfold rowName wifiReportLengthAt
  rw [dif_pos (show k < 50 by omega), dif_pos (show k < 50 by omega)]
  refine shownName_congr (fun i hi => ?_) _
  show g.fsm.wifiReport.rd (g.env.wild.byte .wifiReport) (50 * k + i) =
    g.fsm.wifiReport.rd (fun _ => 0) (50 * k + i)
  rw [Buf.rd_of_lt _ _ (by omega), Buf.rd_of_lt _ _ (by omega)]

def OnlyReads (reads : List Moment) : Prop := ∀ m ∈ reads, m.input = .read

theorem replies_read {m : Moment} (h : m.input = .read) (g : Globals) (ms : List Moment) :
    g.replies (m :: ms) =
      (gattsReadEvt (g.amid m)).main.epReturnMessage :: (gattsReadEvt (g.amid m)).replies ms := by
  rw [Globals.replies]
  simp only [h, g.meet_read h]

theorem rowName_table {fsm fsm' : Fsm} (h : SameTable fsm fsm') : rowName fsm' = rowName fsm := by
  unfold rowName tableRow
  rw [h.wifiReport, h.wifiReportLength]

theorem replies_names {g : Globals} {k : Nat} (h : ReadUpTo (k + 1) g.fsm) {reads : List Moment}
    (hreads : OnlyReads reads) (hroom : k + reads.length ≤ 49) :
    (g.replies reads).map nameField = (List.range' k reads.length).map (rowName g.fsm) := by
  induction reads generalizing g k with
  | nil => rfl
  | cons m reads ih =>
    rw [List.length_cons] at hroom
    obtain ⟨hnext, htable, hreply⟩ := gattsReadEvt_readUpTo (g := g.amid m) h
    have hname : nameField (gattsReadEvt (g.amid m)).main.epReturnMessage = rowName g.fsm k :=
      Eq.trans hreply (shownName_row (g.amid m) (by omega))
    have hrest := ih hnext (fun m' hm' => hreads m' (.tail _ hm')) (by omega)
    rw [rowName_table htable] at hrest
    rw [replies_read (hreads m (.head _)), List.map_cons, hname, hrest, List.length_cons,
      List.range'_succ, List.map_cons]
    rfl

theorem AfterScan.listing {left g : Globals} {rows : List (List Byte)} (h : AfterScan left rows g)
    {m : Moment} {reads : List Moment} (hreads : OnlyReads (m :: reads))
    (hroom : reads.length ≤ 49) :
    listing (g.replies (m :: reads)) =
      [g.main.epReturnMessage 8] :: (List.range' 0 reads.length).map (rowName g.fsm) := by
  have hstart : ReadUpTo 0 (g.amid m).fsm := h.btState
  obtain ⟨hnext, htable, hreply⟩ := gattsReadEvt_readUpTo hstart
  have hrest := replies_names hnext (fun m' hm' => hreads m' (.tail _ hm')) (by omega)
  rw [rowName_table htable] at hrest
  have hcount : (gattsReadEvt (g.amid m)).main.epReturnMessage = g.main.epReturnMessage := hreply
  rw [replies_read (hreads m (.head _)), Ccu.listing, hrest, hcount]
  rfl

theorem shownName_empty {v : View} (h : ∀ i, i < 12 → v.byte i = 0) (length : Nat) :
    shownName v length = shownName v 0 ↔ length ≤ 12 := by
  have hzero : v.bytes 12 = List.replicate 12 0 := by
    refine View.bytes_eq v (List.length_replicate ..) fun i hi => ?_
    rw [h i hi, List.getD_eq_getElem?_getD, List.getElem?_replicate, if_pos hi]
    rfl
  have hten : v.bytes 10 = List.replicate 10 0 := by
    rw [← View.take_bytes v (show 10 ≤ 12 by omega), hzero]
    rfl
  unfold shownName
  rw [if_neg (show ¬ 0 > 12 by omega), hzero, hten]
  by_cases hlong : length > 12
  · rw [if_pos hlong]
    exact iff_of_false (by decide) (by omega)
  · rw [if_neg hlong]
    exact iff_of_true rfl (by omega)

/-- What an earlier scan has left and the next one does not show. -/
structure Unshown (n : Nat) (left : Globals) : Prop where
  apCount : n = 0 → left.handler.wifiScanReport.apCount % 256 = 0
  wifiReportLength : ∀ k : Fin 50, n ≤ k.val → k.val < 49 → left.fsm.wifiReportLength k ≤ 12

/-- After a scan the phone learns the same as when there was nothing before it. -/
def ScanIsolated (networks : List Network) (ms : List Moment) (g : Globals) : Prop :=
  ∀ reads, OnlyReads reads → reads.length ≤ 50 →
    listing ((g.meets ms).replies reads) = listing ((Globals.boot.meets ms).replies reads) ∧
      ∀ count names, listing ((g.meets ms).replies reads) = count :: names →
        count = [UInt8.ofNat networks.length]

section After

variable {left g g' : Globals} {rows : List (List Byte)}

theorem AfterScan.count_eq_iff (h : AfterScan left rows g) :
    g.main.epReturnMessage 8 = UInt8.ofNat rows.length ↔
      (rows.length = 0 → left.handler.wifiScanReport.apCount % 256 = 0) := by
  rw [h.count]
  by_cases hnil : rows = []
  · subst hnil
    rw [if_pos rfl, ← UInt8.toNat_inj, UInt8.toNat_ofNat', UInt8.toNat_ofNat']
    exact ⟨fun hz _ => hz, fun hz => hz rfl⟩
  · rw [if_neg hnil]
    exact iff_of_true rfl fun hz => absurd (List.length_eq_zero_iff.mp hz) hnil

theorem AfterScan.tableRow_byte (h : AfterScan left rows g) {k i : Nat} (hk : k < 49) (hi : i < 12) :
    (tableRow g.fsm k).byte i = (rows.getD k []).getD i 0 :=
  h.wifiReport (fun _ => 0) k i (by omega) (by omega)

theorem AfterScan.name_eq_iff (h : AfterScan left rows g) (h' : AfterScan .boot rows g') {k : Nat}
    (hk : k < 49) : rowName g.fsm k = rowName g'.fsm k ↔
      (rows.length ≤ k → left.fsm.wifiReportLength ⟨k, by omega⟩ ≤ 12) := by
  have hsame : ∀ length, shownName (tableRow g.fsm k) length = shownName (tableRow g'.fsm k) length :=
    shownName_congr fun i hi => by rw [h.tableRow_byte hk hi, h'.tableRow_byte hk hi]
  unfold rowName
  rw [dif_pos (show k < 50 by omega), dif_pos (show k < 50 by omega), h.wifiReportLength,
    h'.wifiReportLength, hsame]
  unfold lengthOr
  by_cases hin : k < rows.length
  · rw [List.getElem?_eq_getElem hin]
    exact iff_of_true rfl fun hle => absurd hin (by omega)
  · have hout : rows.length ≤ k := by omega
    rw [List.getElem?_eq_none hout]
    refine (shownName_empty (fun i hi => ?_) _).trans ⟨fun hle _ => hle, fun hle => hle hout⟩
    have hrow : rows.getD k [] = [] := by
      rw [List.getD_eq_getElem?_getD, List.getElem?_eq_none hout]
      rfl
    rw [h'.tableRow_byte hk hi, hrow]
    rfl

end After

def calmRead : Moment := ⟨.read, fun _ => Buf.zero, Wild.zero⟩

theorem Scan.isolated_iff {networks : List Network} {ms : List Moment} (h : Scan networks ms)
    (left : Globals) : ScanIsolated networks ms left ↔ Unshown networks.length left := by
  have hafter := h.after left
  have hboot := h.after .boot
  have hcount := hafter.count_eq_iff
  have hcount' := hboot.count_eq_iff.mpr fun _ => rfl
  have hname : ∀ k (hk : k < 49), _ := fun k hk => hafter.name_eq_iff hboot hk
  rw [List.length_map] at hcount hcount' hname
  constructor
  · intro hisolated
    have hreads : OnlyReads (calmRead :: List.replicate 49 calmRead) := by
      intro m hm
      rw [List.eq_of_mem_replicate (n := 50) hm]
      rfl
    obtain ⟨hsame, hhead⟩ := hisolated _ hreads (by simp)
    rw [hafter.listing hreads (by simp), hboot.listing hreads (by simp), List.cons.injEq,
      List.map_inj_left] at hsame
    rw [hafter.listing hreads (by simp)] at hhead
    refine ⟨hcount.mp (List.cons.inj (hhead _ _ rfl)).1, fun k hk hin => ?_⟩
    refine (hname k hin).mp (hsame.2 k ?_) hk
    rw [List.mem_range'_1, List.length_replicate]
    omega
  · intro hleft reads hreads hroom
    cases reads with
    | nil => exact ⟨rfl, nofun⟩
    | cons m reads =>
      rw [List.length_cons] at hroom
      rw [hafter.listing hreads (by omega), hboot.listing hreads (by omega)]
      refine ⟨?_, ?_⟩
      · rw [hcount', hcount.mpr hleft.apCount, List.cons.injEq, List.map_inj_left]
        refine ⟨rfl, fun k hk => ?_⟩
        obtain ⟨_, hlt⟩ := List.mem_range'_1.mp hk
        have hin : k < 49 := by omega
        exact (hname k hin).mpr fun hle => hleft.wifiReportLength _ hle hin
      · intro count names heq
        rw [← (List.cons.inj heq).1, hcount.mpr hleft.apCount]

structure ScanAfter (history : List Event) (b : Bridge) (networks : List Network)
    (ms : List Moment) : Prop where
  run : Machine.run step .boot history = some b
  scan : Scan networks ms

/-- The command clears the table, but not the count, nor the lengths: the next scan shows them
where it brings no row of its own. -/
theorem scan_isolated_iff {history : List Event} {b : Bridge} {networks : List Network}
    {ms : List Moment} (h : ScanAfter history b networks ms) :
    ScanIsolated networks ms b.glob ↔ Unshown networks.length b.glob :=
  h.scan.isolated_iff b.glob

def emptyScan : List Moment :=
  [⟨.write 0 [0x4D, 0, Cid.scanWifis.code, 1], fun _ => Buf.zero, Wild.zero⟩,
    ⟨.packet (Buf.zero.put 0 RxOpcode.scanWifiResult.code) 6, fun _ => Buf.zero, Wild.zero⟩]

theorem emptyScan_scan : Scan [] emptyScan :=
  .intro rfl rfl (by decide) (.ended rfl ⟨rfl, rfl⟩)

def cafe : Network := ⟨[0x43, 0x61, 0x66, 0x65], by decide, by decide, by decide, by simp⟩

def bus : Network := ⟨[0x42, 0x75, 0x73], by decide, by decide, by decide, by simp⟩

/-- The next scan finds these two, and the phone reads in between. -/
def nextScan : List Moment :=
  [⟨.write 0 [0x4D, 0, Cid.scanWifis.code, 1], fun _ => Buf.zero, Wild.zero⟩,
    ⟨.packet (fun i => (resultPacket (44, 0) 1 cafe.ssid).getD i 0) 9, fun _ => Buf.zero, Wild.zero⟩,
    ⟨.read, fun _ => Buf.zero, Wild.zero⟩,
    ⟨.packet (fun i => (resultPacket (44, 0) 2 bus.ssid).getD i 0) 8, fun _ => Buf.zero, Wild.zero⟩,
    ⟨.packet (Buf.zero.put 0 RxOpcode.scanWifiResult.code) 6, fun _ => Buf.zero, Wild.zero⟩]

theorem startsWith_getD {n : Nat} (xs : List Byte) :
    Buf.StartsWith (fun i : Fin n => xs.getD i 0) xs :=
  fun _ _ _ hin => Buf.rd_of_lt _ _ hin

theorem nextScan_scan : Scan [cafe, bus] nextScan :=
  .intro rfl rfl (by decide) (.found rfl (startsWith_getD _)
    (.read rfl (.found rfl (startsWith_getD _) (.ended rfl ⟨rfl, rfl⟩))))

/-- After a scan that has found as many networks, one of them with a long name. -/
theorem nextScan_isolated : ∃ b,
    Machine.run step .boot (twoFound ++ [.calm .timerExpiry, .calm .gattRead]) = some b ∧
      ScanIsolated [cafe, bus] nextScan b.glob := by
  have hrun : ((Machine.run step .boot (twoFound ++ [.calm .timerExpiry, .calm .gattRead])).any
      fun b => decide (∀ k : Fin 50, 2 ≤ k.val → k.val < 49 →
        b.glob.fsm.wifiReportLength k ≤ 12)) = true := by
    decide +kernel
  obtain ⟨b, hb, hlength⟩ := (Option.any_eq_true _ _).mp hrun
  have h : ScanAfter (twoFound ++ [.calm .timerExpiry, .calm .gattRead]) b [cafe, bus] nextScan :=
    ⟨hb, nextScan_scan⟩
  exact ⟨b, hb, (scan_isolated_iff h).mpr ⟨(nomatch ·), of_decide_eq_true hlength⟩⟩

def oneFound : List Event :=
  burst [0x13, 44, 0, 1, 0, 2, 0, 3, 0] ++ [.calm .regEvt, .calm .regEvt] ++
    burst (resultPacket (44, 0) 1 [0x41])

/-- The count of an earlier network is reported for a scan that has found none. -/
theorem emptyScan_reports_one : ¬ ∀ history b networks ms, ScanAfter history b networks ms →
    ScanIsolated networks ms b.glob := by
  intro h
  have hrun : (Machine.run step .boot oneFound).map (fun b =>
      b.glob.handler.wifiScanReport.apCount) = some 1 := by
    decide +kernel
  obtain ⟨b, hb, hcount⟩ := Option.map_eq_some_iff.mp hrun
  have hleft := (emptyScan_scan.isolated_iff b.glob).mp (h _ _ _ _ ⟨hb, emptyScan_scan⟩)
  have hzero := hleft.apCount rfl
  rw [hcount] at hzero
  cases hzero

end EspBridges.Ccu
