import EspBridges.Ccu.BridgeLaws

namespace EspBridges.Ccu

open Bytes

/-- The length of the SSID in a `SCAN_WIFI_RESULT` packet, after the first workaround. -/
def ssidLength (ccuMsg : Buf 500) : Nat :=
  if ccuMsg 4 = 0x0a ∧ ccuMsg 16 ≠ 0 then 0x0d else (ccuMsg 4).toNat

/-- The row it goes to, counted from 1, after the second. -/
def ssidRow (type : Byte) (g : Globals) : Nat :=
  if type = 0x0a ∧ (apNameRow g 0x0b).strlen ≠ 0 then 0x0d else type.toNat

def storeSsid (type : Byte) (length : Nat) (payload : Nat → Byte) (g : Globals) : Globals :=
  let g := if type = 1 then { g with handler.wifiScanReport := ⟨0, Buf.zero⟩ } else g
  let g := g.setRet bleRetMsgRcOffset wifiScanningInProgress
  let index := ssidRow type g
  let g := { g with
    handler.wifiScanReport.apName :=
      g.handler.wifiScanReport.apName.memcpy (100 * (index - 1)) payload length
    env.oob := g.env.oob || !(index ≤ 20 && length ≤ 100 && 5 + length ≤ 500) }
  let g := saveSsids (apNameRow g (index - 1)) (index - 1) length g
  { g with handler.wifiScanReport.apCount := g.handler.wifiScanReport.apCount + 1 }

theorem scanWifiResultMsg_eq (ccuMsg : Buf 500) (g : Globals) :
    (scanWifiResultMsg ccuMsg g).1 =
      storeSsid (ccuMsg 3) (ssidLength ccuMsg)
        (fun i => ccuMsg.rd (g.env.wild.byte .serialRxData) (5 + i)) g := by
  have hwild : (if ccuMsg 3 = 1 then { g with handler.wifiScanReport := ⟨0, Buf.zero⟩ } else g).env =
      g.env := by
    split <;> rfl
  unfold scanWifiResultMsg storeSsid ssidLength
  by_cases hfix : ccuMsg 4 = 0x0a ∧ ccuMsg 16 ≠ 0
  · have hpayload : (fun i => (ccuMsg.put 4 0x0d).rd (g.env.wild.byte .serialRxData) (5 + i)) =
        fun i => ccuMsg.rd (g.env.wild.byte .serialRxData) (5 + i) := by
      funext i
      rw [Buf.rd_put, if_neg (by omega)]
    simp only [if_pos hfix, Globals.setRet, hwild, hpayload]
    rfl
  · simp only [if_neg hfix, Globals.setRet, hwild]
    rfl

structure Ssid where
  bytes : List Byte
  length_pos : 0 < bytes.length
  length_le : bytes.length ≤ 32
  plain : ∀ b ∈ bytes, b ≠ 0 ∧ b ≠ 0x0D

structure Stored (ssids : List Ssid) (fsm : Fsm) : Prop where
  wifiReport : fsm.wifiReport.HoldsRows 50 (ssids.map Ssid.bytes)
  wifiReportLength : ∀ (k : Fin 50) (h : k.val < ssids.length),
    fsm.wifiReportLength k = ssids[k.val].bytes.length
  noOfStoredSsids : fsm.noOfStoredSsids = ssids.length

structure Reported (ssids : List Ssid) (report : WifiScanReport) : Prop where
  apName : report.apName.HoldsRows 100 (ssids.map Ssid.bytes)
  apCount : report.apCount = ssids.length

theorem uartRead_number : ∀ k < 20,
    uartRead (UInt8.ofNat (k + 1)) ≠ 0 ∧
      (uartRead (UInt8.ofNat (k + 1)) = 1 ↔ k = 0) ∧
      (k ≠ 9 → k ≠ 12 → uartRead (UInt8.ofNat (k + 1)) ≠ 0x0a ∧
        (uartRead (UInt8.ofNat (k + 1))).toNat = k + 1) := by
  decide

theorem apNameRow_strlen {g : Globals} {done : List Ssid}
    (h : Reported done g.handler.wifiScanReport) :
    (apNameRow g 0x0b).strlen ≠ 0 ↔ 11 < done.length := by
  have hfirst : (apNameRow g 0x0b).byte 0 = ((done.map Ssid.bytes).getD 11 []).getD 0 0 :=
    h.apName (g.env.wild.byte .apName) 11 0 (by omega) (by omega)
  have hroom : 0 < (apNameRow g 0x0b).room := by
    show 0 < 2000 - 100 * 0x0b
    omega
  unfold View.strlen
  rw [ne_eq, cstrlen_eq_zero _ hroom, hfirst]
  by_cases hin : 11 < done.length
  · obtain ⟨b, rest, hbytes⟩ := List.exists_cons_of_length_pos done[11].length_pos
    have hplain := (done[11].plain b (by rw [hbytes]; exact List.mem_cons_self)).1
    simp [List.getD_eq_getElem?_getD, hin, hbytes, hplain]
  · simp [List.getD_eq_getElem?_getD, hin]

theorem ssidRow_eq {g : Globals} {done : List Ssid} (h : Reported done g.handler.wifiScanReport)
    (hroom : done.length < 20) :
    ssidRow (uartRead (UInt8.ofNat (done.length + 1))) g = done.length + 1 := by
  have hrow := apNameRow_strlen h
  have hnumber := (uartRead_number done.length hroom).2.2
  unfold ssidRow
  generalize done.length = k at *
  by_cases h9 : k = 9
  · subst h9
    rw [if_neg (fun hfix => absurd (hrow.mp hfix.2) (by decide))]
    rfl
  by_cases h12 : k = 12
  · subst h12
    rw [if_pos ⟨rfl, hrow.mpr (by decide)⟩]
  · obtain ⟨hne, hnat⟩ := hnumber h9 h12
    rw [if_neg (fun hfix => hne hfix.1), hnat]

structure Rows (rows : List (List Byte)) (report : WifiScanReport) : Prop where
  apName : report.apName.HoldsRows 100 rows
  apCount : report.apCount = rows.length

theorem rows_cleared {g : Globals} {rows : List (List Byte)} {type : Byte}
    (hfirst : type = 1 ↔ rows = [])
    (hreport : rows ≠ [] → Rows rows g.handler.wifiScanReport) :
    Rows rows (if type = 1 then { g with handler.wifiScanReport := ⟨0, Buf.zero⟩ }
      else g).handler.wifiScanReport := by
  by_cases h1 : type = 1
  · rw [if_pos h1]
    obtain rfl := hfirst.mp h1
    exact ⟨Buf.holdsRows_zero 100, rfl⟩
  · rw [if_neg h1]
    exact hreport fun hnil => h1 (hfirst.mpr hnil)

theorem storeSsid_rows {g : Globals} {rows : List (List Byte)} {type : Byte} {row : List Byte}
    {payload : Nat → Byte} (hreport : g.fsm.wifiReport.HoldsRows 50 rows)
    (hrows : Rows rows (if type = 1 then { g with handler.wifiScanReport := ⟨0, Buf.zero⟩ }
      else g).handler.wifiScanReport)
    (hnumber : ∀ g', Rows rows g'.handler.wifiScanReport → ssidRow type g' = rows.length + 1)
    (hroom : rows.length < 20) (hrow : row.length ≤ 32)
    (hpayload : ∀ i, i < row.length → payload i = row.getD i 0) :
    (storeSsid type row.length payload g).fsm.wifiReport.HoldsRows 50 (rows ++ [row]) ∧
      Rows (rows ++ [row]) (storeSsid type row.length payload g).handler.wifiScanReport ∧
      (storeSsid type row.length payload g).fsm.wifiReportLength =
        (fun k => if k.val = rows.length then row.length else g.fsm.wifiReportLength k) ∧
      (storeSsid type row.length payload g).fsm.noOfStoredSsids =
        if g.fsm.noOfStoredSsids < rows.length + 1 then rows.length + 1
        else g.fsm.noOfStoredSsids := by
  have hsame : (if type = 1 then { g with handler.wifiScanReport := ⟨0, Buf.zero⟩ } else g).fsm =
      g.fsm := by
    split <;> rfl
  unfold storeSsid
  dsimp only
  generalize (if type = 1 then { g with handler.wifiScanReport := ⟨0, Buf.zero⟩ } else g) = g₁
    at hrows hsame ⊢
  have hindex := hnumber (g₁.setRet bleRetMsgRcOffset wifiScanningInProgress) hrows
  rw [hindex, Nat.add_sub_cancel]
  have hname := hrows.apName.snoc row payload (by omega) hpayload
  rw [← hsame] at hreport ⊢
  refine ⟨?_, ⟨hname, ?_⟩, rfl, rfl⟩
  · refine hreport.snoc row (fun i =>
      (g₁.handler.wifiScanReport.apName.memcpy (100 * rows.length) payload row.length).rd
        (g₁.env.wild.byte .apName) (100 * rows.length + i)) (by omega) ?_
    intro i hi
    rw [hname _ _ _ (by omega) (by omega)]
    simp [List.getD_eq_getElem?_getD]
  · show g₁.handler.wifiScanReport.apCount + 1 = _
    rw [hrows.apCount, List.length_append]
    rfl

theorem reported_iff_rows {ssids : List Ssid} {report : WifiScanReport} :
    Reported ssids report ↔ Rows (ssids.map Ssid.bytes) report := by
  constructor
  · exact fun h => ⟨h.apName, by rw [h.apCount, List.length_map]⟩
  · exact fun h => ⟨h.apName, by rw [h.apCount, List.length_map]⟩

theorem storeSsid_stores {g : Globals} {done : List Ssid} (hfsm : Stored done g.fsm)
    (hreport : done ≠ [] → Reported done g.handler.wifiScanReport) (hroom : done.length < 20)
    (ssid : Ssid) {payload : Nat → Byte}
    (hpayload : ∀ i, i < ssid.bytes.length → payload i = ssid.bytes.getD i 0) :
    Stored (done ++ [ssid]) (storeSsid (uartRead (UInt8.ofNat (done.length + 1)))
        ssid.bytes.length payload g).fsm ∧
      Reported (done ++ [ssid]) (storeSsid (uartRead (UInt8.ofNat (done.length + 1)))
        ssid.bytes.length payload g).handler.wifiScanReport := by
  have hfirst : uartRead (UInt8.ofNat (done.length + 1)) = 1 ↔ done.map Ssid.bytes = [] := by
    rw [(uartRead_number _ hroom).2.1, List.map_eq_nil_iff, List.length_eq_zero_iff]
  have hrows := rows_cleared (g := g) hfirst fun hsome =>
    reported_iff_rows.mp (hreport fun hnil => hsome (List.map_eq_nil_iff.mpr hnil))
  obtain ⟨hwifi, hafter, hlength, hno⟩ := storeSsid_rows hfsm.wifiReport hrows
    (fun g' hg' => by rw [List.length_map]; exact ssidRow_eq (reported_iff_rows.mpr hg') hroom)
    (by rwa [List.length_map]) ssid.length_le hpayload
  rw [List.length_map] at hlength hno
  refine ⟨⟨?_, fun k hk => ?_, ?_⟩, ?_⟩
  · rw [List.map_append]
    exact hwifi
  · rw [hlength]
    dsimp only
    by_cases hat : k.val = done.length
    · rw [if_pos hat]
      simp [hat]
    · rw [if_neg hat, hfsm.wifiReportLength k (by simp at hk; omega),
        List.getElem_append_left (by simp at hk; omega)]
  · rw [hno, hfsm.noOfStoredSsids, if_pos (Nat.lt_succ_self _), List.length_append]
    rfl
  · rw [reported_iff_rows, List.map_append]
    exact hafter

def scanPacket (trans : Byte × Byte) (k : Nat) (ssid : Ssid) : List Byte :=
  [RxOpcode.scanWifiResult.code, trans.1, trans.2, UInt8.ofNat k, UInt8.ofNat ssid.bytes.length] ++
    ssid.bytes

def asRead (packet : List Byte) : List Byte := packet.map uartRead

theorem uartRead_of_ne {b : Byte} (h : b ≠ 0x0D) : uartRead b = b := if_neg h

theorem length_asRead (trans : Byte × Byte) (k : Nat) (ssid : Ssid) :
    (asRead (scanPacket trans k ssid)).length = 5 + ssid.bytes.length := by
  simp [asRead, scanPacket]
  omega

theorem asRead_ssid (trans : Byte × Byte) (k : Nat) (ssid : Ssid) (hi : i < ssid.bytes.length) :
    (asRead (scanPacket trans k ssid)).getD (5 + i) 0 = ssid.bytes.getD i 0 := by
  have hplain := (ssid.plain ssid.bytes[i] (List.getElem_mem hi)).2
  have hat : (scanPacket trans k ssid)[5 + i]? = ssid.bytes[i]? := by
    rw [scanPacket, List.getElem?_append_right (by simp)]
    congr 1
    simp
  rw [asRead, List.getD_eq_getElem?_getD, List.getElem?_map, hat, List.getD_eq_getElem?_getD,
    List.getElem?_eq_getElem hi]
  exact uartRead_of_ne hplain

theorem uartRead_length : ∀ n, n ≤ 32 →
    (uartRead (UInt8.ofNat n) = 0x0a ↔ n = 10 ∨ n = 13) ∧
      (n ≠ 13 → (uartRead (UInt8.ofNat n)).toNat = n) := by
  intro n hn
  have h : ∀ n < 33, (uartRead (UInt8.ofNat n) = 0x0a ↔ n = 10 ∨ n = 13) ∧
      (n ≠ 13 → (uartRead (UInt8.ofNat n)).toNat = n) := by
    decide
  exact h n (by omega)

/-- The first workaround gives back the length: payload byte 11 of a ten-byte SSID is the
terminator, and of a longer one it is not zero. -/
theorem ssidLength_eq {t : SerialTask} {trans : Byte × Byte} {k : Nat} {ssid : Ssid}
    (h : t.Agrees (asRead (scanPacket trans k ssid))) :
    ssidLength t.packet = ssid.bytes.length := by
  have hlen := length_asRead trans k ssid
  have hle := ssid.length_le
  have h4 : t.packet 4 = uartRead (UInt8.ofNat ssid.bytes.length) :=
    packet_apply h 4 (by rw [hlen]; show 4 < 5 + _; omega) (by omega)
  obtain ⟨hfix, hnat⟩ := uartRead_length ssid.bytes.length hle
  unfold ssidLength
  rw [h4]
  by_cases h13 : ssid.bytes.length = 13
  · have h16 : t.packet 16 = ssid.bytes.getD 11 0 := by
      rw [packet_apply h 16 (by rw [hlen]; show 16 < 5 + _; omega) (by omega)]
      exact asRead_ssid trans k ssid (i := 11) (by omega)
    have hplain := (ssid.plain ssid.bytes[11] (List.getElem_mem (by omega))).1
    rw [if_pos, h13]
    refine ⟨hfix.mpr (.inr h13), ?_⟩
    rw [h16, List.getD_eq_getElem?_getD, List.getElem?_eq_getElem (by omega)]
    exact hplain
  · rw [if_neg, hnat h13]
    rintro ⟨hten, hne⟩
    rcases hfix.mp hten with h10 | h13'
    · have hend := packet_end h (fun _ => 0) (by omega)
      rw [hlen, h10] at hend
      exact hne hend
    · exact h13 h13'

theorem storeSsid_aborting (type : Byte) (length : Nat) (payload : Nat → Byte) (g : Globals) :
    (storeSsid type length payload g).env.aborting = g.env.aborting := by
  unfold storeSsid
  by_cases hfirst : type = 1
  · rw [if_pos hfirst]
    rfl
  · rw [if_neg hfirst]
    rfl

theorem scanPacket_handled {t : SerialTask} {trans : Byte × Byte} {g : Globals} {done : List Ssid}
    {ssid : Ssid} (h : t.Agrees (asRead (scanPacket trans (done.length + 1) ssid)))
    (hfsm : Stored done g.fsm) (hreport : done ≠ [] → Reported done g.handler.wifiScanReport)
    (hroom : done.length < 20) (length : Nat) :
    Stored (done ++ [ssid]) (akbiProcessRxSerialData t.packet length g).1.fsm ∧
      Reported (done ++ [ssid])
        (akbiProcessRxSerialData t.packet length g).1.handler.wifiScanReport ∧
      (akbiProcessRxSerialData t.packet length g).1.env.aborting = g.env.aborting := by
  have hlen := length_asRead trans (done.length + 1) ssid
  have hle := ssid.length_le
  have h0 : t.packet 0 = RxOpcode.scanWifiResult.code :=
    packet_apply h 0 (by rw [hlen]; show 0 < 5 + _; omega) (by omega)
  have h3 : t.packet 3 = uartRead (UInt8.ofNat (done.length + 1)) :=
    packet_apply h 3 (by rw [hlen]; show 3 < 5 + _; omega) (by omega)
  have hhandled : (akbiProcessRxSerialData t.packet length g).1 =
      (scanWifiResultMsg t.packet g).1 := by
    unfold akbiProcessRxSerialData
    dsimp only
    rw [h0, RxOpcode.ofByte?_code, h3]
    dsimp only
    rw [if_neg (uartRead_number _ hroom).1]
  rw [hhandled, scanWifiResultMsg_eq, h3, ssidLength_eq h]
  refine and_assoc.mp ⟨?_, storeSsid_aborting _ _ _ _⟩
  apply storeSsid_stores hfsm hreport hroom
  intro i hi
  have hbyte := packet_apply h ⟨5 + i, by omega⟩ (by rw [hlen]; show 5 + i < 5 + _; omega) (by omega)
  rw [Buf.rd_of_lt _ _ (by omega), hbyte]
  exact asRead_ssid trans _ ssid hi

def packetActions (packet : List Byte) : List Action :=
  (asRead packet).map .byteReceived ++ [.timerExpiry]

theorem packet_delivered {b : Bridge} (hidle : b.serial.Agrees [])
    (hrunning : b.glob.env.aborting = false) {packet : List Byte} (hpos : 0 < packet.length)
    (hlen : packet.length ≤ 498) {es : List Event}
    (hes : es.map Event.action = packetActions packet) :
    ∃ b' t mem wild, Machine.run step b es = some b' ∧ b'.serial.Agrees [] ∧
      SerialTask.Agrees t (asRead packet) ∧
      b'.glob = (processRx t.packet packet.length (b.glob.around mem wild)).1 := by
  have hsame : (asRead packet).length = packet.length := List.length_map _
  obtain ⟨bytes, pause, rfl, hbytes, hpause⟩ := List.map_eq_append_iff.mp hes
  obtain ⟨e, rfl, he⟩ := List.map_eq_singleton_iff.mp hpause
  obtain ⟨mid, mem, wild, hrun, hagrees, hglob⟩ := run_bytes hidle hrunning _ bytes hbytes
    (by simp only [List.length_nil]; omega)
  rw [List.nil_append] at hagrees
  have hrunning' : mid.glob.env.aborting = false := by
    rw [hglob]
    exact hrunning
  obtain ⟨b', hstep, hidle', hglob'⟩ := step_pause hagrees hrunning' (by omega) (by omega) he
  refine ⟨b', mid.serial, e.mem, e.wild, ?_, hidle', hagrees, ?_⟩
  · rw [Machine.run_append, hrun]
    simp only [Option.bind_some, Machine.run, hstep]
  · rw [hglob', hsame, Bridge.at, hglob]
    rfl

def scanActions (trans : Nat → Byte × Byte) : Nat → List Ssid → List Action
  | _, [] => []
  | k, ssid :: rest =>
    packetActions (scanPacket (trans k) k ssid) ++ scanActions trans (k + 1) rest

structure Scanning (done : List Ssid) (b : Bridge) : Prop where
  idle : b.serial.Agrees []
  running : b.glob.env.aborting = false
  stored : Stored done b.glob.fsm
  reported : done ≠ [] → Reported done b.glob.handler.wifiScanReport

theorem Scanning.packet {b : Bridge} {done : List Ssid} (h : Scanning done b)
    (hroom : done.length < 20) (trans : Byte × Byte) (ssid : Ssid) {es : List Event}
    (hes : es.map Event.action = packetActions (scanPacket trans (done.length + 1) ssid)) :
    ∃ b', Machine.run step b es = some b' ∧ Scanning (done ++ [ssid]) b' := by
  have hlen := length_asRead trans (done.length + 1) ssid
  have hle := ssid.length_le
  rw [asRead, List.length_map] at hlen
  obtain ⟨b', t, mem, wild, hrun, hidle, hagrees, hglob⟩ := packet_delivered h.idle h.running
    (by omega) (by omega) hes
  obtain ⟨hstored, hreported, haborting⟩ := scanPacket_handled hagrees
    (g := { b.glob.around mem wild with
      env.io := b.glob.env.io ++ [.rx t.packet (scanPacket trans _ ssid).length] })
    h.stored h.reported hroom (scanPacket trans _ ssid).length
  refine ⟨b', hrun, hidle, ?_, ?_, ?_⟩
  · rw [hglob]
    exact haborting.trans h.running
  · rw [hglob]
    exact hstored
  · rw [hglob]
    exact fun _ => hreported

theorem Scanning.packets {b : Bridge} {done : List Ssid} (h : Scanning done b)
    (trans : Nat → Byte × Byte) (rest : List Ssid) (hroom : done.length + rest.length ≤ 20)
    {es : List Event} (hes : es.map Event.action = scanActions trans (done.length + 1) rest) :
    ∃ b', Machine.run step b es = some b' ∧ Scanning (done ++ rest) b' := by
  induction rest generalizing b done es with
  | nil =>
    obtain rfl := List.map_eq_nil_iff.mp hes
    exact ⟨b, rfl, by simpa using h⟩
  | cons ssid rest ih =>
    rw [List.length_cons] at hroom
    obtain ⟨first, others, rfl, hfirst, hothers⟩ := List.map_eq_append_iff.mp hes
    obtain ⟨mid, hrun, hmid⟩ := h.packet (by omega) (trans (done.length + 1)) ssid hfirst
    obtain ⟨b', hrun', hb'⟩ := ih hmid (by simp; omega) (by simpa using hothers)
    refine ⟨b', ?_, by simpa using hb'⟩
    rw [Machine.run_append, hrun]
    exact hrun'

/-- A scan of up to twenty networks: both tables hold the SSIDs just as the CCU sent them. -/
theorem scan_survives_channel {serial : SerialTask} {g : Globals} (hidle : serial.Agrees [])
    (hrunning : g.env.aborting = false) (trans : Nat → Byte × Byte) {ssids : List Ssid}
    (hsome : ssids ≠ []) (hroom : ssids.length ≤ 20) {es : List Event}
    (hes : es.map Event.action = scanActions trans 1 ssids) :
    ∃ b', Machine.run step ⟨serial, akbiClearSsids g⟩ es = some b' ∧ Stored ssids b'.glob.fsm ∧
      Reported ssids b'.glob.handler.wifiScanReport := by
  have hstart : Scanning [] ⟨serial, akbiClearSsids g⟩ :=
    { idle := hidle
      running := hrunning
      stored := ⟨Buf.holdsRows_zero 50, nofun, rfl⟩
      reported := fun hnil => absurd rfl hnil }
  obtain ⟨b', hrun, hb'⟩ := hstart.packets trans ssids (by simpa using hroom) hes
  exact ⟨b', hrun, hb'.stored, hb'.reported hsome⟩

def thirteenBytes : Ssid where
  bytes := List.replicate 13 0x41
  length_pos := by decide
  length_le := by decide
  plain := by
    intro b hb
    rw [List.eq_of_mem_replicate hb]
    decide

/-- Thirteen networks with names of thirteen bytes. -/
theorem thirteen_survive_channel : ∃ b', Machine.run step ⟨.boot, akbiClearSsids .boot⟩
      ((scanActions (fun _ => (44, 0)) 1 (List.replicate 13 thirteenBytes)).map .calm) = some b' ∧
    Stored (List.replicate 13 thirteenBytes) b'.glob.fsm ∧
      Reported (List.replicate 13 thirteenBytes) b'.glob.handler.wifiScanReport :=
  scan_survives_channel boot_agrees rfl (fun _ => (44, 0)) (by simp) (by simp)
    (by simp [Event.calm, Function.comp_def])

end EspBridges.Ccu
