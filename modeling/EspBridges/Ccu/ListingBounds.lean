import EspBridges.Ccu.ScanIsolation

namespace EspBridges.Ccu

open Bytes

/-- The table after a scan: its rows, zeroes below them, and lengths that nothing clears. -/
structure ScanTable (rows : List (List Byte)) (fsm : Fsm) : Prop where
  room : rows.length ≤ 20
  sized : ∀ row ∈ rows, 1 ≤ row.length ∧ row.length ≤ 32
  wifiReport : fsm.wifiReport.HoldsRows 50 rows
  wifiReportLength : ∀ k (h : k < rows.length) (h' : k < 50),
    fsm.wifiReportLength ⟨k, h'⟩ = rows[k].length

structure ListReady (rows : List (List Byte)) (b : Bridge) : Prop where
  service : b.glob.main.serviceCreated = true
  complete : b.glob.fsm.btState = .wifiScanComplete
  table : ScanTable rows b.glob.fsm

/-- A read of a list of `n` names, after `k` of its names, touches the name field and the return
code alone; from the end of the list on it shows an empty name. -/
structure ReadInside (n k : Nat) (g : Globals) : Prop where
  row : g.fsm.ssidIndex < 50
  copies : (gattsReadEvt { g with env.oob := false }).env.oob = false
  others : ∀ i : Fin 20, i.val < 8 → i.val ≠ 6 →
    (gattsReadEvt g).main.epReturnMessage i = g.main.epReturnMessage i
  ended : n ≤ k → nameField (gattsReadEvt g).main.epReturnMessage = List.replicate 12 0

def ReadsInside (n : Nat) (b : Bridge) (es : List Event) : Prop :=
  ∀ before read after mid, es = before ++ read :: after → read.action = .gattRead →
    Machine.run step b before = some mid → mid.glob.fsm.btState = .wifiNameSendInProgress →
      ReadInside n ((before.countP fun e => e.action.isRead) - 1) (mid.at read).glob

structure RowFits (rows : List (List Byte)) (fsm : Fsm) (k : Nat) : Prop where
  row : k < 50
  stored : ∀ h : k < rows.length, (rows[k].takeWhile (· ≠ 0)).length ≤ 12
  below : ∀ h : k < 50, rows.length ≤ k → fsm.wifiReportLength ⟨k, h⟩ ≤ 12

theorem wifiNameSend_oob (g : Globals) : (wifiNameSend g).env.oob =
    (g.env.oob || !(g.fsm.ssidIndex < 50 &&
      (wifiReportRow g g.fsm.ssidIndex).strlen < (wifiReportRow g g.fsm.ssidIndex).room &&
      (wifiReportRow g g.fsm.ssidIndex).strlen ≤ 12)) := by
  unfold wifiNameSend
  dsimp only
  split <;> rfl

theorem wifiNameSend_others (g : Globals) {i : Fin 20} (hi : i.val < 8) :
    (wifiNameSend g).main.epReturnMessage i = g.main.epReturnMessage i := by
  unfold wifiNameSend
  dsimp only
  split
  · dsimp only
    rw [Buf.memset, if_neg (by simp; omega), Buf.memset, if_neg (by simp; omega),
      Buf.memcpy_apply, if_neg (by simp; omega), Buf.memcpy_apply, if_neg (by simp; omega)]
  · dsimp only
    rw [Buf.memcpy_apply, if_neg (by simp; omega), Buf.memcpy_apply, if_neg (by simp; omega)]

theorem gattsReadEvt_name {g : Globals} (h : g.fsm.btState = .wifiNameSendInProgress) :
    gattsReadEvt g = wifiNameSend g := by
  rw [gattsReadEvt_of_not_waiting (by rw [h]; rfl)]
  unfold akbiCheckFsmStateAndRespond
  rw [h]

section Table

variable {rows : List (List Byte)} {table : Fsm} {g : Globals} {k : Nat}
  (ht : ScanTable rows table) (hsame : SameTable table g.fsm)

include ht hsame

theorem wifiReportRow_byte {i : Nat} (hk : k < 50) (hi : i < 50) :
    (wifiReportRow g k).byte i = (rows.getD k []).getD i 0 := by
  show g.fsm.wifiReport.rd _ (50 * k + i) = _
  rw [hsame.wifiReport]
  exact ht.wifiReport _ k i hi (by omega)

theorem wifiReportRow_strlen (hk : k < 50) : (wifiReportRow g k).strlen =
    ((rows.getD k []).takeWhile (· ≠ 0)).length := by
  have hshort : (rows.getD k []).length ≤ 32 := by
    by_cases hin : k < rows.length
    · rw [List.getD_eq_getElem?_getD, List.getElem?_eq_getElem hin]
      exact (ht.sized _ (List.getElem_mem hin)).2
    · rw [List.getD_eq_getElem?_getD, List.getElem?_eq_none (by omega)]
      exact Nat.zero_le _
  have htext := (List.takeWhile_sublist (l := rows.getD k []) fun x => decide (x ≠ 0)).length_le
  have hroom : 50 ≤ (wifiReportRow g k).room := by
    show 50 ≤ 2500 - 50 * k
    omega
  exact (View.holds_text hroom (by omega) fun i hi => wifiReportRow_byte ht hsame hk hi).strlen

theorem shownName_below (hk : k < 50) (hend : rows.length ≤ k) :
    shownName (wifiReportRow g k) (wifiReportLengthAt g k) = List.replicate 12 0 ↔
      table.wifiReportLength ⟨k, hk⟩ ≤ 12 := by
  have hnone : rows.getD k [] = [] := by
    rw [List.getD_eq_getElem?_getD, List.getElem?_eq_none hend]
    rfl
  have hzero : ∀ i, i < 12 → (wifiReportRow g k).byte i = 0 := by
    intro i hi
    rw [wifiReportRow_byte ht hsame hk (by omega), hnone]
    rfl
  have hempty : shownName (wifiReportRow g k) 0 = List.replicate 12 0 := by
    refine View.bytes_eq _ (List.length_replicate ..) fun i hi => ?_
    rw [hzero i hi, List.getD_eq_getElem?_getD, List.getElem?_replicate, if_pos hi]
    rfl
  rw [← hempty, shownName_empty hzero, wifiReportLengthAt, dif_pos hk, hsame.wifiReportLength]

theorem readInside_iff (hread : ReadUpTo (k + 1) g.fsm) :
    ReadInside rows.length k g ↔ RowFits rows table k := by
  obtain ⟨hstate, hindex⟩ := hread
  have hname : gattsReadEvt g = wifiNameSend g := gattsReadEvt_name hstate
  have hcopies : (gattsReadEvt { g with env.oob := false }).env.oob = false ↔
      k < 50 ∧ (wifiReportRow g k).strlen < (wifiReportRow g k).room ∧
        (wifiReportRow g k).strlen ≤ 12 := by
    rw [gattsReadEvt_name (g := { g with env.oob := false }) hstate, wifiNameSend_oob]
    show (false || !(g.fsm.ssidIndex < 50 &&
      (wifiReportRow g g.fsm.ssidIndex).strlen < (wifiReportRow g g.fsm.ssidIndex).room &&
      (wifiReportRow g g.fsm.ssidIndex).strlen ≤ 12)) = false ↔ _
    rw [hindex]
    simp only [Bool.false_or, Bool.not_eq_false', Bool.and_eq_true, decide_eq_true_eq, and_assoc]
  have hshown : nameField (gattsReadEvt g).main.epReturnMessage =
      shownName (wifiReportRow g k) (wifiReportLengthAt g k) := by
    rw [hname, wifiNameSend_nameField, hindex]
  constructor
  · intro h
    have hk : k < 50 := hindex ▸ h.row
    refine ⟨hk, fun hin => ?_, fun _ hend => ?_⟩
    · have hle := (hcopies.mp h.copies).2.2
      rwa [wifiReportRow_strlen ht hsame hk, List.getD_eq_getElem?_getD,
        List.getElem?_eq_getElem hin] at hle
    · rw [← shownName_below ht hsame hk hend, ← hshown]
      exact h.ended hend
  · intro h
    have hk := h.row
    have hle : (wifiReportRow g k).strlen ≤ 12 := by
      rw [wifiReportRow_strlen ht hsame hk]
      by_cases hin : k < rows.length
      · rw [List.getD_eq_getElem?_getD, List.getElem?_eq_getElem hin]
        exact h.stored hin
      · rw [List.getD_eq_getElem?_getD, List.getElem?_eq_none (by omega)]
        exact Nat.zero_le _
    have hroom : (wifiReportRow g k).room = 2500 - 50 * k := rfl
    refine ⟨hindex ▸ hk, hcopies.mpr ⟨hk, by omega, hle⟩, fun i hi _ => ?_, fun hend => ?_⟩
    · rw [hname, wifiNameSend_others g hi]
    · rw [hshown, shownName_below ht hsame hk hend]
      exact h.below hk hend

end Table

theorem exists_read_of_lt {es : List Event} {k : Nat}
    (h : k < es.countP fun e => e.action.isRead) :
    ∃ before read after, es = before ++ read :: after ∧ read.action = .gattRead ∧
      (before.countP fun e => e.action.isRead) = k := by
  induction es generalizing k with
  | nil => exact absurd h (Nat.not_lt_zero k)
  | cons e es ih =>
    rw [List.countP_cons] at h
    by_cases hread : e.action.isRead = true
    · rw [if_pos hread] at h
      have hact : e.action = .gattRead := by
        cases ha : e.action with
        | gattRead => rfl
        | _ => rw [ha] at hread; cases hread
      cases k with
      | zero => exact ⟨[], e, es, rfl, hact, rfl⟩
      | succ k =>
        obtain ⟨before, read, after, rfl, hat, hcount⟩ := ih (k := k) (by omega)
        exact ⟨e :: before, read, after, rfl, hat, by rw [List.countP_cons, if_pos hread, hcount]⟩
    · rw [if_neg hread] at h
      obtain ⟨before, read, after, rfl, hat, hcount⟩ := ih (k := k) (by omega)
      refine ⟨e :: before, read, after, rfl, hat, ?_⟩
      rwa [List.countP_cons_of_neg (by exact hread)]

theorem ListReady.browsing {rows : List (List Byte)} {b mid : Bridge} {before : List Event}
    (h : ListReady rows b) (hbrowses : ∀ e ∈ before, e.action.browses = true)
    (hr : Machine.run step b before = some mid) :
    Browsing (before.countP fun e => e.action.isRead) b.glob.fsm mid.glob := by
  have hstart : Browsing 0 b.glob.fsm b.glob := ⟨h.service, h.complete, ⟨rfl, rfl⟩⟩
  simpa using run_browsing hstart hr hbrowses

/-- The reads of names stay inside as far as the rows they come to fit. -/
theorem reads_inside_iff {rows : List (List Byte)} {b b' : Bridge} {es : List Event}
    (h : ListReady rows b) (hbrowses : ∀ e ∈ es, e.action.browses = true)
    (hr : Machine.run step b es = some b') :
    ReadsInside rows.length b es ↔
      ∀ k, k + 1 < (es.countP fun e => e.action.isRead) → RowFits rows b.glob.fsm k := by
  constructor
  · intro hin k hk
    obtain ⟨before, read, after, rfl, hact, hcount⟩ := exists_read_of_lt hk
    rw [Machine.run_append, Option.bind_eq_some_iff] at hr
    obtain ⟨mid, hmid, _⟩ := hr
    have hat := h.browsing (fun e he => hbrowses e (List.mem_append_left _ he)) hmid
    rw [hcount] at hat
    have hinside := hin before read after mid rfl hact hmid hat.readUpTo.1
    rw [hcount] at hinside
    exact (readInside_iff (g := (mid.at read).glob) h.table hat.table hat.readUpTo).mp hinside
  · rintro hfits before read after mid rfl hact hmid hstate
    have hat := h.browsing (fun e he => hbrowses e (List.mem_append_left _ he)) hmid
    obtain ⟨k, hcount⟩ : ∃ k, (before.countP fun e => e.action.isRead) = k + 1 := by
      cases hzero : before.countP fun e => e.action.isRead with
      | succ k => exact ⟨k, rfl⟩
      | zero =>
        rw [hzero] at hat
        have hcomplete : mid.glob.fsm.btState = .wifiScanComplete := hat.readUpTo
        rw [hcomplete] at hstate
        cases hstate
    rw [hcount] at hat ⊢
    refine (readInside_iff (g := (mid.at read).glob) h.table hat.table hat.readUpTo).mpr (hfits k ?_)
    rw [List.countP_append, hcount, List.countP_cons, hact]
    show k + 1 < k + 1 + (_ + 1)
    omega

/-! A list of one name on a running bridge. -/

theorem Serving.scanned {b : Bridge} (h : Serving b) (hidle : b.serial.Agrees [])
    {packet : List Byte} (hpacket : asRead packet = packet) (hlen : packet.length ≤ 498)
    (hop : packet[0]? = some RxOpcode.scanWifiResult.code) :
    ∃ b' ccuMsg mem wild, Serving b' ∧ b'.serial.Agrees [] ∧ ccuMsg.StartsWith packet ∧
      b'.glob = (processRx ccuMsg packet.length (b.glob.around mem wild)).1 := by
  obtain ⟨hpos, h0⟩ := List.getElem?_eq_some_iff.mp hop
  have hes : ((packetActions packet).map Event.calm).map Event.action = packetActions packet := by
    simp [Event.calm, Function.comp_def]
  obtain ⟨b', t, mem, wild, hrun, hidle', hagrees, hglob⟩ := packet_delivered hidle h.running hpos
    hlen hes
  rw [hpacket] at hagrees
  have hstarts : t.packet.StartsWith packet := by
    intro beyond i hi hin
    rw [Buf.rd_of_lt _ _ hin]
    exact packet_apply hagrees ⟨i, hin⟩ hi (by omega)
  have hscan : RxOpcode.ofByte? (t.packet 0) = some .scanWifiResult := by
    have hbyte := hstarts (fun _ => 0) 0 hpos (by decide)
    rw [List.getD_eq_getElem?_getD, hop] at hbyte
    exact congrArg RxOpcode.ofByte? hbyte
  have hservice := (handled t.packet packet.length { b.glob.around mem wild with
    env.io := b.glob.env.io ++ [.rx t.packet packet.length] }).service
  refine ⟨b', t.packet, mem, wild, ⟨Machine.reachable_of_run h.reachable hrun, ?_, ?_⟩, hidle',
    hstarts, hglob⟩
  · rw [hglob]
    exact hservice.trans h.service
  · rw [hglob]
    unfold processRx akbiProcessRxSerialData
    dsimp only
    rw [hscan]
    dsimp only
    split
    · exact h.running
    · rw [scanWifiResultMsg_eq, storeSsid_aborting]
      exact h.running

theorem exists_listReady (network : Network)
    (hread : asRead (resultPacket (44, 0) 1 network.ssid) = resultPacket (44, 0) 1 network.ssid) :
    ∃ b, Reachable b ∧ ListReady [network.ssid] b := by
  obtain ⟨b, hb, hidle⟩ := exists_serving
  let ask : List Byte := [0x4D, 0, Cid.scanWifis.code, 1]
  let left := (b.at (.calm (.gattWrite false 0 ask))).glob
  have halive := (received_spec 0 ask left).alive.trans (gattsWriteEvt_effect 0 ask left).alive
  obtain ⟨_, hb₁⟩ := hb.gatt (a := .gattWrite false 0 ask) rfl rfl halive
  have hstart : InScan left [] (gattsWriteEvt false 0 ask left) := asksScan_inScan rfl 0 left
  have hle := network.length_le
  obtain ⟨b₂, ccuMsg, mem, wild, hb₂, hidle₂, hstarts, hglob₂⟩ := hb₁.scanned hidle hread
    (by simp [resultPacket]; omega) rfl
  have hfound : InScan left [network.ssid] b₂.glob := by
    rw [hglob₂]
    exact (hstart.amid _).found hstarts (by decide) _
  have hplain : asRead [RxOpcode.scanWifiResult.code, 44, 0, 0] = _ := rfl
  obtain ⟨b₃, ccuMsg', mem', wild', hb₃, _, hend, hglob₃⟩ := hb₂.scanned hidle₂ hplain
    (by decide) rfl
  have hlast : isScanEnd ccuMsg' := by
    refine ⟨?_, hend (fun _ => 0) 3 (by decide) (by decide)⟩
    exact congrArg RxOpcode.ofByte? (hend (fun _ => 0) 0 (by decide) (by decide))
  have hafter : AfterScan left [network.ssid] b₃.glob := by
    rw [hglob₃]
    exact (hfound.amid _).ended hlast _
  refine ⟨b₃, hb₃.reachable, hb₃.service, hafter.btState, Nat.succ_le_succ (Nat.zero_le 19), ?_, hafter.wifiReport, ?_⟩
  · intro row hrow
    rw [List.mem_singleton.mp hrow]
    exact ⟨network.length_pos, hle⟩
  · intro k hk hk'
    rw [hafter.wifiReportLength, lengthOr, List.getElem?_eq_getElem hk]
    rfl

theorem ListReady.reads {rows : List (List Byte)} {b : Bridge} (h : ListReady rows b) :
    ∃ b', Machine.run step b [.calm .gattRead, .calm .gattRead] = some b' := by
  let mid : Bridge := { b with glob := gattsReadEvt (b.at (.calm .gattRead)).glob }
  have hfirst : step b (.calm .gattRead) = some mid := if_pos h.service
  have hservice : mid.glob.main.serviceCreated = true :=
    (gattsReadEvt_polled (b.at (.calm .gattRead)).glob).alive.service.trans h.service
  have hsecond : step mid (.calm .gattRead) =
      some { mid with glob := gattsReadEvt (mid.at (.calm .gattRead)).glob } := if_pos hservice
  refine ⟨{ mid with glob := gattsReadEvt (mid.at (.calm .gattRead)).glob }, ?_⟩
  simp only [Machine.run, hfirst, hsecond, Option.bind_some]

def oneLetter : Network where
  ssid := [0x41]
  length_pos := by decide
  length_le := by decide
  length_ne := by decide
  nonzero := by simp

def fourteenLetters : Network where
  ssid := List.replicate 14 0x41
  length_pos := by decide
  length_le := by decide
  length_ne := by decide
  nonzero := by simp

theorem oneLetter_inside : ∃ b b', ListReady [[0x41]] b ∧
    Machine.run step b [.calm .gattRead, .calm .gattRead] = some b' ∧
    ReadsInside 1 b [.calm .gattRead, .calm .gattRead] := by
  obtain ⟨b, _, h⟩ := exists_listReady oneLetter (by decide)
  obtain ⟨b', hr⟩ := h.reads
  refine ⟨b, b', h, hr, (reads_inside_iff h (by simp [Event.calm, Action.browses]) hr).mpr ?_⟩
  intro k hk
  obtain rfl : k = 0 := Nat.lt_one_iff.mp (Nat.lt_of_succ_lt_succ hk)
  have hshort : (oneLetter.ssid.takeWhile (· ≠ 0)).length ≤ 12 := by decide
  exact ⟨by decide, fun _ => hshort, fun _ hend => absurd hend (by decide)⟩

/-- The name of fourteen bytes is copied over the end of the reply before it is cut. -/
theorem fourteenLetters_overrun : ¬ ∀ (rows : List (List Byte)) (b b' : Bridge) (es : List Event),
    Reachable b → ListReady rows b → (∀ e ∈ es, e.action.browses = true) →
      Machine.run step b es = some b' → ReadsInside rows.length b es := by
  intro hevery
  obtain ⟨b, hreach, h⟩ := exists_listReady fourteenLetters (by decide)
  obtain ⟨b', hr⟩ := h.reads
  have hin := hevery _ b b' _ hreach h (by simp [Event.calm, Action.browses]) hr
  simp only [Machine.run, Option.bind_eq_some_iff] at hr
  obtain ⟨mid, hmid, _⟩ := hr
  have hfirst : Machine.run step b [.calm .gattRead] = some mid := by
    simp [Machine.run, hmid]
  have hat := h.browsing (by simp [Event.calm, Action.browses]) hfirst
  have hread := hin [.calm .gattRead] (.calm .gattRead) [] mid rfl rfl hfirst hat.readUpTo.1
  have hfits := (readInside_iff (g := (mid.at (.calm .gattRead)).glob) (k := 0) h.table hat.table
    hat.readUpTo).mp hread
  exact absurd (hfits.stored (by decide)) (by decide)

end EspBridges.Ccu
