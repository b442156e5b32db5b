import EspBridges.Ccu.PacketReads

namespace EspBridges.Ccu

open Bytes

/-- The three lengths of `CCU_READY` against the three objects they fill. -/
structure ReadyFits (rd : Nat → Byte) : Prop where
  version : (rd 4).toNat ≤ 10
  serial : (rd (serialTlv rd + 1)).toNat ≤ 20
  post : (rd (postTlv rd + 1)).toNat ≤ 1

/-- Of the two tables an SSID goes to, one has 20 rows and the other 50 columns. -/
structure ScanFits (ccuMsg : Buf 500) : Prop where
  row : (ccuMsg 3).toNat ≤ 20
  length : (ccuMsg 4).toNat ≤ 50

def PacketFits (ccuMsg : Buf 500) (g : Globals) : Prop :=
  match rxOpcode ccuMsg with
  | some .ccuReady => ReadyFits (ccuMsg.rd fun _ => 0)
  | some .scanWifiResult => ccuMsg 3 = 0 ∨ ScanFits ccuMsg
  | some .loginStatus =>
    ccuMsg 5 = success → g.handler.postResult = allSuccessPostValue →
      ∃ i, g.main.firmwareVersion i = 0
  | _ => True

structure Harmless (g g' : Globals) : Prop where
  oob : g'.env.oob = g.env.oob
  report : g'.handler.wifiScanReport = g.handler.wifiScanReport

theorem readyFits_congr {rd rd' : Nat → Byte} (h : ∀ i < 500, rd i = rd' i) (hfits : ReadyFits rd) :
    ReadyFits rd' := by
  have hserial : serialTlv rd' = serialTlv rd := by
    rw [serialTlv, serialTlv, h 4 (by omega)]
  have hversion := hfits.version
  have hlen : serialTlv rd = 5 + (rd 4).toNat := rfl
  have hpost : postTlv rd' = postTlv rd := by
    rw [postTlv, postTlv, hserial, h (serialTlv rd + 1) (by omega)]
  have hlast : postTlv rd = serialTlv rd + 2 + (rd (serialTlv rd + 1)).toNat := rfl
  have hle := hfits.serial
  refine ⟨?_, ?_, ?_⟩
  · rw [← h 4 (by omega)]
    exact hversion
  · rw [hserial, ← h _ (by omega)]
    exact hle
  · rw [hpost, ← h _ (by omega)]
    exact hfits.post

theorem ccuReadyMsg_oob (ccuMsg : Buf 500) (g : Globals) :
    (ccuReadyMsg ccuMsg g).env.oob = false ↔
      g.env.oob = false ∧ ReadyFits (ccuMsg.rd fun _ => 0) := by
  have hsame : ∀ i < 500, ccuMsg.rd (g.env.wild.byte .serialRxData) i = ccuMsg.rd (fun _ => 0) i := by
    intro i hi
    rw [Buf.rd_of_lt _ _ hi, Buf.rd_of_lt _ _ hi]
  have hiff : ReadyFits (ccuMsg.rd fun _ => 0) ↔
      ReadyFits (ccuMsg.rd (g.env.wild.byte .serialRxData)) :=
    ⟨readyFits_congr fun i hi => (hsame i hi).symm, readyFits_congr hsame⟩
  rw [hiff]
  generalize hrd : ccuMsg.rd (g.env.wild.byte .serialRxData) = rd
  have hoob : (ccuReadyMsg ccuMsg g).env.oob = (g.env.oob || !((rd 4).toNat ≤ 10 &&
      (rd (serialTlv rd + 1)).toNat ≤ 20 && (rd (postTlv rd + 1)).toNat ≤ 1 &&
      postTlv rd + 2 + (rd (postTlv rd + 1)).toNat ≤ 500)) := by
    rw [← hrd]
    rfl
  have hserial : serialTlv rd = 5 + (rd 4).toNat := rfl
  have hpost : postTlv rd = serialTlv rd + 2 + (rd (serialTlv rd + 1)).toNat := rfl
  rw [hoob]
  simp only [Bool.or_eq_false_iff, Bool.not_eq_false', Bool.and_eq_true, decide_eq_true_eq]
  refine and_congr_right fun _ => ⟨fun h => ⟨h.1.1.1, h.1.1.2, h.1.2⟩, fun h => ?_⟩
  obtain ⟨hversion, hle, hone⟩ := h
  exact ⟨⟨⟨hversion, hle⟩, hone⟩, by omega⟩

/-- `strlen(ap_name[0x0b])` ends within its row, which the longest SSID does not fill. -/
def RowEnds (g : Globals) : Prop := g.handler.wifiScanReport.apName ⟨1199, by decide⟩ = 0

theorem RowEnds.strlen (h : RowEnds g) : (apNameRow g 0x0b).strlen < 100 := by
  have hroom : 99 < (apNameRow g 0x0b).room := by
    show 99 < 2000 - 100 * 0x0b
    omega
  have hzero : (apNameRow g 0x0b).byte 99 = 0 := by
    show g.handler.wifiScanReport.apName.rd (g.env.wild.byte .apName) 1199 = 0
    rw [Buf.rd_of_lt _ _ (by omega)]
    exact h
  exact Nat.lt_succ_of_le (cstrlen_le _ hroom hzero)

section StoreSsid

variable {type : Byte} {length : Nat} {payload : Nat → Byte} {g : Globals}

theorem storeSsid_oob (htype : type ≠ 0) : (storeSsid type length payload g).env.oob = false ↔
    g.env.oob = false ∧ type.toNat ≤ 20 ∧ length ≤ 50 := by
  have hpos : 0 < type.toNat := by
    rw [Nat.pos_iff_ne_zero]
    exact fun hz => htype (UInt8.toNat_inj.mp hz)
  unfold storeSsid saveSsids
  dsimp only
  generalize hg₁ : Globals.setRet bleRetMsgRcOffset wifiScanningInProgress _ = g₁
  have henv : g₁.env = g.env := by
    rw [← hg₁]
    show (if type = 1 then _ else g : Globals).env = g.env
    split <;> rfl
  rw [henv]
  simp only [Bool.or_eq_false_iff, Bool.not_eq_false', Bool.and_eq_true, decide_eq_true_eq]
  simp only [apNameRow]
  rw [and_assoc]
  apply and_congr_right
  intro _
  rcases ssidRow_cases type g₁ with hrow | ⟨hrow, hten⟩
  · rw [hrow]
    omega
  · rw [hrow]
    omega

theorem storeSsid_rowEnds (h : RowEnds g) (hlen : length ≤ 50) :
    RowEnds (storeSsid type length payload g) := by
  unfold storeSsid saveSsids
  dsimp only
  generalize hg₁ : Globals.setRet bleRetMsgRcOffset wifiScanningInProgress _ = g₁
  have hkept : RowEnds g₁ := by
    rw [← hg₁]
    show RowEnds (if type = 1 then _ else g : Globals)
    split
    · rfl
    · exact h
  unfold RowEnds at *
  dsimp only
  rw [Buf.memcpy_apply, if_neg]
  · exact hkept
  · simp only
    omega

end StoreSsid

theorem version_ends {g : Globals} (w : Wild Obj) :
    (g.main.firmwareVersion.view w .firmwareVersion).strlen < 10 ↔
      ∃ i, g.main.firmwareVersion i = 0 := by
  refine (cstrlen_lt_iff _).trans ⟨?_, ?_⟩
  · rintro ⟨i, hi, hz⟩
    exact ⟨⟨i, hi⟩, (Buf.rd_of_lt _ _ hi).symm.trans hz⟩
  · rintro ⟨i, hz⟩
    exact ⟨i.val, i.isLt, (Buf.rd_of_lt _ _ i.isLt).trans hz⟩

theorem loginStatusMsg_oob (code : Byte) (g : Globals) :
    (loginStatusMsg code g).env.oob = false ↔ g.env.oob = false ∧
      (code = success → g.handler.postResult = allSuccessPostValue →
        ∃ i, g.main.firmwareVersion i = 0) := by
  unfold loginStatusMsg
  by_cases hcode : code = success
  · by_cases hpost : g.handler.postResult = allSuccessPostValue
    · simp only [if_pos hcode, Globals.akbiSetFsmState, Globals.setRet, hpost, ne_eq,
        not_true_eq_false, if_false, Bool.or_eq_false_iff, Bool.not_eq_false', decide_eq_true_eq]
      exact and_congr_right fun _ => (version_ends g.env.wild).trans
        ⟨fun h _ _ => h, fun h => h hcode trivial⟩
    · simp only [if_pos hcode, Globals.akbiSetFsmState, Globals.setRet, ne_eq, hpost,
        not_false_eq_true, if_true]
      exact ⟨fun h => ⟨h, fun _ hp => hp.elim⟩, And.left⟩
  · have hkept : (loginStatusMsg code g).env = g.env := by
      unfold loginStatusMsg
      simp only [if_neg hcode]
      repeat' split
      all_goals rfl
    exact ⟨fun h => ⟨hkept ▸ h, fun hc => absurd hc hcode⟩, fun h => hkept ▸ h.1⟩

theorem loginStatusMsg_report (code : Byte) (g : Globals) :
    (loginStatusMsg code g).handler = g.handler := by
  unfold loginStatusMsg
  dsimp only
  repeat' split
  all_goals rfl

theorem Harmless.oob_iff {g g' : Globals} (h : Harmless g g') :
    g'.env.oob = false ↔ g.env.oob = false ∧ True := by
  rw [h.oob, and_true]

theorem reported_harmless (q : CcuFsmStates) (rc : Byte) (aborting : Bool) (g : Globals) :
    Harmless g (g.reported q rc aborting) :=
  ⟨rfl, rfl⟩

theorem packetFits_other {ccuMsg : Buf 500} (g : Globals)
    (hready : rxOpcode ccuMsg ≠ some .ccuReady) (hscan : rxOpcode ccuMsg ≠ some .scanWifiResult)
    (hlogin : rxOpcode ccuMsg ≠ some .loginStatus) : PacketFits ccuMsg g ↔ True := by
  unfold PacketFits
  split
  · next hop => exact absurd hop hready
  · next hop => exact absurd hop hscan
  · next hop => exact absurd hop hlogin
  · exact Iff.rfl

theorem ssidLength_fits {ccuMsg : Buf 500} (h : (ccuMsg 4).toNat ≤ 50) :
    ssidLength ccuMsg ≤ 50 := by
  unfold ssidLength
  split
  · decide
  · exact h

theorem process_oob (ccuMsg : Buf 500) (length : Nat) (g : Globals) :
    (akbiProcessRxSerialData ccuMsg length g).1.env.oob = false ↔
      g.env.oob = false ∧ PacketFits ccuMsg g := by
  have houtcome := packet_outcome ccuMsg length g
  generalize (akbiProcessRxSerialData ccuMsg length g).1 = g' at houtcome
  cases houtcome with
  | ready hop =>
    unfold PacketFits
    rw [hop]
    exact ccuReadyMsg_oob ccuMsg _
  | scanEnd hop htype =>
    unfold PacketFits
    rw [hop]
    exact ⟨fun h => ⟨h, .inl htype⟩, And.left⟩
  | scanned hop htype =>
    unfold PacketFits
    rw [hop, scanWifiResultMsg_eq, storeSsid_oob htype]
    refine and_congr_right fun _ => ⟨fun h => .inr ⟨h.1, ?_⟩, fun h => ?_⟩
    · have hle := h.2
      unfold ssidLength at hle
      split at hle
      next hfix =>
        rw [hfix.1]
        decide
      next => exact hle
    · have hfits := h.resolve_left htype
      exact ⟨hfits.row, ssidLength_fits hfits.length⟩
  | login hop =>
    unfold PacketFits
    rw [hop]
    exact loginStatusMsg_oob (ccuMsg 5) g
  | reported aborting hready hscan hlogin =>
    rw [packetFits_other g hready hscan hlogin]
    exact (reported_harmless _ _ _ g).oob_iff

theorem process_rowEnds {ccuMsg : Buf 500} {g : Globals} (length : Nat) (h : RowEnds g)
    (hfits : PacketFits ccuMsg g) : RowEnds (akbiProcessRxSerialData ccuMsg length g).1 := by
  have houtcome := packet_outcome ccuMsg length g
  generalize (akbiProcessRxSerialData ccuMsg length g).1 = g' at houtcome
  cases houtcome with
  | ready => exact h
  | scanEnd => exact h
  | scanned hop htype =>
    unfold PacketFits at hfits
    rw [hop] at hfits
    rw [scanWifiResultMsg_eq]
    exact storeSsid_rowEnds h (ssidLength_fits (hfits.resolve_left htype).length)
  | login =>
    unfold RowEnds
    rw [loginStatusMsg_report]
    exact h
  | reported aborting =>
    unfold RowEnds
    rw [(reported_harmless _ _ aborting g).report]
    exact h

structure StaysInside (ccuMsg : Buf 500) (length : Nat) (g : Globals) : Prop where
  copies : (akbiProcessRxSerialData ccuMsg length { g with env.oob := false }).1.env.oob = false
  workaround : rxOpcode ccuMsg = some .scanWifiResult → ccuMsg 3 = 0x0a →
    (apNameRow g 0x0b).strlen < 100

theorem staysInside_iff {ccuMsg : Buf 500} {g : Globals} (length : Nat) (h : RowEnds g) :
    StaysInside ccuMsg length g ↔ PacketFits ccuMsg g := by
  have hcopies := process_oob ccuMsg length { g with env.oob := false }
  rw [and_iff_right rfl] at hcopies
  exact ⟨fun hin => hcopies.mp hin.copies, fun hfits => ⟨hcopies.mpr hfits, fun _ _ => h.strlen⟩⟩

def PacketInside (b : Bridge) (e : Event) : Prop :=
  e.action = .timerExpiry → StaysInside b.serial.packet b.serial.serialDataBytes (b.logged e)

def PacketOk (b : Bridge) (e : Event) : Prop :=
  e.action = .timerExpiry → PacketFits b.serial.packet b.glob

theorem step_rowEnds (b : Bridge) (e : Event) (b' : Bridge) (h : RowEnds b.glob)
    (hok : PacketOk b e) (hs : step b e = some b') : RowEnds b'.glob := by
  obtain ⟨_, rfl⟩ := step_eq_some hs
  have hkept : ∀ g' : Globals, g'.handler = (b.at e).glob.handler → RowEnds g' := by
    intro g' hhandler
    unfold RowEnds
    rw [hhandler]
    exact h
  cases ha : e.action with
  | timerExpiry =>
    rw [timerExpiry_eq]
    exact process_rowEnds _ h (hok ha)
  | gattRead => exact hkept _ (gattsReadEvt_polled _).alive.handler
  | gattWrite isPrep frame value =>
    cases isPrep with
    | true => exact h
    | false =>
      apply hkept
      exact (gattsWriteEvt_effect frame value _).alive.handler.trans
        (received_spec frame value _).alive.handler
  | regEvt =>
    apply hkept
    show (gattsRegEvt (b.at e).glob).handler = _
    unfold gattsRegEvt
    split
    · exact (check_polled _).alive.handler
    · rfl
  | _ => exact h

/-- A run handles all its packets inside the arrays just in case all of them fit. -/
theorem packets_inside_iff (es : List Event) :
    Machine.Guarded step PacketInside .boot es ↔ Machine.Guarded step PacketOk .boot es := by
  apply Machine.guarded_congr (RowEnds ·.glob)
  · intro b e _ h _
    exact forall_congr' fun _ => staysInside_iff _ h
  · exact step_rowEnds
  · rfl

def scannedPastTable : List Byte := [0x70, 0, 0, 21, 1, 0x41]

theorem pastTable_overruns : ¬ ∀ (es : List Event) (b : Bridge) (p : List Byte) (e : Event),
    Machine.run step .boot es = some b → b.serial.Agrees p → 1 ≤ p.length → p.length ≤ 498 →
      PacketInside b e := by
  intro hevery
  let bytes := scannedPastTable.map fun dataByte => Event.calm (.byteReceived dataByte)
  obtain ⟨b, _, _, hrun, hagrees, _⟩ := run_bytes (b := .boot) boot_agrees rfl scannedPastTable
    bytes rfl (by decide)
  have hin := (hevery bytes b scannedPastTable (.calm .timerExpiry) hrun hagrees (by decide)
    (by decide) rfl).copies
  have hfits := ((process_oob _ _ _).mp hin).2
  have hop : rxOpcode b.serial.packet = some .scanWifiResult := by
    unfold rxOpcode
    rw [packet_apply hagrees 0 (by decide) (by decide)]
    rfl
  have htype : b.serial.packet 3 = 21 := packet_apply hagrees 3 (by decide) (by decide)
  unfold PacketFits at hfits
  rw [hop] at hfits
  rcases hfits with hnone | hscan
  · rw [htype] at hnone
    exact absurd hnone (by decide)
  · have hrow := hscan.row
    rw [htype] at hrow
    exact absurd hrow (by decide)

end EspBridges.Ccu
