import EspBridges.Ccu.PacketReads

namespace EspBridges.Ccu

open Bytes

structure CcuIdentity where
  firmwareVersion : List Byte
  ccuSerialNo : List Byte
  postResult : Byte
  version_pos : 1 ≤ firmwareVersion.length
  version_le : firmwareVersion.length ≤ 9
  serial_pos : 1 ≤ ccuSerialNo.length
  serial_le : ccuSerialNo.length ≤ 19
  plain : ∀ x ∈ firmwareVersion ++ ccuSerialNo ++ [postResult], x ≠ 0x0D

namespace CcuIdentity

variable (r : CcuIdentity)

def packet (trans : Byte × Byte) : List Byte :=
  [RxOpcode.ccuReady.code, trans.1, trans.2] ++
    Tlv.encode [(1, r.firmwareVersion), (2, r.ccuSerialNo), (3, [r.postResult])]

structure Decoded (g : Globals) : Prop where
  firmwareVersion : g.main.firmwareVersion = fun i => r.firmwareVersion.getD i.val 0
  ccuSerialNo : g.main.ccuSerialNo = fun i => r.ccuSerialNo.getD i.val 0
  postResult : g.handler.postResult = r.postResult

theorem decoded_iff {g : Globals} : r.Decoded g ↔
    (outcome g).firmwareVersion = (fun i => r.firmwareVersion.getD i.val 0) ∧
      (outcome g).ccuSerialNo = (fun i => r.ccuSerialNo.getD i.val 0) ∧
        (outcome g).postResult = r.postResult :=
  ⟨fun h => ⟨h.firmwareVersion, h.ccuSerialNo, h.postResult⟩, fun h => ⟨h.1, h.2.1, h.2.2⟩⟩

theorem version_plain (hi : i < r.firmwareVersion.length) :
    uartRead (r.firmwareVersion.getD i 0) = r.firmwareVersion.getD i 0 := by
  apply uartRead_of_ne
  rw [List.getD_eq_getElem?_getD, List.getElem?_eq_getElem hi]
  exact r.plain _ (List.mem_append_left _ (List.mem_append_left _ (List.getElem_mem hi)))

theorem serial_plain (hi : i < r.ccuSerialNo.length) :
    uartRead (r.ccuSerialNo.getD i 0) = r.ccuSerialNo.getD i 0 := by
  apply uartRead_of_ne
  rw [List.getD_eq_getElem?_getD, List.getElem?_eq_getElem hi]
  exact r.plain _ (List.mem_append_left _ (List.mem_append_right _ (List.getElem_mem hi)))

theorem post_plain : uartRead r.postResult = r.postResult :=
  uartRead_of_ne (r.plain _ (List.mem_append_right _ (List.mem_singleton_self _)))

theorem length_packet (trans : Byte × Byte) :
    (r.packet trans).length = 10 + r.firmwareVersion.length + r.ccuSerialNo.length := by
  simp [packet, Tlv.encode]
  omega

theorem packet_versionLength (trans : Byte × Byte) :
    (r.packet trans).getD 4 0 = UInt8.ofNat r.firmwareVersion.length := rfl

theorem packet_version (trans : Byte × Byte) (hi : i < r.firmwareVersion.length) :
    (r.packet trans).getD (5 + i) 0 = r.firmwareVersion.getD i 0 := by
  rw [Nat.add_comm, List.getD_eq_getElem?_getD, List.getD_eq_getElem?_getD]
  show ((r.firmwareVersion ++ _)[i]?).getD 0 = _
  rw [List.getElem?_append_left hi]

theorem packet_behind (trans : Byte × Byte) (i : Nat) :
    (r.packet trans).getD (5 + r.firmwareVersion.length + i) 0 =
      (2 :: UInt8.ofNat r.ccuSerialNo.length :: (r.ccuSerialNo ++ [3, 1, r.postResult])).getD i 0 := by
  rw [Nat.add_assoc, Nat.add_comm, List.getD_eq_getElem?_getD, List.getD_eq_getElem?_getD]
  show ((r.firmwareVersion ++ _)[r.firmwareVersion.length + i]?).getD 0 = _
  rw [List.getElem?_append_right (Nat.le_add_right _ _), Nat.add_sub_cancel_left]
  rfl

theorem packet_serial (trans : Byte × Byte) (hi : i < r.ccuSerialNo.length) :
    (r.packet trans).getD (5 + r.firmwareVersion.length + 2 + i) 0 = r.ccuSerialNo.getD i 0 := by
  rw [Nat.add_assoc, packet_behind, Nat.add_comm, List.getD_eq_getElem?_getD,
    List.getD_eq_getElem?_getD]
  show ((r.ccuSerialNo ++ _)[i]?).getD 0 = _
  rw [List.getElem?_append_left hi]

theorem packet_post (trans : Byte × Byte) (i : Nat) :
    (r.packet trans).getD (5 + r.firmwareVersion.length + 2 + r.ccuSerialNo.length + i) 0 =
      [3, 1, r.postResult].getD i 0 := by
  rw [Nat.add_assoc, Nat.add_assoc, packet_behind, Nat.add_comm, List.getD_eq_getElem?_getD,
    List.getD_eq_getElem?_getD]
  show ((r.ccuSerialNo ++ _)[r.ccuSerialNo.length + i]?).getD 0 = _
  rw [List.getElem?_append_right (Nat.le_add_right _ _), Nat.add_sub_cancel_left]

section Received

variable {r} {trans : Byte × Byte} {t : SerialTask} (h : t.Agrees (asRead (r.packet trans)))
  (beyond : Nat → Byte)

include h

theorem received_rd (hi : i < 10 + r.firmwareVersion.length + r.ccuSerialNo.length) :
    t.packet.rd beyond i = uartRead ((r.packet trans).getD i 0) := by
  have hversion := r.version_le
  have hserial := r.serial_le
  have hlen : (asRead (r.packet trans)).length = (r.packet trans).length := List.length_map _
  rw [length_packet] at hlen
  have hbyte := packet_apply h ⟨i, by omega⟩ (by rw [hlen]; exact hi) (by omega)
  rw [Buf.rd_of_lt _ _ (by omega), hbyte]
  simp only [asRead, List.getD_eq_getElem?_getD, List.getElem?_map]
  cases (r.packet trans)[i]? <;> rfl

theorem received_versionLength : (t.packet.rd beyond 4).toNat = r.firmwareVersion.length := by
  have hle := r.version_le
  rw [received_rd h beyond (by omega), packet_versionLength]
  exact (uartRead_length _ (by omega)).2 (by omega)

theorem received_version : versionOf (t.packet.rd beyond) =
    fun i => r.firmwareVersion.getD i.val 0 := by
  funext i
  rw [versionOf_apply, received_versionLength h beyond]
  by_cases hi : i.val < r.firmwareVersion.length
  · rw [if_pos hi, received_rd h beyond (by omega), packet_version _ _ hi, r.version_plain hi]
  · rw [if_neg hi, List.getD_eq_getElem?_getD, List.getElem?_eq_none (Nat.le_of_not_lt hi)]
    rfl

theorem received_serialTlv :
    serialTlv (t.packet.rd beyond) = 5 + r.firmwareVersion.length := by
  rw [serialTlv, received_versionLength h beyond]

theorem received_serialLength : t.packet.rd beyond (serialTlv (t.packet.rd beyond) + 1) =
    uartRead (UInt8.ofNat r.ccuSerialNo.length) := by
  rw [received_serialTlv h beyond, received_rd h beyond (by omega), packet_behind]
  rfl

theorem received_serial_byte (hi : i < r.ccuSerialNo.length) :
    t.packet.rd beyond (5 + r.firmwareVersion.length + 2 + i) = r.ccuSerialNo.getD i 0 := by
  rw [received_rd h beyond (by omega), packet_serial _ _ hi, r.serial_plain hi]

theorem received_serial {n : Nat} (hn : n ≤ r.ccuSerialNo.length)
    (hlen : (t.packet.rd beyond (serialTlv (t.packet.rd beyond) + 1)).toNat = n) :
    serialOf (t.packet.rd beyond) = fun i => if i.val < n then r.ccuSerialNo.getD i.val 0 else 0 := by
  funext i
  rw [serialOf_apply, hlen, received_serialTlv h beyond]
  by_cases hi : i.val < n
  · rw [if_pos hi, if_pos hi, received_serial_byte h beyond (by omega)]
  · rw [if_neg hi, if_neg hi]

theorem received_postTlv {n : Nat}
    (hlen : (t.packet.rd beyond (serialTlv (t.packet.rd beyond) + 1)).toNat = n) :
    postTlv (t.packet.rd beyond) = 5 + r.firmwareVersion.length + 2 + n := by
  rw [postTlv, hlen, received_serialTlv h beyond]

theorem received_post (hlen : (t.packet.rd beyond (serialTlv (t.packet.rd beyond) + 1)).toNat =
    r.ccuSerialNo.length) (postResult : Byte) :
    postOf (t.packet.rd beyond) postResult = r.postResult := by
  have hone : t.packet.rd beyond (postTlv (t.packet.rd beyond) + 1) = 1 := by
    rw [received_postTlv h beyond hlen, received_rd h beyond (by omega), packet_post]
    rfl
  rw [postOf, hone, if_pos (by decide), received_postTlv h beyond hlen,
    received_rd h beyond (by omega), packet_post]
  exact r.post_plain

/-- Of thirteen bytes the walk takes ten, and the last two for the length and the value of the
result. -/
theorem received_post_short (hthirteen : r.ccuSerialNo.length = 13)
    (hlen : (t.packet.rd beyond (serialTlv (t.packet.rd beyond) + 1)).toNat = 10)
    (postResult : Byte) : postOf (t.packet.rd beyond) postResult =
      if 0 < (r.ccuSerialNo.getD 11 0).toNat then r.ccuSerialNo.getD 12 0 else postResult := by
  rw [postOf, received_postTlv h beyond hlen]
  have hlength := received_serial_byte h beyond (i := 11) (by omega)
  have hvalue := received_serial_byte h beyond (i := 12) (by omega)
  rw [← hlength, ← hvalue]

end Received

/-- A serial number of any length but thirteen, or three zeroes at the end of one of thirteen
and the result the bridge has already. -/
def Survives (postResult : Byte) : Prop :=
  r.ccuSerialNo.length = 13 → r.ccuSerialNo.getD 10 0 = 0 ∧ r.ccuSerialNo.getD 11 0 = 0 ∧
    r.ccuSerialNo.getD 12 0 = 0 ∧ postResult = r.postResult

theorem cut_eq_iff (hthirteen : r.ccuSerialNo.length = 13) :
    (fun i : Fin 20 => if i.val < 10 then r.ccuSerialNo.getD i.val 0 else 0) =
        (fun i => r.ccuSerialNo.getD i.val 0) ↔
      r.ccuSerialNo.getD 10 0 = 0 ∧ r.ccuSerialNo.getD 11 0 = 0 ∧ r.ccuSerialNo.getD 12 0 = 0 := by
  constructor
  · intro heq
    have hat := fun i : Fin 20 => (congrFun heq i).symm
    exact ⟨hat 10, hat 11, hat 12⟩
  · rintro ⟨h10, h11, h12⟩
    funext i
    by_cases hi : i.val < 10
    · rw [if_pos hi]
    · rw [if_neg hi]
      obtain hi | hi | hi | hi : i.val = 10 ∨ i.val = 11 ∨ i.val = 12 ∨ 13 ≤ i.val := by omega
      · rw [hi, h10]
      · rw [hi, h11]
      · rw [hi, h12]
      · rw [List.getD_eq_getElem?_getD, List.getElem?_eq_none (by omega)]
        rfl

variable {r}

theorem handled_decoded {trans : Byte × Byte} {t : SerialTask}
    (h : t.Agrees (asRead (r.packet trans))) (length : Nat) (g : Globals) :
    r.Decoded (akbiProcessRxSerialData t.packet length g).1 ↔ r.Survives g.handler.postResult := by
  have hlong : (asRead (r.packet trans)).length ≤ 38 := by
    have hversion := r.version_le
    have hserial := r.serial_le
    rw [asRead, List.length_map, length_packet]
    omega
  have hop : RxOpcode.ofByte? (t.packet 0) = some .ccuReady := by
    rw [packet_apply h 0 (by simp [asRead, packet]) (by omega)]
    rfl
  have hglob : (akbiProcessRxSerialData t.packet length g).1 =
      ccuReadyMsg t.packet (g.akbiSetFsmState .ccuReady) := by
    unfold akbiProcessRxSerialData
    rw [hop]
  rw [hglob]
  generalize hbeyond : g.env.wild.byte .serialRxData = beyond
  have hserial := received_serialLength h beyond
  have hle := r.serial_le
  have hread := uartRead_length r.ccuSerialNo.length (by omega)
  have hdecoded : ∀ g' : Globals, g'.env.wild.byte .serialRxData = beyond →
      (r.Decoded (ccuReadyMsg t.packet g') ↔
        serialOf (t.packet.rd beyond) = (fun i => r.ccuSerialNo.getD i.val 0) ∧
          postOf (t.packet.rd beyond) g'.handler.postResult = r.postResult) := by
    rintro g' rfl
    rw [decoded_iff, ccuReadyMsg_outcome]
    dsimp only
    exact and_iff_right (received_version h _)
  rw [hdecoded (g.akbiSetFsmState .ccuReady) hbeyond,
    show (g.akbiSetFsmState .ccuReady).handler = g.handler from rfl]
  by_cases hthirteen : r.ccuSerialNo.length = 13
  · have hten : (t.packet.rd beyond (serialTlv (t.packet.rd beyond) + 1)).toNat = 10 := by
      rw [hserial, hread.1.mpr (.inr hthirteen)]
      rfl
    rw [received_serial h beyond (by omega) hten, received_post_short h beyond hthirteen hten,
      cut_eq_iff r hthirteen, Survives, forall_prop_of_true hthirteen]
    constructor
    · rintro ⟨⟨h10, h11, h12⟩, hpost⟩
      rw [h11, if_neg (by decide)] at hpost
      exact ⟨h10, h11, h12, hpost⟩
    · rintro ⟨h10, h11, h12, hpost⟩
      rw [h11, if_neg (by decide)]
      exact ⟨⟨h10, rfl, h12⟩, hpost⟩
  · have hsame : (t.packet.rd beyond (serialTlv (t.packet.rd beyond) + 1)).toNat =
        r.ccuSerialNo.length := by
      rw [hserial]
      exact hread.2 hthirteen
    refine iff_of_true ⟨?_, received_post h beyond hsame _⟩ fun hlen => absurd hlen hthirteen
    rw [received_serial h beyond (Nat.le_refl _) hsame]
    funext i
    by_cases hi : i.val < r.ccuSerialNo.length
    · rw [if_pos hi]
    · rw [if_neg hi, List.getD_eq_getElem?_getD, List.getElem?_eq_none (Nat.le_of_not_lt hi)]
      rfl

/-- The bridge knows the CCU by what it said of itself, unless its serial number has thirteen
bytes. -/
theorem ready_decoded_iff {b : Bridge} (hidle : b.serial.Agrees [])
    (hrunning : b.glob.env.aborting = false) (trans : Byte × Byte) {es : List Event}
    (hes : es.map Event.action = packetActions (r.packet trans)) :
    ∃ b', Machine.run step b es = some b' ∧
      (r.Decoded b'.glob ↔ r.Survives b.glob.handler.postResult) := by
  have hversion := r.version_le
  have hserial := r.serial_le
  have hlen := r.length_packet trans
  obtain ⟨b', t, mem, wild, hrun, _, hagrees, hglob⟩ := packet_delivered hidle hrunning
    (by omega) (by omega) hes
  refine ⟨b', hrun, ?_⟩
  rw [hglob]
  exact handled_decoded hagrees _ _

def thirteenLetters : CcuIdentity where
  firmwareVersion := [0x31]
  ccuSerialNo := List.replicate 13 0x41
  postResult := 7
  version_pos := by decide
  version_le := by decide
  serial_pos := by decide
  serial_le := by decide
  plain := by simp

def twelveLetters : CcuIdentity where
  firmwareVersion := [0x31]
  ccuSerialNo := List.replicate 12 0x41
  postResult := 7
  version_pos := by decide
  version_le := by decide
  serial_pos := by decide
  serial_le := by decide
  plain := by simp

theorem twelveLetters_decoded : ∃ b', Machine.run step .boot
      ((packetActions (twelveLetters.packet (44, 0))).map .calm) = some b' ∧
    (twelveLetters.Decoded b'.glob ↔ twelveLetters.Survives 0) :=
  ready_decoded_iff boot_agrees rfl (44, 0) (by simp [Event.calm, Function.comp_def])

/-- The walk reads the last two letters of thirteen as the length and the value of the result. -/
theorem thirteenLetters_lost : ¬ ∀ (r : CcuIdentity) (b b' : Bridge) (trans : Byte × Byte)
    (es : List Event), b.serial.Agrees [] → b.glob.env.aborting = false →
      es.map Event.action = packetActions (r.packet trans) → Machine.run step b es = some b' →
      r.Decoded b'.glob := by
  intro hevery
  have hes : ((packetActions (thirteenLetters.packet (44, 0))).map Event.calm).map Event.action =
      packetActions (thirteenLetters.packet (44, 0)) := by
    simp [Event.calm, Function.comp_def]
  obtain ⟨b', t, mem, wild, hrun, _, hagrees, hglob⟩ := packet_delivered (b := .boot)
    boot_agrees rfl (by decide) (by decide) hes
  have hdecoded := hevery thirteenLetters .boot b' (44, 0) _ boot_agrees rfl hes hrun
  rw [hglob] at hdecoded
  have hsurvives := (handled_decoded hagrees _ _).mp hdecoded
  exact absurd (hsurvives rfl).1 (by decide)

end CcuIdentity

end EspBridges.Ccu
