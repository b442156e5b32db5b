import EspBridges.Ccu.EncoderLaws
import EspBridges.Ccu.SessionIsolation

namespace EspBridges.Ccu

open Bytes

theorem transmit_oob (msg : Wild Obj → Tx) (g : Globals) : (g.transmit msg).env.oob = false ↔
    g.env.oob = false ∧ (msg g.env.wild).inBounds = true := by
  rw [Globals.transmit, sendUartMessage_oob, Bool.or_eq_false_iff, Bool.not_eq_false']

theorem access_oob (ok : Bool) (g : Globals) :
    (g.access ok).env.oob = false ↔ g.env.oob = false ∧ ok = true := by
  rw [Globals.access, Bool.or_eq_false_iff, Bool.not_eq_false']

theorem checked_transmit_oob (ok : Bool) (msg : Wild Obj → Tx) (g : Globals) :
    ((g.access ok).transmit msg).env.oob = false ↔
      g.env.oob = false ∧ ok = true ∧ (msg g.env.wild).inBounds = true := by
  rw [transmit_oob, access_oob, and_assoc]
  rfl

section Frames

variable (w : Wild Obj)

theorem sendRegMsgNew_inBounds (type : Byte) (v : View) {dataLen : Nat} (h : dataLen < 256) :
    (ccuSendRegMsgNew type v dataLen w).inBounds = true ↔ dataLen ≤ 20 ∧ dataLen ≤ v.room := by
  rw [Tx.inBounds_iff]
  simp only [ccuSendRegMsgNew, View.ofTx, Buf.view, Bool.and_eq_true, decide_eq_true_eq,
    Nat.mod_eq_of_lt h]
  omega

theorem numberMsg_inBounds (opcode : Byte) (type : Option Byte) {v : View} (hroom : 20 ≤ v.room) :
    (numberMsg opcode type v w).inBounds = true ↔ (v.byte 4).toNat ≤ 15 := by
  rw [Tx.inBounds_iff]
  simp only [numberMsg, View.ofTx, Buf.view, Bool.and_eq_true, decide_eq_true_eq]
  omega

theorem rawAudioMsg_inBounds (opcode : Byte) {row : View} {chunkLength : Nat} (number : Byte)
    (hroom : row.room = 256) :
    (rawAudioMsg opcode row chunkLength number w).inBounds = true ↔ chunkLength ≤ 256 := by
  rw [Tx.inBounds_iff]
  simp only [rawAudioMsg, View.ofTx, Buf.view, Bool.and_eq_true, decide_eq_true_eq, hroom]
  omega

theorem connectToWifi_inBounds {v : View} (hroom : v.room ≤ 16) :
    (ccuSentConnectToWifi v w).inBounds = true ↔ 10 ≤ v.room ∧ ∃ i < v.room, v.byte i = 0 := by
  rw [Tx.inBounds_iff, ← cstrlen_lt_iff v.run]
  show _ ↔ 10 ≤ v.room ∧ v.strlen < v.room
  simp only [ccuSentConnectToWifi, timestampSize, View.ofTx, Buf.view, Bool.and_eq_true,
    decide_eq_true_eq]
  omega

theorem updateSwMsg_inBounds (v : View) :
    (ccuSentUpdateSwMsg v w).inBounds = true ↔ 10 ≤ v.room := by
  rw [Tx.inBounds_iff]
  simp only [ccuSentUpdateSwMsg, timestampSize, View.ofTx, Buf.view, decide_eq_true_eq]
  omega

theorem sendLoginMsg_inBounds {v time : View} (hroom : v.room = 20) (htime : 10 ≤ time.room) :
    v.strlen < 20 ∧ (ccuSendLoginMsg v v.strlen time w).inBounds = true ↔ v.strlen ≤ 8 := by
  have hmod : ∀ n, n < 20 → n % 256 = n := fun n hn => Nat.mod_eq_of_lt (by omega)
  rw [Tx.inBounds_iff]
  simp only [ccuSendLoginMsg, timestampSize, View.ofTx, Buf.view, Bool.and_eq_true,
    decide_eq_true_eq, hroom]
  constructor
  · rintro ⟨hlt, h, _⟩
    rw [hmod _ hlt] at h
    omega
  · intro hle
    rw [hmod _ (by omega)]
    omega

theorem userChangePasswdMsg_inBounds {vc vn : View} (hcroom : vc.room = 20) (hnroom : vn.room = 20)
    (hc : vc.strlen ≤ 16) (hn : vn.strlen ≤ 16) :
    (ccuSentUserChangePasswdMsg vc vn w).inBounds = true := by
  rw [Tx.inBounds_iff]
  simp only [ccuSentUserChangePasswdMsg, View.ofTx, Buf.view, Bool.and_eq_true, decide_eq_true_eq]
  omega

theorem configureWifiCredentials_inBounds (apId : Byte) {v : View} (hroom : v.room = 20)
    (hv : v.strlen ≤ 16) : (ccuSentConfigureWifiCredentials apId v w).inBounds = true := by
  rw [Tx.inBounds_iff]
  simp only [ccuSentConfigureWifiCredentials, View.ofTx, Buf.view, Bool.and_eq_true,
    decide_eq_true_eq]
  omega

theorem activateSystemMsg_inBounds {va vb vt : View} (haroom : va.room = 20) (hbroom : vb.room = 20)
    (ha : va.strlen ≤ 16) (hb : vb.strlen ≤ 16) (ht : 10 ≤ vt.room) :
    (ccuSentActivateSystemMsg va vb vt w).inBounds = true := by
  rw [Tx.inBounds_iff]
  simp only [ccuSentActivateSystemMsg, timestampSize, View.ofTx, Buf.view, Bool.and_eq_true,
    decide_eq_true_eq]
  omega

end Frames

theorem savedString_strlen (g : Globals) (row : Nat) {len : Nat} (h : len ≤ 16) (w : Wild Obj)
    (o : Obj) : ((savedString g 20 row len).view w o).strlen ≤ 16 := by
  have hzero : ((savedString g 20 row len).view w o).byte 16 = 0 := by
    rw [Buf.view_byte, savedString, Buf.rd_memcpy, if_neg (by omega), Buf.rd_of_lt _ _ (by omega)]
    rfl
  exact cstrlen_le _ (show 16 < 20 by decide) hzero

theorem iPwd_ends (iPwd : Buf 20) (w : Wild Obj) :
    (iPwd.view w .iPwd).strlen ≤ 8 ↔ ∃ i : Fin 20, i.val ≤ 8 ∧ iPwd i = 0 := by
  constructor
  · intro h
    have hlt : (iPwd.view w .iPwd).strlen < 20 := by omega
    exact ⟨⟨_, hlt⟩, h, (Buf.rd_of_lt _ _ hlt).symm.trans (cstrlen_spec hlt).2⟩
  · rintro ⟨i, hi, hz⟩
    have hle := cstrlen_le (w.run .iPwd) i.isLt ((Buf.rd_of_lt iPwd (w.byte .iPwd) i.isLt).trans hz)
    exact Nat.le_trans hle hi

theorem savedLen_same (v : View) (g : Globals) :
    savedLen (saveGroupMessages v 2 g) 1 = (v.byte 4).toNat := by
  unfold savedLen saveGroupMessages
  rw [Buf.rd_memcpy, if_pos (by decide)]

theorem savedLen_other (v : View) (g : Globals) :
    savedLen (saveGroupMessages v 2 g) 0 = savedLen g 0 := by
  unfold savedLen saveGroupMessages
  rw [Buf.rd_memcpy, if_neg (by decide)]

/-- What a handler needs of its `ble_command`, of the message `p_recvd_msg_full` points to, and
of what earlier messages have left. -/
def CommandFits (iCmd seen : View) (g : Globals) : Option Cid → Prop
  | some .register =>
    iCmd.byte 0 ∈ Cid.dataTypes .register → iCmd.byte 0 ≠ 4 → (iCmd.byte 1).toNat ≤ 15
  | some .login =>
    (iCmd.byte 0 ∈ Cid.dataTypes .login → (iCmd.byte 1).toNat ≤ 15) ∧
      (iCmd.byte 0 = 4 → ∃ i : Fin 20, i.val ≤ 8 ∧ g.ble.login.iPwd i = 0)
  | some .changePassword =>
    (iCmd.byte 1).toNat ≤ 15 ∧
      (iCmd.byte 0 = 2 → savedLen g 0 ≤ 16 ∧ (seen.byte 4).toNat ≤ 16)
  | some .storeEmergencyNumbers =>
    iCmd.byte 0 = 1 ∨ iCmd.byte 0 = 2 → (seen.byte 4).toNat ≤ 15
  -- both copy twenty bytes out of the sixteen behind the data type
  | some .storePersonalNumbers | some .enterLocalHelpNumbers => False
  | some .selectAWifi =>
    (iCmd.byte 1).toNat ≤ 15 ∧ (iCmd.byte 0 = 2 → (seen.byte 4).toNat ≤ 16)
  | some .ccuActivate => (iCmd.byte 1).toNat ≤ 15 ∧ (iCmd.byte 0 = 3 → savedLen g 1 ≤ 16)
  | some .connectToWifi =>
    10 ≤ (iCmd.byte 0).toNat ∧ (iCmd.byte 0).toNat ≤ 16 ∧
      ∃ i < (iCmd.byte 0).toNat, iCmd.byte (1 + i) = 0
  | some .updateCcuSw => 10 ≤ (iCmd.byte 0).toNat ∧ (iCmd.byte 0).toNat ≤ 16
  | _ => True

section Handlers

variable {iCmd : View} (hroom : iCmd.room = 17) {g : Globals}

include hroom

theorem executeRegister_oob : (executeRegister iCmd g).env.oob = false ↔
    g.env.oob = false ∧ CommandFits iCmd (recvdMsgFull g) g (some .register) := by
  have hdata : (iCmd.shift 2).room = 15 := by
    show iCmd.room - 2 = 15
    omega
  have hid : (iCmd.shift 1).room = 16 := by
    show iCmd.room - 1 = 16
    omega
  have hlt := (iCmd.byte 1).toNat_lt
  have hrelay : ∀ (type : Byte) (g' : Globals), g'.env = g.env →
      ((g'.transmit (ccuSendRegMsgNew type (iCmd.shift 2) (iCmd.byte 1).toNat)).env.oob = false ↔
        g.env.oob = false ∧ (iCmd.byte 1).toNat ≤ 15) := by
    intro type g' henv
    rw [transmit_oob, henv, sendRegMsgNew_inBounds _ _ _ (by omega), hdata]
    exact and_congr_right fun _ => by omega
  unfold executeRegister CommandFits
  generalize iCmd.byte 0 = t
  dsimp only
  split
  case h_4 =>
    rw [transmit_oob, sendRegMsgNew_inBounds _ _ _ (by decide), hid]
    simp
  case h_9 h1 h2 h3 h4 h5 h6 h7 h8 =>
    have hnot : t ∉ Cid.dataTypes .register := by
      simp [Cid.dataTypes]
      exact ⟨h1, h2, h3, h4, h5, h6, h7, h8⟩
    exact ⟨fun h => ⟨h, fun hin => absurd hin hnot⟩, And.left⟩
  all_goals
    refine (hrelay _ _ rfl).trans (and_congr_right fun _ => ?_)
    exact ⟨fun h _ _ => h, fun h => h (by decide) (by decide)⟩

theorem executeLogin_oob : (executeLogin iCmd g).env.oob = false ↔
    g.env.oob = false ∧ CommandFits iCmd (recvdMsgFull g) g (some .login) := by
  unfold executeLogin CommandFits
  generalize iCmd.byte 0 = t
  dsimp only
  split
  case h_4 =>
    have hends := iPwd_ends g.ble.login.iPwd g.env.wild
    have hframe := sendLoginMsg_inBounds g.env.wild (v := g.ble.login.iPwd.view g.env.wild .iPwd)
      rfl (show 10 ≤ (g.ble.login.timestamp.view g.env.wild .timestamp).room from Nat.le_add_right 10 5)
    refine (checked_transmit_oob _ _ _).trans ?_
    refine (and_congr (access_oob _ _) (and_congr decide_eq_true_iff Iff.rfl)).trans ?_
    refine and_assoc.trans (and_congr_right fun _ => and_congr ?_ ?_)
    · rw [Bool.and_eq_true, decide_eq_true_eq, decide_eq_true_eq]
      exact ⟨fun h _ => h.1, fun h => by have hle := h (by decide); omega⟩
    · exact (hframe.trans hends).trans ⟨fun h _ => h, fun h => h rfl⟩
  case h_5 h1 h2 h3 h4 =>
    have hnot : t ∉ Cid.dataTypes .login := by
      simp [Cid.dataTypes]
      exact ⟨h1, h2, h3, h4⟩
    exact ⟨fun h => ⟨h, fun hin => absurd hin hnot, fun h => absurd h h4⟩, And.left⟩
  all_goals
    refine (access_oob _ _).trans (and_congr_right fun _ => ?_)
    rw [Bool.and_eq_true, decide_eq_true_eq, decide_eq_true_eq]
    exact ⟨fun h => ⟨fun _ => by omega, fun h4 => absurd h4 (by decide)⟩,
      fun h => by have hle := h.1 (by decide); omega⟩

theorem data_inside {n : Nat} :
    decide (2 + n ≤ iCmd.room) = true ↔ n ≤ 15 := by
  rw [decide_eq_true_eq]
  omega

theorem other_part {g' : Globals} {n : Nat} {t last : Byte} {p : Prop}
    (hoob : g'.env.oob = (g.access (2 + n ≤ iCmd.room)).env.oob) (h : t ≠ last) :
    g'.env.oob = false ↔ g.env.oob = false ∧ n ≤ 15 ∧ (t = last → p) := by
  rw [hoob]
  refine (access_oob _ _).trans (and_congr_right fun _ => (data_inside hroom).trans ?_)
  exact (and_iff_left fun hlast => absurd hlast h).symm

theorem executeChangePassword_oob : (executeChangePassword iCmd g).env.oob = false ↔
    g.env.oob = false ∧ CommandFits iCmd (recvdMsgFull g) g (some .changePassword) := by
  unfold executeChangePassword CommandFits
  generalize iCmd.byte 0 = t
  dsimp only
  split
  case h_2 =>
    refine (checked_transmit_oob _ _ _).trans ?_
    refine (and_congr (access_oob _ _) Iff.rfl).trans ?_
    refine and_assoc.trans (and_congr_right fun _ => and_congr (data_inside hroom) ?_)
    rw [Bool.and_eq_true, decide_eq_true_eq, decide_eq_true_eq, savedLen_same, savedLen_other]
    constructor
    · exact fun h _ => h.1
    · intro h
      have hle := h rfl
      exact ⟨hle, userChangePasswdMsg_inBounds _ rfl rfl (savedString_strlen _ _ hle.1 _ _)
        (savedString_strlen _ _ hle.2 _ _)⟩
  case h_1 => exact other_part hroom rfl (by decide)
  case h_3 h1 h2 => exact other_part hroom rfl h2

theorem executeSelectAWifi_oob : (executeSelectAWifi iCmd g).env.oob = false ↔
    g.env.oob = false ∧ CommandFits iCmd (recvdMsgFull g) g (some .selectAWifi) := by
  unfold executeSelectAWifi CommandFits
  generalize iCmd.byte 0 = t
  dsimp only
  split
  case h_1 =>
    refine (access_oob _ _).trans ((and_congr (access_oob _ _) decide_eq_true_iff).trans ?_)
    refine and_assoc.trans (and_congr_right fun _ => (and_congr_left' (data_inside hroom)).trans ?_)
    exact ⟨fun h => ⟨h.1, fun ht => absurd ht (by decide)⟩, fun h => ⟨h.1, h.1⟩⟩
  case h_2 =>
    refine (transmit_oob _ _).trans ?_
    refine (and_congr_left' ((access_oob _ _).trans (and_congr ((access_oob _ _).trans
      (and_congr (access_oob _ _) decide_eq_true_iff)) decide_eq_true_iff))).trans ?_
    rw [savedLen_same]
    simp only [and_assoc]
    refine and_congr_right fun _ => (and_congr_left' (data_inside hroom)).trans ?_
    constructor
    · exact fun h => ⟨h.1, fun _ => h.2.2.1⟩
    · intro h
      have hle := h.2 rfl
      exact ⟨h.1, h.1, hle, configureWifiCredentials_inBounds _ _ rfl
        (savedString_strlen _ _ hle _ _)⟩
  case h_3 h1 h2 => exact other_part hroom rfl h2

theorem executeCcuActivate_oob : (executeCcuActivate iCmd g).env.oob = false ↔
    g.env.oob = false ∧ CommandFits iCmd (recvdMsgFull g) g (some .ccuActivate) := by
  unfold executeCcuActivate CommandFits
  generalize iCmd.byte 0 = t
  dsimp only
  split
  case h_3 =>
    refine (checked_transmit_oob _ _ _).trans ?_
    refine (and_congr (access_oob _ _) (and_congr decide_eq_true_iff Iff.rfl)).trans ?_
    refine and_assoc.trans (and_congr_right fun _ => and_congr (data_inside hroom) ?_)
    constructor
    · exact fun h _ => h.1
    · intro h
      have hle := h rfl
      exact ⟨hle, activateSystemMsg_inBounds _ rfl rfl (savedString_strlen _ _ hle _ _)
        (savedString_strlen _ _ hle _ _) (Nat.le_add_right 10 5)⟩
  case h_4 h1 h2 h3 => exact other_part hroom rfl h3
  all_goals exact other_part hroom rfl (by decide)

omit hroom in
theorem executeStoreEmergencyNumber_oob : (executeStoreEmergencyNumber iCmd g).env.oob = false ↔
    g.env.oob = false ∧ CommandFits iCmd (recvdMsgFull g) g (some .storeEmergencyNumbers) := by
  have hframe : ∀ g' : Globals, g'.env = g.env → recvdMsgFull g' = recvdMsgFull g →
      ((g'.transmit (ccuSentStoreEmergencyNumberMsg (recvdMsgFull g'))).env.oob = false ↔
        g.env.oob = false ∧ ((recvdMsgFull g).byte 4).toNat ≤ 15) := by
    intro g' henv hseen
    rw [transmit_oob, henv, hseen]
    exact and_congr_right fun _ => numberMsg_inBounds _ _ _ (Nat.le_add_right 20 10)
  unfold executeStoreEmergencyNumber CommandFits
  generalize iCmd.byte 0 = t
  dsimp only
  split
  case h_1 =>
    refine (hframe _ rfl rfl).trans (and_congr_right fun _ => ?_)
    exact ⟨fun h _ => h, fun h => h (.inl rfl)⟩
  case h_2 =>
    refine (hframe _ rfl rfl).trans (and_congr_right fun _ => ?_)
    exact ⟨fun h _ => h, fun h => h (.inr rfl)⟩
  case h_3 h1 h2 => exact ⟨fun h => ⟨h, fun ht => absurd ht (not_or.mpr ⟨h1, h2⟩)⟩, And.left⟩

theorem number_outside {g' : Globals}
    (h : g'.env.oob = (g.env.oob || !decide (1 + mobNoSize ≤ iCmd.room))) : g'.env.oob ≠ false := by
  rw [h, decide_eq_false (by rw [hroom]; decide)]
  simp

/-- The copy of the number reads further than `ble_command` goes, whatever the message. -/
theorem executeStorePersonalNumber_oob : (executeStorePersonalNumber iCmd g).env.oob ≠ false := by
  unfold executeStorePersonalNumber
  generalize iCmd.byte 0 = t
  dsimp only
  split
  case h_3 => exact number_outside hroom rfl
  all_goals
    intro h
    exact number_outside hroom rfl ((transmit_oob _ _).mp h).1

theorem executeEnterLocalHelpNumber_oob :
    (executeEnterLocalHelpNumber iCmd g).env.oob ≠ false := by
  unfold executeEnterLocalHelpNumber
  generalize iCmd.byte 0 = t
  dsimp only
  split
  case h_3 => exact number_outside hroom rfl
  all_goals
    intro h
    have hset := ((transmit_oob _ _).mp h).1
    exact number_outside hroom rfl (Bool.or_eq_false_iff.mp hset).1

theorem executeConnectToWifi_oob : (executeConnectToWifi iCmd g).env.oob = false ↔
    g.env.oob = false ∧ CommandFits iCmd (recvdMsgFull g) g (some .connectToWifi) := by
  unfold executeConnectToWifi CommandFits
  refine (checked_transmit_oob _ _ _).trans (and_congr_right fun _ => ?_)
  have hbyte : ∀ i, i < (iCmd.byte 0).toNat →
      (localCopy (iCmd.shift 1) (iCmd.byte 0).toNat g.env.wild).byte i = iCmd.byte (1 + i) :=
    fun i hi => if_pos hi
  rw [decide_eq_true_eq, hroom]
  constructor
  · rintro ⟨hle, hin⟩
    obtain ⟨hten, i, hi, hz⟩ := (connectToWifi_inBounds _
      (show (iCmd.byte 0).toNat ≤ 16 by omega)).mp hin
    exact ⟨hten, by omega, i, hi, (hbyte i hi).symm.trans hz⟩
  · rintro ⟨hten, hle, i, hi, hz⟩
    exact ⟨by omega, (connectToWifi_inBounds _ hle).mpr ⟨hten, i, hi, (hbyte i hi).trans hz⟩⟩

theorem updateCcuSw_oob : (updateCcuSw iCmd g).env.oob = false ↔
    g.env.oob = false ∧ CommandFits iCmd (recvdMsgFull g) g (some .updateCcuSw) := by
  unfold updateCcuSw CommandFits
  refine (checked_transmit_oob _ _ _).trans (and_congr_right fun _ => ?_)
  rw [decide_eq_true_eq, hroom, updateSwMsg_inBounds]
  show _ ∧ 10 ≤ (iCmd.byte 0).toNat ↔ _
  omega

end Handlers

section Audio

variable {g : Globals} {u : AudioUpload} {data : View} {i : Nat}

theorem storeAudio_oob (hc : g.ble.voice.chunker u = chunkerAt i) (hroom : 20 ≤ data.room) :
    (storeAudio u data g).env.oob = g.env.oob := by
  have hrow : 16 * (i % 16) + 16 ≤ 256 := by omega
  have hnumber : i / 16 % 4 < 4 := Nat.mod_lt _ (by decide)
  unfold storeAudio
  dsimp only
  rw [hc]
  show (g.env.oob || !(decide (i / 16 % 4 < 4) && decide (16 * (i % 16) + 16 ≤ 256) &&
    decide (20 ≤ data.room))) = _
  rw [decide_eq_true hrow, decide_eq_true hnumber, decide_eq_true hroom]
  exact Bool.or_false _

theorem storeAndSend_oob (opcode audioNumber : Byte) (n : Nat)
    (hc : g.ble.voice.chunker u = chunkerAt i) (hroom : 20 ≤ data.room) :
    (storeAndSend u (rawAudioMsg opcode) data audioNumber n g).env.oob = false ↔
      g.env.oob = false := by
  have hoffset : (g.ble.voice.chunker u).chunkOffset ≤ 240 := by
    rw [hc]
    show 16 * (i % 16) ≤ 240
    omega
  have hstore := storeAudio_oob hc hroom
  unfold storeAndSend
  dsimp only
  split
  · refine (transmit_oob _ _).trans ?_
    rw [hstore, rawAudioMsg_inBounds _ _ _ rfl]
    exact and_iff_left (by omega)
  · split
    · refine (transmit_oob _ _).trans ?_
      rw [hstore, rawAudioMsg_inBounds _ _ _ rfl]
      exact and_iff_left (by omega)
    · show (storeAudio u data g).env.oob = false ↔ _
      rw [hstore]

theorem executeRecordPersonalVoiceMsgNew_oob (hk : Kept g.ble.voice) (hroom : 20 ≤ data.room) :
    (executeRecordPersonalVoiceMsgNew data g).env.oob = false ↔ g.env.oob = false := by
  obtain ⟨i, _, hc⟩ := hk.chunker .recordVoice
  unfold executeRecordPersonalVoiceMsgNew
  dsimp only
  split
  · split
    · exact Iff.rfl
    · exact storeAndSend_oob _ _ _ hc hroom
  · split
    · exact (transmit_oob _ _).trans (and_iff_left rfl)
    · exact (transmit_oob _ _).trans (and_iff_left rfl)
    · exact Iff.rfl

theorem executeStoreAddressVisitingNew_oob (hk : Kept g.ble.voice) (hroom : 20 ≤ data.room) :
    (executeStoreAddressVisitingNew data g).env.oob = false ↔ g.env.oob = false := by
  obtain ⟨i, _, hc⟩ := hk.chunker .addressVisiting
  unfold executeStoreAddressVisitingNew
  dsimp only
  split
  · exact (transmit_oob _ _).trans (and_iff_left rfl)
  · exact storeAndSend_oob _ _ _ hc hroom
  · exact Iff.rfl
  · exact Iff.rfl
  · exact Iff.rfl
  · exact Iff.rfl

end Audio

theorem executeScanWifis_oob (iCmd : View) (g : Globals) :
    (executeScanWifis iCmd g).env.oob = g.env.oob := by
  have hsend : ∀ g' : Globals, (g'.transmit ccuSentScanAllWifiMsg).env.oob = g'.env.oob :=
    fun g' => Bool.or_false _
  unfold executeScanWifis
  dsimp only
  split
  · exact hsend _
  · rfl
  · rfl

theorem dispatch_oob (cmd : Option Cid) {iMsg iCmd : View} {g : Globals} (hmsg : iMsg.room = 30)
    (hcmd : iCmd.room = 17) (hk : Kept g.ble.voice) :
    (dispatch cmd iMsg iCmd g).env.oob = false ↔
      g.env.oob = false ∧ CommandFits iCmd (recvdMsgFull g) g cmd := by
  have hroom : 20 ≤ iMsg.room := by omega
  have hplain : ∀ {g' : Globals} {msg : Wild Obj → Tx}, g'.env = g.env →
      (msg g.env.wild).inBounds = true →
      ((g'.transmit msg).env.oob = false ↔ g.env.oob = false ∧ True) := by
    intro g' msg henv hin
    rw [transmit_oob, henv]
    exact and_congr_right fun _ => iff_true_intro hin
  cases cmd with
  | none => exact (iff_of_eq (and_true _)).symm
  | some cmd =>
    cases cmd with
    | register => exact executeRegister_oob hcmd
    | login => exact executeLogin_oob hcmd
    | changePassword => exact executeChangePassword_oob hcmd
    | storeEmergencyNumbers => exact executeStoreEmergencyNumber_oob
    | storePersonalNumbers =>
      exact ⟨fun h => absurd h (executeStorePersonalNumber_oob hcmd), fun h => h.2.elim⟩
    | enterLocalHelpNumbers =>
      exact ⟨fun h => absurd h (executeEnterLocalHelpNumber_oob hcmd), fun h => h.2.elim⟩
    | selectAWifi => exact executeSelectAWifi_oob hcmd
    | ccuActivate => exact executeCcuActivate_oob hcmd
    | connectToWifi => exact executeConnectToWifi_oob hcmd
    | updateCcuSw => exact updateCcuSw_oob hcmd
    | recordPersonalVoiceMsg =>
      have haudio := executeRecordPersonalVoiceMsgNew_oob
        (g := g.akbiSetFsmState .voiceRecordingInProgress) hk hroom
      exact haudio.trans (iff_of_eq (and_true _)).symm
    | addressVisiting =>
      exact (executeStoreAddressVisitingNew_oob hk hroom).trans (iff_of_eq (and_true _)).symm
    | scanWifis =>
      have hscan := executeScanWifis_oob iCmd g
      unfold dispatch
      dsimp only
      split
      · rw [hscan]
        exact (iff_of_eq (and_true _)).symm
      · show (executeScanWifis iCmd g).env.oob = false ↔ _
        rw [hscan]
        exact (iff_of_eq (and_true _)).symm
    | forgotPassword | disconnectFromWifi | setCcuReboot | setCcuWifiMode | uploadTripInfo =>
      exact hplain rfl rfl

def WriteFits (frame : Nat) (value : List Byte) (g : Globals) : Prop :=
  value.length ≤ 30 ∧ CommandFits (bleCommandView value g.env.wild)
    (recvdMsgFull (received frame value g)) g (Cid.ofByte? (value.getD 2 0))

theorem commandFits_congr {iCmd seen : View} {g g' : Globals} (cmd : Option Cid)
    (hsaved : g'.ble.savedMessages = g.ble.savedMessages) (hlogin : g'.ble.login = g.ble.login)
    (hwild : g'.env.wild = g.env.wild) :
    CommandFits iCmd seen g' cmd ↔ CommandFits iCmd seen g cmd := by
  have hlen : ∀ row, savedLen g' row = savedLen g row := by
    intro row
    unfold savedLen
    rw [hsaved, hwild]
  unfold CommandFits
  rw [hlen, hlen, hlogin]

theorem received_oob (frame : Nat) (value : List Byte) (g : Globals) :
    (received frame value g).env.oob = (g.env.oob || !decide (value.length ≤ 30)) := by
  unfold received
  rw [identify_env, (pointed_keeps frame (delivered frame value g)).2.1]
  rfl

theorem gattsWriteEvt_oob (frame : Nat) (value : List Byte) {g : Globals} (h : Kept g.ble.voice) :
    (gattsWriteEvt false frame value g).env.oob = false ↔
      g.env.oob = false ∧ WriteFits frame value g := by
  have hspec := received_spec frame value g
  have hkept : Kept (received frame value g).ble.voice := by
    rw [hspec.ble]
    exact h
  have hfits : CommandFits (bleCommandView value g.env.wild)
      (recvdMsgFull (received frame value g)) (received frame value g)
        (Cid.ofByte? (value.getD 2 0)) ↔ _ :=
    commandFits_congr _ (by rw [hspec.ble]) (by rw [hspec.ble]) hspec.wild
  rw [gattsWriteEvt_eq, dispatch_oob _ rfl rfl hkept, hfits, received_oob, Bool.or_eq_false_iff,
    Bool.not_eq_false', decide_eq_true_eq, and_assoc]
  rfl

def WriteInside (b : Bridge) (e : Event) : Prop :=
  ∀ frame value, e.action = .gattWrite false frame value →
    (gattsWriteEvt false frame value { (b.at e).glob with env.oob := false }).env.oob = false

def WriteOk (b : Bridge) (e : Event) : Prop :=
  ∀ frame value, e.action = .gattWrite false frame value → WriteFits frame value (b.at e).glob

theorem writeInside_iff {b : Bridge} (h : Kept b.glob.ble.voice) (e : Event) :
    WriteInside b e ↔ WriteOk b e := by
  have hcalm : ∀ frame value, (gattsWriteEvt false frame value
      { (b.at e).glob with env.oob := false }).env.oob = false ↔
        WriteFits frame value (b.at e).glob := by
    intro frame value
    have hwrite := gattsWriteEvt_oob frame value (g := { (b.at e).glob with env.oob := false }) h
    rw [and_iff_right rfl] at hwrite
    refine hwrite.trans (and_congr_right fun _ => ?_)
    have hpoint : recvdMsgFull (received frame value { (b.at e).glob with env.oob := false }) =
        recvdMsgFull (received frame value (b.at e).glob) := by
      have hspec := received_spec frame value { (b.at e).glob with env.oob := false }
      have hspec' := received_spec frame value (b.at e).glob
      unfold recvdMsgFull
      rw [hspec.ble, hspec'.ble, hspec.mem, hspec'.mem, hspec.wild, hspec'.wild]
    rw [hpoint]
    exact commandFits_congr _ rfl rfl rfl
  constructor
  · exact fun hin frame value ha => (hcalm frame value).mp (hin frame value ha)
  · exact fun hok frame value ha => (hcalm frame value).mpr (hok frame value ha)

/-- A run handles all its messages inside the arrays just in case all of them fit. -/
theorem writes_inside_iff (es : List Event) :
    Machine.Guarded step WriteInside .boot es ↔ Machine.Guarded step WriteOk .boot es := by
  apply Machine.guarded_congr (Kept ·.glob.ble.voice)
  · intro b e _ h _
    exact writeInside_iff h e
  · intro b e b' h _
    exact step_kept b e b' h
  · exact ⟨fun _ => ⟨0, by decide, rfl⟩, by decide, by decide⟩

def endlessPassword : List Byte := [0x4D, 1, 0x02, 1, 255]

theorem endlessPassword_overruns : ¬ ∀ (b : Bridge) (e : Event) (frame : Nat) (value : List Byte),
    Reachable b → e.action = .gattWrite false frame value → e.action.enabled b = true →
      value.length ≤ 497 → WriteInside b e := by
  intro hevery
  obtain ⟨b, hb, _⟩ := exists_serving
  let e : Event := .calm (.gattWrite false 0 endlessPassword)
  have hin := hevery b e 0 endlessPassword hb.reachable rfl hb.service (by decide)
  have hok := (writeInside_iff (reachable_kept hb.reachable) e).mp hin 0 endlessPassword rfl
  have hbyte : ∀ i < 17, (bleCommandView endlessPassword (b.at e).glob.env.wild).byte i =
      endlessPassword.getD (3 + i) 0 := fun i hi => bleCommandView_byte _ _ hi
  have hlen := hok.2.1 (by rw [hbyte 0 (by decide)]; decide)
  rw [hbyte 1 (by decide)] at hlen
  exact absurd hlen (by decide)

end EspBridges.Ccu
