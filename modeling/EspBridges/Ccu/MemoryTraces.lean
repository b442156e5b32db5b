import EspBridges.Ccu.LoginLaws
import EspBridges.Ccu.MemoryLaws

namespace EspBridges.Ccu

open Bytes

theorem Tx.getD_frame {t : Tx} {i : Nat} (hi : i < t.length) (hmax : i < 500) (w : Wild Obj) :
    (t.frame w).getD i 0 = t.pData.byte i := by
  unfold Tx.frame
  rw [List.getD_eq_getElem?_getD, List.getElem?_eq_getElem (by rwa [View.length_bytes]),
    Option.getD_some, View.getElem_bytes, Buf.view_byte, Buf.rd_memcpy,
    if_pos ⟨Nat.zero_le i, by omega, hmax⟩, Nat.sub_zero]

section Bytes

variable {v v' time : View} (w : Wild Obj)

theorem connectToWifi_length (v : View) :
    ((ccuSentConnectToWifi v w).frame w).getD 4 0 = UInt8.ofNat v.strlen := by
  rw [Tx.getD_frame (by simp only [ccuSentConnectToWifi]; omega) (by decide)]
  simp [ccuSentConnectToWifi, View.ofTx, protocolHdr, Buf.rd_memcpy, Buf.rd_put]

theorem sendLoginMsg_behind (hlong : 9 ≤ v.strlen) (hmax : v.strlen ≤ 20) :
    ((ccuSendLoginMsg v v.strlen time w).frame w).getD 25 0 = w.byte .pTxBuffer 25 := by
  have hmod : v.strlen % 256 = v.strlen := Nat.mod_eq_of_lt (by omega)
  rw [Tx.getD_frame (by simp only [ccuSendLoginMsg, timestampSize, hmod]; omega) (by decide)]
  simp only [ccuSendLoginMsg, View.ofTx, Buf.view_byte]
  exact Buf.rd_of_ge _ _ (Nat.le_refl 25)

theorem numberMsg_behind (opcode : Byte) (type : Option Byte) (hlong : 15 < (v.byte 4).toNat) :
    ((numberMsg opcode type v w).frame w).getD 20 0 = w.byte .pTxBuffer 20 := by
  rw [Tx.getD_frame (by simp only [numberMsg]; omega) (by decide)]
  simp only [numberMsg, View.ofTx, Buf.view_byte]
  exact Buf.rd_of_ge _ _ (Nat.le_refl 20)

theorem numberMsg_untyped (opcode : Byte) (v : View) :
    ((numberMsg opcode none v w).frame w).getD 3 0 = w.byte .pTxBuffer 3 := by
  rw [Tx.getD_frame (by simp only [numberMsg]; omega) (by decide)]
  simp [numberMsg, View.ofTx, protocolHdr, Buf.rd_memcpy, Buf.rd_put]

theorem userChangePasswdMsg_first (v v' : View) :
    ((ccuSentUserChangePasswdMsg v v' w).frame w).getD 4 0 = UInt8.ofNat v.strlen := by
  rw [Tx.getD_frame (by simp only [ccuSentUserChangePasswdMsg]; omega) (by decide)]
  simp only [ccuSentUserChangePasswdMsg, View.ofTx, Buf.view_byte, Buf.rd_memcpy, Buf.rd_put,
    protocolHdr]
  rw [if_neg (by omega), if_neg (by omega), if_neg (by omega), if_neg (by omega),
    if_pos ⟨trivial, by decide⟩]

theorem userChangePasswdMsg_second (hfit : v.strlen < 20) (v' : View) :
    ((ccuSentUserChangePasswdMsg v v' w).frame w).getD (6 + v.strlen) 0 =
      UInt8.ofNat v'.strlen := by
  rw [Tx.getD_frame (by simp only [ccuSentUserChangePasswdMsg]; omega) (by omega)]
  simp only [ccuSentUserChangePasswdMsg, View.ofTx, Buf.view_byte, Buf.rd_memcpy, Buf.rd_put]
  rw [if_neg (by omega), if_pos ⟨trivial, by omega⟩]

theorem configureWifiCredentials_length (apId : Byte) (v : View) :
    ((ccuSentConfigureWifiCredentials apId v w).frame w).getD 7 0 = UInt8.ofNat v.strlen := by
  rw [Tx.getD_frame (by simp only [ccuSentConfigureWifiCredentials]; omega) (by decide)]
  simp only [ccuSentConfigureWifiCredentials, View.ofTx, Buf.view_byte, Buf.rd_memcpy, Buf.rd_put]
  rw [if_neg (by omega), if_neg (by omega), if_pos ⟨trivial, by decide⟩]

theorem activateSystemMsg_first (v v' : View) :
    ((ccuSentActivateSystemMsg v v' time w).frame w).getD 4 0 = UInt8.ofNat v.strlen := by
  rw [Tx.getD_frame (by simp only [ccuSentActivateSystemMsg]; omega) (by decide)]
  simp only [ccuSentActivateSystemMsg, View.ofTx, Buf.view_byte, Buf.rd_memcpy, Buf.rd_put,
    protocolHdr]
  rw [if_neg (by omega), if_neg (by simp only [timestampSize]; omega), if_neg (by omega),
    if_neg (by omega), if_neg (by omega), if_neg (by omega), if_neg (by omega), if_neg (by omega),
    if_pos ⟨trivial, by decide⟩]

theorem activateSystemMsg_second (hfit : v.strlen < 20) (v' : View) :
    ((ccuSentActivateSystemMsg v v' time w).frame w).getD (6 + v.strlen) 0 =
      UInt8.ofNat v'.strlen := by
  rw [Tx.getD_frame (by simp only [ccuSentActivateSystemMsg]; omega) (by omega)]
  simp only [ccuSentActivateSystemMsg, View.ofTx, Buf.view_byte, Buf.rd_memcpy, Buf.rd_put]
  rw [if_neg (by omega), if_neg (by simp only [timestampSize]; omega), if_neg (by omega),
    if_neg (by omega), if_neg (by omega), if_pos (by omega)]

end Bytes

def emergencyType : Byte → Option Byte
  | 1 => some tlvTypeEmergencyNumber2
  | 2 => some tlvTypeEmergencyNumber3
  | _ => none

def personalType : Byte → Option Byte
  | 0 => some tlvTypePersonalNumber1
  | 1 => some tlvTypePersonalNumber2
  | 2 => some tlvTypePersonalNumber3
  | _ => none

theorem emergencyType_known {type : Byte} : emergencyType type ≠ none ↔ type = 1 ∨ type = 2 := by
  unfold emergencyType
  split
  · simp
  · simp
  case h_3 h1 h2 => simpa using ⟨h1, h2⟩

theorem personalType_known {type : Byte} :
    personalType type ≠ none ↔ type = 0 ∨ type = 1 ∨ type = 2 := by
  unfold personalType
  split
  · simp
  · simp
  · simp
  case h_4 h0 h1 h2 => simpa using ⟨h0, h1, h2⟩

section Frames

variable {iMsg iCmd : View} (g : Globals)

theorem storeEmergencyNumber_io (ht : iCmd.byte 0 = 1 ∨ iCmd.byte 0 = 2) :
    (dispatch (some .storeEmergencyNumbers) iMsg iCmd g).env.io = g.env.io ++
      [.tx ((numberMsg btCpOpcodeCidStoreEmergencyNumbers (emergencyType ((recvdMsgFull g).byte 3))
        (recvdMsgFull g) g.env.wild).frame g.env.wild)] := by
  unfold dispatch executeStoreEmergencyNumber
  rcases ht with ht | ht <;> rw [ht] <;> rfl

theorem storePersonalNumber_io (ht : iCmd.byte 0 = 1 ∨ iCmd.byte 0 = 2) :
    (dispatch (some .storePersonalNumbers) iMsg iCmd g).env.io = g.env.io ++
      [.tx ((numberMsg btCpOpcodeCidStorePersonalNumbers (personalType ((recvdMsgFull g).byte 3))
        (recvdMsgFull g) g.env.wild).frame g.env.wild)] := by
  unfold dispatch executeStorePersonalNumber
  rcases ht with ht | ht <;> rw [ht] <;> rfl

theorem enterLocalHelpNumber_io (ht : iCmd.byte 0 = 1 ∨ iCmd.byte 0 = 2) :
    (dispatch (some .enterLocalHelpNumbers) iMsg iCmd g).env.io = g.env.io ++
      [.tx ((numberMsg btCpOpcodeCidEnterLocalHelpNumbers (some ((recvdMsgFull g).byte 3))
        (recvdMsgFull g) g.env.wild).frame g.env.wild)] := by
  unfold dispatch executeEnterLocalHelpNumber
  rcases ht with ht | ht <;> rw [ht] <;> rfl

theorem connectToWifi_io : (dispatch (some .connectToWifi) iMsg iCmd g).env.io = g.env.io ++
    [.tx ((ccuSentConnectToWifi (localCopy (iCmd.shift 1) (iCmd.byte 0).toNat g.env.wild)
      g.env.wild).frame g.env.wild)] := rfl

/-! The same of the texts, which are those of the rows as the command leaves them. -/

variable {saved : Buf 84}

theorem changePassword_texts (ht : iCmd.byte 0 = 2)
    (hsaved : (dispatch (some .changePassword) iMsg iCmd g).ble.savedMessages = saved) :
    (dispatch (some .changePassword) iMsg iCmd g).env.io = g.env.io ++
      [.tx ((ccuSentUserChangePasswdMsg ((savedText saved 0 0).view g.env.wild .pPasswordCurrent)
        ((savedText saved 1 1).view g.env.wild .pPasswordNew) g.env.wild).frame g.env.wild)] := by
  subst hsaved
  refine (changePassword_io _ _ _ ht).trans ?_
  dsimp only
  rw [savedString_eq_savedText (by decide) (by decide),
    savedString_eq_savedText (by decide) (by decide)]

theorem selectAWifi_text (ht : iCmd.byte 0 = 2)
    (hsaved : (dispatch (some .selectAWifi) iMsg iCmd g).ble.savedMessages = saved) :
    (dispatch (some .selectAWifi) iMsg iCmd g).env.io = g.env.io ++
      [.tx ((ccuSentConfigureWifiCredentials (saved.rd (fun _ => 0) 5 + 1)
        ((savedText saved 1 1).view g.env.wild .pPassword) g.env.wild).frame g.env.wild)] := by
  subst hsaved
  refine (selectAWifi_io _ _ _ ht).trans ?_
  dsimp only
  rw [savedString_eq_savedText (by decide) (by decide), savedApId]

theorem ccuActivate_texts (ht : iCmd.byte 0 = 3)
    (hsaved : (dispatch (some .ccuActivate) iMsg iCmd g).ble.savedMessages = saved) :
    (dispatch (some .ccuActivate) iMsg iCmd g).env.io = g.env.io ++
      [.tx ((ccuSentActivateSystemMsg ((savedText saved 0 1).view g.env.wild .actLatitude)
        ((savedText saved 1 1).view g.env.wild .actLongitude)
        ((stampBuf (recvdMsgFull g) g.env.wild).view g.env.wild .timeStamp)
        g.env.wild).frame g.env.wild)] := by
  subst hsaved
  refine (ccuActivate_io _ _ _ ht).trans ?_
  dsimp only
  rw [savedString_eq_savedText (by decide) (by decide),
    savedString_eq_savedText (by decide) (by decide)]
  rfl

end Frames

/-- Every byte around the program's objects is `b`, and a string that runs out of its object ends
`k` bytes behind it. -/
def surroundings (b : Byte) (k : Nat) : Wild Obj := ⟨fun _ _ => b, fun _ _ => 0, fun _ => k⟩

def MessageCall.amidst (c : MessageCall) (w : Wild Obj) : MessageCall := { c with wild := w }

def Unsettled (g : Globals) (c : MessageCall) : Prop :=
  ∃ w w', (g.answer (c.amidst w)).1 ≠ (g.answer (c.amidst w')).1

theorem strlen_endless {b : Buf n} (h : ¬ ∃ i, b i = 0) (o : Obj) (x : Byte) (k : Nat) :
    (b.view (surroundings x k) o).strlen = n + k := by
  apply cstrlen_unterminated
  intro i hi hz
  exact h ⟨⟨i, hi⟩, (Buf.rd_of_lt _ _ hi).symm.trans hz⟩

section Unsettled

variable {g : Globals} {c : MessageCall}

theorem unsettled_of_byte {w w' : Wild Obj} {frame frame' : List Byte} {i : Nat} {x y : Byte}
    (h : (g.answer (c.amidst w)).1 = [.tx frame]) (h' : (g.answer (c.amidst w')).1 = [.tx frame'])
    (hx : frame.getD i 0 = x) (hy : frame'.getD i 0 = y) (hne : x ≠ y) : Unsettled g c := by
  refine ⟨w, w', fun heq => hne ?_⟩
  rw [h, h'] at heq
  have hframe : frame = frame' := Io.tx.inj (List.cons.inj heq).1
  rw [← hx, ← hy, hframe]

theorem iCmd_type (c : MessageCall) :
    (bleCommandView c.value c.wild).byte 0 = c.value.getD 3 0 :=
  bleCommandView_byte _ _ (by decide)

theorem login_frames (hcmd : commandOf c.value = some .login) (ht : c.value.getD 3 0 = 4)
    (g : Globals) : (g.answer c).1 =
      [.tx ((loginMsg { g with env.wild := c.wild }).frame c.wild)] := by
  have hsame : loginMsg (g.taken c) = loginMsg { g with env.wild := c.wild } := by
    unfold loginMsg
    rw [Globals.taken_ble, Globals.taken_wild]
  apply answer_frames hcmd
  rw [(lastPart_io _ ((iCmd_type c).trans ht) _).2, hsame, Globals.taken_wild]

theorem login_unsettled (hcmd : commandOf c.value = some .login) (ht : c.value.getD 3 0 = 4)
    (hends : ¬ ∃ i : Fin 20, i.val ≤ 8 ∧ g.ble.login.iPwd i = 0) : Unsettled g c := by
  have hframes := fun w => login_frames (c := c.amidst w) hcmd ht g
  have hbehind : ∀ x, ((loginMsg { g with env.wild := surroundings x 0 }).frame
      (surroundings x 0)).getD 25 0 = x := by
    intro x
    have hlong := mt (iPwd_ends g.ble.login.iPwd (surroundings x 0)).mp hends
    exact sendLoginMsg_behind _ (Nat.lt_of_not_le hlong) (cstrlen_le_room _ 20 0)
  exact unsettled_of_byte (hframes (surroundings 0 0)) (hframes (surroundings 1 0)) (hbehind 0)
    (hbehind 1) (by decide)

theorem number_unsettled (opcode : Byte) {type : Option Byte}
    (hframes : ∀ w, (g.answer (c.amidst w)).1 =
      [.tx ((numberMsg opcode type (recvdMsgFull (g.taken (c.amidst w))) w).frame w)])
    (h : ¬ (type ≠ none ∧ ((g.relayed c).rd (fun _ => 0) 4).toNat ≤ 15)) : Unsettled g c := by
  by_cases hshort : ((g.relayed c).rd (fun _ => 0) 4).toNat ≤ 15
  · have htype : type = none := Decidable.not_not.mp fun hne => h ⟨hne, hshort⟩
    subst htype
    exact unsettled_of_byte (hframes (surroundings 0 0)) (hframes (surroundings 1 0))
      (numberMsg_untyped _ _ _) (numberMsg_untyped _ _ _) (show (0 : Byte) ≠ 1 by decide)
  · have hlong : ∀ w, 15 < ((recvdMsgFull (g.taken (c.amidst w))).byte 4).toNat := by
      intro w
      rw [g.relayed_byte _ (by decide)]
      exact Nat.lt_of_not_le hshort
    exact unsettled_of_byte (hframes (surroundings 0 0)) (hframes (surroundings 1 0))
      (numberMsg_behind _ _ _ (hlong _)) (numberMsg_behind _ _ _ (hlong _))
      (show (0 : Byte) ≠ 1 by decide)

theorem relayed_unsettled {cmd : Cid} (opcode : Byte) (type : Byte → Option Byte)
    (hcmd : commandOf c.value = some cmd) (ht : c.value.getD 3 0 = 1 ∨ c.value.getD 3 0 = 2)
    (hio : ∀ (iMsg iCmd : View) (g : Globals), iCmd.byte 0 = 1 ∨ iCmd.byte 0 = 2 →
      (dispatch (some cmd) iMsg iCmd g).env.io = g.env.io ++ [Io.tx ((numberMsg opcode
        (type ((recvdMsgFull g).byte 3)) (recvdMsgFull g) g.env.wild).frame g.env.wild)])
    (h : ¬ (type ((g.relayed c).rd (fun _ => 0) 3) ≠ none ∧
      ((g.relayed c).rd (fun _ => 0) 4).toNat ≤ 15)) : Unsettled g c := by
  apply number_unsettled opcode _ h
  intro w
  apply answer_frames (c := c.amidst w) hcmd
  refine (hio _ _ _ ((iCmd_type (c.amidst w)).symm ▸ ht)).trans ?_
  rw [g.relayed_byte _ (by decide), Globals.taken_wild]
  rfl

theorem emergency_unsettled (hcmd : commandOf c.value = some .storeEmergencyNumbers)
    (ht : c.value.getD 3 0 = 1 ∨ c.value.getD 3 0 = 2)
    (h : ¬ (((g.relayed c).rd (fun _ => 0) 3 = 1 ∨ (g.relayed c).rd (fun _ => 0) 3 = 2) ∧
      ((g.relayed c).rd (fun _ => 0) 4).toNat ≤ 15)) : Unsettled g c := by
  apply relayed_unsettled _ emergencyType hcmd ht fun _ _ g => storeEmergencyNumber_io g
  rintro ⟨htype, hshort⟩
  exact h ⟨emergencyType_known.mp htype, hshort⟩

theorem personal_unsettled (hcmd : commandOf c.value = some .storePersonalNumbers)
    (ht : c.value.getD 3 0 = 1 ∨ c.value.getD 3 0 = 2)
    (h : ¬ (((g.relayed c).rd (fun _ => 0) 3 = 0 ∨ (g.relayed c).rd (fun _ => 0) 3 = 1 ∨
      (g.relayed c).rd (fun _ => 0) 3 = 2) ∧ ((g.relayed c).rd (fun _ => 0) 4).toNat ≤ 15)) :
    Unsettled g c := by
  apply relayed_unsettled _ personalType hcmd ht fun _ _ g => storePersonalNumber_io g
  rintro ⟨htype, hshort⟩
  exact h ⟨personalType_known.mp htype, hshort⟩

theorem localHelp_unsettled (hcmd : commandOf c.value = some .enterLocalHelpNumbers)
    (ht : c.value.getD 3 0 = 1 ∨ c.value.getD 3 0 = 2)
    (h : ¬ ((g.relayed c).rd (fun _ => 0) 4).toNat ≤ 15) : Unsettled g c := by
  apply relayed_unsettled _ some hcmd ht fun _ _ g => enterLocalHelpNumber_io g
  rintro ⟨-, hshort⟩
  exact h hshort

/-! The commands whose texts come from `saved_messages`. -/

theorem saved_amidst (g : Globals) (c : MessageCall) (w : Wild Obj) :
    (g.call (c.amidst w)).ble.savedMessages = (g.call c).ble.savedMessages :=
  (call_spec g (c.amidst w)).saved.trans (call_spec g c).saved.symm

theorem texts_unsettled {t t' : Buf 20} {o o' : Obj} (msg : View → View → Wild Obj → Tx)
    (hframes : ∀ w, (g.answer (c.amidst w)).1 =
      [.tx ((msg (t.view w o) (t'.view w o') w).frame w)])
    (hfirst : ∀ v v' w, ((msg v v' w).frame w).getD 4 0 = UInt8.ofNat v.strlen)
    (hsecond : ∀ v v' w, v.strlen < 20 →
      ((msg v v' w).frame w).getD (6 + v.strlen) 0 = UInt8.ofNat v'.strlen)
    (h : ¬ ((∃ i, t i = 0) ∧ ∃ i, t' i = 0)) : Unsettled g c := by
  by_cases hends : ∃ i, t i = 0
  · obtain ⟨hsame, hlt⟩ := Buf.sameString (w := surroundings 0 0) (o := o) hends (surroundings 0 1)
    have hend : ∀ k, (t'.view (surroundings 0 k) o').strlen = 20 + k :=
      strlen_endless (fun hz => h ⟨hends, hz⟩) o' 0
    have hzero := hsecond _ (t'.view (surroundings 0 0) o') (surroundings 0 0) hlt
    have hone := hsecond (t.view (surroundings 0 1) o) (t'.view (surroundings 0 1) o')
      (surroundings 0 1) (hsame.strlen ▸ hlt)
    rw [hend] at hzero hone
    rw [hsame.strlen] at hone
    exact unsettled_of_byte (hframes _) (hframes _) hzero hone (by decide)
  · have hend := strlen_endless hends o 0
    have hzero := hfirst (t.view (surroundings 0 0) o) (t'.view (surroundings 0 0) o')
      (surroundings 0 0)
    have hone := hfirst (t.view (surroundings 0 1) o) (t'.view (surroundings 0 1) o')
      (surroundings 0 1)
    rw [hend] at hzero hone
    exact unsettled_of_byte (hframes _) (hframes _) hzero hone (by decide)

theorem saved_part {row : Nat} (hrow : savesRow (c.value.getD 3 0) (commandOf c.value) = some row) :
    (g.call c).ble.savedMessages = g.ble.savedMessages.memcpy (21 * (row - 1))
      ((g.relayed c).rd fun _ => 0) bleMessageSize := by
  rw [(call_spec g c).saved, hrow]
  rfl

theorem changePassword_unsettled (hcmd : commandOf c.value = some .changePassword)
    (ht : c.value.getD 3 0 = 2)
    (h : ¬ ((∃ i, savedText (g.ble.savedMessages.memcpy 21 ((g.relayed c).rd fun _ => 0)
      bleMessageSize) 0 0 i = 0) ∧ ∃ i, savedText (g.ble.savedMessages.memcpy 21
        ((g.relayed c).rd fun _ => 0) bleMessageSize) 1 1 i = 0)) : Unsettled g c := by
  have hrow : savesRow (c.value.getD 3 0) (commandOf c.value) = some 2 := by
    rw [hcmd, ht]
    rfl
  have hframes : ∀ w, (g.answer (c.amidst w)).1 = [.tx ((ccuSentUserChangePasswdMsg
      ((savedText (g.call c).ble.savedMessages 0 0).view w .pPasswordCurrent)
      ((savedText (g.call c).ble.savedMessages 1 1).view w .pPasswordNew) w).frame w)] := by
    intro w
    have hsaved := saved_amidst g c w
    rw [Globals.call_eq, show commandOf (c.amidst w).value = _ from hcmd] at hsaved
    apply answer_frames (c := c.amidst w) hcmd
    refine (changePassword_texts _ ((iCmd_type (c.amidst w)).trans ht) hsaved).trans ?_
    rw [Globals.taken_wild]
    rfl
  apply texts_unsettled ccuSentUserChangePasswdMsg hframes
    (fun v v' w => userChangePasswdMsg_first w v v')
    (fun v v' w hfit => userChangePasswdMsg_second w hfit v')
  rw [saved_part hrow]
  exact h

theorem selectAWifi_unsettled (hcmd : commandOf c.value = some .selectAWifi)
    (ht : c.value.getD 3 0 = 2)
    (h : ¬ ∃ i, savedText (g.ble.savedMessages.memcpy 21 ((g.relayed c).rd fun _ => 0)
      bleMessageSize) 1 1 i = 0) : Unsettled g c := by
  have hrow : savesRow (c.value.getD 3 0) (commandOf c.value) = some 2 := by
    rw [hcmd, ht]
    rfl
  have hframes : ∀ w, (g.answer (c.amidst w)).1 = [.tx ((ccuSentConfigureWifiCredentials
      ((g.call c).ble.savedMessages.rd (fun _ => 0) 5 + 1)
      ((savedText (g.call c).ble.savedMessages 1 1).view w .pPassword) w).frame w)] := by
    intro w
    have hsaved := saved_amidst g c w
    rw [Globals.call_eq, show commandOf (c.amidst w).value = _ from hcmd] at hsaved
    apply answer_frames (c := c.amidst w) hcmd
    refine (selectAWifi_text _ ((iCmd_type (c.amidst w)).trans ht) hsaved).trans ?_
    rw [Globals.taken_wild]
    rfl
  have hends : ¬ ∃ i, savedText (g.call c).ble.savedMessages 1 1 i = 0 := by
    rw [saved_part hrow]
    exact h
  have hlength : ∀ k, ((ccuSentConfigureWifiCredentials
      ((g.call c).ble.savedMessages.rd (fun _ => 0) 5 + 1)
      ((savedText (g.call c).ble.savedMessages 1 1).view (surroundings 0 k) Obj.pPassword)
      (surroundings 0 k)).frame (surroundings 0 k)).getD 7 0 = UInt8.ofNat (20 + k) := by
    intro k
    rw [configureWifiCredentials_length, strlen_endless hends]
  exact unsettled_of_byte (hframes _) (hframes _) (hlength 0) (hlength 1) (by decide)

theorem ccuActivate_unsettled (hcmd : commandOf c.value = some .ccuActivate)
    (ht : c.value.getD 3 0 = 3)
    (h : ¬ ((∃ i, savedText g.ble.savedMessages 0 1 i = 0) ∧
      ∃ i, savedText g.ble.savedMessages 1 1 i = 0)) : Unsettled g c := by
  have hrow : savesRow (c.value.getD 3 0) (commandOf c.value) = none := by
    rw [hcmd, ht]
    rfl
  have hkept : (g.call c).ble.savedMessages = g.ble.savedMessages := by
    rw [(call_spec g c).saved, hrow]
    rfl
  have hframes : ∀ w, (g.answer (c.amidst w)).1 = [.tx ((ccuSentActivateSystemMsg
      ((savedText g.ble.savedMessages 0 1).view w .actLatitude)
      ((savedText g.ble.savedMessages 1 1).view w .actLongitude)
      ((stampBuf (recvdMsgFull (g.taken (c.amidst w))) w).view w .timeStamp) w).frame w)] := by
    intro w
    have hsaved := (saved_amidst g c w).trans hkept
    rw [Globals.call_eq, show commandOf (c.amidst w).value = _ from hcmd] at hsaved
    apply answer_frames (c := c.amidst w) hcmd
    refine (ccuActivate_texts _ ((iCmd_type (c.amidst w)).trans ht) hsaved).trans ?_
    rw [Globals.taken_wild]
    rfl
  exact texts_unsettled (fun v v' w => ccuSentActivateSystemMsg v v'
      ((stampBuf (recvdMsgFull (g.taken (c.amidst w))) w).view w .timeStamp) w) hframes
    (fun v v' w => activateSystemMsg_first w v v')
    (fun v v' w hfit => activateSystemMsg_second w hfit v') h

/-- A timestamp of ten bytes fills its array, so that nothing in it ends after ten. -/
theorem strlen_stamp (src : View) : (localCopy src 10 (surroundings 0 1)).strlen ≠ 10 := by
  intro hten
  by_cases h : ∃ i < 10, (localCopy src 10 (surroundings 0 1)).byte i = 0
  · have hlt : (localCopy src 10 (surroundings 0 1)).strlen < 10 := (cstrlen_lt_iff 1).mpr h
    exact Nat.ne_of_lt hlt hten
  · have hend : (localCopy src 10 (surroundings 0 1)).strlen = 10 + 1 :=
      cstrlen_unterminated 1 fun i hi hz => h ⟨i, hi, hz⟩
    exact absurd (hend.symm.trans hten) (by decide)

theorem connectToWifi_unstamped (hp : ProperMessage c.value)
    (hcmd : commandOf c.value = some .connectToWifi) (g : Globals) :
    ¬ CarriesStamp g (c.amidst (surroundings 0 1)) := by
  have hoffset : lengthOffset (c.value.getD 3 0) (commandOf c.value) = some 3 := by
    rw [hcmd]
    rfl
  have h3 : (bleCommandView c.value (surroundings 0 1)).byte 0 = 10 :=
    (iCmd_type (c.amidst (surroundings 0 1))).trans (hp.timestamp 3 hoffset (by rw [hcmd]; rfl))
  have hframes : (g.answer (c.amidst (surroundings 0 1))).1 = [.tx ((ccuSentConnectToWifi
      (localCopy ((bleCommandView c.value (surroundings 0 1)).shift 1) 10 (surroundings 0 1))
      (surroundings 0 1)).frame (surroundings 0 1))] := by
    apply answer_frames (c := c.amidst (surroundings 0 1)) hcmd
    refine (connectToWifi_io _).trans ?_
    rw [show (bleCommandView (c.amidst (surroundings 0 1)).value
      (c.amidst (surroundings 0 1)).wild).byte 0 = 10 from h3, Globals.taken_wild]
    rfl
  intro hstamp
  have hframe := Io.tx.inj (List.cons.inj (hframes.symm.trans (hstamp _ hcmd (.inl rfl)))).1
  have hlength : UInt8.ofNat (localCopy ((bleCommandView c.value (surroundings 0 1)).shift 1) 10
      (surroundings 0 1)).strlen = 10 := by
    rw [← connectToWifi_length (surroundings 0 1), hframe]
    rfl
  have hle := cstrlen_le_room (localCopy ((bleCommandView c.value (surroundings 0 1)).shift 1) 10
    (surroundings 0 1)).byte 10 1
  refine strlen_stamp ((bleCommandView c.value (surroundings 0 1)).shift 1) ?_
  have hmod := congrArg UInt8.toNat hlength
  rw [UInt8.toNat_ofNat'] at hmod
  refine (Nat.mod_eq_of_lt ?_).symm.trans hmod
  exact Nat.lt_of_le_of_lt hle (by decide)

theorem traces_of_undetermined (hp : ProperMessage c.value) (h : ¬ CallDetermined g c) :
    (∃ w, ¬ CarriesStamp g (c.amidst w)) ∨ Unsettled g c := by
  have hnot : ∀ cmd, commandOf c.value = cmd → ¬ Determined (c.value.getD 3 0)
      ((g.relayed c).rd fun _ => 0) g.ble.savedMessages g.ble.login.iPwd cmd := by
    rintro _ rfl hdet
    exact h hdet
  cases hcmd : commandOf c.value with
  | none => exact absurd trivial (hnot _ hcmd)
  | some cmd =>
    cases cmd with
    | connectToWifi => exact .inl ⟨_, connectToWifi_unstamped hp hcmd g⟩
    | login =>
      obtain ⟨ht, hends⟩ := Classical.not_imp.mp (hnot _ hcmd)
      exact .inr (login_unsettled hcmd ht hends)
    | storeEmergencyNumbers =>
      obtain ⟨ht, hbad⟩ := Classical.not_imp.mp (hnot _ hcmd)
      exact .inr (emergency_unsettled hcmd ht hbad)
    | storePersonalNumbers =>
      obtain ⟨ht, hbad⟩ := Classical.not_imp.mp (hnot _ hcmd)
      exact .inr (personal_unsettled hcmd ht hbad)
    | enterLocalHelpNumbers =>
      obtain ⟨ht, hbad⟩ := Classical.not_imp.mp (hnot _ hcmd)
      exact .inr (localHelp_unsettled hcmd ht hbad)
    | changePassword =>
      obtain ⟨ht, hbad⟩ := Classical.not_imp.mp (hnot _ hcmd)
      exact .inr (changePassword_unsettled hcmd ht hbad)
    | selectAWifi =>
      obtain ⟨ht, hbad⟩ := Classical.not_imp.mp (hnot _ hcmd)
      exact .inr (selectAWifi_unsettled hcmd ht hbad)
    | ccuActivate =>
      obtain ⟨ht, hbad⟩ := Classical.not_imp.mp (hnot _ hcmd)
      exact .inr (ccuActivate_unsettled hcmd ht hbad)
    | _ => exact absurd trivial (hnot _ hcmd)

end Unsettled

/-- The frames of proper messages depend on the messages alone exactly when every call finds what
determines its own. -/
theorem frames_settled_iff {b : Bridge} (hb : Reachable b) (cs : List MessageCall)
    (hproper : ∀ c ∈ cs, ProperMessage c.value) :
    Settled b.glob cs ↔
      Machine.Guarded (Paired.total Globals.call) CallDetermined b.glob cs := by
  constructor
  · rintro ⟨hsame, hstamped⟩
    refine Paired.guarded_of_answers (fun _ => ⟨rfl, rfl⟩) ?_ hsame hstamped
    intro g c hc hnot
    rcases traces_of_undetermined (hproper c hc) hnot with ⟨w, hbad⟩ | ⟨w, w', hne⟩
    · exact .inl ⟨c.amidst w, ⟨rfl, rfl⟩, hbad⟩
    · exact .inr ⟨c.amidst w, c.amidst w', ⟨rfl, rfl⟩, ⟨rfl, rfl⟩, hne⟩
  · exact settled_of_determined hb hproper

def stampMessage (cmd : Cid) : List Byte :=
  [0x4D, 1, cmd.code, 10, 1, 2, 3, 4, 5, 6, 7, 8, 9, 10]

theorem stampMessage_proper {cmd : Cid} (h : cmd = .connectToWifi ∨ cmd = .updateCcuSw) :
    ProperMessage (stampMessage cmd) := by
  have hoffset : lengthOffset ((stampMessage cmd).getD 3 0) (commandOf (stampMessage cmd)) =
      some 3 := by
    rcases h with rfl | rfl <;> rfl
  refine ⟨show 14 ≤ 20 by decide, fun k hk => ?_, fun k hk _ => ?_⟩
  · cases hoffset.symm.trans hk
    show 3 + 1 + 10 ≤ 14
    decide
  · cases hoffset.symm.trans hk
    rfl

def twoDigits (cmd : Cid) : List Byte := [0x4D, 1, cmd.code, 1, 2, 0x34, 0x35]

theorem twoDigits_proper {cmd : Cid} (h : cmd = .storePersonalNumbers ∨ cmd = .changePassword) :
    ProperMessage (twoDigits cmd) := by
  have hoffset : lengthOffset ((twoDigits cmd).getD 3 0) (commandOf (twoDigits cmd)) = some 4 := by
    rcases h with rfl | rfl <;> rfl
  refine ⟨show 7 ≤ 20 by decide, fun k hk => ?_, fun k hk hstamp => ?_⟩
  · cases hoffset.symm.trans hk
    show 4 + 1 + 2 ≤ 7
    decide
  · rcases h with rfl | rfl <;> exact nomatch hstamp

def threeMessages : List MessageCall :=
  [⟨0, twoDigits .storePersonalNumbers, Wild.zero⟩, ⟨0, twoDigits .changePassword, Wild.zero⟩,
    ⟨0, stampMessage .updateCcuSw, Wild.zero⟩]

theorem threeMessages_settled : Settled Globals.boot threeMessages := by
  apply (frames_settled_iff (b := .boot) .refl threeMessages _).mpr
  · refine Paired.guarded_cons.mpr ⟨fun _ => ⟨.inr (.inl rfl), by decide⟩, Paired.guarded_cons.mpr
      ⟨fun hlast => absurd hlast (by decide), Paired.guarded_cons.mpr ⟨trivial, trivial⟩⟩⟩
  · simp only [threeMessages, List.forall_mem_cons]
    exact ⟨twoDigits_proper (.inl rfl), twoDigits_proper (.inr rfl), stampMessage_proper (.inr rfl),
      nofun⟩

/-- The length of the timestamp, and of the frame, is where a zero happens to be. -/
theorem connectToWifi_wanders : ¬ ∀ (b : Bridge) (cs : List MessageCall), Reachable b →
    (∀ c ∈ cs, ProperMessage c.value) → Settled b.glob cs := by
  intro hevery
  have hsettled := hevery .boot [⟨0, stampMessage .connectToWifi, Wild.zero⟩] .refl (by
    simp only [List.forall_mem_cons]
    exact ⟨stampMessage_proper (.inl rfl), nofun⟩)
  have hsame := hsettled.same [⟨0, stampMessage .connectToWifi, surroundings 0 0⟩]
    [⟨0, stampMessage .connectToWifi, surroundings 0 1⟩] (.cons ⟨rfl, rfl⟩ .nil)
    (.cons ⟨rfl, rfl⟩ .nil)
  have hframes := congrArg (fun answers => answers.map fun frames => frames.map Io.bytes) hsame
  revert hframes
  decide +kernel

end EspBridges.Ccu
