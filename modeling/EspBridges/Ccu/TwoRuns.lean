import EspBridges.Ccu.SameFrames
import EspBridges.Ccu.WriteBounds

namespace EspBridges.Ccu

open Bytes

/-- The variables that the frames and the replies are made from, but for `saved_messages`. -/
structure Visible where
  main : Main
  mob1 : Mob1
  login : LoginStatics
  voice : VoiceStatics
  io : List Io

def Globals.visible (g : Globals) : Visible :=
  ⟨g.main, g.ble.thisCcu.pairedMob1, g.ble.login, g.ble.voice, g.env.io⟩

def Alike (g g' : Globals) : Prop := g'.visible = g.visible

namespace Alike

variable {g g' : Globals}

theorem main (h : Alike g g') : g'.main = g.main := congrArg Visible.main h

theorem mob1 (h : Alike g g') : g'.ble.thisCcu.pairedMob1 = g.ble.thisCcu.pairedMob1 :=
  congrArg Visible.mob1 h

theorem login (h : Alike g g') : g'.ble.login = g.ble.login := congrArg Visible.login h

theorem voice (h : Alike g g') : g'.ble.voice = g.ble.voice := congrArg Visible.voice h

theorem io (h : Alike g g') : g'.env.io = g.env.io := congrArg Visible.io h

theorem of (hmain : g'.main = g.main)
    (hmob1 : g'.ble.thisCcu.pairedMob1 = g.ble.thisCcu.pairedMob1)
    (hlogin : g'.ble.login = g.ble.login) (hvoice : g'.ble.voice = g.ble.voice)
    (hio : g'.env.io = g.env.io) : Alike g g' := by
  unfold Alike Globals.visible
  rw [hmain, hmob1, hlogin, hvoice, hio]

theorem setRet (h : Alike g g') (i : Nat) (v : Byte) : Alike (g.setRet i v) (g'.setRet i v) := by
  refine .of ?_ h.mob1 h.login h.voice h.io
  show { g'.main with epReturnMessage := g'.main.epReturnMessage.put i v } = _
  rw [h.main]
  rfl

theorem transmit (h : Alike g g') {msg msg' : Wild Obj → Tx}
    (hframe : (msg' g'.env.wild).frame g'.env.wild = (msg g.env.wild).frame g.env.wild) :
    Alike (g.transmit msg) (g'.transmit msg') := by
  refine .of h.main h.mob1 h.login h.voice ?_
  show g'.env.io ++ [Io.tx _] = g.env.io ++ [Io.tx _]
  rw [h.io, hframe]

theorem access (h : Alike g g') (ok ok' : Bool) : Alike (g.access ok) (g'.access ok') :=
  .of h.main h.mob1 h.login h.voice h.io

theorem setFsm (h : Alike g g') (q : CcuFsmStates) :
    Alike (g.akbiSetFsmState q) (g'.akbiSetFsmState q) :=
  .of h.main h.mob1 h.login h.voice h.io

theorem save (h : Alike g g') (v v' : View) (row : Nat) :
    Alike (saveGroupMessages v row g) (saveGroupMessages v' row g') :=
  .of h.main h.mob1 h.login h.voice h.io

theorem setThisCcu (h : Alike g g') {c c' : ThisCcu} (hc : c'.pairedMob1 = c.pairedMob1) :
    Alike { g with ble.thisCcu := c } { g' with ble.thisCcu := c' } :=
  .of h.main hc h.login h.voice h.io

theorem setLogin (h : Alike g g') (l l' : LoginStatics) (hl : l' = l) :
    Alike { g with ble.login := l } { g' with ble.login := l' } :=
  .of h.main h.mob1 hl h.voice h.io

theorem setVoice (h : Alike g g') {v v' : VoiceStatics} (hv : v' = v) :
    Alike { g with ble.voice := v } { g' with ble.voice := v' } :=
  .of h.main h.mob1 h.login hv h.io

end Alike

def savedText (saved : Buf 84) (row r : Nat) : Buf 20 :=
  Buf.zero.memcpy 0 (fun i => saved.rd (fun _ => 0) (21 * row + 5 + i))
    (saved.rd (fun _ => 0) (21 * r + 4)).toNat

theorem savedString_eq_savedText {row r : Nat} (hrow : row < 2) (hr : r < 2) (g : Globals) :
    savedString g 20 row (savedLen g r) = savedText g.ble.savedMessages row r := by
  have hlen : savedLen g r = (g.ble.savedMessages.rd (fun _ => 0) (21 * r + 4)).toNat := by
    unfold savedLen
    rw [Buf.rd_of_lt _ _ (by omega), Buf.rd_of_lt _ _ (by omega)]
  unfold savedString savedText
  rw [hlen]
  apply Buf.memcpy_congr _ _ rfl
  intro i hi _
  show g.ble.savedMessages.rd _ _ = _
  rw [Buf.rd_of_lt _ _ (by omega), Buf.rd_of_lt _ _ (by omega)]

structure SameTexts (saved saved' : Buf 84) : Prop where
  first : savedText saved' 0 0 = savedText saved 0 0
  second : savedText saved' 1 1 = savedText saved 1 1
  latitude : savedText saved' 0 1 = savedText saved 0 1
  apId : saved'.rd (fun _ => 0) 5 = saved.rd (fun _ => 0) 5

def seenBuf (g : Globals) : Buf 30 := g.env.mem g.ble.pRecvdMsgFull

theorem recvdMsgFull_byte (g : Globals) (h : i < 30) :
    (recvdMsgFull g).byte i = (seenBuf g).rd (fun _ => 0) i := by
  show (seenBuf g).rd _ i = _
  rw [Buf.rd_of_lt _ _ h, Buf.rd_of_lt _ _ h]

/-- The bytes a command of data type `t` reads through `p_recvd_msg_full`; `len` is the length
byte it finds there. -/
def Relays (t : Byte) (len : Nat) (i : Nat) : Option Cid → Prop
  | some .storeEmergencyNumbers | some .storePersonalNumbers | some .enterLocalHelpNumbers =>
    (t = 1 ∨ t = 2) ∧ 3 ≤ i ∧ i < 5 + len
  | some .changePassword | some .selectAWifi => (t = 1 ∨ t = 2) ∧ 4 ≤ i ∧ i < 20
  | some .ccuActivate => (t = 1 ∨ t = 2) ∧ 4 ≤ i ∧ i < 20 ∨ t = 3 ∧ 5 ≤ i ∧ i < 15
  | _ => False

def relaysNumber (t : Byte) : Option Cid → Prop
  | some .storeEmergencyNumbers | some .storePersonalNumbers | some .enterLocalHelpNumbers =>
    t = 1 ∨ t = 2
  | _ => False

/-- What makes the frame of a command independent of the memory around the program's objects. -/
def Determined (t : Byte) (seen : Nat → Byte) (saved : Buf 84) (iPwd : Buf 20) : Option Cid → Prop
  | some .login => t = 4 → ∃ i : Fin 20, i.val ≤ 8 ∧ iPwd i = 0
  -- the builder leaves the type byte of any other type as it finds it
  | some .storeEmergencyNumbers =>
    t = 1 ∨ t = 2 → (seen 3 = 1 ∨ seen 3 = 2) ∧ (seen 4).toNat ≤ 15
  | some .storePersonalNumbers =>
    t = 1 ∨ t = 2 → (seen 3 = 0 ∨ seen 3 = 1 ∨ seen 3 = 2) ∧ (seen 4).toNat ≤ 15
  | some .enterLocalHelpNumbers => t = 1 ∨ t = 2 → (seen 4).toNat ≤ 15
  | some .changePassword =>
    t = 2 → (∃ i, savedText (saved.memcpy 21 seen bleMessageSize) 0 0 i = 0) ∧
      ∃ i, savedText (saved.memcpy 21 seen bleMessageSize) 1 1 i = 0
  | some .selectAWifi => t = 2 → ∃ i, savedText (saved.memcpy 21 seen bleMessageSize) 1 1 i = 0
  | some .ccuActivate => t = 3 → (∃ i, savedText saved 0 1 i = 0) ∧ ∃ i, savedText saved 1 1 i = 0
  -- nothing ends the timestamp whose length the builder takes
  | some .connectToWifi => False
  | _ => True

theorem loginFrame_same {g g' : Globals} (h : g'.ble.login = g.ble.login)
    (hw : g'.env.wild = g.env.wild ∨ ∃ i : Fin 20, i.val ≤ 8 ∧ g.ble.login.iPwd i = 0) :
    (ccuSendLoginMsg (g'.ble.login.iPwd.view g'.env.wild .iPwd)
        (g'.ble.login.iPwd.view g'.env.wild .iPwd).strlen
        (g'.ble.login.timestamp.view g'.env.wild .timestamp) g'.env.wild).frame g'.env.wild =
      (ccuSendLoginMsg (g.ble.login.iPwd.view g.env.wild .iPwd)
        (g.ble.login.iPwd.view g.env.wild .iPwd).strlen
        (g.ble.login.timestamp.view g.env.wild .timestamp) g.env.wild).frame g.env.wild := by
  rw [h]
  rcases hw with hw | hends
  · rw [hw]
  · have hzero : ∃ i, g.ble.login.iPwd i = 0 := hends.imp fun _ hi => hi.2
    have hpwd := (Buf.sameString (w := g.env.wild) (o := .iPwd) hzero g'.env.wild).1
    apply sendLoginMsg_same hpwd ((iPwd_ends _ _).mpr hends)
    intro j hj
    rw [Buf.view_byte, Buf.view_byte, Buf.rd_of_lt _ _ (by omega), Buf.rd_of_lt _ _ (by omega)]

structure SameNumber (v v' : View) : Prop where
  length : (v.byte 4).toNat ≤ 15
  header : ∀ i, 3 ≤ i → i < 5 → v'.byte i = v.byte i
  digits : ∀ i, i < (v.byte 4).toNat → v'.byte (5 + i) = v.byte (5 + i)

/-- A frame without a type of its own sends the byte that its buffer happened to hold. -/
theorem numberFrame_same {w w' : Wild Obj} {v v' : View} (opcode : Byte) (type : Option Byte)
    (h : SameNumber v v') (hw : w' = w ∨ type ≠ none) :
    (numberMsg opcode type v' w').frame w' = (numberMsg opcode type v w).frame w := by
  have h4 := h.header 4 (by decide) (by decide)
  cases type with
  | some type => exact numberMsg_same opcode type h.length h4 h.digits
  | none =>
    obtain rfl := hw.resolve_right (fun hne => hne rfl)
    exact numberMsg_same opcode (w'.byte .pTxBuffer 3) h.length h4 h.digits

section Texts

variable {g g' : Globals}

theorem passwdFrame_same (h : SameTexts g.ble.savedMessages g'.ble.savedMessages)
    (hw : g'.env.wild = g.env.wild ∨ (∃ i, savedText g.ble.savedMessages 0 0 i = 0) ∧
      ∃ i, savedText g.ble.savedMessages 1 1 i = 0) :
    (ccuSentUserChangePasswdMsg
        ((savedString g' 20 0 (savedLen g' 0)).view g'.env.wild .pPasswordCurrent)
        ((savedString g' 20 1 (savedLen g' 1)).view g'.env.wild .pPasswordNew)
        g'.env.wild).frame g'.env.wild =
      (ccuSentUserChangePasswdMsg
        ((savedString g 20 0 (savedLen g 0)).view g.env.wild .pPasswordCurrent)
        ((savedString g 20 1 (savedLen g 1)).view g.env.wild .pPasswordNew)
        g.env.wild).frame g.env.wild := by
  iterate 2 rw [savedString_eq_savedText (by decide) (by decide),
    savedString_eq_savedText (by decide) (by decide)]
  rw [h.first, h.second]
  rcases hw with hw | ⟨hcurrent, hnew⟩
  · rw [hw]
  · obtain ⟨hc, hclt⟩ := Buf.sameString (w := g.env.wild) (o := .pPasswordCurrent) hcurrent g'.env.wild
    obtain ⟨hn, hnlt⟩ := Buf.sameString (w := g.env.wild) (o := .pPasswordNew) hnew g'.env.wild
    exact userChangePasswdMsg_same hc hn (by omega)

theorem savedApId (g : Globals) :
    (savedData g 0).byte 0 = g.ble.savedMessages.rd (fun _ => 0) 5 := by
  show g.ble.savedMessages.rd (g.env.wild.byte .savedMessages) 5 = _
  rw [Buf.rd_of_lt _ _ (by decide), Buf.rd_of_lt _ _ (by decide)]

theorem credentialsFrame_same (h : SameTexts g.ble.savedMessages g'.ble.savedMessages)
    (hw : g'.env.wild = g.env.wild ∨ ∃ i, savedText g.ble.savedMessages 1 1 i = 0) :
    (ccuSentConfigureWifiCredentials ((savedData g' 0).byte 0 + 1)
        ((savedString g' 20 1 (savedLen g' 1)).view g'.env.wild .pPassword)
        g'.env.wild).frame g'.env.wild =
      (ccuSentConfigureWifiCredentials ((savedData g 0).byte 0 + 1)
        ((savedString g 20 1 (savedLen g 1)).view g.env.wild .pPassword)
        g.env.wild).frame g.env.wild := by
  rw [savedString_eq_savedText (by decide) (by decide),
    savedString_eq_savedText (by decide) (by decide), h.second, savedApId, savedApId, h.apId]
  rcases hw with hw | hends
  · rw [hw]
  · obtain ⟨hv, hlt⟩ := Buf.sameString (w := g.env.wild) (o := .pPassword) hends g'.env.wild
    exact configureWifiCredentials_same _ hv (by omega)

def stampBuf (v : View) (w : Wild Obj) : Buf 15 :=
  (uninitialised w .timeStamp).memcpy 0 (v.shift 5).byte timestampSize

theorem stampBuf_byte (v : View) (w : Wild Obj) (hi : i < 10) :
    ((stampBuf v w).view w .timeStamp).byte i = v.byte (5 + i) := by
  rw [Buf.view_byte, stampBuf, Buf.rd_memcpy, if_pos ⟨Nat.zero_le i, by
    simp only [timestampSize]
    omega, by omega⟩]
  rfl

theorem activateFrame_same (h : SameTexts g.ble.savedMessages g'.ble.savedMessages)
    (hstamp : ∀ i, i < 10 → (recvdMsgFull g').byte (5 + i) = (recvdMsgFull g).byte (5 + i))
    (hw : g'.env.wild = g.env.wild ∨ (∃ i, savedText g.ble.savedMessages 0 1 i = 0) ∧
      ∃ i, savedText g.ble.savedMessages 1 1 i = 0) :
    (ccuSentActivateSystemMsg
        ((savedString g' 20 0 (savedLen g' 1)).view g'.env.wild .actLatitude)
        ((savedString g' 20 1 (savedLen g' 1)).view g'.env.wild .actLongitude)
        ((stampBuf (recvdMsgFull g') g'.env.wild).view g'.env.wild .timeStamp)
        g'.env.wild).frame g'.env.wild =
      (ccuSentActivateSystemMsg
        ((savedString g 20 0 (savedLen g 1)).view g.env.wild .actLatitude)
        ((savedString g 20 1 (savedLen g 1)).view g.env.wild .actLongitude)
        ((stampBuf (recvdMsgFull g) g.env.wild).view g.env.wild .timeStamp)
        g.env.wild).frame g.env.wild := by
  iterate 2 rw [savedString_eq_savedText (by decide) (by decide),
    savedString_eq_savedText (by decide) (by decide)]
  rw [h.latitude, h.second]
  rcases hw with hw | ⟨hlat, hlong⟩
  · have hbuf : stampBuf (recvdMsgFull g') g.env.wild = stampBuf (recvdMsgFull g) g.env.wild :=
      Buf.memcpy_congr _ _ rfl fun i _ hi => hstamp i hi
    rw [hw, hbuf]
  · obtain ⟨ha, halt⟩ := Buf.sameString (w := g.env.wild) (o := .actLatitude) hlat g'.env.wild
    obtain ⟨hb, hblt⟩ := Buf.sameString (w := g.env.wild) (o := .actLongitude) hlong g'.env.wild
    apply activateSystemMsg_same ha hb _ (by omega)
    intro i hi
    rw [stampBuf_byte _ _ hi, stampBuf_byte _ _ hi, hstamp i hi]

end Texts

section Handlers

variable {iCmd iCmd' : View} (hcmd : ∀ i, i < 17 → iCmd'.byte i = iCmd.byte i)
  {g g' : Globals} (h : Alike g g')

include hcmd h

theorem executeRegister_alike (hlen : iCmd.byte 0 ∈ Cid.dataTypes .register → iCmd.byte 0 ≠ 4 →
      (iCmd.byte 1).toNat ≤ 15) :
    Alike (executeRegister iCmd g) (executeRegister iCmd' g') := by
  have hrelay : ∀ (type : Byte) {g₁ g₁' : Globals}, Alike g₁ g₁' → (iCmd.byte 1).toNat ≤ 15 →
      Alike (g₁.transmit (ccuSendRegMsgNew type (iCmd.shift 2) (iCmd.byte 1).toNat))
        (g₁'.transmit (ccuSendRegMsgNew type (iCmd'.shift 2) (iCmd.byte 1).toNat)) := by
    intro type g₁ g₁' h₁ hle
    apply h₁.transmit
    exact sendRegMsgNew_same type (by omega) fun i hi => hcmd (2 + i) (by omega)
  unfold executeRegister
  rw [hcmd 0 (by decide), hcmd 1 (by decide)]
  generalize iCmd.byte 0 = t at *
  dsimp only
  split
  case h_4 =>
    apply ((h.setRet _ _).setRet _ _).transmit
    exact sendRegMsgNew_same _ (by decide) fun i hi => hcmd (1 + i) (by
      simp only [androidIdOrUuidSize] at hi
      omega)
  case h_9 => exact (h.setRet _ _).setRet _ _
  all_goals exact hrelay _ ((h.setRet _ _).setRet _ _) (hlen (by decide) (by decide))

omit h in
theorem loginPart_same {size : Nat} (hlen : (iCmd.byte 1).toNat ≤ 15) :
    loginPart size iCmd' = loginPart size iCmd := by
  unfold loginPart
  rw [hcmd 1 (by decide)]
  apply Buf.memcpy_congr _ _ rfl
  intro i _ hi
  exact hcmd (2 + i) (by omega)

theorem executeLogin_alike (hlen : iCmd.byte 0 ∈ Cid.dataTypes .login → (iCmd.byte 1).toNat ≤ 15)
    (hw : iCmd.byte 0 = 4 → g'.env.wild = g.env.wild ∨
      ∃ i : Fin 20, i.val ≤ 8 ∧ g.ble.login.iPwd i = 0) :
    Alike (executeLogin iCmd g) (executeLogin iCmd' g') := by
  have hpart : ∀ size, iCmd.byte 0 ∈ Cid.dataTypes .login →
      loginPart size iCmd' = loginPart size iCmd :=
    fun size ht => loginPart_same hcmd (hlen ht)
  unfold executeLogin
  rw [hcmd 0 (by decide), hcmd 1 (by decide)]
  generalize iCmd.byte 0 = t at *
  dsimp only
  split
  case h_1 =>
    have hset := h.setLogin { g.ble.login with iPwd := loginPart 20 iCmd }
      { g'.ble.login with iPwd := loginPart 20 iCmd' } (by rw [h.login, hpart 20 (by decide)])
    exact hset.setRet _ _
  case h_2 =>
    have hset := h.setLogin { g.ble.login with timestamp := loginPart 15 iCmd }
      { g'.ble.login with timestamp := loginPart 15 iCmd' }
      (by rw [h.login, hpart 15 (by decide)])
    exact hset.setRet _ _
  case h_3 =>
    have hset := h.setLogin { g.ble.login with latitude := loginPart 15 iCmd }
      { g'.ble.login with latitude := loginPart 15 iCmd' }
      (by rw [h.login, hpart 15 (by decide)])
    exact hset.setRet _ _
  case h_4 =>
    have hset := h.setLogin { g.ble.login with longitude := loginPart 15 iCmd }
      { g'.ble.login with longitude := loginPart 15 iCmd' }
      (by rw [h.login, hpart 15 (by decide)])
    have hframe := @loginFrame_same g g' h.login (hw rfl)
    apply Alike.transmit
    · apply Alike.access
      apply Alike.setFsm
      apply Alike.access
      exact hset
    · exact hframe
  case h_5 => exact h

theorem executeChangePassword_alike
    (htexts : iCmd.byte 0 = 2 → SameTexts (saveGroupMessages (recvdMsgFull g) 2 g).ble.savedMessages
      (saveGroupMessages (recvdMsgFull g') 2 g').ble.savedMessages)
    (hw : iCmd.byte 0 = 2 → g'.env.wild = g.env.wild ∨
      (∃ i, savedText (saveGroupMessages (recvdMsgFull g) 2 g).ble.savedMessages 0 0 i = 0) ∧
        ∃ i, savedText (saveGroupMessages (recvdMsgFull g) 2 g).ble.savedMessages 1 1 i = 0) :
    Alike (executeChangePassword iCmd g) (executeChangePassword iCmd' g') := by
  unfold executeChangePassword
  rw [hcmd 0 (by decide), hcmd 1 (by decide)]
  generalize iCmd.byte 0 = t at *
  dsimp only
  split
  case h_1 => exact ((((h.access _ _).setRet _ _).setRet _ _).setFsm _).save _ _ _
  case h_2 =>
    apply Alike.transmit ((((h.access _ _).setRet _ _).save _ _ _).access _ _)
    exact passwdFrame_same (htexts rfl) (hw rfl)
  case h_3 => exact ((h.access _ _).setRet _ _).setRet _ _

theorem executeSelectAWifi_alike
    (htexts : iCmd.byte 0 = 2 → SameTexts (saveGroupMessages (recvdMsgFull g) 2 g).ble.savedMessages
      (saveGroupMessages (recvdMsgFull g') 2 g').ble.savedMessages)
    (hw : iCmd.byte 0 = 2 → g'.env.wild = g.env.wild ∨
      ∃ i, savedText (saveGroupMessages (recvdMsgFull g) 2 g).ble.savedMessages 1 1 i = 0) :
    Alike (executeSelectAWifi iCmd g) (executeSelectAWifi iCmd' g') := by
  unfold executeSelectAWifi
  rw [hcmd 0 (by decide), hcmd 1 (by decide)]
  generalize iCmd.byte 0 = t at *
  dsimp only
  split
  case h_1 =>
    apply Alike.save
    exact ((((h.access _ _).setRet _ _).setThisCcu (by exact h.mob1)).access _ _).setRet _ _
  case h_2 =>
    apply Alike.transmit
    · apply Alike.setFsm
      apply Alike.access
      apply Alike.save
      exact ((((h.access _ _).setRet _ _).setThisCcu (by exact h.mob1)).access _ _).setRet _ _
    · exact credentialsFrame_same (htexts rfl) (hw rfl)
  case h_3 => exact ((h.access _ _).setRet _ _).setRet _ _

theorem executeCcuActivate_alike
    (htexts : iCmd.byte 0 = 3 → SameTexts g.ble.savedMessages g'.ble.savedMessages)
    (hstamp : iCmd.byte 0 = 3 → ∀ i, i < 10 →
      (recvdMsgFull g').byte (5 + i) = (recvdMsgFull g).byte (5 + i))
    (hw : iCmd.byte 0 = 3 → g'.env.wild = g.env.wild ∨
      (∃ i, savedText g.ble.savedMessages 0 1 i = 0) ∧
        ∃ i, savedText g.ble.savedMessages 1 1 i = 0) :
    Alike (executeCcuActivate iCmd g) (executeCcuActivate iCmd' g') := by
  unfold executeCcuActivate
  rw [hcmd 0 (by decide), hcmd 1 (by decide)]
  generalize iCmd.byte 0 = t at *
  dsimp only
  split
  case h_1 => exact (((h.access _ _).setRet _ _).setRet _ _).save _ _ _
  case h_2 => exact (((h.access _ _).setRet _ _).setRet _ _).save _ _ _
  case h_3 =>
    apply Alike.transmit (((h.access _ _).setRet _ _).access _ _)
    exact activateFrame_same (htexts rfl) (hstamp rfl) (hw rfl)
  case h_4 => exact ((h.access _ _).setRet _ _).setRet _ _

omit hcmd in
theorem executeStoreEmergencyNumber_alike (ht : iCmd'.byte 0 = iCmd.byte 0)
    (hseen : iCmd.byte 0 = 1 ∨ iCmd.byte 0 = 2 → SameNumber (recvdMsgFull g) (recvdMsgFull g'))
    (hw : iCmd.byte 0 = 1 ∨ iCmd.byte 0 = 2 → g'.env.wild = g.env.wild ∨
      (recvdMsgFull g).byte 3 = 1 ∨ (recvdMsgFull g).byte 3 = 2) :
    Alike (executeStoreEmergencyNumber iCmd g) (executeStoreEmergencyNumber iCmd' g') := by
  have hframe : (iCmd.byte 0 = 1 ∨ iCmd.byte 0 = 2) →
      (ccuSentStoreEmergencyNumberMsg (recvdMsgFull g') g'.env.wild).frame g'.env.wild =
        (ccuSentStoreEmergencyNumberMsg (recvdMsgFull g) g.env.wild).frame g.env.wild := by
    intro htype
    unfold ccuSentStoreEmergencyNumberMsg
    rw [(hseen htype).header 3 (by decide) (by decide)]
    apply numberFrame_same _ _ (hseen htype)
    refine (hw htype).imp_right fun hknown => ?_
    rcases hknown with h3 | h3 <;> rw [h3] <;> exact Option.some_ne_none _
  unfold executeStoreEmergencyNumber
  rw [ht]
  generalize iCmd.byte 0 = t at *
  dsimp only
  split
  case h_1 => exact ((h.setFsm _).setRet _ _).transmit (hframe (.inl rfl))
  case h_2 => exact ((h.setFsm _).setRet _ _).transmit (hframe (.inr rfl))
  case h_3 => exact (h.setFsm _).setRet _ _

omit hcmd in
theorem executeStorePersonalNumber_alike (ht : iCmd'.byte 0 = iCmd.byte 0)
    (hseen : iCmd.byte 0 = 1 ∨ iCmd.byte 0 = 2 → SameNumber (recvdMsgFull g) (recvdMsgFull g'))
    (hw : iCmd.byte 0 = 1 ∨ iCmd.byte 0 = 2 → g'.env.wild = g.env.wild ∨
      (recvdMsgFull g).byte 3 = 0 ∨ (recvdMsgFull g).byte 3 = 1 ∨ (recvdMsgFull g).byte 3 = 2) :
    Alike (executeStorePersonalNumber iCmd g) (executeStorePersonalNumber iCmd' g') := by
  have hframe : (iCmd.byte 0 = 1 ∨ iCmd.byte 0 = 2) →
      (ccuSentStorePersonalNumberMsg (recvdMsgFull g') g'.env.wild).frame g'.env.wild =
        (ccuSentStorePersonalNumberMsg (recvdMsgFull g) g.env.wild).frame g.env.wild := by
    intro htype
    unfold ccuSentStorePersonalNumberMsg
    rw [(hseen htype).header 3 (by decide) (by decide)]
    apply numberFrame_same _ _ (hseen htype)
    refine (hw htype).imp_right fun hknown => ?_
    rcases hknown with h3 | h3 | h3 <;> rw [h3] <;> exact Option.some_ne_none _
  unfold executeStorePersonalNumber
  rw [ht]
  generalize iCmd.byte 0 = t at *
  dsimp only
  split
  case h_1 =>
    apply Alike.transmit
    · apply Alike.setRet
      apply Alike.setThisCcu _ (by exact h.mob1)
      exact ((h.setFsm _).access _ _).setRet _ _
    · exact hframe (.inl rfl)
  case h_2 =>
    apply Alike.transmit
    · apply Alike.setRet
      apply Alike.setThisCcu _ (by exact h.mob1)
      exact ((h.setFsm _).access _ _).setRet _ _
    · exact hframe (.inr rfl)
  case h_3 =>
    apply Alike.setRet
    apply Alike.setThisCcu _ (by exact h.mob1)
    exact ((h.setFsm _).access _ _).setRet _ _

omit hcmd in
theorem executeEnterLocalHelpNumber_alike (ht : iCmd'.byte 0 = iCmd.byte 0)
    (hseen : iCmd.byte 0 = 1 ∨ iCmd.byte 0 = 2 → SameNumber (recvdMsgFull g) (recvdMsgFull g')) :
    Alike (executeEnterLocalHelpNumber iCmd g) (executeEnterLocalHelpNumber iCmd' g') := by
  have hframe : (iCmd.byte 0 = 1 ∨ iCmd.byte 0 = 2) →
      (ccuSentStoreLocalHelpNumberMsg (recvdMsgFull g') g'.env.wild).frame g'.env.wild =
        (ccuSentStoreLocalHelpNumberMsg (recvdMsgFull g) g.env.wild).frame g.env.wild := by
    intro htype
    unfold ccuSentStoreLocalHelpNumberMsg
    rw [(hseen htype).header 3 (by decide) (by decide)]
    exact numberFrame_same _ _ (hseen htype) (.inr (Option.some_ne_none _))
  have hlocated : ∀ (i i' : Nat) (f f' : Site → Site) {g₁ g₁' : Globals}, Alike g₁ g₁' →
      Alike (setVisitedLocation i f g₁) (setVisitedLocation i' f' g₁') :=
    fun _ _ _ _ _ _ h₁ => .of h₁.main h₁.mob1 h₁.login h₁.voice h₁.io
  have hset := (h.access (decide (1 + mobNoSize ≤ iCmd.room))
    (decide (1 + mobNoSize ≤ iCmd'.room))).setRet bleRetMsgDataTypeOffset (iCmd.byte 0)
  unfold executeEnterLocalHelpNumber
  rw [ht]
  generalize iCmd.byte 0 = t at *
  dsimp only
  split
  case h_1 => exact (hlocated _ _ _ _ hset).transmit (hframe (.inl rfl))
  case h_2 => exact (hlocated _ _ _ _ hset).transmit (hframe (.inr rfl))
  case h_3 => exact hset.setRet _ _

omit hcmd in
theorem executeScanWifis_alike (ht : iCmd'.byte 0 = iCmd.byte 0) :
    Alike (executeScanWifis iCmd g) (executeScanWifis iCmd' g') := by
  have hclear : ∀ {g₁ g₁' : Globals}, Alike g₁ g₁' → Alike (akbiClearSsids g₁) (akbiClearSsids g₁') :=
    fun h₁ => .of h₁.main h₁.mob1 h₁.login h₁.voice h₁.io
  unfold executeScanWifis
  rw [ht]
  generalize iCmd.byte 0 = t at *
  dsimp only
  split
  case h_1 =>
    apply Alike.setRet
    exact ((hclear (h.setRet _ _)).setFsm _).transmit (headerOnlyMsg_same (by decide) _)
  case h_2 => exact (h.setRet _ _).setRet _ _
  case h_3 => exact h.setRet _ _

omit hcmd in
/-- The timestamp is measured up to a zero that nothing puts behind it. -/
theorem executeConnectToWifi_alike (hsame : iCmd' = iCmd) (hw : g'.env.wild = g.env.wild) :
    Alike (executeConnectToWifi iCmd g) (executeConnectToWifi iCmd' g') := by
  subst hsame
  unfold executeConnectToWifi
  apply (h.access _ _).transmit
  have hsame : ∀ ok, (g'.access ok).env.wild = (g.access ok).env.wild := fun _ => hw
  rw [hsame]

theorem updateCcuSw_alike (hlen : (iCmd.byte 0).toNat = 10) :
    Alike (updateCcuSw iCmd g) (updateCcuSw iCmd' g') := by
  unfold updateCcuSw
  rw [hcmd 0 (by decide)]
  apply (h.access _ _).transmit
  apply updateSwMsg_same
  intro i hi
  simp only [localCopy]
  rw [if_pos (by omega), if_pos (by omega)]
  exact hcmd (1 + i) (by omega)

end Handlers

theorem setChunker_alike {g g' : Globals} (h : Alike g g') (u : AudioUpload) (c : Chunker) :
    Alike (setChunker u c g) (setChunker u c g') := by
  refine .of h.main h.mob1 h.login ?_ h.io
  unfold setChunker
  dsimp only
  rw [h.voice]

theorem voiceDataRow_same {g g' : Globals} (h : Alike g g') {row i : Nat} (hrow : row < 4)
    (hi : i < 256) : (voiceDataRow g' row).byte i = (voiceDataRow g row).byte i := by
  unfold voiceDataRow
  dsimp only
  rw [h.voice, Buf.rd_of_lt _ _ (by omega), Buf.rd_of_lt _ _ (by omega)]

section Audio

variable {data data' : View} (hdata : ∀ i, i < 30 → data'.byte i = data.byte i)
  {g g' : Globals} (h : Alike g g') (hk : Kept g.ble.voice)

include hdata h

theorem storeAudio_alike (u : AudioUpload) : Alike (storeAudio u data g) (storeAudio u data' g') := by
  refine .of h.main h.mob1 h.login ?_ h.io
  unfold storeAudio
  dsimp only
  rw [h.voice]
  congr 1
  apply Buf.memcpy_congr _ _ rfl
  intro i _ hi
  exact hdata (4 + i) (by omega)

theorem storeAndSend_alike {u : AudioUpload} (hk : ∃ i < 2 ^ 18, g.ble.voice.chunker u = chunkerAt i)
    (opcode audioNumber : Byte) (voiceMessageLength : Nat) :
    Alike (storeAndSend u (rawAudioMsg opcode) data audioNumber voiceMessageLength g)
      (storeAndSend u (rawAudioMsg opcode) data' audioNumber voiceMessageLength g') := by
  obtain ⟨i, _, hc⟩ := hk
  have hstore := storeAudio_alike hdata h u
  have hrow : (g.ble.voice.chunker u).bufferNumber < 4 := by
    rw [hc]
    exact Nat.mod_lt _ (by decide)
  have hoffset : (g.ble.voice.chunker u).chunkOffset ≤ 240 := by
    rw [hc]
    show 16 * (i % 16) ≤ 240
    omega
  have hframe : ∀ len, len ≤ 256 → Alike
      ((storeAudio u data g).transmit (rawAudioMsg opcode
        (voiceDataRow (storeAudio u data g) (g.ble.voice.chunker u).bufferNumber) len audioNumber))
      ((storeAudio u data' g').transmit (rawAudioMsg opcode
        (voiceDataRow (storeAudio u data' g') (g.ble.voice.chunker u).bufferNumber) len
        audioNumber)) := by
    intro len hlen
    apply hstore.transmit
    exact rawAudioMsg_same _ _ hlen fun i hi => voiceDataRow_same hstore hrow (by omega)
  unfold storeAndSend
  dsimp only
  rw [h.voice]
  split
  · apply setChunker_alike
    exact hframe _ (by omega)
  · split
    · apply setChunker_alike
      exact hframe _ (by omega)
    · exact setChunker_alike hstore _ _

theorem executeRecordPersonalVoiceMsgNew_alike (hk : Kept g.ble.voice) :
    Alike (executeRecordPersonalVoiceMsgNew data g) (executeRecordPersonalVoiceMsgNew data' g') := by
  have hbegin : ∀ (length : Nat) (index : Byte), Alike
      (({ g with
        ble.voice.recordMessageLength := length
        ble.voice.flagSendingVoiceData := true } : Globals).transmit
          (ccuSentRecordVoiceMsg index length))
      (({ g' with
        ble.voice.recordMessageLength := length
        ble.voice.flagSendingVoiceData := true } : Globals).transmit
          (ccuSentRecordVoiceMsg index length)) := by
    intro length index
    apply Alike.transmit (h.setVoice (by rw [h.voice]))
    exact recordVoiceMsg_same _ _
  unfold executeRecordPersonalVoiceMsgNew
  rw [hdata 3 (by decide), hdata 4 (by decide), hdata 5 (by decide), hdata 6 (by decide),
    hdata 7 (by decide), h.voice]
  dsimp only
  split
  · split
    · exact ((h.setVoice (by rw [h.voice])).setRet _ _).setFsm _
    · exact storeAndSend_alike hdata h (hk.chunker .recordVoice) _ _ _
  · split
    · exact hbegin _ _
    · exact hbegin _ _
    · exact h

theorem executeStoreAddressVisitingNew_alike (hk : Kept g.ble.voice) :
    Alike (executeStoreAddressVisitingNew data g) (executeStoreAddressVisitingNew data' g') := by
  have hstamp : g'.ble.voice.visitingTimeStamp.memcpy 0 (data'.shift 4).byte timestampSize =
      g.ble.voice.visitingTimeStamp.memcpy 0 (data.shift 4).byte timestampSize := by
    rw [h.voice]
    apply Buf.memcpy_congr _ _ rfl
    intro i _ hi
    simp only [timestampSize] at hi
    exact hdata (4 + i) (by omega)
  unfold executeStoreAddressVisitingNew
  rw [hdata 3 (by decide), hdata 5 (by decide), hdata 6 (by decide), hdata 7 (by decide)]
  dsimp only
  rw [hstamp, h.voice]
  split
  · apply Alike.transmit ((h.setVoice rfl).setRet _ _)
    apply addressVisiting_same
    intro i hi
    rw [Buf.view_byte, Buf.view_byte, Buf.rd_of_lt _ _ (by omega), Buf.rd_of_lt _ _ (by omega)]
  · exact storeAndSend_alike hdata h (hk.chunker .addressVisiting) _ _ _
  · exact h.setVoice rfl
  · exact h.setVoice rfl
  · exact (h.setRet _ _).setFsm _
  · exact h

end Audio

def lengthOffset (t : Byte) : Option Cid → Option Nat
  | some .register => if t ∈ Cid.dataTypes .register ∧ t ≠ 4 then some 4 else none
  | some .login => if t ∈ Cid.dataTypes .login then some 4 else none
  | some .ccuActivate => if t ∈ Cid.dataTypes .ccuActivate then some 4 else none
  | some .changePassword | some .selectAWifi | some .storeEmergencyNumbers
  | some .storePersonalNumbers | some .enterLocalHelpNumbers =>
    if t = 1 ∨ t = 2 then some 4 else none
  | some .connectToWifi | some .updateCcuSw => some 3
  | _ => none

def carriesTimestamp (t : Byte) : Option Cid → Bool
  | some .register => t = 8
  | some .login => t = 2
  | some .ccuActivate => t = 3
  | some .connectToWifi | some .updateCcuSw => true
  | _ => false

def commandOf (value : List Byte) : Option Cid := Cid.ofByte? (value.getD 2 0)

/-- The data is where the message says it is, and a timestamp has ten bytes. -/
structure ProperMessage (value : List Byte) : Prop where
  size : value.length ≤ bleMessageSize
  declared : ∀ k, lengthOffset (value.getD 3 0) (commandOf value) = some k →
    k + 1 + (value.getD k 0).toNat ≤ value.length
  timestamp : ∀ k, lengthOffset (value.getD 3 0) (commandOf value) = some k →
    carriesTimestamp (value.getD 3 0) (commandOf value) = true → value.getD k 0 = 10

theorem ProperMessage.short {value : List Byte} (h : ProperMessage value)
    (h4 : lengthOffset (value.getD 3 0) (commandOf value) = some 4) :
    (value.getD 4 0).toNat ≤ 15 := by
  have hsize : value.length ≤ 20 := h.size
  have hdeclared := h.declared 4 h4
  omega

section Saved

variable {cmd : Option Cid} {iMsg iMsg' iCmd iCmd' : View} {g g' : Globals}

theorem SameTexts.ofSaved (h : SameTexts (dispatch cmd iMsg iCmd g).ble.savedMessages
      (dispatch cmd iMsg' iCmd' g').ble.savedMessages)
    (ht : iMsg.byte 3 = iCmd.byte 0) (ht' : iMsg'.byte 3 = iCmd'.byte 0)
    (hsame : iCmd'.byte 0 = iCmd.byte 0) {row : Nat}
    (hrow : savesRow (iCmd.byte 0) cmd = some row) :
    SameTexts (saveGroupMessages (recvdMsgFull g) row g).ble.savedMessages
      (saveGroupMessages (recvdMsgFull g') row g').ble.savedMessages := by
  have hrow' : savesRow (iCmd'.byte 0) cmd = some row := hsame ▸ hrow
  rw [(dispatch_effect cmd iMsg iCmd g ht).saved, (dispatch_effect cmd iMsg' iCmd' g' ht').saved,
    hrow, hrow'] at h
  exact h

theorem SameTexts.ofKept (h : SameTexts (dispatch cmd iMsg iCmd g).ble.savedMessages
      (dispatch cmd iMsg' iCmd' g').ble.savedMessages)
    (ht : iMsg.byte 3 = iCmd.byte 0) (ht' : iMsg'.byte 3 = iCmd'.byte 0)
    (hsame : iCmd'.byte 0 = iCmd.byte 0) (hrow : savesRow (iCmd.byte 0) cmd = none) :
    SameTexts g.ble.savedMessages g'.ble.savedMessages := by
  have hrow' : savesRow (iCmd'.byte 0) cmd = none := hsame ▸ hrow
  rw [(dispatch_effect cmd iMsg iCmd g ht).saved, (dispatch_effect cmd iMsg' iCmd' g' ht').saved,
    hrow, hrow'] at h
  exact h

end Saved

section Families

variable {cmd : Cid} {iMsg iMsg' iCmd iCmd' : View} {g g' : Globals} {t : Byte}

theorem credentials_alike (hcmd : cmd = .register ∨ cmd = .login ∨ cmd = .forgotPassword)
    (h : Alike g g') (hdata : ∀ i, i < 17 → iCmd'.byte i = iCmd.byte i) (ht : iCmd.byte 0 = t)
    (hshort : lengthOffset t (some cmd) = some 4 → (iCmd.byte 1).toNat ≤ 15)
    (hw : g'.env.wild = g.env.wild ∨ Determined t (recvdMsgFull g).byte g.ble.savedMessages
      g.ble.login.iPwd (some cmd)) :
    Alike (dispatch (some cmd) iMsg iCmd g) (dispatch (some cmd) iMsg' iCmd' g') := by
  subst ht
  rcases hcmd with rfl | rfl | rfl
  · apply executeRegister_alike hdata (h.setFsm _)
    exact fun hin hne => hshort (if_pos ⟨hin, hne⟩)
  · apply executeLogin_alike hdata (h.setFsm _)
    · exact fun hin => hshort (if_pos hin)
    · exact fun h4 => hw.imp_right fun hdet => hdet h4
  · exact (h.setFsm _).transmit (headerOnlyMsg_same (by decide) _)

theorem multipart_alike (hcmd : cmd = .changePassword ∨ cmd = .selectAWifi ∨ cmd = .ccuActivate)
    (h : Alike g g') (hdata : ∀ i, i < 17 → iCmd'.byte i = iCmd.byte i) (ht : iCmd.byte 0 = t)
    (htype : iMsg.byte 3 = iCmd.byte 0) (htype' : iMsg'.byte 3 = iCmd'.byte 0)
    (htexts : SameTexts (dispatch (some cmd) iMsg iCmd g).ble.savedMessages
      (dispatch (some cmd) iMsg' iCmd' g').ble.savedMessages)
    (hstamp : some cmd = some .ccuActivate → t = 3 → ∀ i, i < 10 →
      (recvdMsgFull g').byte (5 + i) = (recvdMsgFull g).byte (5 + i))
    (hw : g'.env.wild = g.env.wild ∨ Determined t (recvdMsgFull g).byte g.ble.savedMessages
      g.ble.login.iPwd (some cmd)) :
    Alike (dispatch (some cmd) iMsg iCmd g) (dispatch (some cmd) iMsg' iCmd' g') := by
  subst ht
  rcases hcmd with rfl | rfl | rfl
  · apply executeChangePassword_alike hdata (h.setFsm _)
    · intro h2
      apply htexts.ofSaved htype htype' (hdata 0 (by decide))
      rw [h2]
      rfl
    · exact fun h2 => hw.imp_right fun hdet => hdet h2
  · apply executeSelectAWifi_alike hdata (h.setFsm _)
    · intro h2
      apply htexts.ofSaved htype htype' (hdata 0 (by decide))
      rw [h2]
      rfl
    · exact fun h2 => hw.imp_right fun hdet => hdet h2
  · apply executeCcuActivate_alike hdata h
    · intro h3
      apply htexts.ofKept htype htype' (hdata 0 (by decide))
      rw [h3]
      rfl
    · exact hstamp rfl
    · exact fun h3 => hw.imp_right fun hdet => hdet h3

theorem numbers_alike (hcmd : cmd = .storeEmergencyNumbers ∨ cmd = .storePersonalNumbers ∨
      cmd = .enterLocalHelpNumbers) (h : Alike g g')
    (hdata : ∀ i, i < 17 → iCmd'.byte i = iCmd.byte i) (ht : iCmd.byte 0 = t)
    (hnumber : relaysNumber t (some cmd) → SameNumber (recvdMsgFull g) (recvdMsgFull g'))
    (hw : g'.env.wild = g.env.wild ∨ Determined t (recvdMsgFull g).byte g.ble.savedMessages
      g.ble.login.iPwd (some cmd)) :
    Alike (dispatch (some cmd) iMsg iCmd g) (dispatch (some cmd) iMsg' iCmd' g') := by
  subst ht
  rcases hcmd with rfl | rfl | rfl
  · apply executeStoreEmergencyNumber_alike h (hdata 0 (by decide)) hnumber
    exact fun htype => hw.imp_right fun hdet => (hdet htype).1
  · apply executeStorePersonalNumber_alike h (hdata 0 (by decide)) hnumber
    exact fun htype => hw.imp_right fun hdet => (hdet htype).1
  · exact executeEnterLocalHelpNumber_alike (h.setFsm _) (hdata 0 (by decide)) hnumber

theorem scanWifis_alike (h : Alike g g') (hdata : ∀ i, i < 17 → iCmd'.byte i = iCmd.byte i) :
    Alike (dispatch (some .scanWifis) iMsg iCmd g) (dispatch (some .scanWifis) iMsg' iCmd' g') := by
  have hscan := executeScanWifis_alike h (hdata 0 (by decide))
  have hkeep : ∀ (scanning : Bool) (g₁ : Globals),
      (if scanning then g₁ else g₁.akbiSetFsmState .wifiScanInProgress).visible = g₁.visible := by
    intro scanning g₁
    split <;> rfl
  exact (hkeep _ _).trans (hscan.trans (hkeep _ _).symm)

end Families

section Dispatch

variable {value : List Byte} {g g' : Globals}

/-- A message is handled alike in two states, if what it relays is alike in them and its frame is
independent of the memory around, or that memory the same. -/
theorem dispatch_alike (hp : ProperMessage value) (hk : Kept g.ble.voice) (h : Alike g g')
    (htexts : SameTexts
      (dispatch (commandOf value) (messageOf value g.env.wild) (bleCommandView value g.env.wild)
        g).ble.savedMessages
      (dispatch (commandOf value) (messageOf value g'.env.wild) (bleCommandView value g'.env.wild)
        g').ble.savedMessages)
    (hnumber : relaysNumber (value.getD 3 0) (commandOf value) →
      SameNumber (recvdMsgFull g) (recvdMsgFull g'))
    (hstamp : commandOf value = some .ccuActivate → value.getD 3 0 = 3 → ∀ i, i < 10 →
      (recvdMsgFull g').byte (5 + i) = (recvdMsgFull g).byte (5 + i))
    (hw : g'.env.wild = g.env.wild ∨ Determined (value.getD 3 0) (recvdMsgFull g).byte
      g.ble.savedMessages g.ble.login.iPwd (commandOf value)) :
    Alike
      (dispatch (commandOf value) (messageOf value g.env.wild) (bleCommandView value g.env.wild) g)
      (dispatch (commandOf value) (messageOf value g'.env.wild) (bleCommandView value g'.env.wild)
        g') := by
  have hbyte : ∀ (w : Wild Obj) i, i < 17 → (bleCommandView value w).byte i = value.getD (3 + i) 0 :=
    fun w i hi => bleCommandView_byte value w hi
  have hcmd : ∀ i, i < 17 → (bleCommandView value g'.env.wild).byte i =
      (bleCommandView value g.env.wild).byte i :=
    fun i hi => (hbyte _ i hi).trans (hbyte _ i hi).symm
  have hmsg : ∀ i, i < 30 → (messageOf value g'.env.wild).byte i =
      (messageOf value g.env.wild).byte i :=
    fun i hi => (messageOf_byte value _ hi).trans (messageOf_byte value _ hi).symm
  have ht := hbyte g.env.wild 0 (by decide)
  have htype : ∀ w, (messageOf value w).byte 3 = (bleCommandView value w).byte 0 :=
    fun w => (messageOf_byte value w (by decide)).trans (hbyte w 0 (by decide)).symm
  have hshort := hp.short
  rw [← hbyte g.env.wild 1 (by decide)] at hshort
  have hstamped := hp.timestamp 3
  generalize commandOf value = cmd at *
  generalize value.getD 3 0 = t at *
  cases cmd with
  | none => exact h.setRet _ _
  | some cmd =>
    cases cmd with
    | register => exact credentials_alike (.inl rfl) h hcmd ht hshort hw
    | login => exact credentials_alike (.inr (.inl rfl)) h hcmd ht hshort hw
    | forgotPassword => exact credentials_alike (.inr (.inr rfl)) h hcmd ht hshort hw
    | changePassword =>
      exact multipart_alike (.inl rfl) h hcmd ht (htype _) (htype _) htexts hstamp hw
    | selectAWifi =>
      exact multipart_alike (.inr (.inl rfl)) h hcmd ht (htype _) (htype _) htexts hstamp hw
    | ccuActivate =>
      exact multipart_alike (.inr (.inr rfl)) h hcmd ht (htype _) (htype _) htexts hstamp hw
    | storeEmergencyNumbers => exact numbers_alike (.inl rfl) h hcmd ht hnumber hw
    | storePersonalNumbers => exact numbers_alike (.inr (.inl rfl)) h hcmd ht hnumber hw
    | enterLocalHelpNumbers => exact numbers_alike (.inr (.inr rfl)) h hcmd ht hnumber hw
    | scanWifis => exact scanWifis_alike h hcmd
    | connectToWifi =>
      have hwild := hw.resolve_right id
      apply executeConnectToWifi_alike (h.setFsm _) _ hwild
      rw [hwild]
    | updateCcuSw =>
      apply updateCcuSw_alike hcmd (h.setFsm _)
      rw [ht, hstamped rfl rfl]
      rfl
    | recordPersonalVoiceMsg => exact executeRecordPersonalVoiceMsgNew_alike hmsg (h.setFsm _) hk
    | addressVisiting => exact executeStoreAddressVisitingNew_alike hmsg h hk
    | setCcuWifiMode =>
      apply (h.setFsm _).transmit
      rw [hmsg 3 (by decide)]
      exact wifiSetMode_same _
    | disconnectFromWifi | setCcuReboot | uploadTripInfo =>
      exact (h.setFsm _).transmit (headerOnlyMsg_same (by decide) _)

end Dispatch

end EspBridges.Ccu
