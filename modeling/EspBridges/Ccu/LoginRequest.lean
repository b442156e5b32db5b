import EspBridges.Ccu.EncoderLaws
import EspBridges.Ccu.LoginLaws

namespace EspBridges.Ccu

open Bytes

def loginRequest (password stamp : List Byte) : List Byte :=
  [btCpOpcodeCidLogin, 44, 0, 0, UInt8.ofNat password.length] ++ password ++
    [tlvTypeLoginTimestamp, UInt8.ofNat timestampSize] ++ stamp

structure CarriesData (data message : List Byte) : Prop where
  length : dataLen message = data.length
  data : (message.drop 5).take data.length = data

structure Credentials (password stamp : List Byte) (ws : List (Nat × List Byte)) : Prop where
  password : ∃ message, latest (isLoginPart 1) ws = some message ∧ CarriesData password message
  stamp : ∃ message, latest (isLoginPart 2) ws = some message ∧ CarriesData stamp message

section Frame

variable {v time : View} {password stamp : List Byte} (w : Wild Obj)

theorem sendLoginMsg_frame (h : v.CString password) (hlen : password.length ≤ 8)
    (hstamp : ∀ i, i < stamp.length → time.byte i = stamp.getD i 0)
    (hstampLen : stamp.length = timestampSize) :
    (ccuSendLoginMsg v v.strlen time w).frame w = loginRequest password stamp := by
  have hten : stamp.length = 10 := hstampLen
  have hmod : password.length % 256 = password.length := Nat.mod_eq_of_lt (by omega)
  unfold ccuSendLoginMsg
  rw [h.holds.strlen, hmod]
  have hpassword := (protocolHdr_startsWith (uninitialised w .pTxBuffer : Buf 25) btCpOpcodeCidLogin
    0 (UInt8.ofNat password.length)).memcpy rfl rfl h.byte
  have hstamped := ((hpassword.put (k := 5 + password.length) (by simp; omega)
    tlvTypeLoginTimestamp).put (k := 6 + password.length) (by simp; omega)
    (UInt8.ofNat timestampSize)).memcpy (k := 7 + password.length) (by simp; omega)
    hstampLen.symm hstamp
  refine (Tx.frame_of_startsWith hstamped ?_ ?_ ?_ _ w).trans ?_
  · simp
    omega
  · simp
    omega
  · simp
    omega
  · simp [loginRequest]

/-- The header, the password, the two bytes before the timestamp and the timestamp need 17 bytes
and the password; `p_tx_buffer` has 25. -/
theorem sendLoginMsg_inBounds_iff (h : v.CString password) (hlen : password.length ≤ 15)
    (hroom : timestampSize ≤ time.room) :
    (ccuSendLoginMsg v v.strlen time w).inBounds = true ↔ password.length ≤ 8 := by
  have hmod : password.length % 256 = password.length := Nat.mod_eq_of_lt (by omega)
  have hpassword := h.room
  rw [timestampSize] at hroom
  rw [Tx.inBounds_iff]
  simp only [ccuSendLoginMsg, h.holds.strlen, hmod, timestampSize, View.ofTx, Buf.view,
    Bool.and_eq_true, decide_eq_true_eq]
  omega

end Frame

theorem loginPart_carried {message data : List Byte} (h : CarriesData data message)
    (hlen : data.length ≤ 15) (w w' : Wild Obj) (o : Obj) (hi : i < n) :
    ((loginPart n (bleCommandView message w)).view w' o).byte i = data.getD i 0 := by
  rw [loginPart_byte message w hi (.inr (by rw [h.length]; exact hlen)), h.length, h.data]

theorem Credentials.iPwd {password stamp : List Byte} {es : List Event} {b : Bridge}
    (h : Credentials password stamp (writes es)) (hr : Machine.run step .boot es = some b)
    (hlen : password.length ≤ 15) (hnonzero : ∀ x ∈ password, x ≠ 0) (w : Wild Obj) (o : Obj) :
    (b.glob.ble.login.iPwd.view w o).CString password := by
  obtain ⟨message, hlatest, hcarries⟩ := h.password
  obtain ⟨w', hkeeps⟩ := run_keepsPart iPwd_keptBy rfl hr
  rw [hlatest, Option.getD_some] at hkeeps
  rw [hkeeps]
  refine ⟨show password.length < 20 by omega, hnonzero, fun i hi => ?_, ?_⟩
  · exact loginPart_carried hcarries hlen w' w o (by omega)
  · rw [loginPart_carried hcarries hlen w' w o (by omega)]
    simp

theorem Credentials.timestamp {password stamp : List Byte} {es : List Event} {b : Bridge}
    (h : Credentials password stamp (writes es)) (hr : Machine.run step .boot es = some b)
    (hlen : stamp.length ≤ 15) (w : Wild Obj) (o : Obj) :
    ∀ i, i < stamp.length → (b.glob.ble.login.timestamp.view w o).byte i = stamp.getD i 0 := by
  obtain ⟨message, hlatest, hcarries⟩ := h.stamp
  obtain ⟨w', hkeeps⟩ := run_keepsPart timestamp_keptBy rfl hr
  rw [hlatest, Option.getD_some] at hkeeps
  rw [hkeeps]
  exact fun i hi => loginPart_carried hcarries hlen w' w o (by omega)

structure LastLoginPart (password stamp : List Byte) (es : List Event) (e : Event) (b b' : Bridge) :
    Prop where
  run : Machine.run step .boot es = some b
  last : ∃ frame value, e.action = .gattWrite false frame value ∧ isLoginPart 4 value = true
  step : step b e = some b'
  credentials : Credentials password stamp (writes es)
  nonzero : ∀ x ∈ password, x ≠ 0
  password : password.length ≤ 15
  stamp : stamp.length = timestampSize

/-- One frame, the request with these credentials, built inside `p_tx_buffer`. -/
structure RequestsLogin (password stamp : List Byte) (e : Event) (b b' : Bridge) : Prop where
  io : b'.glob.env.io = b.glob.env.io ++ [.tx (loginRequest password stamp)]
  inBounds : (loginMsg (b.at e).glob).inBounds = true
  state : b'.glob.fsm.btState = .login

theorem LastLoginPart.inBounds_iff {password stamp : List Byte} {es : List Event} {e : Event}
    {b b' : Bridge} (h : LastLoginPart password stamp es e b b') :
    (loginMsg (b.at e).glob).inBounds = true ↔ password.length ≤ 8 := by
  have hpassword := h.credentials.iPwd h.run h.password h.nonzero e.wild .iPwd
  exact sendLoginMsg_inBounds_iff e.wild hpassword h.password (show 10 ≤ 15 by decide)

/-- A longer password pushes the timestamp out of the buffer. -/
theorem requestsLogin_iff {password stamp : List Byte} {es : List Event} {e : Event}
    {b b' : Bridge} (h : LastLoginPart password stamp es e b b') :
    RequestsLogin password stamp e b b' ↔ password.length ≤ 8 := by
  constructor
  · exact fun hreq => h.inBounds_iff.mp hreq.inBounds
  · intro hlen
    obtain ⟨frame, value, hact, hpart⟩ := h.last
    obtain ⟨_, hb'⟩ := step_eq_some h.step
    rw [hact] at hb'
    obtain ⟨hstate, hio⟩ := lastLoginPart_sends hpart frame (b.at e).glob
    have hpassword := h.credentials.iPwd h.run h.password h.nonzero e.wild .iPwd
    have hstamp := h.credentials.timestamp h.run (by rw [h.stamp]; decide) e.wild .timestamp
    have hframe : (loginMsg (b.at e).glob).frame e.wild = loginRequest password stamp :=
      sendLoginMsg_frame e.wild hpassword hlen hstamp h.stamp
    rw [hb']
    refine ⟨hio.trans ?_, h.inBounds_iff.mpr hlen, hstate⟩
    show _ ++ [Io.tx ((loginMsg (b.at e).glob).frame e.wild)] = _
    rw [hframe]
    rfl

def loginPartMessage (k : Byte) (data : List Byte) : List Byte :=
  [mob1AppTypeId, 1, Cid.login.code, k, UInt8.ofNat data.length] ++ data ++
    List.replicate (15 - data.length) 0

def stampText : List Byte := [0x31, 0x32, 0x31, 0x32, 0x32, 0x30, 0x31, 0x38, 0x30, 0x39]

def lastLoginMessage : Event := .calm (.gattWrite false 0 (loginPartMessage 4 [0x37, 0x37]))

def loginWith (n : Nat) : List Event :=
  written [loginPartMessage 1 (List.replicate n 0x61), loginPartMessage 2 stampText,
    loginPartMessage 3 [0x31, 0x32]]

theorem exists_lastLoginPart {n : Nat}
    (hserved : (Machine.run step .boot (loginWith n)).map (·.glob.main.serviceCreated) = some true)
    (hn : n ≤ 15) : ∃ b b', LastLoginPart (List.replicate n 0x61) stampText (loginWith n)
      lastLoginMessage b b' := by
  obtain ⟨b, hb, hservice⟩ := Option.map_eq_some_iff.mp hserved
  refine ⟨b, _, hb, ⟨0, _, rfl, rfl⟩, if_pos hservice, ⟨?_, ?_⟩, ?_, ?_, rfl⟩
  · rw [loginWith, writes_written]
    refine ⟨_, rfl, ?_, ?_⟩
    · simp [dataLen, loginPartMessage]
      omega
    · simp [loginPartMessage]
  · rw [loginWith, writes_written]
    exact ⟨_, rfl, rfl, rfl⟩
  · intro x hx
    rw [List.eq_of_mem_replicate hx]
    decide
  · rw [List.length_replicate]
    exact hn

theorem eightLetters_request : ∃ b b',
    RequestsLogin (List.replicate 8 0x61) stampText lastLoginMessage b b' := by
  have hserved : (Machine.run step .boot (loginWith 8)).map (·.glob.main.serviceCreated) =
      some true := by
    decide +kernel
  obtain ⟨b, b', h⟩ := exists_lastLoginPart hserved (by decide)
  exact ⟨b, b', (requestsLogin_iff h).mpr (by decide)⟩

/-- With nine letters the last byte of the timestamp is written behind the buffer. -/
theorem nineLetters_overflow : ¬ ∀ (password stamp : List Byte) (es : List Event) (e : Event)
    (b b' : Bridge), LastLoginPart password stamp es e b b' →
      RequestsLogin password stamp e b b' := by
  intro hevery
  have hserved : (Machine.run step .boot (loginWith 9)).map (·.glob.main.serviceCreated) =
      some true := by
    decide +kernel
  obtain ⟨b, b', h⟩ := exists_lastLoginPart hserved (by decide)
  have hfits := h.inBounds_iff.mp (hevery _ _ _ _ _ _ h).inBounds
  exact absurd hfits (by decide)

end EspBridges.Ccu
