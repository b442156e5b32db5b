import EspBridges.Ccu.MultipartLaws
import EspBridges.Ccu.StaticsLaws

namespace EspBridges.Ccu

open Bytes

def isLoginPart (k : Byte) (message : List Byte) : Bool :=
  Cid.ofByte? (message.getD 2 0) = some .login && message.getD 3 0 = k

/-- The password a part 1 delivers: its data bytes, of which a message has 15, to the first zero. -/
def deliveredPassword (message : List Byte) : List Byte :=
  ((message.drop 5).take (min (dataLen message) 15)).takeWhile (· ≠ 0)

def EndsInside (message : List Byte) : Prop :=
  dataLen message ≤ 15 ∨ (deliveredPassword message).length < 15

/-- The most recent part 1; before the first one the buffer is as an empty message leaves it. -/
def newestPassword (ws : List (Nat × List Byte)) : List Byte :=
  (latest (isLoginPart 1) ws).getD []

def CarriesPassword (password frame : List Byte) : Prop :=
  ∃ stamp, Tlv.decode (frame.drop 3) = some [(0, password), (tlvTypeLoginTimestamp, stamp)]

theorem length_deliveredPassword (message : List Byte) : (deliveredPassword message).length ≤ 15 := by
  have htake := (List.takeWhile_sublist
    (l := (message.drop 5).take (min (dataLen message) 15)) (· ≠ 0)).length_le
  rw [List.length_take] at htake
  show (List.takeWhile _ _).length ≤ 15
  omega

theorem loginPart_byte (message : List Byte) (w : Wild Obj) (hi : i < n)
    (hdata : i < 15 ∨ dataLen message ≤ 15) (w' : Wild Obj) (o : Obj) :
    ((loginPart n (bleCommandView message w)).view w' o).byte i =
      ((message.drop 5).take (dataLen message)).getD i 0 := by
  have hlen : ((bleCommandView message w).byte 1).toNat = dataLen message := by
    rw [bleCommandView_byte message w (by omega)]
    rfl
  rw [Buf.view_byte, loginPart, hlen, Buf.rd_memcpy, List.getD_eq_getElem?_getD]
  by_cases hin : i < dataLen message
  · rw [if_pos ⟨Nat.zero_le i, by omega, hi⟩, List.getElem?_take_of_lt hin, List.getElem?_drop,
      ← List.getD_eq_getElem?_getD]
    show (bleCommandView message w).byte (2 + (i - 0)) = _
    rw [Nat.sub_zero, bleCommandView_byte message w (by omega), ← Nat.add_assoc]
  · rw [if_neg (by omega), Buf.rd_of_lt _ _ hi, List.getElem?_eq_none]
    · rfl
    · rw [List.length_take]
      omega

theorem loginPart_holds {message : List Byte} (h : EndsInside message) (w w' : Wild Obj) (o : Obj) :
    ((loginPart 20 (bleCommandView message w)).view w' o).Holds (deliveredPassword message) := by
  have hle := length_deliveredPassword message
  unfold deliveredPassword at hle ⊢
  by_cases hlen : dataLen message ≤ 15
  · rw [Nat.min_eq_left hlen] at hle ⊢
    exact View.holds_text (n := 20) (Nat.le_refl 20) (by omega) fun i hi =>
      loginPart_byte message w hi (.inr hlen) w' o
  · rw [Nat.min_eq_right (by omega)] at hle ⊢
    have hshort := h.resolve_left hlen
    rw [deliveredPassword, Nat.min_eq_right (by omega)] at hshort
    refine View.holds_text (n := 15) (show 15 ≤ 20 by decide) hshort fun i hi => ?_
    rw [loginPart_byte message w (by omega) (.inl hi), List.getD_eq_getElem?_getD,
      List.getD_eq_getElem?_getD, List.getElem?_take_of_lt (by omega), List.getElem?_take_of_lt hi]

def loginAfter (value : List Byte) (w : Wild Obj) (l : LoginStatics) : LoginStatics :=
  if isLoginPart 1 value then { l with iPwd := loginPart 20 (bleCommandView value w) }
  else if isLoginPart 2 value then { l with timestamp := loginPart 15 (bleCommandView value w) }
  else if isLoginPart 3 value then { l with latitude := loginPart 15 (bleCommandView value w) }
  else if isLoginPart 4 value then { l with longitude := loginPart 15 (bleCommandView value w) }
  else l

theorem isLoginPart_other {message : List Byte} (h : isLoginPart k message = true) (hne : k ≠ k') :
    isLoginPart k' message = false := by
  unfold isLoginPart at *
  simp only [Bool.and_eq_true, decide_eq_true_eq] at h
  rw [h.2, decide_eq_false hne, Bool.and_false]

theorem gattsWriteEvt_login (frame : Nat) (value : List Byte) (g : Globals) :
    (gattsWriteEvt false frame value g).ble.login = loginAfter value g.env.wild g.ble.login := by
  by_cases hcmd : Cid.ofByte? (value.getD 2 0) = some .login
  · have hpart := bleCommandView_byte value g.env.wild (i := 0) (by omega)
    have hlogin : (received frame value g).ble.login = g.ble.login := by
      rw [(received_spec frame value g).ble]
    rw [gattsWriteEvt_eq, hcmd, ← hlogin]
    unfold dispatch executeLogin loginAfter isLoginPart
    rw [hcmd, hpart]
    dsimp only
    generalize value.getD (3 + 0) 0 = t
    simp only [decide_true, Bool.true_and, decide_eq_true_eq]
    split
    case h_5 h1 h2 h3 h4 => rw [if_neg h1, if_neg h2, if_neg h3, if_neg h4]; rfl
    all_goals rfl
  · have hno : ∀ k, isLoginPart k value = false := by
      intro k
      unfold isLoginPart
      rw [decide_eq_false hcmd, Bool.false_and]
    rw [(gattsWriteEvt_leaves frame value g).login hcmd, loginAfter, hno, hno, hno, hno]
    rfl

def KeptBy (k : Byte) (sel : LoginStatics → Buf n) : Prop :=
  ∀ value w l, sel (loginAfter value w l) =
    if isLoginPart k value then loginPart n (bleCommandView value w) else sel l

theorem iPwd_keptBy : KeptBy 1 LoginStatics.iPwd := by
  intro value w l
  unfold loginAfter
  by_cases h1 : isLoginPart 1 value = true
  · rw [if_pos h1, if_pos h1]
  · rw [if_neg h1, if_neg h1]
    repeat' split
    all_goals rfl

theorem timestamp_keptBy : KeptBy 2 LoginStatics.timestamp := by
  intro value w l
  unfold loginAfter
  by_cases h2 : isLoginPart 2 value = true
  · rw [if_neg (by rw [isLoginPart_other h2 (by decide)]; decide), if_pos h2, if_pos h2]
  · rw [if_neg h2, if_neg h2]
    repeat' split
    all_goals rfl

def Keeps (k : Byte) (sel : LoginStatics → Buf n) (ws : List (Nat × List Byte)) (g : Globals) :
    Prop :=
  ∃ w, sel g.ble.login = loginPart n (bleCommandView ((latest (isLoginPart k) ws).getD []) w)

section Keeps

variable {k : Byte} {sel : LoginStatics → Buf n}

theorem step_keepsPart (hkept : KeptBy k sel) (ws : List (Nat × List Byte)) (b : Bridge) (e : Event)
    (b' : Bridge) (h : Keeps k sel ws b.glob) (hs : step b e = some b') :
    Keeps k sel (noteWrite ws e) b'.glob := by
  have hleaves := step_leaves hs
  obtain ⟨_, rfl⟩ := step_eq_some hs
  unfold noteWrite Keeps
  cases hact : e.action with
  | gattWrite isPrep frame value =>
    cases isPrep with
    | true => exact h
    | false =>
      show ∃ w, sel (gattsWriteEvt false frame value (b.at e).glob).ble.login = _
      rw [gattsWriteEvt_login, hkept]
      by_cases hpart : isLoginPart k value = true
      · rw [latest_cons_of_pos hpart, if_pos hpart]
        exact ⟨_, rfl⟩
      · rw [latest_cons_of_neg (Bool.eq_false_iff.mpr hpart), if_neg hpart]
        exact h
  | regEvt | gattRead | timerExpiry | advDataSet | updateConnParams | gattDisconnect
  | byteReceived =>
    rw [hact] at hleaves
    rw [hleaves.login nofun]
    exact h

theorem loginPart_nil (n : Nat) (w : Wild Obj) : loginPart n (bleCommandView [] w) = Buf.zero := by
  have hlen : ((bleCommandView [] w).byte 1).toNat = 0 := by
    rw [bleCommandView_byte [] w (by omega)]
    rfl
  rw [loginPart, hlen]
  funext j
  rw [Buf.memcpy_apply, if_neg (by omega)]

theorem run_keepsPart (hkept : KeptBy k sel) (hboot : sel Globals.boot.ble.login = Buf.zero)
    {es : List Event} {b : Bridge} (hr : Machine.run step .boot es = some b) :
    Keeps k sel (writes es) b.glob := by
  have h0 : Keeps k sel [] Bridge.boot.glob := ⟨Wild.zero, hboot.trans (loginPart_nil n _).symm⟩
  have hkeeps := Machine.run_follows (step_keepsPart hkept) h0 hr
  exact hkeeps

end Keeps

def loginMsg (g : Globals) : Tx :=
  let iPwd := g.ble.login.iPwd.view g.env.wild .iPwd
  ccuSendLoginMsg iPwd iPwd.strlen (g.ble.login.timestamp.view g.env.wild .timestamp) g.env.wild

theorem lastPart_io (iMsg : View) {iCmd : View} (ht : iCmd.byte 0 = 4) (g : Globals) :
    (dispatch (some .login) iMsg iCmd g).fsm.btState = .login ∧
      (dispatch (some .login) iMsg iCmd g).env.io =
        g.env.io ++ [.tx ((loginMsg g).frame g.env.wild)] := by
  unfold dispatch executeLogin
  rw [ht]
  exact ⟨rfl, rfl⟩

theorem lastLoginPart_sends {value : List Byte} (h : isLoginPart 4 value = true) (frame : Nat)
    (g : Globals) : (gattsWriteEvt false frame value g).fsm.btState = .login ∧
      (gattsWriteEvt false frame value g).env.io =
        g.env.io ++ [.tx ((loginMsg g).frame g.env.wild)] := by
  simp only [isLoginPart, Bool.and_eq_true, decide_eq_true_eq] at h
  have hrec := received_spec frame value g
  have hpart : (bleCommandView value g.env.wild).byte 0 = 4 :=
    (bleCommandView_byte value g.env.wild (by omega)).trans h.2
  have hsame : loginMsg (received frame value g) = loginMsg g := by
    unfold loginMsg
    rw [hrec.ble, hrec.wild]
  obtain ⟨hstate, hio⟩ := lastPart_io (messageOf value g.env.wild) hpart (received frame value g)
  rw [gattsWriteEvt_eq, h.1]
  refine ⟨hstate, hio.trans ?_⟩
  rw [hrec.io, hsame, hrec.wild]

def Remembers (ws : List (Nat × List Byte)) (g : Globals) : Prop :=
  EndsInside (newestPassword ws) →
    ∀ (w : Wild Obj) o, (g.ble.login.iPwd.view w o).Holds (deliveredPassword (newestPassword ws))

theorem run_remembers {es : List Event} {b : Bridge} (hr : Machine.run step .boot es = some b) :
    Remembers (writes es) b.glob := by
  intro hends w o
  obtain ⟨w', hkeeps⟩ := run_keepsPart iPwd_keptBy rfl hr
  rw [hkeeps]
  exact loginPart_holds hends w' w o

theorem loginFrame_sent {b b' : Bridge} {e : Event} {sent : List Byte}
    (hs : step b e = some b') (hio : b'.glob.env.io = b.glob.env.io ++ [.tx sent])
    (hhead : sent.head? = some btCpOpcodeCidLogin) :
    ∃ frame value, e.action = .gattWrite false frame value ∧ isLoginPart 4 value = true := by
  obtain ⟨more, hmore, htraffic⟩ := step_traffic hs
  obtain rfl := List.append_cancel_left (hio.symm.trans hmore)
  cases htraffic with
  | @notice opcode _ hopcode head =>
    obtain rfl := Option.some.inj (hhead.symm.trans head)
    exact absurd hopcode (by decide)
  | @request addr value _ cmd write hcmd sends head =>
    refine ⟨addr, value, write, ?_⟩
    have hopcode : btCpOpcodeCidLogin = cmd.requestOpcode :=
      Option.some.inj (hhead.symm.trans head)
    cases cmd with
    | login =>
      unfold isLoginPart
      rw [hcmd, decide_eq_true rfl, Bool.true_and]
      exact sends
    | _ => cases hopcode

structure LoginSent (es : List Event) (e : Event) (frame : List Byte) : Prop where
  run : ∃ b b', Machine.run step .boot es = some b ∧ step b e = some b' ∧
    b'.glob.env.io = b.glob.env.io ++ [.tx frame]
  login : frame.head? = some btCpOpcodeCidLogin

/-- A LOGIN frame carries the password of the newest part 1 of the whole run: neither a frame
that has used it nor a disconnect takes it away. -/
theorem login_carries_newest {es : List Event} {e : Event} {frame : List Byte}
    (h : LoginSent es e frame) (hends : EndsInside (newestPassword (writes es))) :
    CarriesPassword (deliveredPassword (newestPassword (writes es))) frame := by
  obtain ⟨b, b', hrun, hs, hio⟩ := h.run
  obtain ⟨addr, value, hact, hpart⟩ := loginFrame_sent hs hio h.login
  have hholds := run_remembers hrun hends e.wild .iPwd
  obtain ⟨_, rfl⟩ := step_eq_some hs
  rw [hact] at hio
  have hsent := (lastLoginPart_sends hpart addr (b.at e).glob).2
  have hframe := Io.tx.inj (List.singleton_inj.mp (List.append_cancel_left (hio.symm.trans hsent)))
  have hlen := length_deliveredPassword (newestPassword (writes es))
  have hlogin : ∃ stamp : List Byte, stamp.length = timestampSize ∧
      (loginMsg (b.at e).glob).frame e.wild = _ := login_frame e.wild hholds hlen
  obtain ⟨stamp, hstamp, hlogin⟩ := hlogin
  refine ⟨stamp, ?_⟩
  rw [hframe]
  refine (congrArg (fun sent => Tlv.decode (List.drop 3 sent)) hlogin).trans ?_
  apply Tlv.decode_encode
  simp only [Tlv.Fits, List.forall_mem_cons, List.not_mem_nil, false_imp_iff, implies_true,
    and_true, hstamp]
  exact ⟨by omega, by decide⟩

def noteUnused (messages : List (List Byte)) (e : Event) : List (List Byte) :=
  match e.action with
  | .gattDisconnect => []
  | .gattWrite false _ value => if isLoginPart 4 value then [] else value :: messages
  | _ => messages

def unused (es : List Event) : List (List Byte) := es.foldl noteUnused []

/-- The frame carries a password the phone has given for it, on the same connection. -/
def FreshPassword (es : List Event) (frame : List Byte) : Prop :=
  ∃ message ∈ unused es, isLoginPart 1 message = true ∧
    CarriesPassword (deliveredPassword message) frame

def loginMessage (k d : Byte) : List Byte := [0x4D, 1, Cid.login.code, k, 1, d]

def loggedIn : List Event :=
  written [loginMessage 1 0x41, loginMessage 4 0x30] ++ [.calm .gattDisconnect]

def bareLogin : Event := .calm (.gattWrite false 0 (loginMessage 4 0x31))

theorem bareLogin_sent : ∃ frame, LoginSent loggedIn bareLogin frame := by
  have hrun : (Machine.run step .boot loggedIn).map (·.glob.main.serviceCreated) = some true := by
    decide +kernel
  obtain ⟨b, hb, hservice⟩ := Option.map_eq_some_iff.mp hrun
  have hpart : isLoginPart 4 (loginMessage 4 0x31) = true := rfl
  have hsent := (lastLoginPart_sends hpart 0 (b.at bareLogin).glob).2
  exact ⟨_, ⟨b, _, hb, if_pos hservice, hsent⟩, (opens_login _ _ _).head _⟩

theorem writes_loggedIn :
    writes loggedIn = [(0, loginMessage 4 0x30), (0, loginMessage 1 0x41)] := by
  have h := writes_written [loginMessage 1 0x41, loginMessage 4 0x30]
  unfold writes at h ⊢
  rw [loggedIn, List.foldl_append, h]
  rfl

/-- The second phone is logged in with the password of the first. -/
theorem bareLogin_carries : ∃ frame, LoginSent loggedIn bareLogin frame ∧
    CarriesPassword [0x41] frame := by
  obtain ⟨frame, h⟩ := bareLogin_sent
  have hends : EndsInside (newestPassword (writes loggedIn)) := by
    rw [writes_loggedIn]
    exact .inl (by decide)
  have hcarries := login_carries_newest h hends
  rw [writes_loggedIn] at hcarries
  exact ⟨frame, h, hcarries⟩

/-- The second connection has brought no password of its own. -/
theorem bareLogin_replays : ¬ ∀ es e frame, LoginSent es e frame → FreshPassword es frame := by
  intro hevery
  obtain ⟨frame, h⟩ := bareLogin_sent
  obtain ⟨message, hmem, _⟩ := hevery _ _ _ h
  have hnone : unused loggedIn = [] := by
    rw [unused, loggedIn, List.foldl_append]
    rfl
  rw [hnone] at hmem
  cases hmem

end EspBridges.Ccu
