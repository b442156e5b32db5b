import EspBridges.Ccu.BridgeLaws

namespace EspBridges.Ccu

open Bytes

inductive Multipart where
  | changePassword | selectAWifi | ccuActivate

namespace Multipart

def cid : Multipart → Cid
  | changePassword => .changePassword
  | selectAWifi => .selectAWifi
  | ccuActivate => .ccuActivate

def lastPart : Multipart → Byte
  | ccuActivate => 3
  | _ => 2

def earlierParts : Multipart → List Byte
  | ccuActivate => [1, 2]
  | _ => [1]

def isPart (k : Byte) (message : List Byte) (c : Multipart) : Bool :=
  Cid.ofByte? (message.getD 2 0) = some c.cid && message.getD 3 0 = k

end Multipart

def anyPart (k : Byte) (message : List Byte) : Bool :=
  Multipart.changePassword.isPart k message || Multipart.selectAWifi.isPart k message ||
    Multipart.ccuActivate.isPart k message

def dataLen (message : List Byte) : Nat := (message.getD 4 0).toNat

structure WellFormed (message : List Byte) : Prop where
  length : message.length = 20
  dataLen : dataLen message ≤ 15

def noteWrite (ws : List (Nat × List Byte)) (e : Event) : List (Nat × List Byte) :=
  match e.action with
  | .gattWrite false frame value => (frame, value) :: ws
  | _ => ws

def writes (es : List Event) : List (Nat × List Byte) := es.foldl noteWrite []

/-- Every call passes its message in the buffer at `frame`. -/
def SameBuffer (frame : Nat) (ws : List (Nat × List Byte)) : Prop := ∀ w ∈ ws, w.1 = frame

def latest (p : List Byte → Bool) (ws : List (Nat × List Byte)) : Option (List Byte) :=
  (ws.map Prod.snd).find? p

def textOf (message : List Byte) (len : Nat) : Buf 20 :=
  Buf.zero.memcpy 0 (fun i => message.getD (5 + i) 0) len

def Multipart.request (part : Byte → List Byte) (last : List Byte) (w : Wild Obj) : Multipart → Tx
  | changePassword =>
    ccuSentUserChangePasswdMsg ((textOf (part 1) (dataLen (part 1))).view w .pPasswordCurrent)
      ((textOf last (dataLen last)).view w .pPasswordNew) w
  | selectAWifi =>
    ccuSentConfigureWifiCredentials ((part 1).getD 5 0 + 1)
      ((textOf last (dataLen last)).view w .pPassword) w
  | ccuActivate =>
    let timeStamp : Buf 15 := (uninitialised w .timeStamp).memcpy 0
      (fun i => last.getD (5 + i) 0) timestampSize
    ccuSentActivateSystemMsg ((textOf (part 1) (dataLen (part 2))).view w .actLatitude)
      ((textOf (part 2) (dataLen (part 2))).view w .actLongitude) (timeStamp.view w .timeStamp) w

def RowHolds (saved : Buf 84) (k : Byte) (message : List Byte) : Prop :=
  ∀ beyond i, i < 20 → saved.rd beyond (21 * (k.toNat - 1) + i) = message.getD i 0

theorem savesRow_eq (value : List Byte) :
    savesRow (value.getD 3 0) (Cid.ofByte? (value.getD 2 0)) =
      if anyPart 1 value then some 1 else if anyPart 2 value then some 2 else none := by
  unfold savesRow anyPart Multipart.isPart
  generalize Cid.ofByte? (value.getD 2 0) = cmd
  cases cmd with
  | none => rfl
  | some cmd => cases cmd <;> simp [Multipart.cid]

theorem anyPart_of_isPart {c : Multipart} (h : c.isPart k message = true) :
    anyPart k message = true := by
  unfold anyPart
  cases c <;> simp [h]

theorem part_of_anyPart (h : anyPart k message = true) : message.getD 3 0 = k := by
  simp only [anyPart, Multipart.isPart, Bool.or_eq_true, Bool.and_eq_true, decide_eq_true_eq] at h
  rcases h with (h | h) | h <;> exact h.2

theorem anyPart_other (h : anyPart k message = true) (hne : k' ≠ k) :
    anyPart k' message = false := by
  rw [← Bool.not_eq_true]
  exact fun h' => hne ((part_of_anyPart h').symm.trans (part_of_anyPart h))

theorem latest_cons_of_pos {p : List Byte → Bool} {frame : Nat} {value : List Byte}
    {ws : List (Nat × List Byte)} (h : p value = true) :
    latest p ((frame, value) :: ws) = some value := by
  unfold latest
  rw [List.map_cons, List.find?_cons, h]

theorem latest_cons_of_neg {p : List Byte → Bool} {frame : Nat} {value : List Byte}
    {ws : List (Nat × List Byte)} (h : p value = false) :
    latest p ((frame, value) :: ws) = latest p ws := by
  unfold latest
  rw [List.map_cons, List.find?_cons, h]

theorem recvdMsgFull_received {frame : Nat} {g : Globals} (value : List Byte)
    (hptr : g.ble.flagSetRecvdMsgPtr = true → g.ble.pRecvdMsgFull = frame) :
    recvdMsgFull (received frame value g) = messageOf value g.env.wild := by
  have hrec := received_spec frame value g
  have hat : (received frame value g).ble.pRecvdMsgFull = frame := by
    rw [hrec.ble]
    by_cases hflag : g.ble.flagSetRecvdMsgPtr = true
    · exact (if_pos hflag).trans (hptr hflag)
    · exact if_neg hflag
  unfold recvdMsgFull
  rw [hat, hrec.mem, hrec.wild]
  show (if frame = frame then rxPktBuffer value else g.env.mem frame).view _ _ = _
  rw [if_pos rfl]
  rfl

theorem rowHolds_saved {saved : Buf 84} {w : Wild Obj} (value : List Byte) {k : Byte}
    (hk : k = 1 ∨ k = 2) :
    RowHolds (saved.memcpy (21 * (k.toNat - 1)) (messageOf value w).byte bleMessageSize) k
      value := by
  intro beyond i hi
  have hrow : k.toNat - 1 ≤ 1 := by rcases hk with rfl | rfl <;> decide
  rw [Buf.rd_memcpy, if_pos ⟨by omega, by simpa using hi, by omega⟩, Nat.add_sub_cancel_left]
  exact messageOf_byte value w (by omega)

theorem rowHolds_other {saved : Buf 84} {message : List Byte} {k : Byte} (k' : Byte)
    (h : RowHolds saved k message) (src : Nat → Byte) (hk : k = 1 ∧ k' = 2 ∨ k = 2 ∧ k' = 1) :
    RowHolds (saved.memcpy (21 * (k'.toNat - 1)) src bleMessageSize) k message := by
  intro beyond i hi
  rw [Buf.rd_memcpy, if_neg]
  · exact h beyond i hi
  · rcases hk with ⟨rfl, rfl⟩ | ⟨rfl, rfl⟩ <;> simp <;> omega

/-- What a run has left behind: the address of the one message buffer, and in each row the
most recent message with that part number, of whichever command. -/
structure Slots (frame : Nat) (ws : List (Nat × List Byte)) (g : Globals) : Prop where
  pointer : g.ble.flagSetRecvdMsgPtr = true → g.ble.pRecvdMsgFull = frame
  row : ∀ k message, k = 1 ∨ k = 2 → latest (anyPart k) ws = some message →
    RowHolds g.ble.savedMessages k message

theorem Slots.start {frame : Nat} {g : Globals}
    (hpointer : g.ble.flagSetRecvdMsgPtr = true → g.ble.pRecvdMsgFull = frame) :
    Slots frame [] g := ⟨hpointer, fun _ _ _ h => nomatch h⟩

theorem rowHolds_part {saved : Buf 84} {w : Wild Obj} {frame : Nat} {ws : List (Nat × List Byte)}
    {value : List Byte} {k' : Byte} (hk' : k' = 1 ∨ k' = 2) (hpart : anyPart k' value = true)
    (hrow : ∀ k message, k = 1 ∨ k = 2 → latest (anyPart k) ws = some message →
      RowHolds saved k message) (k : Byte) (message : List Byte) (hk : k = 1 ∨ k = 2)
    (hlatest : latest (anyPart k) ((frame, value) :: ws) = some message) :
    RowHolds (saved.memcpy (21 * (k'.toNat - 1)) (messageOf value w).byte bleMessageSize) k
      message := by
  by_cases hsame : k = k'
  · subst hsame
    rw [latest_cons_of_pos hpart] at hlatest
    cases hlatest
    exact rowHolds_saved value hk
  · rw [latest_cons_of_neg (anyPart_other hpart hsame)] at hlatest
    have hother : k = 1 ∧ k' = 2 ∨ k = 2 ∧ k' = 1 := by
      rcases hk with rfl | rfl <;> rcases hk' with rfl | rfl
      · exact absurd rfl hsame
      · exact .inl ⟨rfl, rfl⟩
      · exact .inr ⟨rfl, rfl⟩
      · exact absurd rfl hsame
    exact rowHolds_other k' (hrow k message hk hlatest) _ hother

theorem Slots.write {frame : Nat} {ws : List (Nat × List Byte)} {g : Globals}
    (h : Slots frame ws g) (value : List Byte) :
    Slots frame ((frame, value) :: ws) (gattsWriteEvt false frame value g) := by
  have heff := gattsWriteEvt_effect frame value g
  have hrec := received_spec frame value g
  have hsaved := heff.saved
  have hbefore : (received frame value g).ble.savedMessages = g.ble.savedMessages := by
    rw [hrec.ble]
  rw [savesRow_eq] at hsaved
  constructor
  · intro _
    rw [heff.pointer.1, hrec.ble]
    by_cases hflag : g.ble.flagSetRecvdMsgPtr = true
    · exact (if_pos hflag).trans (h.pointer hflag)
    · exact if_neg hflag
  · intro k message hk hlatest
    by_cases h1 : anyPart 1 value = true
    · rw [if_pos h1, Option.map_some, Option.getD_some, saveGroupMessages, hbefore,
        recvdMsgFull_received value h.pointer] at hsaved
      rw [hsaved]
      exact rowHolds_part (.inl rfl) h1 h.row k message hk hlatest
    rw [if_neg h1] at hsaved
    by_cases h2 : anyPart 2 value = true
    · rw [if_pos h2, Option.map_some, Option.getD_some, saveGroupMessages, hbefore,
        recvdMsgFull_received value h.pointer] at hsaved
      rw [hsaved]
      exact rowHolds_part (.inr rfl) h2 h.row k message hk hlatest
    · rw [if_neg h2, Option.map_none, Option.getD_none, hbefore] at hsaved
      rw [hsaved]
      have hnot : anyPart k value = false := by
        rcases hk with rfl | rfl
        · exact Bool.eq_false_iff.mpr h1
        · exact Bool.eq_false_iff.mpr h2
      rw [latest_cons_of_neg hnot] at hlatest
      exact h.row k message hk hlatest

theorem Slots.polled {frame : Nat} {ws : List (Nat × List Byte)} {g g' : Globals}
    (h : Slots frame ws g) (hpoll : Polled g g') : Slots frame ws g' := by
  have hble := hpoll.ble
  constructor
  · rw [hble]
    split <;> exact h.pointer
  · rw [hble]
    split <;> exact h.row

theorem Slots.of_ble {frame : Nat} {ws : List (Nat × List Byte)} {g g' : Globals}
    (h : Slots frame ws g) (hble : g'.ble = g.ble) : Slots frame ws g' := by
  constructor
  · rw [hble]
    exact h.pointer
  · rw [hble]
    exact h.row

theorem Slots.at {frame : Nat} {ws : List (Nat × List Byte)} {b : Bridge}
    (h : Slots frame ws b.glob) (e : Event) : Slots frame ws (b.at e).glob := h.of_ble rfl

theorem step_slots {frame : Nat} (ws : List (Nat × List Byte)) (b : Bridge) (e : Event)
    (b' : Bridge) (h : Slots frame ws b.glob) (hs : step b e = some b')
    (hframe : SameBuffer frame (noteWrite ws e)) : Slots frame (noteWrite ws e) b'.glob := by
  obtain ⟨_, rfl⟩ := step_eq_some hs
  have hat := h.at e
  unfold noteWrite at *
  generalize e.action = a at hframe ⊢
  cases a with
  | regEvt =>
    rcases gattsRegEvt_eq (b.at e).glob with ⟨_, hpoll⟩ | ⟨_, _, hble, _⟩
    · exact hat.polled hpoll
    · exact hat.of_ble hble
  | gattRead => exact hat.polled (gattsReadEvt_polled (b.at e).glob)
  | gattWrite isPrep frame' value =>
    cases isPrep with
    | true => exact hat
    | false =>
      obtain rfl : frame' = frame := hframe (frame', value) List.mem_cons_self
      exact hat.write value
  | timerExpiry => exact hat.of_ble (timerExpiry_glob b e).2.1
  | byteReceived dataByte => exact hat
  | advDataSet | updateConnParams | gattDisconnect => exact hat.of_ble rfl

theorem sameBuffer_of_event (ws : List (Nat × List Byte)) (e : Event)
    (h : SameBuffer frame (noteWrite ws e)) : SameBuffer frame ws := by
  intro w hw
  refine h w ?_
  unfold noteWrite
  split
  · exact List.mem_cons_of_mem _ hw
  · exact hw

theorem run_slots {frame : Nat} {es : List Event} {b : Bridge}
    (hr : Machine.run step .boot es = some b) (hframe : SameBuffer frame (writes es)) :
    Slots frame (writes es) b.glob := by
  have hboot : Slots frame [] Bridge.boot.glob := .start nofun
  have hslots := Machine.run_tracks sameBuffer_of_event step_slots hboot hr hframe
  exact hslots

theorem savedLen_eq {g : Globals} {k : Byte} (row : Nat) {message : List Byte}
    (h : RowHolds g.ble.savedMessages k message) (hrow : k.toNat - 1 = row) :
    savedLen g row = dataLen message := by
  unfold savedLen dataLen
  rw [← hrow, h _ 4 (by omega)]

theorem savedString_eq {g : Globals} {k : Byte} (row : Nat) {len : Nat} {message : List Byte}
    (h : RowHolds g.ble.savedMessages k message) (hrow : k.toNat - 1 = row) (hlen : len ≤ 15) :
    savedString g 20 row len = textOf message len := by
  unfold savedString textOf
  apply Buf.memcpy_congr _ _ rfl
  intro i _ hi
  show g.ble.savedMessages.rd _ (21 * row + 5 + i) = _
  rw [← hrow, Nat.add_assoc, h _ (5 + i) (by omega)]

section Request

variable (iMsg iCmd : View) (g : Globals)

theorem changePassword_io (ht : iCmd.byte 0 = 2) :
    (dispatch (some .changePassword) iMsg iCmd g).env.io =
      let g' := dispatch (some .changePassword) iMsg iCmd g
      g.env.io ++ [.tx ((ccuSentUserChangePasswdMsg
        ((savedString g' 20 0 (savedLen g' 0)).view g.env.wild .pPasswordCurrent)
        ((savedString g' 20 1 (savedLen g' 1)).view g.env.wild .pPasswordNew)
        g.env.wild).frame g.env.wild)] := by
  unfold dispatch executeChangePassword
  rw [ht]
  rfl

theorem selectAWifi_io (ht : iCmd.byte 0 = 2) :
    (dispatch (some .selectAWifi) iMsg iCmd g).env.io =
      let g' := dispatch (some .selectAWifi) iMsg iCmd g
      g.env.io ++ [.tx ((ccuSentConfigureWifiCredentials ((savedData g' 0).byte 0 + 1)
        ((savedString g' 20 1 (savedLen g' 1)).view g.env.wild .pPassword)
        g.env.wild).frame g.env.wild)] := by
  unfold dispatch executeSelectAWifi
  rw [ht]
  rfl

theorem ccuActivate_io (ht : iCmd.byte 0 = 3) :
    (dispatch (some .ccuActivate) iMsg iCmd g).env.io =
      let g' := dispatch (some .ccuActivate) iMsg iCmd g
      let timeStamp : Buf 15 := (uninitialised g.env.wild .timeStamp).memcpy 0
        ((recvdMsgFull g).shift 5).byte timestampSize
      g.env.io ++ [.tx ((ccuSentActivateSystemMsg
        ((savedString g' 20 0 (savedLen g' 1)).view g.env.wild .actLatitude)
        ((savedString g' 20 1 (savedLen g' 1)).view g.env.wild .actLongitude)
        (timeStamp.view g.env.wild .timeStamp) g.env.wild).frame g.env.wild)] := by
  unfold dispatch executeCcuActivate
  rw [ht]
  rfl

/-! The same frames, in terms of the messages that fill the rows. -/

theorem changePassword_request {part : Byte → List Byte} {last : List Byte}
    (ht : iCmd.byte 0 = 2)
    (h1 : RowHolds (dispatch (some .changePassword) iMsg iCmd g).ble.savedMessages 1 (part 1))
    (h2 : RowHolds (dispatch (some .changePassword) iMsg iCmd g).ble.savedMessages 2 last)
    (hpart : dataLen (part 1) ≤ 15) (hlast : dataLen last ≤ 15) :
    (dispatch (some .changePassword) iMsg iCmd g).env.io = g.env.io ++
      [.tx ((Multipart.changePassword.request part last g.env.wild).frame g.env.wild)] := by
  rw [changePassword_io _ _ _ ht]
  dsimp only
  generalize dispatch _ _ _ g = g' at h1 h2 ⊢
  rw [savedLen_eq 0 h1 rfl, savedLen_eq 1 h2 rfl, savedString_eq 0 h1 rfl hpart,
    savedString_eq 1 h2 rfl hlast]
  rfl

theorem selectAWifi_request {part : Byte → List Byte} {last : List Byte} (ht : iCmd.byte 0 = 2)
    (h1 : RowHolds (dispatch (some .selectAWifi) iMsg iCmd g).ble.savedMessages 1 (part 1))
    (h2 : RowHolds (dispatch (some .selectAWifi) iMsg iCmd g).ble.savedMessages 2 last)
    (hlast : dataLen last ≤ 15) :
    (dispatch (some .selectAWifi) iMsg iCmd g).env.io = g.env.io ++
      [.tx ((Multipart.selectAWifi.request part last g.env.wild).frame g.env.wild)] := by
  rw [selectAWifi_io _ _ _ ht]
  dsimp only
  generalize dispatch _ _ _ g = g' at h1 h2 ⊢
  have apId : (savedData g' 0).byte 0 = (part 1).getD 5 0 :=
    h1 (g'.env.wild.byte .savedMessages) 5 (by omega)
  rw [apId, savedLen_eq 1 h2 rfl, savedString_eq 1 h2 rfl hlast]
  rfl

theorem ccuActivate_request {part : Byte → List Byte} {last : List Byte} (ht : iCmd.byte 0 = 3)
    (h1 : RowHolds (dispatch (some .ccuActivate) iMsg iCmd g).ble.savedMessages 1 (part 1))
    (h2 : RowHolds (dispatch (some .ccuActivate) iMsg iCmd g).ble.savedMessages 2 (part 2))
    (hpart : dataLen (part 2) ≤ 15) (hfull : recvdMsgFull g = messageOf last g.env.wild) :
    (dispatch (some .ccuActivate) iMsg iCmd g).env.io = g.env.io ++
      [.tx ((Multipart.ccuActivate.request part last g.env.wild).frame g.env.wild)] := by
  rw [ccuActivate_io _ _ _ ht, hfull]
  dsimp only
  generalize dispatch _ _ _ g = g' at h1 h2 ⊢
  have stamp : (uninitialised g.env.wild .timeStamp : Buf 15).memcpy 0
      ((messageOf last g.env.wild).shift 5).byte timestampSize =
      (uninitialised g.env.wild .timeStamp).memcpy 0 (fun i => last.getD (5 + i) 0)
        timestampSize := by
    apply Buf.memcpy_congr _ _ rfl
    intro i hi _
    exact messageOf_byte last g.env.wild (by omega)
  rw [savedLen_eq 1 h2 rfl, savedString_eq 0 h1 rfl hpart, savedString_eq 1 h2 rfl hpart, stamp]
  rfl

end Request

theorem isPart_iff {c : Multipart} {k : Byte} {message : List Byte} :
    c.isPart k message = true ↔
      Cid.ofByte? (message.getD 2 0) = some c.cid ∧ message.getD 3 0 = k := by
  simp [Multipart.isPart]

theorem latest_earlier {c : Multipart} {k : Byte} {frame : Nat} {value : List Byte}
    {ws : List (Nat × List Byte)} (hlast : c.isPart c.lastPart value = true)
    (hk : k ∈ c.earlierParts) :
    latest (anyPart k) ((frame, value) :: ws) = latest (anyPart k) ws := by
  have hne : k ≠ c.lastPart := by
    rintro rfl
    cases c <;> revert hk <;> decide
  exact latest_cons_of_neg (anyPart_other (anyPart_of_isPart hlast) hne)

theorem earlierParts_cases {c : Multipart} {k : Byte} (hk : k ∈ c.earlierParts) :
    k = 1 ∨ k = 2 := by
  cases c <;> simp [Multipart.earlierParts] at hk <;> simp [hk]

/-- The request of a last part: the newest messages of the earlier part numbers, whichever
command they belong to. -/
theorem Slots.request {frame : Nat} {ws : List (Nat × List Byte)} {g : Globals}
    (h : Slots frame ws g) {c : Multipart} {value : List Byte}
    (hlast : c.isPart c.lastPart value = true) (hvalue : dataLen value ≤ 15)
    (part : Byte → List Byte)
    (hparts : ∀ k ∈ c.earlierParts, latest (anyPart k) ws = some (part k) ∧
      dataLen (part k) ≤ 15) :
    (gattsWriteEvt false frame value g).env.io =
      g.env.io ++ [.tx ((c.request part value g.env.wild).frame g.env.wild)] := by
  obtain ⟨hcmd, ht⟩ := isPart_iff.mp hlast
  have hrec := received_spec frame value g
  have hafter := h.write value
  have hrow : ∀ k ∈ c.earlierParts,
      RowHolds (gattsWriteEvt false frame value g).ble.savedMessages k (part k) := by
    intro k hk
    refine hafter.row k (part k) (earlierParts_cases hk) ?_
    rw [latest_earlier hlast hk]
    exact (hparts k hk).1
  have hown : c.lastPart = 2 →
      RowHolds (gattsWriteEvt false frame value g).ble.savedMessages 2 value := by
    intro h2
    exact hafter.row 2 value (.inr rfl) (latest_cons_of_pos (anyPart_of_isPart (h2 ▸ hlast)))
  have htype := bleCommandView_byte value g.env.wild (i := 0) (by omega)
  rw [gattsWriteEvt_eq, hcmd] at hrow hown ⊢
  have hio := hrec.io
  have hwild := hrec.wild
  have hfull := recvdMsgFull_received value h.pointer
  generalize received frame value g = g₁ at *
  rw [← hwild] at hrow hown htype hfull ⊢
  rw [← hio]
  cases c with
  | changePassword =>
    exact changePassword_request _ _ _ (htype.trans ht) (hrow 1 (by decide)) (hown rfl)
      (hparts 1 (by decide)).2 hvalue
  | selectAWifi =>
    exact selectAWifi_request _ _ _ (htype.trans ht) (hrow 1 (by decide)) (hown rfl) hvalue
  | ccuActivate =>
    exact ccuActivate_request _ _ _ (htype.trans ht) (hrow 1 (by decide)) (hrow 2 (by decide))
      (hparts 2 (by decide)).2 hfull

theorem requests_earlierPart (g : Globals) {c : Multipart} {k : Byte} (hk : k ∈ c.earlierParts) :
    requests g k (some c.cid) = false := by
  cases c <;> simp [Multipart.earlierParts] at hk
  case ccuActivate => obtain rfl | rfl := hk <;> rfl
  all_goals
    subst hk
    rfl

section Parts

variable {c : Multipart} {frame : Nat} {ws : List (Nat × List Byte)} {b b' : Bridge} {e : Event}
  {value : List Byte}

theorem step_earlierPart (h : Slots frame ws b.glob) (he : e.action = .gattWrite false frame value)
    (hs : step b e = some b') (hpart : c.isPart k value = true) (hk : k ∈ c.earlierParts) :
    Slots frame ((frame, value) :: ws) b'.glob ∧ b'.glob.env.io = b.glob.env.io := by
  obtain ⟨_, rfl⟩ := step_eq_some hs
  obtain ⟨hcmd, ht⟩ := isPart_iff.mp hpart
  have hat := h.at e
  obtain ⟨_, _, hio⟩ := (gattsWriteEvt_effect frame value (b.at e).glob).sent
  rw [hcmd, ht, requests_earlierPart _ hk, (received_spec frame value (b.at e).glob).io] at hio
  rw [he]
  exact ⟨hat.write value, hio.trans (List.append_nil _)⟩

theorem step_lastPart (h : Slots frame ws b.glob) (he : e.action = .gattWrite false frame value)
    (hs : step b e = some b') (hlast : c.isPart c.lastPart value = true)
    (hvalue : dataLen value ≤ 15) (part : Byte → List Byte)
    (hparts : ∀ k ∈ c.earlierParts, latest (anyPart k) ws = some (part k) ∧
      dataLen (part k) ≤ 15) :
    b'.glob.env.io = b.glob.env.io ++ [.tx ((c.request part value e.wild).frame e.wild)] := by
  obtain ⟨_, rfl⟩ := step_eq_some hs
  rw [he]
  exact (h.at e).request hlast hvalue part hparts

end Parts

/-- In each row that the request takes something from, the newest message is the command's own. -/
def Unmixed (c : Multipart) (ws : List (Nat × List Byte)) : Prop :=
  ∀ k ∈ c.earlierParts, ∃ message, latest (anyPart k) ws = some message ∧ c.isPart k message = true

/-- The request is made of the command's own most recent parts. -/
def OwnRequest (c : Multipart) (ws : List (Nat × List Byte)) (last : List Byte) (w : Wild Obj)
    (g g' : Globals) : Prop :=
  ∃ part : Byte → List Byte, (∀ k ∈ c.earlierParts, latest (c.isPart k) ws = some (part k)) ∧
    g'.env.io = g.env.io ++ [.tx ((c.request part last w).frame w)]

/-- A bridge that has been written to in the buffer at `frame` only, by messages whose parts
are well formed, and gets the last part of a command. -/
structure LastPart (c : Multipart) (es : List Event) (e : Event) (frame : Nat) (value : List Byte)
    (b b' : Bridge) : Prop where
  run : Machine.run step .boot es = some b
  step : step b e = some b'
  action : e.action = .gattWrite false frame value
  isLast : c.isPart c.lastPart value = true
  buffer : SameBuffer frame (writes es)
  parts : ∀ w ∈ writes es, ∀ k, anyPart k w.2 = true → WellFormed w.2
  last : WellFormed value

theorem latest_own {c : Multipart} {k : Byte} {message : List Byte} {ws : List (Nat × List Byte)}
    (h : latest (anyPart k) ws = some message) (hown : c.isPart k message = true) :
    latest (c.isPart k) ws = some message := by
  induction ws with
  | nil => cases h
  | cons w ws ih =>
    by_cases hany : anyPart k w.2 = true
    · rw [latest_cons_of_pos hany, Option.some.injEq] at h
      subst h
      exact latest_cons_of_pos hown
    · have hnot : c.isPart k w.2 = false := by
        rw [← Bool.not_eq_true]
        exact fun hpart => hany (anyPart_of_isPart hpart)
      rw [latest_cons_of_neg (Bool.eq_false_iff.mpr hany)] at h
      rw [latest_cons_of_neg hnot]
      exact ih h

theorem LastPart.io {c : Multipart} {es : List Event} {e : Event} {frame : Nat}
    {value : List Byte} {b b' : Bridge} (h : LastPart c es e frame value b b')
    (part : Byte → List Byte)
    (hparts : ∀ k ∈ c.earlierParts, latest (anyPart k) (writes es) = some (part k)) :
    b'.glob.env.io = b.glob.env.io ++ [.tx ((c.request part value e.wild).frame e.wild)] := by
  refine step_lastPart (run_slots h.run h.buffer) h.action h.step h.isLast h.last.dataLen part
    fun k hk => ⟨hparts k hk, ?_⟩
  obtain ⟨w, hw, hmessage⟩ := List.mem_map.mp (List.mem_of_find?_eq_some (hparts k hk))
  rw [← hmessage]
  refine (h.parts w hw k ?_).dataLen
  rw [hmessage]
  exact List.find?_some (hparts k hk)

/-- In every run, a last part whose command has the newest message in each of its rows sends a
request made of that command's own parts. -/
theorem lastPart_ownRequest {c : Multipart} {es : List Event} {e : Event} {frame : Nat}
    {value : List Byte} {b b' : Bridge} (h : LastPart c es e frame value b b')
    (hunmixed : Unmixed c (writes es)) :
    OwnRequest c (writes es) value e.wild b.glob b'.glob := by
  have hpart : ∀ k ∈ c.earlierParts,
      latest (anyPart k) (writes es) = some ((latest (anyPart k) (writes es)).getD []) ∧
        latest (c.isPart k) (writes es) = some ((latest (anyPart k) (writes es)).getD []) := by
    intro k hk
    obtain ⟨message, hmessage, hown⟩ := hunmixed k hk
    rw [hmessage]
    exact ⟨rfl, latest_own hmessage hown⟩
  exact ⟨_, fun k hk => (hpart k hk).2, h.io _ fun k hk => (hpart k hk).1⟩

def partMessage (c : Multipart) (k d : Byte) : List Byte :=
  [0x4D, 1, c.cid.code, k, 4, d, d, d, d, 0, 0, 0, 0, 0, 0, 0, 0, 0, 0, 0]

def written (messages : List (List Byte)) : List Event :=
  burst [0x13, 44, 0, 1, 0, 2, 0, 3, 0] ++ [.calm .regEvt, .calm .regEvt] ++
    messages.map fun value => .calm (.gattWrite false 0 value)

theorem wellFormed_partMessage (c : Multipart) (k d : Byte) : WellFormed (partMessage c k d) :=
  ⟨rfl, by simp [dataLen, partMessage]⟩

theorem writes_written (messages : List (List Byte)) :
    writes (written messages) = (messages.map (0, ·)).reverse := by
  have hfold : ∀ ws, (messages.map fun value => Event.calm (.gattWrite false 0 value)).foldl
      noteWrite ws = (messages.map (0, ·)).reverse ++ ws := by
    induction messages with
    | nil => exact fun _ => rfl
    | cons value messages ih =>
      intro ws
      rw [List.map_cons, List.foldl_cons, ih, List.map_cons, List.reverse_cons, List.append_assoc]
      rfl
  have h := hfold []
  rw [List.append_nil] at h
  rw [writes, written, List.foldl_append]
  exact h

theorem written_lastPart (messages : List (List Byte)) (c : Multipart) (d : Byte)
    (hserved : (Machine.run step .boot (written messages)).map (·.glob.main.serviceCreated) =
      some true)
    (hparts : ∀ value ∈ messages, ∃ c k d, value = partMessage c k d) :
    ∃ b b', LastPart c (written messages)
      (.calm (.gattWrite false 0 (partMessage c c.lastPart d))) 0 (partMessage c c.lastPart d) b
      b' := by
  obtain ⟨b, hb, hservice⟩ := Option.map_eq_some_iff.mp hserved
  refine ⟨b, _, hb, if_pos hservice, rfl, ?_, ?_, ?_, wellFormed_partMessage _ _ _⟩
  · cases c <;> rfl
  · intro w hw
    rw [writes_written] at hw
    obtain ⟨value, _, rfl⟩ := List.mem_map.mp (List.mem_reverse.mp hw)
    rfl
  · intro w hw k _
    rw [writes_written] at hw
    obtain ⟨value, hvalue, rfl⟩ := List.mem_map.mp (List.mem_reverse.mp hw)
    obtain ⟨c, k, d, rfl⟩ := hparts value hvalue
    exact wellFormed_partMessage c k d

def activated : List (List Byte) :=
  [partMessage .changePassword 1 0x61, partMessage .selectAWifi 2 0x63,
    partMessage .ccuActivate 1 0x31, partMessage .ccuActivate 2 0x32]

theorem activated_own : ∃ b b' : Bridge, Machine.run step .boot (written activated) = some b ∧
    OwnRequest .ccuActivate (writes (written activated))
      (partMessage .ccuActivate Multipart.ccuActivate.lastPart 0x33) Wild.zero b.glob b'.glob := by
  have hparts : ∀ value ∈ activated, ∃ c k d, value = partMessage c k d :=
    List.forall_mem_cons.mpr ⟨⟨_, _, _, rfl⟩, List.forall_mem_cons.mpr ⟨⟨_, _, _, rfl⟩,
      List.forall_mem_cons.mpr ⟨⟨_, _, _, rfl⟩, List.forall_mem_singleton.mpr ⟨_, _, _, rfl⟩⟩⟩⟩
  obtain ⟨b, b', h⟩ := written_lastPart activated .ccuActivate 0x33 (by decide +kernel) hparts
  have hunmixed : Unmixed .ccuActivate (writes (written activated)) := by
    intro k hk
    rw [writes_written]
    obtain rfl | rfl : k = 1 ∨ k = 2 := by simpa [Multipart.earlierParts] using hk
    · exact ⟨partMessage .ccuActivate 1 0x31, by decide +kernel, rfl⟩
    · exact ⟨partMessage .ccuActivate 2 0x32, by decide +kernel, rfl⟩
  have hown := lastPart_ownRequest h hunmixed
  exact ⟨b, b', h.run, hown⟩

/-- With the choice of an access point in between, the CCU is told the access point for the
current password. -/
theorem chosenAccessPoint_mixed : ¬ ∀ (c : Multipart) (es : List Event) (e : Event) (frame : Nat)
    (value : List Byte) (b b' : Bridge), LastPart c es e frame value b b' →
      OwnRequest c (writes es) value e.wild b.glob b'.glob := by
  intro hevery
  obtain ⟨b, b', h⟩ := written_lastPart
    [partMessage .changePassword 1 0x61, partMessage .selectAWifi 1 0x63]
    .changePassword 0x62 (by decide +kernel)
    (List.forall_mem_cons.mpr ⟨⟨_, _, _, rfl⟩, List.forall_mem_singleton.mpr ⟨_, _, _, rfl⟩⟩)
  obtain ⟨part, hpart, hio⟩ := hevery _ _ _ _ _ b b' h
  have hown : partMessage .changePassword 1 0x61 = part 1 := by
    have h1 := hpart 1 (by decide)
    rw [writes_written] at h1
    exact Option.some.inj h1
  have hsent := h.io (fun _ => partMessage .selectAWifi 1 0x63) fun k hk => by
    obtain rfl : k = 1 := by simpa [Multipart.earlierParts] using hk
    rw [writes_written]
    rfl
  rw [hsent] at hio
  have hframe := Io.tx.inj (List.singleton_inj.mp (List.append_cancel_left hio))
  simp only [Multipart.request, ← hown] at hframe
  revert hframe
  decide +kernel

end EspBridges.Ccu
