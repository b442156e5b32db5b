import EspBridges.Ccu.RelayLaws
import EspBridges.Ccu.RequestLaws
import EspBridges.Ccu.SourceLaws

namespace EspBridges.Ccu

open Bytes

inductive NumberField where
  | paired | mob1 | second | third
  | fourth (location : Fin 10)
  | fifth (location : Fin 10)
  deriving DecidableEq

def ThisCcu.number (c : ThisCcu) : NumberField → Buf 20
  | .paired => c.pairedMob1.mobileNumber
  | .mob1 => c.confPersonalNos.mob1MobileNumber
  | .second => c.confPersonalNos.secondNumber
  | .third => c.confPersonalNos.thirdNumber
  | .fourth location => (c.visitedLocations location).fourthPhoneNumber
  | .fifth location => (c.visitedLocations location).fifthPhoneNumber

inductive NumberCmd where
  | personal | localHelp
  deriving DecidableEq

namespace NumberCmd

def cid : NumberCmd → Cid
  | personal => .storePersonalNumbers
  | localHelp => .enterLocalHelpNumbers

def opcode : NumberCmd → Byte
  | personal => 0x07
  | localHelp => 0x0B

def tlvType (t : Byte) : NumberCmd → Byte
  | personal => t + 1
  | localHelp => t

def field (c : ThisCcu) (t : Byte) : NumberCmd → NumberField → Prop
  | personal, f => t = 1 ∧ f = .second ∨ t = 2 ∧ f = .third
  | localHelp, f => ∃ location : Fin 10, location.val = c.visitedLocationsCount.toNat ∧
      (t = 1 ∧ f = .fourth location ∨ t = 2 ∧ f = .fifth location)

end NumberCmd

structure NumberMessage (cmd : NumberCmd) (message : List Byte) : Prop where
  cid : Cid.ofByte? (message.getD 2 0) = some cmd.cid
  type : message.getD 3 0 = 1 ∨ message.getD 3 0 = 2
  nonempty : 1 ≤ dataLen message
  fits : dataLen message ≤ 15

/-- What the message is to bring about: the number on the wire, in its own field with zeroes
behind it, and in no other; the personal numbers get that of the paired phone besides. -/
structure NumberKept (cmd : NumberCmd) (message : List Byte) (b b' : Bridge) : Prop where
  sent : b'.glob.env.io = b.glob.env.io ++ [.tx ([cmd.opcode, 0x2C, 0x00,
    cmd.tlvType (message.getD 3 0), message.getD 4 0] ++ slice message 5 (dataLen message))]
  kept : ∃ f, cmd.field b.glob.ble.thisCcu (message.getD 3 0) f ∧
    b'.glob.ble.thisCcu.number f = textOf message (dataLen message)
  others : ∀ f, ¬ cmd.field b.glob.ble.thisCcu (message.getD 3 0) f →
    b'.glob.ble.thisCcu.number f =
      b.glob.ble.thisCcu.number (if cmd = .personal ∧ f = .mob1 then .paired else f)

/-! `visited_locations_count` is set nowhere. -/

theorem dispatch_visitedLocationsCount (cmd : Option Cid) (iMsg iCmd : View) (g : Globals) :
    (dispatch cmd iMsg iCmd g).ble.thisCcu.visitedLocationsCount =
      g.ble.thisCcu.visitedLocationsCount := by
  by_cases hpersonal : cmd = some .storePersonalNumbers
  · subst hpersonal
    unfold dispatch executeStorePersonalNumber
    dsimp only
    split <;> rfl
  by_cases hlocal : cmd = some .enterLocalHelpNumbers
  · subst hlocal
    unfold dispatch executeEnterLocalHelpNumber
    dsimp only
    split <;> rfl
  by_cases hselect : cmd = some .selectAWifi
  · subst hselect
    unfold dispatch executeSelectAWifi
    dsimp only
    split <;> rfl
  rw [(dispatch_untouched cmd iMsg iCmd g).thisCcu hpersonal hlocal hselect]

def AtFirstLocation (b : Bridge) : Prop := b.glob.ble.thisCcu.visitedLocationsCount = 0

theorem step_atFirstLocation (b : Bridge) (e : Event) (b' : Bridge) (h : AtFirstLocation b)
    (hs : step b e = some b') : AtFirstLocation b' := by
  obtain ⟨_, rfl⟩ := step_eq_some hs
  have polled : ∀ {g : Globals}, Polled (b.at e).glob g →
      g.ble.thisCcu.visitedLocationsCount = 0 := by
    intro g hpoll
    rw [hpoll.ble]
    split <;> exact h
  unfold AtFirstLocation
  cases e.action with
  | regEvt =>
    rcases gattsRegEvt_eq (b.at e).glob with ⟨_, hpoll⟩ | ⟨_, _, hble, _⟩
    · exact polled hpoll
    · show (gattsRegEvt (b.at e).glob).ble.thisCcu.visitedLocationsCount = 0
      rw [hble]
      exact h
  | gattRead => exact polled (gattsReadEvt_polled (b.at e).glob)
  | gattWrite isPrep frame value =>
    cases isPrep with
    | true => exact h
    | false =>
      show (gattsWriteEvt false frame value (b.at e).glob).ble.thisCcu.visitedLocationsCount = 0
      rw [gattsWriteEvt_eq, dispatch_visitedLocationsCount, (received_spec frame value _).ble]
      exact h
  | timerExpiry =>
    rw [(timerExpiry_glob b e).2.1]
    exact h
  | byteReceived dataByte => exact h
  | advDataSet | updateConnParams | gattDisconnect => exact h

theorem Reachable.atFirstLocation {b : Bridge} (h : Reachable b) : AtFirstLocation b :=
  h.invariant rfl step_atFirstLocation

section VisitedLocation

variable (i : Nat) (n : Buf 20) (g : Globals) (location : Fin 10)

theorem setFourth_fifth : (setVisitedLocation i ({ · with fourthPhoneNumber := n }) g).ble.thisCcu.number
    (.fifth location) = g.ble.thisCcu.number (.fifth location) := by
  show Site.fifthPhoneNumber (if location.val = i then _ else _) = _
  split <;> rfl

theorem setFifth_fourth : (setVisitedLocation i ({ · with fifthPhoneNumber := n }) g).ble.thisCcu.number
    (.fourth location) = g.ble.thisCcu.number (.fourth location) := by
  show Site.fourthPhoneNumber (if location.val = i then _ else _) = _
  split <;> rfl

end VisitedLocation

/-- The twenty bytes the handlers keep: they start with the length byte. -/
def copiedNumber (iCmd : View) : Buf 20 := Buf.zero.memcpy 0 (iCmd.shift 1).byte mobNoSize

section Handlers

variable {iMsg iCmd : View} {g : Globals} {t : Byte} (ht : iCmd.byte 0 = t) (hknown : t = 1 ∨ t = 2)

include ht hknown

theorem storePersonalNumber_number (f : NumberField) :
    (NumberCmd.personal.field g.ble.thisCcu t f →
      (dispatch (some .storePersonalNumbers) iMsg iCmd g).ble.thisCcu.number f =
        copiedNumber iCmd) ∧
    (¬ NumberCmd.personal.field g.ble.thisCcu t f →
      (dispatch (some .storePersonalNumbers) iMsg iCmd g).ble.thisCcu.number f =
        g.ble.thisCcu.number (if f = .mob1 then .paired else f)) := by
  unfold dispatch executeStorePersonalNumber
  rw [ht]
  rcases hknown with rfl | rfl
  · constructor
    · rintro (⟨_, rfl⟩ | ⟨h, _⟩)
      · rfl
      · cases h
    · intro hne
      cases f with
      | second => exact absurd (.inl ⟨rfl, rfl⟩) hne
      | _ => rfl
  · constructor
    · rintro (⟨h, _⟩ | ⟨_, rfl⟩)
      · cases h
      · rfl
    · intro hne
      cases f with
      | third => exact absurd (.inr ⟨rfl, rfl⟩) hne
      | _ => rfl

theorem enterLocalHelpNumber_number (f : NumberField) :
    (NumberCmd.localHelp.field g.ble.thisCcu t f →
      (dispatch (some .enterLocalHelpNumbers) iMsg iCmd g).ble.thisCcu.number f =
        copiedNumber iCmd) ∧
    (¬ NumberCmd.localHelp.field g.ble.thisCcu t f →
      (dispatch (some .enterLocalHelpNumbers) iMsg iCmd g).ble.thisCcu.number f =
        g.ble.thisCcu.number f) := by
  unfold dispatch executeEnterLocalHelpNumber
  rw [ht]
  rcases hknown with rfl | rfl
  · constructor
    · rintro ⟨location, hlocation, ⟨_, rfl⟩ | ⟨h, _⟩⟩
      · exact congrArg Site.fourthPhoneNumber (if_pos hlocation)
      · cases h
    · intro hne
      cases f with
      | fourth location =>
        have hother : location.val ≠ g.ble.thisCcu.visitedLocationsCount.toNat :=
          fun h => hne ⟨location, h, .inl ⟨rfl, rfl⟩⟩
        exact congrArg Site.fourthPhoneNumber (if_neg hother)
      | fifth location => exact setFourth_fifth _ _ g location
      | _ => rfl
  · constructor
    · rintro ⟨location, hlocation, ⟨h, _⟩ | ⟨_, rfl⟩⟩
      · cases h
      · exact congrArg Site.fifthPhoneNumber (if_pos hlocation)
    · intro hne
      cases f with
      | fourth location => exact setFifth_fourth _ _ g location
      | fifth location =>
        have hother : location.val ≠ g.ble.thisCcu.visitedLocationsCount.toNat :=
          fun h => hne ⟨location, h, .inr ⟨rfl, rfl⟩⟩
        exact congrArg Site.fifthPhoneNumber (if_neg hother)
      | _ => rfl

end Handlers

structure NumberRelayed (cmd : NumberCmd) (message : List Byte) (w : Wild Obj) (io : List Io)
    (c : ThisCcu) (g' : Globals) : Prop where
  sent : g'.env.io = io ++ [.tx ([cmd.opcode, 0x2C, 0x00, cmd.tlvType (message.getD 3 0),
    message.getD 4 0] ++ slice message 5 (dataLen message))]
  copied : ∀ f, cmd.field c (message.getD 3 0) f →
    g'.ble.thisCcu.number f = copiedNumber (bleCommandView message w)
  others : ∀ f, ¬ cmd.field c (message.getD 3 0) f →
    g'.ble.thisCcu.number f = c.number (if cmd = .personal ∧ f = .mob1 then .paired else f)

theorem Slots.numberRelayed {frame : Nat} {ws : List (Nat × List Byte)} {g : Globals}
    (h : Slots frame ws g) {cmd : NumberCmd} {message : List Byte}
    (hmessage : NumberMessage cmd message) :
    NumberRelayed cmd message g.env.wild g.env.io g.ble.thisCcu
      (gattsWriteEvt false frame message g) := by
  have hrec := received_spec frame message g
  have hfull := recvdMsgFull_received message h.pointer
  have htype := bleCommandView_byte message g.env.wild (i := 0) (by omega)
  have hlen := messageOf_byte message g.env.wild (i := 4) (by decide)
  have hthis : (received frame message g).ble.thisCcu = g.ble.thisCcu := by
    rw [hrec.ble, pairing_eq_self]
    intro hregister
    rw [messageOf_byte _ _ (by decide)] at hregister
    have hcid := hmessage.cid
    rw [hregister] at hcid
    cases cmd <;> cases hcid
  have hsent : ∀ type : Byte, (numberMsg cmd.opcode (some type) (messageOf message g.env.wild)
      g.env.wild).frame g.env.wild = [cmd.opcode, 0x2C, 0x00, type, message.getD 4 0] ++
        slice message 5 (dataLen message) := by
    intro type
    have hfit : (message.getD 4 0).toNat ≤ 15 := hmessage.fits
    rw [numberMsg_frame _ _ _ (by rw [hlen]; exact hfit), hlen,
      bytes_messageOf message _ (by omega)]
    rfl
  have hknown := hmessage.type
  rw [gattsWriteEvt_eq, hmessage.cid, ← hthis]
  have hio := hrec.io
  have hwild := hrec.wild
  generalize received frame message g = g₁ at *
  rw [← hwild] at htype hfull hsent hlen ⊢
  rw [← hio]
  cases cmd with
  | personal =>
    have hnumber := @storePersonalNumber_number (messageOf message g₁.env.wild) _ g₁ _ htype hknown
    refine ⟨?_, fun f hf => (hnumber f).1 hf, fun f hf => ?_⟩
    · have htlv : personalType ((messageOf message g₁.env.wild).byte 3) =
          some (NumberCmd.personal.tlvType (message.getD 3 0)) := by
        rw [messageOf_byte _ _ (by decide)]
        rcases hknown with ht | ht <;> rw [ht] <;> rfl
      rw [← hsent, ← htlv, ← hfull]
      exact storePersonalNumber_io g₁ (by rwa [htype])
    · exact ((hnumber f).2 hf).trans (by simp)
  | localHelp =>
    have hnumber := @enterLocalHelpNumber_number (messageOf message g₁.env.wild) _ g₁ _ htype hknown
    refine ⟨?_, fun f hf => (hnumber f).1 hf, fun f hf => (hnumber f).2 hf⟩
    have htlv : (messageOf message g₁.env.wild).byte 3 =
        NumberCmd.localHelp.tlvType (message.getD 3 0) := messageOf_byte _ _ (by decide)
    rw [← hsent, ← htlv, ← hfull]
    exact enterLocalHelpNumber_io g₁ (by rwa [htype])

theorem zero_of_shifted {f : Nat → Byte} {l : Nat}
    (h : ∀ i, i ≤ l → f i = if i < l then f (i + 1) else 0) : f 0 = 0 := by
  induction l generalizing f with
  | zero => exact h 0 (Nat.le_refl 0)
  | succ l ih =>
    have hrest : f 1 = 0 := by
      refine @ih (fun i => f (i + 1)) fun i hi => ?_
      rw [h (i + 1) (Nat.succ_le_succ hi)]
      simp
    rw [h 0 (Nat.zero_le _), if_pos (Nat.succ_pos l)]
    exact hrest

theorem copiedNumber_ne {message : List Byte} (w : Wild Obj) (hpos : 1 ≤ dataLen message)
    (hfit : dataLen message ≤ 15) :
    copiedNumber (bleCommandView message w) ≠ textOf message (dataLen message) := by
  intro heq
  have hzero : message.getD 4 0 = 0 := by
    refine @zero_of_shifted (fun i => message.getD (4 + i) 0) (dataLen message) fun i hi => ?_
    have hcopied : (copiedNumber (bleCommandView message w)).rd (fun _ => 0) i =
        message.getD (4 + i) 0 := by
      unfold copiedNumber
      rw [Buf.rd_memcpy, if_pos ⟨Nat.zero_le i, by simp; omega, by omega⟩, Nat.sub_zero]
      show (bleCommandView message w).byte (1 + i) = _
      rw [bleCommandView_byte _ _ (by omega)]
      congr 1
      omega
    have htext := textOf_byte message (dataLen message) Wild.zero .actLatitude
      (show i < 20 by omega)
    show message.getD (4 + i) 0 = if i < dataLen message then message.getD (4 + (i + 1)) 0 else 0
    rw [← hcopied, heq, show 4 + (i + 1) = 5 + i by omega]
    exact htext
  have hnone : dataLen message = 0 := congrArg UInt8.toNat hzero
  omega

section Numbers

variable {frame : Nat} {es : List Event} {b b' : Bridge} {e : Event} {cmd : NumberCmd}
  {message : List Byte}

theorem step_numberRelayed (hr : Machine.run step .boot es = some b)
    (hframe : SameBuffer frame (writes es)) (he : e.action = .gattWrite false frame message)
    (hmessage : NumberMessage cmd message) (hs : step b e = some b') :
    NumberRelayed cmd message e.wild b.glob.env.io b.glob.ble.thisCcu b'.glob := by
  have hslots := run_slots hr hframe
  obtain ⟨_, rfl⟩ := step_eq_some hs
  rw [he]
  exact (hslots.at e).numberRelayed hmessage

theorem NumberRelayed.not_kept (h : NumberRelayed cmd message w b.glob.env.io b.glob.ble.thisCcu
    b'.glob) (hmessage : NumberMessage cmd message) : ¬ NumberKept cmd message b b' := by
  intro hkept
  obtain ⟨f, hfield, hnumber⟩ := hkept.kept
  rw [h.copied f hfield] at hnumber
  exact copiedNumber_ne w hmessage.nonempty hmessage.fits hnumber

/-- The number goes out as it is and no other field changes, but its own field never holds it:
what is copied there is the length byte and then the number. -/
theorem number_never_kept (hr : Machine.run step .boot es = some b)
    (hframe : SameBuffer frame (writes es)) (he : e.action = .gattWrite false frame message)
    (hmessage : NumberMessage cmd message) (hs : step b e = some b') :
    NumberRelayed cmd message e.wild b.glob.env.io b.glob.ble.thisCcu b'.glob ∧
      (∃ f, cmd.field b.glob.ble.thisCcu (message.getD 3 0) f) ∧
      ¬ NumberKept cmd message b b' := by
  have hrelayed := step_numberRelayed hr hframe he hmessage hs
  refine ⟨hrelayed, ?_, hrelayed.not_kept hmessage⟩
  have hfirst : b.glob.ble.thisCcu.visitedLocationsCount = 0 :=
    Reachable.atFirstLocation (Machine.reachable_of_run .refl hr)
  cases cmd with
  | personal =>
    rcases hmessage.type with ht | ht
    · exact ⟨.second, .inl ⟨ht, rfl⟩⟩
    · exact ⟨.third, .inr ⟨ht, rfl⟩⟩
  | localHelp =>
    have hlocation : (0 : Fin 10).val = b.glob.ble.thisCcu.visitedLocationsCount.toNat := by
      rw [hfirst]
      rfl
    rcases hmessage.type with ht | ht
    · exact ⟨.fourth 0, 0, hlocation, .inl ⟨ht, rfl⟩⟩
    · exact ⟨.fifth 0, 0, hlocation, .inr ⟨ht, rfl⟩⟩

end Numbers

def secondNumber : List Byte :=
  [0x4D, 1, 0x07, 1, 1, 0x31, 0, 0, 0, 0, 0, 0, 0, 0, 0, 0, 0, 0, 0, 0]

theorem secondNumber_message : NumberMessage .personal secondNumber where
  cid := rfl
  type := .inl rfl
  nonempty := by decide
  fits := by decide

theorem secondNumber_step : ∃ b b', Machine.run step .boot (written []) = some b ∧
    step b (.calm (.gattWrite false 0 secondNumber)) = some b' := by
  have hserved : (Machine.run step .boot (written [])).map (·.glob.main.serviceCreated) =
      some true := by
    decide +kernel
  obtain ⟨b, hb, hservice⟩ := Option.map_eq_some_iff.mp hserved
  exact ⟨b, _, hb, if_pos hservice⟩

theorem secondNumber_relayed : ∃ b b', Machine.run step .boot (written []) = some b ∧
    step b (.calm (.gattWrite false 0 secondNumber)) = some b' ∧
      NumberRelayed .personal secondNumber Wild.zero b.glob.env.io b.glob.ble.thisCcu b'.glob := by
  obtain ⟨b, b', hb, hs⟩ := secondNumber_step
  exact ⟨b, b', hb, hs, (number_never_kept hb (by simp [writes_written, SameBuffer]) rfl
    secondNumber_message hs).1⟩

theorem secondNumber_spoilt : ¬ ∀ (frame : Nat) (es : List Event) (b b' : Bridge) (e : Event)
    (cmd : NumberCmd) (message : List Byte), Machine.run step .boot es = some b →
      SameBuffer frame (writes es) → e.action = .gattWrite false frame message →
      NumberMessage cmd message → step b e = some b' → NumberKept cmd message b b' := by
  intro hevery
  obtain ⟨b, b', hb, hs⟩ := secondNumber_step
  have hframe : SameBuffer 0 (writes (written [])) := by simp [writes_written, SameBuffer]
  have hrelayed := step_numberRelayed hb hframe rfl secondNumber_message hs
  exact hrelayed.not_kept secondNumber_message
    (hevery 0 _ b b' _ .personal secondNumber hb hframe rfl secondNumber_message hs)

end EspBridges.Ccu
