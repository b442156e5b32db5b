import EspBridges.Ccu.BridgeLaws

namespace EspBridges.Ccu

open Bytes

def loginVerdict (last : Option Byte) : Io → Option Byte
  | .rx ccuMsg _ => if rxOpcode ccuMsg = some .loginStatus then some (ccuMsg 5) else last
  | .tx _ => last

def lastVerdict (io : List Io) : Option Byte := io.foldl loginVerdict none

def Globals.authenticated (g : Globals) : Prop :=
  g.ble.thisCcu.pairedMob1.authenticationStatus = .authenticated

def AuthSound (b : Bridge) : Prop :=
  b.glob.authenticated → lastVerdict b.glob.env.io = some success

/-- A step that keeps the flag honest: no verdict against a phone that is authenticated
already, and no poll that takes a verdict against the phone for one in its favour. -/
def authOk (b : Bridge) (e : Event) : Prop :=
  match e.action with
  | .timerExpiry =>
    rxOpcode b.serial.packet = some .loginStatus → b.glob.authenticated →
      b.serial.packet 5 = success
  | .gattRead => b.glob.fsm.btState = .loginStatus → lastVerdict b.glob.env.io = some success
  | .regEvt =>
    b.glob.main.epReturnMessage 0 = 0 → b.glob.fsm.btState = .loginStatus →
      lastVerdict b.glob.env.io = some success
  | _ => True

theorem lastVerdict_snoc (io : List Io) (x : Io) :
    lastVerdict (io ++ [x]) = loginVerdict (lastVerdict io) x := by
  simp [lastVerdict]

theorem Sent.lastVerdict_eq {sends : Bool} {opcode : Byte} (h : Sent sends opcode g g') :
    lastVerdict g'.env.io = lastVerdict g.env.io := by
  obtain ⟨frame, _, hio⟩ := h
  cases sends with
  | false => simpa using congrArg lastVerdict hio
  | true =>
    rw [hio]
    exact lastVerdict_snoc _ _

theorem transmit_lastVerdict (msg : Wild Obj → Tx) (g : Globals) :
    lastVerdict (g.transmit msg).env.io = lastVerdict g.env.io :=
  lastVerdict_snoc _ _

theorem authSound_congr {b b' : Bridge}
    (hauth : b'.glob.ble.thisCcu.pairedMob1.authenticationStatus =
      b.glob.ble.thisCcu.pairedMob1.authenticationStatus)
    (hlast : lastVerdict b'.glob.env.io = lastVerdict b.glob.env.io) :
    AuthSound b' ↔ AuthSound b := by
  unfold AuthSound Globals.authenticated
  rw [hauth, hlast]

theorem gattsWriteEvt_auth (isPrep : Bool) (frame : Nat) (value : List Byte) (g : Globals) :
    (gattsWriteEvt isPrep frame value g).ble.thisCcu.pairedMob1.authenticationStatus =
        g.ble.thisCcu.pairedMob1.authenticationStatus ∧
      lastVerdict (gattsWriteEvt isPrep frame value g).env.io = lastVerdict g.env.io := by
  cases isPrep with
  | true => exact ⟨rfl, rfl⟩
  | false =>
    have heff := gattsWriteEvt_effect frame value g
    have hrec := received_spec frame value g
    constructor
    · rw [heff.paired, hrec.ble]
      exact (pairing_keeps _ _).2
    · rw [heff.sent.lastVerdict_eq, hrec.io]

theorem Polled.authSound_iff {b b' : Bridge} (h : Polled b.glob b'.glob) (hb : AuthSound b) :
    AuthSound b' ↔
      (b.glob.fsm.btState = .loginStatus → lastVerdict b.glob.env.io = some success) := by
  unfold AuthSound Globals.authenticated
  rw [h.io, h.ble]
  by_cases hq : b.glob.fsm.btState = .loginStatus
  · simp [hq]
  · simp only [hq, if_false, false_implies, iff_true]
    exact hb

theorem transmit_authSound (b : Bridge) (e : Event) (msg : Wild Obj → Tx) :
    AuthSound { b with glob := (b.at e).glob.transmit msg } ↔ AuthSound b :=
  authSound_congr rfl (transmit_lastVerdict msg (b.at e).glob)

theorem step_authSound_iff (b : Bridge) (e : Event) (b' : Bridge) (hb : AuthSound b)
    (hs : step b e = some b') : AuthSound b' ↔ authOk b e := by
  obtain ⟨_, rfl⟩ := step_eq_some hs
  unfold authOk
  cases e.action with
  | regEvt =>
    rcases gattsRegEvt_eq (b.at e).glob with ⟨hzero, hpoll⟩ | ⟨hready, _, hble, henv⟩
    · have h : AuthSound ((b.at e).perform .regEvt) ↔ _ := Polled.authSound_iff hpoll hb
      exact h.trans ⟨fun hq _ => hq, fun hok => hok hzero⟩
    · refine iff_of_true ?_ fun hzero => absurd hzero hready
      refine (authSound_congr (b := b) ?_ ?_).mpr hb
      · exact congrArg (·.thisCcu.pairedMob1.authenticationStatus) hble
      · exact congrArg (fun env => lastVerdict env.io) henv
  | gattRead => exact (gattsReadEvt_polled (b.at e).glob).authSound_iff (b := b.at e) hb
  | gattWrite isPrep frame value =>
    have h := gattsWriteEvt_auth isPrep frame value (b.at e).glob
    exact iff_of_true ((authSound_congr h.1 h.2).mpr hb) trivial
  | timerExpiry =>
    obtain ⟨_, hble, hio⟩ := timerExpiry_glob b e
    unfold AuthSound Globals.authenticated
    rw [hble, hio, lastVerdict_snoc]
    unfold loginVerdict
    by_cases hop : rxOpcode b.serial.packet = some .loginStatus
    · simp [hop]
    · simp only [hop, if_false, false_implies, iff_true]
      exact hb
  | byteReceived dataByte => exact iff_of_true hb trivial
  | advDataSet | updateConnParams | gattDisconnect =>
    exact iff_of_true ((transmit_authSound b e _).mpr hb) trivial

/-- In a run from boot the flag is honest throughout just when every step keeps it so. -/
theorem always_authSound_iff (es : List Event) :
    Machine.Always step AuthSound .boot es ↔ Machine.Guarded step authOk .boot es :=
  Machine.always_iff_guarded (fun _ => True) (fun _ _ _ _ _ => trivial)
    (fun b e b' _ hb hs => step_authSound_iff b e b' hb hs) trivial nofun

/-- A login with the wrong password: the CCU gets ready, the phone sends the last part of its
login, the CCU answers with `ERROR_LOGIN_PASSWORD_MISMATCH`, and the phone reads. -/
def rejectedLogin : List Event :=
  burst [0x13, 44, 0, 1, 0, 2, 0, 3, 0] ++
    [.calm .regEvt, .calm .regEvt, .calm (.gattWrite false 0 [0x4D, 1, 0x02, 4, 0])] ++
    burst [0x74, 44, 0, 1, 1, 6] ++ [.calm .gattRead]

theorem rejectedLogin_authenticates : ¬ Machine.Always step AuthSound .boot rejectedLogin := by
  intro h
  have hrun : (Machine.run step .boot rejectedLogin).map (fun b =>
      (b.glob.ble.thisCcu.pairedMob1.authenticationStatus, lastVerdict b.glob.env.io)) =
        some (.authenticated, some 6) := by
    decide +kernel
  obtain ⟨b, hb, hpair⟩ := Option.map_eq_some_iff.mp hrun
  obtain ⟨hauth, hverdict⟩ := Prod.mk.inj hpair
  have hsound : lastVerdict b.glob.env.io = some success := h.last hb hauth
  rw [hverdict] at hsound
  exact absurd hsound (by decide)

end EspBridges.Ccu
