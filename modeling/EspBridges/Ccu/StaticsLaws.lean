import EspBridges.Ccu.BridgeLaws

namespace EspBridges.Ccu

open Bytes

structure Leaves (cmd : Option Cid) (g g' : Globals) : Prop where
  login : cmd ≠ some .login → g'.ble.login = g.ble.login
  voice : cmd ≠ some .recordPersonalVoiceMsg → cmd ≠ some .addressVisiting →
    g'.ble.voice = g.ble.voice

theorem Leaves.of_ble {cmd : Option Cid} {g g' : Globals} (hlogin : g'.ble.login = g.ble.login)
    (hvoice : g'.ble.voice = g.ble.voice) : Leaves cmd g g' :=
  ⟨fun _ => hlogin, fun _ _ => hvoice⟩

theorem gattsWriteEvt_leaves (frame : Nat) (value : List Byte) (g : Globals) :
    Leaves (Cid.ofByte? (value.getD 2 0)) g (gattsWriteEvt false frame value g) := by
  have hrec := (received_spec frame value g).ble
  have hdispatch := dispatch_untouched (Cid.ofByte? (value.getD 2 0))
    (messageOf value g.env.wild) (bleCommandView value g.env.wild) (received frame value g)
  rw [gattsWriteEvt_eq]
  refine ⟨fun h => (hdispatch.login h).trans ?_, fun h h' => (hdispatch.voice h h').trans ?_⟩
  · rw [hrec]
  · rw [hrec]

theorem Polled.leaves {g g' : Globals} (h : Polled g g') : Leaves none g g' := by
  have hble := h.ble
  split at hble
  · exact .of_ble (by rw [hble]) (by rw [hble])
  · exact .of_ble (by rw [hble]) (by rw [hble])

def Action.command : Action → Option Cid
  | .gattWrite false _ value => Cid.ofByte? (value.getD 2 0)
  | _ => none

theorem step_leaves {b b' : Bridge} {e : Event} (hs : step b e = some b') :
    Leaves e.action.command b.glob b'.glob := by
  obtain ⟨_, rfl⟩ := step_eq_some hs
  cases hact : e.action with
  | regEvt =>
    rcases gattsRegEvt_eq (b.at e).glob with ⟨_, hpoll⟩ | ⟨_, _, hble, _⟩
    · exact ⟨hpoll.leaves.login, hpoll.leaves.voice⟩
    · have hkeep : ((b.at e).perform .regEvt).glob.ble = b.glob.ble := hble
      exact .of_ble (by rw [hkeep]) (by rw [hkeep])
  | gattRead =>
    have hpoll := (gattsReadEvt_polled (b.at e).glob).leaves
    exact ⟨hpoll.login, hpoll.voice⟩
  | gattWrite isPrep frame value =>
    cases isPrep with
    | true => exact .of_ble rfl rfl
    | false =>
      have hwrite := gattsWriteEvt_leaves frame value (b.at e).glob
      exact ⟨hwrite.login, hwrite.voice⟩
  | timerExpiry =>
    have hble := (timerExpiry_glob b e).2.1
    exact .of_ble (by rw [hble]) (by rw [hble])
  | advDataSet | updateConnParams | gattDisconnect | byteReceived => exact .of_ble rfl rfl

end EspBridges.Ccu
