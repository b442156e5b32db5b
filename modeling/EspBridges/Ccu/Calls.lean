import EspBridges.Ccu.TwoRuns
import EspBridges.Lib.Paired

namespace EspBridges.Ccu

open Bytes

structure MessageCall where
  frame : Nat
  value : List Byte
  wild : Wild Obj

def Io.bytes : Io → List Byte
  | .tx frame => frame
  | .rx _ _ => []

namespace Globals

/-- The buffers of earlier calls are live: they keep their messages. -/
def call (g : Globals) (c : MessageCall) : Globals :=
  gattsWriteEvt false c.frame c.value { g with env.wild := c.wild }

def answer (g : Globals) (c : MessageCall) : List Io × Buf 20 :=
  ((g.call c).env.io.drop g.env.io.length, (g.call c).main.epReturnMessage)

def taken (g : Globals) (c : MessageCall) : Globals :=
  received c.frame c.value { g with env.wild := c.wild }

def relayed (g : Globals) (c : MessageCall) : Buf 30 :=
  let pRecvdMsgFull := if g.ble.flagSetRecvdMsgPtr then g.ble.pRecvdMsgFull else c.frame
  if pRecvdMsgFull = c.frame then rxPktBuffer c.value else g.env.mem pRecvdMsgFull

theorem call_eq (g : Globals) (c : MessageCall) : g.call c =
    dispatch (commandOf c.value) (messageOf c.value c.wild) (bleCommandView c.value c.wild)
      (g.taken c) :=
  gattsWriteEvt_eq c.frame c.value { g with env.wild := c.wild }

theorem taken_wild (g : Globals) (c : MessageCall) : (g.taken c).env.wild = c.wild :=
  (received_spec c.frame c.value { g with env.wild := c.wild }).wild

theorem taken_ble (g : Globals) (c : MessageCall) : (g.taken c).ble =
    { g.ble with
      thisCcu.pairedMob1 := pairing (messageOf c.value c.wild) g.ble.thisCcu.pairedMob1
      pRecvdMsgFull := if g.ble.flagSetRecvdMsgPtr then g.ble.pRecvdMsgFull else c.frame
      flagSetRecvdMsgPtr := true } :=
  (received_spec c.frame c.value { g with env.wild := c.wild }).ble

theorem taken_mem (g : Globals) (c : MessageCall) : (g.taken c).env.mem =
    fun a => if a = c.frame then rxPktBuffer c.value else g.env.mem a :=
  (received_spec c.frame c.value { g with env.wild := c.wild }).mem

theorem seenBuf_taken (g : Globals) (c : MessageCall) : seenBuf (g.taken c) = g.relayed c := by
  unfold seenBuf relayed
  rw [taken_mem, taken_ble]

theorem relayed_byte (g : Globals) (c : MessageCall) (h : i < 30) :
    (recvdMsgFull (g.taken c)).byte i = (g.relayed c).rd (fun _ => 0) i := by
  rw [recvdMsgFull_byte _ h, seenBuf_taken]

end Globals

def identifiedMain (iMsg : View) (m : Main) : Main :=
  let ret := if iMsg.byte 0 = mob1AppTypeId then m.epReturnMessage
    else m.epReturnMessage.put bleRetMsgRcOffset errorSourceAppTypeMismatch
  { m with
    epReturnMessage := ((ret.put bleRetMsgCcuIdOffset ccuTypeId).put bleRetMsgCmdIdOffset
      (iMsg.byte 2)).memcpy bleRetMsgSerialNumOffset (m.advSerNo.rd fun _ => 0) advSerNoSize }

theorem identify_main (iMsg : View) (g : Globals) :
    (identify iMsg g).2.main = identifiedMain iMsg g.main := by
  unfold identify identifiedMain
  dsimp only
  split <;> split <;> first | rfl | (split <;> rfl)

theorem identify_alike {iMsg iMsg' : View} (hmsg : ∀ i, i < 30 → iMsg'.byte i = iMsg.byte i)
    {g g' : Globals} (h : Alike g g') : Alike (identify iMsg g).2 (identify iMsg' g').2 := by
  have hpaired : (identify iMsg' g').2.ble.thisCcu.pairedMob1 =
      (identify iMsg g).2.ble.thisCcu.pairedMob1 := by
    rw [identify_ble, identify_ble]
    unfold pairing
    rw [hmsg 1 (by decide), hmsg 2 (by decide), h.mob1]
  have hmain : (identify iMsg' g').2.main = (identify iMsg g).2.main := by
    rw [identify_main, identify_main]
    unfold identifiedMain
    rw [hmsg 0 (by decide), hmsg 2 (by decide), h.main]
  refine .of hmain hpaired ?_ ?_ ?_
  · rw [identify_ble, identify_ble]
    exact h.login
  · rw [identify_ble, identify_ble]
    exact h.voice
  · rw [identify_env, identify_env]
    exact h.io

theorem taken_alike {g g' : Globals} (h : Alike g g') {c c' : MessageCall}
    (hvalue : c'.value = c.value) : Alike (g.taken c) (g'.taken c') := by
  have hdelivered : Alike (delivered c.frame c.value { g with env.wild := c.wild })
      (delivered c'.frame c'.value { g' with env.wild := c'.wild }) := by
    refine .of ?_ h.mob1 h.login h.voice h.io
    unfold delivered
    dsimp only
    rw [h.main]
  have hpointed : ∀ (frame : Nat) (g₁ : Globals), (pointed frame g₁).visible = g₁.visible := by
    intro frame g₁
    unfold pointed
    split <;> rfl
  unfold Globals.taken received
  apply identify_alike
  · intro i hi
    rw [hvalue]
    exact (messageOf_byte c.value _ hi).trans (messageOf_byte c.value _ hi).symm
  · exact (hpointed _ _).trans (hdelivered.trans (hpointed _ _).symm)

theorem dispatch_mem (cmd : Option Cid) (iMsg iCmd : View) (g : Globals) :
    (dispatch cmd iMsg iCmd g).env.mem = g.env.mem := by
  have haudio : ∀ (u : AudioUpload) (raw : View → Nat → Byte → Wild Obj → Tx) (data : View)
      (audioNumber : Byte) (n : Nat) (g₁ : Globals),
      (storeAndSend u raw data audioNumber n g₁).env.mem = g₁.env.mem := by
    intro u raw data audioNumber n g₁
    unfold storeAndSend
    dsimp only
    split
    · rfl
    · split <;> rfl
  cases cmd with
  | none => rfl
  | some cmd =>
    cases cmd with
    | register =>
      unfold dispatch executeRegister
      dsimp only
      split <;> rfl
    | login =>
      unfold dispatch executeLogin
      dsimp only
      split <;> rfl
    | changePassword =>
      unfold dispatch executeChangePassword
      dsimp only
      split <;> rfl
    | recordPersonalVoiceMsg =>
      unfold dispatch executeRecordPersonalVoiceMsgNew
      dsimp only
      split
      · split
        · rfl
        · exact haudio _ _ _ _ _ _
      · split <;> rfl
    | storeEmergencyNumbers =>
      unfold dispatch executeStoreEmergencyNumber
      dsimp only
      split <;> rfl
    | storePersonalNumbers =>
      unfold dispatch executeStorePersonalNumber
      dsimp only
      split <;> rfl
    | scanWifis =>
      unfold dispatch executeScanWifis
      dsimp only
      split <;> split <;> rfl
    | selectAWifi =>
      unfold dispatch executeSelectAWifi
      dsimp only
      split <;> rfl
    | addressVisiting =>
      unfold dispatch executeStoreAddressVisitingNew
      dsimp only
      split
      case h_2 => exact haudio _ _ _ _ _ _
      all_goals rfl
    | enterLocalHelpNumbers =>
      unfold dispatch executeEnterLocalHelpNumber
      dsimp only
      split <;> rfl
    | ccuActivate =>
      unfold dispatch executeCcuActivate
      dsimp only
      split <;> rfl
    | forgotPassword | connectToWifi | disconnectFromWifi | updateCcuSw | setCcuReboot
    | setCcuWifiMode | uploadTripInfo => rfl

theorem call_alike {g g' : Globals} (h : Alike g g') (hk : Kept g.ble.voice) {c c' : MessageCall}
    (hvalue : c'.value = c.value) (hp : ProperMessage c.value)
    (htexts : SameTexts (g.call c).ble.savedMessages (g'.call c').ble.savedMessages)
    (hnumber : relaysNumber (c.value.getD 3 0) (commandOf c.value) →
      SameNumber (recvdMsgFull (g.taken c)) (recvdMsgFull (g'.taken c')))
    (hstamp : commandOf c.value = some .ccuActivate → c.value.getD 3 0 = 3 → ∀ i, i < 10 →
      (recvdMsgFull (g'.taken c')).byte (5 + i) = (recvdMsgFull (g.taken c)).byte (5 + i))
    (hw : c'.wild = c.wild ∨ Determined (c.value.getD 3 0) (recvdMsgFull (g.taken c)).byte
      g.ble.savedMessages g.ble.login.iPwd (commandOf c.value)) :
    Alike (g.call c) (g'.call c') := by
  have htaken := taken_alike h hvalue
  have hkept : Kept (g.taken c).ble.voice := by
    rw [Globals.taken_ble]
    exact hk
  rw [Globals.call_eq, Globals.call_eq, hvalue] at htexts ⊢
  have hdispatch := dispatch_alike hp hkept htaken
  rw [Globals.taken_wild, Globals.taken_wild] at hdispatch
  apply hdispatch htexts hnumber hstamp
  rw [Globals.taken_ble]
  exact hw

theorem answer_eq {g g' : Globals} (h : Alike g g') {c c' : MessageCall}
    (hcall : Alike (g.call c) (g'.call c')) : g'.answer c' = g.answer c := by
  unfold Globals.answer
  rw [h.io, hcall.io, hcall.main]

theorem call_kept {g : Globals} (h : Kept g.ble.voice) (c : MessageCall) :
    Kept (g.call c).ble.voice :=
  gattsWriteEvt_kept c.frame c.value (g := { g with env.wild := c.wild }) h

structure Called (g : Globals) (c : MessageCall) (g' : Globals) : Prop where
  mem : g'.env.mem = fun a => if a = c.frame then rxPktBuffer c.value else g.env.mem a
  pointer : g'.ble.pRecvdMsgFull =
    if g.ble.flagSetRecvdMsgPtr then g.ble.pRecvdMsgFull else c.frame
  flag : g'.ble.flagSetRecvdMsgPtr = true
  saved : g'.ble.savedMessages =
    ((savesRow (c.value.getD 3 0) (commandOf c.value)).map fun row => g.ble.savedMessages.memcpy
      (21 * (row - 1)) ((g.relayed c).rd fun _ => 0) bleMessageSize).getD g.ble.savedMessages

theorem call_spec (g : Globals) (c : MessageCall) : Called g c (g.call c) := by
  have heffect := gattsWriteEvt_effect c.frame c.value { g with env.wild := c.wild }
  have hble := g.taken_ble c
  refine ⟨?_, ?_, ?_, ?_⟩
  · rw [Globals.call_eq, dispatch_mem, Globals.taken_mem]
  · refine heffect.pointer.1.trans ?_
    show (g.taken c).ble.pRecvdMsgFull = _
    rw [hble]
  · refine heffect.pointer.2.trans ?_
    show (g.taken c).ble.flagSetRecvdMsgPtr = _
    rw [hble]
  · refine heffect.saved.trans ?_
    have hsaved : (g.taken c).ble.savedMessages = g.ble.savedMessages := by rw [hble]
    show Option.getD (Option.map (fun row => (saveGroupMessages (recvdMsgFull (g.taken c)) row
      (g.taken c)).ble.savedMessages) (savesRow _ (commandOf c.value)))
        (g.taken c).ble.savedMessages = _
    rw [hsaved]
    congr 2
    funext row
    show (g.taken c).ble.savedMessages.memcpy _ _ _ = _
    rw [hsaved]
    apply Buf.memcpy_congr _ _ rfl
    intro i _ hi
    simp only [bleMessageSize] at hi
    exact g.relayed_byte c (by omega)

end EspBridges.Ccu
