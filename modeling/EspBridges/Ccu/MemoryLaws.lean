import EspBridges.Ccu.Calls

namespace EspBridges.Ccu

open Bytes

def SameMessage (c c' : MessageCall) : Prop := c'.frame = c.frame ∧ c'.value = c.value

/-- What a call has to find for its frame to be settled by the messages. -/
def CallDetermined (g : Globals) (c : MessageCall) : Prop :=
  Determined (c.value.getD 3 0) ((g.relayed c).rd fun _ => 0) g.ble.savedMessages
    g.ble.login.iPwd (commandOf c.value)

/-- `CONNECT_TO_WIFI` and `UPDATE_CCU_SW` send their ten bytes of timestamp, and that length. -/
def CarriesStamp (g : Globals) (c : MessageCall) : Prop :=
  ∀ cmd, commandOf c.value = some cmd → cmd = .connectToWifi ∨ cmd = .updateCcuSw →
    (g.answer c).1 =
      [.tx ([cmd.requestOpcode, 44, 0, tlvTypeTimestamp, 10] ++ (c.value.drop 4).take 10)]

def framesOf (g : Globals) (cs : List MessageCall) : List (List Io) :=
  Paired.answers Globals.call (fun g c => (g.answer c).1) g cs

structure Settled (g : Globals) (cs : List MessageCall) : Prop where
  same : ∀ cs' cs'', List.Forall₂ SameMessage cs cs' → List.Forall₂ SameMessage cs cs'' →
    framesOf g cs' = framesOf g cs''
  stamped : ∀ cs', List.Forall₂ SameMessage cs cs' →
    Machine.Guarded (Paired.total Globals.call) CarriesStamp g cs'

theorem Determined.congr {t : Byte} {seen seen' : Nat → Byte} {saved : Buf 84} {iPwd : Buf 20}
    {cmd : Option Cid} (h : Determined t seen saved iPwd cmd)
    (hseen : ∀ i, i < 20 → seen' i = seen i) : Determined t seen' saved iPwd cmd := by
  have hsaved : saved.memcpy 21 seen' bleMessageSize = saved.memcpy 21 seen bleMessageSize := by
    apply Buf.memcpy_congr _ _ rfl
    intro i _ hi
    exact hseen i hi
  unfold Determined at h ⊢
  rw [hsaved, hseen 3 (by decide), hseen 4 (by decide)]
  exact h

theorem Determined.number {t : Byte} {seen : Nat → Byte} {saved : Buf 84} {iPwd : Buf 20}
    {cmd : Option Cid} (h : Determined t seen saved iPwd cmd) (hnumber : relaysNumber t cmd) :
    (seen 4).toNat ≤ 15 := by
  cases cmd with
  | none => cases hnumber
  | some cmd =>
    cases cmd with
    | storeEmergencyNumbers | storePersonalNumbers => exact (h hnumber).2
    | enterLocalHelpNumbers => exact h hnumber
    | _ => cases hnumber

structure Twin (g g' : Globals) : Prop where
  alike : Alike g g'
  kept : Kept g.ble.voice
  saved : g'.ble.savedMessages = g.ble.savedMessages
  mem : g'.env.mem = g.env.mem
  pointer : g'.ble.pRecvdMsgFull = g.ble.pRecvdMsgFull
  flag : g'.ble.flagSetRecvdMsgPtr = g.ble.flagSetRecvdMsgPtr

theorem Twin.step {g g' : Globals} {c c' : MessageCall} (h : Twin g g') (hsame : SameMessage c c')
    (hp : ProperMessage c.value) (hdet : CallDetermined g c) :
    g'.answer c' = g.answer c ∧ Twin (g.call c) (g'.call c') := by
  obtain ⟨hframe, hvalue⟩ := hsame
  have hrelayed : g'.relayed c' = g.relayed c := by
    unfold Globals.relayed
    rw [h.pointer, h.flag, h.mem, hframe, hvalue]
  have hbyte : ∀ i, i < 30 →
      (recvdMsgFull (g'.taken c')).byte i = (recvdMsgFull (g.taken c)).byte i := by
    intro i hi
    rw [g'.relayed_byte c' hi, g.relayed_byte c hi, hrelayed]
  have hspec := call_spec g c
  have hspec' := call_spec g' c'
  have hsaved : (g'.call c').ble.savedMessages = (g.call c).ble.savedMessages := by
    rw [hspec'.saved, hspec.saved, hvalue, hrelayed, h.saved]
  have halike : Alike (g.call c) (g'.call c') := by
    apply call_alike h.alike h.kept hvalue hp
    · rw [hsaved]
      exact ⟨rfl, rfl, rfl, rfl⟩
    · intro hnumber
      have hshort := hdet.number hnumber
      rw [← g.relayed_byte c (by decide)] at hshort
      exact ⟨hshort, fun i _ hlt => hbyte i (by omega), fun i hi => hbyte (5 + i) (by omega)⟩
    · exact fun _ _ i hi => hbyte (5 + i) (by omega)
    · exact .inr (hdet.congr fun i hi => g.relayed_byte c (by omega))
  refine ⟨answer_eq h.alike halike, halike, call_kept h.kept c, hsaved, ?_, ?_, ?_⟩
  · rw [hspec'.mem, hspec.mem, hframe, hvalue, h.mem]
  · rw [hspec'.pointer, hspec.pointer, hframe, h.pointer, h.flag]
  · rw [hspec'.flag, hspec.flag]

theorem answer_frames {g : Globals} {c : MessageCall} {cmd : Cid} {frames : List Io}
    (hcmd : commandOf c.value = some cmd)
    (h : (dispatch (some cmd) (messageOf c.value c.wild) (bleCommandView c.value c.wild)
      (g.taken c)).env.io = (g.taken c).env.io ++ frames) : (g.answer c).1 = frames := by
  have hio : (g.taken c).env.io = g.env.io :=
    (received_spec c.frame c.value { g with env.wild := c.wild }).io
  unfold Globals.answer
  rw [Globals.call_eq, hcmd, h, hio, List.drop_left]

theorem updateSwMsg_frame {time : View} (stamp : List Byte) (hlen : stamp.length = 10)
    (h : ∀ i, i < 10 → time.byte i = stamp.getD i 0) (w : Wild Obj) :
    (ccuSentUpdateSwMsg time w).frame w =
      [btCpOpcodeCidUpdateCcuSw, 44, 0, tlvTypeTimestamp, 10] ++ stamp := by
  have hstamp := (protocolHdr_startsWith (uninitialised w .pTxBuffer : Buf 20)
    btCpOpcodeCidUpdateCcuSw tlvTypeTimestamp (UInt8.ofNat timestampSize)).memcpy rfl hlen.symm
    (by rw [hlen]; exact h)
  refine Tx.frame_of_startsWith hstamp ?_ ?_ ?_ _ w
  · simp [hlen]
  · simp [hlen]
  · simp [hlen]

theorem updateCcuSw_stamped {c : MessageCall} (hp : ProperMessage c.value)
    (hcmd : commandOf c.value = some .updateCcuSw) (g : Globals) : CarriesStamp g c := by
  intro cmd hcmd' _
  obtain rfl := Option.some.inj (hcmd.symm.trans hcmd')
  have hoffset : lengthOffset (c.value.getD 3 0) (commandOf c.value) = some 3 := by
    rw [hcmd]
    rfl
  have h3 := hp.timestamp 3 hoffset (by rw [hcmd]; rfl)
  have hdeclared := hp.declared 3 hoffset
  have hten : (10 : Byte).toNat = 10 := rfl
  rw [h3, hten] at hdeclared
  have hiCmd : ∀ i, i < 17 → (bleCommandView c.value c.wild).byte i = c.value.getD (3 + i) 0 :=
    fun i hi => bleCommandView_byte _ _ hi
  refine answer_frames hcmd ?_
  show _ ++ [Io.tx ((ccuSentUpdateSwMsg (localCopy ((bleCommandView c.value c.wild).shift 1)
    ((bleCommandView c.value c.wild).byte 0).toNat _) _).frame _)] = _
  rw [updateSwMsg_frame ((c.value.drop 4).take 10)]
  · rfl
  · simp
    omega
  · intro i hi
    rw [hiCmd 0 (by decide), h3]
    refine (if_pos (show i < (10 : Byte).toNat from hi)).trans ?_
    refine (hiCmd (1 + i) (by omega)).trans ?_
    simp only [List.getD_eq_getElem?_getD, List.getElem?_take, List.getElem?_drop]
    rw [if_pos hi]
    congr 2
    omega

theorem stamped_of_determined {g g' : Globals} {c c' : MessageCall} (hsame : SameMessage c c')
    (hp : ProperMessage c.value) (hdet : CallDetermined g c) : CarriesStamp g' c' := by
  have hvalue := hsame.2
  intro cmd hcmd hstamp
  rcases hstamp with rfl | rfl
  · unfold CallDetermined at hdet
    rw [hvalue] at hcmd
    rw [hcmd] at hdet
    exact hdet.elim
  · exact updateCcuSw_stamped (hvalue.symm ▸ hp) hcmd g' _ hcmd (.inr rfl)

theorem settled_of_determined {b : Bridge} (hb : Reachable b) {cs : List MessageCall}
    (hproper : ∀ c ∈ cs, ProperMessage c.value)
    (hdet : Machine.Guarded (Paired.total Globals.call) CallDetermined b.glob cs) :
    Settled b.glob cs := by
  have hself : Twin b.glob b.glob := ⟨rfl, reachable_kept hb, rfl, rfl, rfl, rfl⟩
  have hframes : ∀ cs', List.Forall₂ SameMessage cs cs' →
      framesOf b.glob cs' = framesOf b.glob cs := by
    intro cs' hsame
    apply Paired.answers_eq (R := Twin) _ hself hsame hdet
    intro g g' c hc c' h hsame' hdet'
    obtain ⟨hanswer, hkept⟩ := h.step hsame' (hproper c hc) hdet'
    exact ⟨by rw [hanswer], hkept⟩
  refine ⟨fun cs' cs'' h h' => (hframes cs' h).trans (hframes cs'' h').symm, fun cs' hsame => ?_⟩
  apply Paired.guarded_transfer (R := Twin) _ hself hsame hdet
  intro g g' c hc c' h hsame' hdet'
  exact ⟨stamped_of_determined hsame' (hproper c hc) hdet', (h.step hsame' (hproper c hc) hdet').2⟩

end EspBridges.Ccu
