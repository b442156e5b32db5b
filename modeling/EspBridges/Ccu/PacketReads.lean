import EspBridges.Ccu.ScanLaws

namespace EspBridges.Ccu

open Bytes

/-- Byte `i` of the buffer is settled by a packet of `n` bytes: it is one of them, or the
terminator behind the byte after them, or not in the buffer. -/
def Known (n i : Nat) : Prop := i < n ∨ i = n + 1 ∨ 500 ≤ i

def Holds (p : List Byte) (ccuMsg : Buf 500) : Prop :=
  ∀ i : Fin 500, Known p.length i.val → ccuMsg i = p.getD i.val 0

structure Outcome where
  fsmState : CcuFsmStates
  epReturnMessage : Buf 20
  firmwareVersion : Buf 10
  ccuSerialNo : Buf 20
  postResult : Byte
  wifiScanReport : WifiScanReport
  wifiReport : Buf 2500
  wifiReportLength : Fin 50 → Nat
  noOfStoredSsids : Nat

def outcome (g : Globals) : Outcome where
  fsmState := g.fsm.btState
  epReturnMessage := g.main.epReturnMessage
  firmwareVersion := g.main.firmwareVersion
  ccuSerialNo := g.main.ccuSerialNo
  postResult := g.handler.postResult
  wifiScanReport := g.handler.wifiScanReport
  wifiReport := g.fsm.wifiReport
  wifiReportLength := g.fsm.wifiReportLength
  noOfStoredSsids := g.fsm.noOfStoredSsids

/-! The three TLVs of `CCU_READY`, as functions of the bytes they are read from. -/

def serialTlv (rd : Nat → Byte) : Nat := 3 + 2 + (rd 4).toNat

def postTlv (rd : Nat → Byte) : Nat := serialTlv rd + 2 + (rd (serialTlv rd + 1)).toNat

def versionOf (rd : Nat → Byte) : Buf 10 := Buf.zero.memcpy 0 (fun i => rd (5 + i)) (rd 4).toNat

def serialOf (rd : Nat → Byte) : Buf 20 :=
  Buf.zero.memcpy 0 (fun i => rd (serialTlv rd + 2 + i)) (rd (serialTlv rd + 1)).toNat

def postOf (rd : Nat → Byte) (postResult : Byte) : Byte :=
  if 0 < (rd (postTlv rd + 1)).toNat then rd (postTlv rd + 2) else postResult

theorem ccuReadyMsg_outcome (ccuMsg : Buf 500) (g : Globals) :
    outcome (ccuReadyMsg ccuMsg g) =
      { outcome g with
        firmwareVersion := versionOf (ccuMsg.rd (g.env.wild.byte .serialRxData))
        ccuSerialNo := serialOf (ccuMsg.rd (g.env.wild.byte .serialRxData))
        postResult := postOf (ccuMsg.rd (g.env.wild.byte .serialRxData)) g.handler.postResult } :=
  rfl

def scanLength (p : List Byte) : Nat :=
  if p.getD 4 0 = 0x0a ∧ p.getD 16 0 ≠ 0 then 0x0d else (p.getD 4 0).toNat

section Holds

variable {p : List Byte} {ccuMsg ccuMsg' : Buf 500}

theorem Holds.rd (h : Holds p ccuMsg) (beyond : Nat → Byte) (hk : Known p.length i)
    (hi : i < 500) : ccuMsg.rd beyond i = p.getD i 0 := by
  rw [Buf.rd_of_lt _ _ hi]
  exact h ⟨i, hi⟩ hk

end Holds

theorem ssidRow_cases (type : Byte) (g : Globals) :
    ssidRow type g = type.toNat ∨ ssidRow type g = 13 ∧ type.toNat = 10 := by
  unfold ssidRow
  by_cases h : type = 0x0a ∧ (apNameRow g 0x0b).strlen ≠ 0
  · rw [if_pos h]
    exact .inr ⟨rfl, by rw [h.1]; rfl⟩
  · rw [if_neg h]
    exact .inl rfl

theorem Holds.ssidLength_eq {p : List Byte} {ccuMsg : Buf 500} (h : Holds p ccuMsg)
    (h4 : Known p.length 4) (h16 : p.getD 4 0 = 0x0a → Known p.length 16) :
    ssidLength ccuMsg = scanLength p := by
  unfold ssidLength scanLength
  rw [h 4 h4]
  by_cases hten : p.getD 4 0 = 0x0a
  · rw [h 16 (h16 hten)]
    rfl
  · rw [if_neg (fun hfix => hten hfix.1), if_neg (fun hfix => hten hfix.1)]
    rfl

def filled (p : List Byte) (rest : Nat → Byte) : Buf 500 := fun i =>
  if i.val < p.length ∨ i.val = p.length + 1 then p.getD i.val 0 else rest i.val

theorem holds_filled (p : List Byte) (rest : Nat → Byte) : Holds p (filled p rest) := by
  intro i hi
  have hin := i.isLt
  exact if_pos (by rcases hi with hi | hi | hi <;> omega)

def Indifferent (p : List Byte) : Prop :=
  ∀ (rest rest' : Nat → Byte) (g : Globals),
    outcome (akbiProcessRxSerialData (filled p rest) p.length g).1 =
      outcome (akbiProcessRxSerialData (filled p rest') p.length g).1

def listening : Globals := { Globals.boot with main.epReturnMessage := fun _ => 0x55 }

theorem Indifferent.rc {p : List Byte} (h : Indifferent p) (rest rest' : Nat → Byte) :
    packetRc 0 (filled p rest) 0x55 = packetRc 0 (filled p rest') 0x55 := by
  have hsame := congrArg (fun o => o.epReturnMessage 6) (h rest rest' listening)
  dsimp only [outcome] at hsame
  rw [handled_rc, handled_rc] at hsame
  exact hsame

theorem Indifferent.state {p : List Byte} (h : Indifferent p) (rest rest' : Nat → Byte) :
    (packetState (filled p rest)).getD .init = (packetState (filled p rest')).getD .init := by
  have hsame := congrArg Outcome.fsmState (h rest rest' listening)
  dsimp only [outcome] at hsame
  rw [(handled _ _ _).state, (handled _ _ _).state] at hsame
  exact hsame

theorem filled_opcode {p : List Byte} {opcode : RxOpcode} (hpos : 0 < p.length)
    (hop : RxOpcode.ofByte? (p.getD 0 0) = some opcode) (rest : Nat → Byte) :
    rxOpcode (filled p rest) = some opcode := by
  have h0 : filled p rest 0 = p.getD 0 0 := holds_filled p rest 0 (.inl hpos)
  rw [rxOpcode, h0, hop]

theorem versionOf_apply (rd : Nat → Byte) (j : Fin 10) :
    versionOf rd j = if j.val < (rd 4).toNat then rd (5 + j.val) else 0 := by
  simp [versionOf, Buf.memcpy_apply]

theorem serialOf_apply (rd : Nat → Byte) (j : Fin 20) :
    serialOf rd j = if j.val < (rd (serialTlv rd + 1)).toNat then rd (serialTlv rd + 2 + j.val)
      else 0 := by
  simp [serialOf, Buf.memcpy_apply]

def seen (p : List Byte) (rest : Nat → Byte) : Nat → Byte := (filled p rest).rd fun _ => 0

theorem Indifferent.ready {p : List Byte} (h : Indifferent p) (hpos : 0 < p.length)
    (hop : RxOpcode.ofByte? (p.getD 0 0) = some .ccuReady) (rest rest' : Nat → Byte)
    (postResult : Byte) :
    versionOf (seen p rest) = versionOf (seen p rest') ∧
      serialOf (seen p rest) = serialOf (seen p rest') ∧
      postOf (seen p rest) postResult = postOf (seen p rest') postResult := by
  let g : Globals := { listening with handler.postResult := postResult }
  have hsame := h rest rest' g
  have hbeyond : (g.akbiSetFsmState .ccuReady).env.wild.byte .serialRxData = fun _ => 0 := rfl
  have hpost : (g.akbiSetFsmState .ccuReady).handler.postResult = postResult := rfl
  have hhandled : ∀ rest g, (akbiProcessRxSerialData (filled p rest) p.length g).1 =
      ccuReadyMsg (filled p rest) (g.akbiSetFsmState .ccuReady) := by
    intro rest g
    have hready := filled_opcode hpos hop rest
    unfold rxOpcode at hready
    unfold akbiProcessRxSerialData
    rw [hready]
  rw [hhandled, hhandled, ccuReadyMsg_outcome, ccuReadyMsg_outcome, hbeyond, hpost] at hsame
  have hversion := congrArg Outcome.firmwareVersion hsame
  have hserial := congrArg Outcome.ccuSerialNo hsame
  have hresult := congrArg Outcome.postResult hsame
  dsimp only at hversion hserial hresult
  exact ⟨hversion, hserial, hresult⟩

section Ready

variable {p : List Byte} (h : Indifferent p) (hpos : 0 < p.length)
  (hop : RxOpcode.ofByte? (p.getD 0 0) = some .ccuReady)

include h hpos hop

end Ready

section Scan

variable {p : List Byte} (h : Indifferent p) (hpos : 0 < p.length)
  (hop : RxOpcode.ofByte? (p.getD 0 0) = some .scanWifiResult)

include h hpos hop

variable (h3 : Known p.length 3) (hsome : p.getD 3 0 ≠ 0)

include h3 hsome

theorem Indifferent.scan (rest rest' : Nat → Byte) :
    outcome (storeSsid (p.getD 3 0) (ssidLength (filled p rest))
        (fun i => seen p rest (5 + i)) listening) =
      outcome (storeSsid (p.getD 3 0) (ssidLength (filled p rest'))
        (fun i => seen p rest' (5 + i)) listening) := by
  have hhandled : ∀ rest, (akbiProcessRxSerialData (filled p rest) p.length listening).1 =
      storeSsid (p.getD 3 0) (ssidLength (filled p rest)) (fun i => seen p rest (5 + i))
        listening := by
    intro rest
    have hscan := filled_opcode hpos hop rest
    have htype : filled p rest 3 = p.getD 3 0 := holds_filled p rest 3 h3
    unfold rxOpcode at hscan
    unfold akbiProcessRxSerialData
    rw [hscan]
    dsimp only
    rw [htype, if_neg hsome, scanWifiResultMsg_eq, htype]
    rfl
  rw [← hhandled, ← hhandled]
  exact h rest rest' listening

omit h3 hsome

end Scan

end EspBridges.Ccu
