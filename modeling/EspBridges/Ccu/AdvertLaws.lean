import EspBridges.Lib.Ltv
import EspBridges.Ccu.Advert
import EspBridges.Ccu.HeaderLaws

namespace EspBridges.Ccu

open Bytes

section Data

variable (advSerNo : Buf 5)

def serialBytes : List Byte := (List.range advSerNoSize).map (advSerNo.rd fun _ => 0)

def deviceName (serial : List Byte) : List Byte := bleAdvName ++ serial.takeWhile (· ≠ 0)

def advertised (serial : List Byte) : List Ltv.Entry :=
  [(espBtEirTypeFlags, [0x06]), (espBleAdTypeNameCmpl, deviceName serial)]

end Data

section Numbers

def readySerial (ccuMsg : Buf 500) : Buf 20 :=
  let rd := ccuMsg.rd fun _ => 0
  let p := 3 + 2 + (rd 4).toNat
  Buf.zero.memcpy 0 (fun i => rd (p + 2 + i)) (rd (p + 1)).toNat

theorem ccuReadyMsg_serial (ccuMsg : Buf 500) (g : Globals) :
    (ccuReadyMsg ccuMsg g).main.ccuSerialNo = readySerial ccuMsg := by
  have hlt : ∀ b : Byte, b.toNat < 256 := UInt8.toNat_lt
  have hread : ∀ i, i < 500 →
      ccuMsg.rd (g.env.wild.byte .serialRxData) i = ccuMsg.rd (fun _ => 0) i := by
    intro i hi
    rw [Buf.rd_of_lt _ _ hi, Buf.rd_of_lt _ _ hi]
  have hversion := hlt (ccuMsg.rd (fun _ => 0) 4)
  unfold ccuReadyMsg readySerial
  dsimp only
  rw [hread 4 (by decide), hread _ (by omega)]
  exact Buf.memcpy_congr _ 0 rfl fun i hi _ => hread _ (by omega)

def Io.serial (last : Option (Buf 20)) : Io → Option (Buf 20)
  | .rx ccuMsg _ => if rxOpcode ccuMsg = some .ccuReady then some (readySerial ccuMsg) else last
  | .tx _ => last

def lastSerial (io : List Io) : Option (Buf 20) := io.foldl Io.serial none

theorem lastSerial_snoc (io : List Io) (entry : Io) :
    lastSerial (io ++ [entry]) = Io.serial (lastSerial io) entry := by
  rw [lastSerial, List.foldl_append]
  rfl

structure Told (g : Globals) : Prop where
  number : g.main.ccuSerialNo = (lastSerial g.env.io).getD Buf.zero
  ready : g.fsm.btState = .ccuReady → (lastSerial g.env.io).isSome
  head : g.main.epReturnMessage 0 ≠ 0 → (lastSerial g.env.io).isSome

theorem check_serials (g : Globals) :
    (akbiCheckFsmStateAndRespond g).2.main.ccuSerialNo = g.main.ccuSerialNo ∧
      (akbiCheckFsmStateAndRespond g).2.main.advSerNo = g.main.advSerNo := by
  unfold akbiCheckFsmStateAndRespond
  cases g.fsm.btState with
  | wifiNameSendInProgress =>
    unfold wifiNameSend
    dsimp only
    split <;> exact ⟨rfl, rfl⟩
  | _ => exact ⟨rfl, rfl⟩

theorem Told.check (h : Told g) : Told (akbiCheckFsmStateAndRespond g).2 := by
  have hio := (check_polled g).io
  refine ⟨?_, fun hready => ?_, fun hhead => ?_⟩
  · rw [hio, (check_serials g).1, h.number]
  · rw [hio]
    rw [(check_polled g).state] at hready
    split at hready
    · exact absurd hready (by decide)
    · exact h.ready hready
  · rw [hio]
    by_cases hq : g.fsm.btState = .ccuReady
    · exact h.ready hq
    · refine h.head fun hzero => hhead ?_
      unfold akbiCheckFsmStateAndRespond
      cases hstate : g.fsm.btState with
      | ccuReady => exact absurd hstate hq
      | wifiNameSendInProgress =>
        exact (List.cons.inj (wifiNameSend_keepsHeader g).header).1.trans hzero
      | _ => exact hzero

theorem ready_of_packetState {ccuMsg : Buf 500} (h : packetState ccuMsg = some .ccuReady) :
    rxOpcode ccuMsg = some .ccuReady := by
  unfold packetState cfgGroup at h
  dsimp only at h
  split at h <;> (try split at h) <;> (try split at h) <;> (try split at h) <;>
    first | assumption | cases h

theorem handled_serial {ccuMsg : Buf 500} {length : Nat} {g : Globals}
    (h : rxOpcode ccuMsg ≠ some .ccuReady) :
    (akbiProcessRxSerialData ccuMsg length g).1.main.ccuSerialNo = g.main.ccuSerialNo := by
  have houtcome := packet_outcome ccuMsg length g
  generalize (akbiProcessRxSerialData ccuMsg length g).1 = g' at houtcome
  cases houtcome with
  | ready hop => exact absurd hop h
  | scanEnd => rfl
  | scanned =>
    unfold scanWifiResultMsg
    by_cases htype : ccuMsg 3 = 1
    · simp only [if_pos htype]
      rfl
    · simp only [if_neg htype]
      rfl
  | login =>
    unfold loginStatusMsg
    dsimp only
    split
    · split <;> rfl
    · split
      · rfl
      · split <;> rfl
  | reported => rfl

theorem Told.handled (h : Told g) (ccuMsg : Buf 500) (length : Nat) :
    Told (akbiProcessRxSerialData ccuMsg length
      { g with env.io := g.env.io ++ [.rx ccuMsg length] }).1 := by
  generalize hlogged : ({ g with env.io := g.env.io ++ [.rx ccuMsg length] } : Globals) = g₁
  have hio : (akbiProcessRxSerialData ccuMsg length g₁).1.env.io = g.env.io ++ [.rx ccuMsg length] := by
    rw [(Ccu.handled ccuMsg length g₁).io, ← hlogged]
  by_cases hready : rxOpcode ccuMsg = some .ccuReady
  · have hlast : lastSerial (akbiProcessRxSerialData ccuMsg length g₁).1.env.io =
        some (readySerial ccuMsg) := by
      rw [hio, lastSerial_snoc, Io.serial, if_pos hready]
    refine ⟨?_, fun _ => by rw [hlast]; rfl, fun _ => by rw [hlast]; rfl⟩
    rw [hlast]
    have houtcome := packet_outcome ccuMsg length g₁
    generalize (akbiProcessRxSerialData ccuMsg length g₁).1 = g' at houtcome
    cases houtcome with
    | ready => exact ccuReadyMsg_serial ccuMsg _
    | scanEnd hop | scanned hop | login hop =>
      rw [hready] at hop
      cases hop
    | reported _ hnot => exact absurd hready hnot
  · have hlast : lastSerial (akbiProcessRxSerialData ccuMsg length g₁).1.env.io =
        lastSerial g.env.io := by
      rw [hio, lastSerial_snoc, Io.serial, if_neg hready]
    refine ⟨?_, fun hstate => ?_, fun hhead => ?_⟩
    · rw [hlast, handled_serial hready, ← h.number, ← hlogged]
    · rw [hlast]
      rw [(Ccu.handled ccuMsg length g₁).state] at hstate
      refine h.ready ?_
      cases hpacket : packetState ccuMsg with
      | none =>
        rw [hpacket, ← hlogged] at hstate
        exact hstate
      | some q =>
        rw [hpacket, Option.getD_some] at hstate
        exact absurd (ready_of_packetState (hpacket.trans (congrArg some hstate))) hready
    · rw [hlast]
      refine h.head fun hzero => hhead ?_
      have hkeep := (List.cons.inj (handled_keepsHeader ccuMsg length g₁).header).1
      rw [hkeep, ← hlogged]
      exact hzero

end Numbers

section Steps

end Steps

section Runs

def Device.Around (d : Device) : Prop :=
  (d.setting, d.advertising, d.connected) = (true, false, false) ∨
    (d.setting, d.advertising, d.connected) = (false, true, false) ∨
    (d.setting, d.advertising, d.connected) = (false, false, true)

/-- What a phone finds, and what it reads after a write. -/
structure Found (serial : List Byte) (command : Option Byte) (d : Device) : Prop where
  service : d.bridge.glob.main.serviceCreated = true
  advSerNo : serialBytes d.bridge.glob.main.advSerNo = serial
  advData : ∃ data, d.advData = some data ∧ d.scanRspData = some data ∧
    Ltv.decode data = some (advertised serial) ∧ data.length < 31
  around : d.Around
  header : ∀ bleCmdId, command = some bleCmdId →
    replyHeader d.bridge.glob.main.epReturnMessage = ccuTypeId :: (serial ++ [bleCmdId])

end Runs

end EspBridges.Ccu
