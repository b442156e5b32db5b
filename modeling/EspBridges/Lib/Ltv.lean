import EspBridges.Lib.Bytes

namespace EspBridges.Ltv

open Bytes

abbrev Entry := Byte × List Byte

def encode : List Entry → List Byte
  | [] => []
  | (type, data) :: rest => UInt8.ofNat (data.length + 1) :: type :: (data ++ encode rest)

theorem length_drop_lt (length : Byte) (rest : List Byte) :
    (rest.drop length.toNat).length < (length :: rest).length := by
  rw [List.length_drop, List.length_cons]
  omega

def decode : List Byte → Option (List Entry)
  | [] => some []
  | length :: rest =>
    if length = 0 then some []
    else if length.toNat ≤ rest.length then
      (decode (rest.drop length.toNat)).map
        ((rest.getD 0 0, (rest.take length.toNat).drop 1) :: ·)
    else none
termination_by bytes => bytes.length
decreasing_by exact length_drop_lt length rest

def Fits (entries : List Entry) : Prop := ∀ e ∈ entries, e.2.length < 255

theorem decode_encode (entries : List Entry) (h : Fits entries) :
    decode (encode entries) = some entries := by
  induction entries with
  | nil => rw [encode, decode]
  | cons e rest ih =>
    obtain ⟨type, data⟩ := e
    have hdata : data.length < 255 := h _ (.head _)
    have hlen : (UInt8.ofNat (data.length + 1)).toNat = data.length + 1 := by
      rw [UInt8.toNat_ofNat']
      omega
    have hne : UInt8.ofNat (data.length + 1) ≠ 0 := by
      intro hzero
      rw [hzero] at hlen
      exact absurd hlen (Nat.succ_ne_zero _).symm
    have hroom : data.length + 1 ≤ (type :: (data ++ encode rest)).length := by
      rw [List.length_cons, List.length_append]
      omega
    rw [encode, decode, if_neg hne, hlen, if_pos hroom, List.drop_succ_cons, List.drop_left,
      List.take_succ_cons, List.take_left, ih fun e he => h e (.tail _ he)]
    rfl

end EspBridges.Ltv
