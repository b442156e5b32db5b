import EspBridges.Lib.Bytes

namespace EspBridges.Tlv

open Bytes

abbrev Entry := Byte × List Byte

def encode : List Entry → List Byte
  | [] => []
  | (type, value) :: rest => type :: UInt8.ofNat value.length :: (value ++ encode rest)

theorem length_drop_lt (type length : Byte) (rest : List Byte) :
    (rest.drop length.toNat).length < (type :: length :: rest).length := by
  rw [List.length_drop, List.length_cons, List.length_cons]
  omega

/-- Every entry starts where the one before it ends, and the last one ends the list. -/
def decode : List Byte → Option (List Entry)
  | [] => some []
  | [_] => none
  | type :: length :: rest =>
    if length.toNat ≤ rest.length then
      (decode (rest.drop length.toNat)).map ((type, rest.take length.toNat) :: ·)
    else none
termination_by bytes => bytes.length
decreasing_by exact length_drop_lt type length rest

def Fits (entries : List Entry) : Prop := ∀ e ∈ entries, e.2.length < 256

theorem decode_encode (entries : List Entry) (h : Fits entries) :
    decode (encode entries) = some entries := by
  induction entries with
  | nil => rw [encode, decode]
  | cons e rest ih =>
    obtain ⟨type, value⟩ := e
    have hlen : (UInt8.ofNat value.length).toNat = value.length := by
      have hvalue : value.length < 256 := h _ (.head _)
      rw [UInt8.toNat_ofNat']
      omega
    rw [encode, decode, hlen, if_pos (by simp), List.drop_left, List.take_left,
      ih fun e he => h e (.tail _ he)]
    rfl

end EspBridges.Tlv
