import EspBridges.Modbus.Reply

namespace EspBridges.Modbus

open Bytes Icom Cells

/-- The types of this build leave the order of the bytes as it is. -/
def ntohl (x : UInt32) : UInt32 := x

def htonl (x : UInt32) : UInt32 := x

def bswap16 (x : UInt16) : UInt16 := (x >>> 8) ||| (x <<< 8)

def bswap32 (x : UInt32) : UInt32 :=
  ((bswap16 (x &&& 0xFFFF).toUInt16).toUInt32 <<< 16) ||| (bswap16 (x >>> 16).toUInt16).toUInt32

abbrev Words := UInt16 × UInt16

def modbusGetFloatAbcd (src : Words) : UInt32 := ntohl ((src.1.toUInt32 <<< 16) + src.2.toUInt32)

def modbusGetFloatDcba (src : Words) : UInt32 :=
  ntohl (bswap32 ((src.1.toUInt32 <<< 16) + src.2.toUInt32))

def modbusGetFloatBadc (src : Words) : UInt32 :=
  ntohl (((bswap16 src.1).toUInt32 <<< 16) + (bswap16 src.2).toUInt32)

def modbusGetFloatCdab (src : Words) : UInt32 := ntohl ((src.2.toUInt32 <<< 16) + src.1.toUInt32)

def modbusGetFloat (src : Words) : UInt32 := (src.2.toUInt32 <<< 16) + src.1.toUInt32

def modbusSetFloatAbcd (f : UInt32) : Words :=
  let i := htonl f
  ((i >>> 16).toUInt16, i.toUInt16)

def modbusSetFloatDcba (f : UInt32) : Words :=
  let i := bswap32 (htonl f)
  ((i >>> 16).toUInt16, i.toUInt16)

def modbusSetFloatBadc (f : UInt32) : Words :=
  let i := htonl f
  (bswap16 (i >>> 16).toUInt16, bswap16 (i &&& 0xFFFF).toUInt16)

def modbusSetFloatCdab (f : UInt32) : Words :=
  let i := htonl f
  (i.toUInt16, (i >>> 16).toUInt16)

def modbusSetFloat (f : UInt32) : Words := (f.toUInt16, (f >>> 16).toUInt16)

def modbusGetByteFromBits (src : List Byte) (idx : Int) (nbBits : Nat) : Option Byte :=
  (block src idx (min nbBits 8)).map fun bits =>
    (List.range (min nbBits 8)).foldl (fun value i => value ||| (bits.getD i 0 <<< .ofNat i)) 0

end EspBridges.Modbus
