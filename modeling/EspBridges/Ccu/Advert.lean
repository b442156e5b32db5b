import EspBridges.Ccu.Gatts

/-! `main.c`: what the bridge advertises, and the phone that finds it. -/

namespace EspBridges.Ccu

open Bytes

/-- `BLE_ADV_NAME`, which is "Guardian". -/
def bleAdvName : List Byte := [0x47, 0x75, 0x61, 0x72, 0x64, 0x69, 0x61, 0x6E]

def espBtEirTypeFlags : Byte := 0x01

def espBleAdTypeNameCmpl : Byte := 0x09

def espBleAdvFlagGenDisc : Byte := 0x02

def espBleAdvFlagBredrNotSpt : Byte := 0x04

def bleInitAdvData (name : View) : List Byte :=
  let len := name.strlen
  [2, espBtEirTypeFlags, espBleAdvFlagGenDisc ||| espBleAdvFlagBredrNotSpt,
    .ofNat (len + 1), espBleAdTypeNameCmpl] ++ name.bytes len

/-- `adv_full_name`, of which no name fills more than twelve bytes. -/
def nameView (advFullName : Buf 20) : View := ⟨advFullName.rd fun _ => 0, 20, 0⟩

def fullName (advFullName : Buf 20) (advSerNo : Buf 5) : Buf 20 :=
  ((advFullName.memset 0 0 (nameView advFullName).strlen).memcpy 0 (bleAdvName.getD · 0)
    bleAdvName.length).memcpy bleAdvName.length (advSerNo.rd fun _ => 0) advSerNoSize

/-- The bridge, and what it has told the Bluetooth stack: the data of its advertisements, whether
the stack has still to report that they are set, and whether to advertise.  A connection ends that. -/
structure Device where
  bridge : Bridge
  advFullName : Buf 20
  advData : Option (List Byte)
  scanRspData : Option (List Byte)
  setting : Bool
  advertising : Bool
  connected : Bool

def Device.boot : Device := ⟨.boot, Buf.zero, none, none, false, false, false⟩

inductive DeviceEvent where
  | bridge (e : Event)
  | connect

def Device.allows (d : Device) : Action → Bool
  | .advDataSet => d.setting
  | .updateConnParams | .gattRead | .gattWrite .. | .gattDisconnect => d.connected
  | .regEvt | .byteReceived _ | .timerExpiry => true

def Device.follow (d : Device) (b : Bridge) : Action → Device
  | .regEvt =>
    if b.glob.main.serviceCreated then
      let name := fullName d.advFullName b.glob.main.advSerNo
      { d with
        bridge := b
        advFullName := name
        advData := some (bleInitAdvData (nameView name))
        scanRspData := some (bleInitAdvData (nameView name))
        setting := true }
    else { d with bridge := b }
  | .advDataSet => { d with bridge := b, setting := false, advertising := true }
  | .gattDisconnect => { d with bridge := b, advertising := true, connected := false }
  | .updateConnParams | .gattRead | .gattWrite .. | .byteReceived _ | .timerExpiry =>
    { d with bridge := b }

def Device.step (d : Device) : DeviceEvent → Option Device
  | .connect =>
    if d.advertising then some { d with advertising := false, connected := true } else none
  | .bridge e =>
    if d.allows e.action then (Ccu.step d.bridge e).map (d.follow · e.action) else none

end EspBridges.Ccu
