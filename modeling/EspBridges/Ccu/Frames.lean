import EspBridges.Ccu.State

namespace EspBridges.Ccu

open Bytes

structure Tx where
  pData : View
  length : Nat
  ok : Bool

/-- The bytes `send_uart_message` writes, through its 500-byte `serial_tx_data`. -/
def Tx.frame (t : Tx) (w : Wild Obj) : List Byte :=
  (((Buf.zero : Buf 500).memcpy 0 t.pData.byte t.length).view w .serialTxData).bytes t.length

def Globals.sendUartMessage (t : Tx) (g : Globals) : Globals :=
  { g with
    env.io := g.env.io ++ [.tx (t.frame g.env.wild)]
    env.oob := g.env.oob || !(t.ok && t.length ≤ t.pData.room && t.length ≤ 500) }

def Globals.transmit (msg : Wild Obj → Tx) (g : Globals) : Globals :=
  g.sendUartMessage (msg g.env.wild)

def uninitialised (w : Wild Obj) (o : Obj) : Buf n := fun j => w.byte o j.val

/-- The packed `BT_CP_PROTOCOL_HDR`, with `trans_id = 44`. -/
def protocolHdr (tx : Buf n) (opcode type length : Byte) : Buf n :=
  ((((tx.put 0 opcode).put 1 44).put 2 0).put 3 type).put 4 length

def put32 (tx : Buf n) (off v : Nat) : Buf n :=
  (((tx.put off (UInt8.ofNat v)).put (off + 1) (UInt8.ofNat (v / 256))).put (off + 2)
    (UInt8.ofNat (v / 65536))).put (off + 3) (UInt8.ofNat (v / 16777216))

def View.ofTx (tx : Buf n) (w : Wild Obj) : View := tx.view w .pTxBuffer

def ccuSendRegMsgNew (type : Byte) (receivedValueBuffer : View) (dataLen : Nat)
    (w : Wild Obj) : Tx :=
  let length := dataLen % 256
  let tx : Buf 25 := protocolHdr Buf.zero btCpOpcodeCidRegister type (UInt8.ofNat dataLen)
  let tx := tx.memcpy 5 receivedValueBuffer.byte length
  ⟨View.ofTx tx w, 5 + length, 5 + length ≤ 25 && length ≤ receivedValueBuffer.room⟩

def ccuSendLoginMsg (password : View) (dataLen : Nat) (timeStamp : View) (w : Wild Obj) : Tx :=
  let length := dataLen % 256
  let tx : Buf 25 :=
    protocolHdr (uninitialised w .pTxBuffer) btCpOpcodeCidLogin 0 (UInt8.ofNat dataLen)
  let tx := tx.memcpy 5 password.byte length
  let tx := (tx.put (5 + length) tlvTypeLoginTimestamp).put (6 + length) (UInt8.ofNat timestampSize)
  let tx := tx.memcpy (7 + length) timeStamp.byte timestampSize
  ⟨View.ofTx tx w, 5 + length + 2 + timestampSize,
    length ≤ password.room && timestampSize ≤ timeStamp.room && 7 + length + timestampSize ≤ 25⟩

def headerOnlyMsg (size : Nat) (opcode : Byte) (w : Wild Obj) : Tx :=
  let tx : Buf size := protocolHdr (uninitialised w .pTxBuffer) opcode 0 0
  ⟨View.ofTx tx w, 5, 5 ≤ size⟩

def ccuSentScanAllWifiMsg : Wild Obj → Tx := headerOnlyMsg 25 btCpOpcodeCidScanWifis

def ccuSentConfigureWifiCredentials (apId : Byte) (pPasswd : View) (w : Wild Obj) : Tx :=
  let len := pPasswd.strlen
  let tx : Buf 100 := protocolHdr Buf.zero btCpOpcodeCidSelectAWifi tlvTypeWifiApId 1
  let tx := ((tx.put 5 apId).put 6 tlvTypeWifiPasswdName).put 7 (UInt8.ofNat len)
  let tx := tx.memcpy 8 pPasswd.byte len
  let length := 5 + 1 + 2 + len
  let tx := tx.put length 0
  ⟨View.ofTx tx w, length, len < pPasswd.room && length < 100⟩

def ccuSentConnectToWifi (timestamp : View) (w : Wild Obj) : Tx :=
  let length := timestamp.strlen % 256
  let tx : Buf 20 := protocolHdr (uninitialised w .pTxBuffer) btCpOpcodeCidConnectToWifi
    tlvTypeTimestamp (UInt8.ofNat timestamp.strlen)
  let tx := tx.memcpy 5 timestamp.byte timestampSize
  ⟨View.ofTx tx w, 5 + length, timestamp.strlen < timestamp.room && timestampSize ≤ timestamp.room⟩

def ccuSentDisconnectFromWifi : Wild Obj → Tx := headerOnlyMsg 20 btCpOpcodeCidDisconnectFromWifi

def ccuSentUserForgotPasswdMsg : Wild Obj → Tx := headerOnlyMsg 20 btCpOpcodeCidForgotPassword

def ccuSentUserChangePasswdMsg (pPasswordCurrent pPasswordNew : View) (w : Wild Obj) : Tx :=
  let lenCurrent := pPasswordCurrent.strlen
  let lenNew := pPasswordNew.strlen
  let tx : Buf 100 := protocolHdr Buf.zero btCpOpcodeCidChangePassword tlvTypeCurrentPasswd
    (UInt8.ofNat lenCurrent)
  let tx := tx.memcpy 5 pPasswordCurrent.byte lenCurrent
  let tx := (tx.put (5 + lenCurrent) tlvTypeNewPasswd).put (6 + lenCurrent) (UInt8.ofNat lenNew)
  let tx := tx.memcpy (7 + lenCurrent) pPasswordNew.byte lenNew
  ⟨View.ofTx tx w, 5 + lenCurrent + 2 + lenNew,
    lenCurrent < pPasswordCurrent.room && lenNew < pPasswordNew.room &&
      7 + lenCurrent + lenNew ≤ 100⟩

def ccuSentRecordVoiceMsg (voiceMsgIndex : Byte) (voiceMsgLength : Nat) (w : Wild Obj) : Tx :=
  let tx : Buf 25 := protocolHdr Buf.zero btCpOpcodeCidRecordPersonalVoiceMsg tlvTypePersonalVoice 0
  let tx := put32 (tx.put 5 voiceMsgIndex) 6 voiceMsgLength
  ⟨View.ofTx tx w, 5 + 0 + 5, true⟩

def rawAudioMsg (opcode : Byte) (voiceData : View) (chunkLength : Nat) (audioNumber : Byte)
    (w : Wild Obj) : Tx :=
  let tx : Buf 270 := protocolHdr (uninitialised w .pTxBuffer) opcode tlvTypeVoiceMsgRawData 0
  let tx := put32 (tx.put 5 audioNumber) 6 chunkLength
  let tx := tx.memcpy 10 voiceData.byte chunkLength
  ⟨View.ofTx tx w, 5 + chunkLength + 5, 10 + chunkLength ≤ 270 && chunkLength ≤ voiceData.room⟩

def ccuSentRecordVoiceMsgRaw : View → Nat → Byte → Wild Obj → Tx :=
  rawAudioMsg btCpOpcodeCidRecordPersonalVoiceMsg

def ccuSentAddressVisitingRaw : View → Nat → Byte → Wild Obj → Tx :=
  rawAudioMsg btCpOpcodeCidAddressVisiting

/-- A number relayed from the whole message: length at byte 4, digits from byte 5.  The type
byte keeps what the buffer held when `type` has no value for it. -/
def numberMsg (opcode : Byte) (type : Option Byte) (receivedValueBuffer : View)
    (w : Wild Obj) : Tx :=
  let length := receivedValueBuffer.byte 4
  let tx : Buf 20 := protocolHdr (uninitialised w .pTxBuffer) opcode
    (type.getD (w.byte .pTxBuffer 3)) length
  let tx := tx.memcpy 5 (receivedValueBuffer.shift 5).byte length.toNat
  ⟨View.ofTx tx w, 5 + length.toNat,
    5 + length.toNat ≤ 20 && 5 + length.toNat ≤ receivedValueBuffer.room⟩

def ccuSentStoreEmergencyNumberMsg (receivedValueBuffer : View) : Wild Obj → Tx :=
  let type := match receivedValueBuffer.byte 3 with
    | 1 => some tlvTypeEmergencyNumber2
    | 2 => some tlvTypeEmergencyNumber3
    | _ => none
  numberMsg btCpOpcodeCidStoreEmergencyNumbers type receivedValueBuffer

def ccuSentStorePersonalNumberMsg (receivedValueBuffer : View) : Wild Obj → Tx :=
  let type := match receivedValueBuffer.byte 3 with
    | 0 => some tlvTypePersonalNumber1
    | 1 => some tlvTypePersonalNumber2
    | 2 => some tlvTypePersonalNumber3
    | _ => none
  numberMsg btCpOpcodeCidStorePersonalNumbers type receivedValueBuffer

def ccuSentStoreLocalHelpNumberMsg (receivedValueBuffer : View) : Wild Obj → Tx :=
  numberMsg btCpOpcodeCidEnterLocalHelpNumbers (some (receivedValueBuffer.byte 3)) receivedValueBuffer

def ccuSentAddressVisiting (timestamp : View) (voiceMsgLength : Nat) (w : Wild Obj) : Tx :=
  let tx : Buf 25 := protocolHdr Buf.zero btCpOpcodeCidAddressVisiting tlvTypeAddressVisitingVoice 0
  let tx := put32 (tx.put 5 0x01) 6 voiceMsgLength
  let tx := (tx.put 10 tlvTypeAddressVisitingTimestamp).put 11 (UInt8.ofNat timestampSize)
  let tx := tx.memcpy 12 timestamp.byte timestampSize
  ⟨View.ofTx tx w, 5 + 0 + 5 + 2 + timestampSize, timestampSize ≤ timestamp.room⟩

def ccuSentActivateSystemMsg (pLatitude pLongitude timestamp : View) (w : Wild Obj) : Tx :=
  let lenLat := pLatitude.strlen
  let lenLong := pLongitude.strlen
  let tx : Buf 100 := protocolHdr Buf.zero btCpOpcodeCidCcuActivate tlvTypeActivateLatString
    (UInt8.ofNat lenLat)
  let tx := tx.memcpy 5 pLatitude.byte lenLat
  let p := 5 + lenLat
  let tx := (tx.put p tlvTypeActivateLongString).put (p + 1) (UInt8.ofNat lenLong)
  let tx := tx.memcpy (p + 2) pLongitude.byte lenLong
  let p := p + lenLong + 2
  let tx := (tx.put p tlvTypeActivateTimestampString).put (p + 1) (UInt8.ofNat timestampSize)
  let tx := tx.memcpy (p + 2) timestamp.byte timestampSize
  let length := 5 + lenLat + 2 + lenLong + 2 + timestampSize
  let tx := tx.put length 0
  ⟨View.ofTx tx w, length, lenLat < pLatitude.room && lenLong < pLongitude.room &&
    timestampSize ≤ timestamp.room && length < 100⟩

def ccuSentUpdateSwMsg (timestamp : View) (w : Wild Obj) : Tx :=
  let tx : Buf 20 := protocolHdr (uninitialised w .pTxBuffer) btCpOpcodeCidUpdateCcuSw
    tlvTypeTimestamp (UInt8.ofNat timestampSize)
  let tx := tx.memcpy 5 timestamp.byte timestampSize
  ⟨View.ofTx tx w, 5 + timestampSize, timestampSize ≤ timestamp.room⟩

def ccuSentRebootCcuMsg : Wild Obj → Tx := headerOnlyMsg 20 btCpOpcodeCidRequestReboot

def ccuSentWifiSetMode (wifiMode : Byte) (w : Wild Obj) : Tx :=
  let tx : Buf 20 := protocolHdr (uninitialised w .pTxBuffer) btCpOpcodeCidWifiSetMode 0 0x01
  ⟨View.ofTx (tx.put 5 wifiMode) w, 5 + 1, true⟩

def ccuSentUploadTripInfo : Wild Obj → Tx := headerOnlyMsg 20 btCpOpcodeCidUploadTripInfo

def ccuSentAdvStartedMsg : Wild Obj → Tx := headerOnlyMsg 20 btCpOpcodeAdvStartedMsg

def ccuSentMobConnectedMsg : Wild Obj → Tx := headerOnlyMsg 20 btCpOpcodeMobConnectedMsg

def ccuSentMobDisconnectedMsg : Wild Obj → Tx := headerOnlyMsg 20 btCpOpcodeMobDisconnectedMsg

end EspBridges.Ccu
