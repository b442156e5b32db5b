import EspBridges.Ccu.Frames

namespace EspBridges.Ccu

open Bytes

/-- `voice_data_buffer[row]` as the raw-frame builders receive it. -/
def voiceDataRow (g : Globals) (row : Nat) : View :=
  ⟨fun i => g.ble.voice.voiceDataBuffer.rd (g.env.wild.byte .voiceDataBuffer) (256 * row + i), 256,
    g.env.wild.run .voiceDataBuffer⟩

def setChunker (u : AudioUpload) (c : Chunker) (g : Globals) : Globals :=
  { g with ble.voice.chunker := fun v => if v = u then c else g.ble.voice.chunker v }

def storeAudio (u : AudioUpload) (data : View) (g : Globals) : Globals :=
  let c := g.ble.voice.chunker u
  { g with
    ble.voice.voiceDataBuffer := g.ble.voice.voiceDataBuffer.memcpy
      (256 * c.bufferNumber + c.chunkOffset) (data.shift 4).byte 16
    env.oob := g.env.oob || !(c.bufferNumber < 4 && c.chunkOffset + 16 ≤ 256 && 20 ≤ data.room) }

/-- The common body of the two functions below, which differ in their statics and in the
frame they send.  `voice_message_length` is a non-negative `int`. -/
def storeAndSend (u : AudioUpload) (raw : View → Nat → Byte → Wild Obj → Tx)
    (data : View) (audioNumber : Byte) (voiceMessageLength : Nat) (g : Globals) : Globals :=
  let c := g.ble.voice.chunker u
  let g := storeAudio u data g
  let receivedAudioSize := (c.receivedAudioSize + 16) % 2 ^ 32
  let chunkOffset := c.chunkOffset + 16
  if voiceMessageLength ≤ receivedAudioSize then
    let chunkOffset := chunkOffset - (16 - voiceMessageLength % 16)
    setChunker u ⟨0, 0, 0⟩
      (g.transmit (raw (voiceDataRow g c.bufferNumber) chunkOffset audioNumber))
  else if 256 ≤ chunkOffset then
    setChunker u ⟨0, (c.bufferNumber + 1) % voiceDataBufferNum, receivedAudioSize⟩
      (g.transmit (raw (voiceDataRow g c.bufferNumber) chunkOffset audioNumber))
  else
    setChunker u ⟨chunkOffset, c.bufferNumber, receivedAudioSize⟩ g

def storeAndSendAddressVisitingAudioData : View → Byte → Nat → Globals → Globals :=
  storeAndSend .addressVisiting ccuSentAddressVisitingRaw

def storeAndSendVoiceData : View → Byte → Nat → Globals → Globals :=
  storeAndSend .recordVoice ccuSentRecordVoiceMsgRaw

def executeRecordPersonalVoiceMsgNew (msg : View) (g : Globals) : Globals :=
  let voiceMsgIndex := msg.byte 3
  if g.ble.voice.flagSendingVoiceData then
    if voiceMsgIndex = 0x08 then
      (({ g with ble.voice.flagSendingVoiceData := false }).setRet bleRetMsgRcOffset success
        ).akbiSetFsmState .voiceRecordingComplete
    else
      storeAndSendVoiceData msg voiceMsgIndex g.ble.voice.recordMessageLength g
  else
    let voiceMsgTlvLength := voiceMsgIndex
    let voiceMsgIndex := msg.byte 4
    match voiceMsgTlvLength with
    | 0x03 =>
      let length := (msg.byte 5).toNat * 100 + (msg.byte 6).toNat
      ({ g with
          ble.voice.recordMessageLength := length
          ble.voice.flagSendingVoiceData := true }).transmit
        (ccuSentRecordVoiceMsg voiceMsgIndex length)
    | 0x04 =>
      let length := (msg.byte 5).toNat * 1000 + (msg.byte 6).toNat * 10 + (msg.byte 7).toNat
      ({ g with
          ble.voice.recordMessageLength := length
          ble.voice.flagSendingVoiceData := true }).transmit
        (ccuSentRecordVoiceMsg voiceMsgIndex length)
    | _ => g

def executeStoreAddressVisitingNew (msg : View) (g : Globals) : Globals :=
  let voiceMsgIndex := msg.byte 3
  match voiceMsgIndex with
  | 0x00 =>
    let timeStamp := g.ble.voice.visitingTimeStamp.memcpy 0 (msg.shift 4).byte timestampSize
    (({ g with ble.voice.visitingTimeStamp := timeStamp }).setRet bleRetMsgRcOffset success
      ).transmit (fun w => ccuSentAddressVisiting (timeStamp.view w .timeStamp)
        g.ble.voice.visitingMessageLength w)
  | 0x01 =>
    storeAndSendAddressVisitingAudioData msg voiceMsgIndex g.ble.voice.visitingMessageLength g
  | 0x03 =>
    { g with ble.voice.visitingMessageLength := (msg.byte 5).toNat * 100 + (msg.byte 6).toNat }
  | 0x04 =>
    { g with
      ble.voice.visitingMessageLength :=
        (msg.byte 5).toNat * 1000 + (msg.byte 6).toNat * 10 + (msg.byte 7).toNat }
  | 0x08 => (g.setRet bleRetMsgRcOffset success).akbiSetFsmState .voiceRecordingComplete
  | _ => g

end EspBridges.Ccu
