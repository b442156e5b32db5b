import EspBridges.Ccu.Fsm

/-! `akbi_ccu_msg_handler.c`: the handler of the packets the CCU sends. -/

namespace EspBridges.Ccu

open Bytes

/-- Walks the three TLVs of `CCU_READY`, following their length bytes. -/
def ccuReadyMsg (ccuMsg : Buf 500) (g : Globals) : Globals :=
  let rd := ccuMsg.rd (g.env.wild.byte .serialRxData)
  let lengthInMsg := (rd 4).toNat
  let firmwareVersion : Buf 10 := Buf.zero.memcpy 0 (fun i => rd (5 + i)) lengthInMsg
  let p := 3 + 2 + lengthInMsg
  let serialLength := (rd (p + 1)).toNat
  let ccuSerialNo : Buf 20 := Buf.zero.memcpy 0 (fun i => rd (p + 2 + i)) serialLength
  let p' := p + 2 + serialLength
  let postLength := (rd (p' + 1)).toNat
  let postResult := if 0 < postLength then rd (p' + 2) else g.handler.postResult
  { g with
    main.firmwareVersion := firmwareVersion
    main.ccuSerialNo := ccuSerialNo
    handler.postResult := postResult
    env.oob := g.env.oob || !(lengthInMsg ≤ 10 && serialLength ≤ 20 && postLength ≤ 1 &&
      p' + 2 + postLength ≤ 500) }

def apNameRow (g : Globals) (row : Nat) : View :=
  ⟨fun i => g.handler.wifiScanReport.apName.rd (g.env.wild.byte .apName) (100 * row + i),
    2000 - 100 * row, g.env.wild.run .apName⟩

/-- One scanned SSID, with the two workarounds for bytes the serial driver has altered.  The
first rewrites the length byte of the packet itself. -/
def scanWifiResultMsg (ccuMsg : Buf 500) (g : Globals) : Globals × Buf 500 :=
  let type := ccuMsg 3
  let g := if type = 1 then { g with handler.wifiScanReport := ⟨0, Buf.zero⟩ } else g
  let g := g.setRet bleRetMsgRcOffset wifiScanningInProgress
  let ccuMsg := if ccuMsg 4 = 0x0a ∧ ccuMsg 16 ≠ 0 then ccuMsg.put 4 0x0d else ccuMsg
  let index := if type = 0x0a ∧ (apNameRow g 0x0b).strlen ≠ 0 then 0x0d else type.toNat
  let length := (ccuMsg 4).toNat
  let payload := ccuMsg.rd (g.env.wild.byte .serialRxData)
  let g := { g with
    handler.wifiScanReport.apName := g.handler.wifiScanReport.apName.memcpy (100 * (index - 1))
      (fun i => payload (5 + i)) length
    env.oob := g.env.oob || !(index ≤ 20 && length ≤ 100 && 5 + length ≤ 500) }
  let g := saveSsids (apNameRow g (index - 1)) (index - 1) length g
  ({ g with handler.wifiScanReport.apCount := g.handler.wifiScanReport.apCount + 1 }, ccuMsg)

def scanCompleteMsg (g : Globals) : Globals :=
  let g := (g.akbiSetFsmState .wifiScanComplete).setRet bleRetMsgRcOffset success
  g.setRet bleRetMsgScannedSsidCountOffset (UInt8.ofNat g.handler.wifiScanReport.apCount)

def loginStatusMsg (code : Byte) (g : Globals) : Globals :=
  let g := g.akbiSetFsmState .loginStatus
  let postResult := g.handler.postResult
  if code = success then
    let g := g.setRet bleRetMsgDataTypeOffset postResult
    if postResult ≠ allSuccessPostValue then
      (g.setRet bleRetMsgRcOffset bleRetPostDataError).setRet (bleRetMsgRcOffset + 1) postResult
    else
      let version := g.main.firmwareVersion.view g.env.wild .firmwareVersion
      ({ g with
        main.epReturnMessage := g.main.epReturnMessage.memcpy bleRetMsgFirmwareVersionOffset
          version.byte version.strlen
        env.oob := g.env.oob || !(version.strlen < 10) }).setRet bleRetMsgRcOffset success
  else if code = errorLoginPasswordMismatch then
    g.setRet bleRetMsgRcOffset errorLoginPasswordMismatch
  else if code = errorCcuLocked then g.setRet bleRetMsgRcOffset errorCcuLocked
  else g

/-- `SELECT_A_WIFI_RESULT` and `WIFI_CONNECT_COMPLETED` have the same body. -/
def wifiResultMsg (code : Byte) (g : Globals) : Globals :=
  let g := g.akbiSetFsmState .wifiConnectComplete
  if code = serverConnected then g.setRet bleRetMsgRcOffset 0x00
  else if code = inetConnected then g.setRet bleRetMsgRcOffset 0x30
  else if code = wifiConnected then g.setRet bleRetMsgRcOffset 0x31
  else if code = notConnected then g.setRet bleRetMsgRcOffset 0x33
  else if code = pairedWifiUnreachable then g.setRet bleRetMsgRcOffset 0x34
  else g

def cfgSaved (received : CcuFsmStates) (failure code : Byte) (g : Globals) : Globals :=
  let g := g.akbiSetFsmState received
  if code = 0 then g.setRet bleRetMsgRcOffset failure
  else if code = 0x01 then g.setRet bleRetMsgRcOffset 0
  else g

def cfgParamsSaveStatusMsg (type code : Byte) (g : Globals) : Globals :=
  let g := if type = tlvTypeStoredCfgEmerNum2 ∨ type = tlvTypeStoredCfgEmerNum3
    then cfgSaved .setEmerNumReceived 0x0B code g else g
  let g := if type = tlvTypeStoredCfgPersonalNum2 ∨ type = tlvTypeStoredCfgPersonalNum3
    then cfgSaved .setPersonalNumReceived 0x0C code g else g
  if type = tlvTypeStoredCfgLocalNum1 ∨ type = tlvTypeStoredCfgLocalNum2
  then cfgSaved .cfgSetHelpNumReceived 0x1C code g else g

def changePasswordStatusMsg (code : Byte) (g : Globals) : Globals :=
  if code = 0x06 then
    (g.akbiSetFsmState .changePasswdComplete).setRet bleRetMsgRcOffset 0x09
  else if code = 0x00 then
    (g.akbiSetFsmState .changePasswdComplete).setRet bleRetMsgRcOffset success
  else g

def forgotPasswordMsg (code : Byte) (g : Globals) : Globals :=
  if code = 0x07 then
    (g.akbiSetFsmState .forgotPasswdResult).setRet bleRetMsgRcOffset 0x07
  else g

def relayCode (completed : CcuFsmStates) (code : Byte) (g : Globals) : Globals :=
  (g.akbiSetFsmState completed).setRet bleRetMsgRcOffset code

def uploadTripInfoStatusMsg (code : Byte) (g : Globals) : Globals :=
  let g := g.akbiSetFsmState .tripInfoUploadComplete
  if code = 0x0f then g.setRet bleRetMsgRcOffset success
  else g.setRet bleRetMsgRcOffset errorInfoNotUploaded

/-- The `switch`; `length` is a parameter of the C function that its body never reads.  The
second component is the packet buffer as the function leaves it. -/
def akbiProcessRxSerialData (ccuMsg : Buf 500) (_length : Nat) (g : Globals) :
    Globals × Buf 500 :=
  let type := ccuMsg 3
  let code := ccuMsg 5
  match RxOpcode.ofByte? (ccuMsg 0) with
  | some .ccuReady => (ccuReadyMsg ccuMsg (g.akbiSetFsmState .ccuReady), ccuMsg)
  | some .scanWifiResult =>
    if type = 0 then (scanCompleteMsg g, ccuMsg) else scanWifiResultMsg ccuMsg g
  | some .loginStatus => (loginStatusMsg code g, ccuMsg)
  | some .selectAWifiResult => (wifiResultMsg code g, ccuMsg)
  | some .wifiConnectCompleted => (wifiResultMsg code g, ccuMsg)
  | some .disconnectFromWifiStatus => (relayCode .wifiDisconnectComplete code g, ccuMsg)
  | some .cfgParamsSaveStatus => (cfgParamsSaveStatusMsg type code g, ccuMsg)
  | some .changePasswordStatus => (changePasswordStatusMsg code g, ccuMsg)
  | some .forgotPassword => (forgotPasswordMsg code g, ccuMsg)
  | some .updateCcuSwStatus =>
    let g := relayCode .fwUpgradeComplete code g
    (if type = tlvTypeUpdateFwReboot then g.abort else g, ccuMsg)
  | some .wifiSetModeStatus => (relayCode .wifiModeSetComplete code g, ccuMsg)
  | some .recordPersonalVoiceMsgStatus => (relayCode .voiceRecordingComplete code g, ccuMsg)
  | some .addressVisitingStatus => (relayCode .cfgSetAddressComplete code g, ccuMsg)
  | some .requestRebootStatus => ((relayCode .fwRebootMsgAcknowledged code g).abort, ccuMsg)
  | some .uploadTripInfoStatus => (uploadTripInfoStatusMsg code g, ccuMsg)
  | some .ccuActivateStatus => (relayCode .activateComplete code g, ccuMsg)
  | some .stopBleAdvCmd => (g, ccuMsg)
  | none => (g, ccuMsg)

end EspBridges.Ccu
