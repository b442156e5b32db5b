import EspBridges.Ccu.Audio
import EspBridges.Ccu.Fsm

/-! `ble_apis.c`: `read_ble_message` and the handlers of its 18 commands.  The caller passes
its reply buffer `ep_return_message` as `i_ret_msg`, so both names are one object here. -/

namespace EspBridges.Ccu

open Bytes

def setRecvdMsgPointer (receivedValueBuffer : Nat) (g : Globals) : Globals :=
  { g with ble.pRecvdMsgFull := receivedValueBuffer, ble.flagSetRecvdMsgPtr := true }

/-- The message buffer `p_recvd_msg_full` points to, which the first call set for good. -/
def recvdMsgFull (g : Globals) : View :=
  (g.env.mem g.ble.pRecvdMsgFull).view g.env.wild .rxPktBuffer

def saveGroupMessages (receivedValueBuffer : View) (typeId : Nat) (g : Globals) : Globals :=
  { g with
    ble.savedMessages :=
      g.ble.savedMessages.memcpy (21 * (typeId - 1)) receivedValueBuffer.byte bleMessageSize }

def savedData (g : Globals) (row : Nat) : View :=
  ⟨fun i => g.ble.savedMessages.rd (g.env.wild.byte .savedMessages) (21 * row + 5 + i), 16, 0⟩

def savedLen (g : Globals) (row : Nat) : Nat :=
  (g.ble.savedMessages.rd (g.env.wild.byte .savedMessages) (21 * row + 4)).toNat

def savedString (g : Globals) (size row len : Nat) : Buf size :=
  Buf.zero.memcpy 0 (savedData g row).byte len

def localCopy (src : View) (len : Nat) (w : Wild Obj) : View :=
  ⟨fun i => if i < len then src.byte i else w.byte .iDataValue i, len, w.run .iDataValue⟩

def executeRegister (iCmd : View) (g : Globals) : Globals :=
  let dataType := iCmd.byte 0
  let dataLenInBle := (iCmd.byte 1).toNat
  let g := g.setRet bleRetMsgDataTypeOffset dataType
  let relay (type : Byte) : Globals :=
    (g.setRet bleRetMsgRcOffset success).transmit
      (ccuSendRegMsgNew type (iCmd.shift 2) dataLenInBle)
  match dataType with
  | didRegisterPassword => relay tlvTypeRegisterPassword
  | didRegisterMobNo => relay tlvTypeRegisterMobNum
  | didRegisterMobName => relay tlvTypeRegisterMobName
  | didRegisterAndroidIdOrUuid =>
    (g.setRet bleRetMsgRcOffset success).transmit
      (ccuSendRegMsgNew tlvTypeRegisterUniqueId (iCmd.shift 1) androidIdOrUuidSize)
  | didRegisterLat => relay tlvTypeRegisterLatString
  | didRegisterLong => relay tlvTypeRegisterLongString
  | didRegisterMobFwVer => relay tlvTypeMobileFwVersion
  | didRegisterRegDate => relay tlvTypeRegisterTimestamp
  | _ => g.setRet bleRetMsgRcOffset errorUnrecognizedData

def loginPart (size : Nat) (iCmd : View) : Buf size :=
  Buf.zero.memcpy 0 (iCmd.shift 2).byte (iCmd.byte 1).toNat

def executeLogin (iCmd : View) (g : Globals) : Globals :=
  let dataType := iCmd.byte 0
  let dataLenInBle := (iCmd.byte 1).toNat
  match dataType with
  | 0x01 =>
    ({ g with ble.login.iPwd := loginPart 20 iCmd }.setRet bleRetMsgRcOffset success).access
      (dataLenInBle ≤ 20 && 2 + dataLenInBle ≤ iCmd.room)
  | 0x02 =>
    ({ g with ble.login.timestamp := loginPart 15 iCmd }.setRet bleRetMsgRcOffset success).access
      (dataLenInBle ≤ 15 && 2 + dataLenInBle ≤ iCmd.room)
  | 0x03 =>
    ({ g with ble.login.latitude := loginPart 15 iCmd }.setRet bleRetMsgRcOffset success).access
      (dataLenInBle ≤ 15 && 2 + dataLenInBle ≤ iCmd.room)
  | 0x04 =>
    let g := { g with ble.login.longitude := loginPart 15 iCmd }.access
      (dataLenInBle ≤ 15 && 2 + dataLenInBle ≤ iCmd.room)
    let iPwd := g.ble.login.iPwd.view g.env.wild .iPwd
    ((g.akbiSetFsmState .login).access (iPwd.strlen < 20)).transmit fun w =>
      ccuSendLoginMsg iPwd iPwd.strlen (g.ble.login.timestamp.view w .timestamp) w
  | _ => g

def executeForgotPassword (g : Globals) : Globals :=
  (g.akbiSetFsmState .forgotPasswd).transmit ccuSentUserForgotPasswdMsg

def executeChangePassword (iCmd : View) (g : Globals) : Globals :=
  let dataType := iCmd.byte 0
  let dataLenInBle := (iCmd.byte 1).toNat
  let g := g.access (2 + dataLenInBle ≤ iCmd.room)
  let g := g.setRet bleRetMsgDataTypeOffset dataType
  match dataType with
  | didChangePasswordCurrent =>
    saveGroupMessages (recvdMsgFull g) 1
      ((g.setRet bleRetMsgRcOffset success).akbiSetFsmState .init)
  | didChangePasswordNew =>
    let g := saveGroupMessages (recvdMsgFull g) 2 g
    let pPasswordCurrent : Buf 20 := savedString g 20 0 (savedLen g 0)
    let pPasswordNew : Buf 20 := savedString g 20 1 (savedLen g 1)
    (g.access (savedLen g 0 ≤ 16 && savedLen g 1 ≤ 16)).transmit fun w =>
      ccuSentUserChangePasswdMsg (pPasswordCurrent.view w .pPasswordCurrent)
        (pPasswordNew.view w .pPasswordNew) w
  | _ => g.setRet bleRetMsgRcOffset errorUnrecognizedData

def executeStoreEmergencyNumber (iCmd : View) (g : Globals) : Globals :=
  let dataType := iCmd.byte 0
  let g := g.akbiSetFsmState .setEmerNumSending
  match dataType with
  | didEmergencyFirstResponder | didEmergencyCloseRelative =>
    (g.setRet bleRetMsgRcOffset success).transmit
      (ccuSentStoreEmergencyNumberMsg (recvdMsgFull g))
  | _ => g.setRet bleRetMsgRcOffset errorUnrecognizedData

def executeStorePersonalNumber (iCmd : View) (g : Globals) : Globals :=
  let dataType := iCmd.byte 0
  let g := g.akbiSetFsmState .setPersonalNumSending
  -- `i_personal_number` is 20 bytes from offset 1 of the 17-byte command
  let iPersonalNumber : Buf 20 := Buf.zero.memcpy 0 (iCmd.shift 1).byte mobNoSize
  let g := (g.access (1 + mobNoSize ≤ iCmd.room)).setRet bleRetMsgDataTypeOffset dataType
  let g := { g with
    ble.thisCcu.confPersonalNos.mob1MobileNumber := g.ble.thisCcu.pairedMob1.mobileNumber }
  match dataType with
  | didPersonalSecondNumber =>
    ({ g with ble.thisCcu.confPersonalNos.secondNumber := iPersonalNumber }.setRet
      bleRetMsgRcOffset success).transmit (ccuSentStorePersonalNumberMsg (recvdMsgFull g))
  | didPersonalThirdNumber =>
    ({ g with ble.thisCcu.confPersonalNos.thirdNumber := iPersonalNumber }.setRet
      bleRetMsgRcOffset success).transmit (ccuSentStorePersonalNumberMsg (recvdMsgFull g))
  | _ => g.setRet bleRetMsgRcOffset errorUnrecognizedData

/-- Update one of the ten visited locations; an index past the table changes none. -/
def setVisitedLocation (i : Nat) (f : Site → Site) (g : Globals) : Globals :=
  { g with
    ble.thisCcu.visitedLocations := fun k =>
      if k.val = i then f (g.ble.thisCcu.visitedLocations k) else g.ble.thisCcu.visitedLocations k
    env.oob := g.env.oob || !decide (i < 10) }

def executeEnterLocalHelpNumber (iCmd : View) (g : Globals) : Globals :=
  let dataType := iCmd.byte 0
  let iVisitedLocationsCount := g.ble.thisCcu.visitedLocationsCount.toNat
  let iLocalHelpNumber : Buf 20 := Buf.zero.memcpy 0 (iCmd.shift 1).byte mobNoSize
  let g := (g.access (1 + mobNoSize ≤ iCmd.room)).setRet bleRetMsgDataTypeOffset dataType
  match dataType with
  | didLocalHelpFourthNumber =>
    (setVisitedLocation iVisitedLocationsCount
      ({ · with fourthPhoneNumber := iLocalHelpNumber }) g).transmit
      (ccuSentStoreLocalHelpNumberMsg (recvdMsgFull g))
  | didLocalHelpFifthNumber =>
    (setVisitedLocation iVisitedLocationsCount
      ({ · with fifthPhoneNumber := iLocalHelpNumber }) g).transmit
      (ccuSentStoreLocalHelpNumberMsg (recvdMsgFull g))
  | _ => g.setRet bleRetMsgRcOffset errorUnrecognizedData

def executeScanWifis (iCmd : View) (g : Globals) : Globals :=
  let dataType := iCmd.byte 0
  let g := g.setRet bleRetMsgDataTypeOffset dataType
  match dataType with
  | bleRetMsgScannedWifiCountType =>
    (((akbiClearSsids g).akbiSetFsmState .wifiScanInProgress).transmit
      ccuSentScanAllWifiMsg).setRet bleRetMsgDataTypeOffset bleRetMsgScannedWifiCountType
  | bleRetMsgScannedWifiSsidType =>
    g.setRet bleRetMsgDataTypeOffset bleRetMsgScannedWifiSsidType
  | _ => g

def executeSelectAWifi (iCmd : View) (g : Globals) : Globals :=
  let dataType := iCmd.byte 0
  let dataLenInBle := (iCmd.byte 1).toNat
  let iDataValue := localCopy (iCmd.shift 2) dataLenInBle g.env.wild
  let g := (g.access (2 + dataLenInBle ≤ iCmd.room)).setRet bleRetMsgDataTypeOffset dataType
  match dataType with
  | didSelectAWifiSsid =>
    let g := { g with
      ble.thisCcu.confWifi.ssid :=
        g.ble.thisCcu.confWifi.ssid.memcpy 0 iDataValue.byte dataLenInBle
      ble.thisCcu.confWifi.dataStatus :=
        g.ble.thisCcu.confWifi.dataStatus ||| flagDataSetSelWifiSsid }
    saveGroupMessages (recvdMsgFull g) 1
      ((g.access (dataLenInBle ≤ 15)).setRet bleRetMsgRcOffset success)
  | didSelectAWifiNetworkKey =>
    let g := { g with
      ble.thisCcu.confWifi.networkKey :=
        g.ble.thisCcu.confWifi.networkKey.memcpy 0 iDataValue.byte dataLenInBle
      ble.thisCcu.confWifi.dataStatus :=
        g.ble.thisCcu.confWifi.dataStatus ||| flagDataSetSelWifiNetworkKey }
    let g := saveGroupMessages (recvdMsgFull g) 2
      ((g.access (dataLenInBle ≤ 15)).setRet bleRetMsgRcOffset success)
    let selectedApId := (savedData g 0).byte 0
    let pPassword : Buf 20 := savedString g 20 1 (savedLen g 1)
    ((g.access (savedLen g 1 ≤ 16)).akbiSetFsmState .wifiConnectInProgress).transmit fun w =>
      ccuSentConfigureWifiCredentials (selectedApId + 1) (pPassword.view w .pPassword) w
  | _ => g.setRet bleRetMsgRcOffset errorUnrecognizedData

def executeConnectToWifi (iCmd : View) (g : Globals) : Globals :=
  let dataLenInBle := (iCmd.byte 0).toNat
  (g.access (1 + dataLenInBle ≤ iCmd.room)).transmit fun w =>
    ccuSentConnectToWifi (localCopy (iCmd.shift 1) dataLenInBle w) w

def executeDisconnectFromWifi (g : Globals) : Globals := g.transmit ccuSentDisconnectFromWifi

def executeCcuActivate (iCmd : View) (g : Globals) : Globals :=
  let dataType := iCmd.byte 0
  let dataLenInBle := (iCmd.byte 1).toNat
  let g := (g.access (2 + dataLenInBle ≤ iCmd.room)).setRet bleRetMsgDataTypeOffset dataType
  match dataType with
  | didActivateCcuLatitude =>
    saveGroupMessages (recvdMsgFull g) 1 (g.setRet bleRetMsgRcOffset success)
  | didActivateCcuLongitude =>
    saveGroupMessages (recvdMsgFull g) 2 (g.setRet bleRetMsgRcOffset success)
  | didActivateCcuTimestamp =>
    let timeStamp : Buf 15 := (uninitialised g.env.wild .timeStamp).memcpy 0
      ((recvdMsgFull g).shift 5).byte timestampSize
    -- both copies take their length from the longitude message
    let actLatitude : Buf 20 := savedString g 20 0 (savedLen g 1)
    let actLongitude : Buf 20 := savedString g 20 1 (savedLen g 1)
    (g.access (savedLen g 1 ≤ 16)).transmit fun w =>
      ccuSentActivateSystemMsg (actLatitude.view w .actLatitude)
        (actLongitude.view w .actLongitude) (timeStamp.view w .timeStamp) w
  | _ => g.setRet bleRetMsgRcOffset errorUnrecognizedData

def updateCcuSw (iCmd : View) (g : Globals) : Globals :=
  let dataLenInBle := (iCmd.byte 0).toNat
  (g.access (1 + dataLenInBle ≤ iCmd.room)).transmit fun w =>
    ccuSentUpdateSwMsg (localCopy (iCmd.shift 1) dataLenInBle w) w

def executeRebootCcu (g : Globals) : Globals := g.transmit ccuSentRebootCcuMsg

def setCcuWifiMode (wifiMode : Byte) (g : Globals) : Globals :=
  g.transmit (ccuSentWifiSetMode wifiMode)

def updateTripInfo (g : Globals) : Globals :=
  (g.akbiSetFsmState .tripInfoUploadInProgress).transmit ccuSentUploadTripInfo

def isScanState : CcuFsmStates → Bool
  | .wifiScanInProgress | .wifiScanComplete | .wifiNameSendInProgress => true
  | _ => false

def dispatch (cmd : Option Cid) (iMsg : View) (bleCommand : View) (g : Globals) : Globals :=
  match cmd with
  | some .register => executeRegister bleCommand (g.akbiSetFsmState .mobRegistered)
  | some .login => executeLogin bleCommand (g.akbiSetFsmState .init)
  | some .forgotPassword => executeForgotPassword g
  | some .changePassword => executeChangePassword bleCommand (g.akbiSetFsmState .changePasswd)
  | some .recordPersonalVoiceMsg =>
    executeRecordPersonalVoiceMsgNew iMsg (g.akbiSetFsmState .voiceRecordingInProgress)
  | some .storeEmergencyNumbers => executeStoreEmergencyNumber bleCommand g
  | some .storePersonalNumbers => executeStorePersonalNumber bleCommand g
  | some .scanWifis =>
    let g := executeScanWifis bleCommand g
    if isScanState g.fsm.btState then g else g.akbiSetFsmState .wifiScanInProgress
  | some .selectAWifi => executeSelectAWifi bleCommand (g.akbiSetFsmState .wifiSelectInProgress)
  | some .addressVisiting => executeStoreAddressVisitingNew iMsg g
  | some .enterLocalHelpNumbers =>
    executeEnterLocalHelpNumber bleCommand (g.akbiSetFsmState .cfgSetHelpNumSending)
  | some .ccuActivate => executeCcuActivate bleCommand g
  | some .connectToWifi => executeConnectToWifi bleCommand (g.akbiSetFsmState .wifiConnectInProgress)
  | some .disconnectFromWifi =>
    executeDisconnectFromWifi (g.akbiSetFsmState .wifiDisconnectInProgress)
  | some .updateCcuSw => updateCcuSw bleCommand (g.akbiSetFsmState .fwUpgradeInProgress)
  | some .setCcuReboot => executeRebootCcu (g.akbiSetFsmState .fwRebootMsgSending)
  | some .setCcuWifiMode =>
    setCcuWifiMode (iMsg.byte 3) (g.akbiSetFsmState .wifiModeSetInProgress)
  | some .uploadTripInfo => updateTripInfo (g.akbiSetFsmState .tripInfoUploadInProgress)
  | none => g.setRet bleRetMsgRcOffset errorUnrecognizedCommand

/-- The message from its data type on, as `read_ble_message` copies it for a handler. -/
def bleCommandOf (iMsg : View) : Buf 17 := Buf.zero.memcpy 0 (iMsg.shift 3).byte bleCommandSize

/-- What `read_ble_message` does before the `switch`; the flag is `is_valid_ble_msg`. -/
def identify (iMsg : View) (g : Globals) : Bool × Globals :=
  let sourceAppTypeIdentifier := iMsg.byte 0
  let sourceAppIdentifier := iMsg.byte 1
  let bleCmdId := iMsg.byte 2
  let (_isValidBleMsg, g) :=
    if sourceAppTypeIdentifier = mob1AppTypeId then (true, g)
    else (false, g.setRet bleRetMsgRcOffset errorSourceAppTypeMismatch)
  let g := (g.setRet bleRetMsgCcuIdOffset ccuTypeId).setRet bleRetMsgCmdIdOffset bleCmdId
  let g := { g with
    main.epReturnMessage := g.main.epReturnMessage.memcpy bleRetMsgSerialNumOffset
      (g.main.advSerNo.rd fun _ => 0) advSerNoSize }
  -- all three branches set the flag again, whatever the type byte was
  if Cid.code .register = bleCmdId ∧ g.ble.thisCcu.pairedMob1.dataStatus &&& flagDataSetMob1Id = 0
  then
    (true, { g with
      ble.thisCcu.pairedMob1.id := sourceAppIdentifier
      ble.thisCcu.pairedMob1.dataStatus :=
        g.ble.thisCcu.pairedMob1.dataStatus ||| flagDataSetMob1Id })
  else if sourceAppIdentifier = g.ble.thisCcu.pairedMob1.id then (true, g)
  else (true, g)

def readBleMessage (iMsg : Nat) (g : Globals) : Globals :=
  let g := if g.ble.flagSetRecvdMsgPtr then g else setRecvdMsgPointer iMsg g
  let msg := (g.env.mem iMsg).view g.env.wild .rxPktBuffer
  let (isValidBleMsg, g) := identify msg g
  if isValidBleMsg then
    dispatch (Cid.ofByte? (msg.byte 2)) msg ((bleCommandOf msg).view g.env.wild .bleCommand) g
  else g

end EspBridges.Ccu
