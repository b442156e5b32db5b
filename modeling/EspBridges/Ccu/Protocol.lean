import EspBridges.Lib.Bytes

namespace EspBridges.Ccu

open Bytes

inductive Cid where
  | register | login | forgotPassword | changePassword | recordPersonalVoiceMsg
  | storeEmergencyNumbers | storePersonalNumbers | scanWifis | selectAWifi
  | addressVisiting | enterLocalHelpNumbers | ccuActivate | connectToWifi
  | disconnectFromWifi | updateCcuSw | uploadTripInfo | setCcuWifiMode | setCcuReboot
  deriving DecidableEq

def Cid.code : Cid → Byte
  | .register => 0x01
  | .login => 0x02
  | .forgotPassword => 0x03
  | .changePassword => 0x04
  | .recordPersonalVoiceMsg => 0x05
  | .storeEmergencyNumbers => 0x06
  | .storePersonalNumbers => 0x07
  | .scanWifis => 0x08
  | .selectAWifi => 0x09
  | .addressVisiting => 0x0A
  | .enterLocalHelpNumbers => 0x0B
  | .ccuActivate => 0x0C
  | .connectToWifi => 0x0D
  | .disconnectFromWifi => 0x0E
  | .updateCcuSw => 0x0F
  | .uploadTripInfo => 0x10
  | .setCcuWifiMode => 0x11
  | .setCcuReboot => 0x12

def Cid.ofByte? : Byte → Option Cid
  | 0x01 => some .register
  | 0x02 => some .login
  | 0x03 => some .forgotPassword
  | 0x04 => some .changePassword
  | 0x05 => some .recordPersonalVoiceMsg
  | 0x06 => some .storeEmergencyNumbers
  | 0x07 => some .storePersonalNumbers
  | 0x08 => some .scanWifis
  | 0x09 => some .selectAWifi
  | 0x0A => some .addressVisiting
  | 0x0B => some .enterLocalHelpNumbers
  | 0x0C => some .ccuActivate
  | 0x0D => some .connectToWifi
  | 0x0E => some .disconnectFromWifi
  | 0x0F => some .updateCcuSw
  | 0x10 => some .uploadTripInfo
  | 0x11 => some .setCcuWifiMode
  | 0x12 => some .setCcuReboot
  | _ => none

@[simp] theorem Cid.ofByte?_code (c : Cid) : Cid.ofByte? c.code = some c := by
  cases c <;> rfl

theorem Cid.code_of_ofByte? {b : Byte} {c : Cid} (h : Cid.ofByte? b = some c) : b = c.code := by
  unfold Cid.ofByte? at h
  split at h <;> first | (cases h; rfl) | cases h

theorem Cid.ofByte?_eq_some {b : Byte} {c : Cid} : Cid.ofByte? b = some c ↔ b = c.code :=
  ⟨Cid.code_of_ofByte?, fun h => h ▸ Cid.ofByte?_code c⟩

/-- The opcodes `akbi_process_rx_serial_data` has a case for. -/
inductive RxOpcode where
  | forgotPassword | ccuReady | scanWifiResult | wifiConnectCompleted | loginStatus
  | cfgParamsSaveStatus | selectAWifiResult | wifiSetModeStatus | changePasswordStatus
  | updateCcuSwStatus | recordPersonalVoiceMsgStatus | disconnectFromWifiStatus
  | addressVisitingStatus | requestRebootStatus | uploadTripInfoStatus | ccuActivateStatus
  | stopBleAdvCmd
  deriving DecidableEq

def RxOpcode.code : RxOpcode → Byte
  | .forgotPassword => 0x03
  | .ccuReady => 0x13
  | .scanWifiResult => 0x70
  | .wifiConnectCompleted => 0x71
  | .loginStatus => 0x74
  | .cfgParamsSaveStatus => 0x75
  | .selectAWifiResult => 0x76
  | .wifiSetModeStatus => 0x77
  | .changePasswordStatus => 0x78
  | .updateCcuSwStatus => 0x79
  | .recordPersonalVoiceMsgStatus => 0x7A
  | .disconnectFromWifiStatus => 0x7B
  | .addressVisitingStatus => 0x7C
  | .requestRebootStatus => 0x7D
  | .uploadTripInfoStatus => 0x7E
  | .ccuActivateStatus => 0x7F
  | .stopBleAdvCmd => 0x80

def RxOpcode.ofByte? : Byte → Option RxOpcode
  | 0x03 => some .forgotPassword
  | 0x13 => some .ccuReady
  | 0x70 => some .scanWifiResult
  | 0x71 => some .wifiConnectCompleted
  | 0x74 => some .loginStatus
  | 0x75 => some .cfgParamsSaveStatus
  | 0x76 => some .selectAWifiResult
  | 0x77 => some .wifiSetModeStatus
  | 0x78 => some .changePasswordStatus
  | 0x79 => some .updateCcuSwStatus
  | 0x7A => some .recordPersonalVoiceMsgStatus
  | 0x7B => some .disconnectFromWifiStatus
  | 0x7C => some .addressVisitingStatus
  | 0x7D => some .requestRebootStatus
  | 0x7E => some .uploadTripInfoStatus
  | 0x7F => some .ccuActivateStatus
  | 0x80 => some .stopBleAdvCmd
  | _ => none

@[simp] theorem RxOpcode.ofByte?_code (o : RxOpcode) : RxOpcode.ofByte? o.code = some o := by
  cases o <;> rfl

inductive CcuFsmStates where
  | ccuReady | init | mobRegistered | login | loginStatus
  | forgotPasswd | forgotPasswdResult | changePasswd | changePasswdComplete
  | voiceRecordingInProgress | voiceRecordingComplete
  | setEmerNumSending | setEmerNumReceived | setPersonalNumSending | setPersonalNumReceived
  | wifiScanInProgress | wifiScanComplete | wifiNameSendInProgress
  | wifiConnectInProgress | wifiConnectComplete | wifiDisconnectInProgress | wifiDisconnectComplete
  | cfgSetAddress | cfgSetAddressComplete | cfgSetHelpNumSending | cfgSetHelpNumReceived
  | activateInProgress | activateComplete | wifiSelectInProgress
  | fwUpgradeInProgress | fwUpgradeComplete | fwRebootMsgSending | fwRebootMsgAcknowledged
  | tripInfoUploadInProgress | tripInfoUploadComplete
  | wifiModeSetInProgress | wifiModeSetComplete
  deriving DecidableEq

/-! Opcodes of the frames sent to the CCU. -/

@[simp] abbrev btCpOpcodeCidRegister : Byte := 0x01
@[simp] abbrev btCpOpcodeCidLogin : Byte := 0x02
@[simp] abbrev btCpOpcodeCidForgotPassword : Byte := 0x03
@[simp] abbrev btCpOpcodeCidChangePassword : Byte := 0x04
@[simp] abbrev btCpOpcodeCidRecordPersonalVoiceMsg : Byte := 0x05
@[simp] abbrev btCpOpcodeCidStoreEmergencyNumbers : Byte := 0x06
@[simp] abbrev btCpOpcodeCidStorePersonalNumbers : Byte := 0x07
@[simp] abbrev btCpOpcodeCidScanWifis : Byte := 0x08
@[simp] abbrev btCpOpcodeCidSelectAWifi : Byte := 0x09
@[simp] abbrev btCpOpcodeCidAddressVisiting : Byte := 0x0A
@[simp] abbrev btCpOpcodeCidEnterLocalHelpNumbers : Byte := 0x0B
@[simp] abbrev btCpOpcodeCidCcuActivate : Byte := 0x0C
@[simp] abbrev btCpOpcodeCidConnectToWifi : Byte := 0x0D
@[simp] abbrev btCpOpcodeCidDisconnectFromWifi : Byte := 0x10
@[simp] abbrev btCpOpcodeCidUpdateCcuSw : Byte := 0x11
@[simp] abbrev btCpOpcodeCidUploadTripInfo : Byte := 0x12
@[simp] abbrev btCpOpcodeCidWifiSetMode : Byte := 0x14
@[simp] abbrev btCpOpcodeCidRequestReboot : Byte := 0x15
@[simp] abbrev btCpOpcodeAdvStartedMsg : Byte := 0x17
@[simp] abbrev btCpOpcodeMobConnectedMsg : Byte := 0x18
@[simp] abbrev btCpOpcodeMobDisconnectedMsg : Byte := 0x19

/-! Data types of the commands that come in several messages, TLV types of the
frames, and return codes. -/

@[match_pattern, simp] abbrev didRegisterPassword : Byte := 0x01
@[match_pattern, simp] abbrev didRegisterMobNo : Byte := 0x02
@[match_pattern, simp] abbrev didRegisterMobName : Byte := 0x03
@[match_pattern, simp] abbrev didRegisterAndroidIdOrUuid : Byte := 0x04
@[match_pattern, simp] abbrev didRegisterLat : Byte := 0x05
@[match_pattern, simp] abbrev didRegisterLong : Byte := 0x06
@[match_pattern, simp] abbrev didRegisterMobFwVer : Byte := 0x07
@[match_pattern, simp] abbrev didRegisterRegDate : Byte := 0x08
@[match_pattern, simp] abbrev didChangePasswordCurrent : Byte := 0x01
@[match_pattern, simp] abbrev didChangePasswordNew : Byte := 0x02
@[match_pattern, simp] abbrev didEmergencyFirstResponder : Byte := 0x01
@[match_pattern, simp] abbrev didEmergencyCloseRelative : Byte := 0x02
@[match_pattern, simp] abbrev didPersonalSecondNumber : Byte := 0x01
@[match_pattern, simp] abbrev didPersonalThirdNumber : Byte := 0x02
@[match_pattern, simp] abbrev didSelectAWifiSsid : Byte := 0x01
@[match_pattern, simp] abbrev didSelectAWifiNetworkKey : Byte := 0x02
@[match_pattern, simp] abbrev didLocalHelpFourthNumber : Byte := 0x01
@[match_pattern, simp] abbrev didLocalHelpFifthNumber : Byte := 0x02
@[match_pattern, simp] abbrev didActivateCcuLatitude : Byte := 0x01
@[match_pattern, simp] abbrev didActivateCcuLongitude : Byte := 0x02
@[match_pattern, simp] abbrev didActivateCcuTimestamp : Byte := 0x03
@[match_pattern, simp] abbrev bleRetMsgScannedWifiCountType : Byte := 0x01
@[match_pattern, simp] abbrev bleRetMsgScannedWifiSsidType : Byte := 0x02

@[simp] abbrev tlvTypeRegisterPassword : Byte := 0x01
@[simp] abbrev tlvTypeRegisterMobNum : Byte := 0x02
@[simp] abbrev tlvTypeRegisterMobName : Byte := 0x03
@[simp] abbrev tlvTypeRegisterUniqueId : Byte := 0x04
@[simp] abbrev tlvTypeRegisterLatString : Byte := 0x05
@[simp] abbrev tlvTypeRegisterLongString : Byte := 0x06
@[simp] abbrev tlvTypeMobileFwVersion : Byte := 0x07
@[simp] abbrev tlvTypeRegisterTimestamp : Byte := 0x08
@[simp] abbrev tlvTypeTimestamp : Byte := 0x01
@[simp] abbrev tlvTypeLoginTimestamp : Byte := 0x02
@[simp] abbrev tlvTypeActivateLatString : Byte := 0x01
@[simp] abbrev tlvTypeActivateLongString : Byte := 0x02
@[simp] abbrev tlvTypeActivateTimestampString : Byte := 0x03
@[simp] abbrev tlvTypeCurrentPasswd : Byte := 0x01
@[simp] abbrev tlvTypeNewPasswd : Byte := 0x02
@[simp] abbrev tlvTypePersonalVoice : Byte := 0x01
@[simp] abbrev tlvTypeVoiceMsgRawData : Byte := 0x02
@[simp] abbrev tlvTypeAddressVisitingVoice : Byte := 0x01
@[simp] abbrev tlvTypeAddressVisitingTimestamp : Byte := 0x03
@[simp] abbrev tlvTypeEmergencyNumber2 : Byte := 0x02
@[simp] abbrev tlvTypeEmergencyNumber3 : Byte := 0x03
@[simp] abbrev tlvTypePersonalNumber1 : Byte := 0x01
@[simp] abbrev tlvTypePersonalNumber2 : Byte := 0x02
@[simp] abbrev tlvTypePersonalNumber3 : Byte := 0x03
@[simp] abbrev tlvTypeWifiApId : Byte := 0x01
@[simp] abbrev tlvTypeWifiPasswdName : Byte := 0x02
@[simp] abbrev tlvTypeStoredCfgEmerNum2 : Byte := 0x02
@[simp] abbrev tlvTypeStoredCfgEmerNum3 : Byte := 0x03
@[simp] abbrev tlvTypeStoredCfgPersonalNum2 : Byte := 0x05
@[simp] abbrev tlvTypeStoredCfgPersonalNum3 : Byte := 0x06
@[simp] abbrev tlvTypeStoredCfgLocalNum1 : Byte := 0x07
@[simp] abbrev tlvTypeStoredCfgLocalNum2 : Byte := 0x08
@[simp] abbrev tlvTypeUpdateFwReboot : Byte := 0x02

@[simp] abbrev success : Byte := 0x00
@[simp] abbrev errorLoginPasswordMismatch : Byte := 0x06
@[simp] abbrev errorSourceAppTypeMismatch : Byte := 0x20
@[simp] abbrev errorUnrecognizedCommand : Byte := 0x22
@[simp] abbrev errorUnrecognizedData : Byte := 0x23
@[simp] abbrev errorInfoNotUploaded : Byte := 0x37
@[simp] abbrev errorCcuLocked : Byte := 0x81
@[simp] abbrev returnMsgNotReady : Byte := 0x55
@[simp] abbrev wifiScanningInProgress : Byte := 0x77
@[simp] abbrev bleRetPostDataError : Byte := 0x79
@[simp] abbrev allSuccessPostValue : Byte := 0x07

@[simp] abbrev serverConnected : Byte := 0
@[simp] abbrev inetConnected : Byte := 1
@[simp] abbrev wifiConnected : Byte := 2
@[simp] abbrev notConnected : Byte := 3
@[simp] abbrev pairedWifiUnreachable : Byte := 4

@[simp] abbrev mob1AppTypeId : Byte := 0x4D
@[simp] abbrev ccuTypeId : Byte := 0x47
@[simp] abbrev flagDataSetMob1Id : Byte := 0x10
@[simp] abbrev flagDataSetSelWifiSsid : Byte := 0x01
@[simp] abbrev flagDataSetSelWifiNetworkKey : Byte := 0x02

/-! Offsets in the 20-byte reply, and sizes. -/

@[simp] abbrev bleRetMsgCcuIdOffset : Nat := 0
@[simp] abbrev bleRetMsgSerialNumOffset : Nat := 1
@[simp] abbrev bleRetMsgCmdIdOffset : Nat := 5
@[simp] abbrev bleRetMsgRcOffset : Nat := 6
@[simp] abbrev bleRetMsgDataTypeOffset : Nat := 7
@[simp] abbrev bleRetMsgScannedSsidCountOffset : Nat := 8
@[simp] abbrev bleRetMsgFirmwareVersionOffset : Nat := 8
@[simp] abbrev returnMsgDataOffset : Nat := 8

@[simp] abbrev timestampSize : Nat := 10
@[simp] abbrev mobNoSize : Nat := 20
@[simp] abbrev advSerNoSize : Nat := 4
@[simp] abbrev bleCommandSize : Nat := 17
@[simp] abbrev bleMessageSize : Nat := 20
@[simp] abbrev androidIdOrUuidSize : Nat := 16
@[simp] abbrev voiceDataBufferNum : Nat := 4

end EspBridges.Ccu
