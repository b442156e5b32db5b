import EspBridges.Ccu.State

/-! `akbi_fsm.c`: the state variable, the table of scanned SSIDs, and the read path. -/

namespace EspBridges.Ccu

open Bytes

def akbiClearSsids (g : Globals) : Globals :=
  { g with
    fsm.wifiReport := Buf.zero
    fsm.noOfStoredSsids := 0
    fsm.ssidIndex := 0 }

def saveSsids (ssid : View) (indx length : Nat) (g : Globals) : Globals :=
  { g with
    fsm.wifiReport := g.fsm.wifiReport.memcpy (50 * indx) ssid.byte length
    fsm.noOfStoredSsids :=
      if g.fsm.noOfStoredSsids < indx + 1 then indx + 1 else g.fsm.noOfStoredSsids
    fsm.wifiReportLength := fun k => if k.val = indx then length else g.fsm.wifiReportLength k
    env.oob := g.env.oob ||
      !(50 * indx + length ≤ 2500 && length ≤ 50 && indx < 50 && length ≤ ssid.room) }

/-- The states in which `akbi_check_fsm_state_and_respond` returns 1. -/
def waiting : CcuFsmStates → Bool
  | .login | .forgotPasswd | .changePasswd | .voiceRecordingInProgress | .setEmerNumSending
  | .setPersonalNumSending | .wifiScanInProgress | .wifiConnectInProgress
  | .wifiDisconnectInProgress | .fwUpgradeInProgress | .fwRebootMsgSending
  | .tripInfoUploadInProgress | .cfgSetAddress | .cfgSetHelpNumSending | .activateInProgress
  | .wifiModeSetInProgress => true
  | _ => false

def wifiReportRow (g : Globals) (row : Nat) : View :=
  ⟨fun i => g.fsm.wifiReport.rd (g.env.wild.byte .wifiReport) (50 * row + i), 2500 - 50 * row,
    g.env.wild.run .wifiReport⟩

def wifiReportLengthAt (g : Globals) (row : Nat) : Nat :=
  if h : row < 50 then g.fsm.wifiReportLength ⟨row, h⟩ else g.env.wild.int .wifiReportLength row

/-- The branch of `FSM_STATE_WIFI_NAME_SEND_IN_PROGRESS`: one row of the table per read. -/
def wifiNameSend (g : Globals) : Globals :=
  let row := g.fsm.ssidIndex
  let ssid := wifiReportRow g row
  let ret := g.main.epReturnMessage.memcpy returnMsgDataOffset ssid.byte ssid.strlen
  let ok := row < 50 && ssid.strlen < ssid.room && ssid.strlen ≤ 12
  if wifiReportLengthAt g row > 12 then
    let ret := ret.memcpy returnMsgDataOffset ssid.byte 10
    let ret := (ret.memset (returnMsgDataOffset + 10) 0x7E 1).memset (returnMsgDataOffset + 11) 49 1
    { g with main.epReturnMessage := ret, fsm.ssidIndex := row + 1, env.oob := g.env.oob || !ok }
  else
    let ret := ret.memcpy returnMsgDataOffset ssid.byte 12
    { g with main.epReturnMessage := ret, fsm.ssidIndex := row + 1, env.oob := g.env.oob || !ok }

def akbiCheckFsmStateAndRespond (g : Globals) : Nat × Globals :=
  match g.fsm.btState with
  | .ccuReady => (0, g.setRet 0 0x47)
  | .login => (1, g)
  | .loginStatus =>
    (0, { g with ble.thisCcu.pairedMob1.authenticationStatus := .authenticated })
  | .forgotPasswd => (1, g)
  | .changePasswd => (1, g)
  | .voiceRecordingInProgress => (1, g)
  | .setEmerNumSending => (1, g)
  | .setPersonalNumSending => (1, g)
  | .wifiScanInProgress => (1, g)
  | .wifiScanComplete => (0, { g with fsm.ssidIndex := 0, fsm.btState := .wifiNameSendInProgress })
  | .wifiNameSendInProgress => (0, wifiNameSend g)
  | .wifiConnectInProgress => (1, g)
  | .wifiDisconnectInProgress => (1, g)
  | .fwUpgradeInProgress => (1, g)
  | .fwRebootMsgSending => (1, g)
  | .tripInfoUploadInProgress => (1, g)
  | .cfgSetAddress => (1, g)
  | .cfgSetHelpNumSending => (1, g)
  | .activateInProgress => (1, g)
  | .wifiModeSetInProgress => (1, g)
  | .init | .mobRegistered | .forgotPasswdResult | .changePasswdComplete
  | .voiceRecordingComplete | .setEmerNumReceived | .setPersonalNumReceived
  | .wifiSelectInProgress | .wifiConnectComplete | .wifiDisconnectComplete | .fwUpgradeComplete
  | .fwRebootMsgAcknowledged | .tripInfoUploadComplete | .cfgSetAddressComplete
  | .cfgSetHelpNumReceived | .activateComplete | .wifiModeSetComplete => (0, g)

theorem check_waiting (h : waiting g.fsm.btState = true) :
    akbiCheckFsmStateAndRespond g = (1, g) := by
  unfold akbiCheckFsmStateAndRespond
  cases hq : g.fsm.btState <;> first | rfl | (rw [hq] at h; cases h)

theorem check_fst (g : Globals) :
    (akbiCheckFsmStateAndRespond g).1 = if waiting g.fsm.btState then 1 else 0 := by
  unfold akbiCheckFsmStateAndRespond
  cases g.fsm.btState <;> rfl

end EspBridges.Ccu
