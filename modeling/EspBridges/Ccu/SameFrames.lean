import EspBridges.Ccu.FrameLaws

namespace EspBridges.Ccu

open Bytes

theorem Tx.frame_congr {tx tx' : Buf n} {k len : Nat} (h : tx.Agree k tx') (hlen : len = k)
    (hroom : k ≤ n) (hmax : k ≤ 500) (ok ok' : Bool) (w w' : Wild Obj) :
    (Tx.mk (View.ofTx tx' w') len ok').frame w' = (Tx.mk (View.ofTx tx w) len ok).frame w := by
  subst hlen
  rw [Tx.frame_eq hmax, Tx.frame_eq hmax]
  apply View.bytes_congr
  intro i hi
  exact h _ _ i hi (Nat.lt_of_lt_of_le hi hroom)

theorem protocolHdr_agree (tx tx' : Buf n) (opcode type length : Byte) :
    (protocolHdr tx opcode type length).Agree 5 (protocolHdr tx' opcode type length) := by
  have hnone : tx.Agree 0 tx' := fun _ _ i hi => absurd hi (Nat.not_lt_zero i)
  exact ((((hnone.put rfl opcode).put rfl 44).put rfl 0).put rfl type).put rfl length

theorem put32_agree {tx tx' : Buf n} {k off : Nat} (h : tx.Agree k tx') (hoff : off = k) (v : Nat) :
    (put32 tx off v).Agree (off + 4) (put32 tx' off v) :=
  (((h.put hoff _).put rfl _).put rfl _).put rfl _

section Builders

variable {w w' : Wild Obj} {v v' lat lat' time time' : View}

theorem sendRegMsgNew_same (type : Byte) {len : Nat} (hlen : len ≤ 20)
    (hv : ∀ i, i < len → v'.byte i = v.byte i) :
    (ccuSendRegMsgNew type v' len w').frame w' = (ccuSendRegMsgNew type v len w).frame w := by
  have hmod : len % 256 = len := Nat.mod_eq_of_lt (by omega)
  unfold ccuSendRegMsgNew
  rw [hmod]
  have hdata := (protocolHdr_agree (Buf.zero : Buf 25) Buf.zero btCpOpcodeCidRegister type
    (UInt8.ofNat len)).memcpy rfl hv
  exact Tx.frame_congr hdata rfl (by omega) (by omega) _ _ _ _

theorem sendLoginMsg_same (hv : v.SameString v') (hlen : v.strlen ≤ 8)
    (ht : ∀ i, i < 10 → time'.byte i = time.byte i) :
    (ccuSendLoginMsg v' v'.strlen time' w').frame w' =
      (ccuSendLoginMsg v v.strlen time w).frame w := by
  have hmod : v.strlen % 256 = v.strlen := Nat.mod_eq_of_lt (by omega)
  unfold ccuSendLoginMsg
  rw [hv.strlen, hmod]
  have hpwd := ((protocolHdr_agree (uninitialised w .pTxBuffer : Buf 25)
    (uninitialised w' .pTxBuffer) btCpOpcodeCidLogin 0 (UInt8.ofNat v.strlen)).memcpy rfl hv.byte)
  have hstamp := ((hpwd.put rfl tlvTypeLoginTimestamp).put (m := 6 + v.strlen) (by omega)
    (UInt8.ofNat timestampSize)).memcpy (m := 7 + v.strlen) (by omega) ht
  exact Tx.frame_congr hstamp (by simp only [timestampSize]; omega) (by omega) (by omega) _ _ _ _

theorem headerOnlyMsg_same {size : Nat} (h : 5 ≤ size) (opcode : Byte) :
    (headerOnlyMsg size opcode w').frame w' = (headerOnlyMsg size opcode w).frame w :=
  Tx.frame_congr (protocolHdr_agree _ _ opcode 0 0) rfl h (by decide) _ _ _ _

theorem configureWifiCredentials_same (apId : Byte) (hv : v.SameString v') (hlen : v.strlen ≤ 91) :
    (ccuSentConfigureWifiCredentials apId v' w').frame w' =
      (ccuSentConfigureWifiCredentials apId v w).frame w := by
  unfold ccuSentConfigureWifiCredentials
  rw [hv.strlen]
  have hname := ((((protocolHdr_agree (Buf.zero : Buf 100) Buf.zero btCpOpcodeCidSelectAWifi
    tlvTypeWifiApId 1).put rfl apId).put rfl tlvTypeWifiPasswdName).put rfl
    (UInt8.ofNat v.strlen)).memcpy rfl hv.byte
  have hend := hname.put_after (m := 5 + 1 + 2 + v.strlen) (by omega) 0
  exact Tx.frame_congr hend (by omega) (by omega) (by omega) _ _ _ _

theorem userChangePasswdMsg_same (hc : lat.SameString lat') (hn : v.SameString v')
    (hfit : lat.strlen + v.strlen ≤ 93) :
    (ccuSentUserChangePasswdMsg lat' v' w').frame w' =
      (ccuSentUserChangePasswdMsg lat v w).frame w := by
  unfold ccuSentUserChangePasswdMsg
  rw [hc.strlen, hn.strlen]
  have hcurrent := (protocolHdr_agree (Buf.zero : Buf 100) Buf.zero btCpOpcodeCidChangePassword
    tlvTypeCurrentPasswd (UInt8.ofNat lat.strlen)).memcpy rfl hc.byte
  have hnew := ((hcurrent.put rfl tlvTypeNewPasswd).put (m := 6 + lat.strlen) (by omega)
    (UInt8.ofNat v.strlen)).memcpy (m := 7 + lat.strlen) (by omega) hn.byte
  exact Tx.frame_congr hnew (by omega) (by omega) (by omega) _ _ _ _

theorem recordVoiceMsg_same (index : Byte) (len : Nat) :
    (ccuSentRecordVoiceMsg index len w').frame w' = (ccuSentRecordVoiceMsg index len w).frame w :=
  Tx.frame_congr (Buf.Agree.refl 10 _) rfl (by decide) (by decide) _ _ _ _

theorem rawAudioMsg_same (opcode number : Byte) {len : Nat} (hlen : len ≤ 256)
    (hv : ∀ i, i < len → v'.byte i = v.byte i) :
    (rawAudioMsg opcode v' len number w').frame w' =
      (rawAudioMsg opcode v len number w).frame w := by
  have hdetails := put32_agree ((protocolHdr_agree (uninitialised w .pTxBuffer : Buf 270)
    (uninitialised w' .pTxBuffer) opcode tlvTypeVoiceMsgRawData 0).put rfl number) rfl len
  exact Tx.frame_congr (hdetails.memcpy rfl hv) (by omega) (by omega) (by omega) _ _ _ _

theorem numberMsg_same (opcode type : Byte) (hlen : (v.byte 4).toNat ≤ 15)
    (h4 : v'.byte 4 = v.byte 4) (hv : ∀ i, i < (v.byte 4).toNat → v'.byte (5 + i) = v.byte (5 + i)) :
    (numberMsg opcode (some type) v' w').frame w' =
      (numberMsg opcode (some type) v w).frame w := by
  unfold numberMsg
  rw [h4]
  have hbyte : ∀ i, i < (v.byte 4).toNat → (v'.shift 5).byte i = (v.shift 5).byte i := hv
  have hdigits := (protocolHdr_agree (uninitialised w .pTxBuffer : Buf 20)
    (uninitialised w' .pTxBuffer) opcode type (v.byte 4)).memcpy rfl hbyte
  exact Tx.frame_congr hdigits rfl (by omega) (by omega) _ _ _ _

theorem addressVisiting_same (time : View) {time' : View} (len : Nat)
    (ht : ∀ i, i < 10 → time'.byte i = time.byte i) :
    (ccuSentAddressVisiting time' len w').frame w' =
      (ccuSentAddressVisiting time len w).frame w := by
  have hdetails := put32_agree ((protocolHdr_agree (Buf.zero : Buf 25) Buf.zero
    btCpOpcodeCidAddressVisiting tlvTypeAddressVisitingVoice 0).put rfl 0x01) rfl len
  have hstamp := ((hdetails.put rfl tlvTypeAddressVisitingTimestamp).put rfl
    (UInt8.ofNat timestampSize)).memcpy rfl ht
  exact Tx.frame_congr hstamp rfl (by decide) (by decide) _ _ _ _

theorem activateSystemMsg_same (ha : lat.SameString lat') (hb : v.SameString v')
    (ht : ∀ i, i < 10 → time'.byte i = time.byte i) (hfit : lat.strlen + v.strlen ≤ 80) :
    (ccuSentActivateSystemMsg lat' v' time' w').frame w' =
      (ccuSentActivateSystemMsg lat v time w).frame w := by
  unfold ccuSentActivateSystemMsg
  rw [ha.strlen, hb.strlen]
  have hlat := (protocolHdr_agree (Buf.zero : Buf 100) Buf.zero btCpOpcodeCidCcuActivate
    tlvTypeActivateLatString (UInt8.ofNat lat.strlen)).memcpy rfl ha.byte
  have hlong := ((hlat.put rfl tlvTypeActivateLongString).put rfl
    (UInt8.ofNat v.strlen)).memcpy rfl hb.byte
  have hstamp := ((hlong.put (m := 5 + lat.strlen + v.strlen + 2) (by omega)
    tlvTypeActivateTimestampString).put rfl (UInt8.ofNat timestampSize)).memcpy rfl ht
  have hend := hstamp.put_after (m := 5 + lat.strlen + 2 + v.strlen + 2 + timestampSize)
    (by simp only [timestampSize]; omega) 0
  exact Tx.frame_congr hend (by simp only [timestampSize]; omega) (by omega) (by omega) _ _ _ _

theorem updateSwMsg_same (ht : ∀ i, i < 10 → time'.byte i = time.byte i) :
    (ccuSentUpdateSwMsg time' w').frame w' = (ccuSentUpdateSwMsg time w).frame w :=
  Tx.frame_congr ((protocolHdr_agree _ _ btCpOpcodeCidUpdateCcuSw tlvTypeTimestamp
    (UInt8.ofNat timestampSize)).memcpy rfl ht) rfl (by decide) (by decide) _ _ _ _

theorem wifiSetMode_same (mode : Byte) :
    (ccuSentWifiSetMode mode w').frame w' = (ccuSentWifiSetMode mode w).frame w :=
  Tx.frame_congr ((protocolHdr_agree _ _ btCpOpcodeCidWifiSetMode 0 0x01).put rfl mode) rfl
    (by decide) (by decide) _ _ _ _

end Builders

end EspBridges.Ccu
