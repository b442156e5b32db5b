import EspBridges.Ccu.Audio
import EspBridges.Lib.Tlv

namespace EspBridges.Ccu

open Bytes

theorem Tx.frame_eq {t : Tx} (h : t.length ≤ 500) (w : Wild Obj) :
    t.frame w = t.pData.bytes t.length := by
  apply View.bytes_congr
  intro i hi
  rw [Buf.view_byte, Buf.rd_memcpy, if_pos ⟨Nat.zero_le i, by omega, by omega⟩, Nat.sub_zero]

theorem Tx.head_frame {t : Tx} (h : 0 < t.length) (w : Wild Obj) :
    (t.frame w).head? = some (t.pData.byte 0) := by
  obtain ⟨k, hk⟩ : ∃ k, t.length = k + 1 := ⟨t.length - 1, by omega⟩
  unfold Tx.frame
  rw [hk, View.bytes_succ, Buf.view_byte, Buf.rd_memcpy,
    if_pos ⟨Nat.zero_le 0, by omega, by omega⟩]
  rfl

def Opens (opcode : Byte) (msg : Wild Obj → Tx) : Prop :=
  ∀ w, 0 < (msg w).length ∧ (msg w).pData.byte 0 = opcode

theorem Opens.head {msg : Wild Obj → Tx} (h : Opens opcode msg) (w : Wild Obj) :
    ((msg w).frame w).head? = some opcode := by
  rw [Tx.head_frame (h w).1, (h w).2]

@[simp] theorem protocolHdr_rd_zero (tx : Buf (n + 1)) (opcode type length : Byte)
    (beyond : Nat → Byte) : (protocolHdr tx opcode type length).rd beyond 0 = opcode := by
  simp [protocolHdr, Buf.rd_put]

@[simp] theorem put32_rd_zero (tx : Buf n) (k v : Nat) (beyond : Nat → Byte) :
    (put32 tx (k + 1) v).rd beyond 0 = tx.rd beyond 0 := by
  simp [put32, Buf.rd_put]

section Opens

theorem opens_reg (type : Byte) (v : View) (len : Nat) :
    Opens btCpOpcodeCidRegister (ccuSendRegMsgNew type v len) := by
  intro w
  have hlen : 0 < (ccuSendRegMsgNew type v len w).length := by
    simp only [ccuSendRegMsgNew]
    omega
  exact ⟨hlen, by simp [ccuSendRegMsgNew, View.ofTx, Buf.rd_memcpy]⟩

theorem opens_login (password : View) (len : Nat) (time : View) :
    Opens btCpOpcodeCidLogin (ccuSendLoginMsg password len time) := by
  intro w
  simp [ccuSendLoginMsg, View.ofTx, Buf.rd_memcpy, Buf.rd_put]
  omega

theorem opens_headerOnly (size : Nat) (opcode : Byte) :
    Opens opcode (headerOnlyMsg (size + 1) opcode) := by
  intro w
  simp [headerOnlyMsg, View.ofTx]

theorem opens_configureWifi (apId : Byte) (passwd : View) :
    Opens btCpOpcodeCidSelectAWifi (ccuSentConfigureWifiCredentials apId passwd) := by
  intro w
  simp [ccuSentConfigureWifiCredentials, View.ofTx, Buf.rd_memcpy, Buf.rd_put]
  omega

theorem opens_connect (time : View) :
    Opens btCpOpcodeCidConnectToWifi (ccuSentConnectToWifi time) := by
  intro w
  have hlen : 0 < (ccuSentConnectToWifi time w).length := by
    simp only [ccuSentConnectToWifi]
    omega
  exact ⟨hlen, by simp [ccuSentConnectToWifi, View.ofTx, Buf.rd_memcpy]⟩

theorem opens_changePasswd (current new : View) :
    Opens btCpOpcodeCidChangePassword (ccuSentUserChangePasswdMsg current new) := by
  intro w
  simp only [ccuSentUserChangePasswdMsg, View.ofTx, Buf.view_byte, Buf.rd_memcpy, Buf.rd_put]
  refine ⟨by omega, ?_⟩
  rw [if_neg (by omega), if_neg (by omega), if_neg (by omega), if_neg (by omega),
    protocolHdr_rd_zero]

theorem opens_recordVoice (index : Byte) (len : Nat) :
    Opens btCpOpcodeCidRecordPersonalVoiceMsg (ccuSentRecordVoiceMsg index len) := by
  intro w
  simp [ccuSentRecordVoiceMsg, View.ofTx, Buf.rd_put]

theorem opens_rawAudio (opcode : Byte) (row : View) (len : Nat) (number : Byte) :
    Opens opcode (rawAudioMsg opcode row len number) := by
  intro w
  simp [rawAudioMsg, View.ofTx, Buf.rd_memcpy, Buf.rd_put]

theorem opens_number (opcode : Byte) (type : Option Byte) (v : View) :
    Opens opcode (numberMsg opcode type v) := by
  intro w
  have hlen : 0 < (numberMsg opcode type v w).length := by
    simp only [numberMsg]
    omega
  exact ⟨hlen, by simp [numberMsg, View.ofTx, Buf.rd_memcpy]⟩

theorem opens_addressVisiting (time : View) (len : Nat) :
    Opens btCpOpcodeCidAddressVisiting (ccuSentAddressVisiting time len) := by
  intro w
  simp [ccuSentAddressVisiting, View.ofTx, Buf.rd_memcpy, Buf.rd_put]

theorem opens_activate (lat long time : View) :
    Opens btCpOpcodeCidCcuActivate (ccuSentActivateSystemMsg lat long time) := by
  intro w
  simp [ccuSentActivateSystemMsg, View.ofTx, Buf.rd_memcpy, Buf.rd_put]
  omega

theorem opens_updateSw (time : View) :
    Opens btCpOpcodeCidUpdateCcuSw (ccuSentUpdateSwMsg time) := by
  intro w
  simp [ccuSentUpdateSwMsg, View.ofTx, Buf.rd_memcpy]

theorem opens_wifiSetMode (mode : Byte) :
    Opens btCpOpcodeCidWifiSetMode (ccuSentWifiSetMode mode) := by
  intro w
  simp [ccuSentWifiSetMode, View.ofTx, Buf.rd_put]

end Opens

theorem Tx.frame_of_startsWith {tx : Buf n} {xs : List Byte} (h : tx.StartsWith xs) {len : Nat}
    (hlen : len = xs.length) (hroom : xs.length ≤ n) (hmax : xs.length ≤ 500) (ok : Bool)
    (w : Wild Obj) : (Tx.mk (View.ofTx tx w) len ok).frame w = xs := by
  subst hlen
  rw [Tx.frame_eq hmax]
  exact h.bytes w .pTxBuffer hroom

theorem Tx.frame_prefix {tx : Buf m} {xs : List Byte} (h : tx.StartsWith xs) {k n : Nat}
    (hlen : n = xs.length + k) (hroom : xs.length ≤ m) (hmax : n ≤ 500) (ok : Bool)
    (w : Wild Obj) : ∃ rest : List Byte, rest.length = k ∧
      (Tx.mk (View.ofTx tx w) n ok).frame w = xs ++ rest := by
  subst hlen
  refine ⟨_, View.length_bytes ((View.ofTx tx w).shift xs.length) k, ?_⟩
  rw [Tx.frame_eq hmax]
  show (View.ofTx tx w).bytes (xs.length + k) = _
  rw [View.bytes_add, View.ofTx, h.bytes w .pTxBuffer hroom]

theorem protocolHdr_startsWith (tx : Buf n) (opcode type length : Byte) :
    (protocolHdr tx opcode type length).StartsWith [opcode, 44, 0, type, length] :=
  (((((tx.startsWith_nil.put rfl opcode).put rfl 44).put rfl 0).put rfl type).put rfl length)

section TlvFrames

variable {v v' time : View} {s s' t : List Byte} (w : Wild Obj)

theorem activateSystemMsg_frame (hs : v.Holds s) (hs' : v'.Holds s')
    (ht : ∀ i, i < t.length → time.byte i = t.getD i 0) (htlen : t.length = 10)
    (hroom : s.length + s'.length ≤ 80) :
    (ccuSentActivateSystemMsg v v' time w).frame w =
      [btCpOpcodeCidCcuActivate, 44, 0] ++ Tlv.encode [(tlvTypeActivateLatString, s),
        (tlvTypeActivateLongString, s'), (tlvTypeActivateTimestampString, t)] := by
  unfold ccuSentActivateSystemMsg
  rw [hs.strlen, hs'.strlen]
  have hlat := (protocolHdr_startsWith (Buf.zero : Buf 100) btCpOpcodeCidCcuActivate
    tlvTypeActivateLatString (UInt8.ofNat s.length)).memcpy rfl rfl hs.byte
  have hlong := ((hlat.put (k := 5 + s.length) (by simp; omega) tlvTypeActivateLongString).put
    (k := 5 + s.length + 1) (by simp; omega) (UInt8.ofNat s'.length)).memcpy
    (k := 5 + s.length + 2) (by simp; omega) rfl hs'.byte
  have htime := ((hlong.put (k := 5 + s.length + s'.length + 2) (by simp; omega)
    tlvTypeActivateTimestampString).put (k := 5 + s.length + s'.length + 2 + 1) (by simp; omega)
    (UInt8.ofNat timestampSize)).memcpy (k := 5 + s.length + s'.length + 2 + 2) (by simp; omega)
    htlen.symm ht
  have hend := htime.put_after (k := 5 + s.length + 2 + s'.length + 2 + timestampSize)
    (by simp; omega) 0
  refine (Tx.frame_of_startsWith hend ?_ ?_ ?_ _ w).trans ?_
  · simp
    omega
  · simp
    omega
  · simp
    omega
  · simp [Tlv.encode, htlen]

theorem configureWifiCredentials_frame (apId : Byte) (hs : v.Holds s) (hroom : s.length ≤ 91) :
    (ccuSentConfigureWifiCredentials apId v w).frame w =
      [btCpOpcodeCidSelectAWifi, 44, 0] ++
        Tlv.encode [(tlvTypeWifiApId, [apId]), (tlvTypeWifiPasswdName, s)] := by
  unfold ccuSentConfigureWifiCredentials
  rw [hs.strlen]
  have hid := (((protocolHdr_startsWith (Buf.zero : Buf 100) btCpOpcodeCidSelectAWifi
    tlvTypeWifiApId 1).put rfl apId).put rfl tlvTypeWifiPasswdName).put rfl
    (UInt8.ofNat s.length)
  have hend := (hid.memcpy rfl rfl hs.byte).put_after (k := 5 + 1 + 2 + s.length)
    (by simp; omega) 0
  refine (Tx.frame_of_startsWith hend ?_ ?_ ?_ _ w).trans ?_
  · simp
    omega
  · simp
    omega
  · simp
    omega
  · simp [Tlv.encode]

/-- The timestamp may not fit behind a long password; where it stands it keeps its length. -/
theorem login_frame (hs : v.Holds s) (hlen : s.length ≤ 15) :
    ∃ stamp : List Byte, stamp.length = timestampSize ∧
      (ccuSendLoginMsg v v.strlen time w).frame w = [btCpOpcodeCidLogin, 44, 0] ++
        Tlv.encode [(0, s), (tlvTypeLoginTimestamp, stamp)] := by
  have hmod : s.length % 256 = s.length := Nat.mod_eq_of_lt (by omega)
  unfold ccuSendLoginMsg
  rw [hs.strlen, hmod]
  have hpwd := (((protocolHdr_startsWith (uninitialised w .pTxBuffer : Buf 25) btCpOpcodeCidLogin 0
    (UInt8.ofNat s.length)).memcpy rfl rfl hs.byte).put (k := 5 + s.length) (by simp; omega)
    tlvTypeLoginTimestamp).put (k := 6 + s.length) (by simp; omega) (UInt8.ofNat timestampSize)
  have htime := hpwd.memcpy_after (k := 7 + s.length) (by simp; omega) time.byte timestampSize
  obtain ⟨stamp, hstamp, hframe⟩ := Tx.frame_prefix htime (k := timestampSize)
    (n := 5 + s.length + 2 + timestampSize) (by simp; omega) (by simp; omega) (by simp; omega) _ w
  refine ⟨stamp, hstamp, hframe.trans ?_⟩
  simp [Tlv.encode, hstamp]

end TlvFrames

def lengthField (frame : List Byte) : Nat :=
  (frame.getD 6 0).toNat + 256 * (frame.getD 7 0).toNat + 65536 * (frame.getD 8 0).toNat +
    16777216 * (frame.getD 9 0).toNat

def audioPayload (frame : List Byte) : List Byte := frame.drop 10

section RawAudio

variable (opcode : Byte) (voiceData : View) (chunkLength : Nat) (audioNumber : Byte) (w : Wild Obj)

theorem rawAudioMsg_byte (i : Nat) :
    (rawAudioMsg opcode voiceData chunkLength audioNumber w).pData.byte i =
      if 10 ≤ i ∧ i < 10 + chunkLength ∧ i < 270 then voiceData.byte (i - 10)
      else (put32 ((protocolHdr (uninitialised w .pTxBuffer : Buf 270) opcode
        tlvTypeVoiceMsgRawData 0).put 5 audioNumber) 6 chunkLength).rd (w.byte .pTxBuffer) i :=
  Buf.rd_memcpy _ _ _ _ _ _

theorem rawAudioMsg_frame (h : chunkLength ≤ 256) :
    (rawAudioMsg opcode voiceData chunkLength audioNumber w).frame w =
      (rawAudioMsg opcode voiceData chunkLength audioNumber w).pData.bytes 10 ++
        voiceData.bytes chunkLength := by
  have hlen : (rawAudioMsg opcode voiceData chunkLength audioNumber w).length =
      10 + chunkLength := by
    show 5 + chunkLength + 5 = 10 + chunkLength
    omega
  rw [Tx.frame_eq (by omega), hlen, View.bytes_add]
  congr 1
  apply View.bytes_congr
  intro i hi
  show (rawAudioMsg opcode voiceData chunkLength audioNumber w).pData.byte (10 + i) = _
  rw [rawAudioMsg_byte, if_pos ⟨by omega, by omega, by omega⟩, Nat.add_sub_cancel_left]

theorem rawAudioMsg_payload (h : chunkLength ≤ 256) :
    audioPayload ((rawAudioMsg opcode voiceData chunkLength audioNumber w).frame w) =
      voiceData.bytes chunkLength := by
  rw [audioPayload, rawAudioMsg_frame _ _ _ _ _ h]
  exact List.drop_left' (View.length_bytes _ _)

theorem rawAudioMsg_lengthField (h : chunkLength ≤ 256) :
    lengthField ((rawAudioMsg opcode voiceData chunkLength audioNumber w).frame w) =
      chunkLength := by
  have hbyte : ∀ i < 10, (rawAudioMsg opcode voiceData chunkLength audioNumber w).pData.byte i =
      (put32 ((protocolHdr (uninitialised w .pTxBuffer : Buf 270) opcode
        tlvTypeVoiceMsgRawData 0).put 5 audioNumber) 6 chunkLength).rd (w.byte .pTxBuffer) i := by
    intro i hi
    rw [rawAudioMsg_byte, if_neg (by omega)]
  have hget : ∀ i < 10,
      ((rawAudioMsg opcode voiceData chunkLength audioNumber w).frame w).getD i 0 =
        (rawAudioMsg opcode voiceData chunkLength audioNumber w).pData.byte i := by
    intro i hi
    rw [rawAudioMsg_frame _ _ _ _ _ h, List.getD_eq_getElem?_getD,
      List.getElem?_append_left (by simpa using hi), List.getElem?_eq_getElem (by simpa using hi),
      View.getElem_bytes, Option.getD_some]
  unfold lengthField
  rw [hget 6 (by omega), hget 7 (by omega), hget 8 (by omega), hget 9 (by omega),
    hbyte 6 (by omega), hbyte 7 (by omega), hbyte 8 (by omega), hbyte 9 (by omega)]
  simp [put32, Buf.rd_put]
  omega

end RawAudio

end EspBridges.Ccu
