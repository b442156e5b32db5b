import EspBridges.Ccu.FrameLaws

namespace EspBridges.Ccu

open Bytes

/-- The walk of `akbi_process_rx_serial_data`: TLVs from behind the opcode and the two bytes of
`trans_id` to the end. -/
def decodeFrame : List Byte → Option (List Tlv.Entry)
  | _ :: _ :: _ :: tlvs => Tlv.decode tlvs
  | _ => none

theorem decodeFrame_encode (opcode : Byte) {entries : List Tlv.Entry} (h : Tlv.Fits entries) :
    decodeFrame ([opcode, 44, 0] ++ Tlv.encode entries) = some entries :=
  Tlv.decode_encode entries h

def Tx.inBounds (t : Tx) : Bool := t.ok && t.length ≤ t.pData.room && t.length ≤ 500

theorem Tx.inBounds_iff (t : Tx) :
    t.inBounds = true ↔ t.ok = true ∧ t.length ≤ t.pData.room ∧ t.length ≤ 500 := by
  simp [inBounds, and_assoc]

theorem sendUartMessage_oob (t : Tx) (g : Globals) :
    (g.sendUartMessage t).env.oob = (g.env.oob || !t.inBounds) := rfl

structure Encodes (msg : Wild Obj → Tx) (entries : List Tlv.Entry) : Prop where
  decodes : ∀ w, decodeFrame ((msg w).frame w) = some entries
  inBounds : ∀ w, (msg w).inBounds = true

theorem Encodes.inj {msg msg' : Wild Obj → Tx} {entries entries' : List Tlv.Entry}
    (h : Encodes msg entries) (h' : Encodes msg' entries') (w w' : Wild Obj)
    (heq : (msg w).frame w = (msg' w').frame w') : entries = entries' := by
  have hdecode := h.decodes w
  rw [heq, h'.decodes w'] at hdecode
  exact (Option.some.inj hdecode).symm

/-- The arguments of the three builders, strings that end inside their objects and fit together
into `p_tx_buffer`. -/
structure PasswdArgs (vc vn : View) (c n : List Byte) : Prop where
  current : vc.CString c
  new : vn.CString n
  fit : c.length + n.length ≤ 93

structure CredentialArgs (v : View) (p : List Byte) : Prop where
  passwd : v.CString p
  fit : p.length ≤ 91

structure ActivateArgs (va vb vt : View) (a b t : List Byte) : Prop where
  latitude : va.CString a
  longitude : vb.CString b
  stampRoom : timestampSize ≤ vt.room
  stampLength : t.length = timestampSize
  stamp : ∀ i, i < t.length → vt.byte i = t.getD i 0
  fit : a.length + b.length ≤ 80

section Frames

variable {vc vn v va vb vt : View} {c n p a b t : List Byte}

theorem userChangePasswdMsg_frame (h : PasswdArgs vc vn c n) (w : Wild Obj) :
    (ccuSentUserChangePasswdMsg vc vn w).frame w =
      [btCpOpcodeCidChangePassword, 44, 0] ++
        Tlv.encode [(tlvTypeCurrentPasswd, c), (tlvTypeNewPasswd, n)] := by
  have hfit := h.fit
  unfold ccuSentUserChangePasswdMsg
  rw [h.current.holds.strlen, h.new.holds.strlen]
  have hcurrent := (protocolHdr_startsWith (Buf.zero : Buf 100) btCpOpcodeCidChangePassword
    tlvTypeCurrentPasswd (UInt8.ofNat c.length)).memcpy rfl rfl h.current.byte
  have hnew := ((hcurrent.put (k := 5 + c.length) (by simp; omega) tlvTypeNewPasswd).put
    (k := 6 + c.length) (by simp; omega) (UInt8.ofNat n.length)).memcpy
    (k := 7 + c.length) (by simp; omega) rfl h.new.byte
  refine (Tx.frame_of_startsWith hnew ?_ ?_ ?_ _ w).trans ?_
  · simp
    omega
  · simp
    omega
  · simp
    omega
  · simp [Tlv.encode]

theorem userChangePasswdMsg_encodes (h : PasswdArgs vc vn c n) :
    Encodes (ccuSentUserChangePasswdMsg vc vn)
      [(tlvTypeCurrentPasswd, c), (tlvTypeNewPasswd, n)] := by
  have hfit := h.fit
  refine ⟨fun w => ?_, fun w => ?_⟩
  · rw [userChangePasswdMsg_frame h w]
    apply decodeFrame_encode
    simp only [Tlv.Fits, List.forall_mem_cons, List.not_mem_nil, false_imp_iff, implies_true,
      and_true]
    omega
  · have hc := h.current.room
    have hn := h.new.room
    rw [Tx.inBounds_iff]
    simp only [ccuSentUserChangePasswdMsg, h.current.holds.strlen, h.new.holds.strlen, View.ofTx,
      Buf.view, Bool.and_eq_true, decide_eq_true_eq]
    omega

theorem configureWifiCredentials_encodes (i : Byte) (h : CredentialArgs v p) :
    Encodes (ccuSentConfigureWifiCredentials i v)
      [(tlvTypeWifiApId, [i]), (tlvTypeWifiPasswdName, p)] := by
  have hfit := h.fit
  refine ⟨fun w => ?_, fun w => ?_⟩
  · rw [configureWifiCredentials_frame w i h.passwd.holds hfit]
    apply decodeFrame_encode
    simp only [Tlv.Fits, List.forall_mem_cons, List.not_mem_nil, false_imp_iff, implies_true,
      and_true]
    exact ⟨Nat.lt_of_sub_eq_succ rfl, by omega⟩
  · have hp := h.passwd.room
    rw [Tx.inBounds_iff]
    simp only [ccuSentConfigureWifiCredentials, h.passwd.holds.strlen, View.ofTx, Buf.view,
      Bool.and_eq_true, decide_eq_true_eq]
    omega

theorem activateSystemMsg_encodes (h : ActivateArgs va vb vt a b t) :
    Encodes (ccuSentActivateSystemMsg va vb vt) [(tlvTypeActivateLatString, a),
      (tlvTypeActivateLongString, b), (tlvTypeActivateTimestampString, t)] := by
  have hfit := h.fit
  refine ⟨fun w => ?_, fun w => ?_⟩
  · rw [activateSystemMsg_frame w h.latitude.holds h.longitude.holds h.stamp h.stampLength hfit]
    apply decodeFrame_encode
    simp only [Tlv.Fits, List.forall_mem_cons, List.not_mem_nil, false_imp_iff, implies_true,
      and_true, h.stampLength]
    exact ⟨by omega, by omega, by decide⟩
  · have ha := h.latitude.room
    have hb := h.longitude.room
    have ht : 10 ≤ vt.room := h.stampRoom
    rw [Tx.inBounds_iff]
    simp only [ccuSentActivateSystemMsg, h.latitude.holds.strlen, h.longitude.holds.strlen,
      timestampSize, View.ofTx, Buf.view, Bool.and_eq_true, decide_eq_true_eq]
    omega

end Frames

/-- Decoding a frame gives back the arguments it was built from, so that no two of them share
a frame. -/
theorem encoders_round_trip :
    (∀ vc vn c n, PasswdArgs vc vn c n →
      Encodes (ccuSentUserChangePasswdMsg vc vn) [(1, c), (2, n)]) ∧
    (∀ i v p, CredentialArgs v p →
      Encodes (ccuSentConfigureWifiCredentials i v) [(1, [i]), (2, p)]) ∧
    (∀ va vb vt a b t, ActivateArgs va vb vt a b t →
      Encodes (ccuSentActivateSystemMsg va vb vt) [(1, a), (2, b), (3, t)]) ∧
    (∀ vc vn c n vc' vn' c' n', PasswdArgs vc vn c n → PasswdArgs vc' vn' c' n' → ∀ w w',
      (ccuSentUserChangePasswdMsg vc vn w).frame w =
        (ccuSentUserChangePasswdMsg vc' vn' w').frame w' → c = c' ∧ n = n') ∧
    (∀ i v p i' v' p', CredentialArgs v p → CredentialArgs v' p' → ∀ w w',
      (ccuSentConfigureWifiCredentials i v w).frame w =
        (ccuSentConfigureWifiCredentials i' v' w').frame w' → i = i' ∧ p = p') ∧
    (∀ va vb vt a b t va' vb' vt' a' b' t', ActivateArgs va vb vt a b t →
      ActivateArgs va' vb' vt' a' b' t' → ∀ w w',
      (ccuSentActivateSystemMsg va vb vt w).frame w =
        (ccuSentActivateSystemMsg va' vb' vt' w').frame w' → a = a' ∧ b = b' ∧ t = t') := by
  refine ⟨?_, ?_, ?_, ?_, ?_, ?_⟩
  · exact fun _ _ _ _ h => userChangePasswdMsg_encodes h
  · exact fun i _ _ h => configureWifiCredentials_encodes i h
  · exact fun _ _ _ _ _ _ h => activateSystemMsg_encodes h
  · intro vc vn c n vc' vn' c' n' h h' w w' heq
    have hsame := (userChangePasswdMsg_encodes h).inj (userChangePasswdMsg_encodes h') w w' heq
    simpa using hsame
  · intro i v p i' v' p' h h' w w' heq
    have hsame := (configureWifiCredentials_encodes i h).inj
      (configureWifiCredentials_encodes i' h') w w' heq
    simpa using hsame
  · intro va vb vt a b t va' vb' vt' a' b' t' h h' w w' heq
    have hsame := (activateSystemMsg_encodes h).inj (activateSystemMsg_encodes h') w w' heq
    simpa using hsame

def stringView (s : List Byte) : View := ⟨fun i => s.getD i 0, 20, 0⟩

theorem stringView_cString {s : List Byte} (hlen : s.length < 20) (h : ∀ x ∈ s, x ≠ 0) :
    (stringView s).CString s where
  room := hlen
  nonzero := h
  byte _ _ := rfl
  terminated := by simp [stringView]

/-- Two passwords, a key for an access point, and a place with the time. -/
theorem threeRequests_round_trip :
    Encodes (ccuSentUserChangePasswdMsg (stringView [0x31]) (stringView [0x32, 0x33]))
        [(1, [0x31]), (2, [0x32, 0x33])] ∧
      Encodes (ccuSentConfigureWifiCredentials 3 (stringView [0x6B, 0x65, 0x79]))
        [(1, [3]), (2, [0x6B, 0x65, 0x79])] ∧
      Encodes (ccuSentActivateSystemMsg (stringView [0x35, 0x32]) (stringView [0x31, 0x33])
          (stringView [1, 2, 3, 4, 5, 6, 7, 8, 9, 0]))
        [(1, [0x35, 0x32]), (2, [0x31, 0x33]), (3, [1, 2, 3, 4, 5, 6, 7, 8, 9, 0])] := by
  refine ⟨encoders_round_trip.1 _ _ _ _ ?_, encoders_round_trip.2.1 3 _ _ ?_,
    encoders_round_trip.2.2.1 _ _ _ _ _ _ ?_⟩
  · exact ⟨stringView_cString (by decide) (by simp), stringView_cString (by decide) (by simp),
      by decide⟩
  · exact ⟨stringView_cString (by decide) (by simp), by decide⟩
  · exact ⟨stringView_cString (by decide) (by simp), stringView_cString (by decide) (by simp),
      by decide, by decide, fun _ _ => rfl, by decide⟩

end EspBridges.Ccu
