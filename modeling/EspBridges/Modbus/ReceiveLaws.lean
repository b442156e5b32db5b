import EspBridges.Icom.ModbusLaws
import EspBridges.Lib.CrcErrors
import EspBridges.Modbus.Receive

namespace EspBridges.Modbus

open Bytes Icom

theorem byteAt_append_left {xs ys : List Byte} {i : Nat} (h : i < xs.length) :
    byteAt (xs ++ ys) i = byteAt xs i := by
  unfold byteAt
  rw [List.getD_eq_getElem?_getD, List.getD_eq_getElem?_getD, List.getElem?_append_left h]

theorem byteAt_append_right {xs ys : List Byte} (i : Nat) :
    byteAt (xs ++ ys) (xs.length + i) = byteAt ys i := by
  unfold byteAt
  rw [List.getD_eq_getElem?_getD, List.getD_eq_getElem?_getD,
    List.getElem?_append_right (Nat.le_add_right _ _), Nat.add_sub_cancel_left]

def messageLength (type : MsgType) (msg : List Byte) : Nat :=
  2 + computeMetaLengthAfterFunction (byteAt msg 1) type + computeDataLengthAfterMeta msg type

/-- As long as it says, and no longer than the protocol allows. -/
structure Whole (type : MsgType) (msg : List Byte) : Prop where
  length_eq : msg.length = messageLength type msg
  length_le : msg.length ≤ modbusRtuMaxAduLength

theorem dataLength_ge (type : MsgType) (msg : List Byte) :
    modbusRtuChecksumLength ≤ computeDataLengthAfterMeta msg type := by
  cases type with
  | indication => exact Nat.le_add_left _ _
  | confirmation => exact Nat.le_add_left _ _

theorem Whole.length_ge {type : MsgType} {msg : List Byte} (h : Whole type msg) : 4 ≤ msg.length := by
  have hdata := dataLength_ge type msg
  have hlength := h.length_eq
  unfold messageLength at hlength
  unfold modbusRtuChecksumLength at hdata
  omega

theorem dataLength_append {type : MsgType} {start : List Byte} (rest : List Byte)
    (h : start.length = 2 + computeMetaLengthAfterFunction (byteAt start 1) type) :
    computeDataLengthAfterMeta (start ++ rest) type = computeDataLengthAfterMeta start type := by
  have hfunction : byteAt (start ++ rest) modbusRtuHeaderLength = byteAt start 1 :=
    byteAt_append_left (by unfold modbusRtuHeaderLength; omega)
  cases type with
  | indication =>
    unfold computeDataLengthAfterMeta
    dsimp only
    rw [hfunction]
    show _ = (if byteAt start 1 = _ ∨ byteAt start 1 = _ then _
      else if byteAt start 1 = _ then _ else 0) + modbusRtuChecksumLength
    by_cases hmultiple : byteAt start 1 = modbusFcWriteMultipleCoils ∨
        byteAt start 1 = modbusFcWriteMultipleRegisters
    · have hmeta : computeMetaLengthAfterFunction (byteAt start 1) .indication = 5 := by
        rcases hmultiple with hfc | hfc <;> rw [hfc] <;> rfl
      rw [if_pos hmultiple, if_pos hmultiple,
        byteAt_append_left (by unfold modbusRtuHeaderLength; omega)]
    · rw [if_neg hmultiple, if_neg hmultiple]
      by_cases hboth : byteAt start 1 = modbusFcWriteAndReadRegisters
      · have hmeta : computeMetaLengthAfterFunction (byteAt start 1) .indication = 9 := by
          rw [hboth]
          rfl
        rw [if_pos hboth, if_pos hboth, byteAt_append_left (by unfold modbusRtuHeaderLength; omega)]
      · rw [if_neg hboth, if_neg hboth]
  | confirmation =>
    have hmeta : 1 ≤ computeMetaLengthAfterFunction (byteAt start 1) .confirmation := by
      unfold computeMetaLengthAfterFunction Icom.computeMetaLengthAfterFunction
      dsimp only
      split
      · decide
      · split
        · decide
        · decide
    have hcount : byteAt (start ++ rest) (modbusRtuHeaderLength + 1) =
        byteAt start (modbusRtuHeaderLength + 1) :=
      byteAt_append_left (by unfold modbusRtuHeaderLength; omega)
    unfold computeDataLengthAfterMeta Icom.computeDataLengthAfterMeta
    dsimp only
    rw [hfunction, hcount]
    rfl

theorem recv_some {line line' : Line} {n : Nat} {xs : List Byte}
    (h : line.recv n = (some xs, line')) :
    xs.length = n ∧ line.rx = xs ++ line'.rx ∧ line'.sent = line.sent := by
  unfold Line.recv at h
  split at h
  · obtain ⟨hxs, rfl⟩ := Prod.mk.inj h
    obtain rfl := Option.some.inj hxs
    refine ⟨?_, (List.take_append_drop n line.rx).symm, rfl⟩
    rw [List.length_take]
    omega
  · exact nomatch (Prod.mk.inj h).1

section Whole

variable {type : MsgType} {ctx : ModbusT}

theorem receiveMsg_whole {msg : List Byte} (h : Whole type msg) (sent : List (List Byte))
    (rest : List Byte) :
    receiveMsg type ctx ⟨sent, msg ++ rest⟩ = (checkIntegrity ctx msg, msg, ⟨sent, rest⟩) := by
  have hlength := h.length_eq
  have hroom := h.length_le
  have hmin := h.length_ge
  -- the three pieces in which it is read
  obtain ⟨head, tail, hhead, rfl⟩ : ∃ head tail, head.length = 2 ∧ msg = head ++ tail :=
    ⟨msg.take 2, msg.drop 2, by rw [List.length_take]; omega, (List.take_append_drop 2 msg).symm⟩
  have hfunction : byteAt (head ++ tail) 1 = byteAt head 1 := byteAt_append_left (by omega)
  unfold messageLength at hlength
  rw [hfunction, List.length_append] at hlength
  obtain ⟨more, data, hmore, rfl⟩ : ∃ more data,
      more.length = computeMetaLengthAfterFunction (byteAt head 1) type ∧ tail = more ++ data :=
    ⟨tail.take (computeMetaLengthAfterFunction (byteAt head 1) type), tail.drop _,
      by rw [List.length_take]; omega, (List.take_append_drop _ tail).symm⟩
  have hstart : byteAt (head ++ more) 1 = byteAt head 1 := byteAt_append_left (by omega)
  have hdata : data.length = computeDataLengthAfterMeta (head ++ more) type := by
    rw [← List.append_assoc, dataLength_append data (by rw [hstart, List.length_append]; omega),
      List.length_append] at hlength
    omega
  have hfirst := recv_append sent head (more ++ (data ++ rest))
  have hsecond := recv_append sent more (data ++ rest)
  have hthird := recv_append sent data rest
  rw [hhead] at hfirst
  rw [hmore] at hsecond
  rw [hdata] at hthird
  rw [List.length_append, List.length_append] at hroom
  unfold receiveMsg
  rw [show head ++ (more ++ data) ++ rest = head ++ (more ++ (data ++ rest)) by
      rw [List.append_assoc, List.append_assoc],
    show Line.recv _ (modbusRtuHeaderLength + 1) = _ from hfirst]
  dsimp only
  rw [show modbusRtuHeaderLength = 1 from rfl, hsecond]
  dsimp only
  rw [hthird, if_neg (by rw [List.length_append]; omega)]
  dsimp only
  rw [List.append_assoc]

theorem receiveMsg_ok {line line' : Line} {n : Nat} {msg : List Byte}
    (h : receiveMsg type ctx line = (.ok n, msg, line')) :
    Whole type msg ∧ line.rx = msg ++ line'.rx ∧ line'.sent = line.sent ∧
      checkIntegrity ctx msg = .ok n := by
  unfold receiveMsg at h
  split at h
  · exact nomatch (Prod.mk.inj h).1
  next head line₁ hhead =>
    obtain ⟨hheadLength, hheadRx, hheadSent⟩ := recv_some hhead
    split at h
    · exact nomatch (Prod.mk.inj h).1
    next more line₂ hmore =>
      obtain ⟨hmoreLength, hmoreRx, hmoreSent⟩ := recv_some hmore
      dsimp only at h
      split at h
      · exact nomatch (Prod.mk.inj h).1
      next hroom =>
        split at h
        · exact nomatch (Prod.mk.inj h).1
        next data line₃ hdata =>
          obtain ⟨hdataLength, hdataRx, hdataSent⟩ := recv_some hdata
          obtain ⟨hcheck, hrest⟩ := Prod.mk.inj h
          obtain ⟨rfl, rfl⟩ := Prod.mk.inj hrest
          have hheadTwo : head.length = 2 := hheadLength
          have hstart : byteAt (head ++ more) 1 = byteAt head 1 := byteAt_append_left (by omega)
          have hall : byteAt (head ++ more ++ data) 1 = byteAt head 1 := by
            rw [byteAt_append_left (by rw [List.length_append]; omega), hstart]
          have hstartLength : (head ++ more).length =
              2 + computeMetaLengthAfterFunction (byteAt (head ++ more) 1) type := by
            rw [hstart, List.length_append, hheadTwo]
            exact congrArg _ hmoreLength
          refine ⟨⟨?_, ?_⟩, ?_, hdataSent.trans (hmoreSent.trans hheadSent), hcheck⟩
          · unfold messageLength
            rw [hall, dataLength_append data hstartLength, List.length_append, hstartLength, hstart,
              hdataLength]
          · rw [List.length_append]
            omega
          · rw [hheadRx, hmoreRx, hdataRx, List.append_assoc, List.append_assoc]

theorem receiveMsg_sent (line : Line) : (receiveMsg type ctx line).2.2.sent = line.sent := by
  unfold receiveMsg
  have hhead := recv_sent line (modbusRtuHeaderLength + 1)
  split
  next h => rw [h] at hhead; exact hhead
  next head line₁ h =>
    rw [h] at hhead
    have hmore := recv_sent line₁
      (computeMetaLengthAfterFunction (byteAt head modbusRtuHeaderLength) type)
    split
    next h => rw [h] at hmore; exact hmore.trans hhead
    next more line₂ h =>
      rw [h] at hmore
      have hdata := recv_sent line₂ (computeDataLengthAfterMeta (head ++ more) type)
      dsimp only
      split
      · exact hmore.trans hhead
      · split
        next h => rw [h] at hdata; exact hdata.trans (hmore.trans hhead)
        next h => rw [h] at hdata; exact hdata.trans (hmore.trans hhead)

theorem receiveMsg_silent (sent : List (List Byte)) :
    receiveMsg type ctx ⟨sent, []⟩ = (.error .etimedout, [], ⟨sent, []⟩) := rfl

end Whole

section Integrity

variable {ctx : ModbusT} {msg : List Byte}

/-- The messages that are not passed over. -/
def Heeds (ctx : ModbusT) (unit : Nat) : Prop := unit = ctx.slave ∨ unit = modbusBroadcastAddress

instance (ctx : ModbusT) (unit : Nat) : Decidable (Heeds ctx unit) :=
  inferInstanceAs (Decidable (_ ∨ _))

theorem checkIntegrity_other (h : ¬Heeds ctx (byteAt msg 0)) : checkIntegrity ctx msg = .ok 0 := by
  have hzero : Icom.checkIntegrity ctx msg = 0 := by
    unfold Icom.checkIntegrity
    rw [if_pos ⟨fun heq => h (.inl heq), fun heq => h (.inr heq)⟩]
  unfold checkIntegrity
  rw [hzero]
  rfl

theorem checkIntegrity_of_heeds (h : Heeds ctx (byteAt msg 0)) :
    checkIntegrity ctx msg = if (crc16 (msg.take (msg.length - 2))).toNat =
      byteAt msg (msg.length - 2) * 256 + byteAt msg (msg.length - 1) then .ok msg.length
      else .error .badCrc := by
  have hsame : Icom.checkIntegrity ctx msg = if (crc16 (msg.take (msg.length - 2))).toNat =
      byteAt msg (msg.length - 2) * 256 + byteAt msg (msg.length - 1)
      then (msg.length : Int) else -1 := by
    unfold Icom.checkIntegrity
    rw [if_neg]
    rintro ⟨hslave, hbroadcast⟩
    exact h.elim hslave hbroadcast
  unfold checkIntegrity
  rw [hsame]
  dsimp only
  split
  · rw [if_neg (by omega)]
    rfl
  · rfl

theorem exists_body (h : 2 ≤ msg.length) : ∃ body a b, msg = body ++ [a, b] := by
  obtain ⟨check, hcheck⟩ : ∃ check, check = msg.drop (msg.length - 2) := ⟨_, rfl⟩
  have hlength : check.length = 2 := by
    rw [hcheck, List.length_drop]
    omega
  match check, hlength with
  | [a, b], _ => exact ⟨msg.take (msg.length - 2), a, b, by
      rw [hcheck, List.take_append_drop]⟩

theorem body_parts (body : List Byte) (a b : Byte) :
    (body ++ [a, b]).take ((body ++ [a, b]).length - 2) = body ∧
      byteAt (body ++ [a, b]) ((body ++ [a, b]).length - 2) = a.toNat ∧
      byteAt (body ++ [a, b]) ((body ++ [a, b]).length - 1) = b.toNat := by
  have hlength : (body ++ [a, b]).length = body.length + 2 := List.length_append
  have hfirst := @byteAt_append_right body [a, b] 0
  have hsecond := @byteAt_append_right body [a, b] 1
  refine ⟨?_, ?_, ?_⟩
  · rw [hlength, Nat.add_sub_cancel, List.take_left]
  · rw [hlength, Nat.add_sub_cancel]
    exact hfirst
  · rw [hlength, show body.length + 2 - 1 = body.length + 1 by omega]
    exact hsecond

theorem checked_iff (body : List Byte) (a b : Byte) :
    (crc16 body).toNat = a.toNat * 256 + b.toNat ↔ body ++ [a, b] = frame body := by
  have hhi := (crcBytes body).1.toNat_lt
  have hlo := (crcBytes body).2.toNat_lt
  have ha := a.toNat_lt
  have hb := b.toNat_lt
  rw [← sendMsgPre_eq, sendMsgPre, crc16_hi, crc16_lo, crc16_toNat]
  constructor
  · intro h
    have hfirst : a = (crcBytes body).1 := UInt8.toNat_inj.mp (by omega)
    have hsecond : b = (crcBytes body).2 := UInt8.toNat_inj.mp (by omega)
    rw [hfirst, hsecond]
  · intro h
    obtain ⟨hfirst, hrest⟩ := List.cons.inj (List.append_cancel_left h)
    obtain ⟨hsecond, _⟩ := List.cons.inj hrest
    rw [hfirst, hsecond]

theorem checkIntegrity_heeded {n : Nat} (hlength : 2 ≤ msg.length) (hheeds : Heeds ctx (byteAt msg 0))
    (h : checkIntegrity ctx msg = .ok n) : n = msg.length ∧ ∃ body, msg = frame body := by
  obtain ⟨body, a, b, rfl⟩ := exists_body hlength
  obtain ⟨htake, hfirst, hsecond⟩ := body_parts body a b
  rw [checkIntegrity_of_heeds hheeds, htake, hfirst, hsecond] at h
  split at h
  next hcrc => exact ⟨(Except.ok.inj h).symm, body, (checked_iff body a b).mp hcrc⟩
  next => exact nomatch h

theorem checkIntegrity_pos {n : Nat} (hlength : 2 ≤ msg.length) (hn : 0 < n)
    (h : checkIntegrity ctx msg = .ok n) :
    Heeds ctx (byteAt msg 0) ∧ n = msg.length ∧ ∃ body, msg = frame body := by
  by_cases hheeds : Heeds ctx (byteAt msg 0)
  · exact ⟨hheeds, checkIntegrity_heeded hlength hheeds h⟩
  · rw [checkIntegrity_other hheeds] at h
    exact absurd (Except.ok.inj h) (Nat.ne_of_lt hn)

theorem checkIntegrity_frame {body : List Byte} (h : Heeds ctx (byteAt (frame body) 0)) :
    checkIntegrity ctx (frame body) = .ok (frame body).length := by
  obtain ⟨check, hcheck, hframe⟩ := frame_split body
  match check, hcheck with
  | [a, b], _ =>
    obtain ⟨htake, hfirst, hsecond⟩ := body_parts body a b
    rw [checkIntegrity_of_heeds h]
    rw [hframe, htake, hfirst, hsecond, if_pos ((checked_iff body a b).mpr hframe.symm)]

/-- A message is taken for one just in case a frame for this unit, as long as it says, is next on the
line; then it is that frame, and all the rest is left. -/
theorem receiveMsg_pos {type : MsgType} {line line' : Line} {n : Nat} :
    receiveMsg type ctx line = (.ok n, msg, line') ∧ 0 < n ↔
      line = ⟨line'.sent, msg ++ line'.rx⟩ ∧ n = msg.length ∧ Whole type msg ∧
        Heeds ctx (byteAt msg 0) ∧ ∃ body, msg = frame body := by
  constructor
  · rintro ⟨h, hn⟩
    obtain ⟨hwhole, hrx, hsent, hcheck⟩ := receiveMsg_ok h
    have hlength : 2 ≤ msg.length := Nat.le_trans (by decide) hwhole.length_ge
    obtain ⟨hheeds, hsize, hframe⟩ := checkIntegrity_pos hlength hn hcheck
    refine ⟨?_, hsize, hwhole, hheeds, hframe⟩
    rw [hsent, ← hrx]
  · rintro ⟨hline, rfl, hwhole, hheeds, body, rfl⟩
    have hmin := hwhole.length_ge
    rw [hline, receiveMsg_whole hwhole, checkIntegrity_frame hheeds]
    exact ⟨rfl, by omega⟩

end Integrity

end EspBridges.Modbus
