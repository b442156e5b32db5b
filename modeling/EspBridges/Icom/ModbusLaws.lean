import EspBridges.Icom.Modbus

namespace EspBridges.Icom

open Bytes

def modbusPoly : BitVec 16 := 0xA001

def modbusCrc (body : List Byte) : BitVec 16 :=
  Crc.remainder modbusPoly 0xFFFF (body.map UInt8.toBitVec)

/-- A frame of the protocol: the low octet of the check value comes first. -/
def frame (body : List Byte) : List Byte :=
  body ++ [⟨(modbusCrc body).setWidth 8⟩, ⟨(modbusCrc body >>> 8).setWidth 8⟩]

theorem table_entry : ∀ i : Fin 256, Crc.shifts modbusPoly 8 (.ofNat 16 i.val) =
    (tableCrcLo.getD i.val 0).toBitVec ++ (tableCrcHi.getD i.val 0).toBitVec := by
  decide +kernel

/-- The remainder as the code keeps it, its low octet in `crc_hi`. -/
def remainderOf (crc : Byte × Byte) : BitVec 16 := crc.2.toBitVec ++ crc.1.toBitVec

def crcTurn (crc : Byte × Byte) (b : Byte) : Byte × Byte :=
  (crc.2 ^^^ tableCrcHi.getD (crc.1 ^^^ b).toNat 0, tableCrcLo.getD (crc.1 ^^^ b).toNat 0)

theorem setWidth_octet (b : BitVec 8) : b.setWidth 16 = 0#8 ++ b := by
  apply BitVec.eq_of_getLsbD_eq
  intro i hi
  rw [BitVec.getLsbD_setWidth, BitVec.getLsbD_append, decide_eq_true hi, Bool.true_and]
  by_cases hlow : i < 8
  · rw [if_pos hlow]
  · rw [if_neg hlow, BitVec.getLsbD_zero, BitVec.getLsbD_of_ge b i (by omega)]

theorem append_ushiftRight (a b : BitVec 8) : (a ++ b) >>> 8 = 0#8 ++ a := by
  apply BitVec.eq_of_getLsbD_eq
  intro i hi
  rw [BitVec.getLsbD_ushiftRight, ← setWidth_octet, BitVec.getLsbD_append, BitVec.getLsbD_setWidth,
    if_neg (by omega), decide_eq_true hi, Bool.true_and, Nat.add_sub_cancel_left]

theorem remainderOf_turn (crc : Byte × Byte) (b : Byte) :
    Crc.step modbusPoly (remainderOf crc) b.toBitVec = remainderOf (crcTurn crc b) := by
  obtain ⟨crcHi, crcLo⟩ := crc
  have hxor : remainderOf (crcHi, crcLo) ^^^ b.toBitVec.setWidth 16 =
      crcLo.toBitVec ++ (crcHi ^^^ b).toBitVec := by
    rw [setWidth_octet, remainderOf, BitVec.xor_append, BitVec.xor_zero, UInt8.toBitVec_xor]
  have hlow : Crc.low (crcLo.toBitVec ++ (crcHi ^^^ b).toBitVec) =
      .ofNat 16 (crcHi ^^^ b).toNat := by
    rw [Crc.low, BitVec.setWidth_append_eq_right, ← BitVec.ofNat_toNat]
    rfl
  have hentry : Crc.shifts modbusPoly 8 (.ofNat 16 (crcHi ^^^ b).toNat) = _ :=
    table_entry ⟨(crcHi ^^^ b).toNat, (crcHi ^^^ b).toNat_lt⟩
  rw [Crc.step, hxor, Crc.shifts_octet, hlow, hentry, append_ushiftRight, BitVec.xor_append,
    BitVec.zero_xor, ← UInt8.toBitVec_xor]
  rfl

theorem remainderOf_foldl (crc : Byte × Byte) (body : List Byte) :
    Crc.remainder modbusPoly (remainderOf crc) (body.map UInt8.toBitVec) =
      remainderOf (body.foldl crcTurn crc) := by
  induction body generalizing crc with
  | nil => rfl
  | cons b body ih =>
    rw [List.foldl_cons, ← ih, ← remainderOf_turn]
    rfl

def crcBytes (body : List Byte) : Byte × Byte := body.foldl crcTurn (0xFF, 0xFF)

theorem crc16_eq (body : List Byte) :
    crc16 body = ((crcBytes body).1.toUInt16 <<< 8) ||| (crcBytes body).2.toUInt16 := rfl

theorem modbusCrc_eq (body : List Byte) : modbusCrc body = remainderOf (crcBytes body) :=
  remainderOf_foldl (0xFF, 0xFF) body

theorem crc16_toNat (body : List Byte) :
    (crc16 body).toNat = (crcBytes body).1.toNat * 256 + (crcBytes body).2.toNat := by
  have hhi := (crcBytes body).1.toNat_lt
  have hlo := (crcBytes body).2.toNat_lt
  have hshift : ((crcBytes body).1.toUInt16 <<< 8).toNat = (crcBytes body).1.toNat <<< 8 := by
    rw [UInt16.toNat_shiftLeft, UInt8.toNat_toUInt16]
    apply Nat.mod_eq_of_lt
    rw [Nat.shiftLeft_eq]
    show (crcBytes body).1.toNat * 256 < 65536
    omega
  rw [crc16_eq, UInt16.toNat_or, hshift, UInt8.toNat_toUInt16, ← Nat.shiftLeft_add_eq_or_of_lt hlo,
    Nat.shiftLeft_eq]

theorem crc16_hi (body : List Byte) : (crc16 body >>> 8).toUInt8 = (crcBytes body).1 := by
  have hlo := (crcBytes body).2.toNat_lt
  have hhi := (crcBytes body).1.toNat_lt
  rw [← UInt8.toNat_inj, UInt16.toNat_toUInt8, UInt16.toNat_shiftRight, crc16_toNat,
    Nat.shiftRight_eq_div_pow]
  show ((crcBytes body).1.toNat * 256 + (crcBytes body).2.toNat) / 256 % 256 = _
  omega

theorem crc16_lo (body : List Byte) : (crc16 body).toUInt8 = (crcBytes body).2 := by
  have hlo := (crcBytes body).2.toNat_lt
  rw [← UInt8.toNat_inj, UInt16.toNat_toUInt8, crc16_toNat]
  omega

theorem sendMsgPre_eq (req : List Byte) : sendMsgPre req = frame req := by
  rw [sendMsgPre, frame, modbusCrc_eq, remainderOf, append_ushiftRight,
    BitVec.setWidth_append_eq_right, BitVec.setWidth_append_eq_right]
  rw [crc16_hi, crc16_lo]

theorem sendMsg_pos (msg : List Byte) (answers : Answers) (line : Line) :
    (sendMsg msg answers line).1 > 0 := by
  show 0 < (msg ++ _).length
  rw [List.length_append, List.length_cons]
  omega

theorem receiveMsg_cases (ctx : ModbusT) (line : Line) :
    (receiveMsg ctx line).1 = -1 ∨
      (receiveMsg ctx line).1 = checkIntegrity ctx (receiveMsg ctx line).2.1 := by
  unfold receiveMsg
  split
  · exact .inl rfl
  · split
    · exact .inl rfl
    · dsimp only
      split
      · exact .inl rfl
      · split
        · exact .inl rfl
        · exact .inr rfl

/-- A context without a slave takes no message but a broadcast. -/
theorem checkIntegrity_unset {ctx : ModbusT} (hslave : ctx.slave = -1) {msg : List Byte}
    (h : byteAt msg 0 ≠ modbusBroadcastAddress) : checkIntegrity ctx msg = 0 := by
  unfold checkIntegrity
  rw [if_pos ⟨by rw [hslave]; omega, h⟩]

theorem buildRequestBasis_unset {ctx : ModbusT} (hslave : ctx.slave = -1) (function addr nb : Nat) :
    byteAt (buildRequestBasis ctx function addr nb) 0 = 255 := by
  unfold buildRequestBasis
  rw [hslave]
  rfl

theorem responseLength_pos {req : List Byte} (h : byteAt req 1 ≠ modbusFcReportSlaveId) :
    0 < computeResponseLengthFromRequest req := by
  unfold computeResponseLengthFromRequest
  dsimp only
  split
  · exact absurd ‹_› h
  · have hheader : (0 : Int) < modbusRtuHeaderLength := by decide
    omega

theorem checkConfirmation_ignored {req rsp : List Byte}
    (h : byteAt req 1 ≠ modbusFcReportSlaveId) : checkConfirmation req rsp 0 = -1 := by
  have hpos := responseLength_pos h
  unfold checkConfirmation
  by_cases hpre : preCheckConfirmation req rsp = -1
  · rw [if_pos hpre]
  · by_cases hexception : byteAt rsp modbusRtuHeaderLength ≥ 0x80
    · rw [if_neg hpre, if_pos hexception]
    · rw [if_neg hpre, if_neg hexception, if_neg (by omega)]

theorem checkConfirmation_otherSlave {req rsp : List Byte} {rc : Int}
    (hreq : byteAt req 0 ≠ modbusBroadcastAddress) (h : byteAt req 0 ≠ byteAt rsp 0) :
    checkConfirmation req rsp rc = -1 := by
  have hpre : preCheckConfirmation req rsp = -1 := if_pos ⟨h, hreq⟩
  unfold checkConfirmation
  rw [if_pos hpre]

theorem buildRequestBasis_function (ctx : ModbusT) {function : Nat} (h : function < 256)
    (addr nb : Nat) : byteAt (buildRequestBasis ctx function addr nb) 1 = function := by
  show (UInt8.ofNat function).toNat = function
  rw [UInt8.toNat_ofNat', Nat.mod_eq_of_lt h]

theorem confirm_unset {ctx : ModbusT} (hslave : ctx.slave = -1) {function : Nat}
    (hfunction : function < modbusFcReportSlaveId) (addr nb : Nat) (answers : Answers)
    (line : Line) : (confirm ctx function addr nb answers line).1 = -1 := by
  have hlt : function < 17 := hfunction
  have hunit := buildRequestBasis_unset hslave function addr nb
  have hfc := buildRequestBasis_function ctx (show function < 256 by omega) addr nb
  unfold confirm
  generalize buildRequestBasis ctx function addr nb = req at *
  dsimp only
  split
  · split
    · rfl
    · rcases receiveMsg_cases ctx (sendMsg req answers line).2 with hrc | hrc
      · exact absurd hrc ‹_›
      · by_cases hrsp : byteAt req 0 = byteAt (receiveMsg ctx (sendMsg req answers line).2).2.1 0
        · rw [hrc, checkIntegrity_unset hslave (by rw [← hrsp, hunit]; decide)]
          exact checkConfirmation_ignored (by rw [hfc]; omega)
        · exact checkConfirmation_otherSlave (by rw [hunit]; decide) hrsp
  · exact absurd (sendMsg_pos req answers line) ‹_›

theorem recv_sent (line : Line) (n : Nat) : (line.recv n).2.sent = line.sent := by
  unfold Line.recv
  split <;> rfl

theorem receiveMsg_sent (ctx : ModbusT) (line : Line) :
    (receiveMsg ctx line).2.2.sent = line.sent := by
  unfold receiveMsg
  have hhead := recv_sent line (modbusRtuHeaderLength + 1)
  split
  next h => rw [h] at hhead; exact hhead
  next head line₁ h =>
    rw [h] at hhead
    have hmore := recv_sent line₁ (computeMetaLengthAfterFunction (byteAt head modbusRtuHeaderLength))
    split
    next h => rw [h] at hmore; exact hmore.trans hhead
    next more line₂ h =>
      rw [h] at hmore
      have hdata := recv_sent line₂ (computeDataLengthAfterMeta (head ++ more))
      dsimp only
      split
      · exact hmore.trans hhead
      · split
        next h => rw [h] at hdata; exact hdata.trans (hmore.trans hhead)
        next h => rw [h] at hdata; exact hdata.trans (hmore.trans hhead)

theorem confirm_sent (ctx : ModbusT) (function addr nb : Nat) (answers : Answers) (line : Line) :
    (confirm ctx function addr nb answers line).2.2.sent =
      line.sent ++ [frame (buildRequestBasis ctx function addr nb)] := by
  have hreceive := receiveMsg_sent ctx
    (sendMsg (buildRequestBasis ctx function addr nb) answers line).2
  rw [← sendMsgPre_eq]
  unfold confirm
  dsimp only
  split
  · split <;> exact hreceive
  · rfl

theorem readBitsWith_unset {ctx : ModbusT} (hslave : ctx.slave = -1) {function nb : Nat}
    (hfunction : function < modbusFcReportSlaveId) (hnb : nb ≤ modbusMaxReadBits) (addr : Nat)
    (answers : Answers) (line : Line) :
    ∃ line', readBitsWith function (some ctx) addr nb answers line = (-1, [], line') ∧
      line'.sent = line.sent ++ [frame (buildRequestBasis ctx function addr nb)] := by
  have hconfirm := confirm_unset hslave hfunction addr nb answers line
  refine ⟨(confirm ctx function addr nb answers line).2.2, ?_, confirm_sent ..⟩
  unfold readBitsWith readIoStatus
  dsimp only
  rw [if_neg (Nat.not_lt.mpr hnb), if_pos hconfirm]
  rfl

theorem readRegistersWith_unset {ctx : ModbusT} (hslave : ctx.slave = -1) {function nb : Nat}
    (hfunction : function < modbusFcReportSlaveId) (hnb : nb ≤ modbusMaxReadRegisters)
    (addr : Nat) (answers : Answers) (line : Line) :
    ∃ line', readRegistersWith function (some ctx) addr nb answers line = (-1, [], line') ∧
      line'.sent = line.sent ++ [frame (buildRequestBasis ctx function addr nb)] := by
  have hconfirm := confirm_unset hslave hfunction addr nb answers line
  refine ⟨(confirm ctx function addr nb answers line).2.2, ?_, confirm_sent ..⟩
  unfold readRegistersWith readRegisters
  dsimp only
  rw [if_neg (Nat.not_lt.mpr hnb), if_neg (Nat.not_lt.mpr hnb), if_pos hconfirm]

theorem checkIntegrity_frame {ctx : ModbusT} {body : List Byte}
    (hslave : (byteAt (frame body) 0 : Int) = ctx.slave) :
    checkIntegrity ctx (frame body) = (frame body).length := by
  have hlength : (frame body).length = body.length + 2 := List.length_append
  have hbody : (frame body).take ((frame body).length - 2) = body := by
    rw [hlength, Nat.add_sub_cancel, frame, List.take_left]
  have hcrc : byteAt (frame body) ((frame body).length - 2) * 256 +
      byteAt (frame body) ((frame body).length - 1) = (crc16 body).toNat := by
    rw [hlength, Nat.add_sub_cancel, show body.length + 2 - 1 = body.length + 1 by omega,
      ← sendMsgPre_eq, sendMsgPre, crc16_hi, crc16_lo, crc16_toNat]
    unfold byteAt
    rw [List.getD_eq_getElem?_getD, List.getD_eq_getElem?_getD,
      List.getElem?_append_right (Nat.le_refl _), List.getElem?_append_right (Nat.le_succ _),
      Nat.sub_self, show body.length.succ - body.length = 1 by omega]
    rfl
  unfold checkIntegrity
  rw [if_neg fun h => h.1 hslave]
  dsimp only
  rw [hbody, hcrc, if_pos rfl]

theorem ofInt_unit (unit : Byte) : UInt8.ofInt unit.toNat = unit := by
  have hlt := unit.toNat_lt
  have hmod : ((unit.toNat : Int) % 2 ^ 8).toNat = unit.toNat := by omega
  show UInt8.ofNat ((unit.toNat : Int) % 2 ^ 8).toNat = unit
  rw [hmod, UInt8.ofNat_toNat]

def registerReply (unit : Byte) (function : Nat) (w : UInt16) : List Byte :=
  [unit, .ofNat function, 2, .ofNat (w.toNat / 256), .ofNat w.toNat]

def bitReply (unit : Byte) (function : Nat) (b : Bool) : List Byte :=
  [unit, .ofNat function, 1, if b then 1 else 0]

def readReply (unit : Byte) (function : Nat) (data : List Byte) : List Byte :=
  [unit, .ofNat function] ++ ([.ofNat data.length] ++ data)

theorem recv_append (sent : List (List Byte)) (xs ys : List Byte) :
    Line.recv ⟨sent, xs ++ ys⟩ xs.length = (some xs, ⟨sent, ys⟩) := by
  have hlength : xs.length ≤ (xs ++ ys).length := by
    rw [List.length_append]
    omega
  unfold Line.recv
  rw [if_pos hlength]
  dsimp only
  rw [List.take_left, List.drop_left]

theorem function_byte {function : Nat} (h : function ≤ 4) :
    (UInt8.ofNat function).toNat = function := by
  rw [UInt8.toNat_ofNat']
  omega

theorem frame_split (body : List Byte) :
    ∃ check : List Byte, check.length = 2 ∧ frame body = body ++ check :=
  ⟨[⟨(modbusCrc body).setWidth 8⟩, ⟨(modbusCrc body >>> 8).setWidth 8⟩], rfl, rfl⟩

theorem readMeta_length {function : Nat} (h : function ≤ 4) :
    computeMetaLengthAfterFunction function = 1 := by
  unfold computeMetaLengthAfterFunction modbusFcWriteSingleCoil modbusFcWriteSingleRegister
    modbusFcWriteMultipleCoils modbusFcWriteMultipleRegisters modbusFcMaskWriteRegister
  rw [if_neg (by omega), if_neg (by omega)]

theorem receiveMsg_pieces (ctx : ModbusT) (sent : List (List Byte)) {head more data : List Byte}
    (hhead : head.length = 2)
    (hmore : more.length = computeMetaLengthAfterFunction (byteAt head modbusRtuHeaderLength))
    (hdata : data.length = computeDataLengthAfterMeta (head ++ more))
    (hroom : (head ++ more).length + data.length ≤ modbusRtuMaxAduLength) :
    receiveMsg ctx ⟨sent, head ++ (more ++ data)⟩ =
      (checkIntegrity ctx (head ++ more ++ data), head ++ more ++ data, ⟨sent, []⟩) := by
  have hfirst := recv_append sent head (more ++ data)
  have hsecond := recv_append sent more data
  have hthird := recv_append sent data []
  rw [hhead] at hfirst
  rw [hmore] at hsecond
  rw [List.append_nil, hdata] at hthird
  unfold receiveMsg
  rw [show Line.recv _ (modbusRtuHeaderLength + 1) = _ from hfirst]
  dsimp only
  rw [hsecond]
  dsimp only
  rw [hthird, if_neg (by omega)]

theorem receiveMsg_readReply (ctx : ModbusT) (unit : Byte) {function : Nat} (hfunction : function ≤ 4)
    {data : List Byte} (hdata : data.length ≤ 251) (sent : List (List Byte)) :
    receiveMsg ctx ⟨sent, frame (readReply unit function data)⟩ =
      (checkIntegrity ctx (frame (readReply unit function data)),
        frame (readReply unit function data), ⟨sent, []⟩) := by
  obtain ⟨check, hcheck, hframe⟩ := frame_split (readReply unit function data)
  have hlength : (data ++ check).length = data.length + 2 := by
    rw [List.length_append, hcheck]
  have hfc : byteAt [unit, UInt8.ofNat function] modbusRtuHeaderLength = function :=
    function_byte hfunction
  have hcount : (UInt8.ofNat data.length).toNat = data.length := by
    rw [UInt8.toNat_ofNat']
    omega
  have hrest : (data ++ check).length = computeDataLengthAfterMeta
      ([unit, UInt8.ofNat function] ++ [UInt8.ofNat data.length]) := by
    unfold computeDataLengthAfterMeta
    dsimp only
    rw [if_pos (.inl (Nat.le_trans (Nat.le_of_eq hfc) hfunction)), hlength]
    exact congrArg (· + 2) hcount.symm
  have hpieces := receiveMsg_pieces ctx sent rfl (by rw [hfc, readMeta_length hfunction]; rfl) hrest
    (show 3 + (data ++ check).length ≤ 256 by omega)
  rw [hframe, readReply, List.append_assoc, List.append_assoc]
  rw [List.append_assoc] at hpieces
  exact hpieces

section Confirmation

variable {req rsp : List Byte} {function : Nat}

theorem preCheck_same (hunit : byteAt req 0 = byteAt rsp 0) : preCheckConfirmation req rsp ≠ -1 := by
  rw [preCheckConfirmation, if_neg fun h => h.1 hunit]
  decide

variable (hunit : byteAt req 0 = byteAt rsp 0)
  (hreq : byteAt req modbusRtuHeaderLength = function)
  (hrsp : byteAt rsp modbusRtuHeaderLength = function)
  (hnb : byteAt req (modbusRtuHeaderLength + 3) = 0 ∧ byteAt req (modbusRtuHeaderLength + 4) = 1)

include hunit hreq hrsp hnb

theorem checkConfirmation_register (hfunction : function = 3 ∨ function = 4)
    (hcount : byteAt rsp (modbusRtuHeaderLength + 1) = 2) : checkConfirmation req rsp 7 = 1 := by
  unfold checkConfirmation computeResponseLengthFromRequest
  rw [if_neg (preCheck_same hunit)]
  dsimp only
  rw [hreq, hrsp, hnb.1, hnb.2, hcount]
  rcases hfunction with rfl | rfl <;> rfl

theorem checkConfirmation_bit (hfunction : function = 1 ∨ function = 2)
    (hcount : byteAt rsp (modbusRtuHeaderLength + 1) = 1) : checkConfirmation req rsp 6 = 1 := by
  unfold checkConfirmation computeResponseLengthFromRequest
  rw [if_neg (preCheck_same hunit)]
  dsimp only
  rw [hreq, hrsp, hnb.1, hnb.2, hcount]
  rcases hfunction with rfl | rfl <;> rfl

end Confirmation

section Reply

variable {ctx : ModbusT} {unit : Byte} {function : Nat} {answers : Answers} {line : Line}

theorem buildRequestBasis_unit (hslave : ctx.slave = unit.toNat) (addr nb : Nat) :
    byteAt (buildRequestBasis ctx function addr nb) 0 = unit.toNat := by
  rw [buildRequestBasis, hslave, ofInt_unit]
  rfl

theorem confirm_readReply (hslave : ctx.slave = unit.toNat) (hfunction : function ≤ 4) (addr : Nat)
    {data : List Byte} (hdata : data.length ≤ 251) (hrx : line.rx = [])
    (hanswers : ∀ req, answers (line.sent ++ [req]) = frame (readReply unit function data))
    (hcheck : checkConfirmation (buildRequestBasis ctx function addr 1)
      (frame (readReply unit function data)) (data.length + 5) = 1) :
    confirm ctx function addr 1 answers line =
      (1, frame (readReply unit function data),
        ⟨line.sent ++ [frame (buildRequestBasis ctx function addr 1)], []⟩) := by
  have hsend : sendMsg (buildRequestBasis ctx function addr 1) answers line =
      (8, ⟨line.sent ++ [frame (buildRequestBasis ctx function addr 1)],
        frame (readReply unit function data)⟩) := by
    rw [sendMsg, hrx, hanswers, sendMsgPre_eq]
    rfl
  have hunit : (byteAt (frame (readReply unit function data)) 0 : Int) = ctx.slave := hslave.symm
  have hlength : (frame (readReply unit function data)).length = data.length + 5 := by
    obtain ⟨check, hcheck, hframe⟩ := frame_split (readReply unit function data)
    rw [hframe, List.length_append, hcheck]
    rfl
  unfold confirm
  dsimp only
  rw [hsend]
  dsimp only
  rw [if_pos (by decide), receiveMsg_readReply ctx unit hfunction hdata, checkIntegrity_frame hunit,
    hlength]
  dsimp only
  rw [if_neg (by omega)]
  exact congrArg (fun rc => (rc, _, _)) hcheck

theorem readRegistersWith_reply (hslave : ctx.slave = unit.toNat)
    (hfunction : function = 3 ∨ function = 4) (addr : Nat) (w : UInt16) (hrx : line.rx = [])
    (hanswers : ∀ req, answers (line.sent ++ [req]) = frame (registerReply unit function w)) :
    readRegistersWith function (some ctx) addr 1 answers line =
      (1, [w], ⟨line.sent ++ [frame (buildRequestBasis ctx function addr 1)], []⟩) := by
  have hfc := buildRequestBasis_function ctx (show function < 256 by omega) addr 1
  have hcheck : checkConfirmation _ (frame (registerReply unit function w)) 7 = 1 :=
    checkConfirmation_register (buildRequestBasis_unit hslave addr 1) hfc hfc ⟨rfl, rfl⟩ hfunction rfl
  have hdata : ([.ofNat (w.toNat / 256), .ofNat w.toNat] : List Byte).length ≤ 251 :=
    show 2 ≤ 251 by decide
  have hconfirm := confirm_readReply hslave (by omega) addr hdata hrx hanswers hcheck
  unfold readRegistersWith readRegisters
  dsimp only
  rw [if_neg (by decide), if_neg (by decide), hconfirm]
  dsimp only
  rw [if_neg (by decide)]
  have hword : UInt16.ofNat ((UInt8.ofNat (w.toNat / 256)).toNat * 256 + (UInt8.ofNat w.toNat).toNat) =
      w := by
    have hlt := w.toNat_lt
    have hbytes : (w.toNat / 256 % 2 ^ 8) * 256 + w.toNat % 2 ^ 8 = w.toNat := by omega
    rw [UInt8.toNat_ofNat', UInt8.toNat_ofNat', hbytes, UInt16.ofNat_toNat]
  exact congrArg (fun w => (1, [w], _)) hword

theorem readBitsWith_reply (hslave : ctx.slave = unit.toNat)
    (hfunction : function = 1 ∨ function = 2) (addr : Nat) (b : Bool) (hrx : line.rx = [])
    (hanswers : ∀ req, answers (line.sent ++ [req]) = frame (bitReply unit function b)) :
    readBitsWith function (some ctx) addr 1 answers line = (1, [if b then 1 else 0],
      ⟨line.sent ++ [frame (buildRequestBasis ctx function addr 1)], []⟩) := by
  have hfc := buildRequestBasis_function ctx (show function < 256 by omega) addr 1
  have hcheck : checkConfirmation _ (frame (bitReply unit function b)) 6 = 1 :=
    checkConfirmation_bit (buildRequestBasis_unit hslave addr 1) hfc hfc ⟨rfl, rfl⟩ hfunction rfl
  have hdata : ([if b then 1 else 0] : List Byte).length ≤ 251 := show 1 ≤ 251 by decide
  have hconfirm := confirm_readReply hslave (by omega) addr hdata hrx hanswers hcheck
  unfold readBitsWith readIoStatus
  dsimp only
  rw [if_neg (by decide), hconfirm]
  cases b <;> rfl

end Reply

end EspBridges.Icom
