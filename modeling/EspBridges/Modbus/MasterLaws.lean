import EspBridges.Modbus.TurnLaws

namespace EspBridges.Modbus

open Bytes Icom

section Exchange

variable {ctx : ModbusT} {req rsp : List Byte} {answers : Answers} {line line' : Line} {rc : Nat}

theorem exchange_ok (hslave : 1 ≤ ctx.slave) (hreq : byteAt req 0 = ctx.slave)
    (h : exchange ctx req answers line = (.ok (rc, rsp), line')) :
    line'.sent = line.sent ++ [frame req] ∧ line.rx ++ answers line'.sent = rsp ++ line'.rx ∧
      Whole .confirmation rsp ∧ byteAt rsp 0 = ctx.slave ∧ (∃ body, rsp = frame body) ∧
      checkConfirmation req rsp rsp.length = .ok rc := by
  unfold exchange sendMsg at h
  dsimp only at h
  rw [sendMsgPre_eq, if_pos (by rw [length_frame]; omega)] at h
  split at h
  next => exact nomatch (Prod.mk.inj h).1
  next n msg line₁ hreceive =>
    obtain ⟨hmap, rfl⟩ := Prod.mk.inj h
    obtain ⟨hwhole, hrx, hsent, hintegrity⟩ := receiveMsg_ok hreceive
    have hconfirm : checkConfirmation req msg n = .ok rc ∧ msg = rsp := by
      cases hcheck : checkConfirmation req msg n with
      | error e =>
        rw [hcheck] at hmap
        exact nomatch hmap
      | ok rc' =>
        rw [hcheck] at hmap
        obtain ⟨rfl, rfl⟩ := Prod.mk.inj (Except.ok.inj hmap)
        exact ⟨rfl, rfl⟩
    obtain ⟨hconfirm, rfl⟩ := hconfirm
    have hunit : byteAt msg 0 = ctx.slave := by
      rcases (checkConfirmation_inv hconfirm).1 with hsame | hbroadcast
      · rw [← hsame]
        exact hreq
      · rw [hbroadcast] at hreq
        unfold modbusBroadcastAddress at hreq
        omega
    obtain ⟨rfl, hframe⟩ := checkIntegrity_heeded
      (Nat.le_trans (by decide) hwhole.length_ge) (.inl hunit) hintegrity
    refine ⟨hsent, ?_, hwhole, hunit, hframe, hconfirm⟩
    rw [hsent]
    exact hrx

end Exchange

section Answered

variable {ctx : ModbusT} {call : Call} {answers : Answers} {line : Line} {rsp rest : List Byte}

theorem make_eq (hrefused : call.refused = none) : call.make ctx answers line =
    match receiveMsg .confirmation ctx ⟨line.sent ++ [frame (call.request ctx)],
      line.rx ++ answers (line.sent ++ [frame (call.request ctx)])⟩ with
    | (.error e, _, line) => (.error e, line)
    | (.ok n, rsp, line) =>
      ((checkConfirmation (call.request ctx) rsp n).map fun rc => call.got (rc, rsp), line) := by
  have hsent : (frame (call.request ctx)).length > 0 := by
    rw [length_frame]
    omega
  rw [Call.make_eq, hrefused]
  unfold exchange sendMsg
  dsimp only
  rw [sendMsgPre_eq, if_pos hsent]
  obtain ⟨result, rsp, line', hreceive⟩ : ∃ result rsp line', receiveMsg .confirmation ctx
      ⟨line.sent ++ [frame (call.request ctx)],
        line.rx ++ answers (line.sent ++ [frame (call.request ctx)])⟩ = (result, rsp, line') :=
    ⟨_, _, _, rfl⟩
  rw [hreceive]
  cases result with
  | error e => rfl
  | ok n =>
    dsimp only
    cases checkConfirmation (call.request ctx) rsp n <;> rfl

theorem make_sent (hrefused : call.refused = none) :
    (call.make ctx answers line).2.sent = line.sent ++ [frame (call.request ctx)] := by
  have hsent := @receiveMsg_sent .confirmation ctx ⟨line.sent ++ [frame (call.request ctx)],
    line.rx ++ answers (line.sent ++ [frame (call.request ctx)])⟩
  rw [make_eq hrefused]
  split
  next heq => rw [heq] at hsent; exact hsent
  next heq => rw [heq] at hsent; exact hsent

theorem make_answered (hheeds : Heeds ctx (unitOf ctx).toNat) (hrefused : call.refused = none)
    (hwhole : Whole .confirmation (frame rsp))
    (hunit : byteAt (frame rsp) 0 = byteAt (call.request ctx) 0)
    (hrx : line.rx ++ answers (line.sent ++ [frame (call.request ctx)]) = frame rsp ++ rest) :
    call.make ctx answers line =
      ((checkConfirmation (call.request ctx) (frame rsp) (frame rsp).length).map fun rc =>
        call.got (rc, frame rsp), ⟨line.sent ++ [frame (call.request ctx)], rest⟩) := by
  have hcheck : checkIntegrity ctx (frame rsp) = .ok (frame rsp).length :=
    checkIntegrity_frame (by rw [hunit, request_unit]; exact hheeds)
  rw [make_eq hrefused, hrx, receiveMsg_whole hwhole, hcheck]

theorem make_unheeded (hheeds : ¬Heeds ctx (unitOf ctx).toNat) (hrefused : call.refused = none)
    (hwhole : Whole .confirmation (frame rsp))
    (hunit : byteAt (frame rsp) 0 = byteAt (call.request ctx) 0)
    (hrx : line.rx ++ answers (line.sent ++ [frame (call.request ctx)]) = frame rsp ++ rest) :
    call.make ctx answers line =
      ((checkConfirmation (call.request ctx) (frame rsp) 0).map fun rc =>
        call.got (rc, frame rsp), ⟨line.sent ++ [frame (call.request ctx)], rest⟩) := by
  have hcheck : checkIntegrity ctx (frame rsp) = .ok 0 :=
    checkIntegrity_other (by rw [hunit, request_unit]; exact hheeds)
  rw [make_eq hrefused, hrx, receiveMsg_whole hwhole, hcheck]

theorem make_silent (hrefused : call.refused = none) (hrx : line.rx = [])
    (hanswers : answers (line.sent ++ [frame (call.request ctx)]) = []) :
    call.make ctx answers line =
      (.error .etimedout, ⟨line.sent ++ [frame (call.request ctx)], []⟩) := by
  rw [make_eq hrefused, hrx, hanswers, List.append_nil, receiveMsg_silent]

theorem request_function_lt (ctx : ModbusT) (call : Call) : byteAt (call.request ctx) 1 < 0x80 := by
  cases call <;> exact of_decide_eq_true rfl

def exceptionAnswer (ctx : ModbusT) (exceptionCode : Nat) : Answers := fun sent =>
  (modbusReplyException (some ctx) (sent.getLastD []) exceptionCode ⟨[], []⟩).2.sent.flatten

theorem request_length_ge (ctx : ModbusT) (call : Call) : 2 ≤ (call.request ctx).length := by
  cases call <;> exact Nat.le_add_left 2 _

/-- A call that is answered with an exception fails with it, whatever the call, unless its context
heeds no unit with the address that it asks; and an exception that there is not is never sent. -/
theorem exception_returns {server : ModbusT} {exceptionCode : Nat} (hrefused : call.refused = none)
    (hrx : line.rx = []) :
    call.make ctx (exceptionAnswer server exceptionCode) line =
      (.error (if exceptionCode < modbusExceptionMax then
          if Heeds ctx (unitOf ctx).toNat then .emb exceptionCode else .badExc
        else .etimedout),
        ⟨line.sent ++ [frame (call.request ctx)], []⟩) := by
  have hmin := request_length_ge ctx call
  have hunit : byteAt (frame (call.request ctx)) 0 = (unitOf ctx).toNat := by
    rw [byteAt_frame (by omega), request_unit]
  have hfunction : byteAt (frame (call.request ctx)) 1 = byteAt (call.request ctx) 1 :=
    byteAt_frame (by omega)
  have hlow := request_function_lt ctx call
  have hanswer : exceptionAnswer server exceptionCode (line.sent ++ [frame (call.request ctx)]) =
      if exceptionCode < modbusExceptionMax then
        frame (refusal (unitOf ctx) (byteAt (call.request ctx) 1) exceptionCode) else [] := by
    unfold exceptionAnswer modbusReplyException
    rw [List.getLastD_concat]
    dsimp only
    rw [hunit, show byteAt (frame (call.request ctx)) modbusRtuHeaderLength = _ from hfunction]
    split
    · unfold sendMsg buildResponseBasis refusal
      rw [sendMsgPre_eq, UInt8.ofNat_toNat]
      exact List.append_nil _
    · rfl
  by_cases hcode : exceptionCode < modbusExceptionMax
  · rw [if_pos hcode] at hanswer ⊢
    have hframe : byteAt (frame (refusal (unitOf ctx) (byteAt (call.request ctx) 1)
        exceptionCode)) 0 = byteAt (call.request ctx) 0 := (request_unit ctx call).symm
    have hcome : line.rx ++ exceptionAnswer server exceptionCode
        (line.sent ++ [frame (call.request ctx)]) =
          frame (refusal (unitOf ctx) (byteAt (call.request ctx) 1) exceptionCode) ++ [] := by
      rw [hrx, hanswer]
      exact (List.append_nil _).symm
    have hwhole := @whole_refusal (unitOf ctx) _ hlow exceptionCode
    by_cases hheeds : Heeds ctx (unitOf ctx).toNat
    · rw [if_pos hheeds, make_answered hheeds hrefused hwhole hframe hcome, length_frame]
      exact congrArg (·, _) (congrArg (Except.map _) (confirm_refusal rfl hlow hcode))
    · have hhigh : byteAt (frame (refusal (unitOf ctx) (byteAt (call.request ctx) 1)
          exceptionCode)) 1 = byteAt (call.request ctx) 1 + 0x80 := ofNat_toNat_of_lt (by omega)
      rw [if_neg hheeds, make_unheeded hheeds hrefused hwhole hframe hcome,
        checkConfirmation_unheeded hframe.symm hhigh]
      rfl
  · rw [if_neg hcode] at hanswer ⊢
    exact make_silent hrefused hrx hanswer

theorem busy_returns : (Call.readRegisters 0 1).make ⟨17, 3⟩ (exceptionAnswer ⟨17, 3⟩ 6)
    ⟨[], []⟩ = (.error (.emb 6), ⟨[frame [17, 3, 0, 0, 0, 1]], []⟩) := by
  rw [exception_returns rfl rfl, if_pos (by decide), if_pos (.inl rfl)]
  rfl

end Answered

/-- What a call that is back has come back with: what the count came to on the line. -/
def Call.Complete (got : Got) : Call → Prop
  | .readBits _ nb | .readInputBits _ nb =>
    got.rc = nb ∧ got.bytes.length = nb.toNat ∧ Flags got.bytes ∧ got.words = []
  | .readRegisters _ nb | .readInputRegisters _ nb | .writeAndReadRegisters _ _ _ _ nb =>
    got.rc = onLine nb ∧ got.words.length = onLine nb ∧ got.bytes = []
  | .writeBit .. | .writeRegister .. | .maskWriteRegister .. => got = ⟨1, [], []⟩
  | .writeBits _ nb _ | .writeRegisters _ nb _ => got = ⟨onLine nb, [], []⟩
  | .reportSlaveId maxDest => got.bytes.length = min maxDest.toNat got.rc.toNat ∧ got.words = []

section Complete

variable {ctx : ModbusT} {rsp : List Byte} {rc nb : Nat}

theorem bitsOf_flags (bytes : List Byte) : Flags (bytes.flatMap bitsOf) := by
  intro bit hbit
  obtain ⟨b, -, hb⟩ := List.mem_flatMap.mp hbit
  obtain ⟨k, -, rfl⟩ := List.mem_map.mp hb
  split
  · exact .inr rfl
  · exact .inl rfl

theorem length_bits (bytes : List Byte) : (bytes.flatMap bitsOf).length = 8 * bytes.length := by
  induction bytes with
  | nil => rfl
  | cons b bytes ih =>
    rw [List.flatMap_cons, List.length_append, ih, List.length_cons]
    show 8 + 8 * bytes.length = _
    omega

theorem bits_complete {nb : Int} (hnb : nb ≤ modbusMaxReadBits)
    (hlength : rsp.length = bitBytes (onLine nb) + 5) :
    ((((rsp.drop 3).take (bitBytes (onLine nb))).flatMap bitsOf).take nb.toNat).length =
      nb.toNat := by
  have hmax : nb ≤ 2000 := hnb
  have hdata : ((rsp.drop 3).take (bitBytes (onLine nb))).length = bitBytes (onLine nb) := by
    rw [List.length_take, List.length_drop]
    omega
  have hroom : nb.toNat ≤ 8 * bitBytes (onLine nb) := by
    rw [bitBytes_eq, onLine]
    omega
  rw [List.length_take, length_bits, hdata]
  omega

variable {call : Call}

theorem complete_bits {req : List Byte}
    (hreq : byteAt req 1 = modbusFcReadCoils ∨ byteAt req 1 = modbusFcReadDiscreteInputs)
    (hnb : wordAt req 4 = nb) (hfunction : byteAt rsp 1 = byteAt req 1)
    (hlength : (rsp.length : Int) = computeResponseLengthFromRequest req ∨
      computeResponseLengthFromRequest req = -1)
    (hvalues : nbValues req rsp = (rc, rc)) :
    rc = bitBytes nb ∧ rsp.length = bitBytes nb + 5 := by
  rw [responseLength_bits hreq, hnb] at hlength
  unfold nbValues at hvalues
  dsimp only at hvalues
  rw [hfunction, if_pos hreq, hnb] at hvalues
  have hrc := (Prod.mk.inj hvalues).1
  omega

theorem complete_words {req : List Byte} (hreq : byteAt req 1 = modbusFcWriteAndReadRegisters ∨
      byteAt req 1 = modbusFcReadHoldingRegisters ∨ byteAt req 1 = modbusFcReadInputRegisters)
    (hnb : wordAt req 4 = nb) (hfunction : byteAt rsp 1 = byteAt req 1)
    (hvalues : nbValues req rsp = (rc, rc)) : rc = nb := by
  have hbits : ¬(byteAt req 1 = modbusFcReadCoils ∨ byteAt req 1 = modbusFcReadDiscreteInputs) := by
    rcases hreq with h | h | h <;> rw [h] <;> decide
  unfold nbValues at hvalues
  dsimp only at hvalues
  rw [hfunction, if_neg hbits, if_pos hreq, hnb] at hvalues
  exact (Prod.mk.inj hvalues).1.symm

theorem complete_written {req : List Byte} (hreq : byteAt req 1 = modbusFcWriteMultipleCoils ∨
      byteAt req 1 = modbusFcWriteMultipleRegisters)
    (hnb : wordAt req 4 = nb) (hfunction : byteAt rsp 1 = byteAt req 1)
    (hvalues : nbValues req rsp = (rc, rc)) : rc = nb := by
  unfold nbValues at hvalues
  dsimp only at hvalues
  rcases hreq with h | h <;> rw [hfunction, h, hnb] at hvalues <;>
    exact (Prod.mk.inj hvalues).1.symm

theorem complete_single {req : List Byte} (hreq : byteAt req 1 = modbusFcWriteSingleCoil ∨
      byteAt req 1 = modbusFcWriteSingleRegister ∨ byteAt req 1 = modbusFcMaskWriteRegister)
    (hfunction : byteAt rsp 1 = byteAt req 1) (hvalues : nbValues req rsp = (rc, rc)) : rc = 1 := by
  unfold nbValues at hvalues
  dsimp only at hvalues
  rcases hreq with h | h | h <;> rw [hfunction, h] at hvalues <;>
    exact (Prod.mk.inj hvalues).1.symm

theorem complete_report {req : List Byte} (hreq : byteAt req 1 = modbusFcReportSlaveId)
    (hfunction : byteAt rsp 1 = byteAt req 1) (hwhole : Whole .confirmation rsp)
    (hvalues : nbValues req rsp = (rc, rc)) : rsp.length = rc + 5 := by
  have hrsp : byteAt rsp 1 = modbusFcReportSlaveId := hfunction.trans hreq
  have hcount : byteAt rsp 2 = rc := by
    unfold nbValues at hvalues
    dsimp only at hvalues
    rw [hrsp] at hvalues
    exact (Prod.mk.inj hvalues).1
  have hdata : computeDataLengthAfterMeta rsp .confirmation = byteAt rsp 2 + 2 := by
    show (if byteAt rsp 1 ≤ _ ∨ byteAt rsp 1 = _ ∨ byteAt rsp 1 = _ then byteAt rsp 2 else 0) + 2 = _
    rw [hrsp, if_pos (by decide)]
  rw [hwhole.length_eq, messageLength, hdata, hcount, hrsp]
  show 2 + 1 + (rc + 2) = _
  omega

theorem complete_got (hrefused : call.refused = none) (hwhole : Whole .confirmation rsp)
    (hfunction : byteAt rsp 1 = byteAt (call.request ctx) 1)
    (hlength : (rsp.length : Int) = computeResponseLengthFromRequest (call.request ctx) ∨
      computeResponseLengthFromRequest (call.request ctx) = -1)
    (hvalues : nbValues (call.request ctx) rsp = (rc, rc)) : call.Complete (call.got (rc, rsp)) := by
  have hflags : ∀ (bytes : List Byte) (nb : Nat), Flags ((bytes.flatMap bitsOf).take nb) :=
    fun bytes nb bit hbit => bitsOf_flags bytes bit (List.mem_of_mem_take hbit)
  cases call with
  | readBits addr nb =>
    have hnb : wordAt ((Call.readBits addr nb).request ctx) 4 = onLine nb := onLine_toNat nb
    obtain ⟨hrc, hsize⟩ := complete_bits (.inl rfl) hnb hfunction hlength hvalues
    rw [hrc]
    exact ⟨rfl, bits_complete (le_of_refused hrefused) hsize, hflags _ nb.toNat, rfl⟩
  | readInputBits addr nb =>
    have hnb : wordAt ((Call.readInputBits addr nb).request ctx) 4 = onLine nb := onLine_toNat nb
    obtain ⟨hrc, hsize⟩ := complete_bits (.inr rfl) hnb hfunction hlength hvalues
    rw [hrc]
    exact ⟨rfl, bits_complete (le_of_refused hrefused) hsize, hflags _ nb.toNat, rfl⟩
  | readRegisters addr nb =>
    have hnb : wordAt ((Call.readRegisters addr nb).request ctx) 4 = onLine nb := onLine_toNat nb
    rw [complete_words (.inr (.inl rfl)) hnb hfunction hvalues]
    exact ⟨rfl, length_wordsFrom _ _ _, rfl⟩
  | readInputRegisters addr nb =>
    have hnb : wordAt ((Call.readInputRegisters addr nb).request ctx) 4 =
        onLine nb := onLine_toNat nb
    rw [complete_words (.inr (.inr rfl)) hnb hfunction hvalues]
    exact ⟨rfl, length_wordsFrom _ _ _, rfl⟩
  | writeBit addr status =>
    rw [complete_single (.inl rfl) hfunction hvalues]
    rfl
  | writeRegister addr value =>
    rw [complete_single (.inr (.inl rfl)) hfunction hvalues]
    rfl
  | maskWriteRegister addr andMask orMask =>
    rw [complete_single (.inr (.inr rfl)) hfunction hvalues]
    rfl
  | writeBits addr nb src =>
    have hnb : wordAt ((Call.writeBits addr nb src).request ctx) 4 = onLine nb := onLine_toNat nb
    rw [complete_written (.inl rfl) hnb hfunction hvalues]
    rfl
  | writeRegisters addr nb src =>
    have hnb : wordAt ((Call.writeRegisters addr nb src).request ctx) 4 =
        onLine nb := onLine_toNat nb
    rw [complete_written (.inr rfl) hnb hfunction hvalues]
    rfl
  | writeAndReadRegisters writeAddr writeNb src readAddr readNb =>
    have hnb : wordAt ((Call.writeAndReadRegisters writeAddr writeNb src readAddr readNb).request ctx) 4 =
        onLine readNb := onLine_toNat readNb
    rw [complete_words (.inl rfl) hnb hfunction hvalues]
    exact ⟨rfl, length_wordsFrom _ _ _, rfl⟩
  | reportSlaveId maxDest =>
    have hsize := complete_report rfl hfunction hwhole hvalues
    refine ⟨?_, rfl⟩
    show (((rsp.drop 3).take rc).take maxDest.toNat).length = min maxDest.toNat rc
    rw [List.length_take, List.length_take, List.length_drop, hsize]
    omega

end Complete

/-- A call that comes back has taken a frame of the unit that it asked, with the function that it
asked for, and in it all that it asked for; and no more of the line than that. -/
theorem make_ok {ctx : ModbusT} {call : Call} {answers : Answers} {line line' : Line} {got : Got}
    (hslave : 1 ≤ ctx.slave ∧ ctx.slave ≤ 247)
    (h : call.make ctx answers line = (.ok got, line')) :
    call.refused = none ∧ call.Complete got ∧
      line'.sent = line.sent ++ [frame (call.request ctx)] ∧
      ∃ body, line.rx ++ answers line'.sent = frame body ++ line'.rx ∧
        Whole .confirmation (frame body) ∧ byteAt (frame body) 0 = ctx.slave ∧
        byteAt (frame body) 1 = byteAt (call.request ctx) 1 := by
  rw [Call.make_eq] at h
  cases hrefused : call.refused with
  | some e =>
    rw [hrefused] at h
    exact nomatch (Prod.mk.inj h).1
  | none =>
    rw [hrefused] at h
    dsimp only at h
    obtain ⟨confirmation, line₁, hexchange⟩ : ∃ confirmation line₁,
        exchange ctx (call.request ctx) answers line = (confirmation, line₁) := ⟨_, _, rfl⟩
    rw [hexchange] at h
    obtain ⟨hmap, rfl⟩ := Prod.mk.inj h
    cases confirmation with
    | error e => exact nomatch hmap
    | ok pair =>
      obtain ⟨rc, rsp⟩ := pair
      have hgot : call.got (rc, rsp) = got := Except.ok.inj hmap
      have hunit : byteAt (call.request ctx) 0 = ctx.slave := by
        rw [request_unit]
        exact unitOf_toNat (by omega)
      obtain ⟨hsent, hrx, hwhole, hrspUnit, ⟨body, rfl⟩, hconfirm⟩ :=
        exchange_ok hslave.1 hunit hexchange
      obtain ⟨-, hfunction, hlength, hvalues⟩ := checkConfirmation_inv hconfirm
      refine ⟨rfl, ?_, hsent, body, hrx, hwhole, hrspUnit, hfunction⟩
      rw [← hgot]
      exact complete_got hrefused hwhole hfunction hlength hvalues

theorem readRegister_ok : ∃ got line',
    (Call.readRegisters 0 1).make ⟨17, 3⟩ (fun _ => frame [17, 3, 2, 0, 42] ++ [17]) ⟨[], []⟩ =
      (.ok got, line') ∧ (Call.readRegisters 0 1).Complete got ∧
    ∃ body, frame [17, 3, 2, 0, 42] ++ [17] = frame body ++ line'.rx := by
  have hok : ((Call.readRegisters 0 1).make ⟨17, 3⟩
      (fun _ => frame [17, 3, 2, 0, 42] ++ [17]) ⟨[], []⟩).1.isOk = true := by decide +kernel
  cases hmake : (Call.readRegisters 0 1).make ⟨17, 3⟩
      (fun _ => frame [17, 3, 2, 0, 42] ++ [17]) ⟨[], []⟩ with
  | mk result line' =>
    rw [hmake] at hok
    cases result with
    | error e => exact absurd hok Bool.false_ne_true
    | ok got =>
      obtain ⟨-, hcomplete, -, body, hrx, -⟩ := make_ok (by decide) hmake
      exact ⟨got, line', rfl, hcomplete, body, hrx⟩

section Agreement

variable (ctx : ModbusT) (answers : Answers) (line : Line)

def plain : Except Errno Nat → Int
  | .ok n => n
  | .error _ => -1

theorem plain_ite (rc : Int) (e : Errno) (hge : -1 ≤ rc) :
    plain (if rc = -1 then .error e else .ok rc.toNat) = rc := by
  by_cases hrc : rc = -1
  · rw [if_pos hrc, hrc]
    rfl
  · rw [if_neg hrc]
    exact Int.toNat_of_nonneg (by omega)

theorem checkIntegrity_plain (msg : List Byte) :
    plain (checkIntegrity ctx msg) = Icom.checkIntegrity ctx msg := by
  refine plain_ite _ _ ?_
  unfold Icom.checkIntegrity
  dsimp only
  split
  · omega
  · split <;> omega

theorem checkConfirmation_plain (req rsp : List Byte) (rspLength : Nat) :
    plain (checkConfirmation req rsp rspLength) = Icom.checkConfirmation req rsp rspLength := by
  refine plain_ite _ _ ?_
  by_cases hpre : preCheckConfirmation req rsp = -1
  · exact Int.le_of_eq (if_pos hpre).symm
  rw [checkConfirmation_eq hpre]
  split
  · omega
  · split
    · split
      · omega
      · split <;> omega
    · omega

theorem receiveMsg_plain : Icom.receiveMsg ctx line =
    (plain (receiveMsg .confirmation ctx line).1, (receiveMsg .confirmation ctx line).2) := by
  unfold Icom.receiveMsg receiveMsg
  obtain ⟨head, line₁, hhead⟩ : ∃ head line₁,
    line.recv (modbusRtuHeaderLength + 1) = (head, line₁) := ⟨_, _, rfl⟩
  rw [hhead]
  cases head with
  | none => rfl
  | some head =>
    dsimp only
    obtain ⟨more, line₂, hmore⟩ : ∃ more line₂,
      line₁.recv (Icom.computeMetaLengthAfterFunction (byteAt head modbusRtuHeaderLength)) =
        (more, line₂) := ⟨_, _, rfl⟩
    have hmeta : line₁.recv (computeMetaLengthAfterFunction (byteAt head modbusRtuHeaderLength)
      .confirmation) = (more, line₂) := hmore
    rw [hmore, hmeta]
    cases more with
    | none => rfl
    | some more =>
      dsimp only
      rw [show computeDataLengthAfterMeta (head ++ more) .confirmation =
        Icom.computeDataLengthAfterMeta (head ++ more) from rfl]
      by_cases hlong : (head ++ more).length + Icom.computeDataLengthAfterMeta (head ++ more) >
        modbusRtuMaxAduLength
      · rw [if_pos hlong, if_pos hlong]
        rfl
      rw [if_neg hlong, if_neg hlong]
      obtain ⟨data, line₃, hdata⟩ : ∃ data line₃,
        line₂.recv (Icom.computeDataLengthAfterMeta (head ++ more)) = (data, line₃) := ⟨_, _, rfl⟩
      rw [hdata]
      cases data with
      | none => rfl
      | some data =>
        exact congrArg (fun rc => (rc, head ++ more ++ data, line₃))
          (checkIntegrity_plain ctx (head ++ more ++ data)).symm

theorem confirm_plain (function addr nb : Nat) :
    ∃ rsp, Icom.confirm ctx function addr nb answers line =
      (plain ((exchange ctx (Icom.buildRequestBasis ctx function addr nb) answers line).1.map (·.1)), rsp,
        (exchange ctx (Icom.buildRequestBasis ctx function addr nb) answers line).2) ∧
      ∀ pair, (exchange ctx (Icom.buildRequestBasis ctx function addr nb) answers line).1 = .ok pair →
        rsp = pair.2 := by
  unfold Icom.confirm exchange sendMsg
  dsimp only
  have hsent : (frame (Icom.buildRequestBasis ctx function addr nb)).length > 0 := by
    rw [length_frame]
    omega
  rw [sendMsgPre_eq, if_pos hsent, if_pos hsent, receiveMsg_plain]
  obtain ⟨result, rsp, line', h⟩ : ∃ result rsp line',
    receiveMsg .confirmation ctx ⟨line.sent ++ [frame (Icom.buildRequestBasis ctx function addr nb)],
      line.rx ++ answers (line.sent ++ [frame (Icom.buildRequestBasis ctx function addr nb)])⟩ =
        (result, rsp, line') := ⟨_, _, _, rfl⟩
  rw [h]
  refine ⟨rsp, ?_⟩
  cases result with
  | error e => exact ⟨rfl, fun pair h => nomatch h⟩
  | ok n =>
    have hreceived : ¬(n : Int) = -1 := by omega
    dsimp only [plain]
    refine ⟨(if_neg hreceived).trans ?_, ?_⟩
    · rw [← checkConfirmation_plain]
      cases checkConfirmation (Icom.buildRequestBasis ctx function addr nb) rsp n <;> rfl
    · intro pair hpair
      cases hconfirm : checkConfirmation (Icom.buildRequestBasis ctx function addr nb) rsp n with
      | error e =>
        rw [hconfirm] at hpair
        exact nomatch hpair
      | ok rc =>
        rw [hconfirm] at hpair
        rw [← Except.ok.inj hpair]

variable {ctx answers line} {function addr nb : Nat} {line' : Line}

theorem confirm_ok {rc : Nat} {rsp : List Byte}
    (h : exchange ctx (Icom.buildRequestBasis ctx function addr nb) answers line =
      (.ok (rc, rsp), line')) :
    Icom.confirm ctx function addr nb answers line = ((rc : Int), rsp, line') := by
  obtain ⟨rsp', hconfirm, hrsp⟩ := confirm_plain ctx answers line function addr nb
  rw [h] at hconfirm hrsp
  rw [hconfirm, hrsp _ rfl]
  rfl

theorem confirm_error {e : Errno}
    (h : exchange ctx (Icom.buildRequestBasis ctx function addr nb) answers line = (.error e, line')) :
    ∃ rsp, Icom.confirm ctx function addr nb answers line = (-1, rsp, line') := by
  obtain ⟨rsp, hconfirm, -⟩ := confirm_plain ctx answers line function addr nb
  rw [h] at hconfirm
  exact ⟨rsp, hconfirm⟩

variable (answers line) (function addr nb)

theorem basis_plain (ctx : ModbusT) :
    buildRequestBasis ctx function addr nb = Icom.buildRequestBasis ctx function addr nb := by
  have hhigh : ∀ n : Nat, UInt8.ofNat (onLine n / 256) = UInt8.ofNat (n / 256) := by
    intro n
    refine UInt8.toNat_inj.mp ?_
    rw [UInt8.toNat_ofNat', UInt8.toNat_ofNat', onLine]
    omega
  have hlow : ∀ n : Nat, UInt8.ofNat (onLine n) = UInt8.ofNat n := by
    intro n
    refine UInt8.toNat_inj.mp ?_
    rw [UInt8.toNat_ofNat', UInt8.toNat_ofNat', onLine]
    omega
  unfold buildRequestBasis Icom.buildRequestBasis
  rw [hhigh, hlow, hhigh, hlow]

theorem readRegistersWith_plain (ctx : Option ModbusT) :
    Icom.readRegistersWith function ctx addr nb answers line =
      match readRegistersWith function ctx addr nb answers line with
      | (.ok got, line') => (got.rc, got.words, line')
      | (.error _, line') => (-1, [], line') := by
  cases ctx with
  | none => rfl
  | some ctx =>
    unfold Icom.readRegistersWith readRegistersWith Icom.readRegisters readRegisters
    by_cases hmany : nb > modbusMaxReadRegisters
    · simp only [if_pos hmany, if_pos (Int.ofNat_lt.mpr hmany)]
    simp only [if_neg hmany, if_neg fun h => hmany (Int.ofNat_lt.mp h), basis_plain]
    obtain ⟨confirmation, line', h⟩ : ∃ confirmation line',
      exchange ctx (Icom.buildRequestBasis ctx function addr nb) answers line =
        (confirmation, line') := ⟨_, _, rfl⟩
    cases confirmation with
    | error e =>
      obtain ⟨rsp, hpoll⟩ := confirm_error h
      rw [hpoll, h]
      rfl
    | ok pair =>
      have hother : ¬(pair.1 : Int) = -1 := by omega
      have hword : ∀ i, byteAt pair.2 (3 + 2 * i) * 256 + byteAt pair.2 (4 + 2 * i) =
          wordAt pair.2 (3 + 2 * i) := by
        intro i
        rw [wordAt, show 3 + 2 * i + 1 = 4 + 2 * i by omega]
      rw [confirm_ok h, h]
      dsimp only
      rw [if_neg hother]
      refine congrArg (fun words => ((pair.1 : Int), words, line')) ?_
      exact List.map_congr_left fun i _ => congrArg UInt16.ofNat (hword i)

theorem readBitsWith_plain (ctx : Option ModbusT) :
    Icom.readBitsWith function ctx addr nb answers line =
      match readBitsWith function ctx addr nb answers line with
      | (.ok got, line') => (got.rc, got.bytes, line')
      | (.error _, line') => (-1, [], line') := by
  cases ctx with
  | none => rfl
  | some ctx =>
    unfold Icom.readBitsWith readBitsWith Icom.readIoStatus readIoStatus
    by_cases hmany : nb > modbusMaxReadBits
    · simp only [if_pos hmany, if_pos (Int.ofNat_lt.mpr hmany)]
    simp only [if_neg hmany, if_neg fun h => hmany (Int.ofNat_lt.mp h), basis_plain]
    obtain ⟨confirmation, line', h⟩ : ∃ confirmation line',
      exchange ctx (Icom.buildRequestBasis ctx function addr nb) answers line =
        (confirmation, line') := ⟨_, _, rfl⟩
    cases confirmation with
    | error e =>
      obtain ⟨rsp, hpoll⟩ := confirm_error h
      rw [hpoll, h]
      rfl
    | ok pair =>
      have hother : ¬(pair.1 : Int) = -1 := by omega
      rw [confirm_ok h, h]
      dsimp only
      rw [if_neg hother]
      exact congrArg (·, _, line') (if_neg hother)

end Agreement

end EspBridges.Modbus
