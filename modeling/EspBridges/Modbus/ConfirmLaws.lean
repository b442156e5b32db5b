import EspBridges.Modbus.DataLaws

namespace EspBridges.Modbus

open Bytes Icom

def nbValues (req rsp : List Byte) : Nat × Nat :=
  let function := byteAt rsp 1
  let nb := wordAt req 4
  if function = modbusFcReadCoils ∨ function = modbusFcReadDiscreteInputs then
    (bitBytes nb, byteAt rsp 2)
  else if function = modbusFcWriteAndReadRegisters ∨ function = modbusFcReadHoldingRegisters ∨
      function = modbusFcReadInputRegisters then (nb, byteAt rsp 2 / 2)
  else if function = modbusFcWriteMultipleCoils ∨ function = modbusFcWriteMultipleRegisters then
    (nb, wordAt rsp 4)
  else if function = modbusFcReportSlaveId then (byteAt rsp 2, byteAt rsp 2)
  else (1, 1)

section Confirmation

variable {req rsp : List Byte} {rspLength : Nat}

theorem checkConfirmation_eq (hpre : ¬preCheckConfirmation req rsp = -1) :
    Icom.checkConfirmation req rsp rspLength =
      if byteAt rsp 1 ≥ 0x80 then -1
      else if (rspLength : Int) = computeResponseLengthFromRequest req ∨
          computeResponseLengthFromRequest req = -1 then
        if byteAt rsp 1 ≠ byteAt req 1 then -1
        else if (nbValues req rsp).1 = (nbValues req rsp).2 then ((nbValues req rsp).2 : Int) else -1
      else -1 := by
  unfold Icom.checkConfirmation
  exact if_neg hpre

theorem checkConfirmation_ok (hunit : byteAt req 0 = byteAt rsp 0)
    (hfunction : byteAt rsp 1 = byteAt req 1) (hlow : byteAt req 1 < 0x80)
    (hlength : (rspLength : Int) = computeResponseLengthFromRequest req ∨
      computeResponseLengthFromRequest req = -1)
    {n : Nat} (hvalues : nbValues req rsp = (n, n)) :
    checkConfirmation req rsp rspLength = .ok n := by
  have hsame : Icom.checkConfirmation req rsp rspLength = n := by
    rw [checkConfirmation_eq (preCheck_same hunit), if_neg (by omega), if_pos hlength,
      if_neg fun h => h hfunction, hvalues]
    exact if_pos rfl
  unfold checkConfirmation
  rw [hsame]
  exact if_neg (by omega)

theorem checkConfirmation_inv {rc : Nat} (h : checkConfirmation req rsp rspLength = .ok rc) :
    (byteAt req 0 = byteAt rsp 0 ∨ byteAt req 0 = modbusBroadcastAddress) ∧
      byteAt rsp 1 = byteAt req 1 ∧
      ((rspLength : Int) = computeResponseLengthFromRequest req ∨
        computeResponseLengthFromRequest req = -1) ∧ nbValues req rsp = (rc, rc) := by
  unfold checkConfirmation at h
  dsimp only at h
  have hsome : Icom.checkConfirmation req rsp rspLength ≠ -1 := by
    intro hfails
    rw [hfails, if_pos rfl] at h
    exact nomatch h
  rw [if_neg hsome] at h
  have hpre : ¬preCheckConfirmation req rsp = -1 := fun hpre => hsome (if_pos hpre)
  have hunit : byteAt req 0 = byteAt rsp 0 ∨ byteAt req 0 = modbusBroadcastAddress :=
    Decidable.byContradiction fun hnot => hpre (if_pos ⟨fun h => hnot (.inl h), fun h => hnot (.inr h)⟩)
  rw [checkConfirmation_eq hpre] at h hsome
  by_cases hhigh : byteAt rsp 1 ≥ 0x80
  · rw [if_pos hhigh] at hsome
    exact absurd rfl hsome
  rw [if_neg hhigh] at h hsome
  by_cases hlength : (rspLength : Int) = computeResponseLengthFromRequest req ∨
      computeResponseLengthFromRequest req = -1
  · rw [if_pos hlength] at h hsome
    by_cases hfunction : byteAt rsp 1 ≠ byteAt req 1
    · rw [if_pos hfunction] at hsome
      exact absurd rfl hsome
    rw [if_neg hfunction] at h hsome
    by_cases hvalues : (nbValues req rsp).1 = (nbValues req rsp).2
    · rw [if_pos hvalues] at h
      have hrc : (nbValues req rsp).2 = rc := Except.ok.inj h
      exact ⟨hunit, Decidable.not_not.mp hfunction, hlength,
        Prod.ext (hvalues.trans hrc) hrc⟩
    · rw [if_neg hvalues] at hsome
      exact absurd rfl hsome
  · rw [if_neg hlength] at hsome
    exact absurd rfl hsome

theorem checkConfirmation_exception (hunit : byteAt req 0 = byteAt rsp 0)
    (hfunction : byteAt rsp 1 = byteAt req 1 + 0x80) (hcode : byteAt rsp 2 < modbusExceptionMax) :
    checkConfirmation req rsp 5 = .error (.emb (byteAt rsp 2)) := by
  have hsame : Icom.checkConfirmation req rsp (5 : Nat) = -1 := by
    unfold Icom.checkConfirmation
    rw [if_neg (preCheck_same hunit)]
    exact if_pos (by show 0x80 ≤ byteAt rsp 1; omega)
  have herrno : confirmationErrno req rsp 5 = .emb (byteAt rsp 2) := by
    unfold confirmationErrno
    dsimp only
    rw [if_neg (preCheck_same hunit), if_pos (by show 0x80 ≤ byteAt rsp 1; omega),
      if_pos ⟨rfl, by show byteAt req 1 = byteAt rsp 1 - 0x80; omega⟩]
    exact if_pos hcode
  unfold checkConfirmation
  rw [hsame, herrno]
  rfl

theorem checkConfirmation_unheeded (hunit : byteAt req 0 = byteAt rsp 0)
    (hfunction : byteAt rsp 1 = byteAt req 1 + 0x80) :
    checkConfirmation req rsp 0 = .error .badExc := by
  have hhigh : byteAt rsp modbusRtuHeaderLength ≥ 0x80 := by
    show 0x80 ≤ byteAt rsp 1
    omega
  have hsame : Icom.checkConfirmation req rsp (0 : Nat) = -1 := by
    unfold Icom.checkConfirmation
    rw [if_neg (preCheck_same hunit)]
    exact if_pos hhigh
  have herrno : confirmationErrno req rsp 0 = .badExc := by
    unfold confirmationErrno
    dsimp only
    rw [if_neg (preCheck_same hunit), if_pos hhigh]
    exact if_neg fun h => absurd h.1 (by decide)
  unfold checkConfirmation
  rw [hsame, herrno]
  rfl

end Confirmation

section Lengths

variable {req : List Byte}

theorem responseLength_eq : computeResponseLengthFromRequest req =
    if byteAt req 1 = modbusFcReportSlaveId then -1
    else
      1 + ((if byteAt req 1 = modbusFcReadCoils ∨ byteAt req 1 = modbusFcReadDiscreteInputs then
        2 + wordAt req 4 / 8 + if wordAt req 4 % 8 ≠ 0 then 1 else 0
      else if byteAt req 1 = modbusFcWriteAndReadRegisters ∨
          byteAt req 1 = modbusFcReadHoldingRegisters ∨
          byteAt req 1 = modbusFcReadInputRegisters then 2 + 2 * wordAt req 4
      else if byteAt req 1 = modbusFcReadExceptionStatus then 3
      else if byteAt req 1 = modbusFcMaskWriteRegister then 7
      else 5 : Nat) : Int) + 2 := rfl

theorem responseLength_bits
    (h : byteAt req 1 = modbusFcReadCoils ∨ byteAt req 1 = modbusFcReadDiscreteInputs) :
    computeResponseLengthFromRequest req = (bitBytes (wordAt req 4) + 5 : Nat) := by
  have hne : byteAt req 1 ≠ modbusFcReportSlaveId := by
    rcases h with h | h <;> rw [h] <;> decide
  rw [responseLength_eq, if_neg hne, if_pos h]
  unfold bitBytes
  omega

theorem responseLength_words (h : byteAt req 1 = modbusFcReadHoldingRegisters ∨
      byteAt req 1 = modbusFcReadInputRegisters ∨ byteAt req 1 = modbusFcWriteAndReadRegisters) :
    computeResponseLengthFromRequest req = (2 * wordAt req 4 + 5 : Nat) := by
  rw [responseLength_eq]
  rcases h with h | h | h <;> rw [h, if_neg (by decide), if_neg (by decide), if_pos (by decide)] <;>
    omega

theorem responseLength_copied (h : byteAt req 1 = modbusFcWriteSingleCoil ∨
      byteAt req 1 = modbusFcWriteSingleRegister ∨ byteAt req 1 = modbusFcWriteMultipleCoils ∨
      byteAt req 1 = modbusFcWriteMultipleRegisters) :
    computeResponseLengthFromRequest req = (8 : Nat) := by
  rw [responseLength_eq]
  rcases h with h | h | h | h <;> rw [h] <;> rfl

theorem responseLength_mask (h : byteAt req 1 = modbusFcMaskWriteRegister) :
    computeResponseLengthFromRequest req = (10 : Nat) := by
  rw [responseLength_eq, h]
  rfl

theorem responseLength_report (h : byteAt req 1 = modbusFcReportSlaveId) :
    computeResponseLengthFromRequest req = -1 := by
  rw [responseLength_eq, if_pos h]

end Lengths

theorem length_frame (body : List Byte) : (frame body).length = body.length + 2 :=
  List.length_append

theorem byteAt_frame {body : List Byte} {i : Nat} (h : i < body.length) :
    byteAt (frame body) i = byteAt body i := byteAt_append_left h

section Wholes

def counted (unit : Byte) (function : Nat) (data : List Byte) : List Byte :=
  [unit, .ofNat function] ++ [.ofNat data.length] ++ data

theorem ofNat_toNat_of_lt {n : Nat} (h : n < 256) : (UInt8.ofNat n).toNat = n := by
  rw [UInt8.toNat_ofNat']
  omega

theorem counted_function (unit : Byte) {function : Nat} (h : function < 256) (data : List Byte) :
    byteAt (frame (counted unit function data)) 1 = function := ofNat_toNat_of_lt h

theorem counted_count (unit : Byte) (function : Nat) {data : List Byte} (h : data.length < 256) :
    byteAt (frame (counted unit function data)) 2 = data.length := ofNat_toNat_of_lt h

theorem length_counted (unit : Byte) (function : Nat) (data : List Byte) :
    (frame (counted unit function data)).length = data.length + 5 := by
  rw [length_frame, counted, List.length_append]
  show 3 + data.length + 2 = _
  omega

theorem counted_data (unit : Byte) (function : Nat) (data : List Byte) :
    ((frame (counted unit function data)).drop 3).take data.length = data := by
  obtain ⟨check, -, hframe⟩ := frame_split (counted unit function data)
  rw [hframe]
  show (data ++ check).take data.length = data
  exact List.take_left

def Counted (function : Nat) : Prop :=
  function = modbusFcReadCoils ∨ function = modbusFcReadDiscreteInputs ∨
    function = modbusFcReadHoldingRegisters ∨ function = modbusFcReadInputRegisters ∨
    function = modbusFcReportSlaveId ∨ function = modbusFcWriteAndReadRegisters

theorem whole_counted (unit : Byte) {function : Nat} (hfunction : Counted function)
    {data : List Byte} (hdata : data.length ≤ 251) :
    Whole .confirmation (frame (counted unit function data)) := by
  have hlt : function < 256 := by
    rcases hfunction with rfl | rfl | rfl | rfl | rfl | rfl <;> decide
  have hmeta : computeMetaLengthAfterFunction function .confirmation = 1 := by
    rcases hfunction with rfl | rfl | rfl | rfl | rfl | rfl <;> rfl
  have hcount := counted_count unit function (by omega : data.length < 256)
  have hlength : computeDataLengthAfterMeta (frame (counted unit function data)) .confirmation =
      data.length + 2 := by
    show (if byteAt _ 1 ≤ _ ∨ byteAt _ 1 = _ ∨ byteAt _ 1 = _ then byteAt _ 2 else 0) + 2 = _
    rw [counted_function unit hlt, hcount, if_pos]
    rcases hfunction with rfl | rfl | rfl | rfl | rfl | rfl <;> decide
  refine ⟨?_, ?_⟩
  · unfold messageLength
    rw [counted_function unit hlt, hmeta, hlength, length_counted]
    omega
  · rw [length_counted]
    show _ ≤ 256
    omega

theorem whole_copied {body : List Byte} {function : Nat} (hbody : byteAt body 1 = function)
    (h : (function = modbusFcWriteSingleCoil ∨ function = modbusFcWriteSingleRegister ∨
        function = modbusFcWriteMultipleCoils ∨ function = modbusFcWriteMultipleRegisters) ∧
        body.length = 6 ∨
      function = modbusFcMaskWriteRegister ∧ body.length = 8) :
    Whole .confirmation (frame body) := by
  have hat : byteAt (frame body) 1 = function := (byteAt_frame (by omega)).trans hbody
  have hdata : computeDataLengthAfterMeta (frame body) .confirmation = 2 := by
    show (if byteAt _ 1 ≤ _ ∨ byteAt _ 1 = _ ∨ byteAt _ 1 = _ then byteAt _ 2 else 0) + 2 = _
    rw [hat, if_neg]
    rcases h with ⟨rfl | rfl | rfl | rfl, _⟩ | ⟨rfl, _⟩ <;> decide
  have hmeta : 2 + computeMetaLengthAfterFunction function .confirmation = body.length := by
    rcases h with ⟨rfl | rfl | rfl | rfl, hlength⟩ | ⟨rfl, hlength⟩ <;> exact hlength.symm
  refine ⟨?_, ?_⟩
  · unfold messageLength
    rw [hat, hdata, length_frame, hmeta]
  · rw [length_frame]
    show _ ≤ 256
    omega

def refusal (unit : Byte) (function code : Nat) : List Byte :=
  [unit, .ofNat (function + 0x80), .ofNat code]

theorem whole_refusal (unit : Byte) {function : Nat} (h : function < 0x80) (code : Nat) :
    Whole .confirmation (frame (refusal unit function code)) := by
  have hat : byteAt (frame (refusal unit function code)) 1 = function + 0x80 :=
    ofNat_toNat_of_lt (by omega)
  have hmeta : computeMetaLengthAfterFunction (function + 0x80) .confirmation = 1 := by
    unfold computeMetaLengthAfterFunction Icom.computeMetaLengthAfterFunction
      modbusFcWriteSingleCoil modbusFcWriteSingleRegister modbusFcWriteMultipleCoils
      modbusFcWriteMultipleRegisters modbusFcMaskWriteRegister
    dsimp only
    rw [if_neg (by omega), if_neg (by omega)]
  have hdata : computeDataLengthAfterMeta (frame (refusal unit function code)) .confirmation = 2 := by
    show (if byteAt _ 1 ≤ 4 ∨ byteAt _ 1 = 17 ∨ byteAt _ 1 = 23 then byteAt _ 2 else 0) + 2 = _
    rw [hat, if_neg (by omega)]
  refine ⟨?_, by rw [length_frame]; show 5 ≤ 256; decide⟩
  unfold messageLength
  rw [hat, hdata, hmeta, length_frame]
  rfl

end Wholes

end EspBridges.Modbus
