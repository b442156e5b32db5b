import EspBridges.Modbus.ConfirmLaws

namespace EspBridges.Modbus

open Bytes Icom Cells

def unitOf (ctx : ModbusT) : Byte := .ofInt ctx.slave

theorem unitOf_toNat {ctx : ModbusT} (h : 0 ≤ ctx.slave ∧ ctx.slave ≤ 247) :
    ((unitOf ctx).toNat : Int) = ctx.slave := by
  show ((UInt8.ofNat (ctx.slave % 2 ^ 8).toNat).toNat : Int) = ctx.slave
  rw [UInt8.toNat_ofNat']
  omega

/-- The response settles the call as the memory of the unit does. -/
structure Settles (ctx : ModbusT) (call : Call) (mapping : ModbusMapping) (response : Response) :
    Prop where
  unit : byteAt response.rsp 0 = byteAt (call.request ctx) 0
  whole : Whole .confirmation (frame response.rsp)
  result : ((checkConfirmation (call.request ctx) (frame response.rsp)
    (frame response.rsp).length).map fun rc => call.got (rc, frame response.rsp)) =
      mapping.memory.result call
  after : response.mapping.memory = mapping.memory.after call
  sound : response.mapping.Sound
  flush : response.toFlush = true →
    mapping.memory.serve call = .error modbusExceptionIllegalDataValue

section Basis

variable (ctx : ModbusT) {function : Nat} (addr nb : Int) (rest : List Byte)

theorem basis_function (h : function < 256) :
    byteAt (buildRequestBasis ctx function addr nb ++ rest) 1 = function := ofNat_toNat_of_lt h

theorem basis_address :
    reqAddress (buildRequestBasis ctx function addr nb ++ rest) = onLine addr :=
  onLine_toNat addr

theorem basis_nb : reqNb (buildRequestBasis ctx function addr nb ++ rest) = onLine nb :=
  onLine_toNat nb

theorem request_unit (call : Call) : byteAt (call.request ctx) 0 = (unitOf ctx).toNat := by
  cases call <;> rfl

theorem response_counted (function : Nat) {n : Nat} {data : List Byte} (h : data.length = n) :
    buildResponseBasis ⟨(unitOf ctx).toNat, function⟩ ++ [.ofNat n] ++ data =
      counted (unitOf ctx) function data := by
  rw [counted, h]
  show [UInt8.ofNat (unitOf ctx).toNat, _] ++ _ ++ _ = _
  rw [UInt8.ofNat_toNat]

end Basis

section Tables

variable {α : Type} {sft : Sft} {mapping : ModbusMapping} {table : Table α}

theorem replyRange_eq {address nb : Nat} {countRight : Bool} (serve : Int → Option Response)
    (h : countRight = true → 0 < nb) :
    replyRange sft mapping table address nb countRight serve =
      if countRight = true then
        if table.bank.Has address nb then serve (address - table.start)
        else some (responseException sft modbusExceptionIllegalDataAddress false mapping)
      else some (responseException sft modbusExceptionIllegalDataValue true mapping) := by
  unfold replyRange
  dsimp only
  by_cases hcount : countRight = true
  · have hin : table.bank.Has address nb ↔
        ¬((address : Int) - table.start < 0 ∨ (address : Int) - table.start + nb > table.tab.length) := by
      rw [Table.bank, has_bank (h hcount)]
      omega
    rw [if_neg (fun hnot => hnot hcount), if_pos hcount]
    by_cases hhas : table.bank.Has address nb
    · rw [if_neg (hin.mp hhas), if_pos hhas]
    · rw [if_neg hhas, if_pos (Decidable.not_not.mp fun hnot => hhas (hin.mpr hnot))]
  · rw [if_pos hcount, if_neg hcount]

theorem replySingle_eq {address : Nat} (serve : Int → Option Response) :
    replySingle sft mapping table address serve =
      if table.bank.Has address 1 then serve (address - table.start)
      else some (responseException sft modbusExceptionIllegalDataAddress false mapping) := by
  have hin : table.bank.Has address 1 ↔
      ¬((address : Int) - table.start < 0 ∨ (address : Int) - table.start ≥ table.tab.length) := by
    rw [Table.bank, has_bank Nat.one_pos]
    omega
  unfold replySingle
  dsimp only
  by_cases hhas : table.bank.Has address 1
  · rw [if_neg (hin.mp hhas), if_pos hhas]
  · rw [if_neg hhas, if_pos (Decidable.not_not.mp fun hnot => hhas (hin.mpr hnot))]

end Tables

section Responses

variable {ctx : ModbusT} {call : Call} {mapping : ModbusMapping}

theorem Memory.result_error {m : Memory} {code : Nat} (h : m.serve call = .error code) :
    m.result call = .error (.emb code) ∧ m.after call = m := by
  unfold result after
  rw [h]
  exact ⟨rfl, rfl⟩

theorem Memory.result_ok {m m' : Memory} {got : Got} (h : m.serve call = .ok (got, m')) :
    m.result call = .ok got ∧ m.after call = m' := by
  unfold result after
  rw [h]
  exact ⟨rfl, rfl⟩

theorem confirm_refusal {function code : Nat} (hfunction : byteAt (call.request ctx) 1 = function)
    (hlow : function < 0x80) (hcode : code < modbusExceptionMax) :
    checkConfirmation (call.request ctx) (frame (refusal (unitOf ctx) function code)) 5 =
      .error (.emb code) := by
  have hcodeByte : byteAt (frame (refusal (unitOf ctx) function code)) 2 = code :=
    ofNat_toNat_of_lt (Nat.lt_trans hcode (by decide))
  have hconfirm : checkConfirmation (call.request ctx)
      (frame (refusal (unitOf ctx) function code)) 5 =
        .error (.emb (byteAt (frame (refusal (unitOf ctx) function code)) 2)) := by
    refine checkConfirmation_exception (request_unit ctx call) ?_ ?_
    · rw [hfunction]
      exact ofNat_toNat_of_lt (by omega)
    · rw [hcodeByte]
      exact hcode
  rw [hconfirm, hcodeByte]

theorem settles_exception (hsound : mapping.Sound) {function code : Nat} {toFlush : Bool}
    (hfunction : byteAt (call.request ctx) 1 = function) (hlow : function < 0x80)
    (hserve : mapping.memory.serve call = .error code) (hcode : code < modbusExceptionMax)
    (hflush : toFlush = true → code = modbusExceptionIllegalDataValue) :
    Settles ctx call mapping
      (responseException ⟨(unitOf ctx).toNat, function⟩ code toFlush mapping) := by
  have hrsp : (responseException ⟨(unitOf ctx).toNat, function⟩ code toFlush mapping).rsp =
      refusal (unitOf ctx) function code := by
    show [UInt8.ofNat (unitOf ctx).toNat, _, _] = _
    rw [UInt8.ofNat_toNat]
    rfl
  have hresult := Memory.result_error hserve
  refine ⟨?_, ?_, ?_, hresult.2.symm, hsound, ?_⟩
  · rw [hrsp, request_unit]
    rfl
  · rw [hrsp]
    exact whole_refusal _ hlow code
  · rw [hrsp, hresult.1, show (frame (refusal (unitOf ctx) function code)).length = 5 from rfl,
      confirm_refusal hfunction hlow hcode]
    rfl
  · intro h
    rw [hserve, hflush h]

theorem settles_miscounted (hsound : mapping.Sound) {function : Nat}
    (hfunction : byteAt (call.request ctx) 1 = function) (hlow : function < 0x80)
    (hserve : mapping.memory.serve call = .error modbusExceptionIllegalDataValue) :
    Settles ctx call mapping (responseException ⟨(unitOf ctx).toNat, function⟩
      modbusExceptionIllegalDataValue true mapping) :=
  settles_exception hsound hfunction hlow hserve (by decide) fun _ => rfl

theorem settles_outside (hsound : mapping.Sound) {function : Nat}
    (hfunction : byteAt (call.request ctx) 1 = function) (hlow : function < 0x80)
    (hserve : mapping.memory.serve call = .error modbusExceptionIllegalDataAddress) :
    Settles ctx call mapping (responseException ⟨(unitOf ctx).toNat, function⟩
      modbusExceptionIllegalDataAddress false mapping) :=
  settles_exception hsound hfunction hlow hserve (by decide) fun h => absurd h Bool.false_ne_true

theorem settles_ok {mapping' : ModbusMapping} {rsp : List Byte} {got : Got}
    {rc : Nat} (hsound' : mapping'.Sound)
    (hserve : mapping.memory.serve call = .ok (got, mapping'.memory))
    (hunit : byteAt rsp 0 = (unitOf ctx).toNat) (hwhole : Whole .confirmation (frame rsp))
    (hconfirm : checkConfirmation (call.request ctx) (frame rsp) (frame rsp).length = .ok rc)
    (hgot : call.got (rc, frame rsp) = got) : Settles ctx call mapping ⟨rsp, false, mapping'⟩ := by
  have hresult := Memory.result_ok hserve
  refine ⟨?_, hwhole, ?_, hresult.2.symm, hsound', fun h => absurd h Bool.false_ne_true⟩
  · rw [request_unit]
    exact hunit
  · rw [hconfirm, hresult.1, ← hgot]
    rfl

end Responses

section Reads

variable {ctx : ModbusT} {call : Call} {mapping : ModbusMapping} {function nb : Nat} {addr : Int}

theorem fetch_zero {α : Type} (m : Bank α) (addr : Int) :
    fetch m addr 0 = .error modbusExceptionIllegalDataValue := rfl

theorem fetch_has {α : Type} {m : Bank α} (hnb : nb ≠ 0)
    (h : m.Has (onLine addr) nb) : fetch m addr nb = .ok (m.read (onLine addr) nb) := by
  unfold fetch
  rw [if_neg hnb, if_pos h]

theorem fetch_hasNot {α : Type} {m : Bank α} (hnb : nb ≠ 0)
    (h : ¬m.Has (onLine addr) nb) : fetch m addr nb = .error modbusExceptionIllegalDataAddress := by
  unfold fetch
  rw [if_neg hnb, if_neg h]

theorem confirm_bits {req : List Byte} {unit : Byte} {status : List Byte}
    (hfunction : function = modbusFcReadCoils ∨ function = modbusFcReadDiscreteInputs)
    (hunit : byteAt req 0 = unit.toNat) (hreq : byteAt req 1 = function)
    (hnb : wordAt req 4 = nb) (hmax : nb ≤ 2000) (hstatus : status.length = bitBytes nb) :
    Whole .confirmation (frame (counted unit function status)) ∧
      checkConfirmation req (frame (counted unit function status))
        (frame (counted unit function status)).length = .ok (bitBytes nb) := by
  have hlow : function < 0x80 := by
    rcases hfunction with rfl | rfl <;> decide
  have hsize : status.length ≤ 250 := by
    rw [hstatus, bitBytes_eq]
    omega
  have hrspFunction := counted_function unit (by omega : function < 256) status
  refine ⟨whole_counted unit (hfunction.imp_right .inl) (by omega),
    checkConfirmation_ok hunit (hrspFunction.trans hreq.symm) (by omega) (.inl ?_) ?_⟩
  · rw [responseLength_bits (by rw [hreq]; exact hfunction), hnb, length_counted, hstatus]
  · unfold nbValues
    dsimp only
    rw [hrspFunction, if_pos hfunction, hnb, counted_count unit function (by omega), hstatus]

theorem replyReadBits_settles {table : Table Byte}
    (hfunction : function = modbusFcReadCoils ∨ function = modbusFcReadDiscreteInputs)
    (hnb : nb ≤ modbusMaxReadBits) (hflags : Flags table.tab) (hsound : mapping.Sound)
    (hrequest : call.request ctx = buildRequestBasis ctx function addr nb)
    (hserve : mapping.memory.serve call = (fetch (table.bank.map isSet) addr nb).map
      fun bits => (⟨nb, bits.map flag, []⟩, mapping.memory))
    (hgot : call.got = (Call.readBits addr nb).got) :
    ∃ response, replyReadBits ⟨(unitOf ctx).toNat, function⟩ (frame (call.request ctx)) mapping
      table = some response ∧ Settles ctx call mapping response := by
  have hlow : function < 0x80 := by
    rcases hfunction with rfl | rfl <;> decide
  have hmax : nb ≤ 2000 := hnb
  have hreq : byteAt (call.request ctx) 1 = function := by
    rw [hrequest]
    exact ofNat_toNat_of_lt (by omega)
  obtain ⟨check, hcheck, hframe⟩ := frame_split (buildRequestBasis ctx function addr nb)
  unfold replyReadBits
  rw [hrequest, hframe]
  dsimp only
  rw [basis_address, basis_nb, onLine_of_lt (by omega : nb < 65536), replyRange_eq _ (by
    intro h
    exact (of_decide_eq_true h).1)]
  by_cases hzero : nb = 0
  · subst hzero
    refine ⟨_, if_neg (by decide), ?_⟩
    rw [fetch_zero] at hserve
    exact settles_miscounted hsound hreq hlow hserve
  · rw [if_pos (decide_eq_true ⟨Nat.pos_of_ne_zero hzero, hnb⟩)]
    by_cases hhas : table.bank.Has (onLine addr) nb
    · have hflagsRead : Flags (table.bank.read (onLine addr) nb) :=
        fun bit hbit => hflags bit (mem_of_read hbit)
      have hlength := Bank.length_read hhas
      obtain ⟨hstatus, hbits⟩ := status_bits hflagsRead
      rw [hlength] at hstatus hbits
      have hblock : responseIoStatus table.tab ((onLine addr : Int) - table.start) nb = some
          ((table.bank.read (onLine addr) nb).foldl Packing.push ⟨[], 0, 0⟩).finish := by
        unfold responseIoStatus
        rw [block_eq hhas]
        rfl
      generalize ((table.bank.read (onLine addr) nb).foldl Packing.push ⟨[], 0, 0⟩).finish =
        status at hstatus hbits hblock
      have hrsp : buildResponseBasis ⟨(unitOf ctx).toNat, function⟩ ++ [.ofNat (bitBytes nb)] ++
          status = counted (unitOf ctx) function status := response_counted ctx function hstatus
      have hnbWord : wordAt (call.request ctx) 4 = nb := by
        rw [hrequest]
        exact (onLine_toNat nb).trans (onLine_of_lt (by omega))
      obtain ⟨hwhole, hconfirm⟩ :=
        confirm_bits hfunction (request_unit ctx call) hreq hnbWord hmax hstatus
      rw [if_pos hhas, hblock, Option.map_some, hrsp]
      refine ⟨_, rfl, settles_ok hsound ?_ rfl hwhole hconfirm rfl⟩
      rw [hserve, fetch_has hzero ((Bank.has_map isSet _ _ _).mpr hhas), Bank.read_map, hgot]
      show Except.ok (Got.mk nb (List.map flag _) [], _) = _
      rw [flag_isSet hflagsRead, Call.got, show modbusRtuHeaderLength + 2 = 3 from rfl,
        ← hstatus, counted_data, Int.toNat_natCast, hbits]
    · rw [if_neg hhas]
      refine ⟨_, rfl, ?_⟩
      rw [fetch_hasNot hzero (fun h => hhas ((Bank.has_map isSet _ _ _).mp h))] at hserve
      exact settles_outside hsound hreq hlow hserve

theorem confirm_words {req : List Byte} {unit : Byte} {words : List UInt16}
    (hfunction : function = modbusFcReadHoldingRegisters ∨ function = modbusFcReadInputRegisters ∨
      function = modbusFcWriteAndReadRegisters)
    (hunit : byteAt req 0 = unit.toNat) (hreq : byteAt req 1 = function)
    (hnb : wordAt req 4 = words.length) (hmax : words.length ≤ 125) :
    let rsp := counted unit function (words.flatMap fun w => wordBytes w.toNat)
    Whole .confirmation (frame rsp) ∧
      checkConfirmation req (frame rsp) (frame rsp).length = .ok words.length ∧
      wordsFrom (frame rsp) 3 words.length = words := by
  have hlow : function < 0x80 := by
    rcases hfunction with rfl | rfl | rfl <;> decide
  have hdata := length_words words
  generalize hflat : (words.flatMap fun w => wordBytes w.toNat) = data at hdata
  have hrspFunction := counted_function unit (by omega : function < 256) data
  have hrspCount := counted_count unit function (by omega : data.length < 256)
  dsimp only
  refine ⟨whole_counted unit ?_ (by omega), checkConfirmation_ok hunit ?_ ?_ (.inl ?_) ?_, ?_⟩
  · rcases hfunction with rfl | rfl | rfl
    · exact .inr (.inr (.inl rfl))
    · exact .inr (.inr (.inr (.inl rfl)))
    · exact .inr (.inr (.inr (.inr (.inr rfl))))
  · rw [hrspFunction, hreq]
  · omega
  · rw [responseLength_words (by rw [hreq]; exact hfunction), length_counted, hnb]
    omega
  · have hhalf : byteAt (frame (counted unit function data)) 2 / 2 = words.length := by omega
    unfold nbValues
    dsimp only
    rw [hrspFunction, hhalf, hnb]
    rcases hfunction with rfl | rfl | rfl <;> rfl
  · obtain ⟨check, -, hframe⟩ := frame_split (counted unit function data)
    rw [hframe, ← hflat, counted, List.append_assoc]
    exact wordsFrom_flatMap _ words check

theorem replyReadRegisters_settles {table : Table UInt16}
    (hfunction : function = modbusFcReadHoldingRegisters ∨ function = modbusFcReadInputRegisters)
    (hnb : nb ≤ modbusMaxReadRegisters) (hsound : mapping.Sound)
    (hrequest : call.request ctx = buildRequestBasis ctx function addr nb)
    (hserve : mapping.memory.serve call = (fetch table.bank addr nb).map
      fun words => (⟨nb, [], words⟩, mapping.memory))
    (hgot : call.got = (Call.readRegisters addr nb).got) :
    ∃ response, replyReadRegisters ⟨(unitOf ctx).toNat, function⟩ (frame (call.request ctx)) mapping
      table = some response ∧ Settles ctx call mapping response := by
  have hlow : function < 0x80 := by
    rcases hfunction with rfl | rfl <;> decide
  have hmax : nb ≤ 125 := hnb
  have hreq : byteAt (call.request ctx) 1 = function := by
    rw [hrequest]
    exact ofNat_toNat_of_lt (by omega)
  obtain ⟨check, hcheck, hframe⟩ := frame_split (buildRequestBasis ctx function addr nb)
  unfold replyReadRegisters
  rw [hrequest, hframe]
  dsimp only
  rw [basis_address, basis_nb, onLine_of_lt (by omega : nb < 65536), replyRange_eq _ (by
    intro h
    exact (of_decide_eq_true h).1)]
  by_cases hzero : nb = 0
  · subst hzero
    refine ⟨_, if_neg (by decide), ?_⟩
    rw [fetch_zero] at hserve
    exact settles_miscounted hsound hreq hlow hserve
  · rw [if_pos (decide_eq_true ⟨Nat.pos_of_ne_zero hzero, hnb⟩)]
    by_cases hhas : table.bank.Has (onLine addr) nb
    · have hlength := Bank.length_read hhas
      have hblock : block table.tab ((onLine addr : Int) - table.start) nb =
          some (table.bank.read (onLine addr) nb) := block_eq hhas
      rw [fetch_has hzero hhas] at hserve
      generalize table.bank.read (onLine addr) nb = words at hlength hblock hserve
      have hrsp : buildResponseBasis ⟨(unitOf ctx).toNat, function⟩ ++ [.ofNat (nb * 2)] ++
          words.flatMap (fun w => wordBytes w.toNat) =
          counted (unitOf ctx) function (words.flatMap fun w => wordBytes w.toNat) :=
        response_counted ctx function (by rw [length_words, hlength])
      have hnbWord : wordAt (call.request ctx) 4 = words.length := by
        rw [hrequest, hlength]
        exact (onLine_toNat nb).trans (onLine_of_lt (by omega))
      obtain ⟨hwhole, hconfirm, hwords⟩ := confirm_words (hfunction.imp_right .inl)
        (request_unit ctx call) hreq hnbWord (by omega)
      rw [if_pos hhas, hblock, Option.map_some, hrsp]
      refine ⟨_, rfl, settles_ok hsound hserve rfl hwhole hconfirm ?_⟩
      rw [hgot, Call.got, show modbusRtuHeaderLength + 2 = 3 from rfl, hwords, hlength]
    · rw [if_neg hhas]
      refine ⟨_, rfl, ?_⟩
      rw [fetch_hasNot hzero hhas] at hserve
      exact settles_outside hsound hreq hlow hserve

end Reads

section Writes

variable {ctx : ModbusT} {call : Call} {mapping : ModbusMapping} {function nb : Nat} {addr : Int}

theorem store_has {α : Type} {m : Bank α} {xs : List α} (hxs : xs ≠ [])
    (h : m.Has (onLine addr) xs.length) : store m addr xs = .ok (m.write (onLine addr) xs) := by
  unfold store
  rw [if_neg hxs, if_pos h]

theorem store_hasNot {α : Type} {m : Bank α} {xs : List α} (hxs : xs ≠ [])
    (h : ¬m.Has (onLine addr) xs.length) :
    store m addr xs = .error modbusExceptionIllegalDataAddress := by
  unfold store
  rw [if_neg hxs, if_neg h]

theorem store_coils {bits : List Bool} {tab : List Byte} (hbits : bits ≠ [])
    (h : mapping.bits.bank.Has (onLine addr) bits.length)
    (hbank : Cells.bank mapping.bits.start tab =
      mapping.bits.bank.write (onLine addr) (bits.map flag)) :
    store mapping.memory.coils addr bits = .ok ((Cells.bank mapping.bits.start tab).map isSet) := by
  have hcoils : (mapping.bits.bank.map isSet).Has (onLine addr) bits.length :=
    (Bank.has_map isSet _ _ _).mpr h
  calc store mapping.memory.coils addr bits
      = .ok ((mapping.bits.bank.map isSet).write (onLine addr) bits) := store_has hbits hcoils
    _ = .ok ((mapping.bits.bank.write (onLine addr) (bits.map flag)).map isSet) := by
        rw [← Bank.write_map, isSet_flag]
    _ = _ := by rw [← hbank]

theorem store_coils_hasNot {bits : List Bool} (hbits : bits ≠ [])
    (h : ¬mapping.bits.bank.Has (onLine addr) bits.length) :
    store mapping.memory.coils addr bits = .error modbusExceptionIllegalDataAddress :=
  store_hasNot hbits fun hcoils => h ((Bank.has_map isSet _ _ _).mp hcoils)

theorem put_table {α : Type} {table : Table α} {addr : Nat} (h : table.bank.Has addr 1) (x : α) :
    ∃ tab, put table.tab (addr - table.start) x = some tab ∧
      Cells.bank table.start tab = table.bank.write addr [x] ∧
      ∀ P : α → Prop, (∀ y ∈ table.tab, P y) → P x → ∀ y ∈ tab, P y := by
  have hcell : (Cells.bank table.start table.tab addr).isSome := h 0 Nat.one_pos
  refine ⟨_, put_eq x hcell, bank_set x hcell, fun P htab hx y hy => ?_⟩
  rcases List.mem_or_eq_of_mem_set hy with hy | rfl
  · exact htab y hy
  · exact hx

theorem fill_table {α : Type} {table : Table α} {addr : Nat} {xs : List α}
    (h : table.bank.Has addr xs.length) :
    ∃ tab, fill table.tab (addr - table.start) xs = some tab ∧
      Cells.bank table.start tab = table.bank.write addr xs ∧
      ∀ P : α → Prop, (∀ y ∈ table.tab, P y) → (∀ x ∈ xs, P x) → ∀ y ∈ tab, P y := by
  obtain ⟨tab, hfill, _, hbank⟩ := fill_eq h
  exact ⟨tab, hfill, hbank, (fill_some hfill).2⟩

theorem echo_frame (body : List Byte) : echo (frame body) (frame body).length = body := by
  obtain ⟨check, hcheck, hframe⟩ := frame_split body
  unfold echo
  rw [hframe, List.length_append, hcheck]
  exact List.take_left

theorem confirm_echo (hreq : byteAt (call.request ctx) 1 = function)
    (h : (function = modbusFcWriteSingleCoil ∨ function = modbusFcWriteSingleRegister) ∧
        (call.request ctx).length = 6 ∨
      function = modbusFcMaskWriteRegister ∧ (call.request ctx).length = 8) :
    Whole .confirmation (frame (call.request ctx)) ∧
      checkConfirmation (call.request ctx) (frame (call.request ctx))
        (frame (call.request ctx)).length = .ok 1 := by
  have hlong : 6 ≤ (call.request ctx).length := by omega
  have hunit := @byteAt_frame (call.request ctx) 0 (by omega)
  have hsame := @byteAt_frame (call.request ctx) 1 (by omega)
  refine ⟨whole_copied hreq ?_, checkConfirmation_ok hunit.symm hsame ?_ (.inl ?_) ?_⟩
  · rcases h with ⟨rfl | rfl, hlength⟩ | hmask
    · exact .inl ⟨.inl rfl, hlength⟩
    · exact .inl ⟨.inr (.inl rfl), hlength⟩
    · exact .inr hmask
  · rw [hreq]
    rcases h with ⟨rfl | rfl, _⟩ | ⟨rfl, _⟩ <;> decide
  · rw [length_frame]
    rcases h with ⟨rfl | rfl, hlength⟩ | ⟨rfl, hlength⟩
    · rw [responseLength_copied (.inl hreq), hlength]
    · rw [responseLength_copied (.inr (.inl hreq)), hlength]
    · rw [responseLength_mask hreq, hlength]
  · unfold nbValues
    dsimp only
    rw [hsame, hreq]
    rcases h with ⟨rfl | rfl, _⟩ | ⟨rfl, _⟩ <;> rfl

theorem replyWriteBit_settles (addr : Int) (status : Int) (hsound : mapping.Sound) :
    let call := Call.writeBit addr status
    ∃ response, replyWriteBit ⟨(unitOf ctx).toNat, modbusFcWriteSingleCoil⟩
      (frame (call.request ctx)) (frame (call.request ctx)).length mapping = some response ∧
      Settles ctx call mapping response := by
  dsimp only
  have hreq : byteAt ((Call.writeBit addr status).request ctx) 1 = modbusFcWriteSingleCoil := rfl
  obtain ⟨check, hcheck, hframe⟩ := frame_split ((Call.writeBit addr status).request ctx)
  have hecho := echo_frame ((Call.writeBit addr status).request ctx)
  unfold replyWriteBit
  rw [hecho, hframe, Call.request]
  dsimp only
  have hcoil : onLine ((if status ≠ 0 then 0xFF00 else 0 : Nat) : Int) =
      if status ≠ 0 then 0xFF00 else 0 := by
    split <;> rfl
  rw [basis_address, basis_nb, replySingle_eq, hcoil]
  by_cases hhas : mapping.bits.bank.Has (onLine addr) 1
  · have hdata : (if status ≠ 0 then 0xFF00 else 0) = 0xFF00 ∨
        (if status ≠ 0 then 0xFF00 else 0) = 0 := by
      split
      · exact .inl rfl
      · exact .inr rfl
    have hcell : (if (if status ≠ 0 then 0xFF00 else 0) ≠ 0 then (1 : Byte) else 0) =
        flag (decide (status ≠ 0)) := by
      by_cases h : status ≠ 0
      · rw [if_pos h, decide_eq_true h]
        rfl
      · rw [if_neg h, decide_eq_false h]
        rfl
    obtain ⟨tab, hput, hbank, hall⟩ := put_table hhas (flag (decide (status ≠ 0)))
    obtain ⟨hwhole, hconfirm⟩ := confirm_echo hreq (.inl ⟨.inl rfl, rfl⟩)
    rw [if_pos hhas, if_pos hdata, hcell, hput, Option.map_some]
    have hflag : flag (decide (status ≠ 0)) = 0 ∨ flag (decide (status ≠ 0)) = 1 :=
      flags_map [decide (status ≠ 0)] _ (.head _)
    refine ⟨_, rfl, settles_ok ⟨hall _ hsound.bits hflag, hsound.inputBits⟩ ?_ rfl hwhole hconfirm rfl⟩
    have hstore : store mapping.memory.coils addr [decide (status ≠ 0)] =
        .ok ((Cells.bank mapping.bits.start tab).map isSet) :=
      store_coils (List.cons_ne_nil _ _) hhas hbank
    rw [Memory.serve, hstore]
    rfl
  · rw [if_neg hhas]
    refine ⟨_, rfl, settles_outside hsound hreq (by decide) ?_⟩
    have hstore : store mapping.memory.coils addr [decide (status ≠ 0)] =
        .error modbusExceptionIllegalDataAddress := store_coils_hasNot (List.cons_ne_nil _ _) hhas
    rw [Memory.serve, hstore]
    rfl

theorem replyWriteRegister_settles (addr : Int) (value : UInt16) (hsound : mapping.Sound) :
    let call := Call.writeRegister addr value
    ∃ response, replyWriteRegister ⟨(unitOf ctx).toNat, modbusFcWriteSingleRegister⟩
      (frame (call.request ctx)) (frame (call.request ctx)).length mapping = some response ∧
      Settles ctx call mapping response := by
  dsimp only
  have hreq : byteAt ((Call.writeRegister addr value).request ctx) 1 = modbusFcWriteSingleRegister :=
    rfl
  obtain ⟨check, hcheck, hframe⟩ := frame_split ((Call.writeRegister addr value).request ctx)
  have hecho := echo_frame ((Call.writeRegister addr value).request ctx)
  unfold replyWriteRegister
  rw [hecho, hframe, Call.request]
  dsimp only
  rw [basis_address, basis_nb, replySingle_eq, onLine_word, UInt16.ofNat_toNat]
  by_cases hhas : mapping.registers.bank.Has (onLine addr) 1
  · obtain ⟨tab, hput, hbank, -⟩ := put_table hhas value
    obtain ⟨hwhole, hconfirm⟩ := confirm_echo hreq (.inl ⟨.inr rfl, rfl⟩)
    rw [if_pos hhas, hput, Option.map_some]
    refine ⟨_, rfl, settles_ok ⟨hsound.bits, hsound.inputBits⟩ ?_ rfl hwhole hconfirm rfl⟩
    have hstore : store mapping.memory.registers addr [value] =
        .ok (Cells.bank mapping.registers.start tab) := by
      rw [hbank]
      exact store_has (List.cons_ne_nil _ _) hhas
    rw [Memory.serve, hstore]
    rfl
  · rw [if_neg hhas]
    refine ⟨_, rfl, settles_outside hsound hreq (by decide) ?_⟩
    have hstore : store mapping.memory.registers addr [value] =
        .error modbusExceptionIllegalDataAddress := store_hasNot (List.cons_ne_nil _ _) hhas
    rw [Memory.serve, hstore]
    rfl

theorem request_mask (addr : Int) (andMask orMask : UInt16) :
    (Call.maskWriteRegister addr andMask orMask).request ctx =
      buildRequestBasis ctx modbusFcMaskWriteRegister addr andMask.toNat ++
        wordBytes orMask.toNat := by
  rw [Call.request, buildRequestBasis, onLine_word]

theorem replyMaskWriteRegister_settles (addr : Int) (andMask orMask : UInt16)
    (hsound : mapping.Sound) :
    let call := Call.maskWriteRegister addr andMask orMask
    ∃ response, replyMaskWriteRegister ⟨(unitOf ctx).toNat, modbusFcMaskWriteRegister⟩
      (frame (call.request ctx)) (frame (call.request ctx)).length mapping = some response ∧
      Settles ctx call mapping response := by
  dsimp only
  have hreq : byteAt ((Call.maskWriteRegister addr andMask orMask).request ctx) 1 =
      modbusFcMaskWriteRegister := rfl
  obtain ⟨check, hcheck, hframe⟩ :=
    frame_split ((Call.maskWriteRegister addr andMask orMask).request ctx)
  have hecho := echo_frame ((Call.maskWriteRegister addr andMask orMask).request ctx)
  have hmasks : ∀ basis : List Byte, basis.length = 6 →
      wordAt (basis ++ wordBytes orMask.toNat ++ check) 6 = orMask.toNat % 65536 := by
    intro basis hbasis
    rw [List.append_assoc, ← hbasis]
    exact wordAt_append basis _ check
  unfold replyMaskWriteRegister
  rw [hecho, hframe, request_mask]
  dsimp only
  rw [show modbusRtuHeaderLength + 5 = 6 from rfl, hmasks _ rfl, List.append_assoc, basis_address,
    replySingle_eq, ofNat_word]
  have hand : UInt16.ofNat (wordAt (buildRequestBasis ctx modbusFcMaskWriteRegister addr
      andMask.toNat ++ (wordBytes orMask.toNat ++ check)) (modbusRtuHeaderLength + 3)) = andMask := by
    show UInt16.ofNat (reqNb _) = _
    rw [basis_nb, onLine_word, UInt16.ofNat_toNat]
  rw [hand]
  by_cases hhas : mapping.registers.bank.Has (onLine addr) 1
  · have hcell : (mapping.registers.bank (onLine addr)).isSome := hhas 0 Nat.one_pos
    obtain ⟨w, hw⟩ := Option.isSome_iff_exists.mp hcell
    have hget : get mapping.registers.tab ((onLine addr : Int) - mapping.registers.start) = some w :=
      (get_eq_bank _ _ _).trans hw
    obtain ⟨tab, hput, hbank, -⟩ := put_table hhas (masked andMask orMask w)
    obtain ⟨hwhole, hconfirm⟩ := confirm_echo hreq (.inr ⟨rfl, rfl⟩)
    have hread : mapping.registers.bank.read (onLine addr) 1 = [w] := Bank.read_succ hw
    have hfetch : fetch mapping.memory.registers addr 1 = .ok [w] := by
      rw [← hread]
      exact fetch_has Nat.one_ne_zero hhas
    have hstore : store mapping.memory.registers addr [masked andMask orMask w] =
        .ok (Cells.bank mapping.registers.start tab) := by
      rw [hbank]
      exact store_has (List.cons_ne_nil _ _) hhas
    rw [if_pos hhas, hget, Option.bind_some, show (w &&& andMask ||| orMask &&& ~~~andMask) =
      masked andMask orMask w from rfl, hput, Option.map_some, ← request_mask addr andMask orMask]
    refine ⟨_, rfl, settles_ok ⟨hsound.bits, hsound.inputBits⟩ ?_ rfl hwhole hconfirm rfl⟩
    rw [Memory.serve, hfetch]
    show (store _ _ [masked andMask orMask w]).map _ = _
    rw [hstore]
    rfl
  · rw [if_neg hhas]
    refine ⟨_, rfl, settles_outside hsound hreq (by decide) ?_⟩
    have hfetch : fetch mapping.memory.registers addr 1 =
        .error modbusExceptionIllegalDataAddress := fetch_hasNot Nat.one_ne_zero hhas
    rw [Memory.serve, hfetch]
    rfl

theorem confirm_start (hfunction : function = modbusFcWriteMultipleCoils ∨
      function = modbusFcWriteMultipleRegisters) {rest : List Byte}
    (hrequest : call.request ctx = buildRequestBasis ctx function addr nb ++ rest)
    (hnb : nb < 65536) :
    Whole .confirmation (frame (buildRequestBasis ctx function addr nb)) ∧
      checkConfirmation (call.request ctx) (frame (buildRequestBasis ctx function addr nb))
        (frame (buildRequestBasis ctx function addr nb)).length = .ok nb := by
  have hlt : function < 256 := by
    rcases hfunction with rfl | rfl <;> decide
  have hreq : byteAt (call.request ctx) 1 = function := by
    rw [hrequest, basis_function ctx addr nb rest hlt]
  have hrsp : byteAt (frame (buildRequestBasis ctx function addr nb)) 1 = function :=
    ofNat_toNat_of_lt hlt
  have hreqNb : wordAt (call.request ctx) 4 = nb := by
    rw [hrequest]
    exact (basis_nb ctx addr nb rest).trans (onLine_of_lt hnb)
  have hrspNb : wordAt (frame (buildRequestBasis ctx function addr nb)) 4 = nb :=
    (onLine_toNat nb).trans (onLine_of_lt hnb)
  refine ⟨whole_copied (ofNat_toNat_of_lt hlt) (.inl ⟨.inr (.inr hfunction), rfl⟩),
    checkConfirmation_ok (request_unit ctx call) (hrsp.trans hreq.symm) ?_ (.inl ?_) ?_⟩
  · rw [hreq]
    rcases hfunction with rfl | rfl <;> decide
  · rw [responseLength_copied (.inr (.inr (by rw [hreq]; exact hfunction)))]
    rfl
  · unfold nbValues
    dsimp only
    rw [hrsp, hreqNb, hrspNb]
    rcases hfunction with rfl | rfl <;> rfl

theorem copied_start (rest : List Byte) :
    buildResponseBasis ⟨(unitOf ctx).toNat, function⟩ ++
      ((buildRequestBasis ctx function addr nb ++ rest).drop 2).take 4 =
        buildRequestBasis ctx function addr nb := by
  show [UInt8.ofNat (unitOf ctx).toNat, _] ++ _ = _
  rw [UInt8.ofNat_toNat]
  rfl

theorem packed_at (basis check : List Byte) {src : List Byte} {i : Nat}
    (hi : i < bitBytes src.length) :
    (basis ++ (List.range (bitBytes src.length)).map (packByte src) ++ check).getD
      (basis.length + i) 0 = packByte src i := by
  rw [List.append_assoc, List.getD_eq_getElem?_getD,
    List.getElem?_append_right (Nat.le_add_right _ _), Nat.add_sub_cancel_left,
    List.getElem?_append_left (by rw [List.length_map, List.length_range]; exact hi),
    List.getElem?_map, List.getElem?_range hi]
  rfl

theorem replyWriteBits_settles {src : List Byte} (hsrc : src.length ≤ modbusMaxWriteBits)
    (hsound : mapping.Sound)
    (hrequest : call.request ctx =
      buildRequestBasis ctx modbusFcWriteMultipleCoils addr src.length ++
        [.ofNat (bitBytes src.length)] ++ (List.range (bitBytes src.length)).map (packByte src))
    (hserve : mapping.memory.serve call = (store mapping.memory.coils addr (src.map isSet)).map
      fun coils => (⟨src.length, [], []⟩, { mapping.memory with coils }))
    (hgot : ∀ rc rsp, call.got (rc, rsp) = ⟨rc, [], []⟩) :
    ∃ response, replyWriteBits ⟨(unitOf ctx).toNat, modbusFcWriteMultipleCoils⟩
      (frame (call.request ctx)) mapping = some response ∧ Settles ctx call mapping response := by
  have hmax : src.length ≤ 1968 := hsrc
  have hreq : byteAt (call.request ctx) 1 = modbusFcWriteMultipleCoils := by
    rw [hrequest]
    rfl
  obtain ⟨check, hcheck, hframe⟩ := frame_split (call.request ctx)
  have hsize : bitBytes src.length ≤ 246 := by
    rw [bitBytes_eq]
    omega
  have hroom : src.length ≤ bitBytes src.length * 8 := by
    rw [bitBytes_eq]
    omega
  unfold replyWriteBits
  rw [hframe, hrequest]
  dsimp only
  -- the count, and the bytes behind it
  have hcount : byteAt (buildRequestBasis ctx modbusFcWriteMultipleCoils addr src.length ++
      [UInt8.ofNat (bitBytes src.length)] ++ (List.range (bitBytes src.length)).map (packByte src) ++
      check) (modbusRtuHeaderLength + 5) = bitBytes src.length := ofNat_toNat_of_lt (by omega)
  have hbytes : ∀ i, i < bitBytes src.length →
      (buildRequestBasis ctx modbusFcWriteMultipleCoils addr src.length ++
        [UInt8.ofNat (bitBytes src.length)] ++ (List.range (bitBytes src.length)).map (packByte src) ++
        check).getD (modbusRtuHeaderLength + 6 + i) 0 = packByte src i :=
    fun _ hi => packed_at (buildRequestBasis ctx modbusFcWriteMultipleCoils addr src.length ++
      [UInt8.ofNat (bitBytes src.length)]) check hi
  rw [hcount]
  rw [List.append_assoc, List.append_assoc] at hbytes ⊢
  generalize hrest : [UInt8.ofNat (bitBytes src.length)] ++
    ((List.range (bitBytes src.length)).map (packByte src) ++ check) = rest at hbytes
  rw [basis_address, basis_nb, onLine_of_lt (by omega : src.length < 65536),
    replyRange_eq _ (by intro h; exact (of_decide_eq_true h).1)]
  by_cases hzero : src = []
  · subst hzero
    exact ⟨_, if_neg (by decide), settles_miscounted hsound hreq (by decide) hserve⟩
  · have hpos : 1 ≤ src.length := List.length_pos_iff.mpr hzero
    have hne : src.map isSet ≠ [] := fun h => hzero (List.map_eq_nil_iff.mp h)
    rw [if_pos (decide_eq_true ⟨hpos, hsrc, hroom⟩)]
    by_cases hhas : mapping.bits.bank.Has (onLine addr) src.length
    · have hvalues := written_bits src hbytes
      have hvaluesLength : ((src.map isSet).map flag).length = src.length := by
        rw [List.length_map, List.length_map]
      obtain ⟨tab, hfill, hbank, hall⟩ :=
        @fill_table _ mapping.bits (onLine addr) ((src.map isSet).map flag)
          (by rw [hvaluesLength]; exact hhas)
      have hset : modbusSetBitsFromBytes mapping.bits.tab
          ((onLine addr : Int) - mapping.bits.start) src.length
          (fun i => (buildRequestBasis ctx modbusFcWriteMultipleCoils addr src.length ++ rest).getD
            (modbusRtuHeaderLength + 6 + i) 0) = some tab := by
        unfold modbusSetBitsFromBytes
        rw [hvalues]
        exact hfill
      obtain ⟨hwhole, hconfirm⟩ :=
        confirm_start (.inl rfl) (hrequest.trans (List.append_assoc _ _ _)) (by omega)
      rw [if_pos hhas, hset, Option.map_some, copied_start]
      refine ⟨_, rfl, settles_ok ⟨hall _ hsound.bits (flags_map _), hsound.inputBits⟩ ?_ rfl hwhole
        hconfirm (hgot _ _)⟩
      rw [hserve, store_coils hne (by rw [List.length_map]; exact hhas) hbank]
      rfl
    · rw [if_neg hhas]
      refine ⟨_, rfl, settles_outside hsound hreq (by decide) ?_⟩
      rw [hserve, store_coils_hasNot hne (by rw [List.length_map]; exact hhas)]
      rfl

theorem replyWriteRegisters_settles {src : List UInt16}
    (hsrc : src.length ≤ modbusMaxWriteRegisters) (hsound : mapping.Sound)
    (hrequest : call.request ctx =
      buildRequestBasis ctx modbusFcWriteMultipleRegisters addr src.length ++
        [.ofNat (src.length * 2)] ++ src.flatMap fun value => wordBytes value.toNat)
    (hserve : mapping.memory.serve call = (store mapping.memory.registers addr src).map
      fun registers => (⟨src.length, [], []⟩, { mapping.memory with registers }))
    (hgot : ∀ rc rsp, call.got (rc, rsp) = ⟨rc, [], []⟩) :
    ∃ response, replyWriteRegisters ⟨(unitOf ctx).toNat, modbusFcWriteMultipleRegisters⟩
      (frame (call.request ctx)) mapping = some response ∧ Settles ctx call mapping response := by
  have hmax : src.length ≤ 123 := hsrc
  have hreq : byteAt (call.request ctx) 1 = modbusFcWriteMultipleRegisters := by
    rw [hrequest]
    rfl
  obtain ⟨check, hcheck, hframe⟩ := frame_split (call.request ctx)
  unfold replyWriteRegisters
  rw [hframe, hrequest]
  dsimp only
  have hcount : byteAt (buildRequestBasis ctx modbusFcWriteMultipleRegisters addr src.length ++
      [UInt8.ofNat (src.length * 2)] ++ src.flatMap (fun value => wordBytes value.toNat) ++ check)
      (modbusRtuHeaderLength + 5) = src.length * 2 := ofNat_toNat_of_lt (by omega)
  have hwords : wordsFrom (buildRequestBasis ctx modbusFcWriteMultipleRegisters addr src.length ++
      [UInt8.ofNat (src.length * 2)] ++ src.flatMap (fun value => wordBytes value.toNat) ++ check)
      (modbusRtuHeaderLength + 6) src.length = src := by
    rw [List.append_assoc _ (src.flatMap _)]
    exact wordsFrom_flatMap _ src check
  rw [hcount]
  rw [List.append_assoc, List.append_assoc] at hwords ⊢
  generalize hrest : [UInt8.ofNat (src.length * 2)] ++
    (src.flatMap (fun value => wordBytes value.toNat) ++ check) = rest at hwords
  rw [basis_address, basis_nb, onLine_of_lt (by omega : src.length < 65536), hwords,
    replyRange_eq _ (by intro h; exact (of_decide_eq_true h).1)]
  by_cases hzero : src = []
  · subst hzero
    exact ⟨_, if_neg (by decide), settles_miscounted hsound hreq (by decide) hserve⟩
  · have hpos : 1 ≤ src.length := List.length_pos_iff.mpr hzero
    rw [if_pos (decide_eq_true ⟨hpos, hsrc, rfl⟩)]
    by_cases hhas : mapping.registers.bank.Has (onLine addr) src.length
    · obtain ⟨tab, hfill, hbank, -⟩ := fill_table hhas
      obtain ⟨hwhole, hconfirm⟩ :=
        confirm_start (.inr rfl) (hrequest.trans (List.append_assoc _ _ _)) (by omega)
      rw [if_pos hhas, hfill, Option.map_some, copied_start]
      refine ⟨_, rfl, settles_ok ⟨hsound.bits, hsound.inputBits⟩ ?_ rfl hwhole hconfirm (hgot _ _)⟩
      have hstore : store mapping.memory.registers addr src =
          .ok (Cells.bank mapping.registers.start tab) := by
        rw [hbank]
        exact store_has hzero hhas
      rw [hserve, hstore]
      rfl
    · rw [if_neg hhas]
      refine ⟨_, rfl, settles_outside hsound hreq (by decide) ?_⟩
      have hstore : store mapping.memory.registers addr src =
          .error modbusExceptionIllegalDataAddress := store_hasNot hzero hhas
      rw [hserve, hstore]
      rfl

end Writes

section Both

variable {ctx : ModbusT} {call : Call} {mapping : ModbusMapping} {writeAddr readAddr : Int}
  {src : List UInt16} {readNb : Nat}

/-- What the code does not check of a request to write and read. -/
def Call.Within (start : Nat) : Call → Prop
  | .writeAndReadRegisters writeAddr _ _ _ _ => start ≤ onLine writeAddr
  | _ => True

theorem found_both (hsrc : src.length ≤ modbusMaxWrWriteRegisters)
    (hread : readNb ≤ modbusMaxWrReadRegisters)
    (hrequest : call.request ctx =
      buildRequestBasis ctx modbusFcWriteAndReadRegisters readAddr readNb ++
        wordBytes (onLine writeAddr) ++ wordBytes src.length ++ [.ofNat (src.length * 2)] ++
        src.flatMap fun value => wordBytes value.toNat) :
    let msg := frame (call.request ctx)
    (reqAddress msg = onLine readAddr ∧ reqNb msg = readNb) ∧
      wordAt msg 6 = onLine writeAddr ∧ wordAt msg 8 = src.length ∧
      byteAt msg 10 = src.length * 2 ∧ wordsFrom msg 11 src.length = src := by
  have hmaxWrite : src.length ≤ 121 := hsrc
  have hmaxRead : readNb ≤ 125 := hread
  obtain ⟨check, hcheck, hframe⟩ := frame_split (call.request ctx)
  have hmsg : frame (call.request ctx) =
      buildRequestBasis ctx modbusFcWriteAndReadRegisters readAddr readNb ++
        (wordBytes (onLine writeAddr) ++ (wordBytes src.length ++ ([UInt8.ofNat (src.length * 2)] ++
          (src.flatMap (fun value => wordBytes value.toNat) ++ check)))) := by
    rw [hframe, hrequest, List.append_assoc, List.append_assoc, List.append_assoc,
      List.append_assoc]
  generalize hbasis : buildRequestBasis ctx modbusFcWriteAndReadRegisters readAddr readNb = basis
    at hmsg
  have hlength : basis.length = 6 := by
    rw [← hbasis]
    rfl
  refine ⟨⟨?_, ?_⟩, ?_, ?_, ?_, ?_⟩
  · rw [hmsg, ← hbasis, basis_address]
  · rw [hmsg, ← hbasis, basis_nb, onLine_of_lt (by omega)]
  · rw [hmsg, ← hlength, wordAt_append, Nat.mod_eq_of_lt (onLine_lt writeAddr)]
  · have hplace : 8 = (basis ++ wordBytes (onLine writeAddr)).length := by
      rw [List.length_append, hlength]
      rfl
    rw [hmsg, ← List.append_assoc basis, hplace, wordAt_append, Nat.mod_eq_of_lt (by omega)]
  · have hplace : 10 =
        (basis ++ wordBytes (onLine writeAddr) ++ wordBytes src.length).length + 0 := by
      rw [List.length_append, List.length_append, hlength]
      rfl
    rw [hmsg, ← List.append_assoc basis, ← List.append_assoc (basis ++ _), hplace,
      byteAt_append_right]
    exact ofNat_toNat_of_lt (by omega)
  · have hplace : 11 = (basis ++ wordBytes (onLine writeAddr) ++ wordBytes src.length ++
        [UInt8.ofNat (src.length * 2)]).length := by
      rw [List.length_append, List.length_append, List.length_append, hlength]
      rfl
    rw [hmsg, ← List.append_assoc basis, ← List.append_assoc (basis ++ _),
      ← List.append_assoc (basis ++ _ ++ _), hplace, wordsFrom_flatMap]

theorem has_both {table : Table UInt16} {writeAddr readAddr writeNb readNb : Nat}
    (hwithin : table.start ≤ writeAddr) (hwrite : 0 < writeNb) (hread : 0 < readNb) :
    table.bank.Has writeAddr writeNb ∧ table.bank.Has readAddr readNb ↔
      ¬((readAddr : Int) - table.start < 0 ∨
        (readAddr : Int) - table.start + readNb > table.tab.length ∨
        (readAddr : Int) - table.start < 0 ∨
        (writeAddr : Int) - table.start + writeNb > table.tab.length) := by
  rw [Table.bank, has_bank hwrite, has_bank hread]
  omega

theorem replyWriteAndReadRegisters_settles (hsrc : src.length ≤ modbusMaxWrWriteRegisters)
    (hread : readNb ≤ modbusMaxWrReadRegisters)
    (hwithin : mapping.registers.start ≤ onLine writeAddr) (hsound : mapping.Sound)
    (hrequest : call.request ctx =
      buildRequestBasis ctx modbusFcWriteAndReadRegisters readAddr readNb ++
        wordBytes (onLine writeAddr) ++ wordBytes src.length ++ [.ofNat (src.length * 2)] ++
        src.flatMap fun value => wordBytes value.toNat)
    (hserve : mapping.memory.serve call =
      if src = [] ∨ readNb = 0 then .error modbusExceptionIllegalDataValue
      else if mapping.registers.bank.Has (onLine writeAddr) src.length ∧
          mapping.registers.bank.Has (onLine readAddr) readNb then
        .ok (⟨readNb, [], (mapping.registers.bank.write (onLine writeAddr) src).read
            (onLine readAddr) readNb⟩,
          { mapping.memory with registers := mapping.registers.bank.write (onLine writeAddr) src })
      else .error modbusExceptionIllegalDataAddress)
    (hgot : ∀ rc rsp, call.got (rc, rsp) =
      ⟨rc, [], wordsFrom rsp (modbusRtuHeaderLength + 2) rc⟩) :
    ∃ response, replyWriteAndReadRegisters ⟨(unitOf ctx).toNat, modbusFcWriteAndReadRegisters⟩
      (frame (call.request ctx)) mapping = some response ∧ Settles ctx call mapping response := by
  have hmaxWrite : src.length ≤ 121 := hsrc
  have hmaxRead : readNb ≤ 125 := hread
  have hreq : byteAt (call.request ctx) 1 = modbusFcWriteAndReadRegisters := by
    rw [hrequest]
    rfl
  have hreqNb : wordAt (call.request ctx) 4 = readNb := by
    rw [hrequest]
    exact (onLine_toNat readNb).trans (onLine_of_lt (by omega))
  obtain ⟨⟨haddress, hnb⟩, haddressWrite, hnbWrite, hnbWriteBytes, hwords⟩ :=
    found_both hsrc hread hrequest
  unfold replyWriteAndReadRegisters
  dsimp only
  rw [haddress, hnb, show modbusRtuHeaderLength + 5 = 6 from rfl,
    show modbusRtuHeaderLength + 7 = 8 from rfl, show modbusRtuHeaderLength + 9 = 10 from rfl,
    haddressWrite, hnbWrite, hnbWriteBytes, hwords]
  by_cases hzero : src = [] ∨ readNb = 0
  · have hwrong : src.length < 1 ∨ modbusMaxWrWriteRegisters < src.length ∨ readNb < 1 ∨
        modbusMaxWrReadRegisters < readNb ∨ src.length * 2 ≠ src.length * 2 := by
      rcases hzero with rfl | rfl
      · exact .inl Nat.zero_lt_one
      · exact .inr (.inr (.inl Nat.zero_lt_one))
    rw [if_pos hwrong]
    rw [if_pos hzero] at hserve
    exact ⟨_, rfl, settles_miscounted hsound hreq (by decide) hserve⟩
  · have hpos : 0 < src.length := List.length_pos_iff.mpr fun h => hzero (.inl h)
    have hposRead : 0 < readNb := Nat.pos_of_ne_zero fun h => hzero (.inr h)
    have hright : ¬(src.length < 1 ∨ modbusMaxWrWriteRegisters < src.length ∨ readNb < 1 ∨
        modbusMaxWrReadRegisters < readNb ∨ src.length * 2 ≠ src.length * 2) := by
      unfold modbusMaxWrWriteRegisters modbusMaxWrReadRegisters
      omega
    have hin := @has_both mapping.registers _ (onLine readAddr) _ _ hwithin hpos hposRead
    rw [if_neg hright]
    rw [if_neg hzero] at hserve
    by_cases hhas : mapping.registers.bank.Has (onLine writeAddr) src.length ∧
        mapping.registers.bank.Has (onLine readAddr) readNb
    · obtain ⟨tab, hfill, hbank, -⟩ := fill_table hhas.1
      have hhas' : (Cells.bank mapping.registers.start tab).Has (onLine readAddr) readNb := by
        rw [hbank]
        exact (Bank.has_write hhas.1).mpr hhas.2
      have hblock := block_eq hhas'
      have hlengthRead := Bank.length_read hhas'
      rw [if_neg (hin.mp hhas), hfill, Option.bind_some, hblock, Option.map_some]
      rw [if_pos hhas, ← hbank] at hserve
      generalize (Cells.bank mapping.registers.start tab).read (onLine readAddr) readNb = words
        at hlengthRead hserve
      have hrsp : buildResponseBasis ⟨(unitOf ctx).toNat, modbusFcWriteAndReadRegisters⟩ ++
          [.ofNat (readNb * 2)] ++ words.flatMap (fun w => wordBytes w.toNat) =
          counted (unitOf ctx) modbusFcWriteAndReadRegisters
            (words.flatMap fun w => wordBytes w.toNat) :=
        response_counted ctx _ (by rw [length_words, hlengthRead])
      obtain ⟨hwhole, hconfirm, hback⟩ := confirm_words (.inr (.inr rfl)) (request_unit ctx call)
        hreq (hreqNb.trans hlengthRead.symm) (by omega)
      rw [hrsp]
      refine ⟨_, rfl, settles_ok ⟨hsound.bits, hsound.inputBits⟩ hserve rfl hwhole hconfirm ?_⟩
      rw [hgot, show modbusRtuHeaderLength + 2 = 3 from rfl, hback, hlengthRead]
    · rw [if_pos (Decidable.not_not.mp fun h => hhas (hin.mpr h))]
      rw [if_neg hhas] at hserve
      exact ⟨_, rfl, settles_outside hsound hreq (by decide) hserve⟩

theorem replyReportSlaveId_settles (maxDest : Int) (hsound : mapping.Sound) :
    let call := Call.reportSlaveId maxDest
    Settles ctx call mapping
      (replyReportSlaveId ⟨(unitOf ctx).toNat, modbusFcReportSlaveId⟩ mapping) := by
  have hreq : byteAt ((Call.reportSlaveId maxDest).request ctx) 1 = modbusFcReportSlaveId := rfl
  have hrsp : replyReportSlaveId ⟨(unitOf ctx).toNat, modbusFcReportSlaveId⟩ mapping =
      ⟨counted (unitOf ctx) modbusFcReportSlaveId identity, false, mapping⟩ :=
    congrArg (Response.mk · false mapping) (response_counted ctx modbusFcReportSlaveId rfl)
  have hfunction := counted_function (unitOf ctx) (by decide : modbusFcReportSlaveId < 256) identity
  have hcount := counted_count (unitOf ctx) modbusFcReportSlaveId
    (by decide : identity.length < 256)
  rw [hrsp]
  refine @settles_ok ctx (.reportSlaveId maxDest) mapping mapping _ _ identity.length hsound rfl rfl
    (whole_counted _ (.inr (.inr (.inr (.inr (.inl rfl))))) (by decide)) ?_ ?_
  · refine checkConfirmation_ok (request_unit ctx _) (hfunction.trans hreq.symm) (by rw [hreq]; decide)
      (.inr (responseLength_report hreq)) ?_
    unfold nbValues
    dsimp only
    rw [hfunction, hcount]
    rfl
  · rw [Call.got, show modbusRtuHeaderLength + 2 = 3 from rfl, counted_data]

end Both

theorem le_of_refused {nb max : Int} {e : Errno}
    (h : (if nb > max then some e else none) = none) : nb ≤ max := by
  split at h
  · exact absurd h (Option.some_ne_none e)
  · omega

theorem le_of_refused_both {nb max nb' max' : Int} {e : Errno}
    (h : (if nb > max ∨ nb' > max' then some e else none) = none) : nb ≤ max ∧ nb' ≤ max' := by
  split at h
  · exact absurd h (Option.some_ne_none e)
  · omega

section Lists

variable (ctx : ModbusT) (n : Nat)

theorem request_writeBits (addr : Int) (src : Nat → Byte) :
    (Call.writeBits addr n src).request ctx =
      buildRequestBasis ctx modbusFcWriteMultipleCoils addr (elements n src).length ++
        [.ofNat (bitBytes (elements n src).length)] ++
        (List.range (bitBytes (elements n src).length)).map (packByte (elements n src)) := by
  rw [Call.request, byteCount_natCast, ofInt_natCast, Int.toNat_natCast, length_elements]

theorem request_writeRegisters (addr : Int) (src : Nat → UInt16) :
    (Call.writeRegisters addr n src).request ctx =
      buildRequestBasis ctx modbusFcWriteMultipleRegisters addr (elements n src).length ++
        [.ofNat ((elements n src).length * 2)] ++
        (elements n src).flatMap fun value => wordBytes value.toNat := by
  rw [Call.request, length_elements, ofInt_double]

theorem request_both {n : Nat} (hn : n ≤ modbusMaxWrWriteRegisters) (writeAddr : Int)
    (src : Nat → UInt16) (readAddr readNb : Int) :
    (Call.writeAndReadRegisters writeAddr n src readAddr readNb).request ctx =
      buildRequestBasis ctx modbusFcWriteAndReadRegisters readAddr readNb ++
        wordBytes (onLine writeAddr) ++ wordBytes (elements n src).length ++
        [.ofNat ((elements n src).length * 2)] ++
        (elements n src).flatMap fun value => wordBytes value.toNat := by
  have hmax : n ≤ 121 := hn
  rw [Call.request, length_elements, onLine_of_lt (by omega), ofInt_double]

end Lists

theorem respond_request {ctx : ModbusT} {call : Call} {mapping : ModbusMapping}
    (hcounts : call.Counts) (hrefused : call.refused = none)
    (hwithin : call.Within mapping.registers.start) (hsound : mapping.Sound) :
    ∃ response, respond (frame (call.request ctx)) (frame (call.request ctx)).length mapping =
      some (.ok response) ∧ Settles ctx call mapping response := by
  have hdone : ∀ {x : Option Response}, respond (frame (call.request ctx))
      (frame (call.request ctx)).length mapping = x.map .ok →
      (∃ response, x = some response ∧ Settles ctx call mapping response) →
      ∃ response, respond (frame (call.request ctx)) (frame (call.request ctx)).length mapping =
        some (.ok response) ∧ Settles ctx call mapping response := by
    rintro x hx ⟨response, rfl, hsettles⟩
    exact ⟨response, hx, hsettles⟩
  cases call with
  | readBits addr nb =>
    obtain ⟨n, rfl⟩ := Int.eq_ofNat_of_zero_le hcounts
    exact hdone rfl (replyReadBits_settles (.inl rfl) (Int.ofNat_le.mp (le_of_refused hrefused)) hsound.bits hsound
      rfl rfl rfl)
  | readInputBits addr nb =>
    obtain ⟨n, rfl⟩ := Int.eq_ofNat_of_zero_le hcounts
    exact hdone rfl (replyReadBits_settles (.inr rfl) (Int.ofNat_le.mp (le_of_refused hrefused)) hsound.inputBits
      hsound rfl rfl rfl)
  | readRegisters addr nb =>
    obtain ⟨n, rfl⟩ := Int.eq_ofNat_of_zero_le hcounts
    exact hdone rfl (replyReadRegisters_settles (.inl rfl) (Int.ofNat_le.mp (le_of_refused hrefused)) hsound rfl rfl
      rfl)
  | readInputRegisters addr nb =>
    obtain ⟨n, rfl⟩ := Int.eq_ofNat_of_zero_le hcounts
    exact hdone rfl (replyReadRegisters_settles (.inr rfl) (Int.ofNat_le.mp (le_of_refused hrefused)) hsound rfl rfl
      rfl)
  | writeBit addr status => exact hdone rfl (replyWriteBit_settles addr status hsound)
  | writeRegister addr value => exact hdone rfl (replyWriteRegister_settles addr value hsound)
  | writeBits addr nb src =>
    obtain ⟨n, rfl⟩ := Int.eq_ofNat_of_zero_le hcounts
    have hlength := length_elements n src
    refine hdone rfl (replyWriteBits_settles (by rw [hlength]; exact Int.ofNat_le.mp (le_of_refused hrefused)) hsound
      (request_writeBits ctx n addr src) ?_ fun _ _ => rfl)
    rw [hlength]
    rfl
  | writeRegisters addr nb src =>
    obtain ⟨n, rfl⟩ := Int.eq_ofNat_of_zero_le hcounts
    have hlength := length_elements n src
    refine hdone rfl (replyWriteRegisters_settles (by rw [hlength]; exact Int.ofNat_le.mp (le_of_refused hrefused))
      hsound (request_writeRegisters ctx n addr src) ?_ fun _ _ => rfl)
    rw [hlength]
    rfl
  | maskWriteRegister addr andMask orMask =>
    exact hdone rfl (replyMaskWriteRegister_settles addr andMask orMask hsound)
  | writeAndReadRegisters writeAddr writeNb src readAddr readNb =>
    obtain ⟨n, rfl⟩ := Int.eq_ofNat_of_zero_le hcounts.1
    obtain ⟨m, rfl⟩ := Int.eq_ofNat_of_zero_le hcounts.2
    have hboth := (le_of_refused_both hrefused).imp Int.ofNat_le.mp Int.ofNat_le.mp
    exact hdone rfl (replyWriteAndReadRegisters_settles
      (by rw [length_elements]; exact hboth.1) hboth.2 hwithin hsound
      (request_both ctx hboth.1 writeAddr src readAddr m) rfl fun _ _ => rfl)
  | reportSlaveId maxDest =>
    exact ⟨_, rfl, replyReportSlaveId_settles maxDest hsound⟩

end EspBridges.Modbus
