import EspBridges.Modbus.ServeLaws

namespace EspBridges.Modbus

open Bytes Icom Cells

structure Keeps (mapping mapping' : ModbusMapping) : Prop where
  inputBits : mapping'.inputBits = mapping.inputBits
  inputRegisters : mapping'.inputRegisters = mapping.inputRegisters
  startBits : mapping'.bits.start = mapping.bits.start
  startRegisters : mapping'.registers.start = mapping.registers.start
  nbBits : mapping'.bits.tab.length = mapping.bits.tab.length
  nbRegisters : mapping'.registers.tab.length = mapping.registers.tab.length
  flags : Flags mapping.bits.tab → Flags mapping'.bits.tab

theorem Keeps.refl (mapping : ModbusMapping) : Keeps mapping mapping :=
  ⟨rfl, rfl, rfl, rfl, rfl, rfl, id⟩

theorem Keeps.trans {a b c : ModbusMapping} (h : Keeps a b) (h' : Keeps b c) : Keeps a c :=
  ⟨h'.inputBits.trans h.inputBits, h'.inputRegisters.trans h.inputRegisters,
    h'.startBits.trans h.startBits, h'.startRegisters.trans h.startRegisters,
    h'.nbBits.trans h.nbBits, h'.nbRegisters.trans h.nbRegisters, fun hflags => h'.flags (h.flags hflags)⟩

theorem Keeps.sound {mapping mapping' : ModbusMapping} (h : Keeps mapping mapping')
    (hsound : mapping.Sound) : mapping'.Sound :=
  ⟨h.flags hsound.bits, by rw [h.inputBits]; exact hsound.inputBits⟩

theorem keeps_bits {mapping : ModbusMapping} {tab : List Byte}
    (hlength : tab.length = mapping.bits.tab.length)
    (hflags : Flags mapping.bits.tab → Flags tab) : Keeps mapping { mapping with bits.tab := tab } :=
  ⟨rfl, rfl, rfl, rfl, hlength, rfl, hflags⟩

theorem keeps_registers {mapping : ModbusMapping} {tab : List UInt16}
    (hlength : tab.length = mapping.registers.tab.length) :
    Keeps mapping { mapping with registers.tab := tab } :=
  ⟨rfl, rfl, rfl, rfl, rfl, hlength, id⟩

inductive Answer (sft : Sft) (mapping : ModbusMapping) : Response → Prop
  | exception (code : Nat) (toFlush : Bool)
      (hcode : 0 < code ∧ code ≤ modbusExceptionIllegalDataValue) :
    Answer sft mapping (responseException sft code toFlush mapping)
  | data (data : List Byte) (mapping' : ModbusMapping) (hfunction : Counted sft.function)
      (hdata : data.length ≤ 250) (hkeeps : Keeps mapping mapping') :
    Answer sft mapping ⟨buildResponseBasis sft ++ [.ofNat data.length] ++ data, false, mapping'⟩
  | copy (body : List Byte) (mapping' : ModbusMapping) (hunit : byteAt body 0 = sft.slave)
      (hfunction : byteAt body 1 = sft.function)
      (hlength : (sft.function = modbusFcWriteSingleCoil ∨
          sft.function = modbusFcWriteSingleRegister ∨ sft.function = modbusFcWriteMultipleCoils ∨
          sft.function = modbusFcWriteMultipleRegisters) ∧ body.length = 6 ∨
        sft.function = modbusFcMaskWriteRegister ∧ body.length = 8)
      (hkeeps : Keeps mapping mapping') : Answer sft mapping ⟨body, false, mapping'⟩

section Forms

variable {sft : Sft} {mapping : ModbusMapping} {response : Response}

theorem Answer.keeps (h : Answer sft mapping response) : Keeps mapping response.mapping := by
  cases h with
  | exception => exact Keeps.refl mapping
  | data _ _ _ _ hkeeps => exact hkeeps
  | copy _ _ _ _ _ hkeeps => exact hkeeps

theorem Answer.unit (h : Answer sft mapping response) (hslave : sft.slave < 256) :
    byteAt response.rsp 0 = sft.slave := by
  cases h with
  | exception => exact ofNat_toNat_of_lt hslave
  | data => exact ofNat_toNat_of_lt hslave
  | copy _ _ hunit => exact hunit

theorem Answer.length_le (h : Answer sft mapping response) :
    (frame response.rsp).length ≤ modbusRtuMaxAduLength := by
  rw [length_frame]
  show response.rsp.length + 2 ≤ 256
  cases h with
  | exception => exact (by decide : 3 + 2 ≤ 256)
  | data data _ _ hdata =>
    rw [List.length_append]
    show 3 + data.length + 2 ≤ 256
    omega
  | copy body _ _ _ hlength =>
    show body.length + 2 ≤ 256
    omega

/-- Unless the code of the exception wraps around, a master can tell where it ends. -/
theorem Answer.whole (h : Answer sft mapping response) (hfunction : sft.function < 0x80) :
    Whole .confirmation (frame response.rsp) := by
  cases h with
  | exception code => exact whole_refusal (.ofNat sft.slave) hfunction code
  | data data _ hcounted hdata => exact whole_counted (.ofNat sft.slave) hcounted (by omega)
  | copy body _ _ hbody hlength => exact whole_copied hbody hlength

end Forms

section Replies

variable {sft : Sft} {mapping : ModbusMapping} {req : List Byte} {reqLength : Nat}

def Replied (sft : Sft) (mapping : ModbusMapping) (x : Option Response) : Prop :=
  ∃ response, x = some response ∧ Answer sft mapping response

theorem replied_exception {code : Nat} (toFlush : Bool)
    (hcode : 0 < code ∧ code ≤ modbusExceptionIllegalDataValue) :
    Replied sft mapping (some (responseException sft code toFlush mapping)) :=
  ⟨_, rfl, .exception code toFlush hcode⟩

theorem replied_range {α : Type} {table : Table α} {address nb : Nat} {countRight : Bool}
    {serve : Int → Option Response} (hcount : countRight = true → 0 < nb)
    (h : countRight = true → table.bank.Has address nb →
      Replied sft mapping (serve (address - table.start))) :
    Replied sft mapping (replyRange sft mapping table address nb countRight serve) := by
  rw [replyRange_eq _ hcount]
  split
  · split
    · exact h ‹_› ‹_›
    · exact replied_exception _ (by decide)
  · exact replied_exception _ (by decide)

theorem replied_single {α : Type} {table : Table α} {address : Nat} {serve : Int → Option Response}
    (h : table.bank.Has address 1 → Replied sft mapping (serve (address - table.start))) :
    Replied sft mapping (replySingle sft mapping table address serve) := by
  rw [replySingle_eq]
  split
  · exact h ‹_›
  · exact replied_exception _ (by decide)

theorem put_some {α : Type} {xs xs' : List α} {i : Int} {x : α} (h : put xs i x = some xs') :
    xs'.length = xs.length ∧ ∀ P : α → Prop, (∀ y ∈ xs, P y) → P x → ∀ y ∈ xs', P y := by
  have hfill : fill xs i [x] = some xs' := by
    rw [fill, h]
    rfl
  obtain ⟨hlength, hall⟩ := fill_some hfill
  refine ⟨hlength, fun P hxs hx => hall P hxs fun y hy => ?_⟩
  rw [List.mem_singleton.mp hy]
  exact hx

theorem replyReadBits_replied (hfunction : Counted sft.function) (table : Table Byte) :
    Replied sft mapping (replyReadBits sft req mapping table) := by
  unfold replyReadBits
  dsimp only
  refine replied_range (by intro h; exact (of_decide_eq_true h).1) fun hcount hhas => ?_
  have hmax : reqNb req ≤ 2000 := (of_decide_eq_true hcount).2
  have hblock : responseIoStatus table.tab ((reqAddress req : Int) - table.start) (reqNb req) = some
      ((table.bank.read (reqAddress req) (reqNb req)).foldl Packing.push ⟨[], 0, 0⟩).finish := by
    unfold responseIoStatus
    rw [block_eq hhas]
    rfl
  have hlength := packed_length (table.bank.read (reqAddress req) (reqNb req))
  rw [Bank.length_read hhas] at hlength
  have hsize : bitBytes (reqNb req) ≤ 250 := by
    rw [bitBytes_eq]
    omega
  rw [hblock, Option.map_some, ← hlength]
  exact ⟨_, rfl, .data _ mapping hfunction (by omega) (Keeps.refl mapping)⟩

theorem replyReadRegisters_replied (hfunction : Counted sft.function) (table : Table UInt16) :
    Replied sft mapping (replyReadRegisters sft req mapping table) := by
  unfold replyReadRegisters
  dsimp only
  refine replied_range (by intro h; exact (of_decide_eq_true h).1) fun hcount hhas => ?_
  have hmax : reqNb req ≤ 125 := (of_decide_eq_true hcount).2
  have hblock : block table.tab ((reqAddress req : Int) - table.start) (reqNb req) =
      some (table.bank.read (reqAddress req) (reqNb req)) := block_eq hhas
  have hlength := length_words (table.bank.read (reqAddress req) (reqNb req))
  rw [Bank.length_read hhas] at hlength
  rw [hblock, Option.map_some, ← hlength]
  exact ⟨_, rfl, .data _ mapping hfunction (by omega) (Keeps.refl mapping)⟩

section Copies

variable (hunit : byteAt req 0 = sft.slave) (hreq : byteAt req 1 = sft.function)
  (hlength : reqLength ≤ req.length)

include hunit hreq hlength

theorem echo_replied {mapping' : ModbusMapping}
    (h : (sft.function = modbusFcWriteSingleCoil ∨ sft.function = modbusFcWriteSingleRegister) ∧
        reqLength = 8 ∨ sft.function = modbusFcMaskWriteRegister ∧ reqLength = 10)
    (hkeeps : Keeps mapping mapping') :
    Replied sft mapping (some ⟨echo req reqLength, false, mapping'⟩) := by
  have hecho : (echo req reqLength).length = reqLength - 2 := by
    unfold echo
    rw [List.length_take]
    show min (reqLength - 2) req.length = reqLength - 2
    omega
  have hbyte : ∀ i, i < 2 → byteAt (echo req reqLength) i = byteAt req i := by
    intro i hi
    have hat := @byteAt_append_left (echo req reqLength)
      (req.drop (reqLength - modbusRtuChecksumLength)) i (by omega)
    rw [echo, List.take_append_drop] at hat
    exact hat.symm
  refine ⟨_, rfl, .copy _ mapping' ?_ ?_ ?_ hkeeps⟩
  · rw [hbyte 0 (by decide), hunit]
  · rw [hbyte 1 (by decide), hreq]
  · rw [hecho]
    rcases h with ⟨hfc, rfl⟩ | ⟨hfc, rfl⟩
    · exact .inl ⟨hfc.imp_right .inl, rfl⟩
    · exact .inr ⟨hfc, rfl⟩

theorem replyWriteBit_replied (hfunction : sft.function = modbusFcWriteSingleCoil)
    (h : reqLength = 8) : Replied sft mapping (replyWriteBit sft req reqLength mapping) := by
  refine replied_single fun hhas => ?_
  dsimp only
  split
  · obtain ⟨tab, hput, -⟩ := put_table hhas (if reqNb req ≠ 0 then (1 : Byte) else 0)
    obtain ⟨hsame, hall⟩ := put_some hput
    rw [hput]
    refine echo_replied hunit hreq hlength (.inl ⟨.inl hfunction, h⟩)
      (keeps_bits hsame fun hflags => hall _ hflags ?_)
    split
    · exact .inr rfl
    · exact .inl rfl
  · exact replied_exception _ (by decide)

theorem replyWriteRegister_replied (hfunction : sft.function = modbusFcWriteSingleRegister)
    (h : reqLength = 8) : Replied sft mapping (replyWriteRegister sft req reqLength mapping) := by
  refine replied_single fun hhas => ?_
  obtain ⟨tab, hput, -⟩ := put_table hhas (.ofNat (reqNb req) : UInt16)
  dsimp only
  rw [hput]
  exact echo_replied hunit hreq hlength (.inl ⟨.inr hfunction, h⟩) (keeps_registers (put_some hput).1)

theorem replyMaskWriteRegister_replied (hfunction : sft.function = modbusFcMaskWriteRegister)
    (h : reqLength = 10) :
    Replied sft mapping (replyMaskWriteRegister sft req reqLength mapping) := by
  refine replied_single fun hhas => ?_
  have hcell := hhas 0 Nat.one_pos
  rw [Nat.add_zero] at hcell
  obtain ⟨w, hw⟩ := Option.isSome_iff_exists.mp hcell
  have hget : get mapping.registers.tab ((reqAddress req : Int) - mapping.registers.start) = some w :=
    (get_eq_bank _ _ _).trans hw
  obtain ⟨tab, hput, -⟩ := put_table hhas ((w &&& .ofNat (wordAt req (modbusRtuHeaderLength + 3))) |||
    (.ofNat (wordAt req (modbusRtuHeaderLength + 5)) &&&
      ~~~.ofNat (wordAt req (modbusRtuHeaderLength + 3))))
  have hsame := (put_some hput).1
  dsimp only
  rw [hget, Option.bind_some, hput]
  exact echo_replied hunit hreq hlength (.inr ⟨hfunction, h⟩) (keeps_registers hsame)

omit hlength in
theorem start_replied {mapping' : ModbusMapping} (hfunction : sft.function = modbusFcWriteMultipleCoils ∨
      sft.function = modbusFcWriteMultipleRegisters) (hlong : 6 ≤ req.length)
    (hkeeps : Keeps mapping mapping') :
    Replied sft mapping
      (some ⟨buildResponseBasis sft ++ (req.drop 2).take 4, false, mapping'⟩) := by
  have hslave : sft.slave < 256 := by
    rw [← hunit]
    exact UInt8.toNat_lt _
  have hlow : sft.function < 256 := by
    rw [← hreq]
    exact UInt8.toNat_lt _
  refine ⟨_, rfl, .copy _ mapping' (ofNat_toNat_of_lt hslave) (ofNat_toNat_of_lt hlow)
    (.inl ⟨.inr (.inr hfunction), ?_⟩) hkeeps⟩
  rw [List.length_append, List.length_take, List.length_drop]
  show 2 + min 4 (req.length - 2) = 6
  omega

omit hlength in
theorem replyWriteBits_replied (hfunction : sft.function = modbusFcWriteMultipleCoils)
    (hlong : 6 ≤ req.length) : Replied sft mapping (replyWriteBits sft req mapping) := by
  unfold replyWriteBits
  dsimp only
  refine replied_range (by intro h; exact (of_decide_eq_true h).1) fun hcount hhas => ?_
  unfold modbusSetBitsFromBytes
  generalize hvalues : (List.range (reqNb req)).map (fun i => if (req.getD (modbusRtuHeaderLength + 6 +
    i / 8) 0).toNat.testBit (i % 8) then (1 : Byte) else 0) = values
  have hlength : values.length = reqNb req := by
    rw [← hvalues, List.length_map, List.length_range]
  have hbits : Flags values := by
    intro bit hbit
    rw [← hvalues] at hbit
    obtain ⟨i, -, rfl⟩ := List.mem_map.mp hbit
    split
    · exact .inr rfl
    · exact .inl rfl
  obtain ⟨tab, hfill, -⟩ := @fill_table _ mapping.bits (reqAddress req) values
    (by rw [hlength]; exact hhas)
  obtain ⟨hsame, hall⟩ := fill_some hfill
  rw [hfill]
  exact start_replied hunit hreq (.inl hfunction) hlong
    (keeps_bits hsame fun hflags => hall _ hflags hbits)

omit hlength in
theorem replyWriteRegisters_replied (hfunction : sft.function = modbusFcWriteMultipleRegisters)
    (hlong : 6 ≤ req.length) : Replied sft mapping (replyWriteRegisters sft req mapping) := by
  unfold replyWriteRegisters
  dsimp only
  refine replied_range (by intro h; exact (of_decide_eq_true h).1) fun hcount hhas => ?_
  obtain ⟨tab, hfill, -⟩ := @fill_table _ mapping.registers (reqAddress req)
    (wordsFrom req (modbusRtuHeaderLength + 6) (reqNb req)) (by rw [length_wordsFrom]; exact hhas)
  rw [hfill]
  exact start_replied hunit hreq (.inr hfunction) hlong (keeps_registers (fill_some hfill).1)

end Copies

theorem replyReportSlaveId_replied (hfunction : Counted sft.function) :
    Replied sft mapping (some (replyReportSlaveId sft mapping)) :=
  ⟨_, rfl, .data identity mapping hfunction (by decide) (Keeps.refl mapping)⟩

structure ReadsAndWrites (req : List Byte) (mapping : ModbusMapping) : Prop where
  read : 1 ≤ reqNb req ∧ reqNb req ≤ modbusMaxWrReadRegisters
  written : 1 ≤ wordAt req 8 ∧ wordAt req 8 ≤ modbusMaxWrWriteRegisters
  count : byteAt req 10 = wordAt req 8 * 2
  readHas : mapping.registers.bank.Has (reqAddress req) (reqNb req)
  writeEnd : wordAt req 6 + wordAt req 8 ≤ mapping.registers.start + mapping.registers.tab.length

/-- A request to write below the first register and to read what is there. -/
def Stray (req : List Byte) (mapping : ModbusMapping) : Prop :=
  ReadsAndWrites req mapping ∧ wordAt req 6 < mapping.registers.start

theorem replyWriteAndReadRegisters_replied (hfunction : Counted sft.function) :
    (Stray req mapping ∧ replyWriteAndReadRegisters sft req mapping = none) ∨
      (¬Stray req mapping ∧ Replied sft mapping (replyWriteAndReadRegisters sft req mapping)) := by
  unfold replyWriteAndReadRegisters
  dsimp only
  rw [show modbusRtuHeaderLength + 5 = 6 from rfl, show modbusRtuHeaderLength + 7 = 8 from rfl,
    show modbusRtuHeaderLength + 9 = 10 from rfl]
  by_cases hwrong : wordAt req 8 < 1 ∨ modbusMaxWrWriteRegisters < wordAt req 8 ∨ reqNb req < 1 ∨
      modbusMaxWrReadRegisters < reqNb req ∨ byteAt req 10 ≠ wordAt req 8 * 2
  · rw [if_pos hwrong]
    refine .inr ⟨?_, replied_exception _ (by decide)⟩
    rintro ⟨⟨hread, hwritten, hcount, _, _⟩, _⟩
    omega
  · rw [if_neg hwrong]
    have hread : 0 < reqNb req := by omega
    have hin : mapping.registers.bank.Has (reqAddress req) (reqNb req) ∧
        wordAt req 6 + wordAt req 8 ≤ mapping.registers.start + mapping.registers.tab.length ↔
        ¬((reqAddress req : Int) - mapping.registers.start < 0 ∨
          (reqAddress req : Int) - mapping.registers.start + reqNb req >
            mapping.registers.tab.length ∨
          (reqAddress req : Int) - mapping.registers.start < 0 ∨
          (wordAt req 6 : Int) - mapping.registers.start + wordAt req 8 >
            mapping.registers.tab.length) := by
      rw [Table.bank, has_bank hread]
      omega
    by_cases houtside : (reqAddress req : Int) - mapping.registers.start < 0 ∨
        (reqAddress req : Int) - mapping.registers.start + reqNb req > mapping.registers.tab.length ∨
        (reqAddress req : Int) - mapping.registers.start < 0 ∨
        (wordAt req 6 : Int) - mapping.registers.start + wordAt req 8 > mapping.registers.tab.length
    · rw [if_pos houtside]
      refine .inr ⟨?_, replied_exception _ (by decide)⟩
      rintro ⟨⟨_, _, _, hhas, hend⟩, _⟩
      exact hin.mp ⟨hhas, hend⟩ houtside
    · rw [if_neg houtside]
      obtain ⟨hhas, hend⟩ := hin.mpr houtside
      by_cases hbelow : wordAt req 6 < mapping.registers.start
      · refine .inl ⟨⟨⟨⟨by omega, by omega⟩, ⟨by omega, by omega⟩, by omega, hhas, hend⟩, hbelow⟩, ?_⟩
        have hfill : fill mapping.registers.tab ((wordAt req 6 : Int) - mapping.registers.start)
            (wordsFrom req (10 + 1) (wordAt req 8)) = none := by
          refine Option.not_isSome_iff_eq_none.mp fun hsome => ?_
          rcases fill_isSome.mp hsome with hnil | hplace
          · have hzero := congrArg List.length hnil
            rw [length_wordsFrom, List.length_nil] at hzero
            omega
          · omega
        rw [hfill]
        rfl
      · refine .inr ⟨fun h => hbelow h.2, ?_⟩
        have hwrite : mapping.registers.bank.Has (wordAt req 6)
            (wordsFrom req (10 + 1) (wordAt req 8)).length := by
          rw [length_wordsFrom, Table.bank, has_bank (by omega)]
          omega
        obtain ⟨tab, hfill, hbank, -⟩ := fill_table hwrite
        have hhas' : (Cells.bank mapping.registers.start tab).Has (reqAddress req) (reqNb req) := by
          rw [hbank]
          exact (Bank.has_write hwrite).mpr hhas
        have hlength := length_words
          ((Cells.bank mapping.registers.start tab).read (reqAddress req) (reqNb req))
        rw [Bank.length_read hhas'] at hlength
        have hmax : reqNb req ≤ 125 := by
          unfold modbusMaxWrReadRegisters at hwrong
          omega
        rw [hfill, Option.bind_some, block_eq hhas', Option.map_some, ← hlength]
        exact ⟨_, rfl, .data _ _ hfunction (by omega) (keeps_registers (fill_some hfill).1)⟩

end Replies

section Messages

variable {msg : List Byte} {mapping : ModbusMapping}

theorem indication_length (hwhole : Whole .indication msg) {function length : Nat}
    (hfunction : byteAt msg 1 = function)
    (hmeta : 2 + computeMetaLengthAfterFunction function .indication + 2 = length)
    (hdata : function ≠ modbusFcWriteMultipleCoils ∧ function ≠ modbusFcWriteMultipleRegisters ∧
      function ≠ modbusFcWriteAndReadRegisters) : msg.length = length := by
  have hnone : computeDataLengthAfterMeta msg .indication = 2 := by
    unfold computeDataLengthAfterMeta
    dsimp only
    rw [show byteAt msg modbusRtuHeaderLength = function from hfunction,
      if_neg fun h => h.elim hdata.1 hdata.2.1, if_neg hdata.2.2]
    rfl
  rw [hwhole.length_eq, messageLength, hnone, hfunction]
  exact hmeta

theorem indication_length_counted (hwhole : Whole .indication msg)
    (hfunction : byteAt msg 1 = modbusFcWriteMultipleCoils ∨
      byteAt msg 1 = modbusFcWriteMultipleRegisters) : msg.length = byteAt msg 6 + 9 := by
  have hmeta : computeMetaLengthAfterFunction (byteAt msg 1) .indication = 5 := by
    rcases hfunction with h | h <;> rw [h] <;> rfl
  have hdata : computeDataLengthAfterMeta msg .indication = byteAt msg 6 + 2 := by
    unfold computeDataLengthAfterMeta
    dsimp only
    rw [show byteAt msg modbusRtuHeaderLength = byteAt msg 1 from rfl, if_pos hfunction]
    rfl
  rw [hwhole.length_eq, messageLength, hmeta, hdata]
  omega

theorem indication_length_both (hwhole : Whole .indication msg)
    (hfunction : byteAt msg 1 = modbusFcWriteAndReadRegisters) :
    msg.length = byteAt msg 10 + 13 := by
  have hdata : computeDataLengthAfterMeta msg .indication = byteAt msg 10 + 2 := by
    unfold computeDataLengthAfterMeta
    dsimp only
    rw [show byteAt msg modbusRtuHeaderLength = byteAt msg 1 from rfl, hfunction]
    rfl
  rw [hwhole.length_eq, messageLength, hfunction, hdata]
  show 2 + 9 + (byteAt msg 10 + 2) = _
  omega

inductive Handled (msg : List Byte) (mapping : ModbusMapping) :
    Option (Except Errno Response) → Prop
  | answered (response : Response)
      (hanswer : Answer ⟨byteAt msg 0, byteAt msg 1⟩ mapping response)
      (hfunction : byteAt msg 1 ≠ modbusFcReadExceptionStatus)
      (hinside : ¬(byteAt msg 1 = modbusFcWriteAndReadRegisters ∧ Stray msg mapping)) :
    Handled msg mapping (some (.ok response))
  | refused (hfunction : byteAt msg 1 = modbusFcReadExceptionStatus) :
    Handled msg mapping (some (.error .enoprotoopt))
  | strayed (hfunction : byteAt msg 1 = modbusFcWriteAndReadRegisters) (hstray : Stray msg mapping) :
    Handled msg mapping none

theorem Replied.handled {x : Option Response} {function : Nat} (hfunction : byteAt msg 1 = function)
    (hstatus : function ≠ modbusFcReadExceptionStatus)
    (hinside : ¬(function = modbusFcWriteAndReadRegisters ∧ Stray msg mapping))
    (h : Replied ⟨byteAt msg 0, byteAt msg 1⟩ mapping x) : Handled msg mapping (x.map .ok) := by
  obtain ⟨response, rfl, hanswer⟩ := h
  rw [← hfunction] at hstatus hinside
  exact .answered response hanswer hstatus hinside

theorem respond_handled (hwhole : Whole .indication msg) :
    Handled msg mapping (respond msg msg.length mapping) := by
  have hmin := hwhole.length_ge
  -- a function that is always answered
  have hplain : ∀ {x : Option Response} {function : Nat}, byteAt msg 1 = function →
      function ≠ modbusFcReadExceptionStatus ∧ function ≠ modbusFcWriteAndReadRegisters →
      Replied ⟨byteAt msg 0, byteAt msg 1⟩ mapping x → Handled msg mapping (x.map .ok) :=
    fun hfunction hother => Replied.handled hfunction hother.1 fun hboth => hother.2 hboth.1
  unfold respond
  dsimp only
  rw [show byteAt msg modbusRtuHeaderLength = byteAt msg 1 from rfl]
  by_cases h : byteAt msg 1 = modbusFcReadCoils
  · rw [if_pos h]
    exact hplain h (by decide) (replyReadBits_replied (.inl h) _)
  rw [if_neg h]
  by_cases h : byteAt msg 1 = modbusFcReadDiscreteInputs
  · rw [if_pos h]
    exact hplain h (by decide) (replyReadBits_replied (.inr (.inl h)) _)
  rw [if_neg h]
  by_cases h : byteAt msg 1 = modbusFcReadHoldingRegisters
  · rw [if_pos h]
    exact hplain h (by decide) (replyReadRegisters_replied (.inr (.inr (.inl h))) _)
  rw [if_neg h]
  by_cases h : byteAt msg 1 = modbusFcReadInputRegisters
  · rw [if_pos h]
    exact hplain h (by decide) (replyReadRegisters_replied (.inr (.inr (.inr (.inl h)))) _)
  rw [if_neg h]
  by_cases h : byteAt msg 1 = modbusFcWriteSingleCoil
  · rw [if_pos h]
    exact hplain h (by decide) (replyWriteBit_replied rfl rfl (Nat.le_refl _) h
        (indication_length hwhole h rfl (by decide)))
  rw [if_neg h]
  by_cases h : byteAt msg 1 = modbusFcWriteSingleRegister
  · rw [if_pos h]
    exact hplain h (by decide) (replyWriteRegister_replied rfl rfl (Nat.le_refl _) h
        (indication_length hwhole h rfl (by decide)))
  rw [if_neg h]
  by_cases h : byteAt msg 1 = modbusFcWriteMultipleCoils
  · rw [if_pos h]
    have hlength := indication_length_counted hwhole (.inl h)
    exact hplain h (by decide) (replyWriteBits_replied rfl rfl h (by omega))
  rw [if_neg h]
  by_cases h : byteAt msg 1 = modbusFcWriteMultipleRegisters
  · rw [if_pos h]
    have hlength := indication_length_counted hwhole (.inr h)
    exact hplain h (by decide) (replyWriteRegisters_replied rfl rfl h (by omega))
  rw [if_neg h]
  by_cases h : byteAt msg 1 = modbusFcReportSlaveId
  · rw [if_pos h]
    exact hplain h (by decide) (replyReportSlaveId_replied (.inr (.inr (.inr (.inr (.inl h))))))
  rw [if_neg h]
  by_cases hstatus : byteAt msg 1 = modbusFcReadExceptionStatus
  · rw [if_pos hstatus]
    exact .refused hstatus
  rw [if_neg hstatus]
  by_cases h : byteAt msg 1 = modbusFcMaskWriteRegister
  · rw [if_pos h]
    exact hplain h (by decide) (replyMaskWriteRegister_replied rfl rfl (Nat.le_refl _) h
      (indication_length hwhole h rfl (by decide)))
  rw [if_neg h]
  by_cases hboth : byteAt msg 1 = modbusFcWriteAndReadRegisters
  · rw [if_pos hboth]
    have hcounted : Counted (Sft.mk (byteAt msg 0) (byteAt msg 1)).function :=
      .inr (.inr (.inr (.inr (.inr hboth))))
    rcases replyWriteAndReadRegisters_replied hcounted with ⟨hstray, hnone⟩ | ⟨hinside, hreplied⟩
    · rw [hnone]
      exact .strayed hboth hstray
    · exact Replied.handled rfl hstatus (fun h => hinside h.2) hreplied
  · rw [if_neg hboth]
    exact Replied.handled rfl hstatus (fun h => hboth h.1) (replied_exception true (by decide))

section Beyond

variable (beyond : List Byte)

theorem wordAt_beyond {i : Nat} (h : i + 1 < msg.length) :
    wordAt (msg ++ beyond) i = wordAt msg i := by
  rw [wordAt, wordAt, byteAt_append_left (by omega), byteAt_append_left h]

theorem wordsFrom_beyond {offset nb : Nat} (h : offset + 2 * nb ≤ msg.length) :
    wordsFrom (msg ++ beyond) offset nb = wordsFrom msg offset nb := by
  refine List.map_congr_left fun i hi => ?_
  have hlt := List.mem_range.mp hi
  rw [wordAt_beyond beyond (by omega)]

theorem replyRange_congr {sft : Sft} {α : Type} {table : Table α} {address nb : Nat}
    {countRight : Bool} {serve serve' : Int → Option Response}
    (h : countRight = true → serve = serve') :
    replyRange sft mapping table address nb countRight serve =
      replyRange sft mapping table address nb countRight serve' := by
  unfold replyRange
  cases countRight with
  | true => rw [h rfl]
  | false => rfl

section Requests

variable {sft : Sft}

theorem reqAddress_beyond (h : 8 ≤ msg.length) : reqAddress (msg ++ beyond) = reqAddress msg :=
  wordAt_beyond beyond (by unfold modbusRtuHeaderLength; omega)

theorem reqNb_beyond (h : 8 ≤ msg.length) : reqNb (msg ++ beyond) = reqNb msg :=
  wordAt_beyond beyond (by unfold modbusRtuHeaderLength; omega)

theorem start_beyond (h : 8 ≤ msg.length) :
    ((msg ++ beyond).drop 2).take 4 = (msg.drop 2).take 4 := by
  rw [List.drop_append_of_le_length (by omega),
    List.take_append_of_le_length (by rw [List.length_drop]; omega)]

theorem echo_beyond : echo (msg ++ beyond) msg.length = echo msg msg.length :=
  List.take_append_of_le_length (Nat.sub_le _ _)

theorem replyReadBits_beyond (h : 8 ≤ msg.length) (table : Table Byte) :
    replyReadBits sft (msg ++ beyond) mapping table = replyReadBits sft msg mapping table := by
  unfold replyReadBits
  rw [reqAddress_beyond beyond h, reqNb_beyond beyond h]

theorem replyReadRegisters_beyond (h : 8 ≤ msg.length) (table : Table UInt16) :
    replyReadRegisters sft (msg ++ beyond) mapping table =
      replyReadRegisters sft msg mapping table := by
  unfold replyReadRegisters
  rw [reqAddress_beyond beyond h, reqNb_beyond beyond h]

theorem replyWriteBit_beyond (h : 8 ≤ msg.length) :
    replyWriteBit sft (msg ++ beyond) msg.length mapping =
      replyWriteBit sft msg msg.length mapping := by
  unfold replyWriteBit
  rw [reqAddress_beyond beyond h, reqNb_beyond beyond h, echo_beyond]

theorem replyWriteRegister_beyond (h : 8 ≤ msg.length) :
    replyWriteRegister sft (msg ++ beyond) msg.length mapping =
      replyWriteRegister sft msg msg.length mapping := by
  unfold replyWriteRegister
  rw [reqAddress_beyond beyond h, reqNb_beyond beyond h, echo_beyond]

theorem replyWriteBits_beyond (hlength : msg.length = byteAt msg 6 + 9) :
    replyWriteBits sft (msg ++ beyond) mapping = replyWriteBits sft msg mapping := by
  have hcount : byteAt (msg ++ beyond) (modbusRtuHeaderLength + 5) = byteAt msg 6 :=
    byteAt_append_left (by unfold modbusRtuHeaderLength; omega)
  unfold replyWriteBits
  rw [reqAddress_beyond beyond (by omega), reqNb_beyond beyond (by omega),
    start_beyond beyond (by omega), hcount]
  refine replyRange_congr fun hright => ?_
  have hroom : reqNb msg ≤ byteAt msg 6 * 8 := (of_decide_eq_true hright).2.2
  funext mappingAddress
  unfold modbusSetBitsFromBytes
  congr 2
  refine List.map_congr_left fun i hi => ?_
  have hlt := List.mem_range.mp hi
  have hbyte : (msg ++ beyond).getD (modbusRtuHeaderLength + 6 + i / 8) 0 =
      msg.getD (modbusRtuHeaderLength + 6 + i / 8) 0 := by
    rw [List.getD_eq_getElem?_getD, List.getElem?_append_left (by
      unfold modbusRtuHeaderLength
      omega), ← List.getD_eq_getElem?_getD]
  exact congrArg (fun b : Byte => if b.toNat.testBit (i % 8) then (1 : Byte) else 0) hbyte

theorem replyWriteRegisters_beyond (hlength : msg.length = byteAt msg 6 + 9) :
    replyWriteRegisters sft (msg ++ beyond) mapping = replyWriteRegisters sft msg mapping := by
  have hcount : byteAt (msg ++ beyond) (modbusRtuHeaderLength + 5) = byteAt msg 6 :=
    byteAt_append_left (by unfold modbusRtuHeaderLength; omega)
  unfold replyWriteRegisters
  rw [reqAddress_beyond beyond (by omega), reqNb_beyond beyond (by omega),
    start_beyond beyond (by omega), hcount]
  refine replyRange_congr fun hright => ?_
  have hroom : byteAt msg 6 = reqNb msg * 2 := (of_decide_eq_true hright).2.2
  rw [wordsFrom_beyond beyond (by unfold modbusRtuHeaderLength; omega)]

theorem replyMaskWriteRegister_beyond (h : 10 ≤ msg.length) :
    replyMaskWriteRegister sft (msg ++ beyond) msg.length mapping =
      replyMaskWriteRegister sft msg msg.length mapping := by
  unfold replyMaskWriteRegister
  rw [reqAddress_beyond beyond (by omega), echo_beyond,
    wordAt_beyond beyond (by unfold modbusRtuHeaderLength; omega),
    wordAt_beyond beyond (by unfold modbusRtuHeaderLength; omega)]

theorem replyWriteAndReadRegisters_beyond (hlength : msg.length = byteAt msg 10 + 13) :
    replyWriteAndReadRegisters sft (msg ++ beyond) mapping =
      replyWriteAndReadRegisters sft msg mapping := by
  have hcount : byteAt (msg ++ beyond) (modbusRtuHeaderLength + 9) = byteAt msg 10 :=
    byteAt_append_left (by unfold modbusRtuHeaderLength; omega)
  have hwrite : wordAt (msg ++ beyond) (modbusRtuHeaderLength + 5) = wordAt msg 6 :=
    wordAt_beyond beyond (by unfold modbusRtuHeaderLength; omega)
  have hnbWrite : wordAt (msg ++ beyond) (modbusRtuHeaderLength + 7) = wordAt msg 8 :=
    wordAt_beyond beyond (by unfold modbusRtuHeaderLength; omega)
  unfold replyWriteAndReadRegisters
  rw [reqAddress_beyond beyond (by omega), reqNb_beyond beyond (by omega), hcount, hwrite, hnbWrite]
  dsimp only
  rw [show modbusRtuHeaderLength + 5 = 6 from rfl, show modbusRtuHeaderLength + 7 = 8 from rfl,
    show modbusRtuHeaderLength + 9 = 10 from rfl]
  by_cases hwrong : wordAt msg 8 < 1 ∨ modbusMaxWrWriteRegisters < wordAt msg 8 ∨
      reqNb msg < 1 ∨ modbusMaxWrReadRegisters < reqNb msg ∨ byteAt msg 10 ≠ wordAt msg 8 * 2
  · rw [if_pos hwrong, if_pos hwrong]
  · rw [if_neg hwrong, if_neg hwrong, wordsFrom_beyond beyond (by omega)]

end Requests

/-- What lies in the buffer behind the message plays no part. -/
theorem respond_beyond (hwhole : Whole .indication msg) :
    respond (msg ++ beyond) msg.length mapping = respond msg msg.length mapping := by
  have hmin := hwhole.length_ge
  have hslave : byteAt (msg ++ beyond) 0 = byteAt msg 0 := byteAt_append_left (by omega)
  have hfunction : byteAt (msg ++ beyond) modbusRtuHeaderLength = byteAt msg 1 :=
    byteAt_append_left (by unfold modbusRtuHeaderLength; omega)
  -- the functions that say no count are all eight bytes long, but for the masks
  have hfixed : ∀ {function length : Nat}, byteAt msg 1 = function →
      2 + computeMetaLengthAfterFunction function .indication + 2 = length →
      (function ≠ modbusFcWriteMultipleCoils ∧ function ≠ modbusFcWriteMultipleRegisters ∧
        function ≠ modbusFcWriteAndReadRegisters) → length ≤ msg.length :=
    fun hfc hlength hother => Nat.le_of_eq (indication_length hwhole hfc hlength hother).symm
  unfold respond
  dsimp only
  rw [hslave, hfunction, show byteAt msg modbusRtuHeaderLength = byteAt msg 1 from rfl]
  by_cases h : byteAt msg 1 = modbusFcReadCoils
  · rw [if_pos h, if_pos h, replyReadBits_beyond beyond (hfixed h rfl (by decide))]
  rw [if_neg h, if_neg h]
  by_cases h : byteAt msg 1 = modbusFcReadDiscreteInputs
  · rw [if_pos h, if_pos h, replyReadBits_beyond beyond (hfixed h rfl (by decide))]
  rw [if_neg h, if_neg h]
  by_cases h : byteAt msg 1 = modbusFcReadHoldingRegisters
  · rw [if_pos h, if_pos h, replyReadRegisters_beyond beyond (hfixed h rfl (by decide))]
  rw [if_neg h, if_neg h]
  by_cases h : byteAt msg 1 = modbusFcReadInputRegisters
  · rw [if_pos h, if_pos h, replyReadRegisters_beyond beyond (hfixed h rfl (by decide))]
  rw [if_neg h, if_neg h]
  by_cases h : byteAt msg 1 = modbusFcWriteSingleCoil
  · rw [if_pos h, if_pos h, replyWriteBit_beyond beyond (hfixed h rfl (by decide))]
  rw [if_neg h, if_neg h]
  by_cases h : byteAt msg 1 = modbusFcWriteSingleRegister
  · rw [if_pos h, if_pos h, replyWriteRegister_beyond beyond (hfixed h rfl (by decide))]
  rw [if_neg h, if_neg h]
  by_cases h : byteAt msg 1 = modbusFcWriteMultipleCoils
  · rw [if_pos h, if_pos h, replyWriteBits_beyond beyond (indication_length_counted hwhole (.inl h))]
  rw [if_neg h, if_neg h]
  by_cases h : byteAt msg 1 = modbusFcWriteMultipleRegisters
  · rw [if_pos h, if_pos h,
      replyWriteRegisters_beyond beyond (indication_length_counted hwhole (.inr h))]
  rw [if_neg h, if_neg h]
  by_cases h : byteAt msg 1 = modbusFcReportSlaveId
  · rw [if_pos h, if_pos h]
  rw [if_neg h, if_neg h]
  by_cases h : byteAt msg 1 = modbusFcReadExceptionStatus
  · rw [if_pos h, if_pos h]
  rw [if_neg h, if_neg h]
  by_cases h : byteAt msg 1 = modbusFcMaskWriteRegister
  · rw [if_pos h, if_pos h, replyMaskWriteRegister_beyond beyond (hfixed h rfl (by decide))]
  rw [if_neg h, if_neg h]
  by_cases h : byteAt msg 1 = modbusFcWriteAndReadRegisters
  · rw [if_pos h, if_pos h,
      replyWriteAndReadRegisters_beyond beyond (indication_length_both hwhole h)]
  · rw [if_neg h, if_neg h]

theorem readRequest_beyond :
    respond (frame [17, 3, 0, 0, 0, 1] ++ [17, 6, 0]) (frame [17, 3, 0, 0, 0, 1]).length
        ⟨⟨0, []⟩, ⟨0, []⟩, ⟨0, [42]⟩, ⟨0, []⟩⟩ =
      respond (frame [17, 3, 0, 0, 0, 1]) (frame [17, 3, 0, 0, 0, 1]).length
        ⟨⟨0, []⟩, ⟨0, []⟩, ⟨0, [42]⟩, ⟨0, []⟩⟩ :=
  respond_beyond [17, 6, 0] ⟨rfl, by rw [length_frame]; decide⟩

end Beyond

end Messages

end EspBridges.Modbus
