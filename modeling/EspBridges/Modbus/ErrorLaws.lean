import EspBridges.Modbus.ReceiveLaws

namespace EspBridges.Modbus

open Bytes Icom

def lineBits (msg : List Byte) : List Bool := Crc.messageBits (msg.map UInt8.toBitVec)

def corrupt (msg err : List Byte) : List Byte := List.zipWith (· ^^^ ·) msg err

theorem word_two (a b : BitVec 8) : Crc.word (Crc.octetBits a ++ Crc.octetBits b) = b ++ a := by
  have hlength : ∀ c : BitVec 8, (Crc.octetBits c).length = 8 := fun c => rfl
  have hbit : ∀ (c : BitVec 8) (i : Nat), (Crc.octetBits c).getD i false = c.getLsbD i := by
    intro c i
    by_cases hi : i < 8
    · rw [Crc.octetBits, List.getD_eq_getElem?_getD, List.getElem?_map, List.getElem?_range hi]
      rfl
    · rw [List.getD_eq_getElem?_getD, List.getElem?_eq_none (by rw [hlength]; omega),
        BitVec.getLsbD_of_ge _ _ (by omega)]
      rfl
  apply BitVec.eq_of_getLsbD_eq
  intro i hi
  rw [Crc.getLsbD_word, decide_eq_true hi, Bool.true_and, BitVec.getLsbD_append]
  by_cases hlow : i < 8
  · rw [if_pos hlow, List.getD_eq_getElem?_getD, List.getElem?_append_left hlow,
      ← List.getD_eq_getElem?_getD, hbit]
  · rw [if_neg hlow, List.getD_eq_getElem?_getD, List.getElem?_append_right (by rw [hlength]; omega),
      hlength, ← List.getD_eq_getElem?_getD, hbit]

theorem frame_iff_remainder {msg : List Byte} (h : 2 ≤ msg.length) :
    (∃ body, msg = frame body) ↔
      Crc.remainder modbusPoly 0xFFFF (msg.map UInt8.toBitVec) = 0#16 := by
  obtain ⟨body, a, b, rfl⟩ := exists_body h
  have hparts : Crc.remainder modbusPoly 0xFFFF ((body ++ [a, b]).map UInt8.toBitVec) =
      Crc.feeds modbusPoly (modbusCrc body)
        (Crc.octetBits a.toBitVec ++ Crc.octetBits b.toBitVec) := by
    rw [List.map_append, Crc.remainder, List.foldl_append, Crc.feeds_append,
      ← Crc.step_eq_feeds _ _ (by decide), ← Crc.step_eq_feeds _ _ (by decide)]
    rfl
  have hzero : Crc.feeds modbusPoly (modbusCrc body)
      (Crc.octetBits a.toBitVec ++ Crc.octetBits b.toBitVec) = 0#16 ↔
      Crc.word (Crc.octetBits a.toBitVec ++ Crc.octetBits b.toBitVec) = modbusCrc body :=
    Crc.feeds_eq_zero (by decide) rfl
  rw [hparts, hzero, word_two, modbusCrc_eq, remainderOf]
  constructor
  · rintro ⟨body', hframe⟩
    obtain ⟨check, hcheck, hsplit⟩ := frame_split body'
    have hbody : body = body' := by
      rw [hsplit] at hframe
      exact List.append_inj_left' hframe (by rw [hcheck]; rfl)
    subst hbody
    rw [← sendMsgPre_eq, sendMsgPre, crc16_hi, crc16_lo] at hframe
    obtain ⟨hfirst, hrest⟩ := List.cons.inj (List.append_cancel_left hframe)
    obtain ⟨hsecond, _⟩ := List.cons.inj hrest
    rw [hfirst, hsecond]
  · intro happend
    have hfirst : a = (crcBytes body).1 := by
      have hlow := congrArg (BitVec.setWidth 8) happend
      rw [BitVec.setWidth_append_eq_right, BitVec.setWidth_append_eq_right] at hlow
      exact UInt8.toBitVec_inj.mp hlow
    have hsecond : b = (crcBytes body).2 := by
      have hhigh := congrArg (fun c : BitVec 16 => (c >>> 8).setWidth 8) happend
      rw [append_ushiftRight, append_ushiftRight, BitVec.setWidth_append_eq_right,
        BitVec.setWidth_append_eq_right] at hhigh
      exact UInt8.toBitVec_inj.mp hhigh
    exact ⟨body, by rw [← sendMsgPre_eq, sendMsgPre, crc16_hi, crc16_lo, hfirst, hsecond]⟩

theorem map_corrupt (msg err : List Byte) : (corrupt msg err).map UInt8.toBitVec =
    List.zipWith (· ^^^ ·) (msg.map UInt8.toBitVec) (err.map UInt8.toBitVec) := by
  unfold corrupt
  rw [List.map_zipWith, List.zipWith_map]
  rfl

/-- Whether what an error makes of a frame is a frame depends on the error alone. -/
theorem corrupt_frame_iff {body err : List Byte} (h : err.length = (frame body).length) :
    (∃ body', corrupt (frame body) err = frame body') ↔
      Crc.feeds modbusPoly 0#16 (lineBits err) = 0#16 := by
  have hlength : 2 ≤ (frame body).length := by
    obtain ⟨check, hcheck, hsplit⟩ := frame_split body
    rw [hsplit, List.length_append]
    omega
  have hclean : Crc.remainder modbusPoly 0xFFFF ((frame body).map UInt8.toBitVec) = 0#16 :=
    (frame_iff_remainder hlength).mp ⟨body, rfl⟩
  have hsum : Crc.remainder modbusPoly (0xFFFF ^^^ 0#16) ((corrupt (frame body) err).map
      UInt8.toBitVec) = Crc.feeds modbusPoly 0#16 (lineBits err) := by
    rw [map_corrupt, Crc.remainder_xor _ _ _ (by rw [List.length_map, List.length_map, h]), hclean,
      BitVec.zero_xor, Crc.remainder_eq_feeds _ _ (by decide)]
    rfl
  rw [frame_iff_remainder (by unfold corrupt; rw [List.length_zipWith]; omega), ← hsum,
    BitVec.xor_zero]

/-- Errors within sixteen bits, of an odd number of bits, and of two bits. -/
def Found (err : List Byte) : Prop :=
  Crc.Burst 16 (lineBits err) ∨ Crc.oddBits (lineBits err) = true ∨ Crc.Pair (lineBits err)

theorem length_lineBits (msg : List Byte) : (lineBits msg).length = msg.length * 8 := by
  induction msg with
  | nil => rfl
  | cons b msg ih =>
    have hcons : lineBits (b :: msg) = Crc.octetBits b.toBitVec ++ lineBits msg := rfl
    have hoctet : (Crc.octetBits b.toBitVec).length = 8 := rfl
    rw [hcons, List.length_append, hoctet, ih, List.length_cons]
    omega

/-- No remainder of a single error comes twice within the longest frame. -/
theorem modbusPoly_avoids :
    Crc.avoids modbusPoly (Crc.unit true) (Crc.unit true) (modbusRtuMaxAduLength * 8 - 1) = true := by
  decide +kernel

theorem found_ne_zero {err : List Byte} (h : Found err)
    (hlength : err.length ≤ modbusRtuMaxAduLength) :
    Crc.feeds modbusPoly 0#16 (lineBits err) ≠ 0#16 := by
  rcases h with hburst | hodd | hpair
  · exact Crc.burst_ne_zero (by decide) hburst
  · exact Crc.odd_ne_zero (by decide) hodd
  · refine Crc.pair_ne_zero (by decide) modbusPoly_avoids hpair ?_
    rw [length_lineBits]
    exact Nat.mul_le_mul_right 8 hlength

/-- A frame with such an error in it is never taken for a message, wherever it ends up. -/
theorem receiveMsg_corrupt {body err : List Byte} (hlength : err.length = (frame body).length)
    (hfound : Found err) (type : MsgType) (ctx : ModbusT) (line line' : Line) {n : Nat}
    (hn : 0 < n) : receiveMsg type ctx line ≠ (.ok n, corrupt (frame body) err, line') := by
  intro h
  obtain ⟨hwhole, _, _, hcheck⟩ := receiveMsg_ok h
  obtain ⟨_, _, hframe⟩ := checkIntegrity_pos (Nat.le_trans (by decide) hwhole.length_ge) hn hcheck
  have hshort : err.length ≤ modbusRtuMaxAduLength := by
    have hle := hwhole.length_le
    unfold corrupt at hle
    rwa [List.length_zipWith, hlength, Nat.min_self, ← hlength] at hle
  exact found_ne_zero hfound hshort ((corrupt_frame_iff hlength).mp hframe)

/-- The burst runs over the address of a request to write a coil. -/
theorem burst_found :
    receiveMsg .indication ⟨17, 3⟩ ⟨[], corrupt (frame [0x11, 0x05, 0x00, 0xAC, 0xFF, 0x00])
        [0x00, 0x00, 0x1F, 0xE0, 0x00, 0x00, 0x00, 0x00]⟩ ≠
      (.ok 8, corrupt (frame [0x11, 0x05, 0x00, 0xAC, 0xFF, 0x00])
        [0x00, 0x00, 0x1F, 0xE0, 0x00, 0x00, 0x00, 0x00], ⟨[], []⟩) := by
  have hlength : ([0x00, 0x00, 0x1F, 0xE0, 0x00, 0x00, 0x00, 0x00] : List Byte).length =
      (frame [0x11, 0x05, 0x00, 0xAC, 0xFF, 0x00]).length := Eq.symm List.length_append
  have hburst : Found [0x00, 0x00, 0x1F, 0xE0, 0x00, 0x00, 0x00, 0x00] :=
    .inl ⟨16, [true, true, true, true, true, false, false, false, false, false, false, false, false,
      true, true, true], 32, by decide +kernel, by decide, by decide⟩
  exact receiveMsg_corrupt hlength hburst .indication ⟨17, 3⟩ _ _ (by decide)

end EspBridges.Modbus
