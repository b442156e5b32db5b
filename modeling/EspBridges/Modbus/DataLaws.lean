import EspBridges.Modbus.ReceiveLaws
import EspBridges.Modbus.Memory

namespace EspBridges.Modbus

open Bytes Icom

section Words

theorem wordBytes_toNat (value : Nat) :
    (UInt8.ofNat (value / 256)).toNat * 256 + (UInt8.ofNat value).toNat = value % 65536 := by
  rw [UInt8.toNat_ofNat', UInt8.toNat_ofNat']
  omega

theorem onLine_lt (x : Int) : onLine x < 65536 := by
  unfold onLine
  omega

theorem onLine_of_lt {n : Nat} (h : n < 65536) : onLine n = n := by
  unfold onLine
  omega

theorem onLine_toNat (x : Int) :
    (UInt8.ofNat (onLine x / 256)).toNat * 256 + (UInt8.ofNat (onLine x)).toNat = onLine x :=
  (wordBytes_toNat _).trans (Nat.mod_eq_of_lt (onLine_lt x))

theorem ofInt_natCast (n : Nat) : UInt8.ofInt n = UInt8.ofNat n := by
  refine UInt8.toNat_inj.mp ?_
  show (UInt8.ofNat ((n : Int) % 2 ^ 8).toNat).toNat = _
  rw [UInt8.toNat_ofNat', UInt8.toNat_ofNat']
  omega

theorem ofInt_double (n : Nat) : UInt8.ofInt (n * 2) = UInt8.ofNat (n * 2) := by
  rw [← ofInt_natCast, Int.natCast_mul]
  rfl

theorem length_elements {α : Type} (n : Nat) (src : Nat → α) : (elements n src).length = n := by
  rw [elements, List.length_map, List.length_range, Int.toNat_natCast]

theorem wordAt_append (xs : List Byte) (value : Nat) (rest : List Byte) :
    wordAt (xs ++ (wordBytes value ++ rest)) xs.length = value % 65536 := by
  have hhigh := @byteAt_append_right xs (wordBytes value ++ rest) 0
  have hlow := @byteAt_append_right xs (wordBytes value ++ rest) 1
  rw [Nat.add_zero] at hhigh
  rw [wordAt, hhigh, hlow]
  exact wordBytes_toNat value

theorem ofNat_word (w : UInt16) : UInt16.ofNat (w.toNat % 65536) = w := by
  rw [Nat.mod_eq_of_lt w.toNat_lt, UInt16.ofNat_toNat]

theorem onLine_word (w : UInt16) : onLine w.toNat = w.toNat := onLine_of_lt w.toNat_lt

theorem length_words (words : List UInt16) :
    (words.flatMap fun w => wordBytes w.toNat).length = words.length * 2 := by
  induction words with
  | nil => rfl
  | cons w words ih =>
    rw [List.flatMap_cons, List.length_append, ih, List.length_cons, wordBytes, List.length_cons,
      List.length_singleton]
    omega

theorem length_wordsFrom (msg : List Byte) (offset nb : Nat) :
    (wordsFrom msg offset nb).length = nb := by
  unfold wordsFrom
  rw [List.length_map, List.length_range]

theorem wordsFrom_flatMap (xs : List Byte) (words : List UInt16) (rest : List Byte) :
    wordsFrom (xs ++ (words.flatMap (fun w => wordBytes w.toNat) ++ rest)) xs.length words.length =
      words := by
  induction words generalizing xs with
  | nil => rfl
  | cons w words ih =>
    have hfirst := wordAt_append xs w.toNat
      (words.flatMap (fun w => wordBytes w.toNat) ++ rest)
    have hrest := ih (xs ++ wordBytes w.toNat)
    have hlength : (xs ++ wordBytes w.toNat).length = xs.length + 2 := List.length_append
    rw [hlength, List.append_assoc, ← List.append_assoc (wordBytes _)] at hrest
    rw [← List.append_assoc (wordBytes _)] at hfirst
    unfold wordsFrom at hrest ⊢
    rw [List.flatMap_cons, List.length_cons, List.range_succ_eq_map, List.map_cons, List.map_map,
      Nat.mul_zero, Nat.add_zero, hfirst, ofNat_word]
    refine congrArg (w :: ·) ((List.map_congr_left fun i _ => ?_).trans hrest)
    show UInt16.ofNat (wordAt _ (xs.length + 2 * (i + 1))) = _
    rw [show xs.length + 2 * (i + 1) = xs.length + 2 + 2 * i by omega]

end Words

section Bits

theorem flags_map (bits : List Bool) : Flags (bits.map flag) := by
  intro bit hbit
  obtain ⟨b, _, rfl⟩ := List.mem_map.mp hbit
  cases b
  · exact .inl rfl
  · exact .inr rfl

theorem flag_isSet {bits : List Byte} (h : Flags bits) : (bits.map isSet).map flag = bits := by
  rw [List.map_map]
  refine (List.map_congr_left fun bit hbit => ?_).trans (List.map_id _)
  rcases h bit hbit with rfl | rfl <;> rfl

theorem isSet_flag (bits : List Bool) : (bits.map flag).map isSet = bits := by
  rw [List.map_map]
  refine (List.map_congr_left fun b _ => ?_).trans (List.map_id _)
  cases b <;> rfl

theorem bitBytes_eq (nb : Nat) : bitBytes nb = (nb + 7) / 8 := by
  unfold bitBytes
  split <;> omega

def lowBits (value n : Nat) : List Byte := (List.range n).map fun k => flag (value.testBit k)

theorem byteCount_natCast (n : Nat) : byteCount n = bitBytes n := by
  unfold byteCount bitBytes
  rw [Int.tdiv_eq_ediv_of_nonneg (by omega), Int.tmod_eq_emod_of_nonneg (by omega)]
  by_cases hwhole : n % 8 = 0
  · rw [if_neg (by omega), if_neg (by omega)]
    omega
  · rw [if_pos (by omega), if_pos hwhole]
    omega

theorem lowBits_eight (b : Byte) : bitsOf b = lowBits b.toNat 8 := rfl

theorem lowBits_succ (value n : Nat) :
    lowBits value (n + 1) = lowBits value n ++ [flag (value.testBit n)] := by
  unfold lowBits
  rw [List.range_succ, List.map_append]
  rfl

theorem lowBits_byte {n : Nat} (value : Nat) (h : n ≤ 8) :
    lowBits (UInt8.ofNat value).toNat n = lowBits value n := by
  refine List.map_congr_left fun k hk => ?_
  have hlt := List.mem_range.mp hk
  rw [UInt8.toNat_ofNat', Nat.testBit_mod_two_pow, decide_eq_true (by omega : k < 8), Bool.true_and]

theorem testBit_one_shiftLeft (n k : Nat) : (1 <<< n).testBit k = decide (k = n) := by
  rw [Nat.testBit_shiftLeft, Bool.eq_iff_iff, Bool.and_eq_true, decide_eq_true_eq,
    decide_eq_true_eq, Nat.testBit_one_eq_true_iff_self_eq_zero]
  omega

theorem push_length (p : Packing) (bit : Byte) (h : p.shift < 8) :
    (p.push bit).shift < 8 ∧
      8 * (p.push bit).out.length + (p.push bit).shift = 8 * p.out.length + p.shift + 1 := by
  unfold Packing.push
  dsimp only
  by_cases hfull : p.shift = 7
  · rw [if_pos hfull]
    refine ⟨Nat.zero_lt_succ 7, ?_⟩
    show 8 * (p.out ++ [_]).length + 0 = _
    rw [List.length_append, List.length_singleton]
    omega
  · rw [if_neg hfull]
    exact ⟨by show p.shift + 1 < 8; omega, rfl⟩

structure Packed (bits : List Byte) (p : Packing) : Prop where
  shift_lt : p.shift < 8
  clear : ∀ k, p.shift ≤ k → p.oneByte.testBit k = false
  decoded : p.out.flatMap bitsOf ++ lowBits p.oneByte p.shift = bits
  length_eq : 8 * p.out.length + p.shift = bits.length

theorem Packed.push {bits : List Byte} {p : Packing} (h : Packed bits p) {bit : Byte}
    (hbit : bit = 0 ∨ bit = 1) : Packed (bits ++ [bit]) (p.push bit) := by
  obtain ⟨hshift, hclear, hdecoded, hlength⟩ := h
  -- the byte with the bit in it
  have hnew : ∀ k, (p.oneByte ||| bit.toNat <<< p.shift).testBit k =
      (p.oneByte.testBit k || (decide (k = p.shift) && isSet bit)) := by
    intro k
    rw [Nat.testBit_or, Nat.testBit_shiftLeft]
    congr 1
    rcases hbit with rfl | rfl
    · rw [show isSet 0 = false from rfl, Bool.and_false, show UInt8.toNat 0 = 0 from rfl,
        Nat.zero_testBit, Bool.and_false]
    · rw [show isSet 1 = true from rfl, Bool.and_true, ← Nat.testBit_shiftLeft]
      exact testBit_one_shiftLeft p.shift k
  have hbits : lowBits (p.oneByte ||| bit.toNat <<< p.shift) (p.shift + 1) =
      lowBits p.oneByte p.shift ++ [bit] := by
    rw [lowBits_succ, hnew, hclear p.shift (Nat.le_refl _), decide_eq_true rfl, Bool.true_and,
      Bool.false_or]
    congr 1
    · refine List.map_congr_left fun k hk => ?_
      have hlt := List.mem_range.mp hk
      rw [hnew, decide_eq_false (by omega : k ≠ p.shift), Bool.false_and, Bool.or_false]
    · rcases hbit with rfl | rfl <;> rfl
  obtain ⟨hshift', hlength'⟩ := push_length p bit hshift
  refine ⟨hshift', ?_, ?_, by rw [hlength', hlength, List.length_append, List.length_singleton]⟩
  all_goals
    unfold Packing.push
    dsimp only
  · by_cases hfull : p.shift = 7
    · rw [if_pos hfull]
      exact fun k _ => Nat.zero_testBit k
    · rw [if_neg hfull]
      intro k (hk : p.shift + 1 ≤ k)
      show (p.oneByte ||| _).testBit k = false
      rw [hnew, hclear k (by omega), decide_eq_false (by omega : k ≠ p.shift)]
      rfl
  · by_cases hfull : p.shift = 7
    · rw [if_pos hfull]
      show (p.out ++ [_]).flatMap bitsOf ++ [] = _
      rw [hfull] at hbits
      rw [List.append_nil, List.flatMap_append, List.flatMap_singleton, lowBits_eight,
        lowBits_byte _ (Nat.le_refl 8), hfull, hbits, ← hdecoded, hfull, List.append_assoc]
    · rw [if_neg hfull]
      show p.out.flatMap bitsOf ++ lowBits _ (p.shift + 1) = _
      rw [hbits, ← hdecoded, List.append_assoc]

theorem packed_foldl {bits : List Byte} {p : Packing} (h : Packed bits p) {more : List Byte}
    (hflags : Flags more) : Packed (bits ++ more) (more.foldl Packing.push p) := by
  induction more generalizing bits p with
  | nil =>
    rw [List.append_nil]
    exact h
  | cons bit more ih =>
    rw [List.foldl_cons, List.append_cons]
    exact ih (h.push (hflags bit (.head _))) fun b hb => hflags b (.tail _ hb)

theorem packed_length (bits : List Byte) :
    (bits.foldl Packing.push ⟨[], 0, 0⟩).finish.length = bitBytes bits.length := by
  have hturns : ∀ p : Packing, p.shift < 8 → (bits.foldl Packing.push p).shift < 8 ∧
      8 * (bits.foldl Packing.push p).out.length + (bits.foldl Packing.push p).shift =
        8 * p.out.length + p.shift + bits.length := by
    induction bits with
    | nil => exact fun p hp => ⟨hp, rfl⟩
    | cons bit bits ih =>
      intro p hp
      obtain ⟨hshift, hlength⟩ := push_length p bit hp
      obtain ⟨hshift', hlength'⟩ := ih (p.push bit) hshift
      rw [List.foldl_cons, List.length_cons]
      exact ⟨hshift', by omega⟩
  obtain ⟨hshift, hlength⟩ := hturns ⟨[], 0, 0⟩ (Nat.zero_lt_succ 7)
  have hall : 8 * (bits.foldl Packing.push ⟨[], 0, 0⟩).out.length +
      (bits.foldl Packing.push ⟨[], 0, 0⟩).shift = bits.length := by
    rw [hlength]
    exact Nat.zero_add _
  rw [bitBytes_eq]
  unfold Packing.finish
  split
  · rw [List.length_append, List.length_singleton]
    omega
  · omega

theorem status_bits {bits : List Byte} (h : Flags bits) :
    let status := (bits.foldl Packing.push ⟨[], 0, 0⟩).finish
    status.length = bitBytes bits.length ∧ (status.flatMap bitsOf).take bits.length = bits := by
  refine ⟨packed_length bits, ?_⟩
  have hstart : Packed [] ⟨[], 0, 0⟩ := ⟨Nat.zero_lt_succ 7, fun k _ => Nat.zero_testBit k, rfl, rfl⟩
  have hpacked := packed_foldl hstart h
  rw [List.nil_append] at hpacked
  generalize bits.foldl Packing.push ⟨[], 0, 0⟩ = p at hpacked
  obtain ⟨hshift, -, hdecoded, hlength⟩ := hpacked
  have hfull : (p.out.flatMap bitsOf).length = 8 * p.out.length := by
    have hwhole := congrArg List.length hdecoded
    rw [List.length_append, lowBits, List.length_map, List.length_range] at hwhole
    omega
  unfold Packing.finish
  by_cases hrest : p.shift = 0
  · rw [if_neg fun h => h hrest]
    rw [hrest] at hdecoded
    rw [← hlength, hrest, Nat.add_zero, ← hfull, List.take_length, ← hdecoded]
    exact (List.append_nil _).symm
  · rw [if_pos hrest]
    have htake : (lowBits p.oneByte 8).take p.shift = lowBits p.oneByte p.shift := by
      unfold lowBits
      rw [← List.map_take, List.take_range, Nat.min_eq_left (Nat.le_of_lt hshift)]
    rw [List.flatMap_append, List.flatMap_singleton, lowBits_eight, lowBits_byte _ (Nat.le_refl 8),
      ← hlength, ← hfull, List.take_length_add_append, htake, hdecoded]

theorem testBit_packByte (src : List Byte) (i : Nat) {k : Nat} (hk : k < 8) :
    (packByte src i).toNat.testBit k =
      (decide (8 * i + k < src.length) && isSet (src.getD (8 * i + k) 0)) := by
  have hturns : ∀ n, n ≤ 8 → ((List.range n).foldl (fun byte bit =>
      if 8 * i + bit < src.length ∧ src.getD (8 * i + bit) 0 ≠ 0 then
        byte ||| .ofNat (1 <<< bit) else byte) (0 : Byte)).toNat.testBit k =
      (decide (k < n) && (decide (8 * i + k < src.length) && isSet (src.getD (8 * i + k) 0))) := by
    intro n hn
    induction n with
    | zero => exact Nat.zero_testBit k
    | succ n ih =>
      rw [List.range_succ, List.foldl_append, List.foldl_cons, List.foldl_nil]
      have hshort := ih (by omega)
      by_cases hk' : k = n
      · subst hk'
        rw [decide_eq_false (Nat.lt_irrefl k), Bool.false_and] at hshort
        rw [decide_eq_true (Nat.lt_succ_self k), Bool.true_and]
        by_cases hset : 8 * i + k < src.length ∧ src.getD (8 * i + k) 0 ≠ 0
        · have hbit : (UInt8.ofNat (1 <<< k)).toNat.testBit k = true := by
            rw [UInt8.toNat_ofNat', Nat.testBit_mod_two_pow, testBit_one_shiftLeft,
              decide_eq_true (by omega), decide_eq_true rfl]
            rfl
          rw [if_pos hset, UInt8.toNat_or, Nat.testBit_or, hshort, hbit, decide_eq_true hset.1]
          exact (decide_eq_true hset.2).symm
        · rw [if_neg hset, hshort]
          by_cases hin : 8 * i + k < src.length
          · rw [decide_eq_true hin, Bool.true_and]
            exact (decide_eq_false fun hne => hset ⟨hin, hne⟩).symm
          · rw [decide_eq_false hin, Bool.false_and]
      · rw [show decide (k < n + 1) = decide (k < n) by
          exact decide_eq_decide.mpr (by omega)]
        split
        · have hbit : (UInt8.ofNat (1 <<< n)).toNat.testBit k = false := by
            rw [UInt8.toNat_ofNat', Nat.testBit_mod_two_pow, testBit_one_shiftLeft,
              decide_eq_false hk', Bool.and_false]
          rw [UInt8.toNat_or, Nat.testBit_or, hshort, hbit, Bool.or_false]
        · exact hshort
  have hall := hturns 8 (Nat.le_refl 8)
  rwa [decide_eq_true hk, Bool.true_and] at hall

theorem written_bits (src : List Byte) {tabByte : Nat → Byte}
    (h : ∀ i, i < bitBytes src.length → tabByte i = packByte src i) :
    ((List.range src.length).map fun i =>
      if (tabByte (i / 8)).toNat.testBit (i % 8) then (1 : Byte) else 0) =
      (src.map isSet).map flag := by
  apply List.ext_getElem?
  intro i
  rw [List.map_map, List.getElem?_map, List.getElem?_map]
  by_cases hi : i < src.length
  · have hbyte : i / 8 < bitBytes src.length := by
      rw [bitBytes_eq]
      omega
    have hplace : 8 * (i / 8) + i % 8 = i := by omega
    rw [List.getElem?_range hi, List.getElem?_eq_getElem hi, Option.map_some, Option.map_some,
      h _ hbyte, testBit_packByte src _ (by omega : i % 8 < 8), hplace, decide_eq_true hi,
      Bool.true_and, List.getD_eq_getElem?_getD, List.getElem?_eq_getElem hi]
    rfl
  · rw [List.getElem?_eq_none (by rw [List.length_range]; omega),
      List.getElem?_eq_none (by omega)]
    rfl

end Bits

end EspBridges.Modbus
