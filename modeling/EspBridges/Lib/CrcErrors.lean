import EspBridges.Lib.Crc

namespace EspBridges.Crc

variable {w : Nat}

def unit (bit : Bool) : BitVec w := (BitVec.ofBool bit).setWidth w

def feed (poly c : BitVec w) (bit : Bool) : BitVec w := shift poly (c ^^^ unit bit)

def feeds (poly c : BitVec w) (bits : List Bool) : BitVec w := bits.foldl (feed poly) c

def octetBits (octet : BitVec 8) : List Bool := (List.range 8).map octet.getLsbD

def messageBits (octets : List (BitVec 8)) : List Bool := octets.flatMap octetBits

/-- Whose set bits, of which there are some, lie within `w` places. -/
def Burst (w : Nat) (bits : List Bool) : Prop := ∃ before burst after,
  bits = List.replicate before false ++ burst ++ List.replicate after false ∧
    burst.length ≤ w ∧ true ∈ burst

def word : List Bool → BitVec w
  | [] => 0
  | bit :: bits => unit bit ^^^ word bits <<< 1

theorem getLsbD_unit (bit : Bool) (i : Nat) :
    (unit bit : BitVec w).getLsbD i = (decide (i < w) && decide (i = 0) && bit) := by
  rw [unit, BitVec.getLsbD_setWidth, BitVec.getLsbD_ofBool, Bool.and_assoc]

theorem getLsbD_word (bits : List Bool) (i : Nat) :
    (word bits : BitVec w).getLsbD i = (decide (i < w) && bits.getD i false) := by
  induction bits generalizing i with
  | nil =>
    rw [word, List.getD_nil, Bool.and_false]
    exact BitVec.getLsbD_zero
  | cons bit bits ih =>
    rw [word, BitVec.getLsbD_xor, getLsbD_unit, BitVec.getLsbD_shiftLeft]
    cases i with
    | zero => simp
    | succ i =>
      rw [Nat.add_sub_cancel, ih]
      have hlt : decide (i + 1 < w) = true → decide (i < w) = true := by
        intro h
        exact decide_eq_true (Nat.lt_of_succ_lt (of_decide_eq_true h))
      cases hw : decide (i + 1 < w)
      · simp
      · simp [hlt hw]

theorem shift_shiftLeft (poly : BitVec w) {c : BitVec w} (h : c.getLsbD (w - 1) = false) :
    shift poly (c <<< 1) = c := by
  have hout : (c <<< 1).getLsbD 0 = false := by simp
  rw [shift, hout, feedback, if_neg Bool.false_ne_true]
  apply BitVec.eq_of_getLsbD_eq
  intro i hi
  rw [BitVec.getLsbD_xor, BitVec.getLsbD_ushiftRight, BitVec.getLsbD_shiftLeft]
  have hzero : (0 : BitVec w).getLsbD i = false := BitVec.getLsbD_zero
  rw [hzero, Bool.xor_false, Nat.add_sub_cancel_left, decide_eq_false (by omega : ¬1 + i < 1)]
  by_cases hlast : 1 + i < w
  · rw [decide_eq_true hlast]
    rfl
  · have hi : i = w - 1 := by omega
    rw [hi, h, Bool.and_false]

theorem feeds_eq (poly c : BitVec w) {bits : List Bool} (h : bits.length ≤ w) :
    feeds poly c bits = shifts poly bits.length (c ^^^ word bits) := by
  induction bits generalizing c with
  | nil => exact (BitVec.xor_zero).symm
  | cons bit bits ih =>
    rw [List.length_cons] at h
    have htop : (word bits : BitVec w).getLsbD (w - 1) = false := by
      rw [getLsbD_word, List.getD_eq_getElem?_getD, List.getElem?_eq_none (by omega),
        Option.getD_none, Bool.and_false]
    have hshift : shift poly (c ^^^ word (bit :: bits)) = feed poly c bit ^^^ word bits := by
      rw [word, ← BitVec.xor_assoc, shift_xor, shift_shiftLeft poly htop, feed]
    show feeds poly (feed poly c bit) bits = shifts poly bits.length (shift poly _)
    rw [ih _ (by omega), hshift]

theorem feeds_append (poly c : BitVec w) (xs ys : List Bool) :
    feeds poly c (xs ++ ys) = feeds poly (feeds poly c xs) ys := List.foldl_append

theorem word_octetBits (octet : BitVec 8) : word (octetBits octet) = octet.setWidth w := by
  apply BitVec.eq_of_getLsbD_eq
  intro i hi
  rw [getLsbD_word, decide_eq_true hi, Bool.true_and, BitVec.getLsbD_setWidth, decide_eq_true hi,
    Bool.true_and, octetBits, List.getD_eq_getElem?_getD, List.getElem?_map]
  by_cases hlow : i < 8
  · rw [List.getElem?_range hlow]
    rfl
  · rw [List.getElem?_eq_none (by rw [List.length_range]; omega), BitVec.getLsbD_of_ge _ _ (by omega)]
    rfl

theorem step_eq_feeds (poly c : BitVec w) (hw : 8 ≤ w) (octet : BitVec 8) :
    step poly c octet = feeds poly c (octetBits octet) := by
  rw [feeds_eq poly c (by exact hw), word_octetBits]
  rfl

theorem remainder_eq_feeds (poly c : BitVec w) (hw : 8 ≤ w) (octets : List (BitVec 8)) :
    remainder poly c octets = feeds poly c (messageBits octets) := by
  induction octets generalizing c with
  | nil => rfl
  | cons octet octets ih =>
    show remainder poly (step poly c octet) octets = feeds poly c (octetBits octet ++ _)
    rw [feeds_append, ih, step_eq_feeds poly c hw]
    rfl

theorem step_xor (poly a b : BitVec w) (x y : BitVec 8) :
    step poly (a ^^^ b) (x ^^^ y) = step poly a x ^^^ step poly b y := by
  rw [step, step, step, ← shifts_xor, BitVec.setWidth_xor]
  congr 1
  ac_rfl

theorem remainder_xor (poly a b : BitVec w) {xs ys : List (BitVec 8)} (h : xs.length = ys.length) :
    remainder poly (a ^^^ b) (List.zipWith (· ^^^ ·) xs ys) =
      remainder poly a xs ^^^ remainder poly b ys := by
  induction xs generalizing a b ys with
  | nil =>
    cases ys with
    | nil => rfl
    | cons y ys => exact absurd h.symm (Nat.succ_ne_zero _)
  | cons x xs ih =>
    cases ys with
    | nil => exact absurd h (Nat.succ_ne_zero _)
    | cons y ys =>
      show remainder poly (step poly (a ^^^ b) (x ^^^ y)) _ = _
      rw [step_xor, ih _ _ (Nat.succ.inj h)]
      rfl

section Burst

variable {poly : BitVec w}

theorem shift_eq_zero (hpoly : poly.getLsbD (w - 1) = true) {c : BitVec w} (h : shift poly c = 0#w) :
    c = 0#w := by
  have hw : 0 < w := Nat.lt_of_le_of_lt (Nat.zero_le _) (BitVec.lt_of_getLsbD hpoly)
  have hbit : ∀ i, (shift poly c).getLsbD i = false := by
    intro i
    rw [h]
    exact BitVec.getLsbD_zero
  have hlow : c.getLsbD 0 = false := by
    have htop := hbit (w - 1)
    rw [shift, BitVec.getLsbD_xor, BitVec.getLsbD_ushiftRight, BitVec.getLsbD_of_ge c _ (by omega),
      Bool.false_xor] at htop
    cases hc : c.getLsbD 0
    · rfl
    · rw [hc, feedback, if_pos rfl, hpoly] at htop
      exact Bool.noConfusion htop
  apply BitVec.eq_of_getLsbD_eq
  intro i hi
  cases i with
  | zero => exact hlow.trans BitVec.getLsbD_zero.symm
  | succ i =>
    have hnext := hbit i
    rw [shift, hlow, BitVec.getLsbD_xor, BitVec.getLsbD_ushiftRight, Nat.add_comm] at hnext
    have hzero : (feedback poly false).getLsbD i = false := BitVec.getLsbD_zero
    rw [hzero, Bool.xor_false] at hnext
    exact hnext.trans BitVec.getLsbD_zero.symm

theorem shifts_eq_zero (hpoly : poly.getLsbD (w - 1) = true) {n : Nat} {c : BitVec w}
    (h : shifts poly n c = 0#w) : c = 0#w := by
  induction n generalizing c with
  | zero => exact h
  | succ n ih => exact shift_eq_zero hpoly (ih h)

theorem shifts_zero (n : Nat) : shifts poly n 0#w = 0#w := by
  rw [shifts_of_clear poly fun i _ => BitVec.getLsbD_zero]
  exact BitVec.zero_ushiftRight

theorem feeds_eq_zero (hpoly : poly.getLsbD (w - 1) = true) {c : BitVec w} {bits : List Bool}
    (h : bits.length = w) : feeds poly c bits = 0#w ↔ word bits = c := by
  rw [feeds_eq poly c (Nat.le_of_eq h)]
  constructor
  · intro hzero
    exact (BitVec.xor_eq_zero_iff.mp (shifts_eq_zero hpoly hzero)).symm
  · intro heq
    rw [heq, BitVec.xor_self]
    exact shifts_zero _

theorem feeds_clear (c : BitVec w) (n : Nat) :
    feeds poly c (List.replicate n false) = shifts poly n c := by
  induction n generalizing c with
  | zero => rfl
  | succ n ih =>
    have hfeed : feed poly c false = shift poly c := by
      have hunit : (unit false : BitVec w) = 0#w := by
        apply BitVec.eq_of_getLsbD_eq
        intro i _
        rw [getLsbD_unit, Bool.and_false]
        exact BitVec.getLsbD_zero.symm
      rw [feed, hunit]
      exact congrArg _ BitVec.xor_zero
    show feeds poly (feed poly c false) _ = shifts poly n (shift poly c)
    rw [ih, hfeed]

theorem word_ne_zero {bits : List Bool} (h : bits.length ≤ w) (hset : true ∈ bits) :
    (word bits : BitVec w) ≠ 0#w := by
  obtain ⟨i, hi, hbit⟩ := List.getElem_of_mem hset
  intro hzero
  have hclear : (word bits : BitVec w).getLsbD i = false := by
    rw [hzero]
    exact BitVec.getLsbD_zero
  rw [getLsbD_word, decide_eq_true (by omega : i < w), Bool.true_and,
    List.getD_eq_getElem?_getD, List.getElem?_eq_getElem hi, hbit] at hclear
  exact Bool.noConfusion hclear

/-- Errors that lie no further apart than the remainder is wide. -/
theorem burst_ne_zero (hpoly : poly.getLsbD (w - 1) = true) {bits : List Bool} (h : Burst w bits) :
    feeds poly 0#w bits ≠ 0#w := by
  obtain ⟨before, burst, after, rfl, hburst, hset⟩ := h
  intro hzero
  rw [feeds_append, feeds_append, feeds_clear, feeds_clear, shifts_zero,
    feeds_eq poly 0#w hburst, BitVec.zero_xor] at hzero
  exact word_ne_zero hburst hset (shifts_eq_zero hpoly (shifts_eq_zero hpoly hzero))

end Burst

section Pair

def Pair (bits : List Bool) : Prop := ∃ before gap after,
  bits = List.replicate before false ++ true :: List.replicate gap false ++
    true :: List.replicate after false

/-- The next `n` shifts of `c` do not come to `target`. -/
def avoids (poly target c : BitVec w) : Nat → Bool
  | 0 => true
  | n + 1 => shift poly c != target && avoids poly target (shift poly c) n

variable {poly : BitVec w}

theorem avoids_shifts {target c : BitVec w} {n k : Nat} (h : avoids poly target c n = true)
    (hk : k < n) : shifts poly (k + 1) c ≠ target := by
  induction n generalizing c k with
  | zero => exact absurd hk (Nat.not_lt_zero k)
  | succ n ih =>
    obtain ⟨hnext, hrest⟩ := Bool.and_eq_true_iff.mp h
    cases k with
    | zero => exact bne_iff_ne.mp hnext
    | succ k =>
      show shifts poly (k + 1) (shift poly c) ≠ target
      exact ih hrest (Nat.succ_lt_succ_iff.mp hk)

theorem pair_length {before gap after : Nat} : (List.replicate before false ++
    true :: List.replicate gap false ++ true :: List.replicate after false).length =
      before + gap + after + 2 := by
  rw [List.length_append, List.length_append, List.length_cons, List.length_cons,
    List.length_replicate, List.length_replicate, List.length_replicate]
  omega

/-- Two errors, nearer to each other than the remainders of a single one repeat. -/
theorem pair_ne_zero (hpoly : poly.getLsbD (w - 1) = true) {n : Nat}
    (havoids : avoids poly (unit true) (unit true) n = true) {bits : List Bool} (h : Pair bits)
    (hlength : bits.length ≤ n + 1) : feeds poly 0#w bits ≠ 0#w := by
  obtain ⟨before, gap, after, rfl⟩ := h
  rw [pair_length] at hlength
  intro hzero
  have hfirst : feed poly 0#w true = shifts poly 1 (unit true) := by
    rw [feed, BitVec.zero_xor]
    rfl
  have hrest : feeds poly 0#w (List.replicate before false ++ true :: List.replicate gap false ++
      true :: List.replicate after false) =
        shifts poly after (feed poly (shifts poly (gap + 1) (unit true)) true) := by
    rw [feeds_append, feeds_append, feeds_clear, shifts_zero]
    show feeds poly (feed poly (feeds poly (feed poly 0#w true) _) true) _ = _
    rw [feeds_clear, feeds_clear, hfirst]
    rfl
  rw [hrest] at hzero
  have hmeet := BitVec.xor_eq_zero_iff.mp (shift_eq_zero hpoly (shifts_eq_zero hpoly hzero))
  exact avoids_shifts havoids (by omega) hmeet

end Pair

section Parity

def parity (c : BitVec w) : Nat → Bool
  | 0 => false
  | n + 1 => parity c n ^^ c.getLsbD n

def oddBits (bits : List Bool) : Bool := bits.foldl (· ^^ ·) false

theorem parity_zero (n : Nat) : parity 0#w n = false := by
  induction n with
  | zero => rfl
  | succ n ih =>
    rw [parity, ih, BitVec.getLsbD_zero, Bool.false_xor]

theorem parity_xor (a b : BitVec w) (n : Nat) : parity (a ^^^ b) n = (parity a n ^^ parity b n) := by
  induction n with
  | zero => rfl
  | succ n ih =>
    show (parity (a ^^^ b) n ^^ (a ^^^ b).getLsbD n) =
      ((parity a n ^^ a.getLsbD n) ^^ (parity b n ^^ b.getLsbD n))
    rw [ih, BitVec.getLsbD_xor, Bool.xor_assoc, Bool.xor_assoc, Bool.xor_left_comm (parity b n)]

theorem parity_ushiftRight (c : BitVec w) (n : Nat) :
    parity (c >>> 1) n = (parity c (n + 1) ^^ c.getLsbD 0) := by
  induction n with
  | zero =>
    rw [parity, parity, parity, Bool.false_xor, Bool.xor_self]
  | succ n ih =>
    have hnext : parity c (n + 2) = (parity c (n + 1) ^^ c.getLsbD (n + 1)) := rfl
    rw [parity, ih, hnext, BitVec.getLsbD_ushiftRight, Nat.add_comm 1 n, Bool.xor_assoc,
      Bool.xor_assoc, Bool.xor_comm (c.getLsbD 0)]

theorem parity_shift {poly : BitVec w} (hpoly : parity poly w = true) (c : BitVec w) :
    parity (shift poly c) w = parity c w := by
  rw [shift, parity_xor, parity_ushiftRight, parity, BitVec.getLsbD_of_ge c w (Nat.le_refl w),
    Bool.xor_false]
  cases hc : c.getLsbD 0
  · rw [feedback, if_neg Bool.false_ne_true]
    show (parity c w ^^ false ^^ parity 0#w w) = _
    rw [parity_zero, Bool.xor_false, Bool.xor_false]
  · rw [feedback, if_pos rfl, hpoly, Bool.xor_assoc, Bool.xor_self, Bool.xor_false]

theorem parity_unit (bit : Bool) (n : Nat) (hw : 0 < w) :
    parity (unit bit : BitVec w) (n + 1) = bit := by
  induction n with
  | zero =>
    rw [parity, parity, getLsbD_unit, decide_eq_true hw]
    cases bit <;> rfl
  | succ n ih =>
    rw [parity, ih, getLsbD_unit, decide_eq_false (Nat.succ_ne_zero n), Bool.and_false,
      Bool.false_and, Bool.xor_false]

theorem parity_feeds {poly : BitVec w} (hpoly : parity poly w = true) (c : BitVec w)
    (bits : List Bool) : parity (feeds poly c bits) w = bits.foldl (· ^^ ·) (parity c w) := by
  have hw : 0 < w := by
    cases w with
    | zero => exact absurd hpoly Bool.false_ne_true
    | succ w => exact Nat.succ_pos w
  induction bits generalizing c with
  | nil => rfl
  | cons bit bits ih =>
    have hunit : parity (unit bit : BitVec w) w = bit := by
      have h := @parity_unit w bit (w - 1) hw
      rwa [Nat.sub_add_cancel hw] at h
    show parity (feeds poly (feed poly c bit) bits) w = List.foldl _ (parity c w ^^ bit) bits
    rw [ih, feed, parity_shift hpoly, parity_xor, hunit]

theorem odd_ne_zero {poly : BitVec w} (hpoly : parity poly w = true) {bits : List Bool}
    (h : oddBits bits = true) : feeds poly 0#w bits ≠ 0#w := by
  intro hzero
  have hparity := parity_feeds hpoly 0#w bits
  rw [hzero, parity_zero] at hparity
  exact absurd (hparity.trans h) Bool.false_ne_true

end Parity

end EspBridges.Crc
