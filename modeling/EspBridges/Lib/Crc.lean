namespace EspBridges.Crc

variable {w : Nat}

def feedback (poly : BitVec w) (out : Bool) : BitVec w := if out then poly else 0

def shift (poly c : BitVec w) : BitVec w := c >>> 1 ^^^ feedback poly (c.getLsbD 0)

def shifts (poly : BitVec w) : Nat → BitVec w → BitVec w
  | 0, c => c
  | n + 1, c => shifts poly n (shift poly c)

def step (poly c : BitVec w) (octet : BitVec 8) : BitVec w :=
  shifts poly 8 (c ^^^ octet.setWidth w)

def remainder (poly init : BitVec w) (octets : List (BitVec 8)) : BitVec w :=
  octets.foldl (step poly) init

theorem feedback_xor (poly : BitVec w) (a b : Bool) :
    feedback poly (a ^^ b) = feedback poly a ^^^ feedback poly b := by
  cases a
  · exact (BitVec.zero_xor).symm.trans (by cases b <;> rfl)
  · cases b
    · exact (BitVec.xor_zero).symm
    · exact (BitVec.xor_self).symm

theorem shift_xor (poly a b : BitVec w) :
    shift poly (a ^^^ b) = shift poly a ^^^ shift poly b := by
  unfold shift
  rw [BitVec.getLsbD_xor, BitVec.ushiftRight_xor_distrib, feedback_xor]
  ac_rfl

theorem shifts_xor (poly : BitVec w) (n : Nat) (a b : BitVec w) :
    shifts poly n (a ^^^ b) = shifts poly n a ^^^ shifts poly n b := by
  induction n generalizing a b with
  | zero => rfl
  | succ n ih => rw [shifts, shift_xor, ih]; rfl

theorem shifts_of_clear (poly : BitVec w) {n : Nat} {c : BitVec w}
    (h : ∀ i, i < n → c.getLsbD i = false) : shifts poly n c = c >>> n := by
  induction n generalizing c with
  | zero => exact (BitVec.ushiftRight_zero c).symm
  | succ n ih =>
    have hshift : shift poly c = c >>> 1 := by
      rw [shift, h 0 (Nat.succ_pos n)]
      exact BitVec.xor_zero
    rw [shifts, hshift, ih fun i hi => ?_, ← BitVec.shiftRight_add, Nat.add_comm]
    rw [BitVec.getLsbD_ushiftRight, Nat.add_comm]
    exact h (i + 1) (by omega)

def low (c : BitVec w) : BitVec w := (c.setWidth 8).setWidth w

theorem getLsbD_low (c : BitVec w) (i : Nat) :
    (low c).getLsbD i = (decide (i < 8) && c.getLsbD i) := by
  rw [low, BitVec.getLsbD_setWidth, BitVec.getLsbD_setWidth]
  cases hc : c.getLsbD i
  · rw [Bool.and_false, Bool.and_false]
  · rw [decide_eq_true (BitVec.lt_of_getLsbD hc), Bool.true_and]

theorem shifts_octet (poly c : BitVec w) :
    shifts poly 8 c = c >>> 8 ^^^ shifts poly 8 (low c) := by
  have hsplit : c = (c ^^^ low c) ^^^ low c := by
    rw [BitVec.xor_assoc, BitVec.xor_self, BitVec.xor_zero]
  have hclear : ∀ i, i < 8 → (c ^^^ low c).getLsbD i = false := by
    intro i hi
    rw [BitVec.getLsbD_xor, getLsbD_low, decide_eq_true hi, Bool.true_and, Bool.xor_self]
  have hhigh : (c ^^^ low c) >>> 8 = c >>> 8 := by
    apply BitVec.eq_of_getLsbD_eq
    intro i _
    rw [BitVec.getLsbD_ushiftRight, BitVec.getLsbD_ushiftRight, BitVec.getLsbD_xor, getLsbD_low,
      decide_eq_false (by omega), Bool.false_and, Bool.xor_false]
  conv => lhs; rw [hsplit]
  rw [shifts_xor, shifts_of_clear poly hclear, hhigh]

end EspBridges.Crc
