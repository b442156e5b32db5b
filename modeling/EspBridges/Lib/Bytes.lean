namespace EspBridges.Bytes

abbrev Byte := UInt8

abbrev Buf (n : Nat) := Fin n → Byte

/-- Memory the program does not own, one family for each kind of object: the bytes
past its end (or in it, before anything is stored), the integers past the end of an
integer array, and how many non-zero bytes follow it. -/
structure Wild (Obj : Type u) where
  byte : Obj → Nat → Byte
  int : Obj → Nat → Nat
  run : Obj → Nat

/-- What a `const char *` gives access to: `room` bytes of one object, then the
surrounding memory, whose first `run` bytes are not zero. -/
structure View where
  byte : Nat → Byte
  room : Nat
  run : Nat

namespace Buf

def zero : Buf n := fun _ => 0

def rd (b : Buf n) (beyond : Nat → Byte) (i : Nat) : Byte :=
  if h : i < n then b ⟨i, h⟩ else beyond i

def put (b : Buf n) (i : Nat) (v : Byte) : Buf n :=
  fun j => if j.val = i then v else b j

def memset (b : Buf n) (off : Nat) (v : Byte) (len : Nat) : Buf n :=
  fun j => if off ≤ j.val ∧ j.val < off + len then v else b j

def memcpy (b : Buf n) (off : Nat) (src : Nat → Byte) (len : Nat) : Buf n :=
  fun j => if off ≤ j.val ∧ j.val < off + len then src (j.val - off) else b j

def view (b : Buf n) (w : Wild Obj) (o : Obj) : View := ⟨b.rd (w.byte o), n, w.run o⟩

@[simp] theorem zero_apply (j : Fin n) : (zero : Buf n) j = 0 := rfl

theorem put_apply (b : Buf n) (i : Nat) (v : Byte) (j : Fin n) :
    b.put i v j = if j.val = i then v else b j := rfl

theorem put_self (b : Buf n) (i : Fin n) : b.put i.val (b i) = b := by
  funext j
  rw [put_apply]
  split
  · next hj => rw [Fin.ext hj]
  · rfl

theorem memcpy_apply (b : Buf n) (off : Nat) (src : Nat → Byte) (len : Nat) (j : Fin n) :
    b.memcpy off src len j =
      if off ≤ j.val ∧ j.val < off + len then src (j.val - off) else b j := rfl

theorem rd_of_lt (b : Buf n) (beyond : Nat → Byte) (h : i < n) :
    b.rd beyond i = b ⟨i, h⟩ := dif_pos h

theorem rd_of_ge (b : Buf n) (beyond : Nat → Byte) (h : n ≤ i) :
    b.rd beyond i = beyond i := dif_neg (by omega)

theorem rd_put (b : Buf n) (beyond : Nat → Byte) (i k : Nat) (v : Byte) :
    (b.put k v).rd beyond i = if i = k ∧ i < n then v else b.rd beyond i := by
  by_cases h : i < n
  · simp [rd, put, h]
  · simp [rd, h]

theorem rd_memcpy (b : Buf n) (beyond src : Nat → Byte) (off len i : Nat) :
    (b.memcpy off src len).rd beyond i =
      if off ≤ i ∧ i < off + len ∧ i < n then src (i - off) else b.rd beyond i := by
  by_cases h : i < n
  · simp [rd, memcpy, h]
  · simp [rd, h]

theorem memcpy_congr (b : Buf n) (off : Nat) {src src' : Nat → Byte} {len len' : Nat}
    (hlen : min (off + len) n = min (off + len') n)
    (h : ∀ i, off + i < n → i < len → src i = src' i) :
    b.memcpy off src len = b.memcpy off src' len' := by
  funext j
  have hj := j.isLt
  simp only [memcpy_apply]
  by_cases hin : off ≤ j.val ∧ j.val < off + len
  · rw [if_pos hin, if_pos (by omega)]
    exact h _ (by omega) (by omega)
  · rw [if_neg hin, if_neg (by omega)]

def HoldsRows (stride : Nat) (b : Buf n) (rows : List (List Byte)) : Prop :=
  ∀ beyond r i, i < stride → stride * r + i < n →
    b.rd beyond (stride * r + i) = (rows.getD r []).getD i 0

theorem holdsRows_zero (stride : Nat) : HoldsRows stride (zero : Buf n) [] := by
  intro beyond r i _ hin
  rw [rd_of_lt _ _ hin]
  rfl

theorem HoldsRows.snoc {b : Buf n} {stride : Nat} {rows : List (List Byte)}
    (h : HoldsRows stride b rows) (row : List Byte) (src : Nat → Byte) (hrow : row.length ≤ stride)
    (hsrc : ∀ i, i < row.length → src i = row.getD i 0) :
    HoldsRows stride (b.memcpy (stride * rows.length) src row.length) (rows ++ [row]) := by
  intro beyond r i hi hin
  rw [rd_memcpy]
  rcases Nat.lt_trichotomy r rows.length with hr | rfl | hr
  · have hbefore : stride * (r + 1) ≤ stride * rows.length := Nat.mul_le_mul_left stride hr
    rw [Nat.mul_succ] at hbefore
    rw [if_neg (by omega), h beyond r i hi hin]
    simp [List.getD_eq_getElem?_getD, List.getElem?_append_left hr]
  · have hat : (rows ++ [row]).getD rows.length [] = row := by simp
    rw [hat]
    by_cases hcopied : i < row.length
    · rw [if_pos ⟨by omega, by omega, hin⟩, Nat.add_sub_cancel_left]
      exact hsrc i hcopied
    · rw [if_neg (by omega), h beyond _ i hi hin]
      simp [List.getD_eq_getElem?_getD, List.getElem?_eq_none (Nat.le_of_not_lt hcopied)]
  · have hafter : stride * (rows.length + 1) ≤ stride * r := Nat.mul_le_mul_left stride hr
    rw [Nat.mul_succ] at hafter
    rw [if_neg (by omega), h beyond r i hi hin]
    simp [List.getD_eq_getElem?_getD, List.getElem?_eq_none (Nat.le_of_lt hr),
      List.getElem?_eq_none (show (rows ++ [row]).length ≤ r by simp; omega)]

def StartsWith (b : Buf n) (xs : List Byte) : Prop :=
  ∀ beyond i, i < xs.length → i < n → b.rd beyond i = xs.getD i 0

theorem startsWith_nil (b : Buf n) : b.StartsWith [] := fun _ _ hi => absurd hi (Nat.not_lt_zero _)

theorem StartsWith.put {b : Buf n} {xs : List Byte} (h : b.StartsWith xs) {k : Nat}
    (hk : k = xs.length) (v : Byte) : (b.put k v).StartsWith (xs ++ [v]) := by
  subst hk
  intro beyond i hi hin
  rw [List.length_append, List.length_singleton] at hi
  rw [rd_put, List.getD_eq_getElem?_getD]
  by_cases hlast : i = xs.length
  · subst hlast
    rw [if_pos ⟨rfl, hin⟩, List.getElem?_append_right (Nat.le_refl _), Nat.sub_self]
    rfl
  · have hi' : i < xs.length := by omega
    rw [if_neg (fun h => hlast h.1), List.getElem?_append_left hi', h beyond i hi' hin,
      List.getD_eq_getElem?_getD]

theorem StartsWith.memcpy {b : Buf n} {xs : List Byte} (h : b.StartsWith xs) {k len : Nat}
    {src : Nat → Byte} {ys : List Byte} (hk : k = xs.length) (hlen : len = ys.length)
    (hsrc : ∀ i, i < ys.length → src i = ys.getD i 0) :
    (b.memcpy k src len).StartsWith (xs ++ ys) := by
  subst hk hlen
  intro beyond i hi hin
  rw [List.length_append] at hi
  rw [rd_memcpy, List.getD_eq_getElem?_getD]
  by_cases hold : i < xs.length
  · rw [if_neg (by omega), List.getElem?_append_left hold, h beyond i hold hin,
      List.getD_eq_getElem?_getD]
  · rw [if_pos ⟨by omega, hi, hin⟩, List.getElem?_append_right (by omega),
      ← List.getD_eq_getElem?_getD]
    exact hsrc _ (by omega)

theorem StartsWith.memcpy_after {b : Buf n} {xs : List Byte} (h : b.StartsWith xs) {k : Nat}
    (hk : xs.length ≤ k) (src : Nat → Byte) (len : Nat) : (b.memcpy k src len).StartsWith xs := by
  intro beyond i hi hin
  rw [rd_memcpy, if_neg (by omega)]
  exact h beyond i hi hin

theorem StartsWith.put_after {b : Buf n} {xs : List Byte} (h : b.StartsWith xs) {k : Nat}
    (hk : xs.length ≤ k) (v : Byte) : (b.put k v).StartsWith xs := by
  intro beyond i hi hin
  rw [rd_put, if_neg (by omega)]
  exact h beyond i hi hin

def Agree (k : Nat) (b b' : Buf n) : Prop :=
  ∀ beyond beyond' i, i < k → i < n → b'.rd beyond' i = b.rd beyond i

theorem Agree.refl (k : Nat) (b : Buf n) : Agree k b b := by
  intro beyond beyond' i _ hin
  rw [rd_of_lt _ _ hin, rd_of_lt _ _ hin]

theorem Agree.put {k : Nat} {b b' : Buf n} (h : Agree k b b') {m : Nat} (hm : m = k)
    (v : Byte) : Agree (m + 1) (b.put m v) (b'.put m v) := by
  intro beyond beyond' i hi hin
  rw [rd_put, rd_put]
  by_cases hat : i = m
  · rw [if_pos ⟨hat, hin⟩, if_pos ⟨hat, hin⟩]
  · rw [if_neg (fun h => hat h.1), if_neg (fun h => hat h.1)]
    exact h _ _ i (by omega) hin

theorem Agree.memcpy {k : Nat} {b b' : Buf n} (h : Agree k b b') {m len : Nat} (hm : m = k)
    {src src' : Nat → Byte} (hsrc : ∀ i, i < len → src' i = src i) :
    Agree (m + len) (b.memcpy m src len) (b'.memcpy m src' len) := by
  intro beyond beyond' i hi hin
  rw [rd_memcpy, rd_memcpy]
  by_cases hin' : m ≤ i
  · rw [if_pos ⟨hin', hi, hin⟩, if_pos ⟨hin', hi, hin⟩]
    exact hsrc _ (by omega)
  · rw [if_neg (by omega), if_neg (by omega)]
    exact h _ _ i (by omega) hin

theorem Agree.put_after {k : Nat} {b b' : Buf n} (h : Agree k b b') {m : Nat} (hm : k ≤ m)
    (v : Byte) : Agree k (b.put m v) (b'.put m v) := by
  intro beyond beyond' i hi hin
  rw [rd_put, rd_put, if_neg (by omega), if_neg (by omega)]
  exact h _ _ i hi hin

end Buf

/-- `strlen` over the `fuel` bytes left in the object, and over what follows when
none of them is zero. -/
def cstrlen (byte : Nat → Byte) : (fuel run : Nat) → Nat
  | 0, run => run
  | fuel + 1, run => if byte 0 = 0 then 0 else cstrlen (fun i => byte (i + 1)) fuel run + 1

theorem cstrlen_eq {byte : Nat → Byte} {fuel k : Nat} (run : Nat) (hk : k < fuel)
    (hne : ∀ i, i < k → byte i ≠ 0) (hz : byte k = 0) : cstrlen byte fuel run = k := by
  induction fuel generalizing byte k with
  | zero => omega
  | succ fuel ih =>
    cases k with
    | zero => simp [cstrlen, hz]
    | succ k =>
      have h0 : byte 0 ≠ 0 := hne 0 (by omega)
      have hrest : cstrlen (fun i => byte (i + 1)) fuel run = k :=
        ih (by omega) (fun i hi => hne (i + 1) (by omega)) hz
      simp [cstrlen, h0, hrest]

theorem cstrlen_le {byte : Nat → Byte} {fuel k : Nat} (run : Nat) (hk : k < fuel)
    (hz : byte k = 0) : cstrlen byte fuel run ≤ k := by
  induction fuel generalizing byte k with
  | zero => omega
  | succ fuel ih =>
    unfold cstrlen
    by_cases h0 : byte 0 = 0
    · simp [h0]
    · rw [if_neg h0]
      cases k with
      | zero => exact absurd hz h0
      | succ k =>
        have hrest : cstrlen (fun i => byte (i + 1)) fuel run ≤ k := ih (by omega) hz
        omega

theorem cstrlen_spec {byte : Nat → Byte} {fuel run : Nat} (h : cstrlen byte fuel run < fuel) :
    (∀ i, i < cstrlen byte fuel run → byte i ≠ 0) ∧ byte (cstrlen byte fuel run) = 0 := by
  induction fuel generalizing byte with
  | zero => omega
  | succ fuel ih =>
    unfold cstrlen at h ⊢
    by_cases h0 : byte 0 = 0
    · rw [if_pos h0]
      exact ⟨fun i hi => absurd hi (Nat.not_lt_zero i), h0⟩
    · rw [if_neg h0] at h ⊢
      obtain ⟨hne, hz⟩ := @ih (fun i => byte (i + 1)) (by omega)
      refine ⟨fun i hi => ?_, hz⟩
      cases i with
      | zero => exact h0
      | succ i => exact hne i (by omega)

theorem cstrlen_lt_iff {byte : Nat → Byte} {fuel : Nat} (run : Nat) :
    cstrlen byte fuel run < fuel ↔ ∃ i < fuel, byte i = 0 := by
  constructor
  · exact fun h => ⟨_, h, (cstrlen_spec h).2⟩
  · rintro ⟨i, hi, hz⟩
    have hle := cstrlen_le run hi hz
    omega

theorem cstrlen_unterminated {byte : Nat → Byte} {fuel : Nat} (run : Nat)
    (h : ∀ i, i < fuel → byte i ≠ 0) : cstrlen byte fuel run = fuel + run := by
  induction fuel generalizing byte with
  | zero => exact (Nat.zero_add run).symm
  | succ fuel ih =>
    have hrest : cstrlen (fun i => byte (i + 1)) fuel run = fuel + run :=
      ih fun i hi => h (i + 1) (by omega)
    rw [cstrlen, if_neg (h 0 (by omega)), hrest]
    omega

theorem cstrlen_le_room (byte : Nat → Byte) (fuel run : Nat) :
    cstrlen byte fuel run ≤ fuel + run := by
  by_cases h : ∃ i < fuel, byte i = 0
  · have hlt := (cstrlen_lt_iff run).mpr h
    omega
  · exact Nat.le_of_eq (cstrlen_unterminated run fun i hi hz => h ⟨i, hi, hz⟩)

theorem cstrlen_eq_zero {byte : Nat → Byte} {fuel : Nat} (run : Nat) (h : 0 < fuel) :
    cstrlen byte fuel run = 0 ↔ byte 0 = 0 := by
  obtain ⟨fuel, rfl⟩ : ∃ k, fuel = k + 1 := ⟨fuel - 1, by omega⟩
  by_cases h0 : byte 0 = 0 <;> simp [cstrlen, h0]

namespace View

def shift (v : View) (k : Nat) : View := ⟨fun i => v.byte (k + i), v.room - k, v.run⟩

def strlen (v : View) : Nat := cstrlen v.byte v.room v.run

def bytes (v : View) (len : Nat) : List Byte := (List.range len).map v.byte

@[simp] theorem length_bytes (v : View) (len : Nat) : (v.bytes len).length = len := by
  simp [bytes]

@[simp] theorem getElem_bytes (v : View) (len i : Nat) (h : i < (v.bytes len).length) :
    (v.bytes len)[i] = v.byte i := by
  simp [bytes]

theorem bytes_congr {v v' : View} {len : Nat} (h : ∀ i, i < len → v.byte i = v'.byte i) :
    v.bytes len = v'.bytes len := by
  apply List.map_congr_left
  intro i hi
  exact h i (List.mem_range.mp hi)

theorem bytes_add (v : View) (m k : Nat) : v.bytes (m + k) = v.bytes m ++ (v.shift m).bytes k := by
  simp [bytes, shift, List.range_add, Function.comp_def]

theorem take_bytes (v : View) {m n : Nat} (h : n ≤ m) : (v.bytes m).take n = v.bytes n := by
  rw [bytes, ← List.map_take, List.take_range, Nat.min_eq_left h, bytes]

theorem bytes_succ (v : View) (k : Nat) : v.bytes (k + 1) = v.byte 0 :: (v.shift 1).bytes k := by
  rw [Nat.add_comm, bytes_add]
  simp [bytes]

structure Holds (v : View) (s : List Byte) : Prop where
  strlen : v.strlen = s.length
  byte : ∀ i, i < s.length → v.byte i = s.getD i 0

/-- `s`, without zeroes of its own, and the zero behind it, inside one object. -/
structure CString (v : View) (s : List Byte) : Prop where
  room : s.length < v.room
  nonzero : ∀ x ∈ s, x ≠ 0
  byte : ∀ i, i < s.length → v.byte i = s.getD i 0
  terminated : v.byte s.length = 0

theorem CString.holds {v : View} {s : List Byte} (h : v.CString s) : v.Holds s := by
  refine ⟨cstrlen_eq _ h.room (fun i hi => ?_) h.terminated, h.byte⟩
  rw [h.byte i hi, List.getD_eq_getElem?_getD, List.getElem?_eq_getElem hi]
  exact h.nonzero _ (List.getElem_mem hi)

theorem bytes_eq (v : View) {xs : List Byte} {len : Nat} (hlen : xs.length = len)
    (h : ∀ i, i < len → v.byte i = xs.getD i 0) : v.bytes len = xs := by
  subst hlen
  apply List.ext_getElem (length_bytes _ _)
  intro i _ hi
  rw [getElem_bytes, h i hi, List.getD_eq_getElem?_getD, List.getElem?_eq_getElem hi]
  rfl

theorem holds_iff {v : View} {s : List Byte} : v.Holds s ↔ v.bytes v.strlen = s := by
  constructor
  · intro h
    rw [h.strlen]
    exact bytes_eq v rfl h.byte
  · rintro rfl
    refine ⟨(length_bytes _ _).symm, fun i hi => ?_⟩
    rw [List.getD_eq_getElem?_getD, List.getElem?_eq_getElem hi, getElem_bytes]
    rfl

end View

theorem takeWhile_getD {xs : List Byte} (hi : i < (xs.takeWhile (· ≠ 0)).length) :
    xs.getD i 0 = (xs.takeWhile (· ≠ 0)).getD i 0 ∧ xs.getD i 0 ≠ 0 := by
  have hsplit : xs.takeWhile (· ≠ 0) ++ xs.dropWhile (· ≠ 0) = xs := List.takeWhile_append_dropWhile
  have hsame : xs.getD i 0 = (xs.takeWhile (· ≠ 0)).getD i 0 := by
    rw [List.getD_eq_getElem?_getD, ← hsplit, List.getElem?_append_left hi, hsplit,
      List.getD_eq_getElem?_getD]
  refine ⟨hsame, ?_⟩
  rw [hsame, List.getD_eq_getElem?_getD, List.getElem?_eq_getElem hi]
  have hpass := List.all_takeWhile (l := xs) (p := fun x => decide (x ≠ 0))
  rw [List.all_eq_true] at hpass
  exact of_decide_eq_true (hpass _ (List.getElem_mem hi))

theorem takeWhile_end (xs : List Byte) : xs.getD (xs.takeWhile (· ≠ 0)).length 0 = 0 := by
  induction xs with
  | nil => rfl
  | cons x xs ih =>
    by_cases hx : x = 0
    · simp [hx]
    · simpa [hx] using ih

theorem View.holds_text {v : View} {xs : List Byte} {n : Nat} (hroom : n ≤ v.room)
    (hend : (xs.takeWhile (· ≠ 0)).length < n) (hbyte : ∀ i, i < n → v.byte i = xs.getD i 0) :
    v.Holds (xs.takeWhile (· ≠ 0)) := by
  refine ⟨cstrlen_eq _ (by omega) (fun i hi => ?_) ?_, fun i hi => ?_⟩
  · rw [hbyte i (by omega)]
    exact (takeWhile_getD hi).2
  · rw [hbyte _ hend]
    exact takeWhile_end xs
  · rw [hbyte i (by omega)]
    exact (takeWhile_getD hi).1

@[simp] theorem Buf.view_byte (b : Buf n) (w : Wild Obj) (o : Obj) :
    (b.view w o).byte = b.rd (w.byte o) := rfl

theorem Buf.StartsWith.bytes {b : Buf n} {xs : List Byte} (h : b.StartsWith xs) (w : Wild Obj)
    (o : Obj) (hlen : xs.length ≤ n) : (b.view w o).bytes xs.length = xs :=
  View.bytes_eq _ rfl fun i hi => h (w.byte o) i hi (by omega)

structure View.SameString (v v' : View) : Prop where
  strlen : v'.strlen = v.strlen
  byte : ∀ i, i < v.strlen → v'.byte i = v.byte i

theorem Buf.sameString {b : Buf n} {w : Wild Obj} {o : Obj} (h : ∃ i, b i = 0) (w' : Wild Obj) :
    (b.view w o).SameString (b.view w' o) ∧ (b.view w o).strlen < n := by
  obtain ⟨⟨k, hk⟩, hz⟩ := h
  have hlt : (b.view w o).strlen < n :=
    (cstrlen_lt_iff _).mpr ⟨k, hk, (Buf.rd_of_lt _ _ hk).trans hz⟩
  have hbyte : ∀ i, i < n → (b.view w' o).byte i = (b.view w o).byte i := by
    intro i hi
    rw [Buf.view_byte, Buf.view_byte, Buf.rd_of_lt _ _ hi, Buf.rd_of_lt _ _ hi]
  obtain ⟨hne, hend⟩ := cstrlen_spec hlt
  refine ⟨⟨cstrlen_eq _ hlt (fun i hi => ?_) ?_, fun i hi => hbyte i (by omega)⟩, hlt⟩
  · exact (hbyte i (Nat.lt_trans hi hlt)).symm ▸ hne i hi
  · exact (hbyte _ hlt).trans hend

end EspBridges.Bytes
