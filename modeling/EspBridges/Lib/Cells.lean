namespace EspBridges.Cells

universe u v

variable {α : Type u} {β : Type v}

def get (xs : List α) (i : Int) : Option α := if i < 0 then none else xs[i.toNat]?

def put (xs : List α) (i : Int) (x : α) : Option (List α) :=
  if 0 ≤ i ∧ i < xs.length then some (xs.set i.toNat x) else none

def block (xs : List α) : Int → Nat → Option (List α)
  | _, 0 => some []
  | i, n + 1 => (get xs i).bind fun x => (block xs (i + 1) n).map (x :: ·)

def fill : List α → Int → List α → Option (List α)
  | xs, _, [] => some xs
  | xs, i, y :: ys => (put xs i y).bind fun xs => fill xs (i + 1) ys

abbrev Bank (α : Type u) := Nat → Option α

namespace Bank

def Has (m : Bank α) (a n : Nat) : Prop := ∀ i, i < n → (m (a + i)).isSome

instance (m : Bank α) (a n : Nat) : Decidable (m.Has a n) := Nat.decidableBallLT n _

def read (m : Bank α) (a n : Nat) : List α := (List.range n).filterMap fun i => m (a + i)

def write (m : Bank α) (a : Nat) (ys : List α) : Bank α := fun b =>
  if a ≤ b ∧ b < a + ys.length then ys[b - a]? else m b

def map (f : α → β) (m : Bank α) : Bank β := fun a => (m a).map f

end Bank

def bank (base : Nat) (xs : List α) : Bank α := fun a => if a < base then none else xs[a - base]?

theorem get_eq_bank (base : Nat) (xs : List α) (a : Nat) : get xs (a - base) = bank base xs a := by
  unfold get bank
  by_cases h : a < base
  · rw [if_pos h, if_pos (by omega)]
  · rw [if_neg h, if_neg (by omega), show ((a : Int) - base).toNat = a - base by omega]

theorem isSome_bank {base : Nat} {xs : List α} {a : Nat} :
    (bank base xs a).isSome ↔ base ≤ a ∧ a < base + xs.length := by
  unfold bank
  by_cases h : a < base
  · rw [if_pos h]
    exact iff_of_false Bool.false_ne_true (by omega)
  · rw [if_neg h, isSome_getElem?]
    omega

theorem has_bank {base : Nat} {xs : List α} {a n : Nat} (hn : 0 < n) :
    (bank base xs).Has a n ↔ base ≤ a ∧ a + n ≤ base + xs.length := by
  constructor
  · intro h
    have hfirst := isSome_bank.mp (h 0 hn)
    have hlast := isSome_bank.mp (h (n - 1) (by omega))
    omega
  · intro h i hi
    exact isSome_bank.mpr (by omega)

theorem Bank.has_succ {m : Bank α} {a n : Nat} :
    m.Has a (n + 1) ↔ (m a).isSome ∧ m.Has (a + 1) n := by
  constructor
  · intro h
    refine ⟨h 0 (Nat.succ_pos n), fun i hi => ?_⟩
    rw [Nat.add_assoc, Nat.add_comm 1]
    exact h (i + 1) (Nat.succ_lt_succ hi)
  · intro h i hi
    cases i with
    | zero => exact h.1
    | succ i =>
      have hrest := h.2 i (Nat.lt_of_succ_lt_succ hi)
      rwa [Nat.add_assoc, Nat.add_comm 1] at hrest

theorem Bank.read_succ {m : Bank α} {a n : Nat} {x : α} (h : m a = some x) :
    m.read a (n + 1) = x :: m.read (a + 1) n := by
  have hfirst : (0 :: (List.range n).map Nat.succ).filterMap (fun i => m (a + i)) =
      x :: ((List.range n).map Nat.succ).filterMap fun i => m (a + i) :=
    List.filterMap_cons_some h
  have hshift : (fun i => m (a + 1 + i)) = (fun i => m (a + i)) ∘ Nat.succ := by
    funext i
    show m (a + 1 + i) = m (a + (i + 1))
    rw [Nat.add_assoc, Nat.add_comm 1]
  rw [read, read, List.range_succ_eq_map, hfirst, List.filterMap_map, hshift]

theorem Bank.length_read {m : Bank α} {a n : Nat} (h : m.Has a n) : (m.read a n).length = n := by
  induction n generalizing a with
  | zero => rfl
  | succ n ih =>
    obtain ⟨hfirst, hrest⟩ := has_succ.mp h
    obtain ⟨x, hx⟩ := Option.isSome_iff_exists.mp hfirst
    rw [read_succ hx, List.length_cons, ih hrest]

theorem mem_of_bank {base : Nat} {xs : List α} {a : Nat} {x : α} (h : bank base xs a = some x) :
    x ∈ xs := by
  unfold bank at h
  split at h
  · exact nomatch h
  · exact List.mem_of_getElem? h

theorem mem_of_read {base : Nat} {xs : List α} {a n : Nat} {x : α}
    (h : x ∈ (bank base xs).read a n) : x ∈ xs := by
  obtain ⟨i, _, hi⟩ := List.mem_filterMap.mp h
  exact mem_of_bank hi

theorem block_eq {base : Nat} {xs : List α} {a n : Nat} (h : (bank base xs).Has a n) :
    block xs (a - base) n = some ((bank base xs).read a n) := by
  induction n generalizing a with
  | zero => rfl
  | succ n ih =>
    obtain ⟨hfirst, hrest⟩ := Bank.has_succ.mp h
    obtain ⟨x, hx⟩ := Option.isSome_iff_exists.mp hfirst
    have hnext : (a : Int) - base + 1 = (a + 1 : Nat) - base := by omega
    rw [block, get_eq_bank, hx, Option.bind_some, hnext, ih hrest, Bank.read_succ hx]
    rfl

theorem bank_set {base : Nat} {xs : List α} {a : Nat} (x : α) (h : (bank base xs a).isSome) :
    bank base (xs.set (a - base) x) = (bank base xs).write a [x] := by
  have hin := isSome_bank.mp h
  funext b
  unfold bank Bank.write
  dsimp only
  rw [List.getElem?_set, List.length_singleton]
  by_cases hb : b < base
  · rw [if_pos hb, if_neg (by omega), if_pos hb]
  · rw [if_neg hb, if_neg hb]
    by_cases hat : b = a
    · subst hat
      rw [if_pos rfl, if_pos (by omega), if_pos (by omega), Nat.sub_self]
      rfl
    · rw [if_neg (by omega), if_neg (by omega)]

theorem put_eq {base : Nat} {xs : List α} {a : Nat} (x : α) (h : (bank base xs a).isSome) :
    put xs (a - base) x = some (xs.set (a - base) x) := by
  have hin := isSome_bank.mp h
  rw [put, if_pos (by omega), show ((a : Int) - base).toNat = a - base by omega]

theorem Bank.has_write {m : Bank α} {a : Nat} {ys : List α} {b n : Nat}
    (h : m.Has a ys.length) : (m.write a ys).Has b n ↔ m.Has b n := by
  have hsame : ∀ c, ((m.write a ys) c).isSome = (m c).isSome := by
    intro c
    unfold write
    by_cases hc : a ≤ c ∧ c < a + ys.length
    · have hin := h (c - a) (by omega)
      rw [show a + (c - a) = c by omega] at hin
      rw [if_pos hc, hin, isSome_getElem?]
      omega
    · rw [if_neg hc]
  constructor
  · intro hb i hi
    rw [← hsame]
    exact hb i hi
  · intro hb i hi
    rw [hsame]
    exact hb i hi

theorem Bank.write_cons (m : Bank α) (a : Nat) (y : α) (ys : List α) :
    (m.write a [y]).write (a + 1) ys = m.write a (y :: ys) := by
  funext b
  unfold write
  rw [List.length_singleton, List.length_cons]
  by_cases hat : b = a
  · subst hat
    rw [if_neg (by omega), if_pos (by omega), if_pos (by omega), Nat.sub_self]
    rfl
  · by_cases hlater : a + 1 ≤ b ∧ b < a + 1 + ys.length
    · rw [if_pos hlater, if_pos (by omega), show b - a = b - (a + 1) + 1 by omega]
      rfl
    · rw [if_neg hlater, if_neg (by omega), if_neg (by omega)]

theorem Bank.write_nil (m : Bank α) (a : Nat) : m.write a [] = m := by
  funext b
  exact if_neg fun h => by
    have := h.2
    rw [List.length_nil] at this
    omega

theorem fill_eq {base : Nat} {xs : List α} {a : Nat} {ys : List α}
    (h : (bank base xs).Has a ys.length) :
    ∃ xs', fill xs (a - base) ys = some xs' ∧ xs'.length = xs.length ∧
      bank base xs' = (bank base xs).write a ys := by
  induction ys generalizing a xs with
  | nil => exact ⟨xs, rfl, rfl, (Bank.write_nil _ _).symm⟩
  | cons y ys ih =>
    obtain ⟨hfirst, hrest⟩ := Bank.has_succ.mp h
    have hset := bank_set y hfirst
    have hsingle : (bank base xs).Has a 1 := Bank.has_succ.mpr ⟨hfirst, fun i hi => nomatch hi⟩
    have hnext : (a : Int) - base + 1 = (a + 1 : Nat) - base := by omega
    obtain ⟨xs', hfill, hlength, hbank⟩ := @ih (xs.set (a - base) y) (a + 1)
      (by rw [hset]; exact (Bank.has_write hsingle).mpr hrest)
    refine ⟨xs', ?_, hlength.trans List.length_set, ?_⟩
    · rw [fill, put_eq y hfirst, Option.bind_some, hnext]
      exact hfill
    · rw [hbank, hset, Bank.write_cons]

theorem fill_some {xs xs' : List α} {i : Int} {ys : List α} (h : fill xs i ys = some xs') :
    xs'.length = xs.length ∧ ∀ P : α → Prop, (∀ x ∈ xs, P x) → (∀ y ∈ ys, P y) → ∀ x ∈ xs', P x := by
  induction ys generalizing xs i with
  | nil =>
    obtain rfl := Option.some.inj h
    exact ⟨rfl, fun P hxs _ => hxs⟩
  | cons y ys ih =>
    rw [fill, Option.bind_eq_some_iff] at h
    obtain ⟨mid, hput, hfill⟩ := h
    unfold put at hput
    split at hput
    · obtain rfl := Option.some.inj hput
      obtain ⟨hlength, hall⟩ := ih hfill
      refine ⟨hlength.trans List.length_set, fun P hxs hys => ?_⟩
      refine hall P (fun x hx => ?_) fun y hy => hys y (.tail _ hy)
      rcases List.mem_or_eq_of_mem_set hx with hx | rfl
      · exact hxs x hx
      · exact hys x (.head _)
    · exact absurd hput (Option.some_ne_none _).symm

theorem fill_isSome {xs : List α} {i : Int} {ys : List α} :
    (fill xs i ys).isSome ↔ ys = [] ∨ 0 ≤ i ∧ i + ys.length ≤ xs.length := by
  induction ys generalizing xs i with
  | nil => exact iff_of_true rfl (.inl rfl)
  | cons y ys ih =>
    rw [fill, put]
    by_cases h : 0 ≤ i ∧ i < xs.length
    · rw [if_pos h, Option.bind_some, ih, List.length_set, List.length_cons]
      cases ys with
      | nil => exact iff_of_true (.inl rfl) (.inr ⟨h.1, by rw [List.length_nil]; omega⟩)
      | cons z zs =>
        rw [List.length_cons]
        constructor
        · rintro (hnil | hin)
          · exact nomatch hnil
          · exact .inr (by omega)
        · rintro (hnil | hin)
          · exact nomatch hnil
          · exact .inr (by omega)
    · rw [if_neg h, List.length_cons]
      refine iff_of_false Bool.false_ne_true ?_
      rintro (hnil | hin)
      · exact nomatch hnil
      · omega

section Map

variable (f : α → β) (m : Bank α) (a n : Nat)

theorem Bank.has_map : (m.map f).Has a n ↔ m.Has a n := by
  have hsame : ∀ i, (m.map f (a + i)).isSome = (m (a + i)).isSome := fun i => Option.isSome_map
  constructor
  · intro h i hi
    rw [← hsame]
    exact h i hi
  · intro h i hi
    rw [hsame]
    exact h i hi

theorem Bank.read_map : (m.map f).read a n = (m.read a n).map f := by
  unfold read map
  rw [List.map_filterMap]

theorem Bank.write_map (ys : List α) : (m.map f).write a (ys.map f) = (m.write a ys).map f := by
  funext b
  unfold write map
  dsimp only
  rw [List.length_map, List.getElem?_map]
  split <;> rfl

end Map

theorem Bank.read_write (m : Bank α) (a : Nat) (ys : List α) :
    (m.write a ys).read a ys.length = ys := by
  induction ys generalizing m a with
  | nil => rfl
  | cons y ys ih =>
    have hhere : m.write a (y :: ys) a = some y := by
      rw [write, if_pos ⟨Nat.le_refl a, by rw [List.length_cons]; omega⟩, Nat.sub_self]
      rfl
    rw [List.length_cons, read_succ hhere, ← write_cons, ih]

theorem fill_frame {xs xs' : List α} {i : Int} {ys : List α} (h : fill xs i ys = some xs') :
    block xs' i ys.length = some ys ∧ ∀ j, j < i ∨ i + ys.length ≤ j → get xs' j = get xs j := by
  by_cases hnil : ys = []
  · subst hnil
    obtain rfl := Option.some.inj h
    exact ⟨rfl, fun _ _ => rfl⟩
  have hplace := (fill_isSome.mp (Option.isSome_of_eq_some h)).resolve_left hnil
  obtain ⟨a, rfl⟩ := Int.eq_ofNat_of_zero_le hplace.1
  have hat : ((a : Nat) : Int) - (0 : Nat) = a := Int.sub_zero _
  have hhas : (bank 0 xs).Has a ys.length :=
    (has_bank (List.length_pos_iff.mpr hnil)).mpr ⟨Nat.zero_le a, by omega⟩
  obtain ⟨tab, hfill, -, hbank⟩ := fill_eq hhas
  rw [hat] at hfill
  obtain rfl := Option.some.inj (hfill.symm.trans h)
  constructor
  · have hread := @block_eq _ 0 tab a ys.length (by rw [hbank]; exact (Bank.has_write hhas).mpr hhas)
    rwa [hat, hbank, Bank.read_write] at hread
  · intro j hj
    by_cases hneg : j < 0
    · rw [get, get, if_pos hneg, if_pos hneg]
    · obtain ⟨b, rfl⟩ := Int.eq_ofNat_of_zero_le (Int.not_lt.mp hneg)
      have hout : ¬(a ≤ b ∧ b < a + ys.length) := by omega
      have hafter := get_eq_bank 0 tab b
      rw [hbank, Bank.write, if_neg hout, ← get_eq_bank 0 xs b] at hafter
      exact hafter

theorem block_some {xs zs : List α} {i : Int} {n : Nat} (h : block xs i n = some zs) :
    zs.length = n ∧ ∀ z ∈ zs, z ∈ xs := by
  induction n generalizing i zs with
  | zero =>
    obtain rfl := Option.some.inj h
    exact ⟨rfl, fun _ hz => absurd hz List.not_mem_nil⟩
  | succ n ih =>
    obtain ⟨z, hz, hrest⟩ := Option.bind_eq_some_iff.mp h
    obtain ⟨rest, hblock, rfl⟩ := Option.map_eq_some_iff.mp hrest
    obtain ⟨hlength, hmem⟩ := ih hblock
    refine ⟨congrArg (· + 1) hlength, List.forall_mem_cons.mpr ⟨?_, hmem⟩⟩
    unfold get at hz
    split at hz
    · exact absurd hz (Option.some_ne_none _).symm
    · exact List.mem_of_getElem? hz

theorem block_take {xs zs : List α} {i : Int} {nb n : Nat} (h : block xs i nb = some zs)
    (hn : n ≤ nb) : block xs i n = some (zs.take n) := by
  induction n generalizing i nb zs with
  | zero => rfl
  | succ n ih =>
    obtain ⟨nb, rfl⟩ := Nat.exists_eq_add_of_le' hn
    obtain ⟨z, hz, hrest⟩ := Option.bind_eq_some_iff.mp h
    obtain ⟨rest, hblock, rfl⟩ := Option.map_eq_some_iff.mp hrest
    rw [block, hz, Option.bind_some, ih hblock (Nat.le_add_left n nb)]
    rfl

theorem block_part {xs zs : List α} {i : Int} {nb a n : Nat} (h : block xs i nb = some zs)
    (hin : a + n ≤ nb) : block xs (i + a) n = some ((zs.drop a).take n) := by
  induction a generalizing i nb zs with
  | zero =>
    rw [Int.natCast_zero, Int.add_zero]
    exact block_take h (by omega)
  | succ a ih =>
    obtain ⟨nb, rfl⟩ := Nat.exists_eq_add_of_le' (show 1 ≤ nb by omega)
    obtain ⟨z, -, hrest⟩ := Option.bind_eq_some_iff.mp h
    obtain ⟨rest, hblock, rfl⟩ := Option.map_eq_some_iff.mp hrest
    rw [Int.natCast_succ, Int.add_comm (a : Int) 1, ← Int.add_assoc]
    exact ih hblock (by omega)

end EspBridges.Cells
