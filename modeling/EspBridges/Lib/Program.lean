/-! Programs over a state that may crash, and what can be said of those that return. -/

namespace EspBridges

abbrev Program (σ α : Type) := StateT σ Option α

namespace Program

variable {σ α β : Type} {P : σ → Prop} {x : Program σ α} {f : α → Program σ β}

theorem bind_apply (x : Program σ α) (f : α → Program σ β) (s : σ) :
    (x >>= f) s = (x s).bind fun r => f r.1 r.2 := rfl

theorem bind_eq_some {s s'' : σ} {b : β} : (x >>= f) s = some (b, s'') ↔
    ∃ a s', x s = some (a, s') ∧ f a s' = some (b, s'') := by
  rw [bind_apply, Option.bind_eq_some_iff, Prod.exists]

/-- When started from a state in `P`, the program returns with `Q` if it does return. -/
def Ensures (P : σ → Prop) (x : Program σ α) (Q : α → σ → Prop) : Prop :=
  ∀ s a s', P s → x s = some (a, s') → Q a s'

theorem Ensures.pure {Q : α → σ → Prop} (a : α) (h : ∀ s, P s → Q a s) :
    Ensures P (Pure.pure a : Program σ α) Q := by
  intro s a' s' hs hx
  cases hx
  exact h s hs

theorem Ensures.bind {Q : α → σ → Prop} {R : β → σ → Prop} (hx : Ensures P x Q)
    (hf : ∀ a, Ensures (Q a) (f a) R) : Ensures P (x >>= f) R := by
  intro s b s'' hs hrun
  obtain ⟨a, s', hx', hf'⟩ := bind_eq_some.mp hrun
  exact hf a s' b s'' (hx s a s' hs hx') hf'

theorem Ensures.pre {P' : σ → Prop} {Q : α → σ → Prop} (h : Ensures P x Q)
    (hP : ∀ s, P' s → P s) : Ensures P' x Q :=
  fun s a s' hs hx => h s a s' (hP s hs) hx

theorem Ensures.assume {φ : Prop} {P' : σ → Prop} {Q : α → σ → Prop} (hP : ∀ s, P' s → φ ∧ P s)
    (h : φ → Ensures P x Q) : Ensures P' x Q :=
  fun s a s' hs hx => h (hP s hs).1 s a s' (hP s hs).2 hx

abbrev Keeps (P : σ → Prop) (x : Program σ α) : Prop := Ensures P x fun _ => P

theorem Keeps.pure (a : α) : Keeps P (Pure.pure a : Program σ α) :=
  Ensures.pure a fun _ hs => hs

theorem Keeps.bind (hx : Keeps P x) (hf : ∀ a, Keeps P (f a)) : Keeps P (x >>= f) :=
  Ensures.bind hx hf

theorem Keeps.ite {c : Prop} [Decidable c] {y z : Program σ α} (hy : Keeps P y) (hz : Keeps P z) :
    Keeps P (if c then y else z) := by
  split
  · exact hy
  · exact hz

/-- When started from a state in `P`, the program does return, with `Q`. -/
def Returns (P : σ → Prop) (x : Program σ α) (Q : α → σ → Prop) : Prop :=
  ∀ s, P s → ∃ a s', x s = some (a, s') ∧ Q a s'

theorem Returns.bind {Q : α → σ → Prop} {R : β → σ → Prop} (hx : Returns P x Q)
    (hf : ∀ a, Returns (Q a) (f a) R) : Returns P (x >>= f) R := by
  intro s hs
  obtain ⟨a, s', hx', hq⟩ := hx s hs
  obtain ⟨b, s'', hf', hr⟩ := hf a s' hq
  exact ⟨b, s'', bind_eq_some.mpr ⟨a, s', hx', hf'⟩, hr⟩

theorem Returns.pure {Q : α → σ → Prop} (a : α) (h : ∀ s, P s → Q a s) :
    Returns P (Pure.pure a : Program σ α) Q := fun s hs => ⟨a, s, rfl, h s hs⟩

theorem Returns.ite {c : Prop} [Decidable c] {P' : σ → Prop} {y : Program σ α} {Q : α → σ → Prop}
    (hx : c → Returns P x Q) (hy : ¬c → Returns P' y Q) :
    Returns (fun s => if c then P s else P' s) (if c then x else y) Q := by
  split
  · exact hx ‹_›
  · exact hy ‹_›

def Yields (x : Program σ α) (s : σ) (Q : α → σ → Prop) : Prop :=
  ∃ a s', x s = some (a, s') ∧ Q a s'

section Yields

variable {Q : α → σ → Prop} {s : σ}

theorem yields_of_eq {a : α} {s' : σ} (h : x s = some (a, s')) : Yields x s Q ↔ Q a s' := by
  constructor
  · rintro ⟨b, t, hx, hq⟩
    cases h.symm.trans hx
    exact hq
  · exact fun hq => ⟨a, s', h, hq⟩

theorem yields_pure (a : α) : Yields (Pure.pure a : Program σ α) s Q ↔ Q a s := yields_of_eq rfl

theorem yields_failure : ¬ Yields (failure : Program σ α) s Q := fun ⟨_, _, hx, _⟩ => nomatch hx

theorem yields_bind {R : β → σ → Prop} :
    Yields (x >>= f) s R ↔ Yields x s fun a s' => Yields (f a) s' R := by
  constructor
  · rintro ⟨b, s'', hrun, hr⟩
    obtain ⟨a, s', hx, hf⟩ := bind_eq_some.mp hrun
    exact ⟨a, s', hx, b, s'', hf, hr⟩
  · rintro ⟨a, s', hx, b, s'', hf, hr⟩
    exact ⟨b, s'', bind_eq_some.mpr ⟨a, s', hx, hf⟩, hr⟩

theorem yields_bind_of_eq {R : β → σ → Prop} {a : α} {s' : σ} (h : x s = some (a, s')) :
    Yields (x >>= f) s R ↔ Yields (f a) s' R :=
  yields_bind.trans (yields_of_eq h)

end Yields

theorem Returns.assume {φ : Prop} {Q : α → σ → Prop} (h : φ → Returns P x Q) :
    Returns (fun s => φ ∧ P s) x Q :=
  fun s hs => h hs.1 s hs.2

theorem foldlM_range (Inv : Nat → σ → Prop) {turn : σ → Nat → Option σ} {n : Nat} {s : σ}
    (hturn : ∀ k s, k < n → Inv k s → ∃ s', turn s k = some s' ∧ Inv (k + 1) s') (h0 : Inv 0 s) :
    ∃ s', (List.range n).foldlM turn s = some s' ∧ Inv n s' := by
  induction n with
  | zero => exact ⟨s, rfl, h0⟩
  | succ n ih =>
    obtain ⟨mid, hmid, hn⟩ := ih fun k s hk => hturn k s (Nat.lt_succ_of_lt hk)
    obtain ⟨s', hlast, hs'⟩ := hturn n mid (Nat.lt_succ_self n) hn
    refine ⟨s', ?_, hs'⟩
    rw [List.range_succ, List.foldlM_append, hmid]
    show (turn mid n).bind some = some s'
    rw [hlast]
    rfl

theorem foldlM_range_crash {turn : σ → Nat → Option σ} {k n : Nat} (hk : k < n)
    (hcrash : ∀ s, turn s k = none) (s : σ) : (List.range n).foldlM turn s = none := by
  induction n with
  | zero => exact absurd hk (Nat.not_lt_zero k)
  | succ n ih =>
    rw [List.range_succ, List.foldlM_append]
    by_cases hlast : k = n
    · cases (List.range n).foldlM turn s with
      | none => rfl
      | some mid =>
        show (turn mid n).bind some = none
        rw [← hlast, hcrash]
        rfl
    · rw [ih (by omega)]
      rfl

end Program

end EspBridges
