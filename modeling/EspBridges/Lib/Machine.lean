/-! Runs of a deterministic transition system in which an event may be disabled. -/

namespace EspBridges.Machine

variable {σ ε : Type} (step : σ → ε → Option σ)

def run : σ → List ε → Option σ
  | s, [] => some s
  | s, e :: es => (step s e).bind fun s' => run s' es

inductive Reachable (s₀ : σ) : σ → Prop
  | refl : Reachable s₀ s₀
  | step : Reachable s₀ s → step s e = some s' → Reachable s₀ s'

/-- `P` holds in every state a run passes through; a disabled event ends the run. -/
def Always (P : σ → Prop) : σ → List ε → Prop
  | s, [] => P s
  | s, e :: es => P s ∧ ∀ s', step s e = some s' → Always P s' es

/-- Every step a run takes meets `ok`, a condition on the event and the state before it. -/
def Guarded (ok : σ → ε → Prop) : σ → List ε → Prop
  | _, [] => True
  | s, e :: es => ∀ s', step s e = some s' → ok s e ∧ Guarded ok s' es

variable {step}

instance decidableGuarded {ok : σ → ε → Prop} [∀ s e, Decidable (ok s e)] :
    ∀ s es, Decidable (Guarded step ok s es)
  | _, [] => isTrue trivial
  | s, e :: es =>
    match hstep : step s e with
    | none => isTrue fun _ hs => nomatch hstep.symm.trans hs
    | some mid =>
      have : Decidable (Guarded step ok mid es) := decidableGuarded mid es
      decidable_of_iff (ok s e ∧ Guarded step ok mid es)
        ⟨fun h _ hs => Option.some.inj (hstep.symm.trans hs) ▸ h, fun h => h mid hstep⟩

theorem Guarded.forall {ok : σ → ε → Prop} {ok' : ε → Prop} (h : Guarded step ok s es)
    (hall : ∀ e ∈ es, ok' e) : Guarded step (fun s e => ok' e ∧ ok s e) s es := by
  induction es generalizing s with
  | nil => trivial
  | cons e es ih =>
    intro s' hs
    obtain ⟨hhere, hrest⟩ := h s' hs
    exact ⟨⟨hall e (.head _), hhere⟩, ih hrest fun e' he' => hall e' (.tail _ he')⟩

theorem reachable_of_run (h : Reachable step s₀ s) (hr : run step s es = some s') :
    Reachable step s₀ s' := by
  induction es generalizing s with
  | nil =>
    simp only [run, Option.some.injEq] at hr
    exact hr ▸ h
  | cons e es ih =>
    simp only [run, Option.bind_eq_some_iff] at hr
    obtain ⟨mid, hstep, hrest⟩ := hr
    exact ih (h.step hstep) hrest

theorem run_append (s : σ) (es fs : List ε) :
    run step s (es ++ fs) = (run step s es).bind fun s' => run step s' fs := by
  induction es generalizing s with
  | nil => rfl
  | cons e es ih => cases h : step s e <;> simp [run, h, ih]

theorem Reachable.invariant {Inv : σ → Prop} (h : Reachable step s₀ s) (h0 : Inv s₀)
    (hstep : ∀ s e s', Inv s → step s e = some s' → Inv s') : Inv s := by
  induction h with
  | refl => exact h0
  | step _ hs ih => exact hstep _ _ _ ih hs

/-- A state invariant about what `track` has made of the events so far, which is known only
while that fits some bound; a bound that a longer history meets, a shorter one meets too. -/
theorem run_tracks {track : α → ε → α} {fits : α → Prop} {Inv : α → σ → Prop}
    (hfits : ∀ a e, fits (track a e) → fits a)
    (hstep : ∀ a s e s', Inv a s → step s e = some s' → fits (track a e) → Inv (track a e) s')
    (h : Inv a s) (hr : run step s es = some s') (hfit : fits (es.foldl track a)) :
    Inv (es.foldl track a) s' := by
  have shorter : ∀ es a, fits (List.foldl track a es) → fits a := by
    intro es
    induction es with
    | nil => exact fun _ hf => hf
    | cons e es ih => exact fun a hf => hfits a e (ih _ hf)
  induction es generalizing a s with
  | nil =>
    simp only [run, Option.some.injEq] at hr
    exact hr ▸ h
  | cons e es ih =>
    simp only [run, Option.bind_eq_some_iff] at hr
    obtain ⟨mid, hmid, hrest⟩ := hr
    exact ih (hstep a s e mid h hmid (shorter es _ hfit)) hrest hfit

theorem run_follows {track : α → ε → α} {Inv : α → σ → Prop}
    (hstep : ∀ a s e s', Inv a s → step s e = some s' → Inv (track a e) s')
    (h : Inv a s) (hr : run step s es = some s') : Inv (es.foldl track a) s' :=
  @run_tracks _ _ step _ _ _ _ _ track (fun _ => True) Inv (fun _ _ _ => trivial)
    (fun a s e s' hi hs _ => hstep a s e s' hi hs) h hr trivial

theorem run_follows_guarded {ok : σ → ε → Prop} {track : α → ε → α} {Inv : α → σ → Prop}
    (hstep : ∀ a s e s', ok s e → Inv a s → step s e = some s' → Inv (track a e) s')
    (hok : Guarded step ok s es) (h : Inv a s) (hr : run step s es = some s') :
    Inv (es.foldl track a) s' := by
  induction es generalizing a s with
  | nil =>
    simp only [run, Option.some.injEq] at hr
    exact hr ▸ h
  | cons e es ih =>
    simp only [run, Option.bind_eq_some_iff] at hr
    obtain ⟨mid, hmid, hrest⟩ := hr
    obtain ⟨hhere, hlater⟩ := hok mid hmid
    exact ih hlater (hstep a s e mid hhere h hmid) hrest

theorem run_none (h : run step s es = none) :
    ∃ done e left s', es = done ++ e :: left ∧ run step s done = some s' ∧ step s' e = none := by
  induction es generalizing s with
  | nil => exact nomatch h
  | cons e es ih =>
    cases hstep : step s e with
    | none => exact ⟨[], e, es, s, rfl, rfl, hstep⟩
    | some mid =>
      rw [run, hstep, Option.bind_some] at h
      obtain ⟨done, e', left, s', rfl, hdone, hstops⟩ := ih h
      refine ⟨e :: done, e', left, s', rfl, ?_, hstops⟩
      rw [run, hstep, Option.bind_some]
      exact hdone

theorem run_length_le {ok : ε → Prop} {Inv : σ → Prop} {μ : σ → Nat}
    (hstep : ∀ s e s', ok e → Inv s → step s e = some s' → Inv s' ∧ μ s' < μ s)
    (hok : ∀ e ∈ es, ok e) (h : Inv s) (hr : run step s es = some s') :
    Inv s' ∧ es.length + μ s' ≤ μ s := by
  induction es generalizing s with
  | nil =>
    simp only [run, Option.some.injEq] at hr
    exact hr ▸ ⟨h, Nat.le_of_eq (Nat.zero_add _)⟩
  | cons e es ih =>
    simp only [run, Option.bind_eq_some_iff] at hr
    obtain ⟨mid, hmid, hrest⟩ := hr
    obtain ⟨hinv, hless⟩ := hstep s e mid (hok e (.head _)) h hmid
    obtain ⟨hinv', hlength⟩ := ih (fun e' he' => hok e' (.tail _ he')) hinv hrest
    refine ⟨hinv', ?_⟩
    rw [List.length_cons]
    omega

theorem run_idle (h : ∀ e, step s e = some s) (es : List ε) : run step s es = some s := by
  induction es with
  | nil => rfl
  | cons e es ih =>
    rw [run, h e]
    exact ih

theorem foldl_snoc (past es : List ε) : es.foldl (fun past e => past ++ [e]) past = past ++ es := by
  induction es generalizing past with
  | nil => exact (List.append_nil past).symm
  | cons e es ih => rw [List.foldl_cons, ih, ← List.append_cons]

theorem run_history {fits : List ε → Prop} {Inv : List ε → σ → Prop}
    (hfits : ∀ past e, fits (past ++ [e]) → fits past)
    (hstep : ∀ past s e s', Inv past s → step s e = some s' → fits (past ++ [e]) →
      Inv (past ++ [e]) s')
    (h : Inv [] s) (hr : run step s es = some s') (hfit : fits es) : Inv es s' := by
  have hall : es.foldl (fun past e => past ++ [e]) [] = es := foldl_snoc [] es
  rw [← hall] at hfit ⊢
  exact run_tracks hfits hstep h hr hfit

theorem Always.head {P : σ → Prop} (h : Always step P s es) : P s := by
  cases es with
  | nil => exact h
  | cons e es => exact h.1

theorem Always.last {P : σ → Prop} (h : Always step P s es) (hr : run step s es = some s') :
    P s' := by
  induction es generalizing s with
  | nil =>
    simp only [run, Option.some.injEq] at hr
    exact hr ▸ h
  | cons e es ih =>
    simp only [run, Option.bind_eq_some_iff] at hr
    obtain ⟨mid, hstep, hrest⟩ := hr
    exact ih (h.2 mid hstep) hrest

/-- When `ok` says exactly which steps keep `P`, a run stays in `P` just in case all its
steps meet `ok`.  `Inv` is what is known of every state, whether the steps meet `ok` or not. -/
theorem always_iff_guarded (Inv : σ → Prop) {P : σ → Prop} {ok : σ → ε → Prop}
    (hinv : ∀ s e s', Inv s → step s e = some s' → Inv s')
    (hstep : ∀ s e s', Inv s → P s → step s e = some s' → (P s' ↔ ok s e))
    (hi : Inv s) (h0 : P s) : Always step P s es ↔ Guarded step ok s es := by
  induction es generalizing s with
  | nil => exact iff_of_true h0 trivial
  | cons e es ih =>
    constructor
    · intro h s' hs
      have hrest := h.2 s' hs
      exact ⟨(hstep s e s' hi h0 hs).mp hrest.head,
        (ih (hinv s e s' hi hs) hrest.head).mp hrest⟩
    · intro h
      refine ⟨h0, fun s' hs => ?_⟩
      obtain ⟨hok, hrest⟩ := h s' hs
      have hP : P s' := (hstep s e s' hi h0 hs).mpr hok
      exact (ih (hinv s e s' hi hs) hP).mpr hrest

theorem guarded_congr (Inv : σ → Prop) {ok ok' : σ → ε → Prop}
    (hok : ∀ s e s', Inv s → step s e = some s' → (ok s e ↔ ok' s e))
    (hinv : ∀ s e s', Inv s → ok' s e → step s e = some s' → Inv s') (hi : Inv s) :
    Guarded step ok s es ↔ Guarded step ok' s es := by
  induction es generalizing s with
  | nil => exact Iff.rfl
  | cons e es ih =>
    constructor
    · intro h s' hs
      obtain ⟨hhere, hrest⟩ := h s' hs
      have hhere' := (hok s e s' hi hs).mp hhere
      exact ⟨hhere', (ih (hinv s e s' hi hhere' hs)).mp hrest⟩
    · intro h s' hs
      obtain ⟨hhere', hrest⟩ := h s' hs
      exact ⟨(hok s e s' hi hs).mpr hhere', (ih (hinv s e s' hi hhere' hs)).mpr hrest⟩

/-- When a step keeps `P` just in case what `track` makes of it still fits, a run stays in `P`
just in case all of its events together fit. -/
theorem always_iff_fits {track : α → ε → α} {fits : α → Prop} {Inv : α → σ → Prop} {P : σ → Prop}
    (hfits : ∀ a e, fits (track a e) → fits a)
    (hstep : ∀ a s e s', Inv a s → P s → fits a → step s e = some s' →
      Inv (track a e) s' ∧ (P s' ↔ fits (track a e)))
    (hi : Inv a s) (h0 : P s) (hfit : fits a) (hr : run step s es = some s') :
    Always step P s es ↔ fits (es.foldl track a) := by
  have shorter : ∀ es a, fits (List.foldl track a es) → fits a := by
    intro es
    induction es with
    | nil => exact fun _ hf => hf
    | cons e es ih => exact fun a hf => hfits a e (ih _ hf)
  induction es generalizing a s with
  | nil => exact iff_of_true h0 hfit
  | cons e es ih =>
    simp only [run, Option.bind_eq_some_iff] at hr
    obtain ⟨mid, hmid, hrest⟩ := hr
    obtain ⟨hi', hP⟩ := hstep a s e mid hi h0 hfit hmid
    constructor
    · intro h
      have htail := h.2 mid hmid
      exact (ih hi' htail.head (hP.mp htail.head) hrest).mp htail
    · intro h
      have hfit' := shorter es _ h
      refine ⟨h0, fun s' hs => ?_⟩
      rw [hmid] at hs
      obtain rfl := Option.some.inj hs
      exact (ih hi' (hP.mpr hfit') hfit' hrest).mpr h

end EspBridges.Machine
