import EspBridges.Lib.Program

namespace EspBridges

/-- `failing` says which allocations will fail; the block of one that does not is new. -/
structure Heap where
  live : Nat → Bool
  next : Nat
  failing : Nat → Bool
  fresh : ∀ b, live b = true → b < next

abbrev Ptr := Option Nat

namespace Heap

def malloc : Program Heap Ptr := fun h =>
  if h.failing h.next then
    some (none, { h with next := h.next + 1, fresh := fun b hb => Nat.lt_succ_of_lt (h.fresh b hb) })
  else
    some (some h.next, { h with
      live := fun c => c == h.next || h.live c
      next := h.next + 1
      fresh := fun b hb => by
        rw [Bool.or_eq_true, beq_iff_eq] at hb
        rcases hb with rfl | hb
        · exact Nat.lt_succ_self _
        · exact Nat.lt_succ_of_lt (h.fresh b hb) })

def free : Ptr → Program Heap Unit
  | none => pure ()
  | some b => fun h =>
    if h.live b then
      some ((), { h with
        live := fun c => c != b && h.live c
        fresh := fun c hc => h.fresh c (Bool.and_eq_true_iff.mp hc).2 })
    else none

structure Gained (bs : List Nat) (h h' : Heap) : Prop where
  nodup : bs.Nodup
  live : ∀ c, h'.live c = true ↔ h.live c = true ∨ c ∈ bs
  new : ∀ c ∈ bs, h.live c = false
  failing : h'.failing = h.failing

section Rules

variable {bs bs' : List Nat} {h₀ h : Heap}

theorem Gained.refl (h : Heap) : Gained [] h h :=
  ⟨.nil, fun _ => ⟨.inl, fun hc => hc.elim id fun hmem => absurd hmem List.not_mem_nil⟩,
    fun _ hmem => absurd hmem List.not_mem_nil, rfl⟩

theorem Gained.perm (hg : Gained bs h₀ h) (hperm : bs.Perm bs') : Gained bs' h₀ h :=
  ⟨hperm.nodup_iff.mp hg.nodup, fun c => (hg.live c).trans (or_congr Iff.rfl hperm.mem_iff),
    fun c hmem => hg.new c (hperm.mem_iff.mpr hmem), hg.failing⟩

theorem malloc_gains : Program.Returns (Gained bs h₀) malloc fun p => Gained (p.toList ++ bs) h₀ := by
  intro h hg
  unfold malloc
  by_cases hfail : h.failing h.next = true
  · rw [if_pos hfail]
    exact ⟨none, _, rfl, hg.nodup, hg.live, hg.new, hg.failing⟩
  · rw [if_neg hfail]
    have hdead : h.live h.next ≠ true := fun hlive => Nat.lt_irrefl _ (h.fresh _ hlive)
    have hnot : h.next ∉ bs := fun hmem => hdead ((hg.live _).mpr (.inr hmem))
    refine ⟨some h.next, _, rfl, List.nodup_cons.mpr ⟨hnot, hg.nodup⟩, fun c => ?_, fun c hmem => ?_,
      hg.failing⟩
    · show (c == h.next || h.live c) = true ↔ h₀.live c = true ∨ c ∈ h.next :: bs
      rw [Bool.or_eq_true, beq_iff_eq, hg.live c, List.mem_cons]
      exact or_left_comm
    · rcases List.mem_cons.mp hmem with rfl | hmem
      · exact Bool.eq_false_iff.mpr fun hlive => hdead ((hg.live _).mpr (.inl hlive))
      · exact hg.new c hmem

theorem malloc_none {h' : Heap} (hnone : malloc h = some (none, h')) : h.failing h.next = true := by
  unfold malloc at hnone
  split at hnone
  · assumption
  · exact nomatch (Prod.mk.inj (Option.some.inj hnone)).1

theorem free_loses (p : Ptr) :
    Program.Returns (Gained (p.toList ++ bs) h₀) (free p) fun _ => Gained bs h₀ := by
  intro h hg
  cases p with
  | none => exact ⟨(), h, rfl, hg⟩
  | some b =>
    have hcons : Gained (b :: bs) h₀ h := hg
    have hlive : h.live b = true := (hcons.live b).mpr (.inr (.head _))
    obtain ⟨hnot, hnodup⟩ := List.nodup_cons.mp hcons.nodup
    unfold free
    dsimp only
    rw [if_pos hlive]
    refine ⟨(), _, rfl, hnodup, fun c => ?_, fun c hmem => hcons.new c (.tail _ hmem), hcons.failing⟩
    show (c != b && h.live c) = true ↔ h₀.live c = true ∨ c ∈ bs
    rw [Bool.and_eq_true, bne_iff_ne, hcons.live c, List.mem_cons]
    constructor
    · rintro ⟨hne, hold | hhere | hmem⟩
      · exact .inl hold
      · exact absurd hhere hne
      · exact .inr hmem
    · rintro (hold | hmem)
      · refine ⟨?_, .inl hold⟩
        rintro rfl
        rw [hcons.new c (.head _)] at hold
        exact Bool.false_ne_true hold
      · refine ⟨?_, .inr (.inr hmem)⟩
        rintro rfl
        exact hnot hmem

/-- The next `n` allocations do not fail. -/
def Spared (h : Heap) (n : Nat) : Prop := ∀ k, k < n → h.failing (h.next + k) = false

theorem Spared.mono {m n : Nat} (hspared : h.Spared n) (hle : m ≤ n) : h.Spared m :=
  fun k hk => hspared k (Nat.lt_of_lt_of_le hk hle)

structure Served (n : Nat) (bs : List Nat) (h h' : Heap) : Prop extends Gained bs h h' where
  next : h'.next = h.next + n
  spared : h.Spared n

theorem Served.refl (h : Heap) : Served 0 [] h h :=
  ⟨.refl h, rfl, fun k hk => absurd hk (Nat.not_lt_zero k)⟩

theorem malloc_serves {n : Nat} : Program.Returns (Served n bs h₀) malloc fun p h =>
    if p.isSome then Served (n + 1) (p.toList ++ bs) h₀ h else ¬h₀.Spared (n + 1) ∧ Gained bs h₀ h := by
  rintro h ⟨hg, hnext, hspared⟩
  obtain ⟨p, h', hmalloc, hg'⟩ := malloc_gains h hg
  refine ⟨p, h', hmalloc, ?_⟩
  unfold malloc at hmalloc
  by_cases hfail : h.failing h.next = true
  · rw [if_pos hfail] at hmalloc
    obtain ⟨rfl, rfl⟩ := Prod.mk.inj (Option.some.inj hmalloc)
    refine ⟨fun hall => ?_, hg'⟩
    have hlast := hall n (Nat.lt_succ_self n)
    rw [← hnext, ← hg.failing, hfail] at hlast
    exact Bool.noConfusion hlast
  · rw [if_neg hfail] at hmalloc
    obtain ⟨rfl, rfl⟩ := Prod.mk.inj (Option.some.inj hmalloc)
    refine ⟨hg', (congrArg (· + 1) hnext).trans (Nat.add_assoc _ n 1), fun k hk => ?_⟩
    rcases Nat.lt_succ_iff_lt_or_eq.mp hk with hlt | rfl
    · exact hspared k hlt
    · rw [← hnext, ← hg.failing]
      exact Bool.eq_false_iff.mpr hfail

end Rules

end Heap

end EspBridges
