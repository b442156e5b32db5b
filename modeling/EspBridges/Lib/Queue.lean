namespace EspBridges

structure Fifo (α : Type u) where
  capacity : Nat
  items : List α
  bounded : items.length ≤ capacity

namespace Fifo

variable {α : Type u}

def create (capacity : Nat) : Fifo α := ⟨capacity, [], Nat.zero_le capacity⟩

def send (q : Fifo α) (a : α) : Option (Fifo α) :=
  if h : q.items.length < q.capacity then
    some ⟨q.capacity, q.items ++ [a], by rw [List.length_append]; exact h⟩
  else none

def receive (q : Fifo α) : Option (α × Fifo α) :=
  match q with
  | ⟨_, [], _⟩ => none
  | ⟨capacity, a :: rest, h⟩ => some (a, ⟨capacity, rest, Nat.le_of_succ_le h⟩)

@[simp] theorem create_items (capacity : Nat) : (create capacity : Fifo α).items = [] := rfl

theorem send_eq_some {q q' : Fifo α} {a : α} (h : q.send a = some q') :
    q.items.length < q.capacity ∧ q'.capacity = q.capacity ∧ q'.items = q.items ++ [a] := by
  unfold send at h
  split at h
  · cases h
    exact ⟨‹_›, rfl, rfl⟩
  · cases h

theorem send_eq_none {q : Fifo α} {a : α} : q.send a = none ↔ q.capacity ≤ q.items.length := by
  unfold send
  split
  · exact iff_of_false (Option.some_ne_none _) (Nat.not_le.mpr ‹_›)
  · exact iff_of_true rfl (Nat.not_lt.mp ‹_›)

theorem receive_eq_some {q q' : Fifo α} {a : α} (h : q.receive = some (a, q')) :
    q'.capacity = q.capacity ∧ q.items = a :: q'.items := by
  match q, h with
  | ⟨_, _ :: _, _⟩, h =>
    cases h
    exact ⟨rfl, rfl⟩

theorem receive_cons {q : Fifo α} {a : α} {rest : List α} (h : q.items = a :: rest) :
    ∃ q' : Fifo α, q'.items = rest ∧ q.receive = some (a, q') := by
  obtain ⟨capacity, items, hbound⟩ := q
  obtain rfl : items = a :: rest := h
  exact ⟨_, rfl, rfl⟩

/-- What went into a queue, and what came out, on the way from one state to another. -/
inductive Moves (q₀ : Fifo α) : List α → List α → Fifo α → Prop
  | refl : Moves q₀ [] [] q₀
  | send : Moves q₀ sent received q → q.send a = some q' → Moves q₀ (sent ++ [a]) received q'
  | receive : Moves q₀ sent received q → q.receive = some (a, q') →
      Moves q₀ sent (received ++ [a]) q'

variable {q₀ q : Fifo α} {sent received : List α}

theorem Moves.conservation (h : Moves q₀ sent received q) :
    q₀.items ++ sent = received ++ q.items := by
  induction h with
  | refl => rw [List.append_nil, List.nil_append]
  | send _ hs ih => rw [← List.append_assoc, ih, List.append_assoc, (send_eq_some hs).2.2]
  | receive _ hr ih => rw [ih, (receive_eq_some hr).2, List.append_assoc]; rfl

end Fifo

end EspBridges
