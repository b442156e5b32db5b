import EspBridges.Icom.Wifi

namespace EspBridges.Icom

open SystemEventId

def Link.after (es : List SystemEvent) : Link := es.foldl wifiEventHandler .boot

def SystemEventId.ofConnection : SystemEventId → Bool
  | systemEventStaGotIp => true
  | systemEventStaDisconnected => true
  | _ => false

def latest (es : List SystemEvent) : Option SystemEventId :=
  ((es.map SystemEvent.eventId).filter ofConnection).getLast?

def Link.reconnects (l : Link) : Nat := l.connects.count systemEventStaDisconnected

def SystemEvent.StartsClient (e : SystemEvent) : Prop :=
  e.eventId = systemEventStaGotIp ∧ e.created = true ∧ e.started = true

instance : DecidablePred SystemEvent.StartsClient := fun _ =>
  inferInstanceAs (Decidable (_ ∧ _ ∧ _))

structure LinkRight (es : List SystemEvent) : Prop where
  bit : (Link.after es).wifiConnectedBit = true ↔ latest es = some systemEventStaGotIp
  retries : ∀ past since, es = past ++ since → (∀ e ∈ since, e.eventId ≠ systemEventStaGotIp) →
    (Link.after es).reconnects ≤ (Link.after past).reconnects + exampleEspMaximumRetry
  client : (Link.after es).clients.count true ≤ 1

theorem after_append (past since : List SystemEvent) :
    Link.after (past ++ since) = since.foldl wifiEventHandler (Link.after past) := List.foldl_append

section Step

variable {past : List SystemEvent} {l : Link} (e : SystemEvent)

theorem latest_snoc : latest (past ++ [e]) =
    if e.eventId.ofConnection then some e.eventId else latest past := by
  unfold latest
  rw [List.map_append, List.filter_append, List.map_singleton, List.filter_cons]
  cases e.eventId.ofConnection with
  | true => exact List.getLast?_concat
  | false => exact congrArg List.getLast? (List.append_nil _)

/-- With the connection no retry is counted, so that the next break of it clears the bit. -/
structure Linked (past : List SystemEvent) (l : Link) : Prop where
  bit : l.wifiConnectedBit = true ↔ latest past = some systemEventStaGotIp
  counted : l.wifiConnectedBit = true → l.sRetryNum = 0
  bounded : l.sRetryNum ≤ exampleEspMaximumRetry

theorem mqttAppStart_link (l : Link) : (mqttAppStart e l).sRetryNum = l.sRetryNum ∧
    (mqttAppStart e l).wifiConnectedBit = l.wifiConnectedBit ∧
      (mqttAppStart e l).connects = l.connects := by
  unfold mqttAppStart
  split
  · exact ⟨rfl, rfl, rfl⟩
  · exact ⟨rfl, rfl, rfl⟩

theorem Linked.step (h : Linked past l) : Linked (past ++ [e]) (wifiEventHandler l e) := by
  have hlatest : latest (past ++ [e]) = _ := latest_snoc e
  unfold wifiEventHandler
  cases hid : e.eventId with
  | systemEventStaStart =>
    rw [hid] at hlatest
    exact ⟨by rw [hlatest]; exact h.bit, h.counted, h.bounded⟩
  | systemEventStaGotIp =>
    rw [hid] at hlatest
    obtain ⟨hretry, hbit, -⟩ :=
      mqttAppStart_link e { l with sRetryNum := 0, wifiConnectedBit := true }
    refine ⟨iff_of_true hbit hlatest, fun _ => hretry, ?_⟩
    dsimp only
    rw [hretry]
    exact Nat.zero_le _
  | systemEventStaDisconnected =>
    rw [hid] at hlatest
    dsimp only
    split
    · rename_i hretry
      exact ⟨by rw [hlatest]; exact iff_of_false nofun nofun, nofun, hretry⟩
    · rename_i hretry
      have hbit : l.wifiConnectedBit ≠ true := fun hset => hretry (by rw [h.counted hset]; decide)
      exact ⟨by rw [hlatest]; exact iff_of_false hbit nofun, h.counted, h.bounded⟩
  | other =>
    rw [hid] at hlatest
    exact ⟨by rw [hlatest]; exact h.bit, h.counted, h.bounded⟩

theorem reconnects_counted (hid : e.eventId ≠ systemEventStaGotIp) :
    (wifiEventHandler l e).reconnects + l.sRetryNum =
      l.reconnects + (wifiEventHandler l e).sRetryNum := by
  unfold wifiEventHandler Link.reconnects
  cases hid' : e.eventId with
  | systemEventStaStart =>
    rw [List.count_append]
    rfl
  | systemEventStaGotIp => exact absurd hid' hid
  | systemEventStaDisconnected =>
    dsimp only
    split
    · rw [List.count_append, List.count_singleton_self]
      dsimp only
      omega
    · rfl
  | other => rfl

theorem clients_step : (wifiEventHandler l e).clients.count true =
    l.clients.count true + if e.StartsClient then 1 else 0 := by
  obtain ⟨id, created, started⟩ := e
  unfold wifiEventHandler mqttAppStart
  cases id with
  | systemEventStaStart => rfl
  | systemEventStaGotIp =>
    cases created with
    | false => rfl
    | true =>
      show (l.clients ++ [started]).count true = _
      rw [List.count_append]
      cases started with
      | false => rfl
      | true => rfl
  | systemEventStaDisconnected =>
    dsimp only
    split
    · rfl
    · rfl
  | other => rfl

end Step

section Runs

theorem linked_run (es : List SystemEvent) {past : List SystemEvent} {l : Link} (h : Linked past l) :
    Linked (past ++ es) (es.foldl wifiEventHandler l) := by
  induction es generalizing past l with
  | nil =>
    rw [List.append_nil]
    exact h
  | cons e es ih =>
    rw [List.append_cons]
    exact ih (h.step e)

theorem linked_after (es : List SystemEvent) : Linked es (Link.after es) :=
  linked_run es (show Linked [] .boot from ⟨iff_of_false nofun nofun, nofun, Nat.zero_le _⟩)

theorem reconnects_run {since : List SystemEvent}
    (h : ∀ e ∈ since, e.eventId ≠ systemEventStaGotIp) (l : Link) :
    (since.foldl wifiEventHandler l).reconnects + l.sRetryNum =
      l.reconnects + (since.foldl wifiEventHandler l).sRetryNum := by
  induction since generalizing l with
  | nil => rfl
  | cons e es ih =>
    have hstep := reconnects_counted (l := l) e (h e List.mem_cons_self)
    have hrest := ih (fun e he => h e (List.mem_cons_of_mem _ he)) (wifiEventHandler l e)
    rw [List.foldl_cons]
    omega

theorem clients_run (es : List SystemEvent) (l : Link) :
    (es.foldl wifiEventHandler l).clients.count true =
      l.clients.count true + es.countP fun e => e.StartsClient := by
  induction es generalizing l with
  | nil => rfl
  | cons e es ih =>
    rw [List.foldl_cons, ih, clients_step, List.countP_cons]
    simp only [decide_eq_true_eq]
    omega

/-- The bit and the retries are always right; the clients are as long as one address at most makes
a client and starts it. -/
theorem link_right_iff (es : List SystemEvent) :
    (∀ past rest, es = past ++ rest → LinkRight past) ↔
      (es.countP fun e => e.StartsClient) ≤ 1 := by
  have hclients : ∀ es, (Link.after es).clients.count true = es.countP fun e => e.StartsClient :=
    fun es => (clients_run es .boot).trans (Nat.zero_add _)
  constructor
  · intro h
    rw [← hclients]
    exact (h es [] (List.append_nil es).symm).client
  · rintro h past rest rfl
    refine ⟨(linked_after past).bit, ?_, ?_⟩
    · rintro past since rfl hsince
      have hcount := reconnects_run hsince (Link.after past)
      have hbound := (linked_after (past ++ since)).bounded
      rw [after_append] at hbound ⊢
      omega
    · rw [List.countP_append] at h
      rw [hclients]
      omega

def reconnection : List SystemEvent :=
  [⟨systemEventStaGotIp, true, true⟩, ⟨systemEventStaDisconnected, true, true⟩,
    ⟨systemEventStaGotIp, true, true⟩]

/-- A connection that breaks and comes back with another address makes two clients. -/
theorem reconnection_twoClients :
    ¬ ∀ es : List SystemEvent, ∀ past rest, es = past ++ rest → LinkRight past := by
  intro h
  have hclient := (h reconnection reconnection [] rfl).client
  exact absurd hclient (by decide)

end Runs

end EspBridges.Icom
