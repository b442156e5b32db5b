import EspBridges.Icom.HealthPing

namespace EspBridges.Icom

open Bytes

section Queue

def Queued (n : Nat) (hs : Handles) : Prop :=
  ∃ q, hs .icomCloudTaskQueue = some q ∧ q.itemSize = sizeofIcomIpcMsg ∧ q.fifo.capacity = 10 ∧
    q.fifo.items = List.replicate n pingMsg.bytes

variable {n : Nat} {hs hs' : Handles}

theorem created_queued (hs : Handles) : Queued 0 (icomCreateTaskQueue icomTaskIdCloudMgr hs).2 :=
  ⟨xQueueCreate 10 sizeofIcomIpcMsg, hs.set_self .icomCloudTaskQueue _, rfl, rfl, rfl⟩

theorem Queued.le (h : Queued n hs) : n ≤ 10 := by
  obtain ⟨q, -, -, hcapacity, hitems⟩ := h
  have hbound := q.fifo.bounded
  rwa [hitems, List.length_replicate, hcapacity] at hbound

theorem xQueueSend_eq_none {q : XQueue} {source : Nat → Byte} (h : xQueueSend q source = none) :
    q.fifo.capacity ≤ q.fifo.items.length := by
  unfold xQueueSend at h
  split at h
  · exact Fifo.send_eq_none.mp ‹_›
  · cases h

theorem Queued.ping (h : Queued n hs) : ∃ hs', icomHealthpingTimerCallback hs = some (0, hs') ∧
    Queued (if n < 10 then n + 1 else n) hs' := by
  obtain ⟨q, hq, hsize, hcapacity, hitems⟩ := h
  have hcall : icomHealthpingTimerCallback hs =
      (sendTo .icomCloudTaskQueue pingMsg hs).map fun done => (0, done.2) := rfl
  rw [hcall]
  unfold sendTo
  rw [hq]
  dsimp only
  cases hsend : xQueueSend q fun i => pingMsg.bytes.getD i 0 with
  | none =>
    have hfull := xQueueSend_eq_none hsend
    rw [hcapacity, hitems, List.length_replicate] at hfull
    refine ⟨hs, rfl, ?_⟩
    rw [if_neg (Nat.not_lt.mpr hfull)]
    exact ⟨q, hq, hsize, hcapacity, hitems⟩
  | some q' =>
    obtain ⟨hsize', hfifo⟩ := xQueueSend_eq_some hsend
    obtain ⟨hroom, hcapacity', hitems'⟩ := Fifo.send_eq_some hfifo
    rw [hcapacity, hitems, List.length_replicate] at hroom
    refine ⟨_, rfl, ?_⟩
    rw [if_pos hroom]
    refine ⟨q', hs.set_self .icomCloudTaskQueue q', hsize'.trans hsize, hcapacity'.trans hcapacity, ?_⟩
    rw [hitems', hitems, hsize, IcomIpcMsg.map_bytes, List.replicate_succ']

theorem ping_null (h : hs .icomCloudTaskQueue = none) : icomHealthpingTimerCallback hs = none := by
  have hcall : icomHealthpingTimerCallback hs =
      (sendTo .icomCloudTaskQueue pingMsg hs).map fun done => (0, done.2) := rfl
  rw [hcall, sendTo, h]
  rfl

theorem Queued.turn (h : Queued n hs) {opcode : Byte} (hturn : cloudTurn hs = some (opcode, hs')) :
    opcode = ipcOpcodePing ∧ ∃ m, n = m + 1 ∧ Queued m hs' := by
  obtain ⟨q, hq, hsize, hcapacity, hitems⟩ := h
  obtain ⟨⟨received, after⟩, hrecv, heq⟩ := Option.map_eq_some_iff.mp hturn
  obtain ⟨rfl, rfl⟩ := Prod.mk.inj heq
  have hcloud : recvFrom .icomCloudTaskQueue .pIpcMsg .zero hs = some (received, after) := hrecv
  obtain ⟨q₁, item, q', hq₁, htake, rfl, rfl⟩ := recvFrom_cases hcloud
  obtain rfl := Option.some.inj (hq.symm.trans hq₁)
  obtain ⟨hsize', hfifo⟩ := xQueueReceive_eq_some htake
  obtain ⟨hcapacity', hcons⟩ := Fifo.receive_eq_some hfifo
  rw [hitems] at hcons
  cases n with
  | zero => exact absurd hcons (List.cons_ne_nil _ _).symm
  | succ m =>
    obtain ⟨hitem, hrest⟩ := List.cons.inj hcons
    refine ⟨?_, m, rfl, q', hs.set_self .icomCloudTaskQueue q', hsize'.trans hsize,
      hcapacity'.trans hcapacity, hrest.symm⟩
    rw [← hitem]
    rfl

theorem cloud_apart {call : Observed} (hother : call.taskId ≠ icomTaskIdCloudMgr)
    (h : Icom.step hs call = some hs') : hs' .icomCloudTaskQueue = hs .icomCloudTaskQueue :=
  step_frame h fun hown => hother (taskQueue?_injective hown rfl)

end Queue

structure Pings where
  serves : Bool
  waiting : Nat
  lost : Nat
  shown : Nat
  crashed : Bool

namespace Pings

def start : Pings := ⟨false, 0, 0, 0, false⟩

def follow (p : Pings) : PingEvent → Pings
  | .expiry =>
    if ¬p.serves then { p with crashed := true }
    else if p.waiting < 10 then { p with waiting := p.waiting + 1 }
    else { p with lost := p.lost + 1 }
  | .cloud =>
    if p.serves then { p with waiting := p.waiting - 1, shown := p.shown + 1 }
    else { p with serves := true }
  | .init _ | .spawn | .other _ => p

section Follow

variable {p : Pings}

theorem follow_early (h : ¬p.serves) : p.follow .expiry = { p with crashed := true } := if_pos h

theorem follow_queued (h : p.serves) (hroom : p.waiting < 10) :
    p.follow .expiry = { p with waiting := p.waiting + 1 } :=
  (if_neg fun hnot => hnot h).trans (if_pos hroom)

theorem follow_lost (h : p.serves) (hfull : ¬p.waiting < 10) :
    p.follow .expiry = { p with lost := p.lost + 1 } :=
  (if_neg fun hnot => hnot h).trans (if_neg hfull)

theorem follow_shown (h : p.serves) :
    p.follow .cloud = { p with waiting := p.waiting - 1, shown := p.shown + 1 } := if_pos h

theorem follow_serves (h : ¬p.serves) : p.follow .cloud = { p with serves := true } := if_neg h

end Follow

end Pings

section Runs

def PingTimer.Ticks (t : PingTimer) : Prop :=
  t.timeout = 30 ∧ t.repeatFlag = 1 ∧ t.running = some 30000000

structure Counted (p : Pings) (s : HealthPing) : Prop where
  crashed : s.crashed = p.crashed
  serves : s.cloudServes = p.serves
  printed : s.printed = List.replicate p.shown ipcOpcodePing
  queue : if p.serves then Queued p.waiting s.hs
    else s.hs .icomCloudTaskQueue = none ∧ p.waiting = 0
  ticks : s.crashed = false → ∀ timer, s.pMainTaskTimer = some timer → timer.Ticks

variable {p : Pings} {s s' : HealthPing}

theorem boot_counted : Counted .start .boot :=
  ⟨rfl, rfl, rfl, ⟨rfl, rfl⟩, fun _ _ h => absurd h (Option.some_ne_none _).symm⟩

theorem start_stopped (timerId : UInt16) (timeout : UInt32) (repeatFlag : Byte) :
    PingTimer.start ⟨timerId, timeout, repeatFlag, none⟩ 30 1 =
      some ⟨timerId, 30, 1, some 30000000⟩ := by
  have hgiven : (localTimeout 30).toInt64.toUInt64 = 30000000 := by decide
  rw [PingTimer.start, hgiven]
  rfl

theorem PingTimer.Ticks.expire {t : PingTimer} (h : t.Ticks) (hs : Handles) :
    t.expire hs = (icomHealthpingTimerCallback hs).map fun done => (t, done.2) := by
  obtain ⟨timerId, timeout, repeatFlag, running⟩ := t
  obtain ⟨rfl, rfl, rfl⟩ := h
  unfold PingTimer.expire
  cases icomHealthpingTimerCallback hs with
  | none => rfl
  | some done =>
    show (PingTimer.start ⟨timerId, 30, 1, none⟩ 30 1).map (·, done.2) = _
    rw [start_stopped]
    rfl

theorem Counted.expiry (h : Counted p s) (hs : s.crashed = false) (hstep : s.expiry = some s') :
    Counted (p.follow .expiry) s' := by
  obtain ⟨timer, htimer, hrest⟩ := Option.bind_eq_some_iff.mp hstep
  have hticks := h.ticks hs timer htimer
  have hqueue := h.queue
  rw [hticks.2.2, if_pos Option.isSome_some, hticks.expire] at hrest
  by_cases hserves : p.serves
  · rw [if_pos hserves] at hqueue
    obtain ⟨after, hping, hafter⟩ := hqueue.ping
    rw [hping] at hrest
    obtain rfl := Option.some.inj hrest
    have hagain : ∀ timer', some timer = some timer' → timer'.Ticks :=
      fun _ htimer' => Option.some.inj htimer' ▸ hticks
    by_cases hroom : p.waiting < 10
    · rw [Pings.follow_queued hserves hroom]
      rw [if_pos hroom] at hafter
      refine ⟨h.crashed, h.serves, h.printed, ?_, fun _ => hagain⟩
      exact (if_pos hserves).mpr hafter
    · rw [Pings.follow_lost hserves hroom]
      rw [if_neg hroom] at hafter
      refine ⟨h.crashed, h.serves, h.printed, ?_, fun _ => hagain⟩
      exact (if_pos hserves).mpr hafter
  · rw [if_neg hserves] at hqueue
    rw [ping_null hqueue.1] at hrest
    obtain rfl := Option.some.inj hrest
    rw [Pings.follow_early hserves]
    refine ⟨rfl, h.serves, h.printed, ?_, fun hnot => absurd hnot.symm Bool.false_ne_true⟩
    rw [if_neg hserves]
    exact hqueue

theorem Counted.cloud (h : Counted p s) (hstep : s.cloud = some s') :
    Counted (p.follow .cloud) s' := by
  obtain ⟨-, hturn⟩ := Option.ite_none_right_eq_some.mp hstep
  have hqueue := h.queue
  by_cases hserves : p.serves
  · rw [if_pos hserves] at hqueue
    rw [if_pos (h.serves.trans hserves)] at hturn
    obtain ⟨⟨opcode, after⟩, htaken, rfl⟩ := Option.map_eq_some_iff.mp hturn
    obtain ⟨rfl, m, hm, hafter⟩ := hqueue.turn htaken
    rw [Pings.follow_shown hserves]
    refine ⟨h.crashed, h.serves, ?_, ?_, h.ticks⟩
    · show s.printed ++ [ipcOpcodePing] = List.replicate (p.shown + 1) ipcOpcodePing
      rw [h.printed, List.replicate_succ']
    · show if p.serves then Queued (p.waiting - 1) after else _
      rw [if_pos hserves, hm]
      exact hafter
  · rw [if_neg fun hs => hserves (h.serves.symm.trans hs)] at hturn
    obtain rfl := Option.some.inj hturn
    rw [Pings.follow_serves hserves]
    rw [if_neg hserves] at hqueue
    refine ⟨h.crashed, rfl, h.printed, ?_, h.ticks⟩
    show Queued p.waiting _
    rw [hqueue.2]
    exact created_queued s.hs

theorem Counted.init (h : Counted p s) {allocated : Bool} (hstep : s.init allocated = some s') :
    Counted (p.follow (.init allocated)) s' := by
  obtain ⟨-, hinit⟩ := Option.ite_none_right_eq_some.mp hstep
  obtain ⟨⟨rc, after⟩, hmade, rfl⟩ := Option.map_eq_some_iff.mp hinit
  have hsame : (icomCreateTaskQueue icomTaskIdMain s.hs).2 .icomCloudTaskQueue =
      s.hs .icomCloudTaskQueue := by
    show s.hs.set .mainTaskQueue (xQueueCreate 10 sizeofIcomIpcMsg) .icomCloudTaskQueue = _
    exact s.hs.set_ne _ (by decide)
  have hqueue : if p.serves then Queued p.waiting (icomCreateTaskQueue icomTaskIdMain s.hs).2
      else (icomCreateTaskQueue icomTaskIdMain s.hs).2 .icomCloudTaskQueue = none ∧ p.waiting = 0 := by
    unfold Queued
    rw [hsame]
    exact h.queue
  unfold icomMainTaskInit at hmade
  split at hmade
  · obtain ⟨-, rfl⟩ := Prod.mk.inj (Option.some.inj hmade)
    exact ⟨h.crashed, h.serves, h.printed, hqueue,
      fun _ _ hnone => absurd hnone (Option.some_ne_none _).symm⟩
  · rw [start_stopped] at hmade
    obtain ⟨-, rfl⟩ := Prod.mk.inj (Option.some.inj hmade)
    refine ⟨h.crashed, h.serves, h.printed, hqueue, fun _ timer htimer => ?_⟩
    obtain rfl := Option.some.inj htimer
    exact ⟨rfl, rfl, rfl⟩

theorem Counted.step {e : PingEvent} (h : Counted p s) (hstep : s.step e = some s') :
    Counted (p.follow e) s' := by
  simp only [HealthPing.step, Option.ite_none_left_eq_some] at hstep
  obtain ⟨hrunning, hstep⟩ := hstep
  have hs : s.crashed = false := Bool.eq_false_iff.mpr hrunning
  cases e with
  | init allocated => exact h.init hstep
  | spawn =>
    obtain ⟨-, hspawned⟩ := Option.ite_none_right_eq_some.mp hstep
    obtain rfl := Option.some.inj hspawned
    exact ⟨h.crashed, h.serves, h.printed, h.queue, h.ticks⟩
  | expiry => exact h.expiry hs hstep
  | cloud => exact h.cloud hstep
  | other call =>
    obtain ⟨hother, hstep⟩ := Option.ite_none_left_eq_some.mp hstep
    obtain ⟨after, hcall, rfl⟩ := Option.map_eq_some_iff.mp hstep
    have hsame := cloud_apart hother hcall
    refine ⟨h.crashed, h.serves, h.printed, ?_, h.ticks⟩
    unfold Queued Pings.follow
    dsimp only
    rw [hsame]
    exact h.queue

def PingEvent.isExpiry : PingEvent → Bool
  | .expiry => true
  | _ => false

def expiries (es : List PingEvent) : Nat := (es.filter PingEvent.isExpiry).length

theorem expiries_snoc (es : List PingEvent) (e : PingEvent) :
    expiries (es ++ [e]) = expiries es + if e.isExpiry then 1 else 0 := by
  unfold expiries
  rw [List.filter_append, List.length_append]
  cases e <;> rfl

def Pings.Accounts (p : Pings) (fired : Nat) : Prop :=
  fired = p.shown + p.waiting + p.lost + if p.crashed then 1 else 0

theorem Counted.accounts {e : PingEvent} {fired : Nat} (h : Counted p s) (ha : p.Accounts fired)
    (hstep : s.step e = some s') :
    (p.follow e).Accounts (fired + if e.isExpiry then 1 else 0) := by
  simp only [HealthPing.step, Option.ite_none_left_eq_some] at hstep
  obtain ⟨hrunning, hstep⟩ := hstep
  have hcrashed : p.crashed = false := h.crashed.symm.trans (Bool.eq_false_iff.mpr hrunning)
  cases e with
  | init | spawn | other => exact ha
  | expiry =>
    unfold Pings.Accounts at ha ⊢
    rw [hcrashed, if_neg Bool.false_ne_true] at ha
    show fired + 1 = _
    by_cases hserves : p.serves
    · by_cases hroom : p.waiting < 10
      · rw [Pings.follow_queued hserves hroom]
        dsimp only
        rw [hcrashed, if_neg Bool.false_ne_true]
        omega
      · rw [Pings.follow_lost hserves hroom]
        dsimp only
        rw [hcrashed, if_neg Bool.false_ne_true]
        omega
    · rw [Pings.follow_early hserves]
      dsimp only
      rw [if_pos rfl]
      omega
  | cloud =>
    have hqueue := h.queue
    obtain ⟨-, hturn⟩ := Option.ite_none_right_eq_some.mp hstep
    by_cases hserves : p.serves
    · rw [if_pos hserves] at hqueue
      rw [if_pos (h.serves.trans hserves)] at hturn
      obtain ⟨⟨opcode, after⟩, htaken, -⟩ := Option.map_eq_some_iff.mp hturn
      obtain ⟨-, m, hm, -⟩ := hqueue.turn htaken
      rw [Pings.follow_shown hserves]
      show fired = (p.shown + 1) + (p.waiting - 1) + p.lost + if p.crashed then 1 else 0
      rw [ha]
      omega
    · rw [Pings.follow_serves hserves]
      exact ha

def Early (es : List PingEvent) : Prop := ∃ past rest, es = past ++ .expiry :: rest ∧ .cloud ∉ past

theorem early_cons {e : PingEvent} (he : e ≠ .expiry) (hcloud : e ≠ .cloud) (es : List PingEvent) :
    Early (e :: es) ↔ Early es := by
  constructor
  · rintro ⟨past, rest, hes, hnone⟩
    cases past with
    | nil => exact absurd (List.cons.inj hes).1 he
    | cons first past =>
      exact ⟨past, rest, (List.cons.inj hes).2, fun hmem => hnone (.tail _ hmem)⟩
  · rintro ⟨past, rest, rfl, hnone⟩
    refine ⟨e :: past, rest, rfl, fun hmem => ?_⟩
    rcases List.mem_cons.mp hmem with heq | hmem
    · exact hcloud heq.symm
    · exact hnone hmem

theorem not_early_cloud (es : List PingEvent) : ¬Early (.cloud :: es) := by
  rintro ⟨past, rest, hes, hnone⟩
  cases past with
  | nil => cases (List.cons.inj hes).1
  | cons first past => exact hnone ((List.cons.inj hes).1 ▸ .head _)

theorem Pings.crashed_stays {p : Pings} (h : p.crashed = true ∨ p.serves = true)
    (es : List PingEvent) : (es.foldl Pings.follow p).crashed = p.crashed := by
  induction es generalizing p with
  | nil => rfl
  | cons e es ih =>
    have hstep : (p.follow e).crashed = p.crashed ∧
        ((p.follow e).crashed = true ∨ (p.follow e).serves = true) := by
      cases e with
      | init | spawn | other => exact ⟨rfl, h⟩
      | expiry =>
        by_cases hserves : p.serves
        · by_cases hroom : p.waiting < 10
          · rw [follow_queued hserves hroom]
            exact ⟨rfl, h⟩
          · rw [follow_lost hserves hroom]
            exact ⟨rfl, h⟩
        · rw [follow_early hserves]
          exact ⟨(h.resolve_right hserves).symm, .inl rfl⟩
      | cloud =>
        by_cases hserves : p.serves
        · rw [follow_shown hserves]
          exact ⟨rfl, h⟩
        · rw [follow_serves hserves]
          exact ⟨rfl, .inr rfl⟩
    rw [List.foldl_cons, ih hstep.2, hstep.1]

theorem Pings.crashed_iff {p : Pings} (hserves : ¬p.serves) (hcrashed : p.crashed = false)
    (es : List PingEvent) : (es.foldl Pings.follow p).crashed = true ↔ Early es := by
  induction es with
  | nil =>
    rw [List.foldl_nil, hcrashed]
    refine iff_of_false Bool.false_ne_true ?_
    rintro ⟨past, rest, hes, -⟩
    exact absurd hes.symm (List.append_ne_nil_of_right_ne_nil past (List.cons_ne_nil _ _))
  | cons e es ih =>
    rw [List.foldl_cons]
    cases e with
    | init | spawn | other => exact ih.trans (early_cons (by simp) (by simp) es).symm
    | expiry =>
      rw [follow_early hserves, crashed_stays (.inl rfl)]
      exact iff_of_true rfl ⟨[], es, rfl, List.not_mem_nil⟩
    | cloud =>
      rw [follow_serves hserves, crashed_stays (.inr rfl)]
      exact iff_of_false (by rw [hcrashed]; exact Bool.false_ne_true) (not_early_cloud es)

theorem Counted.pending (h : Counted p s) :
    pending icomTaskIdCloudMgr s.hs = List.replicate p.waiting pingMsg ∧ p.waiting ≤ 10 := by
  have hqueue := h.queue
  have hwhich : (taskQueue? icomTaskIdCloudMgr).bind s.hs = s.hs .icomCloudTaskQueue := rfl
  unfold Icom.pending
  rw [hwhich]
  by_cases hserves : p.serves
  · rw [if_pos hserves] at hqueue
    refine ⟨?_, hqueue.le⟩
    obtain ⟨q, hq, -, -, hitems⟩ := hqueue
    rw [hq]
    dsimp only
    rw [hitems, List.map_replicate, IcomIpcMsg.store_bytes]
  · rw [if_neg hserves] at hqueue
    rw [hqueue.1, hqueue.2]
    exact ⟨rfl, Nat.zero_le 10⟩

structure Pinged (es : List PingEvent) (p : Pings) (s : HealthPing) : Prop where
  printed : s.printed = List.replicate p.shown ipcOpcodePing
  waiting : pending icomTaskIdCloudMgr s.hs = List.replicate p.waiting pingMsg
  waiting_le : p.waiting ≤ 10
  accounts : p.Accounts (expiries es)
  crashed_iff : s.crashed = true ↔ Early es
  ticks : s.crashed = false → ∀ timer, s.pMainTaskTimer = some timer → timer.Ticks

/-- Whatever the order of the tasks, every ping is shown, waits, or was sent to a full queue; and
the program stops exactly when the timer was quicker than the cloud task. -/
theorem run_pinged {es : List PingEvent} (hrun : Machine.run HealthPing.step .boot es = some s) :
    Pinged es (es.foldl Pings.follow .start) s := by
  have hall := @Machine.run_history _ _ HealthPing.step .boot es s (fun _ => True)
    (fun past mid => Counted (past.foldl Pings.follow .start) mid ∧
      (past.foldl Pings.follow .start).Accounts (expiries past))
    (fun _ _ _ => trivial) (fun past mid e next hinv hs _ => ?_) ⟨boot_counted, rfl⟩ hrun trivial
  · obtain ⟨hcounted, haccounts⟩ := hall
    obtain ⟨hpending, hle⟩ := hcounted.pending
    refine ⟨hcounted.printed, hpending, hle, haccounts, ?_, hcounted.ticks⟩
    rw [hcounted.crashed]
    exact Pings.crashed_iff Bool.false_ne_true rfl es
  · rw [List.foldl_append, expiries_snoc]
    exact ⟨hinv.1.step hs, hinv.1.accounts hinv.2 hs⟩

def twoPings : List PingEvent :=
  [.init true, .spawn, .other (.created icomTaskIdModbusMgr), .cloud, .expiry, .expiry, .cloud]

theorem twoPings_pinged : ∃ s, Machine.run HealthPing.step .boot twoPings = some s ∧
    Pinged twoPings (twoPings.foldl Pings.follow .start) s := by
  have hsome : (Machine.run HealthPing.step .boot twoPings).isSome = true := by decide +kernel
  obtain ⟨s, hrun⟩ := Option.isSome_iff_exists.mp hsome
  exact ⟨s, hrun, run_pinged hrun⟩

end Runs

end EspBridges.Icom
