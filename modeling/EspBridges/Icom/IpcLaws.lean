import EspBridges.Icom.Ipc

namespace EspBridges.Icom

open Bytes

namespace IcomIpcMsg

def zero : IcomIpcMsg := ⟨0, 0, .replicate 14 0⟩

@[simp] theorem length_bytes (m : IcomIpcMsg) : m.bytes.length = sizeofIcomIpcMsg := by
  rw [bytes, List.length_cons, List.length_cons, Vector.length_toList]
  rfl

theorem map_bytes (m : IcomIpcMsg) :
    (List.range sizeofIcomIpcMsg).map (fun i => m.bytes.getD i 0) = m.bytes := by
  refine List.ext_getElem (by rw [List.length_map, List.length_range, length_bytes]) fun i _ hi => ?_
  rw [List.getElem_map, List.getElem_range, List.getD_eq_getElem?_getD,
    List.getElem?_eq_getElem hi, Option.getD_some]

theorem bytes_store (m : IcomIpcMsg) {item : List Byte} (h : item.length = sizeofIcomIpcMsg) :
    (m.store item).bytes = item := by
  match item, h with
  | a :: b :: rest, h =>
    have hrest : rest.length = 14 := Nat.succ.inj (Nat.succ.inj h)
    have hdata : (m.store (a :: b :: rest)).data.toList = rest := by
      refine List.ext_getElem (by rw [Vector.length_toList, hrest]) fun i _ hi => ?_
      rw [Vector.getElem_toList]
      simp only [store, Vector.getElem_ofFn]
      show rest.getD i _ = _
      rw [List.getD_eq_getElem?_getD, List.getElem?_eq_getElem hi, Option.getD_some]
    show a :: b :: _ = _
    rw [hdata]

theorem bytes_injective {m m' : IcomIpcMsg} (h : m.bytes = m'.bytes) : m = m' := by
  cases m with
  | mk opcode dataSz data =>
    cases m' with
    | mk opcode' dataSz' data' =>
      obtain ⟨hopcode, hrest⟩ := List.cons.inj h
      obtain ⟨hdataSz, hdata⟩ := List.cons.inj hrest
      rw [IcomIpcMsg.mk.injEq]
      exact ⟨hopcode, hdataSz, Vector.toList_inj.mp hdata⟩

theorem store_bytes (m m' : IcomIpcMsg) : m.store m'.bytes = m' :=
  bytes_injective (bytes_store m m'.length_bytes)

end IcomIpcMsg

def taskQueue? (taskId : Int) : Option TaskQueue :=
  if taskId = icomTaskIdMain then some .mainTaskQueue
  else if taskId = icomTaskIdBleMgr then some .bleConfigTaskQueue
  else if taskId = icomTaskIdModbusMgr then some .icomModbusTaskQueue
  else if taskId = icomTaskIdCloudMgr then some .icomCloudTaskQueue
  else if taskId = icomTaskIdSerialMgr then some .icomSerialTaskQueue
  else none

theorem taskQueue?_injective {taskId taskId' : Int} {static : TaskQueue}
    (h : taskQueue? taskId = some static) (h' : taskQueue? taskId' = some static) :
    taskId = taskId' := by
  unfold taskQueue? at h h'
  grind

def pending (taskId : Int) (hs : Handles) : List IcomIpcMsg :=
  match (taskQueue? taskId).bind hs with
  | none => []
  | some q => q.fifo.items.map IcomIpcMsg.zero.store

def acceptedBy (taskId : Int) : Observed → List IcomIpcMsg
  | .sent taskId' pMsg rc => if taskId' = taskId ∧ rc = 0 then [pMsg] else []
  | _ => []

def deliveredBy (taskId : Int) : Observed → List IcomIpcMsg
  | .received taskId' _ outcome =>
    if taskId' = taskId ∧ outcome.rc = 0 then [outcome.pIpcMsg] else []
  | _ => []

def accepted (taskId : Int) (events : List Observed) : List IcomIpcMsg :=
  events.flatMap (acceptedBy taskId)

def delivered (taskId : Int) (events : List Observed) : List IcomIpcMsg :=
  events.flatMap (deliveredBy taskId)

/-- From the creation of its queue on, whatever else is called in between. -/
structure FifoDelivery (taskId : Int) : Prop where
  conserved : ∀ {hs hs' : Handles} {events : List Observed},
    Machine.run step (icomCreateTaskQueue taskId hs).2 events = some hs' →
      .created taskId ∉ events →
        accepted taskId events = delivered taskId events ++ pending taskId hs'
  inside : ∀ {hs hs' : Handles} {events : List Observed},
    Machine.run step (icomCreateTaskQueue taskId hs).2 events = some hs' →
      .created taskId ∉ events → ∀ pIpcMsg outcome,
        .received taskId pIpcMsg outcome ∈ events → outcome.outside = 0
  apart : ∀ {hs hs' : Handles} {e : Observed}, step hs e = some hs' → e.taskId = taskId →
    ∀ other, other ≠ taskId → pending other hs' = pending other hs

theorem xQueueSend_eq_some {q q' : XQueue} {source : Nat → Byte}
    (h : xQueueSend q source = some q') : q'.itemSize = q.itemSize ∧
      q.fifo.send ((List.range q.itemSize).map source) = some q'.fifo := by
  unfold xQueueSend at h
  split at h
  · cases h
  · cases h
    exact ⟨rfl, ‹_›⟩

theorem xQueueReceive_eq_some {q q' : XQueue} {item : List Byte}
    (h : xQueueReceive q = some (item, q')) :
    q'.itemSize = q.itemSize ∧ q.fifo.receive = some (item, q'.fifo) := by
  unfold xQueueReceive at h
  split at h
  · cases h
  · cases h
    exact ⟨rfl, ‹_›⟩

theorem xQueueReceive_length {q q' : XQueue} {item : List Byte}
    (h : xQueueReceive q = some (item, q')) : item.length = q.itemSize := by
  apply q.sized item
  rw [(Fifo.receive_eq_some (xQueueReceive_eq_some h).2).2]
  exact .head _

theorem sendTo_cases {static : TaskQueue} {pMsg : IcomIpcMsg} {hs hs' : Handles} {rc : Nat}
    (h : sendTo static pMsg hs = some (rc, hs')) : ∃ q, hs static = some q ∧
      (rc = 1 ∧ hs' = hs ∨
        ∃ q', xQueueSend q (fun i => pMsg.bytes.getD i 0) = some q' ∧ rc = 0 ∧
          hs' = hs.set static q') := by
  unfold sendTo at h
  split at h
  · cases h
  · split at h
    · cases h
      exact ⟨_, ‹_›, .inl ⟨rfl, rfl⟩⟩
    · cases h
      exact ⟨_, ‹_›, .inr ⟨_, ‹_›, rfl, rfl⟩⟩

theorem recvFrom_cases {static : TaskQueue} {dest : Destination} {pIpcMsg : IcomIpcMsg}
    {hs hs' : Handles} {outcome : Received}
    (h : recvFrom static dest pIpcMsg hs = some (outcome, hs')) :
    ∃ q item q', hs static = some q ∧ xQueueReceive q = some (item, q') ∧
      outcome = ⟨0, dest.fill pIpcMsg item, item.length - dest.size⟩ ∧
      hs' = hs.set static q' := by
  unfold recvFrom at h
  split at h
  · cases h
  · split at h
    · cases h
    · cases h
      exact ⟨_, _, _, ‹_›, ‹_›, rfl, rfl⟩

theorem icomSendIpcBuffer_cases {taskId : Int} {pMsg : IcomIpcMsg} {hs hs' : Handles} {rc : Nat}
    (h : icomSendIpcBuffer taskId pMsg hs = some (rc, hs')) :
    (∃ static, taskQueue? taskId = some static ∧ sendTo static pMsg hs = some (rc, hs')) ∨
      hs' = hs := by
  unfold icomSendIpcBuffer at h
  unfold taskQueue?
  grind

theorem icomRecvIpcBuffer_cases {taskId : Int} {pIpcMsg : IcomIpcMsg} {hs hs' : Handles}
    {outcome : Received} (h : icomRecvIpcBuffer pIpcMsg taskId hs = some (outcome, hs')) :
    (∃ static dest, taskQueue? taskId = some static ∧
      recvFrom static dest pIpcMsg hs = some (outcome, hs')) ∨ hs' = hs := by
  unfold icomRecvIpcBuffer at h
  unfold taskQueue?
  grind

theorem icomCreateTaskQueue_eq (taskId : Int) (hs : Handles) :
    (icomCreateTaskQueue taskId hs).2 = match taskQueue? taskId with
      | some static => hs.set static (xQueueCreate 10 sizeofIcomIpcMsg)
      | none => hs := by
  unfold icomCreateTaskQueue taskQueue?
  grind

theorem Handles.set_ne (hs : Handles) {static static' : TaskQueue} (q : XQueue)
    (hne : static' ≠ static) : hs.set static q static' = hs static' := if_neg hne

@[simp] theorem Handles.set_self (hs : Handles) (static : TaskQueue) (q : XQueue) :
    hs.set static q static = some q := if_pos rfl

theorem step_sent {taskId : Int} {pMsg : IcomIpcMsg} {rc : Nat} {hs hs' : Handles} :
    step hs (.sent taskId pMsg rc) = some hs' ↔
      icomSendIpcBuffer taskId pMsg hs = some (rc, hs') := by
  unfold step
  grind

theorem step_received {taskId : Int} {pIpcMsg : IcomIpcMsg} {outcome : Received}
    {hs hs' : Handles} : step hs (.received taskId pIpcMsg outcome) = some hs' ↔
      icomRecvIpcBuffer pIpcMsg taskId hs = some (outcome, hs') := by
  unfold step
  grind

theorem step_frame {hs hs' : Handles} {e : Observed} (h : step hs e = some hs')
    {static : TaskQueue} (hne : taskQueue? e.taskId ≠ some static) : hs' static = hs static := by
  cases e with
  | created taskId =>
    cases h
    rw [icomCreateTaskQueue_eq]
    split
    · exact hs.set_ne _ fun heq => hne (heq ▸ ‹_›)
    · rfl
  | sent taskId pMsg rc =>
    rcases icomSendIpcBuffer_cases (step_sent.mp h) with ⟨own, hown, hsend⟩ | rfl
    · obtain ⟨_, _, ⟨_, rfl⟩ | ⟨_, _, _, rfl⟩⟩ := sendTo_cases hsend
      · rfl
      · exact hs.set_ne _ fun heq => hne (heq ▸ hown)
    · rfl
  | received taskId pIpcMsg outcome =>
    rcases icomRecvIpcBuffer_cases (step_received.mp h) with ⟨own, dest, hown, hrecv⟩ | rfl
    · obtain ⟨_, _, _, _, _, _, rfl⟩ := recvFrom_cases hrecv
      exact hs.set_ne _ fun heq => hne (heq ▸ hown)
    · rfl

theorem step_apart {hs hs' : Handles} {e : Observed} (h : step hs e = some hs') {other : Int}
    (hne : other ≠ e.taskId) : pending other hs' = pending other hs := by
  unfold pending
  cases hqueue : taskQueue? other with
  | none => rfl
  | some static =>
    have hsame := step_frame h fun hown => hne (taskQueue?_injective hqueue hown)
    rw [Option.bind_some, Option.bind_some, hsame]

theorem other_task {taskId : Int} {e : Observed} (hne : e.taskId ≠ taskId) :
    acceptedBy taskId e = [] ∧ deliveredBy taskId e = [] := by
  cases e with
  | created _ => exact ⟨rfl, rfl⟩
  | sent _ _ _ => exact ⟨if_neg fun h => hne h.1, rfl⟩
  | received _ _ _ => exact ⟨rfl, if_neg fun h => hne h.1⟩

def Serves (ins outs : List IcomIpcMsg) (hs : Handles) : Prop :=
  ∃ q, hs .icomCloudTaskQueue = some q ∧ q.itemSize = sizeofIcomIpcMsg ∧
    Fifo.Moves (.create 10) (ins.map IcomIpcMsg.bytes) (outs.map IcomIpcMsg.bytes) q.fifo

section Serves

variable {ins outs : List IcomIpcMsg} {hs hs' : Handles}

theorem Serves.sent (h : Serves ins outs hs) {pMsg : IcomIpcMsg} {rc : Nat}
    (hstep : step hs (.sent icomTaskIdCloudMgr pMsg rc) = some hs') :
    Serves (ins ++ acceptedBy icomTaskIdCloudMgr (.sent icomTaskIdCloudMgr pMsg rc)) outs hs' := by
  obtain ⟨q, hq, hsize, hmoves⟩ := h
  have hsend : sendTo .icomCloudTaskQueue pMsg hs = some (rc, hs') := step_sent.mp hstep
  obtain ⟨q₁, hq₁, ⟨rfl, rfl⟩ | ⟨q', hsend, rfl, rfl⟩⟩ := sendTo_cases hsend
  · rw [acceptedBy, if_neg (by decide), List.append_nil]
    exact ⟨q, hq, hsize, hmoves⟩
  · cases hq.symm.trans hq₁
    obtain ⟨hsize', hsent⟩ := xQueueSend_eq_some hsend
    rw [hsize, pMsg.map_bytes] at hsent
    rw [acceptedBy, if_pos ⟨rfl, rfl⟩]
    refine ⟨q', hs.set_self _ _, hsize'.trans hsize, ?_⟩
    rw [List.map_append]
    exact hmoves.send hsent

theorem Serves.received (h : Serves ins outs hs) {pIpcMsg : IcomIpcMsg} {outcome : Received}
    (hstep : step hs (.received icomTaskIdCloudMgr pIpcMsg outcome) = some hs') :
    Serves ins
        (outs ++ deliveredBy icomTaskIdCloudMgr (.received icomTaskIdCloudMgr pIpcMsg outcome))
        hs' ∧ outcome.outside = 0 := by
  obtain ⟨q, hq, hsize, hmoves⟩ := h
  have hrecv : recvFrom .icomCloudTaskQueue .pIpcMsg pIpcMsg hs = some (outcome, hs') :=
    step_received.mp hstep
  obtain ⟨q₁, item, q', hq₁, hreceive, rfl, rfl⟩ := recvFrom_cases hrecv
  cases hq.symm.trans hq₁
  have hlength := (xQueueReceive_length hreceive).trans hsize
  obtain ⟨hsize', hreceived⟩ := xQueueReceive_eq_some hreceive
  refine ⟨⟨q', hs.set_self _ _, hsize'.trans hsize, ?_⟩, ?_⟩
  · rw [deliveredBy, if_pos ⟨rfl, rfl⟩, List.map_append, List.map_singleton]
    show Fifo.Moves _ _ (_ ++ [(pIpcMsg.store item).bytes]) _
    rw [IcomIpcMsg.bytes_store _ hlength]
    exact hmoves.receive hreceived
  · show item.length - sizeofIcomIpcMsg = 0
    rw [hlength, Nat.sub_self]

theorem Serves.step (h : Serves ins outs hs) {e : Observed} (hstep : Icom.step hs e = some hs')
    (hcreated : e ≠ .created icomTaskIdCloudMgr) :
    Serves (ins ++ acceptedBy icomTaskIdCloudMgr e) (outs ++ deliveredBy icomTaskIdCloudMgr e)
        hs' ∧
      ∀ pIpcMsg outcome, e = .received icomTaskIdCloudMgr pIpcMsg outcome → outcome.outside = 0 := by
  by_cases hcloud : e.taskId = icomTaskIdCloudMgr
  · cases e with
    | created taskId => exact absurd (congrArg Observed.created hcloud) hcreated
    | sent taskId pMsg rc =>
      obtain rfl : taskId = icomTaskIdCloudMgr := hcloud
      refine ⟨?_, nofun⟩
      show Serves _ (outs ++ []) _
      rw [List.append_nil]
      exact h.sent hstep
    | received taskId pIpcMsg outcome =>
      obtain rfl : taskId = icomTaskIdCloudMgr := hcloud
      obtain ⟨hserves, hinside⟩ := h.received hstep
      refine ⟨?_, ?_⟩
      · show Serves (ins ++ []) _ _
        rw [List.append_nil]
        exact hserves
      · intro _ _ he
        cases he
        exact hinside
  · obtain ⟨hnone, hnone'⟩ := other_task hcloud
    obtain ⟨q, hq, hrest⟩ := h
    have hsame : hs' .icomCloudTaskQueue = hs .icomCloudTaskQueue :=
      step_frame hstep fun hown => hcloud (taskQueue?_injective hown rfl)
    rw [hnone, hnone', List.append_nil, List.append_nil]
    refine ⟨⟨q, hsame.trans hq, hrest⟩, ?_⟩
    rintro _ _ rfl
    exact absurd rfl hcloud

theorem Serves.run (h : Serves ins outs hs) {events : List Observed}
    (hrun : Machine.run Icom.step hs events = some hs')
    (hcreated : .created icomTaskIdCloudMgr ∉ events) :
    Serves (ins ++ accepted icomTaskIdCloudMgr events)
        (outs ++ delivered icomTaskIdCloudMgr events) hs' ∧
      ∀ pIpcMsg outcome, .received icomTaskIdCloudMgr pIpcMsg outcome ∈ events →
        outcome.outside = 0 := by
  induction events generalizing ins outs hs with
  | nil =>
    cases hrun
    refine ⟨?_, nofun⟩
    show Serves (ins ++ []) (outs ++ []) _
    rw [List.append_nil, List.append_nil]
    exact h
  | cons e events ih =>
    obtain ⟨mid, hstep, hrest⟩ := Option.bind_eq_some_iff.mp hrun
    obtain ⟨hserves, hinside⟩ := h.step hstep fun he => hcreated (he ▸ .head _)
    obtain ⟨hend, hinside'⟩ := ih hserves hrest fun he => hcreated (.tail _ he)
    rw [accepted, delivered, List.flatMap_cons, List.flatMap_cons, ← List.append_assoc,
      ← List.append_assoc]
    refine ⟨hend, fun pIpcMsg outcome hin => ?_⟩
    rcases List.mem_cons.mp hin with he | hin
    · exact hinside _ _ he.symm
    · exact hinside' _ _ hin

end Serves

theorem created_serves (hs : Handles) :
    Serves [] [] (icomCreateTaskQueue icomTaskIdCloudMgr hs).2 :=
  ⟨xQueueCreate 10 sizeofIcomIpcMsg, hs.set_self .icomCloudTaskQueue _, rfl, .refl⟩

theorem Serves.pending (h : Serves ins outs hs) :
    ins = outs ++ pending icomTaskIdCloudMgr hs := by
  obtain ⟨q, hq, _, hmoves⟩ := h
  have hitems := congrArg (List.map IcomIpcMsg.zero.store) hmoves.conservation
  have hback : ∀ msgs : List IcomIpcMsg,
      (msgs.map IcomIpcMsg.bytes).map IcomIpcMsg.zero.store = msgs := by
    intro msgs
    rw [List.map_map]
    exact (List.map_congr_left fun m _ => IcomIpcMsg.store_bytes _ m).trans (List.map_id _)
  rw [Fifo.create_items, List.nil_append, List.map_append, hback, hback] at hitems
  rw [hitems]
  show _ = _ ++ (match hs .icomCloudTaskQueue with | none => [] | some q => _)
  rw [hq]

theorem cloud_delivers : FifoDelivery icomTaskIdCloudMgr where
  conserved hrun hcreated := ((created_serves _).run hrun hcreated).1.pending
  inside hrun hcreated := ((created_serves _).run hrun hcreated).2
  apart hstep htask _ hne := step_apart hstep fun heq => hne (heq.trans htask)

/-- A send for a task without a branch returns 0 and enqueues nothing. -/
theorem send_dropped {taskId : Int} (hmain : taskId ≠ icomTaskIdMain)
    (hble : taskId ≠ icomTaskIdBleMgr) (hmodbus : taskId ≠ icomTaskIdModbusMgr)
    (hcloud : taskId ≠ icomTaskIdCloudMgr) (pMsg : IcomIpcMsg) (hs : Handles) :
    icomSendIpcBuffer taskId pMsg hs = some (0, hs) := by
  unfold icomSendIpcBuffer
  rw [if_neg hmain, if_neg hble, if_neg hmodbus, if_neg hcloud]

theorem dropped_not_delivered {taskId : Int}
    (hsend : ∀ pMsg hs, icomSendIpcBuffer taskId pMsg hs = some (0, hs)) :
    ¬ FifoDelivery taskId := by
  intro h
  have hrun : Machine.run step (icomCreateTaskQueue taskId .null).2
      [.sent taskId .zero 0] = some (icomCreateTaskQueue taskId .null).2 := by
    rw [Machine.run, step_sent.mpr (hsend _ _)]
    rfl
  have hconserved := h.conserved hrun (by simp)
  have hempty : pending taskId (icomCreateTaskQueue taskId .null).2 = [] := by
    rw [icomCreateTaskQueue_eq, pending]
    cases hqueue : taskQueue? taskId with
    | none => rfl
    | some static =>
      show (match Handles.set _ _ _ static with | none => [] | some q => _) = _
      rw [Handles.set_self]
      rfl
  rw [hempty] at hconserved
  simp [accepted, acceptedBy, delivered, deliveredBy] at hconserved

def overrun (taskId : Int) : List Observed :=
  [.sent taskId .zero 0, .received taskId .zero ⟨0, .zero, 12⟩]

theorem overrun_not_delivered {taskId : Int}
    (hrun : (Machine.run step (icomCreateTaskQueue taskId .null).2 (overrun taskId)).isSome) :
    ¬ FifoDelivery taskId := by
  intro h
  obtain ⟨hs', hrun⟩ := Option.isSome_iff_exists.mp hrun
  have hinside := h.inside hrun (by simp [overrun]) _ _ (.tail _ (.head _))
  cases hinside

/-- Of all tasks only the cloud task has messages delivered to it: the send drops those of the
serial task and of an unknown one, and the receive copies those of the others into an object of
4 bytes. -/
theorem fifoDelivery_iff (taskId : Int) : FifoDelivery taskId ↔ taskId = icomTaskIdCloudMgr := by
  refine ⟨fun h => ?_, fun h => h ▸ cloud_delivers⟩
  refine Decidable.byContradiction fun hcloud => ?_
  by_cases hmain : taskId = icomTaskIdMain
  · subst hmain
    exact overrun_not_delivered rfl h
  · by_cases hble : taskId = icomTaskIdBleMgr
    · subst hble
      exact overrun_not_delivered rfl h
    · by_cases hmodbus : taskId = icomTaskIdModbusMgr
      · subst hmodbus
        exact overrun_not_delivered rfl h
      · exact dropped_not_delivered (send_dropped hmain hble hmodbus hcloud) h

theorem modbusTask_not_delivered : ¬ ∀ taskId, FifoDelivery taskId :=
  fun hevery => overrun_not_delivered rfl (hevery icomTaskIdModbusMgr)

end EspBridges.Icom
