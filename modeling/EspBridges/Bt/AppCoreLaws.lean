import EspBridges.Bt.AppCore

namespace EspBridges.Bt

open Bytes Heap

def BtAppMsg.work (stored : Nat → List Byte) (msg : BtAppMsg) : Work :=
  ⟨msg.cb, msg.event, msg.param.map stored⟩

def copied (pParams : Option (Nat → Byte)) (paramLen : Int)
    (pCopyCback : Option (List Byte → List Byte)) : Option (List Byte) :=
  if paramLen = 0 then none
  else pParams.map fun params => (pCopyCback.getD id) ((List.range paramLen.toNat).map params)

structure Taken where
  works : List Work
  refused : Nat

def Taken.follow (a : Taken) : Event → Taken
  | .dispatched pCback event pParams paramLen pCopyCback accepted =>
    if accepted then
      { a with works := a.works ++ [⟨pCback, event, copied pParams paramLen pCopyCback⟩] }
    else if pParams.isSome ∧ 0 < paramLen then { a with refused := a.refused + 1 }
    else a
  | .handled => a

def params (msgs : List BtAppMsg) : List Nat := msgs.flatMap fun msg => msg.param.toList

/-- `done` is the work that is over, `leaked` the blocks that nothing points to any more. -/
structure Ordered (h₀ : Heap) (a : Taken) (done : List Work) (leaked : List Nat) (s : AppCore) :
    Prop where
  works : a.works = done ++ s.queue.items.map (BtAppMsg.work s.stored)
  called : s.called = done.filter fun w => w.cb.isSome
  sigs : ∀ msg ∈ s.queue.items, msg.sig = btAppSigWorkDispatch
  blocks : Gained (params s.queue.items ++ leaked) h₀ s.heap
  atMost : leaked.length ≤ a.refused
  exactly : (∀ k, h₀.failing k = false) → leaked.length = a.refused

section Steps

variable {h₀ : Heap} {a : Taken} {done : List Work} {leaked : List Nat} {s s' : AppCore}

theorem btAppSendMsg_cases (msg : BtAppMsg) (s : AppCore) :
    btAppSendMsg msg s = some (false, s) ∨
      ∃ queue, queue.items = s.queue.items ++ [msg] ∧
        btAppSendMsg msg s = some (true, { s with queue }) := by
  unfold btAppSendMsg
  cases hsend : s.queue.send msg with
  | none => exact .inl rfl
  | some queue => exact .inr ⟨queue, (Fifo.send_eq_some hsend).2.2, rfl⟩

theorem params_snoc (msgs : List BtAppMsg) (msg : BtAppMsg) :
    params (msgs ++ [msg]) = params msgs ++ msg.param.toList := by
  unfold params
  rw [List.flatMap_append, List.flatMap_singleton]

theorem Ordered.send {pCback : Option Nat} {event : UInt16} {accepted : Bool}
    (h : Ordered h₀ a done leaked s)
    (hsend : btAppSendMsg ⟨btAppSigWorkDispatch, event, pCback, none⟩ s = some (accepted, s')) :
    Ordered h₀ (if accepted then { a with works := a.works ++ [⟨pCback, event, none⟩] } else a)
      done leaked s' := by
  rcases btAppSendMsg_cases ⟨btAppSigWorkDispatch, event, pCback, none⟩ s with
    hfull | ⟨queue, hitems, hsent⟩
  · rw [hfull] at hsend
    obtain ⟨rfl, rfl⟩ := Prod.mk.inj (Option.some.inj hsend)
    exact h
  · rw [hsent] at hsend
    obtain ⟨rfl, rfl⟩ := Prod.mk.inj (Option.some.inj hsend)
    rw [if_pos rfl]
    refine ⟨?_, h.called, fun msg hmsg => ?_, ?_, h.atMost, h.exactly⟩
    · show a.works ++ _ = done ++ queue.items.map _
      rw [hitems, List.map_append, ← List.append_assoc, ← h.works]
      rfl
    · rw [hitems] at hmsg
      rcases List.mem_append.mp hmsg with hold | hnew
      · exact h.sigs msg hold
      · rw [List.mem_singleton.mp hnew]
    · show Gained (params queue.items ++ leaked) h₀ s.heap
      rw [hitems, params_snoc]
      show Gained (params s.queue.items ++ [] ++ leaked) h₀ s.heap
      rw [List.append_nil]
      exact h.blocks

theorem work_stored {stored stored' : Nat → List Byte} {msgs : List BtAppMsg}
    (h : ∀ b ∈ params msgs, stored' b = stored b) :
    msgs.map (BtAppMsg.work stored') = msgs.map (BtAppMsg.work stored) := by
  refine List.map_congr_left fun msg hmsg => ?_
  unfold BtAppMsg.work
  cases hparam : msg.param with
  | none => rfl
  | some b =>
    have hmem : b ∈ params msgs :=
      List.mem_flatMap.mpr ⟨msg, hmsg, by rw [hparam]; exact .head _⟩
    show Work.mk _ _ (some (stored' b)) = _
    rw [h b hmem]
    rfl

theorem Ordered.sendCopied {pCback : Option Nat} {event : UInt16} {accepted : Bool} {block : Nat}
    {bytes : List Byte} {heap : Heap} (h : Ordered h₀ a done leaked s)
    (hheap : Gained (block :: (params s.queue.items ++ leaked)) h₀ heap)
    (hsend : btAppSendMsg ⟨btAppSigWorkDispatch, event, pCback, some block⟩
      { s with
        heap
        stored := fun b => if b = block then bytes else s.stored b } = some (accepted, s')) :
    ∃ leaked', Ordered h₀
      (if accepted then { a with works := a.works ++ [⟨pCback, event, some bytes⟩] }
      else { a with refused := a.refused + 1 }) done leaked' s' := by
  have hnew : ∀ b ∈ params s.queue.items, (if b = block then bytes else s.stored b) = s.stored b := by
    intro b hb
    refine if_neg ?_
    rintro rfl
    exact (List.nodup_cons.mp hheap.nodup).1 (List.mem_append_left _ hb)
  have hworks := work_stored hnew
  rcases btAppSendMsg_cases ⟨btAppSigWorkDispatch, event, pCback, some block⟩
      { s with heap, stored := fun b => if b = block then bytes else s.stored b } with
    hfull | ⟨queue, hitems, hsent⟩
  · rw [hfull] at hsend
    obtain ⟨rfl, rfl⟩ := Prod.mk.inj (Option.some.inj hsend)
    refine ⟨block :: leaked, ?_, h.called, h.sigs, ?_, Nat.succ_le_succ h.atMost,
      fun hnever => congrArg Nat.succ (h.exactly hnever)⟩
    · show a.works = done ++ s.queue.items.map _
      rw [hworks, h.works]
    · exact hheap.perm List.perm_middle.symm
  · rw [hsent] at hsend
    obtain ⟨rfl, rfl⟩ := Prod.mk.inj (Option.some.inj hsend)
    rw [if_pos rfl]
    have hhere : BtAppMsg.work (fun b => if b = block then bytes else s.stored b)
        ⟨btAppSigWorkDispatch, event, pCback, some block⟩ = ⟨pCback, event, some bytes⟩ :=
      congrArg (fun bytes => Work.mk pCback event (some bytes)) (if_pos rfl)
    refine ⟨leaked, ?_, h.called, fun msg hmsg => ?_, ?_, h.atMost, h.exactly⟩
    · show a.works ++ _ = done ++ queue.items.map _
      rw [hitems, List.map_append, hworks, ← List.append_assoc, ← h.works]
      exact congrArg (fun w => a.works ++ [w]) hhere.symm
    · rw [hitems] at hmsg
      rcases List.mem_append.mp hmsg with hold | hnew
      · exact h.sigs msg hold
      · rw [List.mem_singleton.mp hnew]
    · show Gained (params queue.items ++ leaked) h₀ heap
      rw [hitems, params_snoc]
      show Gained (params s.queue.items ++ [block] ++ leaked) h₀ heap
      rw [List.append_assoc]
      exact hheap.perm List.perm_middle.symm

theorem Ordered.dispatch {pCback : Option Nat} {event : UInt16} {pParams : Option (Nat → Byte)}
    {paramLen : Int} {pCopyCback : Option (List Byte → List Byte)} {accepted : Bool}
    (h : Ordered h₀ a done leaked s)
    (hdispatch : btAppWorkDispatch pCback event pParams paramLen pCopyCback s =
      some (accepted, s')) :
    ∃ leaked', Ordered h₀ (a.follow (.dispatched pCback event pParams paramLen pCopyCback accepted))
      done leaked' s' := by
  unfold btAppWorkDispatch at hdispatch
  dsimp only at hdispatch
  by_cases hlen : paramLen = 0
  · rw [if_pos hlen] at hdispatch
    have hsent := h.send hdispatch
    have hnot : ¬(pParams.isSome = true ∧ 0 < paramLen) := fun h => absurd h.2 (by omega)
    unfold Taken.follow copied
    dsimp only
    rw [if_pos hlen, if_neg hnot]
    exact ⟨leaked, hsent⟩
  rw [if_neg hlen] at hdispatch
  cases pParams with
  | none =>
    obtain ⟨rfl, rfl⟩ := Prod.mk.inj (Option.some.inj hdispatch)
    exact ⟨leaked, h⟩
  | some params =>
    dsimp only at hdispatch
    by_cases hpos : 0 < paramLen
    · rw [if_pos hpos] at hdispatch
      obtain ⟨p, heap, hmalloc, hgained⟩ := malloc_gains s.heap h.blocks
      have hon : onHeap malloc s = some (p, { s with heap }) := by
        unfold onHeap
        rw [hmalloc]
        rfl
      have hasked : (some params).isSome = true ∧ 0 < paramLen := ⟨rfl, hpos⟩
      unfold Taken.follow
      dsimp only
      rw [if_pos hasked]
      rw [Program.bind_apply, hon] at hdispatch
      cases p with
      | none =>
        obtain ⟨rfl, rfl⟩ := Prod.mk.inj (Option.some.inj hdispatch)
        rw [if_neg Bool.false_ne_true]
        refine ⟨leaked, h.works, h.called, h.sigs, hgained, Nat.le_succ_of_le h.atMost,
          fun hnever => ?_⟩
        have hfailing := malloc_none hmalloc
        rw [h.blocks.failing, hnever] at hfailing
        exact absurd hfailing Bool.false_ne_true
      | some block =>
        unfold copied
        rw [if_neg hlen]
        cases pCopyCback with
        | none => exact h.sendCopied hgained hdispatch
        | some copy => exact h.sendCopied hgained hdispatch
    · rw [if_neg hpos] at hdispatch
      obtain ⟨rfl, rfl⟩ := Prod.mk.inj (Option.some.inj hdispatch)
      unfold Taken.follow
      dsimp only
      rw [if_neg Bool.false_ne_true, if_neg fun h => hpos h.2]
      exact ⟨leaked, h⟩

theorem Ordered.handle (h : Ordered h₀ a done leaked s) (hsome : s.queue.items ≠ []) :
    ∃ s' w, btAppTaskHandler s = some ((), s') ∧ Ordered h₀ a (done ++ [w]) leaked s' := by
  obtain ⟨msg, rest, hitems⟩ := List.exists_cons_of_ne_nil hsome
  obtain ⟨queue, hqueue, hreceive⟩ := Fifo.receive_cons hitems
  have hsig := h.sigs msg (by rw [hitems]; exact .head _)
  have hblocks : Gained (msg.param.toList ++ (params queue.items ++ leaked)) h₀ s.heap := by
    rw [← List.append_assoc, hqueue]
    have hall := h.blocks
    rw [hitems] at hall
    exact hall
  have hread : readParam msg.param { s with queue } =
      some (msg.param.map s.stored, { s with queue }) := by
    unfold readParam
    cases hparam : msg.param with
    | none => rfl
    | some block =>
      rw [hparam] at hblocks
      exact if_pos ((hblocks.live block).mpr (.inr (.head _)))
  obtain ⟨_, heap, hfree, hrest⟩ := free_loses msg.param s.heap hblocks
  have hworks : a.works = done ++ [msg.work s.stored] ++ queue.items.map (BtAppMsg.work s.stored) := by
    rw [h.works, hitems, hqueue, List.append_assoc]
    rfl
  have hsigs : ∀ msg' ∈ queue.items, msg'.sig = btAppSigWorkDispatch := fun msg' hmsg =>
    h.sigs msg' (by rw [hitems]; exact .tail _ (hqueue ▸ hmsg))
  refine ⟨⟨queue, heap, s.stored, (done ++ [msg.work s.stored]).filter fun w => w.cb.isSome⟩,
    msg.work s.stored, ?_, hworks, rfl, hsigs, hrest, h.atMost, h.exactly⟩
  unfold btAppTaskHandler
  rw [hreceive]
  dsimp only
  rw [if_pos hsig, List.filter_append, ← h.called]
  have hfreed : ∀ called, onHeap (free msg.param) { s with queue, called } =
      some ((), ⟨queue, heap, s.stored, called⟩) := by
    intro called
    unfold onHeap
    dsimp only
    rw [hfree]
    rfl
  unfold btAppWorkDispatched
  cases hcb : msg.cb with
  | none =>
    have hnone : [msg.work s.stored].filter (fun w => w.cb.isSome) = [] :=
      List.filter_cons_of_neg fun h => by
        rw [BtAppMsg.work, hcb] at h
        exact Bool.false_ne_true h
    rw [hnone, List.append_nil]
    exact hfreed s.called
  | some cb =>
    have hone : [msg.work s.stored].filter (fun w => w.cb.isSome) = [msg.work s.stored] :=
      List.filter_cons_of_pos (by rw [BtAppMsg.work, hcb]; rfl)
    dsimp only
    rw [hone, Program.bind_apply, Program.bind_apply, hread]
    have hsame : Work.mk (some cb) msg.event (msg.param.map s.stored) = msg.work s.stored := by
      rw [BtAppMsg.work, hcb]
    rw [← hsame]
    exact hfreed _

end Steps

theorem Ordered.step {h₀ : Heap} {a : Taken} {done : List Work} {leaked : List Nat}
    {s s' : AppCore} {e : Event} (h : Ordered h₀ a done leaked s) (hstep : Bt.step s e = some s') :
    ∃ done' leaked', Ordered h₀ (a.follow e) done' leaked' s' := by
  cases e with
  | dispatched pCback event pParams paramLen pCopyCback accepted =>
    unfold Bt.step at hstep
    dsimp only at hstep
    split at hstep
    · exact nomatch hstep
    next accepted' s₁ hdispatch =>
      split at hstep
      next haccepted =>
        subst haccepted
        obtain rfl := Option.some.inj hstep
        exact ⟨done, h.dispatch hdispatch⟩
      next => exact absurd hstep.symm (Option.some_ne_none s')
  | handled =>
    have hsome : s.queue.items ≠ [] := by
      intro hnil
      have hnone : s.queue.receive = none := by
        unfold Fifo.receive
        split
        · rfl
        next hcons =>
          rw [hcons] at hnil
          exact absurd hnil (List.cons_ne_nil _ _)
      unfold Bt.step btAppTaskHandler at hstep
      dsimp only at hstep
      rw [hnone] at hstep
      exact absurd hstep.symm (Option.some_ne_none s')
    obtain ⟨s₁, w, hhandle, hordered⟩ := h.handle hsome
    have hsame : some s₁ = some s' := by
      rw [← hstep]
      unfold Bt.step
      dsimp only
      rw [hhandle]
      rfl
    obtain rfl := Option.some.inj hsame
    exact ⟨done ++ [w], leaked, hordered⟩

/-- What has been taken on is called on the parameters that were given, once and in order; a turn of
the task never finds its parameters gone; and what is live beyond what the messages need is one
block for each time that work with parameters was refused, if there has been memory for it. -/
theorem run_ordered {heap : Heap} {es : List Event} {s : AppCore}
    (hrun : Machine.run step (btAppTaskStartUp heap) es = some s) :
    ∃ done leaked, Ordered heap (es.foldl Taken.follow ⟨[], 0⟩) done leaked s ∧
      (s.queue.items ≠ [] → (step s .handled).isSome) := by
  have h0 : Ordered heap ⟨[], 0⟩ [] [] (btAppTaskStartUp heap) :=
    ⟨rfl, rfl, fun _ hmsg => absurd hmsg List.not_mem_nil, Gained.refl heap, Nat.le_refl _,
      fun _ => rfl⟩
  have hfollows : ∃ done leaked, Ordered heap (es.foldl Taken.follow ⟨[], 0⟩) done leaked s :=
    @Machine.run_follows _ _ step _ _ _ _ _ Taken.follow
      (fun a s => ∃ done leaked, Ordered heap a done leaked s)
      (fun _ _ _ _ ⟨_, _, h⟩ hstep => h.step hstep) ⟨[], [], h0⟩ hrun
  obtain ⟨done, leaked, hordered⟩ := hfollows
  refine ⟨done, leaked, hordered, fun hsome => ?_⟩
  obtain ⟨s', w, hhandle, -⟩ := hordered.handle hsome
  unfold Bt.step
  dsimp only
  rw [hhandle]
  rfl

def scarceHeap : Heap := ⟨fun _ => false, 0, fun b => b == 1, fun _ h => absurd h Bool.false_ne_true⟩

theorem twoDispatches_ordered : ∃ s, Machine.run step (btAppTaskStartUp scarceHeap)
      [.dispatched (some 1) 0 (some fun _ => 7) 2 none true,
        .dispatched (some 2) 0 (some fun _ => 7) 2 none false, .handled] = some s ∧
    ∃ done leaked, Ordered scarceHeap
      (([.dispatched (some 1) 0 (some fun _ => 7) 2 none true,
        .dispatched (some 2) 0 (some fun _ => 7) 2 none false, .handled] : List Event).foldl
          Taken.follow ⟨[], 0⟩) done leaked s ∧
      (s.queue.items ≠ [] → (step s .handled).isSome) := by
  have hsome : (Machine.run step (btAppTaskStartUp scarceHeap)
      [.dispatched (some 1) 0 (some fun _ => 7) 2 none true,
        .dispatched (some 2) 0 (some fun _ => 7) 2 none false, .handled]).isSome = true := by
    decide +kernel
  obtain ⟨s, hrun⟩ := Option.isSome_iff_exists.mp hsome
  exact ⟨s, hrun, run_ordered hrun⟩

end EspBridges.Bt
