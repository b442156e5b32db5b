import EspBridges.Lib.Machine
import EspBridges.Modbus.Bus
import EspBridges.Modbus.MasterLaws

namespace EspBridges.Modbus

open Bytes Icom

/-- From what a server waits for and holds, by way of what it has heard, to what it will. -/
inductive Backlog (unit : Int) (start : Nat) : Bool → Memory → List Byte → Bool → Memory → Prop
  | nil (flag : Bool) (m : Memory) : Backlog unit start flag m [] flag m
  | all {m m' : Memory} {bytes : List Byte} {flag' : Bool} (master : ModbusT) (call : Call)
      (hmaster : (unitOf master).toNat = modbusBroadcastAddress) (hcounts : call.Counts)
      (hrefused : call.refused = none) (hwithin : call.Within start) (hempty : ¬call.Empty)
      (hrest : Backlog unit start false (m.after call) bytes flag' m') :
    Backlog unit start false m (frame (call.request master) ++ bytes) flag' m'
  | other {m m' : Memory} {bytes : List Byte} {flag' : Bool} (msg : List Byte)
      (hwhole : Whole .indication msg)
      (hother : byteAt msg 0 ≠ unit ∧ byteAt msg 0 ≠ modbusBroadcastAddress)
      (hrest : Backlog unit start true m bytes flag' m') :
    Backlog unit start false m (msg ++ bytes) flag' m'
  | reply {m m' : Memory} {bytes : List Byte} {flag' : Bool} (msg : List Byte)
      (hwhole : Whole .confirmation msg) (hrest : Backlog unit start false m bytes flag' m') :
    Backlog unit start true m (msg ++ bytes) flag' m'

theorem Backlog.trans {unit : Int} {start : Nat} {flag flag' flag'' : Bool} {m m' m'' : Memory}
    {bytes more : List Byte} (h : Backlog unit start flag m bytes flag' m')
    (h' : Backlog unit start flag' m' more flag'' m'') :
    Backlog unit start flag m (bytes ++ more) flag'' m'' := by
  induction h with
  | nil => exact h'
  | all master call hmaster hcounts hrefused hwithin hempty _ ih =>
    rw [List.append_assoc]
    exact .all master call hmaster hcounts hrefused hwithin hempty (ih h')
  | other msg hwhole hother _ ih =>
    rw [List.append_assoc]
    exact .other msg hwhole hother (ih h')
  | reply msg hwhole _ ih =>
    rw [List.append_assoc]
    exact .reply msg hwhole (ih h')

structure Behind (unit : Int) (start : Nat) (server : Server) (bytes : List Byte) (flag : Bool)
    (m : Memory) : Prop where
  slave : server.ctx.slave = unit
  first : server.mapping.registers.start = start
  sound : server.mapping.Sound
  backlog : Backlog unit start server.confirmationToIgnore server.mapping.memory bytes flag m

section Behind

variable {unit : Int} {start : Nat} {server : Server} {bytes : List Byte} {flag : Bool} {m : Memory}

theorem Behind.hear {more : List Byte} {flag' : Bool} {m' : Memory}
    (h : Behind unit start server bytes flag m) (h' : Backlog unit start flag m more flag' m') :
    Behind unit start server (bytes ++ more) flag' m' :=
  ⟨h.slave, h.first, h.sound, h.backlog.trans h'⟩

theorem Behind.caught_up (h : Behind unit start server [] flag m) :
    server.confirmationToIgnore = flag ∧ server.mapping.memory = m := by
  have hnone : ∀ {bytes : List Byte} {flag₀ : Bool} {m₀ : Memory}, bytes = [] →
      Backlog unit start flag₀ m₀ bytes flag m → flag₀ = flag ∧ m₀ = m := by
    intro bytes flag₀ m₀ hbytes hbacklog
    have hlong : ∀ {type : MsgType} {msg : List Byte}, Whole type msg →
        ∀ {rest : List Byte}, msg ++ rest ≠ [] := by
      intro type msg hwhole rest hnil
      have hmin := hwhole.length_ge
      rw [(List.append_eq_nil_iff.mp hnil).1] at hmin
      exact absurd hmin (by decide)
    cases hbacklog with
    | nil => exact ⟨rfl, rfl⟩
    | all master call _ hcounts hrefused =>
      exact absurd hbytes (hlong (whole_request hcounts hrefused))
    | other msg hwhole => exact absurd hbytes (hlong hwhole)
    | reply msg hwhole => exact absurd hbytes (hlong hwhole)
  exact hnone rfl h.backlog

theorem Behind.turn (h : Behind unit start server bytes flag m) (hbytes : bytes ≠ [])
    (rest : List Byte) :
    ∃ server' bytes', server.turn ⟨[], bytes ++ rest⟩ = some (server', ⟨[], bytes' ++ rest⟩) ∧
      Behind unit start server' bytes' flag m ∧ bytes'.length < bytes.length := by
  have hshorter : ∀ {type : MsgType} {msg : List Byte}, Whole type msg → ∀ {bytes' : List Byte},
      bytes'.length < (msg ++ bytes').length := by
    intro type msg hwhole bytes'
    have hmin := hwhole.length_ge
    rw [List.length_append]
    omega
  obtain ⟨hslave, hstart, hsound, hbacklog⟩ := h
  generalize hflag : server.confirmationToIgnore = flag₀ at hbacklog
  generalize hm : server.mapping.memory = m₀ at hbacklog
  cases hbacklog with
  | nil => exact absurd rfl hbytes
  | @all _ _ bytes' _ master call hmaster hcounts hrefused hwithin hempty hrest =>
    obtain ⟨response, hsettles, hkeeps, hturn⟩ := turn_own hflag (.inr hmaster) hcounts hrefused
      (by rw [hstart]; exact hwithin) hsound [] (bytes' ++ rest)
    have hflush : response.toFlush ≠ true := by
      intro htrue
      exact hempty (empty_of_serve (hsettles.flush htrue))
    rw [sentFor, if_pos hmaster, if_neg hflush] at hturn
    refine ⟨{ server with mapping := response.mapping }, bytes', ?_,
      ⟨hslave, hkeeps.startRegisters.trans hstart, hsettles.sound, ?_⟩,
      hshorter (whole_request hcounts hrefused)⟩
    · rw [List.append_assoc]
      exact hturn
    · show Backlog unit start server.confirmationToIgnore response.mapping.memory bytes' flag m
      rw [hflag, hsettles.after, hm]
      exact hrest
  | @other _ _ bytes' _ msg hwhole hother hrest =>
    have hheeds : ¬Heeds server.ctx (byteAt msg 0) := by
      rw [Heeds, hslave]
      exact fun hor => hor.elim hother.1 hother.2
    refine ⟨{ server with confirmationToIgnore := true }, bytes', ?_,
      ⟨hslave, hstart, hsound, ?_⟩, hshorter hwhole⟩
    · rw [List.append_assoc]
      exact turn_other hflag hwhole hheeds [] (bytes' ++ rest)
    · show Backlog unit start true server.mapping.memory bytes' flag m
      rw [hm]
      exact hrest
  | @reply _ _ bytes' _ msg hwhole hrest =>
    refine ⟨{ server with confirmationToIgnore := false }, bytes', ?_,
      ⟨hslave, hstart, hsound, ?_⟩, hshorter hwhole⟩
    · rw [List.append_assoc]
      exact turn_response hflag hwhole [] (bytes' ++ rest)
    · show Backlog unit start false server.mapping.memory bytes' flag m
      rw [hm]
      exact hrest

end Behind

section Exec

variable {n : Nat} {net : Net n} {call : Call}

theorem exec_refused {e : Errno} (h : call.refused = some e) :
    net.exec call = (.error e, ⟨[], net.rx⟩) := by
  rw [Net.exec, Call.make_eq, h]

theorem exec_sent (h : call.refused = none) :
    (net.exec call).2.sent = [frame (call.request net.master)] := make_sent h

theorem exec_silent (h : call.refused = none) (hrx : net.rx = []) :
    net.exec call = (.error .etimedout, ⟨[frame (call.request net.master)], []⟩) :=
  make_silent h hrx rfl

theorem exec_settled {mapping : ModbusMapping} {response : Response} (h : call.refused = none)
    (hslave : 0 ≤ net.master.slave ∧ net.master.slave ≤ 247)
    (hsettles : Settles net.master call mapping response) (hrx : net.rx = frame response.rsp) :
    net.exec call =
      (mapping.memory.result call, ⟨[frame (call.request net.master)], []⟩) := by
  have hmin := hsettles.whole.length_ge
  have hunit : byteAt (frame response.rsp) 0 = byteAt (call.request net.master) 0 := by
    rw [byteAt_frame (by rw [length_frame] at hmin; omega), hsettles.unit]
  rw [← hsettles.result]
  exact make_answered (.inl (unitOf_toNat hslave)) h hsettles.whole hunit (by rw [hrx])

end Exec

section Steps

variable {n : Nat} {layout : Layout n} {world : World n} {net net' : Net n}

def Net.Lags (net : Net n) (layout : Layout n) (i : Fin n) (flag : Bool) (m : Memory) : Prop :=
  Behind (layout.units i) (layout.starts i) (net.stations i).server (net.stations i).heard flag m

/-- The three states of a call: there is none, one server is to answer it, it is answered or nobody
will. -/
inductive Phase (layout : Layout n) (world : World n) (net : Net n) : Prop
  | idle (hpending : net.pending = none) (hrx : net.rx = [])
      (hall : ∀ i, net.Lags layout i false (world.memories i))
      (hresults : world.results = net.results)
  | asked (call : Call) (i : Fin n) (m : Memory) (bytes : List Byte)
      (hpending : net.pending = some call) (hcounts : call.Counts)
      (hrefused : call.refused = none) (hrx : net.rx = []) (hslave : net.master.slave = layout.units i)
      (hwithin : call.Within (layout.starts i))
      (hown : Behind (layout.units i) (layout.starts i) (net.stations i).server bytes false m)
      (hheard : (net.stations i).heard = bytes ++ frame (call.request net.master))
      (hothers : ∀ j, j ≠ i → net.Lags layout j true (world.memories j))
      (hworld : world.memories i = m.after call)
      (hresults : world.results = net.results ++ [m.result call])
  | answered (call : Call) (got : Except Errno Got) (sent : List (List Byte))
      (hpending : net.pending = some call) (hexec : net.exec call = (got, ⟨sent, []⟩))
      (hready : net.rx ≠ [] ∨ net.master.slave = modbusBroadcastAddress)
      (hall : ∀ i, net.Lags layout i false (world.memories i))
      (hresults : world.results = net.results ++ [got])

def Net.seat (net : Net n) (i : Fin n) (station : Station) : Net n :=
  { net with stations := fun j => if j = i then station else net.stations j }

theorem seat_same (i : Fin n) (station : Station) : (net.seat i station).stations i = station :=
  if_pos rfl

theorem seat_other {i j : Fin n} (h : j ≠ i) (station : Station) :
    (net.seat i station).stations j = net.stations j := if_neg h

def total {α : Type} (f : α → Nat) : List α → Nat
  | [] => 0
  | x :: xs => f x + total f xs

/-- How much there is to take before nothing is left, with the response that is still to come. -/
def Net.owed (net : Net n) : Nat :=
  total (fun i => (net.stations i).heard.length) (List.finRange n) +
    if net.pending.isSome ∧ net.rx = [] ∧ net.master.slave ≠ modbusBroadcastAddress
    then modbusRtuMaxAduLength * n else 0

theorem total_le {α : Type} {f g : α → Nat} {c : Nat} {xs : List α}
    (hle : ∀ y ∈ xs, f y ≤ g y + c) : total f xs ≤ total g xs + c * xs.length := by
  induction xs with
  | nil => exact Nat.zero_le _
  | cons y xs ih =>
    have hrest := ih fun z hz => hle z (.tail _ hz)
    have hfirst := hle y (.head _)
    rw [total, total, List.length_cons, Nat.mul_succ]
    omega

theorem total_lt {α : Type} {f g : α → Nat} {c : Nat} {x : α} {xs : List α}
    (hle : ∀ y ∈ xs, f y ≤ g y + c) (hmem : x ∈ xs) (hlt : f x < g x + c) :
    total f xs < total g xs + c * xs.length := by
  induction hmem with
  | head ys =>
    have hrest := total_le fun z hz => hle z (.tail _ hz)
    rw [total, total, List.length_cons, Nat.mul_succ]
    omega
  | tail y _ ih =>
    have hrest := ih fun z hz => hle z (.tail _ hz)
    have hfirst := hle y (.head _)
    rw [total, total, List.length_cons, Nat.mul_succ]
    omega

theorem owed_seat {i : Fin n} {station : Station}
    (h : station.heard.length < (net.stations i).heard.length) :
    (net.seat i station).owed < net.owed := by
  have hle : ∀ j ∈ List.finRange n,
      ((net.seat i station).stations j).heard.length ≤ (net.stations j).heard.length + 0 := by
    intro j _
    by_cases hj : j = i
    · subst hj
      rw [seat_same]
      omega
    · rw [seat_other hj]
      exact Nat.le_refl _
  have hlt : ((net.seat i station).stations i).heard.length < (net.stations i).heard.length + 0 := by
    rw [seat_same]
    exact h
  have hsum := total_lt hle (List.mem_finRange i) hlt
  rw [Nat.zero_mul] at hsum
  exact Nat.add_lt_add_right hsum _

theorem hear_nil (station : Station) : station.hear [] = station := by
  unfold Station.hear
  rw [List.append_nil]

theorem turn_behind {unit : Int} {start : Nat} {i : Fin n} {bytes rest : List Byte} {flag : Bool}
    {m : Memory} (h : Behind unit start (net.stations i).server bytes flag m) (hbytes : bytes ≠ [])
    (hheard : (net.stations i).heard = bytes ++ rest) :
    ∃ server' bytes', net.turn i = some (net.seat i ⟨server', bytes' ++ rest⟩) ∧
      Behind unit start server' bytes' flag m ∧ bytes'.length < bytes.length := by
  obtain ⟨server', bytes', hturn, hbehind, hshorter⟩ := h.turn hbytes rest
  refine ⟨server', bytes', ?_, hbehind, hshorter⟩
  have hsome : (net.stations i).heard ≠ [] := by
    rw [hheard]
    exact fun hnil => hbytes (List.append_eq_nil_iff.mp hnil).1
  unfold Net.turn
  dsimp only
  rw [if_neg hsome, hheard, hturn, Option.map_some]
  refine congrArg some ?_
  unfold Net.seat
  dsimp only [List.flatten_nil]
  rw [List.append_nil]
  refine congrArg (fun stations => Net.mk _ _ _ stations _) (funext fun j => ?_)
  rw [hear_nil]

theorem lags_seat {i : Fin n} {server' : Server} {bytes' : List Byte} {flag : Bool}
    {memories : Fin n → Memory}
    (hown : Behind (layout.units i) (layout.starts i) server' bytes' flag (memories i))
    {j : Fin n} (h : net.Lags layout j flag (memories j)) :
    (net.seat i ⟨server', bytes'⟩).Lags layout j flag (memories j) := by
  unfold Net.Lags
  by_cases hj : j = i
  · subst hj
    rw [seat_same]
    exact hown
  · rw [seat_other hj]
    exact h

theorem heard_of_turn {i : Fin n} (h : net.turn i = some net') : (net.stations i).heard ≠ [] := by
  intro hnil
  unfold Net.turn at h
  dsimp only at h
  rw [if_pos hnil] at h
  exact nomatch h

theorem turn_pending {i : Fin n} (h : net.turn i = some net') : net'.pending = net.pending := by
  unfold Net.turn at h
  dsimp only at h
  rw [if_neg (heard_of_turn h), Option.map_eq_some_iff] at h
  obtain ⟨_, _, rfl⟩ := h
  rfl

theorem turn_answers {call : Call} {i : Fin n} {m : Memory} (hcounts : call.Counts)
    (hrefused : call.refused = none) (hrx : net.rx = [])
    (hslave : net.master.slave = layout.units i) (hwithin : call.Within (layout.starts i))
    (hown : Behind (layout.units i) (layout.starts i) (net.stations i).server [] false m)
    (hheard : (net.stations i).heard = frame (call.request net.master)) :
    ∃ mapping response server', m = mapping.memory ∧ Settles net.master call mapping response ∧
      Behind (layout.units i) (layout.starts i) server' [] false (m.after call) ∧
      net.turn i = some { net with
        rx := frame response.rsp
        stations := fun j =>
          if j = i then ⟨server', []⟩ else (net.stations j).hear (frame response.rsp) } := by
  obtain ⟨hflag, rfl⟩ := hown.caught_up
  have hunicast := layout.unicast i
  have hunit : ((unitOf net.master).toNat : Int) = layout.units i := by
    rw [unitOf_toNat (by omega), hslave]
  obtain ⟨response, hsettles, hkeeps, hturn⟩ := turn_own hflag
    (.inl (hunit.trans hown.slave.symm)) hcounts hrefused (by rw [hown.first]; exact hwithin) hown.sound [] []
  have hsome : (net.stations i).heard ≠ [] := by
    intro hnil
    have hlength := congrArg List.length (hheard.symm.trans hnil)
    rw [length_frame, List.length_nil] at hlength
    omega
  have hrest : (if response.toFlush then ([] : List Byte) else []) = [] := ite_self []
  have hbroadcast : (unitOf net.master).toNat ≠ modbusBroadcastAddress := by
    unfold modbusBroadcastAddress
    omega
  rw [List.append_nil, hrest, sentFor, if_neg hbroadcast] at hturn
  refine ⟨_, response, { (net.stations i).server with mapping := response.mapping }, rfl, hsettles,
    ⟨hown.slave, hkeeps.startRegisters.trans hown.first, hsettles.sound, ?_⟩, ?_⟩
  · show Backlog _ _ (net.stations i).server.confirmationToIgnore response.mapping.memory [] false _
    rw [hflag, hsettles.after]
    exact .nil false _
  · unfold Net.turn
    dsimp only
    rw [if_neg hsome, hheard, hturn, Option.map_some, hrx]
    refine congrArg some ?_
    have hsent : ([] ++ [frame response.rsp]).flatten = frame response.rsp := List.append_nil _
    dsimp only
    rw [hsent, List.nil_append]

theorem owed_answer {call : Call} {i : Fin n} {server : Server} {bytes : List Byte}
    (hpending : net.pending = some call) (hrx : net.rx = []) (hslave : 1 ≤ net.master.slave)
    (hheard : (net.stations i).heard ≠ []) (hsome : bytes ≠ [])
    (hbytes : bytes.length ≤ modbusRtuMaxAduLength) : Net.owed { net with
      rx := bytes
      stations := fun j => if j = i then ⟨server, []⟩ else (net.stations j).hear bytes } <
      net.owed := by
  have hle : ∀ j ∈ List.finRange n,
      (if j = i then Station.mk server [] else (net.stations j).hear bytes).heard.length ≤
        (net.stations j).heard.length + modbusRtuMaxAduLength := by
    intro j _
    by_cases hj : j = i
    · rw [if_pos hj]
      exact Nat.zero_le _
    · rw [if_neg hj]
      show ((net.stations j).heard ++ bytes).length ≤ _
      rw [List.length_append]
      omega
  have hlt : (if i = i then Station.mk server [] else (net.stations i).hear bytes).heard.length <
      (net.stations i).heard.length + modbusRtuMaxAduLength := by
    rw [if_pos rfl]
    exact Nat.lt_of_lt_of_le (List.length_pos_iff.mpr hheard) (Nat.le_add_right _ _)
  have hsum := total_lt hle (List.mem_finRange i) hlt
  rw [List.length_finRange] at hsum
  unfold Net.owed
  dsimp only
  rw [if_neg fun h => hsome h.2.1, if_pos ⟨by rw [hpending]; rfl, hrx, by
    unfold modbusBroadcastAddress
    omega⟩]
  exact hsum

theorem turn_asked {call : Call} {i : Fin n} {m : Memory} (hpending : net.pending = some call)
    (hcounts : call.Counts) (hrefused : call.refused = none) (hrx : net.rx = [])
    (hslave : net.master.slave = layout.units i) (hwithin : call.Within (layout.starts i))
    (hown : Behind (layout.units i) (layout.starts i) (net.stations i).server [] false m)
    (hasked : (net.stations i).heard = frame (call.request net.master))
    (hothers : ∀ j, j ≠ i → net.Lags layout j true (world.memories j))
    (hworld : world.memories i = m.after call)
    (hresults : world.results = net.results ++ [m.result call]) :
    ∃ net', net.turn i = some net' ∧ Phase layout world net' ∧ net'.owed < net.owed := by
  obtain ⟨mapping, response, server', hm, hsettles, hbehind, hturn⟩ :=
    turn_answers hcounts hrefused hrx hslave hwithin hown hasked
  have hunicast := layout.unicast i
  have hanswer : frame response.rsp ≠ [] := by
    intro hnil
    have hmin := hsettles.whole.length_ge
    rw [hnil] at hmin
    exact absurd hmin (by decide)
  have hheard : (net.stations i).heard ≠ [] := heard_of_turn hturn
  refine ⟨_, hturn, .answered call (m.result call) [frame (call.request net.master)] hpending
    ?_ (.inl hanswer) (fun j => ?_) hresults,
    owed_answer hpending hrx (by omega) hheard hanswer hsettles.whole.length_le⟩
  · rw [hm]
    exact exec_settled hrefused (by dsimp only; omega) hsettles rfl
  · unfold Net.Lags
    by_cases hj : j = i
    · subst hj
      dsimp only
      rw [if_pos rfl, hworld]
      exact hbehind
    · dsimp only
      rw [if_neg hj]
      have hreply : Backlog (layout.units j) (layout.starts j) true (world.memories j)
          (frame response.rsp ++ []) false (world.memories j) :=
        .reply (frame response.rsp) hsettles.whole (.nil false _)
      rw [List.append_nil] at hreply
      exact (hothers j hj).hear hreply

theorem Phase.turn (h : Phase layout world net) {i : Fin n} (hheard : (net.stations i).heard ≠ []) :
    ∃ net', net.turn i = some net' ∧ Phase layout world net' ∧ net'.owed < net.owed := by
  cases h with
  | idle hpending hrx hall hresults =>
    obtain ⟨server', bytes', hseat, hbehind, hshorter⟩ := turn_behind (hall i) hheard
      (List.append_nil _).symm
    rw [List.append_nil] at hseat
    exact ⟨_, hseat, .idle hpending hrx (fun j => lags_seat hbehind (hall j)) hresults,
      owed_seat hshorter⟩
  | answered call got sent hpending hexec hready hall hresults =>
    obtain ⟨server', bytes', hseat, hbehind, hshorter⟩ := turn_behind (hall i) hheard
      (List.append_nil _).symm
    rw [List.append_nil] at hseat
    exact ⟨_, hseat,
      .answered call got sent hpending hexec hready (fun j => lags_seat hbehind (hall j)) hresults,
      owed_seat hshorter⟩
  | asked call k m bytes hpending hcounts hrefused hrx hslave hwithin hown hasked hothers hworld hresults =>
    by_cases hik : i = k
    · subst hik
      by_cases hbytes : bytes = []
      · subst hbytes
        exact turn_asked hpending hcounts hrefused hrx hslave hwithin hown hasked hothers hworld hresults
      · obtain ⟨server', bytes', hseat, hbehind, hshorter⟩ := turn_behind hown hbytes hasked
        refine ⟨_, hseat, .asked call i m bytes' hpending hcounts hrefused hrx hslave hwithin ?_ ?_ ?_ hworld
          hresults, owed_seat ?_⟩
        · rw [seat_same]
          exact hbehind
        · rw [seat_same]
          rfl
        · intro j hj
          unfold Net.Lags
          rw [seat_other hj]
          exact hothers j hj
        · rw [hasked, List.length_append, List.length_append]
          omega
    · obtain ⟨server', bytes', hseat, hbehind, hshorter⟩ := turn_behind (hothers i hik) hheard
        (List.append_nil _).symm
      rw [List.append_nil] at hseat
      refine ⟨_, hseat, .asked call k m bytes hpending hcounts hrefused hrx hslave hwithin ?_ ?_ ?_ hworld
        hresults, owed_seat hshorter⟩
      · rw [seat_other (Ne.symm hik)]
        exact hown
      · rw [seat_other (Ne.symm hik)]
        exact hasked
      · intro j hj
        exact lags_seat hbehind (hothers j hj)

/-- No call is given up: it comes back when something has come in for it, or when nothing will. -/
def Net.Prompt (net : Net n) : Event n → Prop
  | .ret => net.rx ≠ [] ∨ net.master.slave = modbusBroadcastAddress ∨
    ∀ i, (net.stations i).heard = []
  | _ => True

instance (net : Net n) : ∀ e, Decidable (net.Prompt e)
  | .ret => inferInstanceAs (Decidable (_ ∨ _ ∨ ∀ _, _))
  | .call .. => isTrue trivial
  | .turn _ => isTrue trivial

theorem Phase.ret (h : Phase layout world net) (hprompt : net.Prompt .ret)
    (hret : net.ret = some net') :
    Phase layout world net' ∧ net'.pending = none ∧ world.results = net'.results := by
  unfold Net.ret at hret
  cases h with
  | idle hpending hrx hall hresults =>
    rw [hpending] at hret
    exact nomatch hret
  | asked call i m bytes hpending hcounts hrefused hrx hslave hwithin hown hheard =>
    have hunicast := layout.unicast i
    rcases hprompt with hcome | hbroadcast | hnone
    · exact absurd hrx hcome
    · unfold modbusBroadcastAddress at hbroadcast
      omega
    · have hlength := congrArg List.length (hheard.symm.trans (hnone i))
      rw [List.length_append, length_frame, List.length_nil] at hlength
      omega
  | answered call got sent hpending hexec hready hall hresults =>
    rw [hpending, Option.map_some, hexec] at hret
    obtain rfl := Option.some.inj hret
    exact ⟨.idle rfl rfl hall hresults, rfl, hresults⟩

theorem answer_unit (i : Fin n) (call : Call) :
    world.answer layout (layout.units i) call = (world.memories i).result call := by
  have hfound : ((List.finRange n).find? fun j => layout.units j = layout.units i).isSome :=
    List.find?_isSome.mpr ⟨i, List.mem_finRange i, decide_eq_true rfl⟩
  obtain ⟨j, hj⟩ := Option.isSome_iff_exists.mp hfound
  have hfits := List.find?_some hj
  have hsame := layout.distinct j i (of_decide_eq_true hfits)
  unfold World.answer
  rw [hj, hsame]

/-- The calls that are made: of a unit that is there, or of all units and about something. -/
def Event.Proper (layout : Layout n) : Event n → Prop
  | .call unit made => made.Counts ∧
    (unit = modbusBroadcastAddress ∧ ¬made.Empty ∧ (∀ i, made.Within (layout.starts i)) ∨
      ∃ i, layout.units i = unit ∧ made.Within (layout.starts i))
  | _ => True

theorem setSlave_some {ctx ctx' : ModbusT} {slave : Int} (h : modbusSetSlave ctx slave = some ctx') :
    ctx'.slave = slave ∧ 0 ≤ slave ∧ slave ≤ 247 := by
  unfold modbusSetSlave at h
  split at h
  next hrange =>
    obtain rfl := Option.some.inj h
    exact ⟨rfl, hrange⟩
  next => exact nomatch h

theorem Phase.call {unit : Int} {call : Call} (h : Phase layout world net)
    (hproper : Event.Proper layout (.call unit call)) (hcall : net.call unit call = some net') :
    Phase layout (world.perform layout unit call) net' := by
  unfold Net.call at hcall
  by_cases hsome : net.pending.isSome
  · rw [if_pos hsome] at hcall
    exact nomatch hcall
  rw [if_neg hsome, Option.map_eq_some_iff] at hcall
  obtain ⟨master, hset, hnet⟩ := hcall
  obtain ⟨hslave, hrange⟩ := setSlave_some hset
  obtain ⟨hcounts, hproper⟩ := hproper
  dsimp only at hnet
  cases h with
  | asked _ _ _ _ hpending =>
    rw [hpending] at hsome
    exact absurd rfl hsome
  | answered _ _ _ hpending =>
    rw [hpending] at hsome
    exact absurd rfl hsome
  | idle hpending hrx hall hresults =>
    unfold World.perform
    cases hrefused : call.refused with
    | some e =>
      rw [exec_refused hrefused, if_pos rfl] at hnet
      subst hnet
      refine .idle hpending hrx hall ?_
      dsimp only
      rw [hresults]
    | none =>
      have hsent := @exec_sent _ { net with master } _ hrefused
      have hflat : [frame (call.request master)].flatten = frame (call.request master) :=
        List.append_nil _
      rw [hsent, if_neg (List.cons_ne_nil _ _)] at hnet
      dsimp only at hnet
      rw [hflat] at hnet
      subst hnet
      have hmin := (@whole_request master _ hcounts hrefused).length_ge
      have hunit : byteAt (frame (call.request master)) 0 = unit := by
        rw [byteAt_frame (by rw [length_frame] at hmin; omega), request_unit, ← hslave]
        exact unitOf_toNat (by omega)
      dsimp only
      rcases hproper with ⟨hall0, hempty, hwithin⟩ | ⟨i, hi, hwithin⟩
      · have hmaster : (unitOf master).toNat = modbusBroadcastAddress := by
          have hto := @unitOf_toNat master (by omega)
          unfold modbusBroadcastAddress at hall0 ⊢
          omega
        rw [if_pos hall0]
        refine .answered call (.error .etimedout) [frame (call.request master)] rfl
          (exec_silent hrefused hrx) (.inr (hslave.trans hall0)) (fun j => ?_) ?_
        · have hbroadcast : Backlog (layout.units j) (layout.starts j) false (world.memories j)
              (frame (call.request master) ++ []) false ((world.memories j).after call) :=
            .all master call hmaster hcounts hrefused (hwithin j) hempty (.nil false _)
          rw [List.append_nil] at hbroadcast
          exact (hall j).hear hbroadcast
        · rw [hresults]
      · have hunicast := layout.unicast i
        have hother : unit ≠ modbusBroadcastAddress := by
          unfold modbusBroadcastAddress
          omega
        rw [if_neg hother]
        refine .asked call i (world.memories i) (net.stations i).heard rfl hcounts hrefused hrx
          (hslave.trans hi.symm) hwithin (hall i) rfl (fun j hj => ?_) (if_pos hi) ?_
        · have hne : layout.units j ≠ unit :=
            fun hsame => hj (layout.distinct j i (hsame.trans hi.symm))
          have hpassed : Backlog (layout.units j) (layout.starts j) false (world.memories j)
              (frame (call.request master) ++ []) true (world.memories j) :=
            .other _ (whole_request hcounts hrefused)
              ⟨by rw [hunit]; exact hne.symm, by omega⟩ (.nil true _)
          rw [List.append_nil] at hpassed
          dsimp only
          rw [if_neg hne]
          exact (hall j).hear hpassed
        · dsimp only
          rw [hresults, ← hi, answer_unit]

theorem Phase.step {e : Event n} (h : Phase layout world net)
    (hok : e.Proper layout ∧ net.Prompt e) (hstep : net.step e = some net') :
    Phase layout (world.follow layout e) net' := by
  cases e with
  | call unit call => exact h.call hok.1 hstep
  | turn i =>
    obtain ⟨net₁, hturn, hphase, -⟩ := h.turn (heard_of_turn hstep)
    obtain rfl := Option.some.inj (hturn.symm.trans hstep)
    exact hphase
  | ret => exact (h.ret hok.2 hstep).1

structure Net.Fresh (net : Net n) (layout : Layout n) : Prop where
  pending : net.pending = none
  rx : net.rx = []
  results : net.results = []
  units : ∀ i, (net.stations i).server.ctx.slave = layout.units i
  starts : ∀ i, (net.stations i).server.mapping.registers.start = layout.starts i
  sound : ∀ i, (net.stations i).server.mapping.Sound
  flags : ∀ i, (net.stations i).server.confirmationToIgnore = false
  heard : ∀ i, (net.stations i).heard = []

theorem Net.Fresh.phase (h : net.Fresh layout) : Phase layout net.world net := by
  refine .idle h.pending h.rx (fun i => ⟨h.units i, h.starts i, h.sound i, ?_⟩) rfl
  rw [h.flags i, h.heard i]
  exact .nil false _

theorem phase_of_run {es : List (Event n)} (hfresh : net.Fresh layout)
    (hproper : ∀ e ∈ es, e.Proper layout) (hprompt : Machine.Guarded Net.step Net.Prompt net es)
    (hrun : Machine.run Net.step net es = some net') :
    Phase layout (es.foldl (World.follow layout) net.world) net' :=
  Machine.run_follows_guarded (fun _ _ _ _ hok h hstep => Phase.step h hok hstep)
    (hprompt.forall hproper) hfresh.phase hrun

theorem Phase.results (h : Phase layout world net) :
    ∃ owed, world.results = net.results ++ owed ∧
      owed.length = if net.pending.isSome then 1 else 0 := by
  cases h with
  | idle hpending _ _ hresults =>
    refine ⟨[], hresults.trans (List.append_nil _).symm, ?_⟩
    rw [hpending]
    rfl
  | asked _ _ _ _ hpending _ _ _ _ _ _ _ _ _ hresults =>
    refine ⟨_, hresults, ?_⟩
    rw [hpending]
    rfl
  | answered _ _ _ hpending _ _ _ hresults =>
    refine ⟨_, hresults, ?_⟩
    rw [hpending]
    rfl

theorem Phase.memory (h : Phase layout world net) {i : Fin n}
    (hheard : (net.stations i).heard = []) :
    (net.stations i).server.mapping.memory = world.memories i := by
  have hlags : ∀ {flag : Bool}, net.Lags layout i flag (world.memories i) →
      (net.stations i).server.mapping.memory = world.memories i := by
    intro flag hlag
    unfold Net.Lags at hlag
    rw [hheard] at hlag
    exact hlag.caught_up.2
  cases h with
  | idle _ _ hall => exact hlags (hall i)
  | answered _ _ _ _ _ _ hall => exact hlags (hall i)
  | asked call k m bytes _ _ _ _ _ _ _ hasked hothers =>
    by_cases hik : i = k
    · subst hik
      have hlength := congrArg List.length (hasked.symm.trans hheard)
      rw [List.length_append, length_frame, List.length_nil] at hlength
      omega
    · exact hlags (hothers i hik)

theorem Phase.goes_on (h : Phase layout world net) (hpending : net.pending.isSome) :
    (∃ i, (net.turn i).isSome) ∨
      ∃ net', net.ret = some net' ∧ net'.pending = none ∧ world.results = net'.results := by
  by_cases hsome : ∃ i, (net.stations i).heard ≠ []
  · obtain ⟨i, hi⟩ := hsome
    obtain ⟨net', hturn, -⟩ := h.turn hi
    exact .inl ⟨i, by rw [hturn]; rfl⟩
  · have hnone : ∀ i, (net.stations i).heard = [] :=
      fun i => Decidable.byContradiction fun hi => hsome ⟨i, hi⟩
    have hback : net.ret.isSome := by
      unfold Net.ret
      rw [Option.isSome_map]
      exact hpending
    obtain ⟨net', hret⟩ := Option.isSome_iff_exists.mp hback
    exact .inr ⟨net', hret, (h.ret (.inr (.inr hnone)) hret).2⟩

/-- Whatever the order of the turns, the calls come to what they would one after another, in the
order in which they are made: what is back is right, and what nobody is behind with is there. -/
theorem run_performs {es : List (Event n)} (hfresh : net.Fresh layout)
    (hproper : ∀ e ∈ es, e.Proper layout) (hprompt : Machine.Guarded Net.step Net.Prompt net es)
    (hrun : Machine.run Net.step net es = some net') :
    (∃ owed, (es.foldl (World.follow layout) net.world).results = net'.results ++ owed ∧
      owed.length = if net'.pending.isSome then 1 else 0) ∧
    ∀ i, if (net'.stations i).heard = []
      then (net'.stations i).server.mapping.memory =
        (es.foldl (World.follow layout) net.world).memories i
      else (net'.turn i).isSome := by
  have hphase := phase_of_run hfresh hproper hprompt hrun
  refine ⟨hphase.results, fun i => ?_⟩
  split
  next hheard => exact hphase.memory hheard
  next hheard =>
    obtain ⟨net₁, hturn, -⟩ := hphase.turn hheard
    rw [hturn]
    rfl

def twoUnits : Layout 2 where
  units i := 17 + i.val
  starts _ := 0
  unicast i := by omega
  distinct i j h := Fin.ext (by omega)

def twoStations : Net 2 where
  master := ⟨-1, 3⟩
  pending := none
  rx := []
  stations i := ⟨⟨⟨twoUnits.units i, 3⟩, false, ⟨⟨0, []⟩, ⟨0, []⟩, ⟨0, [42]⟩, ⟨0, []⟩⟩⟩, []⟩
  results := []

theorem twoStations_fresh : twoStations.Fresh twoUnits where
  pending := rfl
  rx := rfl
  results := rfl
  units _ := rfl
  starts _ := rfl
  sound _ := ⟨fun _ h => absurd h List.not_mem_nil, fun _ h => absurd h List.not_mem_nil⟩
  flags _ := rfl
  heard _ := rfl

def writeAndRead : List (Event 2) :=
  [.call 17 (.writeRegister 0 7), .turn 1, .turn 0, .ret, .call 18 (.readRegisters 0 1)]

theorem writeAndRead_proper : ∀ e ∈ writeAndRead, e.Proper twoUnits :=
  List.forall_mem_cons.mpr ⟨⟨trivial, .inr ⟨0, rfl, trivial⟩⟩, List.forall_mem_cons.mpr ⟨trivial,
    List.forall_mem_cons.mpr ⟨trivial, List.forall_mem_cons.mpr ⟨trivial,
      List.forall_mem_singleton.mpr ⟨Int.natCast_nonneg 1, .inr ⟨1, rfl, trivial⟩⟩⟩⟩⟩⟩

theorem twoUnits_perform : ∃ net', Machine.run Net.step twoStations writeAndRead = some net' ∧
    (∃ owed, (writeAndRead.foldl (World.follow twoUnits) twoStations.world).results =
      net'.results ++ owed ∧ owed.length = if net'.pending.isSome then 1 else 0) ∧
    ∀ i, if (net'.stations i).heard = []
      then (net'.stations i).server.mapping.memory =
        (writeAndRead.foldl (World.follow twoUnits) twoStations.world).memories i
      else (net'.turn i).isSome := by
  have hsome : (Machine.run Net.step twoStations writeAndRead).isSome = true := by decide +kernel
  obtain ⟨net', hrun⟩ := Option.isSome_iff_exists.mp hsome
  have hprompt : Machine.Guarded Net.step Net.Prompt twoStations writeAndRead := by decide +kernel
  exact ⟨net', hrun, run_performs twoStations_fresh writeAndRead_proper hprompt hrun⟩

/-- And a call does come back: the turns that can be taken before it are limited in number, and
when there are none left it comes back with what it was to come to. -/
theorem run_returns {es : List (Event n)} {turns : List (Fin n)} {net'' : Net n}
    (hfresh : net.Fresh layout) (hproper : ∀ e ∈ es, e.Proper layout)
    (hprompt : Machine.Guarded Net.step Net.Prompt net es)
    (hrun : Machine.run Net.step net es = some net') (hpending : net'.pending.isSome)
    (hturns : Machine.run Net.step net' (turns.map .turn) = some net'') :
    turns.length ≤ net'.owed ∧ ((∃ i, (net''.turn i).isSome) ∨
      ∃ net₁, net''.ret = some net₁ ∧ net₁.pending = none ∧
        (es.foldl (World.follow layout) net.world).results = net₁.results) := by
  have hphase := phase_of_run hfresh hproper hprompt hrun
  generalize es.foldl (World.follow layout) net.world = world at hphase
  have hstep : ∀ (s : Net n) (e : Event n) (s' : Net n), (∃ i, e = .turn i) →
      Phase layout world s ∧ s.pending = net'.pending → s.step e = some s' →
      (Phase layout world s' ∧ s'.pending = net'.pending) ∧ s'.owed < s.owed := by
    rintro s e s' ⟨i, rfl⟩ ⟨h, hsame⟩ hs
    obtain ⟨s₁, hturn, hphase', hless⟩ := h.turn (heard_of_turn hs)
    obtain rfl := Option.some.inj (hturn.symm.trans hs)
    exact ⟨⟨hphase', (turn_pending hs).trans hsame⟩, hless⟩
  have hok : ∀ e ∈ turns.map Event.turn, ∃ i, e = .turn i := by
    intro e he
    obtain ⟨i, -, rfl⟩ := List.mem_map.mp he
    exact ⟨i, rfl⟩
  obtain ⟨⟨hphase', hsame⟩, hlength⟩ := Machine.run_length_le hstep hok ⟨hphase, rfl⟩ hturns
  rw [List.length_map] at hlength
  refine ⟨by omega, hphase'.goes_on ?_⟩
  rw [hsame]
  exact hpending

theorem twoUnits_return : ∃ net' net'' : Net 2,
    Machine.run Net.step twoStations writeAndRead = some net' ∧
      Machine.run Net.step net' ([0, 1, 1, 0].map .turn) = some net'' ∧
      [0, 1, 1, 0].length ≤ net'.owed ∧ ((∃ i, (net''.turn i).isSome) ∨
        ∃ net₁, net''.ret = some net₁ ∧ net₁.pending = none ∧
          (writeAndRead.foldl (World.follow twoUnits) twoStations.world).results =
            net₁.results) := by
  have hsome : ((Machine.run Net.step twoStations writeAndRead).bind fun net' =>
      if net'.pending.isSome then Machine.run Net.step net' ([0, 1, 1, 0].map .turn)
      else none).isSome = true := by decide +kernel
  obtain ⟨net'', hnet''⟩ := Option.isSome_iff_exists.mp hsome
  obtain ⟨net', hrun, hafter⟩ := Option.bind_eq_some_iff.mp hnet''
  have hpending : net'.pending.isSome = true := by
    by_cases hpending : net'.pending.isSome = true
    · exact hpending
    · rw [if_neg hpending] at hafter
      exact nomatch hafter
  rw [if_pos hpending] at hafter
  have hprompt : Machine.Guarded Net.step Net.Prompt twoStations writeAndRead := by decide +kernel
  exact ⟨net', net'', hrun, hafter,
    run_returns twoStations_fresh writeAndRead_proper hprompt hrun hpending hafter⟩

end Steps

end EspBridges.Modbus
