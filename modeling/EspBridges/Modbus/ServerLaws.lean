import EspBridges.Lib.Machine
import EspBridges.Modbus.TurnLaws

namespace EspBridges.Modbus

open Bytes Icom

section Turns

variable {server server' : Server} {line line' : Line}

inductive Turned (server : Server) (line : Line) : Option (Server × Line) → Prop
  | passed (flag : Bool) (rx : List Byte) :
    Turned server line (some ({ server with confirmationToIgnore := flag }, ⟨line.sent, rx⟩))
  | answered (body rest : List Byte) (response : Response)
      (hflag : server.confirmationToIgnore = false) (hrx : line.rx = frame body ++ rest)
      (hwhole : Whole .indication (frame body))
      (hheeds : Heeds server.ctx (byteAt (frame body) 0))
      (hanswer : Answer ⟨byteAt (frame body) 0, byteAt (frame body) 1⟩ server.mapping response) :
    Turned server line (some ({ server with mapping := response.mapping },
      ⟨line.sent ++ sentFor (byteAt (frame body) 0) response.rsp,
        if response.toFlush then [] else rest⟩))
  | strayed (body rest : List Byte) (hflag : server.confirmationToIgnore = false)
      (hrx : line.rx = frame body ++ rest) (hwhole : Whole .indication (frame body))
      (hheeds : Heeds server.ctx (byteAt (frame body) 0))
      (hfunction : byteAt (frame body) 1 = modbusFcWriteAndReadRegisters)
      (hstray : Stray (frame body) server.mapping) : Turned server line none

theorem turn_turned : Turned server line (server.turn line) := by
  have hpassed : ∀ (type : MsgType) (flag : Bool), Turned server line
      (some ({ server with confirmationToIgnore := flag },
        (receiveMsg type server.ctx line).2.2)) := by
    intro type flag
    have hsent := @receiveMsg_sent type server.ctx line
    have hpass := @Turned.passed server line flag (receiveMsg type server.ctx line).2.2.rx
    rw [← hsent] at hpass
    exact hpass
  by_cases hflag : server.confirmationToIgnore = true
  · have hturn : server.turn line = some ({ server with confirmationToIgnore := false },
        (receiveMsg .confirmation server.ctx line).2.2) := by
      unfold Server.turn modbusRtuReceive
      rw [hflag, if_pos rfl]
      rfl
    rw [hturn]
    exact hpassed .confirmation false
  · have hnot : server.confirmationToIgnore = false := Bool.eq_false_iff.mpr hflag
    obtain ⟨rc, msg, line₁, hreceive⟩ : ∃ rc msg line₁,
        receiveMsg .indication server.ctx line = (rc, msg, line₁) := ⟨_, _, _, rfl⟩
    have hpass := hpassed .indication
    rw [hreceive] at hpass
    match rc, hreceive with
    | .error e, hreceive =>
      have hturn : server.turn line = some ({ server with confirmationToIgnore := false }, line₁) := by
        unfold Server.turn modbusRtuReceive
        rw [hnot, if_neg Bool.false_ne_true, hreceive]
      rw [hturn]
      exact hpass false
    | .ok 0, hreceive =>
      have hturn : server.turn line = some ({ server with confirmationToIgnore := true }, line₁) := by
        unfold Server.turn modbusRtuReceive
        rw [hnot, if_neg Bool.false_ne_true, hreceive]
        rfl
      rw [hturn]
      exact hpass true
    | .ok (n + 1), hreceive =>
      obtain ⟨hwhole, hrx, hsent, hcheck⟩ := receiveMsg_ok hreceive
      obtain ⟨hheeds, -, body, rfl⟩ :=
        checkIntegrity_pos (Nat.le_trans (by decide) hwhole.length_ge) (Nat.succ_pos n) hcheck
      have hturn := turn_taken hnot hwhole hheeds line₁.sent line₁.rx
      rw [← hrx, hsent] at hturn
      rw [hturn, ← hsent]
      have hhandled := @respond_handled _ server.mapping hwhole
      generalize hx : respond (frame body) (frame body).length server.mapping = x at hhandled
      cases hhandled with
      | answered response hanswer =>
        obtain ⟨rc, hreply⟩ := @modbusReply_eq server.ctx _ _ _ _ hx ⟨line₁.sent, line₁.rx⟩
        rw [hreply, hsent]
        exact .answered body line₁.rx response hnot hrx hwhole hheeds hanswer
      | refused =>
        unfold modbusReply
        rw [hx]
        have hsame := hpass false
        rw [show line₁ = ⟨line₁.sent, line₁.rx⟩ from rfl, ← hnot] at hsame
        exact hsame
      | strayed hfunction hstray =>
        unfold modbusReply
        rw [hx]
        exact .strayed body line₁.rx hnot hrx hwhole hheeds hfunction hstray

/-- A turn leads outside the tables just in case it is for a request to write below them. -/
theorem turn_none : server.turn line = none ↔
    server.confirmationToIgnore = false ∧ ∃ body rest, line.rx = frame body ++ rest ∧
      Whole .indication (frame body) ∧ Heeds server.ctx (byteAt (frame body) 0) ∧
      byteAt (frame body) 1 = modbusFcWriteAndReadRegisters ∧
      Stray (frame body) server.mapping := by
  constructor
  · intro h
    have hturned := @turn_turned server line
    rw [h] at hturned
    cases hturned with
    | strayed body rest hflag hrx hwhole hheeds hfunction hstray =>
      exact ⟨hflag, body, rest, hrx, hwhole, hheeds, hfunction, hstray⟩
  · rintro ⟨hflag, body, rest, hrx, hwhole, hheeds, hfunction, hstray⟩
    have hturn := turn_taken hflag hwhole hheeds line.sent rest
    rw [← hrx] at hturn
    rw [hturn]
    have hhandled := @respond_handled _ server.mapping hwhole
    generalize hx : respond (frame body) (frame body).length server.mapping = x at hhandled
    cases hhandled with
    | answered response hanswer hother hinside => exact absurd ⟨hfunction, hstray⟩ hinside
    | refused hstatus => exact absurd (hfunction.symm.trans hstatus) (by decide)
    | strayed =>
      unfold modbusReply
      rw [hx]
      rfl

/-- A response of the same function, or an exception of it, that ends where it says. -/
structure Responds (msg rsp : List Byte) : Prop where
  unit : byteAt rsp 0 = byteAt msg 0
  function : byteAt rsp 1 = byteAt msg 1 ∨
    byteAt rsp 1 = (byteAt msg 1 + 0x80) % 256 ∧ rsp.length = 3 ∧ 0 < byteAt rsp 2 ∧
      byteAt rsp 2 ≤ modbusExceptionIllegalDataValue
  whole : byteAt msg 1 < 0x80 → Whole .confirmation (frame rsp)
  length_le : (frame rsp).length ≤ modbusRtuMaxAduLength

theorem responds_of_answer {msg : List Byte} {mapping : ModbusMapping} {response : Response}
    (h : Answer ⟨byteAt msg 0, byteAt msg 1⟩ mapping response) : Responds msg response.rsp := by
  refine ⟨h.unit (UInt8.toNat_lt _), ?_, h.whole, h.length_le⟩
  cases h with
  | exception code toFlush hcode =>
    have hsame : byteAt (responseException ⟨byteAt msg 0, byteAt msg 1⟩ code toFlush mapping).rsp 2 =
        code := ofNat_toNat_of_lt (Nat.lt_of_le_of_lt hcode.2 (by decide))
    exact .inr ⟨UInt8.toNat_ofNat', rfl, by rw [hsame]; exact hcode⟩
  | data => exact .inl (ofNat_toNat_of_lt (UInt8.toNat_lt _))
  | copy _ _ _ hfunction => exact .inl hfunction

/-- A message for the server is answered by one frame, unless it is for all or asks for the status:
then it is not. -/
theorem turn_replies (hflag : server.confirmationToIgnore = false) {body : List Byte}
    (hwhole : Whole .indication (frame body)) (hheeds : Heeds server.ctx (byteAt (frame body) 0))
    (hinside : ¬(byteAt (frame body) 1 = modbusFcWriteAndReadRegisters ∧
      Stray (frame body) server.mapping)) (sent : List (List Byte)) (rest : List Byte) :
    ∃ server' reply rx,
      server.turn ⟨sent, frame body ++ rest⟩ = some (server', ⟨sent ++ reply, rx⟩) ∧
      server'.confirmationToIgnore = false ∧
      if byteAt (frame body) 0 = modbusBroadcastAddress ∨
        byteAt (frame body) 1 = modbusFcReadExceptionStatus then reply = []
      else ∃ rsp, reply = [frame rsp] ∧ Responds (frame body) rsp := by
  have hturn := turn_taken hflag hwhole hheeds sent rest
  have hhandled := @respond_handled _ server.mapping hwhole
  generalize hx : respond (frame body) (frame body).length server.mapping = x at hhandled
  cases hhandled with
  | answered response hanswer hother =>
    obtain ⟨rc, hreply⟩ := @modbusReply_eq server.ctx _ _ _ _ hx ⟨sent, rest⟩
    rw [hreply] at hturn
    refine ⟨_, _, _, hturn, hflag, ?_⟩
    unfold sentFor
    by_cases hbroadcast : byteAt (frame body) 0 = modbusBroadcastAddress
    · rw [if_pos (.inl hbroadcast), if_pos hbroadcast]
    · rw [if_neg fun h => h.elim hbroadcast hother, if_neg hbroadcast]
      exact ⟨response.rsp, rfl, responds_of_answer hanswer⟩
  | refused hstatus =>
    unfold modbusReply at hturn
    rw [hx] at hturn
    have hsame : server.turn ⟨sent, frame body ++ rest⟩ = some (server, ⟨sent ++ [], rest⟩) := by
      rw [hturn, List.append_nil]
      rfl
    refine ⟨server, [], rest, hsame, hflag, ?_⟩
    rw [if_pos (.inr hstatus)]
  | strayed hfunction hstray => exact absurd ⟨hfunction, hstray⟩ hinside

def oneRegister : Server := ⟨⟨17, 3⟩, false, ⟨⟨0, []⟩, ⟨0, []⟩, ⟨0, [42]⟩, ⟨0, []⟩⟩⟩

theorem oneRegister_replies : ∃ server' reply rx,
    oneRegister.turn ⟨[], frame ((Call.readRegisters 0 1).request ⟨17, 3⟩) ++ []⟩ =
      some (server', ⟨[] ++ reply, rx⟩) ∧ server'.confirmationToIgnore = false ∧
    ∃ rsp, reply = [frame rsp] ∧
      Responds (frame ((Call.readRegisters 0 1).request ⟨17, 3⟩)) rsp :=
  @turn_replies oneRegister rfl _ (@whole_request _ (.readRegisters 0 1) (Int.natCast_nonneg 1) rfl)
    (.inl rfl) (fun h => absurd h.1 (by decide)) [] []

def Sends (ctx : ModbusT) (msg : List Byte) : Prop :=
  ∃ rsp, msg = frame rsp ∧ byteAt rsp 0 = ctx.slave ∧ msg.length ≤ modbusRtuMaxAduLength

theorem turn_keeps (h : server.turn line = some (server', line')) :
    server'.ctx = server.ctx ∧ Keeps server.mapping server'.mapping ∧
      (line'.sent = line.sent ∨ ∃ msg, line'.sent = line.sent ++ [msg] ∧ Sends server.ctx msg) := by
  have hturned := @turn_turned server line
  rw [h] at hturned
  cases hturned with
  | passed => exact ⟨rfl, Keeps.refl _, .inl rfl⟩
  | answered body rest response hflag hrx hwhole hheeds hanswer =>
    refine ⟨rfl, hanswer.keeps, ?_⟩
    unfold sentFor
    by_cases hbroadcast : byteAt (frame body) 0 = modbusBroadcastAddress
    · rw [if_pos hbroadcast]
      exact .inl (List.append_nil _)
    · rw [if_neg hbroadcast]
      have hunit : byteAt response.rsp 0 = byteAt (frame body) 0 :=
        hanswer.unit (UInt8.toNat_lt _)
      refine .inr ⟨_, rfl, response.rsp, rfl, ?_, hanswer.length_le⟩
      rw [hunit]
      exact hheeds.elim id fun h => absurd h hbroadcast

end Turns

inductive Happens
  | arrive (bytes : List Byte)
  | turn

def Server.step (s : Server × Line) : Happens → Option (Server × Line)
  | .arrive bytes => some (s.1, { s.2 with rx := s.2.rx ++ bytes })
  | .turn => s.1.turn s.2

/-- The tables stay what they are, but for what is written in them, and all that the server sends are
frames of its own. -/
structure Stays (server : Server) (s : Server × Line) : Prop where
  ctx : s.1.ctx = server.ctx
  keeps : Keeps server.mapping s.1.mapping
  sends : ∀ msg ∈ s.2.sent, Sends server.ctx msg

theorem Stays.step {server : Server} {s s' : Server × Line} {e : Happens} (h : Stays server s)
    (hstep : Server.step s e = some s') : Stays server s' := by
  cases e with
  | arrive bytes =>
    obtain rfl := Option.some.inj hstep
    exact ⟨h.ctx, h.keeps, h.sends⟩
  | turn =>
    obtain ⟨hctx, hkeeps, hsent⟩ := turn_keeps (show s.1.turn s.2 = some (s'.1, s'.2) from hstep)
    refine ⟨hctx.trans h.ctx, h.keeps.trans hkeeps, ?_⟩
    rcases hsent with hsame | ⟨msg, hmore, hsends⟩
    · rw [hsame]
      exact h.sends
    · rw [hmore]
      intro msg' hmsg
      rcases List.mem_append.mp hmsg with hold | hnew
      · exact h.sends msg' hold
      · rw [List.mem_singleton.mp hnew, ← h.ctx]
        exact hsends

theorem stays_of_run {server : Server} {s : Server × Line} {es : List Happens}
    (hrun : Machine.run Server.step (server, ⟨[], []⟩) es = some s) : Stays server s :=
  (Machine.reachable_of_run .refl hrun).invariant
    ⟨rfl, Keeps.refl _, fun _ h => absurd h List.not_mem_nil⟩ fun _ _ _ h => h.step

/-- The next turn is for a request to write below the tables. -/
def Strays (s : Server × Line) : Prop :=
  s.1.confirmationToIgnore = false ∧ ∃ body rest, s.2.rx = frame body ++ rest ∧
    Whole .indication (frame body) ∧ Heeds s.1.ctx (byteAt (frame body) 0) ∧
    byteAt (frame body) 1 = modbusFcWriteAndReadRegisters ∧ Stray (frame body) s.1.mapping

/-- Whatever comes in, in whatever pieces, up to the first turn for such a request. -/
theorem run_keeps (server : Server) (es : List Happens) :
    (∀ s, Machine.run Server.step (server, ⟨[], []⟩) es = some s → Stays server s) ∧
    (Machine.run Server.step (server, ⟨[], []⟩) es = none →
      ∃ done left s, es = done ++ .turn :: left ∧
        Machine.run Server.step (server, ⟨[], []⟩) done = some s ∧ Stays server s ∧ Strays s) := by
  refine ⟨fun s hrun => stays_of_run hrun, fun hnone => ?_⟩
  obtain ⟨done, e, left, s, rfl, hdone, hstops⟩ := Machine.run_none hnone
  cases e with
  | arrive bytes => exact nomatch hstops
  | turn => exact ⟨done, left, s, rfl, hdone, stays_of_run hdone, turn_none.mp hstops⟩

theorem oneRegister_keeps : ∃ s, Machine.run Server.step (oneRegister, ⟨[], []⟩)
      [.arrive (frame [17, 3, 0, 0, 0, 1]), .arrive [17, 6], .turn, .turn] = some s ∧
    Stays oneRegister s := by
  have hsome : (Machine.run Server.step (oneRegister, ⟨[], []⟩)
      [.arrive (frame [17, 3, 0, 0, 0, 1]), .arrive [17, 6], .turn, .turn]).isSome = true := by
    decide +kernel
  obtain ⟨s, hrun⟩ := Option.isSome_iff_exists.mp hsome
  exact ⟨s, hrun, (run_keeps oneRegister _).1 s hrun⟩

end EspBridges.Modbus
