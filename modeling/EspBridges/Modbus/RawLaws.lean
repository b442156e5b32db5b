import Mathlib.Data.List.Forall2
import EspBridges.Modbus.PollsServed
import EspBridges.Modbus.ServerLaws

namespace EspBridges.Modbus

open Bytes Icom

def rawExchange (ctx : Option ModbusT) (answers : Answers) (rawReq : List Byte) (line : Line) :
    Except Errno Nat × List Byte × Line :=
  modbusReceiveConfirmation ctx (modbusSendRawRequest ctx rawReq answers line).2

def rawExchanges (ctx : Option ModbusT) (answers : Answers) :
    List (List Byte) → Line → List (Except Errno Nat × List Byte) × Line
  | [], line => ([], line)
  | rawReq :: rawReqs, line =>
    let (rc, rsp, line) := rawExchange ctx answers rawReq line
    let (outcomes, line) := rawExchanges ctx answers rawReqs line
    ((rc, rsp) :: outcomes, line)

/-- A request that the server takes and that stays inside its tables, with a function whose replies
say how long they are. -/
structure Plain (server : Server) (rawReq : List Byte) : Prop where
  whole : Whole .indication (frame rawReq)
  heeded : Heeds server.ctx (byteAt (frame rawReq) 0)
  function : byteAt (frame rawReq) 1 < 0x80
  inside : ¬(byteAt (frame rawReq) 1 = modbusFcWriteAndReadRegisters ∧
    Stray (frame rawReq) server.mapping)

/-- A reply comes as it was sent, with a length of 0 where it is not for this master. -/
def Comes (ctx : ModbusT) (rawReq : List Byte) (outcome : Except Errno Nat × List Byte) : Prop :=
  if byteAt (frame rawReq) 0 = modbusBroadcastAddress ∨
      byteAt (frame rawReq) 1 = modbusFcReadExceptionStatus then
    outcome = (.error .etimedout, [])
  else ∃ rsp, Responds (frame rawReq) rsp ∧
    outcome = (.ok (if Heeds ctx (byteAt (frame rawReq) 0) then (frame rsp).length else 0), frame rsp)

section Keeps

variable {mapping mapping' : ModbusMapping} {req : List Byte}

theorem Keeps.stray (h : Keeps mapping mapping') (hstray : Stray req mapping') :
    Stray req mapping := by
  obtain ⟨⟨hread, hwritten, hcount, hhas, hend⟩, hbelow⟩ := hstray
  unfold Table.bank at hhas
  rw [Cells.has_bank (by omega), h.startRegisters, h.nbRegisters] at hhas
  rw [h.startRegisters, h.nbRegisters] at hend
  rw [h.startRegisters] at hbelow
  exact ⟨⟨hread, hwritten, hcount, (Cells.has_bank (by omega)).mpr hhas, hend⟩, hbelow⟩

end Keeps

section Raw

variable {ctx : ModbusT} {server : Server} {line : Line} {rawReq : List Byte}

def Listens (server : Server) (line : Line) : Prop :=
  line.rx = [] ∧ ∃ server', Machine.run Server.hear server line.sent = some server' ∧
    server'.confirmationToIgnore = false ∧ server'.ctx = server.ctx ∧
    Keeps server.mapping server'.mapping

theorem Plain.send (h : Plain server rawReq) (answers : Answers) (line : Line) :
    (modbusSendRawRequest (some ctx) rawReq answers line).2 =
      ⟨line.sent ++ [frame rawReq], line.rx ++ answers (line.sent ++ [frame rawReq])⟩ := by
  have hmin := h.whole.length_ge
  have hmax := h.whole.length_le
  rw [length_frame] at hmin hmax
  have hallowed : ¬(rawReq.length < 2 ∨ rawReq.length > modbusMaxPduLength + 1) := by
    unfold modbusRtuMaxAduLength at hmax
    unfold modbusMaxPduLength
    omega
  unfold modbusSendRawRequest sendMsg
  dsimp only
  rw [if_neg hallowed, sendMsgPre_eq]

theorem received (h : Responds (frame rawReq) rsp) (hfunction : byteAt (frame rawReq) 1 < 0x80)
    (sent : List (List Byte)) :
    receiveMsg .confirmation ctx ⟨sent, frame rsp⟩ =
      (.ok (if Heeds ctx (byteAt (frame rawReq) 0) then (frame rsp).length else 0), frame rsp,
        ⟨sent, []⟩) := by
  have hwhole := h.whole hfunction
  have hmin := hwhole.length_ge
  have hunit : byteAt (frame rsp) 0 = byteAt (frame rawReq) 0 := by
    rw [byteAt_frame (by rw [length_frame] at hmin; omega), h.unit]
  have hreceive := @receiveMsg_whole .confirmation ctx _ hwhole sent []
  rw [List.append_nil] at hreceive
  rw [hreceive]
  by_cases hheeds : Heeds ctx (byteAt (frame rawReq) 0)
  · rw [if_pos hheeds, checkIntegrity_frame (hunit ▸ hheeds)]
  · rw [if_neg hheeds, checkIntegrity_other (hunit ▸ hheeds)]

theorem Listens.exchange (hlistens : Listens server line) (h : Plain server rawReq) :
    Comes ctx rawReq ((rawExchange (some ctx) server.answers rawReq line).1,
        (rawExchange (some ctx) server.answers rawReq line).2.1) ∧
      Listens server (rawExchange (some ctx) server.answers rawReq line).2.2 := by
  obtain ⟨hrx, server', hrun, hflag, hctx, hkeeps⟩ := hlistens
  obtain ⟨next, reply, rx, hturn, hflag', hreply⟩ := @turn_replies server' hflag _ h.whole
    (by rw [hctx]; exact h.heeded) (fun hstray => h.inside ⟨hstray.1, hkeeps.stray hstray.2⟩) [] []
  rw [List.append_nil, List.nil_append] at hturn
  have hanswer : server.answers (line.sent ++ [frame rawReq]) = reply.flatten := by
    unfold Server.answers
    rw [List.dropLast_concat, hrun, Option.bind_some, List.getLastD_concat, hturn]
    rfl
  have hnext : Listens server ⟨line.sent ++ [frame rawReq], []⟩ := by
    obtain ⟨hctx', hkeeps', -⟩ := turn_keeps hturn
    refine ⟨rfl, next, ?_, hflag', hctx'.trans hctx, hkeeps.trans hkeeps'⟩
    rw [Machine.run_append, hrun, Option.bind_some]
    show (server'.hear (frame rawReq)).bind _ = _
    unfold Server.hear
    rw [hturn]
    rfl
  have hexchange : rawExchange (some ctx) server.answers rawReq line =
      receiveMsg .confirmation ctx ⟨line.sent ++ [frame rawReq], reply.flatten⟩ := by
    unfold rawExchange modbusReceiveConfirmation
    dsimp only
    rw [h.send, hrx, hanswer]
    rfl
  rw [hexchange]
  unfold Comes
  by_cases hsilent : byteAt (frame rawReq) 0 = modbusBroadcastAddress ∨
      byteAt (frame rawReq) 1 = modbusFcReadExceptionStatus
  · rw [if_pos hsilent] at hreply ⊢
    subst hreply
    exact ⟨rfl, hnext⟩
  · rw [if_neg hsilent] at hreply ⊢
    obtain ⟨rsp, rfl, hresponds⟩ := hreply
    have hreceived := @received ctx rawReq rsp hresponds h.function (line.sent ++ [frame rawReq])
    have hflatten : [frame rsp].flatten = frame rsp := List.append_nil _
    rw [hflatten, hreceived]
    exact ⟨⟨rsp, hresponds, rfl⟩, hnext⟩

/-- Whatever is sent for the server, each request brings its own reply, in the order of the
requests. -/
theorem raws_come (hwaits : server.confirmationToIgnore = false) {rawReqs : List (List Byte)}
    (hplain : ∀ rawReq ∈ rawReqs, Plain server rawReq) :
    List.Forall₂ (Comes ctx) rawReqs
      (rawExchanges (some ctx) server.answers rawReqs ⟨[], []⟩).1 := by
  have hall : ∀ rawReqs : List (List Byte), (∀ rawReq ∈ rawReqs, Plain server rawReq) →
      ∀ line, Listens server line →
        List.Forall₂ (Comes ctx) rawReqs (rawExchanges (some ctx) server.answers rawReqs line).1 := by
    intro rawReqs
    induction rawReqs with
    | nil => exact fun _ _ _ => .nil
    | cons rawReq rawReqs ih =>
      intro hplain line hlistens
      obtain ⟨hfirst, hrest⟩ := @Listens.exchange ctx server line rawReq hlistens
        (hplain rawReq (.head _))
      exact .cons hfirst (ih (fun _ hmem => hplain _ (.tail _ hmem)) _ hrest)
  exact hall rawReqs hplain _ ⟨rfl, server, rfl, hwaits, rfl, Keeps.refl _⟩

def threeRaws : List (List Byte) := [[17, 3, 0, 0, 0, 1], [0, 6, 0, 0, 0, 7], [17, 3, 0, 0, 0, 1]]

theorem threeRaws_come : List.Forall₂ (Comes ⟨17, 3⟩) threeRaws
    (rawExchanges (some ⟨17, 3⟩) oneRegister.answers threeRaws ⟨[], []⟩).1 := by
  have hread : Plain oneRegister [17, 3, 0, 0, 0, 1] :=
    ⟨⟨rfl, by decide⟩, .inl rfl, by decide, fun h => absurd h.1 (by decide)⟩
  have hwrite : Plain oneRegister [0, 6, 0, 0, 0, 7] :=
    ⟨⟨rfl, by decide⟩, .inr rfl, by decide, fun h => absurd h.1 (by decide)⟩
  refine raws_come rfl fun rawReq hmem => ?_
  rcases List.mem_cons.mp hmem with rfl | hmem
  · exact hread
  rcases List.mem_cons.mp hmem with rfl | hmem
  · exact hwrite
  · rw [List.mem_singleton.mp hmem]
    exact hread

end Raw

end EspBridges.Modbus
