import EspBridges.Modbus.ReplyLaws

namespace EspBridges.Modbus

open Bytes Icom Cells

theorem whole_request {ctx : ModbusT} {call : Call} (hcounts : call.Counts)
    (hrefused : call.refused = none) :
    Whole .indication (frame (call.request ctx)) := by
  have hbound : ∀ {k : Nat}, (frame (call.request ctx)).length = k → k ≤ 256 →
      (frame (call.request ctx)).length ≤ modbusRtuMaxAduLength := by
    intro k hk hle
    rw [hk]
    exact hle
  cases call with
  | readBits addr nb => exact ⟨rfl, hbound (show _ = 8 from rfl) (by decide)⟩
  | readInputBits addr nb => exact ⟨rfl, hbound (show _ = 8 from rfl) (by decide)⟩
  | readRegisters addr nb => exact ⟨rfl, hbound (show _ = 8 from rfl) (by decide)⟩
  | readInputRegisters addr nb => exact ⟨rfl, hbound (show _ = 8 from rfl) (by decide)⟩
  | writeBit addr status => exact ⟨rfl, hbound (show _ = 8 from rfl) (by decide)⟩
  | writeRegister addr value => exact ⟨rfl, hbound (show _ = 8 from rfl) (by decide)⟩
  | maskWriteRegister addr andMask orMask => exact ⟨rfl, hbound (show _ = 10 from rfl) (by decide)⟩
  | reportSlaveId maxDest => exact ⟨rfl, hbound (show _ = 4 from rfl) (by decide)⟩
  | writeBits addr nb src =>
    obtain ⟨n, rfl⟩ := Int.eq_ofNat_of_zero_le hcounts
    have hn : n ≤ 1968 := Int.ofNat_le.mp (le_of_refused hrefused)
    have hsize : bitBytes n ≤ 246 := by
      rw [bitBytes_eq]
      omega
    have hcount : (UInt8.ofInt (byteCount n)).toNat = bitBytes n := by
      rw [byteCount_natCast, ofInt_natCast]
      exact ofNat_toNat_of_lt (by omega)
    have hlength : (frame ((Call.writeBits addr n src).request ctx)).length = bitBytes n + 9 := by
      rw [length_frame, Call.request, List.length_append, List.length_map, List.length_range,
        byteCount_natCast, Int.toNat_natCast]
      show 7 + bitBytes n + 2 = _
      omega
    refine ⟨hlength.trans ?_, hbound hlength (by omega)⟩
    show _ = 2 + 5 + ((UInt8.ofInt (byteCount n)).toNat + 2)
    omega
  | writeRegisters addr nb src =>
    obtain ⟨n, rfl⟩ := Int.eq_ofNat_of_zero_le hcounts
    have hn : n ≤ 123 := Int.ofNat_le.mp (le_of_refused hrefused)
    have hcount : (UInt8.ofInt (n * 2)).toNat = n * 2 := by
      rw [ofInt_double]
      exact ofNat_toNat_of_lt (by omega)
    have hlength : (frame ((Call.writeRegisters addr n src).request ctx)).length = n * 2 + 9 := by
      rw [length_frame, Call.request, List.length_append, length_words, length_elements]
      show 7 + n * 2 + 2 = _
      omega
    refine ⟨hlength.trans ?_, hbound hlength (by omega)⟩
    show _ = 2 + 5 + ((UInt8.ofInt (n * 2)).toNat + 2)
    omega
  | writeAndReadRegisters writeAddr writeNb src readAddr readNb =>
    obtain ⟨n, rfl⟩ := Int.eq_ofNat_of_zero_le hcounts.1
    obtain ⟨m, rfl⟩ := Int.eq_ofNat_of_zero_le hcounts.2
    have hn : n ≤ 121 := Int.ofNat_le.mp (le_of_refused_both hrefused).1
    have hcount : (UInt8.ofInt (n * 2)).toNat = n * 2 := by
      rw [ofInt_double]
      exact ofNat_toNat_of_lt (by omega)
    have hlength : (frame ((Call.writeAndReadRegisters writeAddr n src readAddr m).request
        ctx)).length = n * 2 + 13 := by
      rw [length_frame, Call.request, List.length_append, length_words, length_elements]
      show 11 + n * 2 + 2 = _
      omega
    refine ⟨hlength.trans ?_, hbound hlength (by omega)⟩
    show _ = 2 + 9 + ((UInt8.ofInt (n * 2)).toNat + 2)
    omega

section Turn

variable {server : Server} {ctx : ModbusT} {call : Call}

def sentFor (unit : Nat) (rsp : List Byte) : List (List Byte) :=
  if unit = modbusBroadcastAddress then [] else [frame rsp]

theorem modbusReply_eq {req : List Byte} {reqLength : Nat} {mapping : ModbusMapping}
    {response : Response} (h : respond req reqLength mapping = some (.ok response)) (line : Line) :
    ∃ rc, modbusReply (some ctx) req reqLength mapping line = some (rc, response.mapping,
      ⟨line.sent ++ sentFor (byteAt req 0) response.rsp,
        if response.toFlush then [] else line.rx⟩) := by
  unfold modbusReply sentFor
  rw [h]
  dsimp only
  rw [Option.map_some]
  dsimp only
  by_cases hbroadcast : byteAt req 0 = modbusBroadcastAddress
  · rw [if_pos hbroadcast, if_pos hbroadcast, List.append_nil]
    cases response.toFlush <;> exact ⟨_, rfl⟩
  · rw [if_neg hbroadcast, if_neg hbroadcast]
    unfold sendMsg
    rw [sendMsgPre_eq]
    cases response.toFlush
    · exact ⟨_, congrArg (fun rx => some (_, _, Line.mk _ rx)) (List.append_nil _)⟩
    · exact ⟨_, rfl⟩

theorem turn_taken (hflag : server.confirmationToIgnore = false) {body : List Byte}
    (hwhole : Whole .indication (frame body)) (hheeds : Heeds server.ctx (byteAt (frame body) 0))
    (sent : List (List Byte)) (rest : List Byte) :
    server.turn ⟨sent, frame body ++ rest⟩ =
      (modbusReply (some server.ctx) (frame body) (frame body).length server.mapping
        ⟨sent, rest⟩).map fun (_, mapping, line) => ({ server with mapping }, line) := by
  have hmin := hwhole.length_ge
  obtain ⟨n, hn⟩ : ∃ n, (frame body).length = n + 1 := ⟨(frame body).length - 1, by omega⟩
  unfold Server.turn modbusRtuReceive
  rw [hflag, if_neg Bool.false_ne_true, receiveMsg_whole hwhole, checkIntegrity_frame hheeds, hn]
  dsimp only
  rw [if_pos (Nat.succ_pos n)]
  obtain ⟨serverCtx, flag, mapping⟩ := server
  dsimp only at hflag
  subst hflag
  rfl

theorem turn_own (hflag : server.confirmationToIgnore = false)
    (hheeds : Heeds server.ctx (unitOf ctx).toNat) (hcounts : call.Counts)
    (hrefused : call.refused = none) (hwithin : call.Within server.mapping.registers.start)
    (hsound : server.mapping.Sound) (sent : List (List Byte)) (rest : List Byte) :
    ∃ response, Settles ctx call server.mapping response ∧
      Keeps server.mapping response.mapping ∧ server.turn ⟨sent, frame (call.request ctx) ++ rest⟩ =
        some ({ server with mapping := response.mapping },
          ⟨sent ++ sentFor (unitOf ctx).toNat response.rsp,
            if response.toFlush then [] else rest⟩) := by
  obtain ⟨response, hrespond, hsettles⟩ := @respond_request ctx call _ hcounts hrefused hwithin hsound
  have hwhole := @whole_request ctx call hcounts hrefused
  have hpositive := hwhole.length_ge
  have hunit : byteAt (frame (call.request ctx)) 0 = (unitOf ctx).toNat := by
    rw [byteAt_frame (by rw [length_frame] at hpositive; omega), request_unit]
  have hkeeps : Keeps server.mapping response.mapping := by
    have hhandled := @respond_handled _ server.mapping hwhole
    rw [hrespond] at hhandled
    cases hhandled with
    | answered _ hanswer => exact hanswer.keeps
  obtain ⟨rc, hreply⟩ := @modbusReply_eq server.ctx _ _ _ _ hrespond ⟨sent, rest⟩
  refine ⟨response, hsettles, hkeeps, ?_⟩
  rw [turn_taken hflag hwhole (by rw [hunit]; exact hheeds), hreply, hunit]
  rfl

theorem turn_other (hflag : server.confirmationToIgnore = false) {msg : List Byte}
    (hwhole : Whole .indication msg) (hheeds : ¬Heeds server.ctx (byteAt msg 0))
    (sent : List (List Byte)) (rest : List Byte) :
    server.turn ⟨sent, msg ++ rest⟩ =
      some ({ server with confirmationToIgnore := true }, ⟨sent, rest⟩) := by
  unfold Server.turn modbusRtuReceive
  rw [hflag, if_neg Bool.false_ne_true, receiveMsg_whole hwhole, checkIntegrity_other hheeds]
  rfl

theorem turn_response (hflag : server.confirmationToIgnore = true) {msg : List Byte}
    (hwhole : Whole .confirmation msg) (sent : List (List Byte)) (rest : List Byte) :
    server.turn ⟨sent, msg ++ rest⟩ =
      some ({ server with confirmationToIgnore := false }, ⟨sent, rest⟩) := by
  unfold Server.turn modbusRtuReceive
  rw [hflag, if_pos rfl, receiveMsg_whole hwhole]
  rfl

/-- A call without elements is one that a unit finds wrong whatever it holds. -/
def Call.Empty : Call → Prop
  | .readBits _ nb | .readInputBits _ nb | .readRegisters _ nb | .readInputRegisters _ nb
  | .writeBits _ nb _ | .writeRegisters _ nb _ => nb ≤ 0
  | .writeAndReadRegisters _ writeNb _ _ readNb => writeNb ≤ 0 ∨ readNb ≤ 0
  | _ => False

theorem elements_nil {α : Type} {nb : Int} {src : Nat → α} (h : elements nb src = []) : nb ≤ 0 := by
  have hlength := congrArg List.length h
  rw [elements, List.length_map, List.length_range, List.length_nil] at hlength
  omega

theorem fetch_value {α : Type} {m : Bank α} {addr : Int} {nb : Nat}
    (h : fetch m addr nb = .error modbusExceptionIllegalDataValue) : nb = 0 := by
  unfold fetch at h
  split at h
  · assumption
  · split at h
    · exact nomatch h
    · exact absurd (Except.error.inj h) (by decide)

theorem store_value {α : Type} {m : Bank α} {addr : Int} {xs : List α}
    (h : store m addr xs = .error modbusExceptionIllegalDataValue) : xs = [] := by
  unfold store at h
  split at h
  · assumption
  · split at h
    · exact nomatch h
    · exact absurd (Except.error.inj h) (by decide)

theorem map_error {ε α β : Type} {x : Except ε α} {f : α → β} {e : ε} (h : x.map f = .error e) :
    x = .error e := by
  cases x with
  | error e' => exact congrArg _ (Except.error.inj h)
  | ok a => exact nomatch h

theorem empty_of_serve {m : Memory} (h : m.serve call = .error modbusExceptionIllegalDataValue) :
    call.Empty := by
  cases call with
  | readBits addr nb => exact Int.toNat_eq_zero.mp (fetch_value (map_error h))
  | readInputBits addr nb => exact Int.toNat_eq_zero.mp (fetch_value (map_error h))
  | readRegisters addr nb => exact Int.toNat_eq_zero.mp (fetch_value (map_error h))
  | readInputRegisters addr nb => exact Int.toNat_eq_zero.mp (fetch_value (map_error h))
  | writeBit addr status => exact absurd (store_value (map_error h)) (List.cons_ne_nil _ _)
  | writeRegister addr value => exact absurd (store_value (map_error h)) (List.cons_ne_nil _ _)
  | writeBits addr nb src =>
    exact elements_nil (List.map_eq_nil_iff.mp (store_value (map_error h)))
  | writeRegisters addr nb src => exact elements_nil (store_value (map_error h))
  | maskWriteRegister addr andMask orMask =>
    unfold Memory.serve at h
    dsimp only at h
    cases hwords : fetch m.registers addr 1 with
    | error code =>
      rw [hwords] at h
      obtain rfl := Except.error.inj h
      exact absurd (fetch_value hwords) Nat.one_ne_zero
    | ok words =>
      rw [hwords] at h
      have hnil := List.map_eq_nil_iff.mp (store_value (map_error h))
      unfold fetch at hwords
      rw [if_neg Nat.one_ne_zero] at hwords
      split at hwords
      · have hlength := congrArg List.length (Except.ok.inj hwords)
        rw [Bank.length_read ‹_›, hnil] at hlength
        exact absurd hlength (by decide)
      · exact nomatch hwords
  | writeAndReadRegisters writeAddr writeNb src readAddr readNb =>
    unfold Memory.serve at h
    dsimp only at h
    split at h
    next hnone => exact hnone.imp elements_nil Int.toNat_eq_zero.mp
    · split at h
      · exact nomatch h
      · exact absurd (Except.error.inj h) (by decide)
  | reportSlaveId maxDest => exact nomatch h

end Turn

end EspBridges.Modbus
