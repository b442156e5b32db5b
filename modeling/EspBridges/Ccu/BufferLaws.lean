import EspBridges.Ccu.Calls

namespace EspBridges.Ccu

open Bytes

def Unsaved (b : Bridge) : Prop :=
  b.glob.ble.flagSetRecvdMsgPtr = false → b.glob.ble.savedMessages = Buf.zero

theorem reachable_unsaved {b : Bridge} (h : Reachable b) : Unsaved b := by
  refine h.invariant (fun _ => rfl) ?_
  intro b e b' ih hs hflag
  obtain ⟨_, rfl⟩ := step_eq_some hs
  have hpolled : ∀ {g' : Globals}, Polled (b.at e).glob g' →
      g'.ble.flagSetRecvdMsgPtr = b.glob.ble.flagSetRecvdMsgPtr ∧
        g'.ble.savedMessages = b.glob.ble.savedMessages := by
    intro g' hpoll
    rw [hpoll.ble]
    split <;> exact ⟨rfl, rfl⟩
  cases hact : e.action with
  | gattWrite isPrep frame value =>
    rw [hact] at hflag
    cases isPrep with
    | true => exact ih hflag
    | false =>
      have hpointer := (gattsWriteEvt_effect frame value (b.at e).glob).pointer.2
      rw [(received_spec frame value (b.at e).glob).ble] at hpointer
      have hset : true = false := hpointer.symm.trans hflag
      exact absurd hset (by decide)
  | gattRead =>
    rw [hact] at hflag
    obtain ⟨hf, hs⟩ := hpolled (gattsReadEvt_polled (b.at e).glob)
    exact hs.trans (ih (hf.symm.trans hflag))
  | regEvt =>
    rw [hact] at hflag
    rcases gattsRegEvt_eq (b.at e).glob with ⟨_, hpoll⟩ | ⟨_, _, hble, _⟩
    · obtain ⟨hf, hs⟩ := hpolled hpoll
      exact hs.trans (ih (hf.symm.trans hflag))
    · have hkeep : ((b.at e).perform .regEvt).glob.ble = b.glob.ble := hble
      rw [hkeep] at hflag ⊢
      exact ih hflag
  | timerExpiry =>
    rw [hact] at hflag
    have hkeep := (timerExpiry_glob b e).2.1
    rw [hkeep] at hflag ⊢
    exact ih hflag
  | advDataSet | updateConnParams | gattDisconnect | byteReceived =>
    rw [hact] at hflag
    exact ih hflag

def MessageCall.inBuffer (frame : Nat) (c : MessageCall) : MessageCall := { c with frame := frame }

/-- Message `value` relays what `first` has in the same place. -/
def RelaysLike (first value : List Byte) : Prop :=
  ∀ i, Relays (value.getD 3 0) (value.getD 4 0).toNat i (commandOf value) →
    first.getD i 0 = value.getD i 0

def RowsMatch (saved saved' : Buf 84) : Prop :=
  ∀ row < 2, (∀ i, 4 ≤ i → i < 21 → saved'.rd (fun _ => 0) (21 * row + i) =
      saved.rd (fun _ => 0) (21 * row + i)) ∧
    (saved.rd (fun _ => 0) (21 * row + 4)).toNat ≤ 15

theorem RowsMatch.sameTexts {saved saved' : Buf 84} (h : RowsMatch saved saved') :
    SameTexts saved saved' := by
  have htext : ∀ row r, row < 2 → r < 2 → savedText saved' row r = savedText saved row r := by
    intro row r hrow hr
    unfold savedText
    rw [(h r hr).1 4 (by decide) (by decide)]
    apply Buf.memcpy_congr _ _ rfl
    intro i _ hi
    have hshort := (h r hr).2
    have hbyte := (h row hrow).1 (5 + i) (by omega) (by omega)
    rw [← Nat.add_assoc] at hbyte
    exact hbyte
  refine ⟨htext 0 0 (by decide) (by decide), htext 1 1 (by decide) (by decide),
    htext 0 1 (by decide) (by decide), (h 0 (by decide)).1 5 (by decide) (by decide)⟩

theorem RowsMatch.save {saved saved' : Buf 84} (h : RowsMatch saved saved') (k : Nat)
    {seen seen' : Nat → Byte} (hseen : ∀ i, 4 ≤ i → i < 20 → seen' i = seen i)
    (hshort : (seen 4).toNat ≤ 15) :
    RowsMatch (saved.memcpy (21 * (k - 1)) seen bleMessageSize)
      (saved'.memcpy (21 * (k - 1)) seen' bleMessageSize) := by
  intro row hrow
  simp only [bleMessageSize, Buf.rd_memcpy]
  by_cases hat : row = k - 1
  · subst hat
    constructor
    · intro i hi hlt
      by_cases hin : i < 20
      · rw [if_pos (by omega), if_pos (by omega), Nat.add_sub_cancel_left]
        exact hseen i hi hin
      · rw [if_neg (by omega), if_neg (by omega)]
        exact (h _ hrow).1 i hi hlt
    · rw [if_pos (by omega), Nat.add_sub_cancel_left]
      exact hshort
  · constructor
    · intro i hi hlt
      rw [if_neg (by omega), if_neg (by omega)]
      exact (h row hrow).1 i hi hlt
    · rw [if_neg (by omega)]
      exact (h row hrow).2

theorem savesRow_type {t : Byte} {k : Nat} {cmd : Option Cid} (h : savesRow t cmd = some k) :
    t = 1 ∨ t = 2 := by
  by_cases h1 : t = 1
  · exact .inl h1
  · by_cases h2 : t = 2
    · exact .inr h2
    · unfold savesRow at h
      split at h
      case h_4 => cases h
      all_goals
        rw [if_neg h1, if_neg h2] at h
        cases h

theorem relays_part {t : Byte} {len k i : Nat} {cmd : Option Cid} (hrow : savesRow t cmd = some k)
    (hi : 4 ≤ i) (hlt : i < 20) : Relays t len i cmd := by
  have htype := savesRow_type hrow
  cases cmd with
  | none => cases hrow
  | some cmd =>
    cases cmd with
    | changePassword | selectAWifi => exact ⟨htype, hi, hlt⟩
    | ccuActivate => exact .inl ⟨htype, hi, hlt⟩
    | _ => cases hrow

theorem lengthOffset_part {t : Byte} {k : Nat} {cmd : Option Cid} (hrow : savesRow t cmd = some k) :
    lengthOffset t cmd = some 4 := by
  have htype := savesRow_type hrow
  cases cmd with
  | none => cases hrow
  | some cmd =>
    cases cmd with
    | changePassword | selectAWifi => exact if_pos htype
    | ccuActivate =>
      apply if_pos
      rcases htype with rfl | rfl <;> decide
    | _ => cases hrow

theorem relays_number {t : Byte} {len i : Nat} {cmd : Option Cid} (h : relaysNumber t cmd)
    (hi : 3 ≤ i) (hlt : i < 5 + len) : Relays t len i cmd := by
  cases cmd with
  | none => cases h
  | some cmd =>
    cases cmd with
    | storeEmergencyNumbers | storePersonalNumbers | enterLocalHelpNumbers => exact ⟨h, hi, hlt⟩
    | _ => cases h

theorem lengthOffset_number {t : Byte} {cmd : Option Cid} (h : relaysNumber t cmd) :
    lengthOffset t cmd = some 4 := by
  cases cmd with
  | none => cases h
  | some cmd =>
    cases cmd with
    | storeEmergencyNumbers | storePersonalNumbers | enterLocalHelpNumbers => exact if_pos h
    | _ => cases h

section Step

variable {g g' : Globals} (c c' : MessageCall) {first : List Byte}

theorem relaying_call (h : Alike g g') (hk : Kept g.ble.voice)
    (hrows : RowsMatch g.ble.savedMessages g'.ble.savedMessages) (hvalue : c'.value = c.value)
    (hwild : c'.wild = c.wild) (hp : ProperMessage c.value) (hlike : RelaysLike first c.value)
    (hseen : g.relayed c = rxPktBuffer first) (hseen' : g'.relayed c' = rxPktBuffer c.value) :
    Alike (g.call c) (g'.call c') ∧
      RowsMatch (g.call c).ble.savedMessages (g'.call c').ble.savedMessages := by
  have hbyte : ∀ i, i < 30 → (recvdMsgFull (g.taken c)).byte i = first.getD i 0 := by
    intro i hi
    rw [g.relayed_byte c hi, hseen, rxPktBuffer_rd _ _ hi]
  have hbyte' : ∀ i, i < 30 → (recvdMsgFull (g'.taken c')).byte i = c.value.getD i 0 := by
    intro i hi
    rw [g'.relayed_byte c' hi, hseen', rxPktBuffer_rd _ _ hi]
  have hafter : RowsMatch (g.call c).ble.savedMessages (g'.call c').ble.savedMessages := by
    rw [(call_spec g c).saved, (call_spec g' c').saved, hvalue, hseen, hseen']
    cases hrow : savesRow (c.value.getD 3 0) (commandOf c.value) with
    | none => exact hrows
    | some k =>
      have hsame : ∀ i, 4 ≤ i → i < 20 → first.getD i 0 = c.value.getD i 0 :=
        fun i hi hlt => hlike i (relays_part hrow hi hlt)
      apply hrows.save k
      · intro i hi hlt
        rw [rxPktBuffer_rd _ _ (by omega), rxPktBuffer_rd _ _ (by omega), hsame i hi hlt]
      · rw [rxPktBuffer_rd _ _ (by omega), hsame 4 (by decide) (by decide)]
        exact hp.short (lengthOffset_part hrow)
  refine ⟨call_alike h hk hvalue hp hafter.sameTexts ?_ ?_ (.inl hwild), hafter⟩
  · intro hnumber
    have hshort := hp.short (lengthOffset_number hnumber)
    have hsame : ∀ i, 3 ≤ i → i < 5 + (c.value.getD 4 0).toNat →
        (recvdMsgFull (g'.taken c')).byte i = (recvdMsgFull (g.taken c)).byte i := by
      intro i hi hlt
      rw [hbyte i (by omega), hbyte' i (by omega), hlike i (relays_number hnumber hi hlt)]
    have h4 : (recvdMsgFull (g.taken c)).byte 4 = c.value.getD 4 0 := by
      rw [← hsame 4 (by decide) (by omega), hbyte' 4 (by decide)]
    refine ⟨?_, ?_, ?_⟩
    · rw [h4]
      exact hshort
    · exact fun i hi hlt => hsame i hi (by omega)
    · rw [h4]
      exact fun i hi => hsame (5 + i) (by omega) (by omega)
  · intro hcmd h3 i hi
    rw [hbyte _ (by omega), hbyte' _ (by omega)]
    refine (hlike (5 + i) ?_).symm
    rw [hcmd]
    exact .inr ⟨h3, by omega, by omega⟩

end Step

/-- The two runs between calls: one sees the first message for good, the other each message. -/
structure Apart (first : MessageCall) (frame : Nat) (g g' : Globals) : Prop where
  alike : Alike g g'
  kept : Kept g.ble.voice
  rows : RowsMatch g.ble.savedMessages g'.ble.savedMessages
  flag : g.ble.flagSetRecvdMsgPtr = true
  pointer : g.ble.pRecvdMsgFull = first.frame
  mem : g.env.mem first.frame = rxPktBuffer first.value
  flag' : g'.ble.flagSetRecvdMsgPtr = true
  pointer' : g'.ble.pRecvdMsgFull = frame

section Run

variable {first c : MessageCall} {frame : Nat} {g g' : Globals}

theorem Apart.step (h : Apart first frame g g') (hframe : c.frame ≠ first.frame)
    (hp : ProperMessage c.value) (hlike : RelaysLike first.value c.value) :
    (g'.answer (c.inBuffer frame)) = g.answer c ∧
      Apart first frame (g.call c) (g'.call (c.inBuffer frame)) := by
  have hseen : g.relayed c = rxPktBuffer first.value := by
    unfold Globals.relayed
    rw [h.flag, h.pointer]
    exact (if_neg (Ne.symm hframe)).trans h.mem
  have hseen' : g'.relayed (c.inBuffer frame) = rxPktBuffer c.value := by
    unfold Globals.relayed
    rw [h.flag', h.pointer']
    exact if_pos rfl
  obtain ⟨halike, hrows⟩ := relaying_call c (c.inBuffer frame) h.alike h.kept h.rows rfl rfl hp hlike
    hseen hseen'
  have hspec := call_spec g c
  have hspec' := call_spec g' (c.inBuffer frame)
  refine ⟨answer_eq h.alike halike, halike, call_kept h.kept c, hrows, hspec.flag, ?_, ?_,
    hspec'.flag, ?_⟩
  · rw [hspec.pointer, h.flag]
    exact h.pointer
  · rw [hspec.mem]
    exact (if_neg (Ne.symm hframe)).trans h.mem
  · rw [hspec'.pointer, h.flag']
    exact h.pointer'

theorem apart_first (frame : Nat) (hk : Kept g.ble.voice) (hflag : g.ble.flagSetRecvdMsgPtr = false)
    (hsaved : g.ble.savedMessages = Buf.zero) (hp : ProperMessage first.value) :
    g.answer (first.inBuffer frame) = g.answer first ∧
      Apart first frame (g.call first) (g.call (first.inBuffer frame)) := by
  have hseen : ∀ c : MessageCall, g.relayed c = rxPktBuffer c.value := by
    intro c
    unfold Globals.relayed
    rw [hflag]
    exact if_pos rfl
  have hrows : RowsMatch g.ble.savedMessages g.ble.savedMessages := by
    rw [hsaved]
    intro row _
    refine ⟨fun _ _ _ => rfl, ?_⟩
    rw [Buf.rd_of_lt _ _ (by omega), Buf.zero_apply]
    decide
  obtain ⟨halike, hrows⟩ := relaying_call first (first.inBuffer frame) rfl hk hrows rfl rfl hp
    (fun _ _ => rfl) (hseen _) (hseen _)
  have hspec := call_spec g first
  have hspec' := call_spec g (first.inBuffer frame)
  refine ⟨answer_eq rfl halike, halike, call_kept hk first, hrows, hspec.flag, ?_, ?_,
    hspec'.flag, ?_⟩
  · rw [hspec.pointer, hflag]
    rfl
  · rw [hspec.mem]
    exact if_pos rfl
  · rw [hspec'.pointer, hflag]
    rfl

end Run

/-- Buffers of their own make no difference to messages that relay, where they relay anything,
what the first of them has. -/
theorem buffers_alike {b : Bridge} (hb : Reachable b)
    (hnone : b.glob.ble.flagSetRecvdMsgPtr = false) (cs : List MessageCall)
    (hframes : (cs.map MessageCall.frame).Nodup) (hproper : ∀ c ∈ cs, ProperMessage c.value)
    (hlike : ∀ first ∈ cs.head?, ∀ c ∈ cs, RelaysLike first.value c.value) (frame : Nat) :
    Paired.answers Globals.call Globals.answer b.glob (cs.map (·.inBuffer frame)) =
      Paired.answers Globals.call Globals.answer b.glob cs := by
  cases cs with
  | nil => rfl
  | cons first cs =>
    obtain ⟨hanswer, hapart⟩ := apart_first frame (reachable_kept hb) hnone
      (reachable_unsaved hb hnone) (hproper first (.head _))
    have hothers := (List.nodup_cons.mp hframes).1
    rw [List.map_cons, Paired.answers, Paired.answers, hanswer]
    congr 1
    apply Paired.answers_eq (R := Apart first frame) (E := fun c c' => c' = c.inBuffer frame) _ hapart
    · exact List.forall₂_map_right_iff.mpr (List.forall₂_same.mpr fun _ _ => rfl)
    · exact Paired.guarded_of_forall fun _ _ _ => trivial
    · rintro g g' c hc _ h rfl _
      apply h.step
      · exact fun heq => hothers (heq ▸ List.mem_map_of_mem hc)
      · exact hproper c (.tail _ hc)
      · exact hlike first rfl c (.tail _ hc)

def oneDigit (t digit : Byte) : List Byte :=
  [0x4D, 1, Cid.code .storeEmergencyNumbers, t, 1, digit]

theorem oneDigit_proper {t : Byte} (ht : t = 1 ∨ t = 2) (digit : Byte) :
    ProperMessage (oneDigit t digit) := by
  have hoffset : lengthOffset ((oneDigit t digit).getD 3 0) (commandOf (oneDigit t digit)) =
      some 4 := by
    show lengthOffset t (some .storeEmergencyNumbers) = some 4
    exact if_pos ht
  refine ⟨by show 6 ≤ 20; decide, fun k hk => ?_, fun k hk hstamp => nomatch hstamp⟩
  rw [hoffset] at hk
  cases hk
  show 4 + 1 + 1 ≤ 6
  decide

def firstLogin : List Byte := [0x4D, 1, Cid.code .login, 1, 2, 0x61, 0x62]

theorem firstLogin_proper : ProperMessage firstLogin := by
  have hoffset : lengthOffset (firstLogin.getD 3 0) (commandOf firstLogin) = some 4 := rfl
  refine ⟨by decide, fun k hk => ?_, fun k hk hstamp => nomatch hstamp⟩
  rw [hoffset] at hk
  cases hk
  decide

/-- A number, a part of a login, and the number again, each in a buffer of its own. -/
def numberTwice : List MessageCall :=
  [⟨0, oneDigit 1 0x31, Wild.zero⟩, ⟨1, firstLogin, Wild.zero⟩, ⟨2, oneDigit 1 0x31, Wild.zero⟩]

theorem numberTwice_alike :
    Paired.answers Globals.call Globals.answer Globals.boot (numberTwice.map (·.inBuffer 7)) =
      Paired.answers Globals.call Globals.answer Globals.boot numberTwice := by
  refine buffers_alike (b := .boot) .refl rfl numberTwice (by decide) ?_ ?_ 7
  · simp only [numberTwice, List.forall_mem_cons]
    exact ⟨oneDigit_proper (.inl rfl) _, firstLogin_proper, oneDigit_proper (.inl rfl) _, nofun⟩
  · rintro first hfirst c hc i hrelays
    cases hfirst
    simp only [numberTwice, List.mem_cons, List.not_mem_nil, or_false] at hc
    rcases hc with rfl | rfl | rfl
    · rfl
    · exact hrelays.elim
    · rfl

/-- Of two numbers in buffers of their own the first one is sent twice. -/
theorem twoNumbers_mixed : ¬ ∀ (b : Bridge) (cs : List MessageCall), Reachable b →
    b.glob.ble.flagSetRecvdMsgPtr = false → (cs.map MessageCall.frame).Nodup →
      (∀ c ∈ cs, ProperMessage c.value) → ∀ frame,
        Paired.answers Globals.call Globals.answer b.glob (cs.map (·.inBuffer frame)) =
          Paired.answers Globals.call Globals.answer b.glob cs := by
  intro hevery
  have hsame := hevery .boot [⟨0, oneDigit 1 0x31, Wild.zero⟩, ⟨1, oneDigit 2 0x32, Wild.zero⟩]
    .refl rfl (by decide) (by
      simp only [List.forall_mem_cons]
      exact ⟨oneDigit_proper (.inl rfl) _, oneDigit_proper (.inr rfl) _, nofun⟩) 0
  have hframes := congrArg (fun answers => answers.map fun a => a.1.map Io.bytes) hsame
  revert hframes
  decide +kernel

end EspBridges.Ccu
