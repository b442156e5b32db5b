import EspBridges.Modbus.Data
import EspBridges.Modbus.DataLaws

namespace EspBridges.Modbus

open Bytes Icom Cells

section Values

theorem bswap16_toNat (x : UInt16) : (bswap16 x).toNat = x.toNat % 256 * 256 + x.toNat / 256 := by
  have hlt := x.toNat_lt
  have hlow : x.toNat <<< 8 % 2 ^ 16 = (x.toNat % 256) <<< 8 := by
    rw [Nat.shiftLeft_eq, Nat.shiftLeft_eq]
    omega
  rw [bswap16, UInt16.toNat_or, UInt16.toNat_shiftLeft, UInt16.toNat_shiftRight]
  show x.toNat >>> 8 ||| x.toNat <<< 8 % 2 ^ 16 = _
  rw [hlow, Nat.or_comm, ← Nat.shiftLeft_add_eq_or_of_lt (by rw [Nat.shiftRight_eq_div_pow]; omega),
    Nat.shiftLeft_eq, Nat.shiftRight_eq_div_pow]

theorem high_toNat (x : UInt32) : (x >>> 16).toUInt16.toNat = x.toNat / 65536 := by
  have hlt := x.toNat_lt
  rw [UInt32.toNat_toUInt16, UInt32.toNat_shiftRight]
  show x.toNat >>> 16 % 2 ^ 16 = _
  rw [Nat.shiftRight_eq_div_pow]
  omega

theorem low_toNat (x : UInt32) : x.toUInt16.toNat = x.toNat % 65536 := UInt32.toNat_toUInt16 x

theorem masked_low (x : UInt32) : (x &&& 0xFFFF).toUInt16 = x.toUInt16 := by
  refine UInt16.toNat_inj.mp ?_
  rw [low_toNat, low_toNat, UInt32.toNat_and]
  show (x.toNat &&& 2 ^ 16 - 1) % 65536 = _
  rw [Nat.and_two_pow_sub_one_eq_mod]
  omega

theorem shifted_toNat (a : UInt16) : (a.toUInt32 <<< 16).toNat = a.toNat * 65536 := by
  have hlt := a.toNat_lt
  rw [UInt32.toNat_shiftLeft, UInt16.toNat_toUInt32]
  show a.toNat <<< 16 % 2 ^ 32 = _
  rw [Nat.shiftLeft_eq]
  omega

theorem joined_toNat (a b : UInt16) :
    ((a.toUInt32 <<< 16) + b.toUInt32).toNat = a.toNat * 65536 + b.toNat := by
  have ha := a.toNat_lt
  have hb := b.toNat_lt
  rw [UInt32.toNat_add, shifted_toNat, UInt16.toNat_toUInt32]
  omega

theorem bswap32_toNat (x : UInt32) : (bswap32 x).toNat =
    (bswap16 x.toUInt16).toNat * 65536 + (bswap16 (x >>> 16).toUInt16).toNat := by
  have hlt := (bswap16 (x >>> 16).toUInt16).toNat_lt
  rw [bswap32, masked_low, UInt32.toNat_or, shifted_toNat, UInt16.toNat_toUInt32,
    ← Nat.shiftLeft_eq _ 16, ← Nat.shiftLeft_add_eq_or_of_lt hlt]

end Values

def floatOf (a b c d : Byte) : UInt32 :=
  .ofNat (((a.toNat * 256 + b.toNat) * 256 + c.toNat) * 256 + d.toNat)

/-- The functions undo each other, and the bytes of a float go over the line in this order. -/
structure Lays (get : Words → UInt32) (set : UInt32 → Words)
    (order : Byte → Byte → Byte → Byte → List Byte) : Prop where
  get_set : ∀ f, get (set f) = f
  set_get : ∀ src, set (get src) = src
  bytes : ∀ a b c d, wordBytes (set (floatOf a b c d)).1.toNat ++
    wordBytes (set (floatOf a b c d)).2.toNat = order a b c d

section Orders

theorem floatOf_toNat (a b c d : Byte) : (floatOf a b c d).toNat =
    ((a.toNat * 256 + b.toNat) * 256 + c.toNat) * 256 + d.toNat := by
  have ha := a.toNat_lt
  have hb := b.toNat_lt
  have hc := c.toNat_lt
  have hd := d.toNat_lt
  rw [floatOf, UInt32.toNat_ofNat']
  omega

def wordOf (hi lo : Byte) : UInt16 := .ofNat (hi.toNat * 256 + lo.toNat)

theorem wordOf_toNat (hi lo : Byte) : (wordOf hi lo).toNat = hi.toNat * 256 + lo.toNat := by
  have hhi := hi.toNat_lt
  have hlo := lo.toNat_lt
  rw [wordOf, UInt16.toNat_ofNat']
  omega

theorem wordBytes_wordOf (hi lo : Byte) : wordBytes (wordOf hi lo).toNat = [hi, lo] := by
  have hhi := hi.toNat_lt
  have hlo := lo.toNat_lt
  have hfirst : UInt8.ofNat ((wordOf hi lo).toNat / 256) = hi := by
    refine UInt8.toNat_inj.mp ?_
    rw [UInt8.toNat_ofNat', wordOf_toNat]
    omega
  have hsecond : UInt8.ofNat (wordOf hi lo).toNat = lo := by
    refine UInt8.toNat_inj.mp ?_
    rw [UInt8.toNat_ofNat', wordOf_toNat]
    omega
  rw [wordBytes, hfirst, hsecond]

theorem bswap16_wordOf (hi lo : Byte) : bswap16 (wordOf hi lo) = wordOf lo hi := by
  have hhi := hi.toNat_lt
  have hlo := lo.toNat_lt
  refine UInt16.toNat_inj.mp ?_
  rw [bswap16_toNat, wordOf_toNat, wordOf_toNat]
  omega

theorem bswap16_bswap16 (x : UInt16) : bswap16 (bswap16 x) = x := by
  have hlt := x.toNat_lt
  refine UInt16.toNat_inj.mp ?_
  rw [bswap16_toNat, bswap16_toNat]
  omega

theorem setAbcd_floatOf (a b c d : Byte) :
    modbusSetFloatAbcd (floatOf a b c d) = (wordOf a b, wordOf c d) := by
  have hfloat := floatOf_toNat a b c d
  have hc := c.toNat_lt
  have hd := d.toNat_lt
  refine Prod.ext (UInt16.toNat_inj.mp ?_) (UInt16.toNat_inj.mp ?_)
  · show (floatOf a b c d >>> 16).toUInt16.toNat = (wordOf a b).toNat
    rw [high_toNat, wordOf_toNat]
    omega
  · show (floatOf a b c d).toUInt16.toNat = (wordOf c d).toNat
    rw [low_toNat, wordOf_toNat]
    omega

theorem getAbcd_setAbcd (f : UInt32) : modbusGetFloatAbcd (modbusSetFloatAbcd f) = f := by
  have hlt := f.toNat_lt
  refine UInt32.toNat_inj.mp ?_
  unfold modbusGetFloatAbcd modbusSetFloatAbcd ntohl htonl
  rw [joined_toNat, high_toNat, low_toNat]
  omega

theorem setAbcd_getAbcd (src : Words) : modbusSetFloatAbcd (modbusGetFloatAbcd src) = src := by
  have hfirst := src.1.toNat_lt
  have hsecond := src.2.toNat_lt
  unfold modbusGetFloatAbcd modbusSetFloatAbcd ntohl htonl
  refine Prod.ext (UInt16.toNat_inj.mp ?_) (UInt16.toNat_inj.mp ?_)
  · dsimp only
    rw [high_toNat, joined_toNat]
    omega
  · dsimp only
    rw [low_toNat, joined_toNat]
    omega

theorem lays_of_turned {get : Words → UInt32} {set : UInt32 → Words}
    {order : Byte → Byte → Byte → Byte → List Byte} (τ : Words → Words) (hτ : ∀ src, τ (τ src) = src)
    (hget : ∀ src, get src = modbusGetFloatAbcd (τ src))
    (hset : ∀ f, set f = τ (modbusSetFloatAbcd f))
    (horder : ∀ a b c d, wordBytes (τ (wordOf a b, wordOf c d)).1.toNat ++
      wordBytes (τ (wordOf a b, wordOf c d)).2.toNat = order a b c d) : Lays get set order where
  get_set f := by rw [hget, hset, hτ, getAbcd_setAbcd]
  set_get src := by rw [hset, hget, setAbcd_getAbcd, hτ]
  bytes a b c d := by rw [hset, setAbcd_floatOf, horder]

def swapBytes (src : Words) : Words := (bswap16 src.1, bswap16 src.2)

theorem swapBytes_swapBytes (src : Words) : swapBytes (swapBytes src) = src :=
  Prod.ext (bswap16_bswap16 _) (bswap16_bswap16 _)

theorem bswap32_joined (src : Words) : bswap32 ((src.1.toUInt32 <<< 16) + src.2.toUInt32) =
    ((bswap16 src.2).toUInt32 <<< 16) + (bswap16 src.1).toUInt32 := by
  have hsplit := setAbcd_getAbcd src
  have hhigh : (((src.1.toUInt32 <<< 16) + src.2.toUInt32) >>> 16).toUInt16 = src.1 :=
    congrArg Prod.fst hsplit
  have hlow : ((src.1.toUInt32 <<< 16) + src.2.toUInt32).toUInt16 = src.2 :=
    congrArg Prod.snd hsplit
  refine UInt32.toNat_inj.mp ?_
  rw [bswap32_toNat, hhigh, hlow, joined_toNat]

theorem setDcba_eq (f : UInt32) :
    modbusSetFloatDcba f = swapBytes (modbusSetFloatAbcd f).swap := by
  have hjoined := bswap32_joined (modbusSetFloatAbcd f)
  have hf : ((modbusSetFloatAbcd f).1.toUInt32 <<< 16) + (modbusSetFloatAbcd f).2.toUInt32 = f :=
    getAbcd_setAbcd f
  rw [hf] at hjoined
  show modbusSetFloatAbcd (bswap32 f) = _
  rw [hjoined]
  exact setAbcd_getAbcd (swapBytes (modbusSetFloatAbcd f).swap)

end Orders

/-- The functions in the order of their names, and the last pair as the one before it. -/
theorem floats_lay :
    Lays modbusGetFloatAbcd modbusSetFloatAbcd (fun a b c d => [a, b, c, d]) ∧
      Lays modbusGetFloatDcba modbusSetFloatDcba (fun a b c d => [d, c, b, a]) ∧
      Lays modbusGetFloatBadc modbusSetFloatBadc (fun a b c d => [b, a, d, c]) ∧
      Lays modbusGetFloatCdab modbusSetFloatCdab (fun a b c d => [c, d, a, b]) ∧
      Lays modbusGetFloat modbusSetFloat (fun a b c d => [c, d, a, b]) := by
  have hcdab : ∀ a b c d : Byte, wordBytes (wordOf a b, wordOf c d).swap.1.toNat ++
      wordBytes (wordOf a b, wordOf c d).swap.2.toNat = [c, d, a, b] := by
    intro a b c d
    show wordBytes (wordOf c d).toNat ++ wordBytes (wordOf a b).toNat = _
    rw [wordBytes_wordOf, wordBytes_wordOf]
    rfl
  refine ⟨lays_of_turned id (fun _ => rfl) (fun _ => rfl) (fun _ => rfl) ?_,
    lays_of_turned (fun src => swapBytes src.swap) ?_ ?_ setDcba_eq ?_,
    lays_of_turned swapBytes swapBytes_swapBytes (fun _ => rfl) ?_ ?_,
    lays_of_turned Prod.swap (fun _ => rfl) (fun _ => rfl) (fun _ => rfl) hcdab,
    lays_of_turned Prod.swap (fun _ => rfl) (fun _ => rfl) (fun _ => rfl) hcdab⟩
  · intro a b c d
    show wordBytes (wordOf a b).toNat ++ wordBytes (wordOf c d).toNat = _
    rw [wordBytes_wordOf, wordBytes_wordOf]
    rfl
  · intro src
    show swapBytes (swapBytes src) = src
    exact swapBytes_swapBytes src
  · intro src
    exact bswap32_joined src
  · intro a b c d
    show wordBytes (bswap16 (wordOf c d)).toNat ++ wordBytes (bswap16 (wordOf a b)).toNat = _
    rw [bswap16_wordOf, bswap16_wordOf, wordBytes_wordOf, wordBytes_wordOf]
    rfl
  · intro f
    show (bswap16 (f >>> 16).toUInt16, bswap16 (f &&& 0xFFFF).toUInt16) = _
    rw [masked_low]
    rfl
  · intro a b c d
    show wordBytes (bswap16 (wordOf a b)).toNat ++ wordBytes (bswap16 (wordOf c d)).toNat = _
    rw [bswap16_wordOf, bswap16_wordOf, wordBytes_wordOf, wordBytes_wordOf]
    rfl

section Bits

theorem lowBits_make : ∀ (n : Fin 9) (value : Fin 256), (List.range n.val).foldl (fun made i =>
    made ||| ((lowBits value.val n.val).getD i 0 <<< UInt8.ofNat i)) (0 : Byte) =
      .ofNat (value.val % 1 <<< n.val) := by
  decide +kernel

theorem getByte_eq {src : List Byte} {idx : Int} {n : Nat} (hn : n ≤ 8) (b : Byte)
    (h : block src idx n = some (lowBits b.toNat n)) :
    modbusGetByteFromBits src idx n = some (.ofNat (b.toNat % 1 <<< n)) := by
  unfold modbusGetByteFromBits
  rw [Nat.min_eq_left hn, h]
  exact congrArg some (lowBits_make ⟨n, Nat.lt_succ_of_le hn⟩ ⟨b.toNat, b.toNat_lt⟩)

def bitsFrom (tabByte : Nat → Byte) (nb : Nat) : List Byte :=
  (List.range nb).map fun i => if (tabByte (i / 8)).toNat.testBit (i % 8) then 1 else 0

theorem length_bitsFrom (tabByte : Nat → Byte) (nb : Nat) : (bitsFrom tabByte nb).length = nb := by
  rw [bitsFrom, List.length_map, List.length_range]

theorem bitsFrom_take (tabByte : Nat → Byte) {n nb : Nat} (h : n ≤ nb) :
    (bitsFrom tabByte nb).take n = bitsFrom tabByte n := by
  rw [bitsFrom, ← List.map_take, List.take_range, Nat.min_eq_left h]
  rfl

theorem bitsFrom_part (tabByte : Nat → Byte) {k n nb : Nat} (hn : n ≤ 8) (hin : 8 * k + n ≤ nb) :
    ((bitsFrom tabByte nb).drop (8 * k)).take n = lowBits (tabByte k).toNat n := by
  rw [List.take_drop, bitsFrom_take _ hin]
  refine List.ext_getElem? fun i => ?_
  rw [List.getElem?_drop, bitsFrom, lowBits, List.getElem?_map, List.getElem?_map]
  by_cases hi : i < n
  · rw [List.getElem?_range (by omega), List.getElem?_range hi, Option.map_some, Option.map_some,
      show (8 * k + i) / 8 = k by omega, show (8 * k + i) % 8 = i by omega]
    rfl
  · rw [List.getElem?_eq_none (by rw [List.length_range]; omega),
      List.getElem?_eq_none (by rw [List.length_range]; omega)]
    rfl

theorem bitsFrom_bytes (bytes : List Byte) :
    bitsFrom (bytes.getD · 0) (8 * bytes.length) = bytes.flatMap bitsOf := by
  induction bytes with
  | nil => rfl
  | cons b bytes ih =>
    have hrest : (fun i => if (((b :: bytes).getD ((8 + i) / 8) 0).toNat.testBit ((8 + i) % 8))
        then (1 : Byte) else 0) =
        fun i => if ((bytes.getD (i / 8) 0).toNat.testBit (i % 8)) then 1 else 0 := by
      funext i
      rw [show (8 + i) / 8 = i / 8 + 1 by omega, show (8 + i) % 8 = i % 8 by omega]
      rfl
    rw [List.flatMap_cons, ← ih, bitsFrom, List.length_cons,
      show 8 * (bytes.length + 1) = 8 + 8 * bytes.length by omega, List.range_add, List.map_append,
      List.map_map]
    have hfirst : (List.range 8).map (fun i => if (((b :: bytes).getD (i / 8) 0).toNat.testBit (i % 8))
        then (1 : Byte) else 0) = bitsOf b := by
      refine List.map_congr_left fun i hi => ?_
      have hlt := List.mem_range.mp hi
      rw [show i / 8 = 0 by omega, show i % 8 = i by omega]
      rfl
    rw [hfirst]
    exact congrArg (fun f => bitsOf b ++ (List.range (8 * bytes.length)).map f) hrest

theorem bits_bytes {dest dest' : List Byte} {idx : Int} {nb : Nat} {tabByte : Nat → Byte}
    (h : modbusSetBitsFromBytes dest idx nb tabByte = some dest') :
    block dest' idx nb = some (bitsFrom tabByte nb) ∧ dest'.length = dest.length ∧
      (∀ i, i < idx ∨ idx + nb ≤ i → Cells.get dest' i = Cells.get dest i) ∧
      ∀ k n, n ≤ 8 → 8 * k + n ≤ nb → modbusGetByteFromBits dest' (idx + (8 * k : Nat)) n =
        some (.ofNat ((tabByte k).toNat % 1 <<< n)) := by
  obtain ⟨hread, hframe⟩ := @fill_frame _ dest dest' idx (bitsFrom tabByte nb) h
  rw [length_bitsFrom] at hread hframe
  refine ⟨hread, (fill_some h).1, hframe, fun k n hn hin => getByte_eq hn (tabByte k) ?_⟩
  rw [block_part hread hin, bitsFrom_part tabByte hn hin]

/-- The status that a server sends holds the bits of its table: set into another table they are
the same ones there, and its bytes are those that are got from either table. -/
theorem status_carries {tab dest dest' status : List Byte} {address idx : Int} {nb : Nat}
    (hflags : Flags tab) (hstatus : responseIoStatus tab address nb = some status)
    (hset : modbusSetBitsFromBytes dest idx nb (status.getD · 0) = some dest') :
    status.length = bitBytes nb ∧ block dest' idx nb = block tab address nb ∧
      dest'.length = dest.length ∧
      (∀ i, i < idx ∨ idx + nb ≤ i → Cells.get dest' i = Cells.get dest i) ∧
      ∀ k n, n ≤ 8 → 8 * k + n ≤ nb →
        modbusGetByteFromBits tab (address + (8 * k : Nat)) n =
          some (.ofNat ((status.getD k 0).toNat % 1 <<< n)) ∧
        modbusGetByteFromBits dest' (idx + (8 * k : Nat)) n =
          some (.ofNat ((status.getD k 0).toNat % 1 <<< n)) := by
  obtain ⟨bits, hblock, hout⟩ := Option.map_eq_some_iff.mp hstatus
  obtain ⟨hnb, hmem⟩ := block_some hblock
  obtain ⟨hlength, hbits⟩ := status_bits fun bit hbit => hflags bit (hmem bit hbit)
  rw [hout, hnb] at hlength hbits
  have hsame : bitsFrom (status.getD · 0) nb = bits := by
    rw [← hbits, ← bitsFrom_bytes, bitsFrom_take]
    rw [hlength, bitBytes_eq]
    omega
  obtain ⟨hread, hsize, hframe, hbytes⟩ := bits_bytes hset
  rw [hsame] at hread
  refine ⟨hlength, hread.trans hblock.symm, hsize, hframe, fun k n hn hin =>
    ⟨getByte_eq hn _ ?_, hbytes k n hn hin⟩⟩
  rw [block_part hblock hin, ← hsame, bitsFrom_part _ hn hin]

theorem elevenBits_carried : ∃ dest' : List Byte,
    modbusSetBitsFromBytes (List.replicate 16 0) 3 11 (([0x4D, 0x03] : List Byte).getD · 0) =
      some dest' ∧
    block dest' 3 11 = block ([0, 1, 0, 1, 1, 0, 0, 1, 0, 1, 1, 0] : List Byte) 1 11 := by
  have hflags : Flags [0, 1, 0, 1, 1, 0, 0, 1, 0, 1, 1, 0] :=
    flags_map [false, true, false, true, true, false, false, true, false, true, true, false]
  have hstatus : responseIoStatus [0, 1, 0, 1, 1, 0, 0, 1, 0, 1, 1, 0] 1 11 = some [0x4D, 0x03] := by
    decide +kernel
  have hset : modbusSetBitsFromBytes (List.replicate 16 0) 3 11 (([0x4D, 0x03] : List Byte).getD · 0) =
      some [0, 0, 0, 1, 0, 1, 1, 0, 0, 1, 0, 1, 1, 0, 0, 0] := by
    decide +kernel
  exact ⟨_, hset, (status_carries hflags hstatus hset).2.1⟩

end Bits

end EspBridges.Modbus
