import Mathlib.Data.List.Nodup
import Mathlib.Data.Nat.Bitwise

/-! The encoding of bytes in the alphabet that is safe in a URL. Six bits of the input make a
character, counted from the highest bit of the first byte. -/

namespace FlagSdk.Encoding

def base64Table : List Char := "ABCDEFGHIJKLMNOPQRSTUVWXYZabcdefghijklmnopqrstuvwxyz0123456789-_".toList

variable (input : List UInt8)

/-- A bit of the input. Bit 0 is the highest bit of the first byte. -/
def bitAt (bitIndex : Nat) : Bool :=
  (input.getD (bitIndex / 8) 0).toNat.testBit (7 - bitIndex % 8)

def getBits (startBit count : Nat) (input : List UInt8) : Nat :=
  Nat.ofBits fun index : Fin 6 => decide (5 - index.val < count) && bitAt input (startBit + (5 - index.val))

def characterAt (bitIndex : Nat) : Char :=
  base64Table.getD (getBits bitIndex (min 6 (8 * input.length - bitIndex)) input) '='

def base64UrlEncode : String :=
  let out := (List.range ((8 * input.length + 5) / 6)).map fun index => characterAt input (6 * index)
  String.ofList (out ++ List.replicate ((4 - out.length % 4) % 4) '=')

def encodeLoop (input : List UInt8) (bitIndex : Nat) (out : List Char) : List Char :=
  if bitIndex < 8 * input.length then encodeLoop input (bitIndex + 6) (out ++ [characterAt input bitIndex]) else out
termination_by 8 * input.length - bitIndex

/-- When the loop is at a bit, it has written the characters before it. -/
theorem encodeLoop_eq (input : List UInt8) {index : Nat} (written : index ≤ (8 * input.length + 5) / 6) :
    encodeLoop input (6 * index) ((List.range index).map fun index => characterAt input (6 * index)) =
      (List.range ((8 * input.length + 5) / 6)).map fun index => characterAt input (6 * index) := by
  rw [encodeLoop]
  split
  case isTrue more =>
    have rest := @encodeLoop_eq input (index + 1) (by omega)
    rwa [List.range_succ, List.map_append] at rest
  case isFalse done =>
    have last : index = (8 * input.length + 5) / 6 := by omega
    rw [last]
termination_by 8 * input.length - 6 * index

theorem base64UrlEncode_eq_loop :
    base64UrlEncode input =
      let out := encodeLoop input 0 []
      String.ofList (out ++ List.replicate ((4 - out.length % 4) % 4) '=') := by
  have out := encodeLoop_eq input (Nat.zero_le _)
  rw [List.range_zero, List.map_nil, Nat.mul_zero] at out
  rw [out, base64UrlEncode]

example : base64UrlEncode [0xfb, 0xff, 0x66, 0x6f] = "-_9mbw==" := by decide

def charactersFrom (first : Char) (count : Nat) : List Char :=
  (List.range count).map fun offset => Char.ofNat (first.toNat + offset)

/-- The alphabet of RFC 4648 that is safe in a URL, in the order of the values of its characters. -/
def urlAlphabet : List Char := charactersFrom 'A' 26 ++ charactersFrom 'a' 26 ++ charactersFrom '0' 10 ++ ['-', '_']

/-- A bit of values of six bits. Bit 0 is the highest bit of the first one. -/
def sextetBit (sextets : List Nat) (bitIndex : Nat) : Bool :=
  (sextets.getD (bitIndex / 6) 0).testBit (5 - bitIndex % 6)

def bytesOf (sextets : List Nat) : List UInt8 :=
  (List.range (6 * sextets.length / 8)).map fun index =>
    UInt8.ofNat (Nat.ofBits fun bit : Fin 8 => sextetBit sextets (8 * index + (7 - bit.val)))

/-- Decoding as in RFC 4648. A text has whole groups of four characters, of which at most the last two pad it, and the
bits that are left of its last byte are not set. -/
def base64UrlDecode (text : String) : Option (List UInt8) :=
  let characters := text.toList.takeWhile (· ≠ '=')
  let sextets := characters.map urlAlphabet.idxOf
  if text.toList = characters ++ List.replicate ((4 - characters.length % 4) % 4) '=' ∧ characters.length % 4 ≠ 1 ∧
      characters.all urlAlphabet.contains ∧ (List.range (6 * sextets.length)).all fun bitIndex =>
        bitIndex < 8 * (bytesOf sextets).length || !sextetBit sextets bitIndex then
    some (bytesOf sextets)
  else none

example : base64UrlDecode "-_9mbw==" = some [0xfb, 0xff, 0x66, 0x6f] ∧ base64UrlDecode "-_9mbx==" = none := by decide

theorem eq_of_bitAt {first second : List UInt8} (length : first.length = second.length)
    (same : ∀ index, index < 8 * first.length → bitAt first index = bitAt second index) : first = second := by
  refine List.ext_getElem length fun position inside insideSecond => ?_
  rw [← UInt8.toNat_inj]
  apply Nat.eq_of_testBit_eq
  intro bit
  by_cases low : bit < 8
  · have here := same (8 * position + (7 - bit)) (by omega)
    have byte : (8 * position + (7 - bit)) / 8 = position := by omega
    have within : 7 - (8 * position + (7 - bit)) % 8 = bit := by omega
    simpa only [bitAt, byte, within, List.getD_eq_getElem _ _ inside, List.getD_eq_getElem _ _ insideSecond] using here
  · have high : 2 ^ 8 ≤ 2 ^ bit := Nat.pow_le_pow_right (by decide) (by omega)
    rw [Nat.testBit_lt_two_pow (lt_of_lt_of_le (UInt8.toNat_lt _) high),
      Nat.testBit_lt_two_pow (lt_of_lt_of_le (UInt8.toNat_lt _) high)]

theorem bitAt_bytesOf {sextets : List Nat} {bitIndex : Nat} (inside : bitIndex < 8 * (bytesOf sextets).length) :
    bitAt (bytesOf sextets) bitIndex = sextetBit sextets bitIndex := by
  have byte : bitIndex / 8 < (bytesOf sextets).length := by omega
  have back : 8 * (bitIndex / 8) + (7 - (7 - bitIndex % 8)) = bitIndex := by omega
  have small : Nat.ofBits (fun bit : Fin 8 => sextetBit sextets (8 * (bitIndex / 8) + (7 - bit.val))) < 2 ^ 8 :=
    Nat.ofBits_lt_two_pow _
  rw [bitAt, List.getD_eq_getElem _ _ byte]
  simp only [bytesOf, List.getElem_map, List.getElem_range, UInt8.toNat_ofNat_of_lt' small]
  rw [Nat.testBit_ofBits_lt _ _ (by omega)]
  simp only [back]

def sextetsOf : List Nat :=
  (List.range ((8 * input.length + 5) / 6)).map fun index =>
    getBits (6 * index) (min 6 (8 * input.length - 6 * index)) input

variable (input : List UInt8)

theorem length_sextetsOf : (sextetsOf input).length = (8 * input.length + 5) / 6 := by
  simp [sextetsOf]

theorem base64UrlEncode_eq_sextets :
    (base64UrlEncode input).toList = (sextetsOf input).map (base64Table.getD · '=') ++
      List.replicate ((4 - (sextetsOf input).length % 4) % 4) '=' := by
  simp [base64UrlEncode, sextetsOf, characterAt]

theorem sextetBit_sextetsOf {bitIndex : Nat} (inside : bitIndex < 6 * (sextetsOf input).length) :
    sextetBit (sextetsOf input) bitIndex = (decide (bitIndex < 8 * input.length) && bitAt input bitIndex) := by
  have here : bitIndex / 6 < (sextetsOf input).length := by omega
  have back : 5 - (5 - bitIndex % 6) = bitIndex % 6 := by omega
  have whole : 6 * (bitIndex / 6) + bitIndex % 6 = bitIndex := Nat.div_add_mod bitIndex 6
  have counted : bitIndex % 6 < min 6 (8 * input.length - 6 * (bitIndex / 6)) ↔ bitIndex < 8 * input.length := by omega
  rw [sextetBit, List.getD_eq_getElem _ _ here]
  simp only [sextetsOf, List.getElem_map, List.getElem_range, getBits]
  rw [Nat.testBit_ofBits_lt _ _ (by omega)]
  simp only [back, whole, counted]

theorem bytesOf_sextetsOf : bytesOf (sextetsOf input) = input := by
  have length : (bytesOf (sextetsOf input)).length = input.length := by
    simp only [bytesOf, List.length_map, List.length_range, length_sextetsOf]
    omega
  apply eq_of_bitAt length
  intro index inside
  have early : index < 8 * input.length := length ▸ inside
  rw [bitAt_bytesOf inside, sextetBit_sextetsOf input (by rw [length_sextetsOf]; omega), decide_eq_true early,
    Bool.true_and]

theorem base64Table_read_back : ∀ sextet < 64, base64Table.getD sextet '=' ≠ '=' ∧
    base64Table.getD sextet '=' ∈ urlAlphabet ∧ urlAlphabet.idxOf (base64Table.getD sextet '=') = sextet := by
  decide +kernel

theorem sextetsOf_lt : ∀ sextet ∈ sextetsOf input, sextet < 64 := by
  intro sextet member
  obtain ⟨index, _, rfl⟩ := List.mem_map.1 member
  exact Nat.ofBits_lt_two_pow _

theorem base64UrlDecode_base64UrlEncode : base64UrlDecode (base64UrlEncode input) = some input := by
  have known : ∀ sextet ∈ sextetsOf input, _ := fun sextet member =>
    base64Table_read_back sextet (sextetsOf_lt input sextet member)
  have characters : (base64UrlEncode input).toList.takeWhile (· ≠ '=') =
      (sextetsOf input).map (base64Table.getD · '=') := by
    rw [base64UrlEncode_eq_sextets, List.takeWhile_append_of_pos, List.takeWhile_replicate]
    · simp
    · intro character member
      obtain ⟨sextet, inside, rfl⟩ := List.mem_map.1 member
      simpa using (known sextet inside).1
  have sextets : ((sextetsOf input).map (base64Table.getD · '=')).map urlAlphabet.idxOf = sextetsOf input := by
    rw [List.map_map]
    exact (List.map_congr_left fun sextet member => (known sextet member).2.2).trans (List.map_id _)
  unfold base64UrlDecode
  simp only [characters, sextets, bytesOf_sextetsOf]
  refine if_pos ⟨?_, ?_, ?_, ?_⟩
  · rw [base64UrlEncode_eq_sextets, List.length_map]
  · rw [List.length_map, length_sextetsOf]
    omega
  · rw [List.all_map, List.all_eq_true]
    intro sextet member
    exact List.contains_iff_mem.2 (known sextet member).2.1
  · rw [List.all_eq_true]
    intro bitIndex member
    rw [sextetBit_sextetsOf input (List.mem_range.1 member)]
    cases decide (bitIndex < 8 * input.length) with
    | false | true => rfl

theorem base64UrlEncode_injective {first second : List UInt8} (same : base64UrlEncode first = base64UrlEncode second) :
    first = second := by
  apply Option.some.inj
  rw [← base64UrlDecode_base64UrlEncode, same, base64UrlDecode_base64UrlEncode]

theorem length_base64UrlEncode : (base64UrlEncode input).length = 4 * ((input.length + 2) / 3) := by
  rw [← String.length_toList, base64UrlEncode_eq_sextets, List.length_append, List.length_map, List.length_replicate,
    length_sextetsOf]
  omega

/-- Every text of bytes is read back from its encoding, which has four characters for each group of three bytes, a last
group that is not full included. -/
theorem encoding_read_back :
    (∀ input : List UInt8, base64UrlDecode (base64UrlEncode input) = some input ∧
      (base64UrlEncode input).length = 4 * ((input.length + 2) / 3)) ∧ Function.Injective base64UrlEncode :=
  ⟨fun input => ⟨base64UrlDecode_base64UrlEncode input, length_base64UrlEncode input⟩,
    fun _ _ same => base64UrlEncode_injective same⟩

end FlagSdk.Encoding
