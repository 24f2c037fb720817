import FlagSdk.Fdv2.StreamingSynchronizer
import FlagSdk.Lib.Wrapping

/-! The delay before FDv2 is tried again. The time to live comes as a text in a header or as a number in a goodbye,
becomes a number of seconds in 64 bits, and the timer counts it in nanoseconds. -/

namespace FlagSdk.Fdv2
open Data Json Lib Fdv2.Protocol

/-- The unsigned number that a text begins with, and the rest of the text. There is none when the text does not begin
with a digit, or when the number is out of range. -/
def fromChars (text : List Char) : Option (UInt64 × List Char) :=
  let digits := text.takeWhile Char.isDigit
  let value := Nat.ofDigitChars 10 digits 0
  if digits = [] then none
  else if value < 2 ^ 64 then some (UInt64.ofNat value, text.dropWhile Char.isDigit)
  else none

namespace FDv1FallbackDirective

def kDefaultTtl : Int64 := 3600

/-- The number of seconds is converted to the signed one of a duration. -/
def parseTtl (value : String) : Option Int64 :=
  match fromChars value.toList with
  | some (seconds, []) => some seconds.toInt64
  | _ => none

/-- The directive in the headers of a response, from the values of the two that matter. -/
def ofHeaders (fallback ttl : Option String) : Option FDv1FallbackDirective :=
  if fallback.any (fun value => value.toList.map Char.toLower = "true".toList) then
    some ⟨(ttl.bind parseTtl).getD kDefaultTtl⟩
  else none

end FDv1FallbackDirective

/-- The delay that is scheduled for a time to live, if one is, in the unit of the timer. -/
def retryDelay (ttl : Int64) : Option Int64 :=
  if ttl = 0 then none else some (Wrapping.nanoseconds Wrapping.second ttl)

theorem scheduleFDv2RetryLocked_retryDelay (system : FDv2DataSystem) (ttl : Int64) :
    system.scheduleFDv2RetryLocked ttl = match retryDelay ttl with
      | none => system
      | some _ => { system.cancelRetry with retryDelays := system.cancelRetry.retryDelays ++ [⟨false⟩] } := by
  unfold FDv2DataSystem.scheduleFDv2RetryLocked retryDelay
  split_ifs
  · rfl
  · rfl

/-- The delay is exactly that many seconds, and there is none for zero. -/
def DelayIsExact (seconds : ℤ) : Option Int64 → Prop
  | none => seconds = 0
  | some delay => seconds ≠ 0 ∧ 0 ≤ delay.toInt ∧ delay.toInt = seconds * 1000000000

theorem delayIsExact_iff {seconds : ℤ} (lower : -2 ^ 63 ≤ seconds) (upper : seconds < 2 ^ 64) :
    DelayIsExact seconds (retryDelay (Int64.ofInt seconds)) ↔ 0 ≤ seconds ∧ seconds ≤ 9223372036 := by
  have zero : Int64.ofInt seconds = 0 ↔ seconds = 0 := by
    rw [← Int64.toInt_inj, Wrapping.toInt_ofInt_eq, Wrapping.offset, Int64.toInt_zero]
    omega
  unfold retryDelay
  split_ifs with none
  · have nothing := zero.1 none
    show seconds = 0 ↔ _
    omega
  · have duration : Wrapping.nanoseconds Wrapping.second (Int64.ofInt seconds) =
        Int64.ofInt (seconds * 1000000000) := by
      rw [Int64.ofInt_mul]
      rfl
    have exact := Wrapping.toInt_ofInt_iff (seconds * 1000000000)
    have some := mt zero.2 none
    rw [duration, DelayIsExact]
    omega

variable {ttl : Int64} {json : Json}

theorem parseTtl_eq_some {value : String} (accepted : FDv1FallbackDirective.parseTtl value = some ttl) :
    value.toList.all Char.isDigit = true ∧ Nat.ofDigitChars 10 value.toList 0 < 2 ^ 64 ∧
      ttl = Int64.ofInt (Nat.ofDigitChars 10 value.toList 0) := by
  unfold FDv1FallbackDirective.parseTtl at accepted
  split at accepted
  next seconds taken =>
    unfold fromChars at taken
    dsimp only at taken
    split_ifs at taken with empty small
    obtain ⟨number, rest⟩ := Prod.mk.inj (Option.some.inj taken)
    have digits : ∀ character ∈ value.toList, character.isDigit = true := List.dropWhile_eq_nil_iff.1 rest
    have whole : value.toList.takeWhile Char.isDigit = value.toList := List.takeWhile_eq_self_iff.2 digits
    rw [whole] at number small
    refine ⟨List.all_eq_true.2 digits, small, ?_⟩
    rw [← Option.some.inj accepted, ← number]
    exact UInt64.toInt64_ofNat'
  next => cases accepted

/-- The number that a document is, if it is one. -/
def numberOf : Json → Option ℚ
  | .int value => some value
  | .double value => some value
  | _ => none

theorem toNumber_eq_some {low high value : ℤ} (converted : json.toNumber low high = some value) :
    numberOf json = some (value : ℚ) ∧ low ≤ value ∧ value ≤ high := by
  cases json with
  | int number =>
    rw [Json.toNumber] at converted
    split_ifs at converted with inside
    cases converted
    exact ⟨rfl, inside⟩
  | double number =>
    rw [Json.toNumber] at converted
    split_ifs at converted with inside
    cases converted
    exact ⟨congrArg some (Rat.den_eq_one_iff number |>.1 inside.1).symm, inside.2⟩
  | _ => cases converted

theorem valueToInt64_eq_ok {value : Int64} (decoded : valueToInt64 json = .ok (some value)) :
    numberOf json = some (value.toInt : ℚ) := by
  unfold valueToInt64 valueToNumber at decoded
  split at decoded
  · cases decoded
  · split at decoded
    next number converted =>
      cases decoded
      obtain ⟨exact, kept, same⟩ := Option.map_eq_some_iff.1 converted
      obtain ⟨number, lower, upper⟩ := toNumber_eq_some kept
      rw [number, ← same, (Wrapping.toInt_ofInt_iff exact).2 ⟨lower, by omega⟩]
    next => cases decoded

theorem goodbye_ttl_number {goodbye : Goodbye}
    (decoded : valueToGoodbye json = .ok (some goodbye)) (present : goodbye.protocolFallbackTtl = some ttl) :
    ∃ fields document, json = .object fields ∧ Object.find fields "protocolFallbackTTL" = some document ∧
      numberOf document = some (ttl.toInt : ℚ) := by
  cases json with
  | object fields =>
    obtain ⟨reason, _, rest⟩ := bind_eq_ok.1 decoded
    obtain ⟨field, parsed, same⟩ := bind_eq_ok.1 rest
    cases same
    have given : field = some ttl := present
    subst given
    unfold parseConditionalField at parsed
    cases found : Object.find fields "protocolFallbackTTL" with
    | none =>
      rw [found] at parsed
      cases parsed
    | some document =>
      rw [found] at parsed
      exact ⟨fields, document, rfl, found, valueToInt64_eq_ok parsed⟩
  | _ => cases decoded

/-- A time to live is kept in the conversions exactly when its nanoseconds are in the range of the timer. -/
theorem retry_delay_exact_iff (value : String) (json : Json) (ttl : Int64) :
    (FDv1FallbackDirective.parseTtl value = some ttl →
      FDv1FallbackDirective.ofHeaders (some "true") (some value) = some ⟨ttl⟩ ∧
      value.toList.all Char.isDigit = true ∧
      (DelayIsExact (Nat.ofDigitChars 10 value.toList 0) (retryDelay ttl) ↔
        Nat.ofDigitChars 10 value.toList 0 ≤ 9223372036)) ∧
    ∀ goodbye, valueToGoodbye json = .ok (some goodbye) → goodbye.protocolFallbackTtl = some ttl →
      (∃ fields document, json = .object fields ∧ Object.find fields "protocolFallbackTTL" = some document ∧
        numberOf document = some (ttl.toInt : ℚ)) ∧
      (DelayIsExact ttl.toInt (retryDelay ttl) ↔ 0 ≤ ttl.toInt ∧ ttl.toInt ≤ 9223372036) := by
  constructor
  · intro accepted
    obtain ⟨digits, small, spelled⟩ := parseTtl_eq_some accepted
    have directive : FDv1FallbackDirective.ofHeaders (some "true") (some value) = some ⟨ttl⟩ := by
      rw [FDv1FallbackDirective.ofHeaders, if_pos (by decide), Option.bind_some, accepted]
      rfl
    refine ⟨directive, digits, ?_⟩
    rw [spelled, delayIsExact_iff (by omega) (by omega)]
    omega
  · intro goodbye decoded present
    have lower := ttl.le_toInt
    have upper := ttl.toInt_lt
    have exact := @delayIsExact_iff ttl.toInt (by omega) (by omega)
    rw [Int64.ofInt_toInt] at exact
    exact ⟨goodbye_ttl_number decoded present, exact⟩

/-- The first number of seconds whose nanoseconds overflow, the last one that is accepted, and a negative one in a
goodbye. -/
theorem retry_delay_wrong :
    (FDv1FallbackDirective.parseTtl "9223372037").bind retryDelay = some (-9223372036709551616) ∧
    (FDv1FallbackDirective.parseTtl "18446744073709551615").bind retryDelay = some (-1000000000) ∧
    valueToGoodbye (.object [("protocolFallbackTTL", .int (-5))]) = .ok (some ⟨none, some (-5)⟩) ∧
    retryDelay (-5) = some (-5000000000) := by
  refine ⟨?_, ?_, ?_, ?_⟩
  · decide
  · decide
  · rfl
  · decide

end FlagSdk.Fdv2
