import FlagSdk.Data.Context
import FlagSdk.Data.Evaluation
import FlagSdk.Evaluation.SemVer
import Mathlib.Data.List.Infix
import Mathlib.Data.Rat.Floor

/-! The operators that compare a value of a context with a value of a clause. -/

namespace FlagSdk.Evaluation
open Data

/-- What is linked from outside, and what the language leaves open: the hash, the search for a regular
expression (a failed one is no match), the parser of timestamps (seconds and nanoseconds), and what a
double becomes that is out of the range of the integer it is cast to. -/
structure Platform where
  sha1 : String → Vector UInt8 20
  regexSearch : String → String → Bool
  timestampParse : String → Option (Int64 × Int64)
  castIntOverflow : ℚ → Int
  castLongLongOverflow : ℚ → Int64

/-- The integer part, without the sign of what is cut off. -/
def truncate (value : ℚ) : Int := if 0 ≤ value then ⌊value⌋ else ⌈value⌉

def isIntegral (value : ℚ) : Bool := (truncate value : ℚ) = value

namespace Platform
variable (platform : Platform)

def asInt (value : ℚ) : Int :=
  if -2 ^ 31 ≤ truncate value ∧ truncate value < 2 ^ 31 then truncate value else platform.castIntOverflow value

def asLongLong (value : ℚ) : Int64 :=
  if -2 ^ 63 ≤ truncate value ∧ truncate value < 2 ^ 63 then Int64.ofInt (truncate value)
  else platform.castLongLongOverflow value

def millisecondsToTimepoint (ms : ℚ) : Option TimePoint :=
  if ms < 0 then none
  else if isIntegral ms then some (platform.asLongLong ms * 1000000)
  else none

def rfc3339ToTimepoint (timestamp : String) : Option TimePoint :=
  if timestamp = "" then none
  else (platform.timestampParse timestamp).map fun (sec, nsec) => sec * 1000000000 + nsec

def toTimepoint (value : Value) : Option TimePoint :=
  match value.raw with
  | .number ms => platform.millisecondsToTimepoint ms
  | .string timestamp => platform.rfc3339ToTimepoint timestamp
  | _ => none

def timeOp (contextValue clauseValue : Value) (op : TimePoint → TimePoint → Bool) : Bool :=
  match platform.toTimepoint contextValue, platform.toTimepoint clauseValue with
  | some context, some clause => op context clause
  | _, _ => false

end Platform

namespace Operators

def stringOp (contextValue clauseValue : Value) (op : String → String → Bool) : Bool :=
  match contextValue.raw, clauseValue.raw with
  | .string context, .string clause => op context clause
  | _, _ => false

def semverOp (contextValue clauseValue : Value) (op : SemVer → SemVer → Bool) : Bool :=
  stringOp contextValue clauseValue fun context clause =>
    match SemVer.parse context, SemVer.parse clause with
    | some context, some clause => op context clause
    | _, _ => false

def startsWith (contextValue clauseValue : String) : Bool := clauseValue.toList.isPrefixOf contextValue.toList
def endsWith (contextValue clauseValue : String) : Bool := clauseValue.toList.isSuffixOf contextValue.toList
def contains (contextValue clauseValue : String) : Bool := clauseValue.toList <:+: contextValue.toList

def bothNumbers (first second : Value) (op : ℚ → ℚ → Bool) : Bool :=
  match first.number?, second.number? with
  | some first, some second => op first second
  | _, _ => false

def holds (platform : Platform) (op : Clause.Op) (contextValue clauseValue : Value) : Bool :=
  match op with
  | .isIn => contextValue = clauseValue
  | .startsWith => stringOp contextValue clauseValue startsWith
  | .endsWith => stringOp contextValue clauseValue endsWith
  | .matchesRegex => stringOp contextValue clauseValue platform.regexSearch
  | .contains => stringOp contextValue clauseValue contains
  | .lessThan => bothNumbers contextValue clauseValue fun context clause => context < clause
  | .lessThanOrEqual => bothNumbers contextValue clauseValue fun context clause => context ≤ clause
  | .greaterThan => bothNumbers contextValue clauseValue fun context clause => clause < context
  | .greaterThanOrEqual => bothNumbers contextValue clauseValue fun context clause => clause ≤ context
  | .before => platform.timeOp contextValue clauseValue fun context clause => context < clause
  | .after => platform.timeOp contextValue clauseValue fun context clause => clause < context
  | .semVerEqual => semverOp contextValue clauseValue fun context clause => context = clause
  | .semVerLessThan => semverOp contextValue clauseValue SemVer.lt
  | .semVerGreaterThan => semverOp contextValue clauseValue fun context clause => clause.lt context
  | .segmentMatch | .unrecognized => false

end Operators

end FlagSdk.Evaluation
