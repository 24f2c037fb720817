import Mathlib.Data.String.Basic

/-! Semantic versions as the operators compare them. The minor and the patch version may be missing, and
the build is dropped. -/

namespace FlagSdk.Evaluation

inductive SemVer.Token where
  | number (value : UInt64)
  | text (value : String)
  deriving DecidableEq

structure SemVer where
  major : UInt64
  minor : UInt64
  patch : UInt64
  prerelease : Option (List SemVer.Token)
  deriving DecidableEq

namespace SemVer

variable (identifier : List Char)

def isNumeric : Bool :=
  identifier = ['0'] ∨ (identifier.head?.any fun first => first.isDigit && first ≠ '0') ∧ identifier.all Char.isDigit

def isIdentifierChar (character : Char) : Bool := character.isAlphanum || character = '-'

def isPrereleaseIdentifier : Bool :=
  isNumeric identifier ∨ identifier.all isIdentifierChar ∧ identifier.any fun character => !character.isDigit

def isBuildIdentifier : Bool := identifier ≠ [] ∧ identifier.all isIdentifierChar

def castDigits (digits : List Char) : Option UInt64 :=
  if digits ≠ [] ∧ digits.all Char.isDigit then
    let value := digits.foldl (fun value digit => 10 * value + (digit.toNat - '0'.toNat)) 0
    if value < 2 ^ 64 then some (UInt64.ofNat value) else none
  else none

/-- The cast of a text to an unsigned number. It takes a minus sign, and the number is then the negative
one modulo its range. -/
def lexicalCast : List Char → Option UInt64
  | '-' :: digits => (castDigits digits).map fun value => 0 - value
  | digits => castDigits digits

def parseToken : Token :=
  match lexicalCast identifier with
  | some value => .number value
  | none => .text (String.ofList identifier)

def cutAt (separator : Char) (text : List Char) : List Char × Option (List Char) :=
  match text.span (· ≠ separator) with
  | (before, []) => (before, none)
  | (before, _ :: after) => (before, some after)

def parseNumbers (text : List Char) : Option (UInt64 × UInt64 × UInt64) :=
  let identifiers := text.splitOn '.'
  if identifiers.all isNumeric then do
    match ← identifiers.mapM lexicalCast with
    | [major] => some (major, 0, 0)
    | [major, minor] => some (major, minor, 0)
    | [major, minor, patch] => some (major, minor, patch)
    | _ => none
  else none

/-- The text is cut where the expression for a version says that its parts begin: the build after the
first plus, and before it the prerelease after the first hyphen. -/
def parse (value : String) : Option SemVer := do
  let (version, build) := cutAt '+' value.toList
  let (numbers, prerelease) := cutAt '-' version
  if build.all (fun text => (text.splitOn '.').all isBuildIdentifier) ∧
      prerelease.all (fun text => (text.splitOn '.').all isPrereleaseIdentifier) then
    let (major, minor, patch) ← parseNumbers numbers
    return ⟨major, minor, patch, prerelease.map fun text => (text.splitOn '.').map parseToken⟩
  else none

def Token.lt : Token → Token → Bool
  | .number first, .number second => first < second
  | .number _, .text _ => true
  | .text _, .number _ => false
  | .text first, .text second => first < second

def prereleaseLt : List Token → List Token → Bool
  | [], [] => false
  | [], _ :: _ => true
  | _ :: _, [] => false
  | first :: firsts, second :: seconds =>
    if first.lt second then true else if second.lt first then false else prereleaseLt firsts seconds

def lt (first second : SemVer) : Bool :=
  if first.major < second.major then true
  else if second.major < first.major then false
  else if first.minor < second.minor then true
  else if second.minor < first.minor then false
  else if first.patch < second.patch then true
  else if second.patch < first.patch then false
  else
    match first.prerelease, second.prerelease with
    | none, none => false
    | some _, none => true
    | none, some _ => false
    | some firsts, some seconds => prereleaseLt firsts seconds

example : parse "1.2-rc.01x+build.7" = some ⟨1, 2, 0, some [.text "rc", .text "01x"]⟩ := by decide
example : parse "1.02" = none := by decide

end SemVer

end FlagSdk.Evaluation
