import FlagSdk.Json.Json

/-! The text form of documents, in which stores and caches keep them. -/

namespace FlagSdk.Persistence

/-- The text form of documents: what is written can be read, and is the same document. -/
structure TextFormat (Text : Type) where
  serialize : Json → Text
  parse : Text → Option Json
  parse_serialize : ∀ json, parse (serialize json) = some json

/-- Documents as their own text. -/
def TextFormat.plain : TextFormat Json := ⟨id, some, fun _ => rfl⟩

end FlagSdk.Persistence
