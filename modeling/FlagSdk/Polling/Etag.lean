import FlagSdk.Polling.Schedule

/-! What the remembered tag says about the destination. A tag is remembered as soon as a response carries
it, so it stands for the payload in the destination only when the same response brought that payload. -/

namespace FlagSdk.Polling
open Lib Lib.Runs Data Json Persistence

namespace PollingDataSource

section
variable {State Data : Type} (source : PollingDataSource State Data)

/-- The tag in the header of a request is the one with which the payload in the destination came. -/
def Coherent : Prop :=
  ∀ tag, source.ifNoneMatch = some tag → ∃ data, source.destination = some (some tag, data)

/-- The tag of the header is the remembered one, at most one poll lies ahead, and while one does, the tag
is that of the payload in the destination. -/
structure Tagged : Prop where
  header : source.ifNoneMatch = source.etag
  single : source.requestsInFlight + source.timerArmed.toNat ≤ 1
  coherent : source.Idle ∨ source.Coherent

variable {source}

theorem Tagged.coherent_of_request (tagged : source.Tagged) (waiting : source.requestsInFlight ≠ 0) :
    source.Coherent :=
  tagged.coherent.resolve_left fun idle => waiting idle.1

end

variable {Text State Data : Type} [DataSourceStates State] [DecidableEq State] (sdk : Sdk Text State Data)
    (source : PollingDataSource State Data)

/-- A response that is not skipped, and after which polling goes on, carries a tag only with a payload,
and a payload only with a tag unless none is remembered. -/
def TagsPayload : Event Text → Prop
  | .pollCompletes result =>
    source.Skips result.etag ∨ sdk.stops result = true ∨
      (result.etag.isSome = true → (sdk.brings result).isSome = true) ∧
        ((sdk.brings result).isSome = true → result.etag.isSome = true ∨ source.etag = none)
  | _ => True

instance (source : PollingDataSource State Data) : (event : Event Text) → Decidable (TagsPayload sdk source event)
  | .pollCompletes _ => inferInstanceAs (Decidable (_ ∨ _))
  | .timerFires => isTrue trivial
  | .shutdown => isTrue trivial

/-- A response is skipped only when the destination holds the payload that came with its tag. -/
def SkipsHeldPayload : Event Text → Prop
  | .pollCompletes result => source.Skips result.etag → ∃ data, source.destination = some (result.etag, data)
  | _ => True

variable {sdk} {source next : PollingDataSource State Data} {result : HttpResult Text}

theorem Handles.coherent (handled : Handles sdk (source.received.remember result.etag) next result)
    (header : source.ifNoneMatch = source.etag) (coherent : source.Coherent)
    (tagsPayload : result.etag.isSome = true → (sdk.brings result).isSome = true)
    (payloadTagged : (sdk.brings result).isSome = true → result.etag.isSome = true ∨ source.etag = none) :
    next.Coherent := by
  intro tag carried
  rw [handled.ifNoneMatch, ifNoneMatch_remember] at carried
  rw [handled.destination, destination_remember]
  cases etag : result.etag with
  | some fresh =>
    rw [etag, Option.some_or] at carried
    cases carried
    obtain ⟨data, brought⟩ := Option.isSome_iff_exists.1 (tagsPayload (by rw [etag]; rfl))
    exact ⟨data, by rw [brought]; rfl⟩
  | none =>
    rw [etag, Option.none_or] at carried
    cases brought : sdk.brings result with
    | none => exact coherent tag carried
    | some data =>
      have forgotten : source.etag = none :=
        (payloadTagged (by rw [brought]; rfl)).resolve_left (by simp [etag])
      have remembered : source.etag = some tag := header.symm.trans carried
      rw [forgotten] at remembered
      cases remembered

theorem Tagged.pollCompletes (tagged : source.Tagged) (good : TagsPayload sdk source (.pollCompletes result))
    (taken : step sdk source (.pollCompletes result) = some next) : next.Tagged := by
  obtain ⟨waiting, moved⟩ := step_pollCompletes taken
  have coherent := tagged.coherent_of_request waiting
  have scheduled : source.Scheduled := by
    have single := tagged.single
    unfold Scheduled
    omega
  have header : next.ifNoneMatch = next.etag := by
    obtain ⟨-, rfl⟩ | ⟨-, handled⟩ := moved
    · exact tagged.header
    · rw [handled.ifNoneMatch, handled.etag, ifNoneMatch_remember, etag_remember]
      exact congrArg _ tagged.header
  obtain ⟨one, goesOn⟩ | ⟨-, -, idle, -⟩ := scheduled.pollCompletes taken
  · refine ⟨header, one.le, .inr ?_⟩
    obtain ⟨-, rfl⟩ | ⟨fresh, handled⟩ := moved
    · exact coherent
    · obtain ⟨tagsPayload, payloadTagged⟩ :=
        (good.resolve_left fresh).resolve_left (Bool.eq_false_iff.1 (goesOn.resolve_left fresh))
      exact handled.coherent tagged.header coherent tagsPayload payloadTagged
  · exact ⟨header, by rw [idle.1, idle.2]; decide, .inl idle⟩

variable {event : Event Text}

theorem step_tagged (tagged : source.Tagged) (good : TagsPayload sdk source event)
    (taken : step sdk source event = some next) : next.Tagged := by
  cases event with
  | pollCompletes result => exact tagged.pollCompletes good taken
  | timerFires =>
    obtain ⟨armed, rfl⟩ := step_timerFires taken
    have single := tagged.single
    have coherent : source.Coherent := tagged.coherent.resolve_left fun idle => by
      rw [idle.2] at armed
      cases armed
    rw [armed, Bool.toNat_true] at single
    exact ⟨tagged.header, by simp only [doPoll, Bool.toNat_false]; omega, .inr coherent⟩
  | shutdown =>
    cases taken
    have single := tagged.single
    refine ⟨tagged.header, by simp only [shutdownAsync, Bool.toNat_false]; omega, ?_⟩
    exact tagged.coherent.imp (fun idle => ⟨idle.1, rfl⟩) id

theorem start_tagged (validRequest : Bool) : (start sdk validRequest).Tagged := by
  cases validRequest with
  | true => exact ⟨rfl, Nat.le_refl 1, .inr nofun⟩
  | false => exact ⟨rfl, Nat.zero_le 1, .inl ⟨rfl, rfl⟩⟩

theorem Tagged.skipsHeldPayload (tagged : source.Tagged)
    (taken : step sdk source event = some next) : SkipsHeldPayload source event := by
  cases event with
  | pollCompletes result =>
    intro skips
    obtain ⟨present, same⟩ := skips
    obtain ⟨tag, carried⟩ := Option.isSome_iff_exists.1 present
    have coherent := tagged.coherent_of_request (step_pollCompletes taken).1
    rw [carried]
    exact coherent tag (by rw [tagged.header, same, carried])
  | timerFires | shutdown => trivial

/-- Every request with a tag, and every skipped response, finds the payload of its tag in the
destination. -/
def TagsHeld (sdk : Sdk Text State Data) (validRequest : Bool) (events : List (Event Text)) : Prop :=
  (∀ source, run (step sdk) (start sdk validRequest) events = some source →
      source.requestsInFlight ≠ 0 → source.Coherent) ∧
    Along (step sdk) SkipsHeldPayload (start sdk validRequest) events

theorem tagsHeld_of_tagsPayload {validRequest : Bool} {events : List (Event Text)}
    (good : Along (step sdk) (TagsPayload sdk) (start sdk validRequest) events) :
    TagsHeld sdk validRequest events := by
  constructor
  · intro source reached waiting
    exact (run_invariant step_tagged (start_tagged validRequest) good reached).coherent_of_request waiting
  · exact along_of_invariant step_tagged (fun tagged _ taken => tagged.skipsHeldPayload taken)
      (start_tagged validRequest) good

end PollingDataSource

open PollingDataSource
variable {Text : Type} (format : TextFormat Text)

/-- Both data sources keep their tag in step with the destination as long as every tag comes with a
payload, and every payload that replaces a tagged one with a tag. -/
theorem tags_held (validRequest : Bool) (events : List (Event Text)) :
    (Along (step (server format)) (TagsPayload (server format)) (start (server format) validRequest) events →
        TagsHeld (server format) validRequest events) ∧
      (Along (step (client format)) (TagsPayload (client format)) (start (client format) validRequest) events →
        TagsHeld (client format) validRequest events) :=
  ⟨tagsHeld_of_tagsPayload, tagsHeld_of_tagsPayload⟩

def taggedEvents : List (Event Json) :=
  [.pollCompletes (.response 503 none none), .timerFires,
    .pollCompletes (.response 200 (some (.object [])) (some "v1")), .timerFires,
    .pollCompletes (.response 200 (some (.object [])) (some "v1")), .timerFires,
    .pollCompletes (.response 200 (some (.object [])) (some "v2")), .timerFires]

theorem tags_held_by_taggedEvents :
    TagsHeld (server .plain) true (taggedEvents.take 3) ∧ TagsHeld (client .plain) true taggedEvents :=
  ⟨(tags_held .plain true (taggedEvents.take 3)).1 (by decide), (tags_held .plain true taggedEvents).2 (by decide)⟩

/-- The server remembers the tag of an error, and the client that of a payload it cannot decode. -/
theorem tags_not_held :
    (¬∀ events : List (Event Json), TagsHeld (server .plain) true events) ∧
      ¬∀ events : List (Event Json), TagsHeld (client .plain) true events := by
  constructor
  · intro held
    have coherent := (held [.pollCompletes (.response 500 none (some "v1")), .timerFires]).1 _ rfl (by decide)
    obtain ⟨data, holds⟩ := coherent "v1" rfl
    cases holds
  · intro held
    have coherent :=
      (held [.pollCompletes (.response 200 (some (.bool true)) (some "v1")), .timerFires]).1 _ rfl (by decide)
    obtain ⟨data, holds⟩ := coherent "v1" rfl
    cases holds

end FlagSdk.Polling
