import FlagSdk.Data.Status
import FlagSdk.Dependencies.Tracker
import FlagSdk.Lib.Wrapping

/-! The lazy load system. Items are read from a source when they are asked for, and kept in a cache; a tracker says how
long what was read counts as fresh. The source answers as it likes, and the clock is read by each call. -/

namespace FlagSdk.Lazy
open Lib Data Dependencies

/-- Nanoseconds of the steady clock. -/
abbrev Instant := Int64

inductive TrackState where
  | kFresh
  | kStale
  | kNotTracked
  deriving DecidableEq, Repr

structure ExpirationTracker where
  unscopedTtls : OrdMap String Instant
  scopedTtls : ByKind (OrdMap String Instant)
  deriving DecidableEq

namespace ExpirationTracker

def empty : ExpirationTracker := ⟨.empty, ⟨.empty, .empty⟩⟩

def expiryState (expiration : Option Instant) (currentTime : Instant) : TrackState :=
  match expiration with
  | none => .kNotTracked
  | some expiration => if expiration > currentTime then .kFresh else .kStale

variable (tracker : ExpirationTracker)

def add (key : String) (expiration : Instant) : ExpirationTracker :=
  { tracker with unscopedTtls := tracker.unscopedTtls.insert key expiration }

def state (key : String) (currentTime : Instant) : TrackState :=
  expiryState (tracker.unscopedTtls.find key) currentTime

def addScoped (kind : DataKind) (key : String) (expiration : Instant) : ExpirationTracker :=
  { tracker with scopedTtls := tracker.scopedTtls.modify kind fun ttls => ttls.insert key expiration }

def stateScoped (kind : DataKind) (key : String) (currentTime : Instant) : TrackState :=
  expiryState ((tracker.scopedTtls.data kind).find key) currentTime

end ExpirationTracker

abbrev Stored : DataKind → Type
  | .flag => ItemDescriptor Flag
  | .segment => ItemDescriptor Segment

section
variable (cache : MemoryStore)

def cached : (kind : DataKind) → OrdMap String (Stored kind)
  | .flag => cache.flags
  | .segment => cache.segments

def upsert : (kind : DataKind) → String → Stored kind → MemoryStore
  | .flag, key, item => cache.upsert (.flag key item)
  | .segment, key, item => cache.upsert (.segment key item)

def evict : DataKind → String → MemoryStore
  | .flag, key => cache.removeFlag key
  | .segment, key => cache.removeSegment key

end

/-- What the reader answers when one item is asked for: an error, nothing, or the item. -/
abbrev SingleResult (kind : DataKind) := Except String (Option (Stored kind))

abbrev CollectionResult (kind : DataKind) := Except String (OrdMap String (Stored kind))

/-- A call of the system, with what the clock says when the call begins and when it looks for the time of expiry, and
what the reader answers if it is asked. -/
inductive Request where
  | item (kind : DataKind) (key : String) (now later : Instant) (answer : SingleResult kind)
  | all (kind : DataKind) (now later : Instant) (answer : CollectionResult kind)
  | initialized (now later : Instant) (answer : Bool)

def kAllItems : DataKind → String
  | .flag => "allFlags"
  | .segment => "allSegments"

def kInitialized : String := "initialized"

structure LazyLoad where
  freshDuration : Int64
  cache : MemoryStore
  statusManager : DataSourceStatusManager ServerSide.DataSourceState
  tracker : ExpirationTracker
  initialized : Option Bool
  asked : List Request

namespace LazyLoad

/-- The time to live is configured in milliseconds. -/
def construct (refreshTtl : Int64) : LazyLoad where
  freshDuration := Wrapping.nanoseconds Wrapping.millisecond refreshTtl
  cache := .empty
  statusManager := .initial
  tracker := .empty
  initialized := none
  asked := []

variable (lazy : LazyLoad)

def report (report : Report ServerSide.DataSourceState) : LazyLoad :=
  { lazy with statusManager := lazy.statusManager.receive report }

def expiryTime (later : Instant) : Instant := later + lazy.freshDuration

variable (kind : DataKind)

/-- An item that the source does not have is removed from the cache. -/
def refreshItem (key : String) (later : Instant) (answer : SingleResult kind) : LazyLoad :=
  let lazy := { lazy with tracker := lazy.tracker.addScoped kind key (lazy.expiryTime later) }
  match answer with
  | .error message => lazy.report (.stateWithKind .interrupted .unknown message)
  | .ok found =>
    let lazy := lazy.report (.state .valid)
    match found with
    | some item => { lazy with cache := upsert lazy.cache kind key item }
    | none => { lazy with cache := evict lazy.cache kind key }

def keepItem (expiry : Instant) (lazy : LazyLoad) (item : String × Stored kind) : LazyLoad :=
  { lazy with
    cache := upsert lazy.cache kind item.1 item.2
    tracker := lazy.tracker.addScoped kind item.1 expiry }

def refreshAll (later : Instant) (answer : CollectionResult kind) : LazyLoad :=
  let updatedExpiry := lazy.expiryTime later
  let lazy := { lazy with tracker := lazy.tracker.add (kAllItems kind) updatedExpiry }
  match answer with
  | .error message => lazy.report (.stateWithKind .interrupted .unknown message)
  | .ok allItems => allItems.entries.foldl (keepItem kind updatedExpiry) (lazy.report (.state .valid))

def refreshInitState (later : Instant) (answer : Bool) : LazyLoad :=
  { lazy with
    initialized := some answer
    tracker := lazy.tracker.add kInitialized (lazy.expiryTime later) }

/-- The reader is asked unless what is known is fresh. -/
def get (state : TrackState) (request : Request) (refresh : LazyLoad → LazyLoad) : LazyLoad :=
  match state with
  | .kFresh => lazy
  | .kStale => refresh { lazy with asked := lazy.asked ++ [request] }
  | .kNotTracked => refresh { lazy with asked := lazy.asked ++ [request] }

def getItem (key : String) (now later : Instant) (answer : SingleResult kind) : LazyLoad :=
  lazy.get (lazy.tracker.stateScoped kind key now) (.item kind key now later answer)
    fun lazy => lazy.refreshItem kind key later answer

variable (now later : Instant)

def getAll (answer : CollectionResult kind) : LazyLoad :=
  lazy.get (lazy.tracker.state (kAllItems kind) now) (.all kind now later answer)
    fun lazy => lazy.refreshAll kind later answer

def getFlag (key : String) (now later : Instant) (answer : SingleResult .flag) :
    Option (ItemDescriptor Flag) × LazyLoad :=
  let lazy := lazy.getItem .flag key now later answer
  (lazy.cache.getFlag key, lazy)

def getSegment (key : String) (now later : Instant) (answer : SingleResult .segment) :
    Option (ItemDescriptor Segment) × LazyLoad :=
  let lazy := lazy.getItem .segment key now later answer
  (lazy.cache.getSegment key, lazy)

def allFlags (answer : CollectionResult .flag) : OrdMap String (ItemDescriptor Flag) × LazyLoad :=
  let lazy := lazy.getAll .flag now later answer
  (lazy.cache.flags, lazy)

def allSegments (answer : CollectionResult .segment) : OrdMap String (ItemDescriptor Segment) × LazyLoad :=
  let lazy := lazy.getAll .segment now later answer
  (lazy.cache.segments, lazy)

/-- Once it is initialized, the source is not asked again. -/
def isInitialized (answer : Bool) : Bool × LazyLoad :=
  let refreshed :=
    { lazy with asked := lazy.asked ++ [Request.initialized now later answer] }.refreshInitState later answer
  match lazy.initialized with
  | some true => (true, lazy)
  | some false =>
    if lazy.tracker.state kInitialized now = .kFresh then (false, lazy)
    else (refreshed.initialized.getD false, refreshed)
  | none => (refreshed.initialized.getD false, refreshed)

def take : Request → LazyLoad
  | .item .flag key now later answer => (lazy.getFlag key now later answer).2
  | .item .segment key now later answer => (lazy.getSegment key now later answer).2
  | .all .flag now later answer => (lazy.allFlags now later answer).2
  | .all .segment now later answer => (lazy.allSegments now later answer).2
  | .initialized now later answer => (lazy.isInitialized now later answer).2

def step (request : Request) : Option LazyLoad := some (lazy.take request)

end LazyLoad

end FlagSdk.Lazy
