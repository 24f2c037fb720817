import FlagSdk.Fdv2.FDv1Adapter
import FlagSdk.Lib.Occurrence
import FlagSdk.Polling.Source

/-! The handler of the messages of an FDv1 stream. A put replaces all data, a patch and a delete name one item by a
path, and what cannot be read is reported and handed to no one. The kind of an item is looked for from the end of the
path, so that an item is missed whose key repeats the prefix of its kind. -/

namespace FlagSdk.Server.DataSourceEventHandler
open Lib Data Json Persistence Dependencies Polling
open Fdv2.FDv1AdapterSynchronizer (DestinationCall)

inductive MessageStatus where
  | messageHandled
  | invalidMessage
  | unhandledVerb
  deriving DecidableEq, Repr

structure StreamingDataKind where
  kind : DataKind
  path : List Char

namespace StreamingDataKind

def isKind (dataKind : StreamingDataKind) (patchPath : String) : Bool :=
  Occurrence.rfind dataKind.path patchPath.toList = some 0

def key (dataKind : StreamingDataKind) (patchPath : String) : String :=
  String.ofList (patchPath.toList.drop dataKind.path.length)

end StreamingDataKind

namespace StreamingDataKinds

def flag : StreamingDataKind := ⟨.flag, "/flags/".toList⟩
def segment : StreamingDataKind := ⟨.segment, "/segments/".toList⟩

def kind (path : String) : Option DataKind :=
  if flag.isKind path then some .flag else if segment.isKind path then some .segment else none

def key (path : String) : Option String :=
  if flag.isKind path then some (flag.key path) else if segment.isKind path then some (segment.key path) else none

end StreamingDataKinds

structure Delete where
  key : String
  kind : DataKind
  version : UInt64
  deriving DecidableEq

def Delete.change (delete : Delete) : ItemChange :=
  match delete.kind with
  | .flag => .flag delete.key (.tombstone delete.version)
  | .segment => .segment delete.key (.tombstone delete.version)

variable (path : String)

/-- A put with any other path than the root is none of ours. -/
def putData (fields : Object) : Except Fault (Option SDKDataSet) :=
  if ¬(path = "/" ∨ path = "") then .ok none
  else (parseFieldDefault valueToDataSet fields "data" .empty).map some

def valueToPut : Json → Except Fault (Option SDKDataSet)
  | .object fields => do
    let path ← parseFieldDefault valueToString fields "path" ""
    putData path fields
  | _ => .error schemaFailure

def patch {Content : Type} (dataKind : StreamingDataKind) (valueTo : Json → Decoded Content)
    (change : String → Content → ItemChange) (path : String) (fields : Object) : Decoded ItemChange :=
  match fields.find "data" with
  | none => .error schemaFailure
  | some document =>
    match valueTo document with
    | .error _ => .error schemaFailure
    | .ok none => .error schemaFailure
    | .ok (some content) => .ok (some (change (dataKind.key path) content))

/-- A patch of a kind that is not recognised is ignored. -/
def patchData (fields : Object) : Except Fault (Option ItemChange) :=
  if StreamingDataKinds.flag.isKind path then
    patch StreamingDataKinds.flag valueToFlag (fun key flag => .flag key (.ofFlag flag)) path fields
  else if StreamingDataKinds.segment.isKind path then
    patch StreamingDataKinds.segment valueToSegment (fun key segment => .segment key (.ofSegment segment)) path fields
  else .ok none

def valueToPatch : Json → Except Fault (Option ItemChange)
  | .object fields => do
    let path ← parseFieldDefault valueToString fields "path" ""
    patchData path fields
  | _ => .error schemaFailure

def deleteData (version : UInt64) : Except Fault Delete :=
  match StreamingDataKinds.kind path, StreamingDataKinds.key path with
  | some kind, some key => .ok ⟨key, kind, version⟩
  | _, _ => .error schemaFailure

def valueToDelete : Json → Except Fault Delete
  | .object fields => do
    let version ← parseRequiredField valueToUInt64 fields "version"
    let path ← parseRequiredField valueToString fields "path"
    deleteData path version
  | _ => .error schemaFailure

def kErrorParsingPut : String := "Could not parse PUT message"
def kErrorPutInvalid : String := "PUT message contained invalid data"
def kErrorParsingPatch : String := "Could not parse PATCH message"
def kErrorPatchInvalid : String := "PATCH message contained invalid data"
def kErrorParsingDelete : String := "Could not parse DELETE message"
def kErrorDeleteInvalid : String := "DELETE message contained invalid data\""

/-- What a message leads to: calls on the destination, reports to the status manager, and lines in the log. -/
structure Handled where
  calls : List DestinationCall := []
  reports : List (Report ServerSide.DataSourceState) := []
  log : List String := []
  status : MessageStatus
  deriving DecidableEq

/-- A message that could not be read, with what is logged and what is reported about it. -/
def failed (log : List String) (report : String) : Handled where
  reports := [.error .invalidData report]
  log := log
  status := .invalidMessage

section
variable {Text : Type} (format : TextFormat Text)

structure Message (Text : Type) where
  type : String
  data : Text
  deriving DecidableEq

/-- The shape of the branches: parsing, decoding, and what is done with what was decoded, if there is something to
do. -/
def handleAs {Content : Type} (unparsable invalid : Handled) (valueTo : Json → Decoded Content)
    (act : Content → Handled) (data : Text) : Handled :=
  match format.parse data with
  | none => unparsable
  | some json =>
    match valueTo json with
    | .error _ => invalid
    | .ok none => { status := .messageHandled }
    | .ok (some content) => act content

def handlePut : Text → Handled :=
  handleAs format (failed [kErrorParsingPut] kErrorParsingPut) (failed [kErrorPutInvalid] kErrorPutInvalid) valueToPut
    fun dataSet => { calls := [.init dataSet], reports := [.state .valid], status := .messageHandled }

/-- A patch that cannot be parsed is logged as a put. -/
def handlePatch : Text → Handled :=
  handleAs format (failed [kErrorParsingPut] kErrorParsingPatch) (failed [] kErrorPatchInvalid) valueToPatch
    fun change => { calls := [.upsert change], status := .messageHandled }

def handleDelete : Text → Handled :=
  handleAs format (failed [kErrorParsingDelete] kErrorParsingDelete) (failed [] kErrorDeleteInvalid)
    (fun json => (valueToDelete json).map some)
    fun delete => { calls := [.upsert delete.change], status := .messageHandled }

def handleMessage (message : Message Text) : Handled :=
  if message.type = "put" then handlePut format message.data
  else if message.type = "patch" then handlePatch format message.data
  else if message.type = "delete" then handleDelete format message.data
  else { status := .unhandledVerb }

end

/-! What the messages mean: the items that their paths name, whatever is in the keys. -/

def StreamingDataKind.of : DataKind → StreamingDataKind
  | .flag => StreamingDataKinds.flag
  | .segment => StreamingDataKinds.segment

def named : Option Item :=
  if StreamingDataKinds.flag.path <+: path.toList then some (.flag, StreamingDataKinds.flag.key path)
  else if StreamingDataKinds.segment.path <+: path.toList then some (.segment, StreamingDataKinds.segment.key path)
  else none

/-- The item with the content of a document, when the document is one of its kind. -/
def withContent (item : Item) (document : Json) : Option ItemChange :=
  match item.1 with
  | .flag => (valueToFlag document).toOption.join.map fun flag => .flag item.2 (.ofFlag flag)
  | .segment => (valueToSegment document).toOption.join.map fun segment => .segment item.2 (.ofSegment segment)

def tombstone (item : Item) (version : UInt64) : ItemChange := Delete.change ⟨item.2, item.1, version⟩

variable (fields : Object)

def meantPut : Option DestinationCall := do
  let path ← (parseFieldDefault valueToString fields "path" "").toOption
  let dataSet ← (parseFieldDefault valueToDataSet fields "data" .empty).toOption
  if path = "/" ∨ path = "" then some (.init dataSet) else none

def meantPatch : Option DestinationCall := do
  let path ← (parseFieldDefault valueToString fields "path" "").toOption
  let item ← named path
  let document ← fields.find "data"
  (withContent item document).map .upsert

def meantDelete : Option DestinationCall := do
  let version ← (parseRequiredField valueToUInt64 fields "version").toOption
  let path ← (parseRequiredField valueToString fields "path").toOption
  let item ← named path
  some (.upsert (tombstone item version))

def meant {Text : Type} (format : TextFormat Text) (message : Message Text) : Option DestinationCall :=
  match format.parse message.data with
  | some (.object fields) =>
    if message.type = "put" then meantPut fields
    else if message.type = "patch" then meantPatch fields
    else if message.type = "delete" then meantDelete fields
    else none
  | _ => none

/-- The prefix of the kind occurs in the path of the item at its start only. -/
def PrefixOnce (item : Item) : Prop :=
  ¬(StreamingDataKind.of item.1).path <:+: ((StreamingDataKind.of item.1).path ++ item.2.toList).tail
  deriving Decidable

/-- The same of the item that a call is about; a replacement of all data is about no item. -/
def CallRecognised : DestinationCall → Prop
  | .init _ => True
  | .upsert (.flag key _) => PrefixOnce (.flag, key)
  | .upsert (.segment key _) => PrefixOnce (.segment, key)

instance : DecidablePred CallRecognised
  | .init _ => isTrue trivial
  | .upsert (.flag key _) => inferInstanceAs (Decidable (PrefixOnce (.flag, key)))
  | .upsert (.segment key _) => inferInstanceAs (Decidable (PrefixOnce (.segment, key)))

section

theorem StreamingDataKind.isKind_iff (kind : DataKind) (path : String) :
    (StreamingDataKind.of kind).isKind path = true ↔
      (StreamingDataKind.of kind).path <+: path.toList ∧
        ¬(StreamingDataKind.of kind).path <:+: path.toList.tail := by
  have nonempty : (StreamingDataKind.of kind).path ≠ [] := by
    cases kind <;> decide
  rw [isKind, decide_eq_true_iff, Occurrence.rfind_eq_zero_iff nonempty]

theorem not_both_kinds {text : List Char} (flags : StreamingDataKinds.flag.path <+: text) :
    ¬StreamingDataKinds.segment.path <+: text := by
  intro segments
  exact absurd (List.prefix_of_prefix_length_le flags segments (by decide)) (by decide)

theorem recognised_iff {kind : DataKind} {path : String} (starts : (StreamingDataKind.of kind).path <+: path.toList) :
    (StreamingDataKind.of kind).isKind path = true ↔ PrefixOnce (kind, (StreamingDataKind.of kind).key path) := by
  obtain ⟨rest, whole⟩ := starts
  have key : ((StreamingDataKind.of kind).key path).toList = rest := by
    rw [StreamingDataKind.key, String.toList_ofList, ← whole, List.drop_left]
  rw [StreamingDataKind.isKind_iff, PrefixOnce, key, whole]
  exact and_iff_right ⟨rest, whole⟩

/-- The item that is found by a path: the one that it names, unless the prefix occurs again. -/
def found : Option Item := (named path).filter fun item => PrefixOnce item

theorem isKind_false {kind : DataKind} {path : String} (other : ¬(StreamingDataKind.of kind).path <+: path.toList) :
    (StreamingDataKind.of kind).isKind path = false := by
  rw [← Bool.not_eq_true, StreamingDataKind.isKind_iff]
  exact fun both => other both.1

variable (path : String)

theorem found_eq :
    found path =
      if StreamingDataKinds.flag.isKind path then some (.flag, StreamingDataKinds.flag.key path)
      else if StreamingDataKinds.segment.isKind path then some (.segment, StreamingDataKinds.segment.key path)
      else none := by
  unfold found named
  by_cases flags : StreamingDataKinds.flag.path <+: path.toList
  · have segments : StreamingDataKinds.segment.isKind path = false := @isKind_false .segment path (not_both_kinds flags)
    have once : StreamingDataKinds.flag.isKind path = true ↔ PrefixOnce (.flag, StreamingDataKinds.flag.key path) :=
      @recognised_iff .flag path flags
    rw [if_pos flags, segments, if_neg Bool.false_ne_true, Option.filter_some]
    simp only [decide_eq_true_eq, once]
  · have notFlag : StreamingDataKinds.flag.isKind path = false := @isKind_false .flag path flags
    rw [if_neg flags, notFlag, if_neg Bool.false_ne_true]
    by_cases segments : StreamingDataKinds.segment.path <+: path.toList
    · have once : StreamingDataKinds.segment.isKind path = true ↔
          PrefixOnce (.segment, StreamingDataKinds.segment.key path) := @recognised_iff .segment path segments
      rw [if_pos segments, Option.filter_some]
      simp only [decide_eq_true_eq, once]
    · have notSegment : StreamingDataKinds.segment.isKind path = false := @isKind_false .segment path segments
      rw [if_neg segments, notSegment, if_neg Bool.false_ne_true]
      rfl

theorem patch_toOption {Content : Type} (dataKind : StreamingDataKind) (valueTo : Json → Decoded Content)
    (change : String → Content → ItemChange) (path : String) (fields : Object) :
    (patch dataKind valueTo change path fields).toOption.join =
      (fields.find "data").bind fun document => (valueTo document).toOption.join.map (change (dataKind.key path)) := by
  unfold patch
  cases fields.find "data" with
  | none => rfl
  | some document =>
    dsimp only [Option.bind_some]
    cases valueTo document with
    | error fault => rfl
    | ok content =>
      cases content with
      | none | some => rfl

theorem patchData_toOption :
    (patchData path fields).toOption.join =
      (found path).bind fun item => (fields.find "data").bind (withContent item) := by
  rw [found_eq, patchData]
  split_ifs
  · exact patch_toOption _ _ _ _ _
  · exact patch_toOption _ _ _ _ _
  · rfl

theorem deleteData_toOption (version : UInt64) :
    (deleteData path version).toOption = (found path).map fun item => ⟨item.2, item.1, version⟩ := by
  rw [found_eq, deleteData, StreamingDataKinds.kind, StreamingDataKinds.key]
  split_ifs <;> rfl

end

section
variable {Text : Type} (format : TextFormat Text)

theorem calls_handleAs {Content : Type} {unparsable invalid : Handled} {valueTo : Json → Decoded Content}
    {act : Content → Handled} {call : Content → DestinationCall} (data : Text) (nothing : unparsable.calls = [])
    (also : invalid.calls = []) (one : ∀ content, (act content).calls = [call content]) :
    (handleAs format unparsable invalid valueTo act data).calls =
      (((format.parse data).bind fun json => (valueTo json).toOption.join).map call).toList := by
  unfold handleAs
  cases format.parse data with
  | none => exact nothing
  | some json =>
    dsimp only [Option.bind_some]
    cases valueTo json with
    | error fault => exact also
    | ok content =>
      cases content with
      | none => rfl
      | some content => exact one content

theorem callRecognised_withContent {item : Item} {document : Json} {change : ItemChange}
    (content : withContent item document = some change) : CallRecognised (.upsert change) ↔ PrefixOnce item := by
  obtain ⟨kind, key⟩ := item
  cases kind with
  | flag =>
    obtain ⟨flag, _, rfl⟩ := Option.map_eq_some_iff.1 content
    exact Iff.rfl
  | segment =>
    obtain ⟨segment, _, rfl⟩ := Option.map_eq_some_iff.1 content
    exact Iff.rfl

theorem callRecognised_tombstone (item : Item) (version : UInt64) :
    CallRecognised (.upsert (tombstone item version)) ↔ PrefixOnce item := by
  obtain ⟨kind, key⟩ := item
  cases kind <;> exact Iff.rfl

theorem filter_bind_eq {item : Option Item} {next : Item → Option DestinationCall}
    (about : ∀ item call, next item = some call → (CallRecognised call ↔ PrefixOnce item)) :
    (item.filter fun item => PrefixOnce item).bind next =
      (item.bind next).filter fun call => CallRecognised call := by
  cases item with
  | none => rfl
  | some item =>
    rw [Option.filter_some, Option.bind_some]
    cases given : next item with
    | none => split <;> simp [given]
    | some call =>
      have same := about item call given
      rw [Option.filter_some]
      simp only [decide_eq_true_eq, same]
      split <;> simp [given]

variable (fields : Object)

theorem valueToPut_meant :
    (valueToPut (.object fields)).toOption.join.map DestinationCall.init = meantPut fields := by
  unfold valueToPut meantPut putData
  dsimp only
  cases parseFieldDefault valueToString fields "path" "" with
  | error fault => rfl
  | ok path =>
    show Option.map _ (Except.toOption (if _ then _ else _)).join = _
    by_cases root : path = "/" ∨ path = ""
    · rw [if_neg (not_not_intro root)]
      cases parseFieldDefault valueToDataSet fields "data" .empty with
      | error fault => rfl
      | ok dataSet => exact (if_pos root).symm
    · rw [if_pos root]
      cases parseFieldDefault valueToDataSet fields "data" .empty with
      | error fault => rfl
      | ok dataSet => exact (if_neg root).symm

theorem valueToPatch_meant :
    (valueToPatch (.object fields)).toOption.join.map DestinationCall.upsert =
      (meantPatch fields).filter fun call => CallRecognised call := by
  unfold valueToPatch meantPatch
  dsimp only
  cases parseFieldDefault valueToString fields "path" "" with
  | error fault => rfl
  | ok path =>
    show Option.map _ (patchData path fields).toOption.join =
      ((named path).bind fun item => (fields.find "data").bind fun document =>
        (withContent item document).map DestinationCall.upsert).filter _
    rw [patchData_toOption, Option.map_bind, ← filter_bind_eq]
    · congr 1
      funext item
      exact Option.map_bind
    · intro item call given
      obtain ⟨document, _, wrapped⟩ := Option.bind_eq_some_iff.1 given
      obtain ⟨change, content, rfl⟩ := Option.map_eq_some_iff.1 wrapped
      exact callRecognised_withContent content

theorem valueToDelete_meant :
    ((valueToDelete (.object fields)).map some).toOption.join.map (fun delete => DestinationCall.upsert delete.change) =
      (meantDelete fields).filter fun call => CallRecognised call := by
  unfold valueToDelete meantDelete
  dsimp only
  cases parseRequiredField valueToUInt64 fields "version" with
  | error fault => rfl
  | ok version =>
    cases parseRequiredField valueToString fields "path" with
    | error fault => rfl
    | ok path =>
      show Option.map _ ((deleteData path version).map some).toOption.join =
        ((named path).bind fun item => some (DestinationCall.upsert (tombstone item version))).filter _
      have plain : ((deleteData path version).map some).toOption.join = (deleteData path version).toOption := by
        cases deleteData path version <;> rfl
      rw [plain, deleteData_toOption, Option.map_map, ← filter_bind_eq, ← found, Option.map_eq_bind]
      · rfl
      · intro item call given
        cases given
        exact callRecognised_tombstone item version

theorem calls_handlePut (data : Text) :
    (handlePut format data).calls =
      (((format.parse data).bind fun json => (valueToPut json).toOption.join).map .init).toList :=
  calls_handleAs format data rfl rfl fun _ => rfl

theorem calls_handlePatch (data : Text) :
    (handlePatch format data).calls =
      (((format.parse data).bind fun json => (valueToPatch json).toOption.join).map .upsert).toList :=
  calls_handleAs format data rfl rfl fun _ => rfl

theorem calls_handleDelete (data : Text) :
    (handleDelete format data).calls =
      (((format.parse data).bind fun json => ((valueToDelete json).map some).toOption.join).map
        fun delete => .upsert delete.change).toList :=
  calls_handleAs format data rfl rfl fun _ => rfl

theorem callRecognised_meantPut {fields : Object} {call : DestinationCall} (given : meantPut fields = some call) :
    CallRecognised call := by
  obtain ⟨path, _, rest⟩ := Option.bind_eq_some_iff.1 given
  obtain ⟨dataSet, _, root⟩ := Option.bind_eq_some_iff.1 rest
  split_ifs at root
  cases root
  trivial

theorem filter_meantPut : (meantPut fields).filter (fun call => CallRecognised call) = meantPut fields := by
  cases given : meantPut fields with
  | none => rfl
  | some call => rw [Option.filter_some, if_pos (decide_eq_true (callRecognised_meantPut given))]

theorem calls_handleMessage (message : Message Text) :
    (handleMessage format message).calls =
      ((meant format message).filter fun call => CallRecognised call).toList := by
  unfold handleMessage meant
  cases parsed : format.parse message.data with
  | none =>
    split_ifs
    · rw [calls_handlePut, parsed]
      rfl
    · rw [calls_handlePatch, parsed]
      rfl
    · rw [calls_handleDelete, parsed]
      rfl
    · rfl
  | some json =>
    cases json with
    | object fields =>
      split_ifs
      · rw [calls_handlePut, parsed, Option.bind_some, valueToPut_meant, filter_meantPut]
      · rw [calls_handlePatch, parsed, Option.bind_some, valueToPatch_meant]
      · rw [calls_handleDelete, parsed, Option.bind_some, valueToDelete_meant]
      · rfl
    | _ =>
      split_ifs
      · rw [calls_handlePut, parsed]
        rfl
      · rw [calls_handlePatch, parsed]
        rfl
      · rw [calls_handleDelete, parsed]
        rfl
      · rfl

end

section
variable {Text : Type} (format : TextFormat Text)

structure Stream where
  destination : List DestinationCall := []
  reports : List (Report ServerSide.DataSourceState) := []
  log : List String := []

def Stream.receive (stream : Stream) (message : Message Text) : Stream :=
  let handled := handleMessage format message
  { destination := stream.destination ++ handled.calls
    reports := stream.reports ++ handled.reports
    log := stream.log ++ handled.log }

variable (messages : List (Message Text))

def Stream.after : Stream := messages.foldl (Stream.receive format) {}

/-- The message names an item that the search from the end of its path finds, or it is not a valid one. -/
def Recognised (message : Message Text) : Prop := ∀ call, meant format message = some call → CallRecognised call

theorem destination_after :
    (Stream.after format messages).destination =
      (messages.filterMap (meant format)).filter fun call => CallRecognised call := by
  induction messages using List.reverseRecOn with
  | nil => rfl
  | append_singleton messages message before =>
    have step : (Stream.after format (messages ++ [message])).destination =
        (Stream.after format messages).destination ++ (handleMessage format message).calls := by
      rw [Stream.after, List.foldl_append]
      rfl
    rw [step, before, calls_handleMessage, List.filterMap_append, List.filter_append]
    congr 1
    cases given : meant format message with
    | none => simp [given]
    | some call => by_cases found : CallRecognised call <;> simp [given, found]

/-- The destination is handed what the messages mean, in their order and nothing else, exactly when no valid message
repeats the prefix of its kind in its path. -/
theorem stream_handled_iff :
    (Stream.after format messages).destination = messages.filterMap (meant format) ↔
      ∀ message ∈ messages, Recognised format message := by
  rw [destination_after, List.filter_eq_self]
  constructor
  · intro all message among call given
    exact of_decide_eq_true (all call (List.mem_filterMap.2 ⟨message, among, given⟩))
  · intro all call among
    obtain ⟨message, member, given⟩ := List.mem_filterMap.1 among
    exact decide_eq_true (all message member call given)

end

def repeatedPrefix : Message Json :=
  ⟨"delete", .object [("version", .int 2), ("path", .string "/flags/a/flags/b")]⟩

theorem stream_missed :
    (Stream.after .plain [repeatedPrefix]).destination = [] ∧
      (Stream.after .plain [repeatedPrefix]).reports = [.error .invalidData kErrorDeleteInvalid] ∧
      [repeatedPrefix].filterMap (meant .plain) = [.upsert (.flag "a/flags/b" (.tombstone 2))] := by
  decide

end FlagSdk.Server.DataSourceEventHandler
