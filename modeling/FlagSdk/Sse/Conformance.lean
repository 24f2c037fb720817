import FlagSdk.Sse.Parser

/-! The interpretation of event streams that the reader is meant to give, and where the reader departs from it. A
line feed that comes after a carriage return is lost even if there is text between them, and a field whose name
is "comment" is taken for a comment. -/

namespace FlagSdk.Sse.Detail

variable {stream : List Char} {character : Char}

namespace Reference

/-- The lines of a stream, each of which ends with a carriage return, a line feed or the two of them. What is
left without an end is not a line. -/
def lines : (line : List Char) → (stream : List Char) → List String
  | _, [] => []
  | line, '\r' :: '\n' :: stream => String.ofList line :: lines [] stream
  | line, '\r' :: stream => String.ofList line :: lines [] stream
  | line, '\n' :: stream => String.ofList line :: lines [] stream
  | line, character :: stream => lines (line ++ [character]) stream

/-- The line feed that belongs to a carriage return before it. -/
def skipFeed : List Char → List Char
  | '\n' :: stream => stream
  | stream => stream

theorem skipFeed_of_ne (other : character ≠ '\n') : skipFeed (character :: stream) = character :: stream := by
  rw [skipFeed]
  exact fun _ same => other (List.cons.inj same).1

theorem lines_cr (line stream : List Char) :
    lines line ('\r' :: stream) = String.ofList line :: lines [] (skipFeed stream) := by
  cases stream with
  | nil => rfl
  | cons character stream =>
    by_cases isLF : character = '\n'
    · subst isLF
      rfl
    · rw [skipFeed_of_ne isLF, lines]
      exact fun _ same => isLF (List.cons.inj same).1

theorem lines_lf (line stream : List Char) : lines line ('\n' :: stream) = String.ofList line :: lines [] stream := rfl

theorem lines_text (plain : Reader.endsLine character = false) (line stream : List Char) :
    lines line (character :: stream) = lines (line ++ [character]) stream := by
  simp only [Reader.endsLine, Bool.or_eq_false_iff, decide_eq_false_iff_not] at plain
  rw [lines]
  · exact fun _ same _ => plain.1 same
  · exact plain.1
  · exact plain.2

theorem length_lines (line other stream : List Char) : (lines line stream).length = (lines other stream).length := by
  induction stream generalizing line other with
  | nil => rfl
  | cons character stream ih =>
    by_cases isCR : character = '\r'
    · rw [isCR, lines_cr, lines_cr, List.length_cons, List.length_cons]
    · by_cases isLF : character = '\n'
      · rw [isLF, lines_lf, lines_lf, List.length_cons, List.length_cons]
      · have plain : Reader.endsLine character = false := by simp [Reader.endsLine, isCR, isLF]
        rw [lines_text plain, lines_text plain]
        exact ih _ _

def fieldName (line : List Char) : String := String.ofList (line.takeWhile (· ≠ ':'))

/-- What follows the first colon, without one leading space. -/
def fieldValue (line : List Char) : String :=
  match line.dropWhile (· ≠ ':') with
  | _ :: ' ' :: value => String.ofList value
  | _ :: value => String.ofList value
  | [] => ""

/-- The fields of an event that is not dispatched yet, and what was received before. -/
structure State where
  type : String := "message"
  data : List String := []
  seen : Bool := false
  lastEventId : Option String := none
  received : List Sse.Event := []
  deriving DecidableEq, Repr

variable (state : State)

def setField (name value : String) : State :=
  let state := { state with seen := true }
  if name = "event" then { state with type := value }
  else if name = "data" then { state with data := state.data ++ [value] }
  else if name = "id" ∧ '\x00' ∉ value.toList then { state with lastEventId := some value }
  else state

def interpret (line : String) : State :=
  match line.toList with
  | [] =>
    if state.seen then
      { lastEventId := state.lastEventId
        received := state.received ++ [⟨state.type, "\n".intercalate state.data, state.lastEventId⟩] }
    else state
  | ':' :: comment => { state with received := state.received ++ [⟨"comment", String.ofList comment, none⟩] }
  | characters => setField state (fieldName characters) (fieldValue characters)

theorem interpret_empty : interpret state "" = if state.seen then
      { lastEventId := state.lastEventId
        received := state.received ++ [⟨state.type, "\n".intercalate state.data, state.lastEventId⟩] }
    else state :=
  rfl

def events (stream : List Char) : List Sse.Event := ((lines [] stream).foldl interpret {}).received

end Reference

/-- Where a character is after the last carriage return since the last line feed, if there is one. -/
inductive Position where
  | clear
  | directlyAfter
  | furtherAfter
  deriving DecidableEq, Repr

/-- The number of line feeds that come after a carriage return with text between them. -/
def lostFeeds : Position → List Char → Nat
  | _, [] => 0
  | position, character :: stream =>
    if character = '\r' then lostFeeds .directlyAfter stream
    else if character = '\n' then
      (if position = .furtherAfter then 1 else 0) + lostFeeds .clear stream
    else lostFeeds (if position = .clear then .clear else .furtherAfter) stream

namespace Reader

theorem completeLine_append (reader : Reader) :
    (reader.append []).completeLine = { reader with
      completeLines := reader.completeLines ++ [reader.bufferedLine.getD ""]
      bufferedLine := none } := by
  simp [append, completeLine]

theorem feed_cr (reader : Reader) : reader.feed '\r' = { reader with
    completeLines := reader.completeLines ++ [reader.bufferedLine.getD ""]
    bufferedLine := none
    beginCR := true } := by
  rw [feed, if_pos rfl, completeLine_append]

variable {reader : Reader} {lost : Nat} {line : List Char}

theorem feed_lf_of_unset (unset : ¬reader.beginCR = true) : reader.feed '\n' = { reader with
    completeLines := reader.completeLines ++ [reader.bufferedLine.getD ""]
    bufferedLine := none } := by
  rw [feed, if_neg (by decide), if_pos rfl, if_neg unset, completeLine_append]

theorem feed_lf_of_set (set : reader.beginCR = true) : reader.feed '\n' = { reader with
    bufferedLine := some (reader.bufferedLine.getD "")
    beginCR := false } := by
  rw [feed, if_neg (by decide), if_pos rfl, if_pos set]
  simp [append]

/-- The lines that a stream completes, of which some may be missing. -/
structure Splits (reader : Reader) (stream : List Char) (lost : Nat) (expected : List String) : Prop where
  length : (stream.foldl feed reader).completeLines.length + lost = reader.completeLines.length + expected.length
  lines : lost = 0 → (stream.foldl feed reader).completeLines = reader.completeLines ++ expected

theorem Splits.cons
    {added expected : List String} (complete : (reader.feed character).completeLines = reader.completeLines ++ added)
    (splits : Splits (reader.feed character) stream lost expected) :
    Splits reader (character :: stream) lost (added ++ expected) where
  length := by
    rw [List.foldl_cons, splits.length, complete, List.length_append, List.length_append, Nat.add_assoc]
  lines none := by
    rw [List.foldl_cons, splits.lines none, complete, List.append_assoc]

/-- The reader does not complete a line at a line feed that it takes for the end of a carriage return. -/
theorem Splits.lose (set : reader.beginCR = true)
    (splits : Splits (reader.feed '\n') stream lost (Reference.lines line stream)) :
    Splits reader ('\n' :: stream) (1 + lost) (Reference.lines line ('\n' :: stream)) := by
  have unchanged : (reader.feed '\n').completeLines = reader.completeLines := by rw [feed_lf_of_set set]
  have length := splits.length
  rw [unchanged, Reference.length_lines line []] at length
  constructor
  · rw [List.foldl_cons, Reference.lines_lf, List.length_cons]
    omega
  · intro none
    omega

theorem splits (stream : List Char) (position : Position)
    (flag : reader.beginCR = true ↔ position ≠ .clear) (buffer : reader.bufferedLine.getD "" = String.ofList line)
    (start : position = .directlyAfter → line = []) :
    Splits reader stream (lostFeeds position stream)
      (Reference.lines line (if position = .directlyAfter then Reference.skipFeed stream else stream)) := by
  induction stream generalizing position reader line with
  | nil =>
    have none : Reference.lines line (if position = .directlyAfter then Reference.skipFeed [] else []) = [] := by
      split <;> rfl
    rw [none]
    exact ⟨rfl, fun _ => (List.append_nil _).symm⟩
  | cons character stream ih =>
    by_cases isCR : character = '\r'
    · subst isCR
      rw [Reference.skipFeed_of_ne (by decide), ite_self, Reference.lines_cr, ← buffer]
      refine .cons (congrArg completeLines reader.feed_cr) ?_
      rw [feed_cr]
      exact ih .directlyAfter (by simp) rfl fun _ => rfl
    · by_cases isLF : character = '\n'
      · subst isLF
        cases position with
        | clear =>
          have unset : ¬reader.beginCR = true := fun set => flag.1 set rfl
          have next : Splits (reader.feed '\n') stream (lostFeeds .clear stream) (Reference.lines [] stream) := by
            rw [feed_lf_of_unset unset]
            exact ih .clear flag rfl fun _ => rfl
          have split := next.cons (congrArg completeLines (feed_lf_of_unset unset))
          rw [buffer] at split
          simpa [lostFeeds, Reference.lines_lf] using split
        | directlyAfter =>
          have set := flag.2 (by decide)
          rw [start rfl] at buffer ⊢
          have next : Splits (reader.feed '\n') stream (lostFeeds .clear stream) (Reference.lines [] stream) := by
            rw [feed_lf_of_set set]
            exact ih .clear (by simp) buffer fun _ => rfl
          have split := next.cons ((congrArg completeLines (feed_lf_of_set set)).trans (List.append_nil _).symm)
          simpa [lostFeeds, Reference.skipFeed] using split
        | furtherAfter =>
          have set := flag.2 (by decide)
          have next : Splits (reader.feed '\n') stream (lostFeeds .clear stream) (Reference.lines line stream) := by
            rw [feed_lf_of_set set]
            exact ih .clear (by simp) buffer fun same => absurd same (by decide)
          exact next.lose set
      · have plain : endsLine character = false := by simp [endsLine, isCR, isLF]
        have later : (if position = .clear then Position.clear else .furtherAfter) ≠ .directlyAfter := by
          split <;> decide
        have next : Splits (reader.feed character) stream
            (lostFeeds (if position = .clear then .clear else .furtherAfter) stream)
            (Reference.lines (line ++ [character]) stream) := by
          have appended : (reader.append [character]).bufferedLine.getD "" = String.ofList (line ++ [character]) := by
            simp [append, buffer]
          have flagged : (reader.append [character]).beginCR = true ↔
              (if position = .clear then Position.clear else .furtherAfter) ≠ .clear := by
            rw [append, flag]
            split <;> simp_all
          have split := ih _ flagged appended (fun same => absurd same later)
          rwa [if_neg later, ← feed_text plain] at split
        have split := next.cons ((congrArg completeLines (feed_text plain reader)).trans (List.append_nil _).symm)
        rw [Reference.skipFeed_of_ne isLF, ite_self, Reference.lines_text plain]
        simpa [lostFeeds, isCR, isLF] using split

end Reader

theorem parseField_comment {line : String} {comment : List Char} (characters : line.toList = ':' :: comment) :
    parseField line = ("comment", String.ofList comment) := by
  simp [parseField, characters, List.findIdx?_cons]

theorem parseField_field {line : String} {first : Char} {rest : List Char} (characters : line.toList = first :: rest)
    (other : first ≠ ':') :
    parseField line = (Reference.fieldName line.toList, Reference.fieldValue line.toList) := by
  have taken : line.toList.takeWhile (· ≠ ':') = line.toList.take (line.toList.findIdx (· = ':')) := by
    simpa using List.takeWhile_eq_take_findIdx_not (p := fun character => decide (character ≠ ':'))
  have dropped : line.toList.dropWhile (· ≠ ':') = line.toList.drop (line.toList.findIdx (· = ':')) := by
    simpa using List.dropWhile_eq_drop_findIdx_not (p := fun character => decide (character ≠ ':'))
  rw [Reference.fieldName, Reference.fieldValue, taken, dropped, parseField]
  cases found : line.toList.findIdx? (· = ':') with
  | none =>
    have absent : line.toList.findIdx (· = ':') = line.toList.length := by
      rw [List.findIdx_eq_length]
      exact List.findIdx?_eq_none_iff.1 found
    rw [absent, List.take_length, List.drop_length, String.ofList_toList]
  | some index =>
    obtain ⟨below, same⟩ := List.findIdx?_eq_some_iff_findIdx_eq.1 found
    rw [same, List.drop_eq_getElem_cons below]
    cases index with
    | zero => simp [characters, List.findIdx_cons, other] at same
    | succ index =>
      change (_, String.ofList (if (line.toList.drop (index + 1 + 1)).head? = some ' '
        then (line.toList.drop (index + 1 + 1)).drop 1 else line.toList.drop (index + 1 + 1))) = _
      cases line.toList.drop (index + 1 + 1) with
      | nil => rfl
      | cons next value =>
        by_cases space : next = ' '
        · subst space
          rfl
        · rw [List.head?_cons, if_neg (by simpa using space)]
          simp [space]

def terminated (data : List String) : String := String.join (data.map (· ++ "\n"))

theorem terminated_append (data : List String) (value : String) :
    terminated (data ++ [value]) = terminated data ++ value ++ "\n" := by
  simp [terminated, String.join, String.append_assoc]

theorem terminated_eq {data : List String} (nonempty : data ≠ []) :
    terminated data = "\n".intercalate data ++ "\n" := by
  induction data with
  | nil => exact absurd rfl nonempty
  | cons first rest ih =>
    cases rest with
    | nil => simp [terminated, String.join]
    | cons second rest =>
      have later := ih (List.cons_ne_nil _ _)
      rw [terminated] at later ⊢
      rw [List.map_cons, String.join_cons, later, String.intercalate_cons_cons, String.append_assoc,
        String.append_assoc, String.append_assoc]

theorem trimTrailingNewline_terminated (type : String) (data : List String) (id : Option String) :
    (Event.mk type (terminated data) id).trimTrailingNewline = ⟨type, "\n".intercalate data, id⟩ := by
  by_cases empty : data = []
  · subst empty
    rfl
  · have characters : (terminated data).toList = ("\n".intercalate data).toList ++ ['\n'] := by
      rw [terminated_eq empty, String.toList_append]
      rfl
    rw [Event.trimTrailingNewline]
    rw [characters, if_pos List.getLast?_concat, List.dropLast_concat, String.ofList_toList]

/-- What a line is, and what the reader and the reference do with it. -/
inductive LineKind (line : String) : Prop
  | empty (isEmpty : line = "") (unnamed : Reference.fieldName line.toList ≠ "comment")
  | comment (text : String) (unnamed : Reference.fieldName line.toList ≠ "comment")
    (taken : ∀ interpreter : Interpreter, interpreter.takeLine line =
      { interpreter with received := interpreter.received ++ [⟨"comment", text, none⟩] })
    (interpreted : ∀ state, Reference.interpret state line =
      { state with received := state.received ++ [⟨"comment", text, none⟩] })
  | field (value : String)
    (taken : ∀ interpreter : Interpreter, interpreter.takeLine line =
      if Reference.fieldName line.toList = "comment" then
        { interpreter with received := interpreter.received ++ [⟨"comment", value, none⟩] }
      else interpreter.setField (Reference.fieldName line.toList) value)
    (interpreted : ∀ state, Reference.interpret state line =
      Reference.setField state (Reference.fieldName line.toList) value)

theorem lineKind (line : String) : LineKind line := by
  cases characters : line.toList with
  | nil =>
    have isEmpty := String.toList_eq_nil_iff.1 characters
    exact .empty isEmpty (by simp [isEmpty, Reference.fieldName])
  | cons first rest =>
    have nonempty : line ≠ "" := by
      intro empty
      simp [empty] at characters
    by_cases colon : first = ':'
    · subst colon
      refine .comment (String.ofList rest) (by simp [characters, Reference.fieldName]) (fun interpreter => ?_)
        fun state => ?_
      · rw [Interpreter.takeLine, if_neg nonempty, Interpreter.parseLine, parseField_comment characters]
        rfl
      · rw [Reference.interpret, characters]
        rfl
    · refine .field (Reference.fieldValue line.toList) (fun interpreter => ?_) fun state => ?_
      · rw [Interpreter.takeLine, if_neg nonempty, Interpreter.parseLine, parseField_field characters colon]
      · rw [Reference.interpret, characters]
        split
        next same => cases same
        next same => exact absurd (List.cons.inj same).1 colon
        next => rfl

/-- The reader builds the event of the reference, once it has one. -/
structure Tracks (interpreter : Interpreter) (state : Reference.State) : Prop where
  lastEventId : state.lastEventId = interpreter.lastEventId
  building : interpreter.event.getD { id := interpreter.lastEventId } =
    ⟨state.type, terminated state.data, state.lastEventId⟩
  seen : interpreter.event.isSome = true → state.seen = true

namespace Tracks

variable {interpreter : Interpreter} {state : Reference.State}

theorem setField (tracks : Tracks interpreter state) (name value : String) :
    Tracks (interpreter.setField name value) (Reference.setField state name value) ∧
      (interpreter.setField name value).event.isSome = true ∧
      (interpreter.setField name value).received = interpreter.received ∧
      (Reference.setField state name value).received = state.received := by
  obtain ⟨lastEventId, building, _⟩ := tracks
  unfold Interpreter.setField Reference.setField
  simp only [building]
  by_cases isEvent : name = "event"
  · rw [if_pos isEvent, if_pos isEvent]
    exact ⟨⟨lastEventId, rfl, fun _ => rfl⟩, rfl, rfl, rfl⟩
  · rw [if_neg isEvent, if_neg isEvent]
    by_cases isData : name = "data"
    · rw [if_pos isData, if_pos isData]
      exact ⟨⟨lastEventId, by simp [Event.appendData, terminated_append], fun _ => rfl⟩, rfl, rfl, rfl⟩
    · rw [if_neg isData, if_neg isData]
      by_cases isId : name = "id"
      · rw [if_pos isId]
        by_cases null : '\x00' ∈ value.toList
        · rw [if_pos null, if_neg fun both => both.2 null]
          exact ⟨⟨lastEventId, rfl, fun _ => rfl⟩, rfl, rfl, rfl⟩
        · rw [if_neg null, if_pos ⟨isId, null⟩]
          exact ⟨⟨rfl, rfl, fun _ => rfl⟩, rfl, rfl, rfl⟩
      · rw [if_neg isId, if_neg fun both => isId both.1]
        exact ⟨⟨lastEventId, rfl, fun _ => rfl⟩, rfl, rfl, rfl⟩

theorem of_event_eq_none {interpreter : Interpreter} (none : interpreter.event = none) (received : List Sse.Event) :
    Tracks interpreter { lastEventId := interpreter.lastEventId, received := received } := by
  refine ⟨rfl, ?_, ?_⟩
  · rw [none]
    rfl
  · rw [none]
    exact fun isSome => Bool.noConfusion isSome

theorem dispatch {event : Event} (tracks : Tracks interpreter state) (building : interpreter.event = some event) :
    interpreter.dispatch = { interpreter with
      received := interpreter.received ++ [⟨state.type, "\n".intercalate state.data, state.lastEventId⟩]
      event := none } := by
  have same := tracks.building
  rw [building, Option.getD_some] at same
  rw [Interpreter.dispatch, building, same, Option.map_some, trimTrailingNewline_terminated]

end Tracks

def commentCount (events : List Sse.Event) : Nat := events.countP (·.type = "comment")

theorem commentCount_append (events : List Sse.Event) (event : Sse.Event) :
    commentCount (events ++ [event]) = commentCount events + if event.type = "comment" then 1 else 0 := by
  simp [commentCount, List.countP_append, List.countP_singleton]

/-- The reader has received the comments of the reference and some more. -/
structure Counts (interpreter : Interpreter) (state : Reference.State) (more : Nat) : Prop where
  tracks : Tracks interpreter state
  count : commentCount interpreter.received = commentCount state.received + more

structure Follows (interpreter : Interpreter) (state : Reference.State) : Prop where
  tracks : Tracks interpreter state
  seen : state.seen = true → interpreter.event.isSome = true
  received : interpreter.received = state.received

section

variable {interpreter : Interpreter} {state : Reference.State} {line : String}

theorem Follows.takeLine (follows : Follows interpreter state)
    (unnamed : Reference.fieldName line.toList ≠ "comment") :
    Follows (interpreter.takeLine line) (Reference.interpret state line) := by
  cases lineKind line with
  | empty isEmpty _ =>
    subst isEmpty
    change Follows interpreter.dispatch (Reference.interpret state "")
    cases building : interpreter.event with
    | none =>
      have unseen : ¬state.seen = true := by
        intro seen
        simpa [building] using follows.seen seen
      rw [Interpreter.dispatch_of_event_eq_none building, Reference.interpret_empty, if_neg unseen]
      exact follows
    | some event =>
      have seen := follows.tracks.seen (by rw [building]; rfl)
      rw [follows.tracks.dispatch building, Reference.interpret_empty, if_pos seen, follows.received,
        follows.tracks.lastEventId]
      exact ⟨.of_event_eq_none rfl _, fun unseen => Bool.noConfusion unseen, rfl⟩
  | comment text _ taken interpreted =>
    rw [taken, interpreted, follows.received]
    exact ⟨⟨follows.tracks.lastEventId, follows.tracks.building, follows.tracks.seen⟩, follows.seen, rfl⟩
  | field value taken interpreted =>
    rw [taken, interpreted, if_neg unnamed]
    obtain ⟨tracks, isSome, received, stateReceived⟩ := follows.tracks.setField _ value
    exact ⟨tracks, fun _ => isSome, received.trans (follows.received.trans stateReceived.symm)⟩

variable {more : Nat}

theorem Counts.takeLine (counts : Counts interpreter state more) (line : String) :
    Counts (interpreter.takeLine line) (Reference.interpret state line)
      (more + if Reference.fieldName line.toList = "comment" then 1 else 0) := by
  cases lineKind line with
  | empty isEmpty unnamed =>
    subst isEmpty
    change Counts interpreter.dispatch (Reference.interpret state "") more
    cases building : interpreter.event with
    | none =>
      have default := counts.tracks.building
      rw [building, Option.getD_none, Event.mk.injEq] at default
      rw [Interpreter.dispatch_of_event_eq_none building, Reference.interpret_empty]
      split
      · rw [counts.tracks.lastEventId]
        refine ⟨.of_event_eq_none building _, ?_⟩
        rw [counts.count, commentCount_append, ← default.1]
        rfl
      · exact counts
    | some event =>
      have seen := counts.tracks.seen (by rw [building]; rfl)
      rw [counts.tracks.dispatch building, Reference.interpret_empty, if_pos seen, counts.tracks.lastEventId]
      refine ⟨.of_event_eq_none rfl _, ?_⟩
      rw [commentCount_append, commentCount_append, counts.count, Nat.add_right_comm]
  | comment text unnamed taken interpreted =>
    rw [if_neg unnamed, Nat.add_zero, taken, interpreted]
    refine ⟨⟨counts.tracks.lastEventId, counts.tracks.building, counts.tracks.seen⟩, ?_⟩
    rw [commentCount_append, commentCount_append, counts.count, Nat.add_right_comm]
  | field value taken interpreted =>
    obtain ⟨tracks, isSome, received, stateReceived⟩ :=
      counts.tracks.setField (Reference.fieldName line.toList) value
    rw [taken, interpreted]
    by_cases named : Reference.fieldName line.toList = "comment"
    · rw [if_pos named, if_pos named]
      refine ⟨?_, ?_⟩
      · have ignored : Reference.setField state "comment" value = { state with seen := true } := by
          simp [Reference.setField]
        rw [named, ignored]
        exact ⟨counts.tracks.lastEventId, counts.tracks.building, fun _ => rfl⟩
      · rw [commentCount_append, counts.count, stateReceived]
        rfl
    · rw [if_neg named, if_neg named, Nat.add_zero]
      exact ⟨tracks, by rw [received, stateReceived, counts.count]⟩

theorem Follows.foldl {lines : List String} (follows : Follows interpreter state)
    (unnamed : ∀ line ∈ lines, Reference.fieldName line.toList ≠ "comment") :
    Follows (lines.foldl Interpreter.takeLine interpreter) (lines.foldl Reference.interpret state) := by
  induction lines generalizing interpreter state with
  | nil => exact follows
  | cons line lines ih =>
    obtain ⟨here, rest⟩ := List.forall_mem_cons.1 unnamed
    exact ih (follows.takeLine here) rest

theorem Counts.foldl (counts : Counts interpreter state more) (lines : List String) :
    Counts (lines.foldl Interpreter.takeLine interpreter) (lines.foldl Reference.interpret state)
      (more + lines.countP fun line => Reference.fieldName line.toList = "comment") := by
  induction lines generalizing interpreter state more with
  | nil => exact counts
  | cons line lines ih =>
    have total : more + (line :: lines).countP (fun line => Reference.fieldName line.toList = "comment") =
        (more + if Reference.fieldName line.toList = "comment" then 1 else 0) +
          lines.countP fun line => Reference.fieldName line.toList = "comment" := by
      simp only [List.countP_cons, decide_eq_true_eq]
      omega
    rw [total]
    exact ih (counts.takeLine line)

end

theorem received_foldl_iff (lines : List String) :
    (lines.foldl Interpreter.takeLine {}).received = (lines.foldl Reference.interpret {}).received ↔
      ∀ line ∈ lines, Reference.fieldName line.toList ≠ "comment" := by
  have start : Tracks {} {} := .of_event_eq_none rfl []
  constructor
  · intro same
    have counts := (Counts.mk start rfl : Counts {} {} 0).foldl lines
    have count := counts.count
    rw [same, Nat.zero_add, Nat.left_eq_add, List.countP_eq_zero] at count
    intro line member
    simpa using count line member
  · intro unnamed
    exact (Follows.mk start (fun seen => Bool.noConfusion seen) rfl : Follows {} {}).foldl unnamed |>.received

namespace Reader

theorem received_put (stream : List Char) : (put {} stream).interpreter.received =
    ((parseStream {} stream).completeLines.foldl Interpreter.takeLine {}).received := by
  rw [put, parseEvents_eq, parseStream_eq_foldl]
  rw [interpreter_foldl_feed]

theorem completeLines_parseStream_iff (stream : List Char) :
    (parseStream {} stream).completeLines = Reference.lines [] stream ↔ lostFeeds .clear stream = 0 := by
  have split : Splits {} stream (lostFeeds .clear stream) (Reference.lines [] stream) :=
    splits stream .clear (by simp) rfl fun _ => rfl
  rw [parseStream_eq_foldl]
  constructor
  · intro same
    have length := split.length
    rw [same, List.length_nil, Nat.zero_add, Nat.add_eq_left] at length
    exact length
  · intro none
    exact (split.lines none).trans (List.nil_append _)

end Reader

/-- The reader gets the lines and the events of the reference out of a stream. -/
structure Conforms (stream : List Char) : Prop where
  lines : (Reader.parseStream {} stream).completeLines = Reference.lines [] stream
  events : (Reader.put {} stream).interpreter.received = Reference.events stream

/-- The reader conforms on exactly the streams in which no line feed comes after a carriage return with text
between them, and no field is named "comment". -/
theorem conforms_iff (stream : List Char) :
    Conforms stream ↔ lostFeeds .clear stream = 0 ∧
      ∀ line ∈ Reference.lines [] stream, Reference.fieldName line.toList ≠ "comment" := by
  rw [← Reader.completeLines_parseStream_iff, ← received_foldl_iff]
  constructor
  · intro conforms
    refine ⟨conforms.lines, ?_⟩
    rw [← conforms.lines, ← Reader.received_put, conforms.events, conforms.lines]
    rfl
  · intro same
    refine ⟨same.1, ?_⟩
    rw [Reader.received_put, same.1]
    exact same.2

/-- A line that ends with a carriage return and the next one with a line feed, and a field that is named
"comment". -/
theorem departures :
    (Reader.put {} "data: a\rdata: b\n\n".toList).interpreter.received ≠ Reference.events "data: a\rdata: b\n\n".toList ∧
      (Reader.put {} "comment: a\n\n".toList).interpreter.received ≠ Reference.events "comment: a\n\n".toList := by
  decide

end FlagSdk.Sse.Detail
