import Mathlib.Data.List.TakeWhile
import Mathlib.Data.String.Basic

/-! The reader of event streams. It cuts what it is fed into lines, with a flag for a carriage return that may
be followed by a line feed, and interprets the lines that are complete after each buffer. -/

namespace FlagSdk.Sse

structure Event where
  type : String
  data : String
  id : Option String
  deriving DecidableEq, Repr

namespace Detail

structure Event where
  type : String := "message"
  data : String := ""
  id : Option String := none
  deriving DecidableEq, Repr

namespace Event

def appendData (event : Event) (input : String) : Event := { event with data := event.data ++ input ++ "\n" }

def trimTrailingNewline (event : Event) : Event :=
  if event.data.toList.getLast? = some '\n' then { event with data := String.ofList event.data.toList.dropLast }
  else event

end Event

/-- The name and the value of a field. The name of a comment is "comment". -/
def parseField (field : String) : String × String :=
  match field.toList.findIdx? (· = ':') with
  | some 0 => ("comment", String.ofList (field.toList.drop 1))
  | none => (field, "")
  | some index =>
    let value := field.toList.drop (index + 1)
    (String.ofList (field.toList.take index),
      String.ofList (if value.head? = some ' ' then value.drop 1 else value))

/-- The body with what its receiver got, and the event that is being read. -/
structure Interpreter where
  lastEventId : Option String := none
  received : List Sse.Event := []
  event : Option Event := none
  deriving DecidableEq, Repr

namespace Interpreter

variable (interpreter : Interpreter)

/-- Sets a field of the event, which begins with its first field. -/
def setField (name value : String) : Interpreter :=
  let event := interpreter.event.getD { id := interpreter.lastEventId }
  if name = "event" then { interpreter with event := some { event with type := value } }
  else if name = "data" then { interpreter with event := some (event.appendData value) }
  else if name = "id" then
    if '\x00' ∈ value.toList then { interpreter with event := some event }
    else { interpreter with lastEventId := some value, event := some { event with id := some value } }
  else { interpreter with event := some event }

variable (line : String)

def parseLine : Interpreter :=
  let field := parseField line
  if field.1 = "comment" then
    { interpreter with received := interpreter.received ++ [⟨"comment", field.2, none⟩] }
  else interpreter.setField field.1 field.2

/-- The lines up to one that ends an event, which is left to be dispatched. -/
def parseLines (interpreter : Interpreter) : List String → Interpreter × List String × Bool
  | [] => (interpreter, [], false)
  | line :: lines =>
    if line = "" then
      if interpreter.event.isSome then (interpreter, lines, true) else interpreter.parseLines lines
    else (interpreter.parseLine line).parseLines lines

def dispatch : Interpreter :=
  match interpreter.event.map Event.trimTrailingNewline with
  | some event =>
    { interpreter with received := interpreter.received ++ [⟨event.type, event.data, event.id⟩], event := none }
  | none => interpreter

def parseEvents : Nat → Interpreter → List String → Interpreter
  | 0, interpreter, _ => interpreter
  | turns + 1, interpreter, lines =>
    match interpreter.parseLines lines with
    | (interpreter, lines, true) => parseEvents turns interpreter.dispatch lines
    | (interpreter, _, false) => interpreter

/-- One line, with the dispatch that an empty one can cause. -/
def takeLine : Interpreter :=
  if line = "" then interpreter.dispatch else interpreter.parseLine line

theorem parseLines_cons (lines : List String) :
    interpreter.parseLines (line :: lines) =
      if line = "" then
        if interpreter.event.isSome then (interpreter, lines, true) else interpreter.parseLines lines
      else (interpreter.parseLine line).parseLines lines :=
  rfl

theorem dispatch_of_event_eq_none {interpreter : Interpreter} (none : interpreter.event = none) :
    interpreter.dispatch = interpreter := by
  simp [dispatch, none]

theorem parseEvents_eq_foldl (turns : Nat) (interpreter : Interpreter) (lines : List String)
    (enough : lines.length < turns) : parseEvents turns interpreter lines = lines.foldl takeLine interpreter := by
  induction lines generalizing turns interpreter with
  | nil =>
    cases turns with
    | zero => cases enough
    | succ turns => rfl
  | cons line lines ih =>
    cases turns with
    | zero => cases enough
    | succ turns =>
      have fewer : lines.length < turns := Nat.lt_of_succ_lt_succ enough
      rw [List.foldl_cons, takeLine]
      by_cases empty : line = ""
      · rw [if_pos empty]
        cases building : interpreter.event with
        | some event =>
          rw [← ih turns interpreter.dispatch fewer]
          simp [parseEvents, parseLines_cons, empty, building]
        | none =>
          rw [dispatch_of_event_eq_none building, ← ih (turns + 1) interpreter (by omega)]
          simp [parseEvents, parseLines_cons, empty, building]
      · rw [if_neg empty, ← ih (turns + 1) (interpreter.parseLine line) (by omega)]
        simp [parseEvents, parseLines_cons, empty]

end Interpreter

structure Reader where
  bufferedLine : Option String := none
  completeLines : List String := []
  beginCR : Bool := false
  interpreter : Interpreter := {}
  deriving DecidableEq, Repr

namespace Reader

variable (reader : Reader)

def completeLine : Reader :=
  match reader.bufferedLine with
  | some line => { reader with completeLines := reader.completeLines ++ [line], bufferedLine := none }
  | none => reader

def append (text : List Char) : Reader :=
  { reader with bufferedLine := some (reader.bufferedLine.getD "" ++ String.ofList text) }

def endsLine (character : Char) : Bool := character = '\r' || character = '\n'

/-- The loop over a buffer, for a number of turns. The last branch is never taken. -/
def parseStreamLoop : Nat → Reader → List Char → Reader
  | 0, reader, _ => reader
  | _, reader, [] => reader
  | turns + 1, reader, body =>
    let reader := reader.append (body.takeWhile fun character => !endsLine character)
    match body.dropWhile fun character => !endsLine character with
    | [] => reader
    | '\r' :: rest => parseStreamLoop turns { reader.completeLine with beginCR := true } rest
    | '\n' :: rest =>
      if reader.beginCR then parseStreamLoop turns { reader with beginCR := false } rest
      else parseStreamLoop turns reader.completeLine rest
    | rest => parseStreamLoop turns { reader with beginCR := false } rest

def parseStream (body : List Char) : Reader := parseStreamLoop body.length reader body

def parseEvents : Reader :=
  { reader with
    completeLines := []
    interpreter := Interpreter.parseEvents (reader.completeLines.length + 1) reader.interpreter reader.completeLines }

def put (body : List Char) : Reader := (reader.parseStream body).parseEvents

def feed (character : Char) : Reader :=
  if character = '\r' then { (reader.append []).completeLine with beginCR := true }
  else if character = '\n' then
    if reader.beginCR then { reader.append [] with beginCR := false } else (reader.append []).completeLine
  else reader.append [character]

variable (first second : List Char)

theorem append_append : (reader.append first).append second = reader.append (first ++ second) := by
  simp [append, String.append_assoc]

theorem feed_text {character : Char} (plain : endsLine character = false) (reader : Reader) :
    reader.feed character = reader.append [character] := by
  simp only [endsLine, Bool.or_eq_false_iff, decide_eq_false_iff_not] at plain
  rw [feed, if_neg plain.1, if_neg plain.2]

theorem foldl_feed_text {text : List Char} (plain : ∀ character ∈ text, endsLine character = false)
    (nonempty : text ≠ []) (reader : Reader) : text.foldl feed reader = reader.append text := by
  induction text generalizing reader with
  | nil => exact absurd rfl nonempty
  | cons character text ih =>
    obtain ⟨here, rest⟩ := List.forall_mem_cons.1 plain
    rw [List.foldl_cons, feed_text here]
    cases text with
    | nil => rfl
    | cons next text => rw [ih rest (List.cons_ne_nil _ _), append_append, List.singleton_append]

theorem append_foldl_feed {text : List Char} (plain : ∀ character ∈ text, endsLine character = false)
    (reader : Reader) :
    (text.foldl feed reader).append [] = reader.append text ∧ (text.foldl feed reader).beginCR = reader.beginCR := by
  cases text with
  | nil => exact ⟨rfl, rfl⟩
  | cons character text =>
    rw [foldl_feed_text plain (List.cons_ne_nil _ _), append_append, List.append_nil]
    exact ⟨rfl, rfl⟩

theorem parseStreamLoop_eq_foldl (turns : Nat) (reader : Reader) (body : List Char) (enough : body.length ≤ turns) :
    parseStreamLoop turns reader body = body.foldl feed reader := by
  induction turns generalizing reader body with
  | zero =>
    rw [List.eq_nil_of_length_eq_zero (Nat.le_zero.1 enough)]
    rfl
  | succ turns ih =>
    cases body with
    | nil => rfl
    | cons first rest =>
      have plain : ∀ character ∈ (first :: rest).takeWhile (fun character => !endsLine character),
          endsLine character = false := by
        intro character member
        simpa using List.mem_takeWhile_imp member
      have whole : (first :: rest).takeWhile (fun character => !endsLine character) ++
          (first :: rest).dropWhile (fun character => !endsLine character) = first :: rest :=
        List.takeWhile_append_dropWhile
      have ending := List.head?_dropWhile_not (fun character => !endsLine character) (first :: rest)
      simp only [parseStreamLoop]
      generalize (first :: rest).takeWhile (fun character => !endsLine character) = text at plain whole ⊢
      generalize (first :: rest).dropWhile (fun character => !endsLine character) = more at whole ending ⊢
      rw [← whole] at enough ⊢
      rw [List.foldl_append]
      obtain ⟨appended, flag⟩ := append_foldl_feed plain reader
      cases more with
      | nil =>
        have nonempty : text ≠ [] := by
          intro empty
          simp [empty] at whole
        exact (foldl_feed_text plain nonempty reader).symm
      | cons character more =>
        have shorter : more.length ≤ turns := by
          simp only [List.length_append, List.length_cons] at enough
          omega
        have ends : character = '\r' ∨ character = '\n' := or_iff_not_imp_left.2 (by simpa [endsLine] using ending)
        rw [List.foldl_cons, feed, appended, flag]
        cases ends with
        | inl isCR =>
          subst isCR
          exact ih _ more shorter
        | inr isLF =>
          subst isLF
          by_cases flagged : reader.beginCR = true
          · exact (if_pos flagged).trans ((ih _ more shorter).trans (by simp [flagged]))
          · exact (if_neg flagged).trans ((ih _ more shorter).trans (by simp [flagged]))

theorem parseStream_eq_foldl (body : List Char) : reader.parseStream body = body.foldl feed reader :=
  parseStreamLoop_eq_foldl body.length reader body le_rfl

theorem parseEvents_eq :
    reader.parseEvents = { reader with
      completeLines := []
      interpreter := reader.completeLines.foldl Interpreter.takeLine reader.interpreter } := by
  rw [parseEvents, Interpreter.parseEvents_eq_foldl _ _ _ (Nat.lt_succ_self _)]

theorem interpreter_feed (character : Char) : (reader.feed character).interpreter = reader.interpreter := by
  simp only [feed, append, completeLine]
  split_ifs <;> rfl

theorem interpreter_foldl_feed (stream : List Char) : (stream.foldl feed reader).interpreter = reader.interpreter := by
  induction stream generalizing reader with
  | nil => rfl
  | cons character stream ih => rw [List.foldl_cons, ih, interpreter_feed]

theorem parseEvents_feed (character : Char) :
    (reader.parseEvents.feed character).parseEvents = (reader.feed character).parseEvents := by
  obtain ⟨bufferedLine, completeLines, beginCR, interpreter⟩ := reader
  simp only [parseEvents_eq, feed, append, completeLine]
  split_ifs <;> simp

theorem parseEvents_foldl_feed (body : List Char) :
    (body.foldl feed reader.parseEvents).parseEvents = (body.foldl feed reader).parseEvents := by
  induction body generalizing reader with
  | nil => simp [parseEvents_eq]
  | cons character body ih =>
    rw [List.foldl_cons, List.foldl_cons, ← ih, parseEvents_feed, ih]

theorem put_append : reader.put (first ++ second) = (reader.put first).put second := by
  rw [put, put, put, parseStream_eq_foldl, parseStream_eq_foldl, parseStream_eq_foldl, List.foldl_append,
    parseEvents_foldl_feed]

theorem foldl_put (buffers : List (List Char)) :
    buffers.foldl put (reader.put first) = reader.put (first ++ buffers.flatten) := by
  induction buffers generalizing first with
  | nil => rw [List.flatten_nil, List.append_nil, List.foldl_nil]
  | cons buffer buffers ih =>
    rw [List.foldl_cons, ← put_append, ih, List.flatten_cons, List.append_assoc]

/-- However a stream is cut into buffers, a new reader ends in the same state, with the same events received
and the same last event id. -/
theorem foldl_put_flatten (buffers : List (List Char)) : buffers.foldl put {} = Reader.put {} buffers.flatten := by
  have nothing : Reader.put {} [] = {} := by decide
  have cut := foldl_put {} [] buffers
  rwa [nothing, List.nil_append] at cut

end Reader

end Detail

end FlagSdk.Sse
