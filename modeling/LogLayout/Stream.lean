import LogLayout.Event.Json
import LogLayout.Layout
import LogLayout.Text.Blank
import LogLayout.Text.Utf8

namespace LogLayout.Stream

/-- A line of bytes. -/
structure Line where
  /-- The bytes of the line, without the line feed. -/
  bytes : List UInt8
  /-- Whether a line feed ends the line; only the last line can be without one. -/
  ended : Bool
  deriving DecidableEq, Repr

/-- The byte that ends a line. -/
def lineFeed : UInt8 := 0x0A

/-- The lines of an input. Nothing after the last line feed is no line. -/
def lines : List UInt8 → List Line
  | [] => []
  | b :: rest =>
    if b = lineFeed then ⟨[], true⟩ :: lines rest
    else
      match lines rest with
      | [] => [⟨[b], false⟩]
      | line :: later => { line with bytes := b :: line.bytes } :: later

/-- Text without one carriage return at its end. -/
def dropReturn (s : String) : String :=
  if s.toList.getLast? = some '\r' then String.ofList s.toList.dropLast else s

/-- The text of a line, without the carriage return before its line feed. The line feed is taken off
before the bytes are read, so a character that it cuts off is incomplete, not invalid. -/
def Line.text (line : Line) : Except Utf8.Fault String :=
  (Utf8.decode line.bytes).map fun s => if line.ended then dropReturn s else s

/-- What a line of text holds. -/
inductive Content where
  | blank
  | event (e : Event)
  | notAnEvent

/-- Looks into a line of text. -/
def Content.ofText (s : String) : Content :=
  if Text.isBlankText s then .blank
  else
    match Event.ofText? s with
    | some e => .event e
    | none => .notAnEvent

/-- How many lines were rendered, and how many were left out. -/
structure Summary where
  rendered : Nat := 0
  skipped : Nat := 0
  deriving DecidableEq, Repr

/-- Why a stream was not worked through. -/
inductive Failure where
  /-- A line is not text. -/
  | invalidText (fault : Utf8.Fault)
  /-- The output takes no more bytes. -/
  | outputFull
  deriving DecidableEq, Repr

/-- The failure in words. -/
def Failure.message : Failure → String
  | .invalidText fault => fault.message
  | .outputFull => "write zero"

/-- What came of a stream. -/
structure Outcome where
  /-- The bytes that were written. -/
  output : List UInt8
  result : Except Failure Summary
  records : List LogRecord

namespace Outcome

/-- The outcome when some bytes are written before. -/
def afterOutput (bytes : List UInt8) (o : Outcome) : Outcome :=
  { o with output := bytes ++ o.output }

/-- The outcome when something is reported before. -/
def afterRecords (records : List LogRecord) (o : Outcome) : Outcome :=
  { o with records := records ++ o.records }

/-- The outcome when a line is rendered before. -/
def countRendered (o : Outcome) : Outcome :=
  { o with result := o.result.map fun s => { s with rendered := s.rendered + 1 } }

/-- The outcome when a line is left out before. -/
def countSkipped (o : Outcome) : Outcome :=
  { o with result := o.result.map fun s => { s with skipped := s.skipped + 1 } }

end Outcome

/-- The line that a layout writes for an event. It starts with the layout's identifier when
there are others to tell it from, and it ends with a line feed of its own or with one added. -/
def renderLine (labelled : Bool) (l : Layout) (e : Event) : String × LogRecord :=
  let label := if labelled then l.id ++ ": " else ""
  let (text, record) := l.appendTo e label
  (if text.toList.getLast? = some '\n' then text else text.push '\n', record)

/-- Writes bytes where `room` more fit; without a bound all do. Gives what was written, and the
room that is left unless something was cut off. -/
def write (room : Option Nat) (bytes : List UInt8) : List UInt8 × Option (Option Nat) :=
  match room with
  | none => (bytes, some none)
  | some n =>
    if bytes.length ≤ n then (bytes, some (some (n - bytes.length))) else (bytes.take n, none)

/-- Writes the lines of layouts for one event, then goes on with the room that is left. -/
def renderEvent (labelled : Bool) (e : Event) (room : Option Nat)
    (next : Option Nat → Outcome) : List Layout → Outcome
  | [] => next room
  | l :: rest =>
    let (text, record) := renderLine labelled l e
    let (written, left) := write room (Utf8.encode text)
    match left with
    | none => ⟨written, .error .outputFull, [record]⟩
    | some room =>
      ((renderEvent labelled e room next rest).afterOutput written).afterRecords [record]

/-- Works through lines, the first of them with a number. Lines that are not events are reported and
left out; one that is not text ends the work, and so does an output that is full. -/
def renderLines (layouts : List Layout) (number : Nat) (room : Option Nat) : List Line → Outcome
  | [] => ⟨[], .ok {}, []⟩
  | line :: rest =>
    match line.text with
    | .error fault => ⟨[], .error (.invalidText fault), []⟩
    | .ok s =>
      match Content.ofText s with
      | .blank => renderLines layouts (number + 1) room rest
      | .notAnEvent =>
        ((renderLines layouts (number + 1) room rest).countSkipped).afterRecords
          [{ diagnostic := .eventDecodeFailed number "the line is not an event in JSON" }]
      | .event e =>
        renderEvent (1 < layouts.length) e room
          (fun room => (renderLines layouts (number + 1) room rest).countRendered) layouts

/-- Renders a stream of events with layouts into an output that takes `capacity` bytes, or any
number without a bound. -/
def render (layouts : List Layout) (capacity : Option Nat) (input : List UInt8) : Outcome :=
  renderLines layouts 1 capacity (lines input)

end LogLayout.Stream
