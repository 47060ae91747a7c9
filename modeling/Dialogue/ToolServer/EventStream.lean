import Dialogue.Text.Blank

/-!
# Event streams

A server may answer with a stream of events. An event is a run of lines; a blank line ends it. The
lines that begin with `data:` hold the data of the event, without the blanks before it; other lines
do not count, and an event without data is none. Lines end with a line feed, which a carriage return
may precede.
-/

namespace Dialogue.ToolServer.EventStream

/-- Leaves out each carriage return before a line feed. -/
def unifyEnds : List Char → List Char
  | '\r' :: '\n' :: rest => '\n' :: unifyEnds rest
  | c :: rest => c :: unifyEnds rest
  | [] => []

/-- Cuts a text at each pair of line feeds. -/
def splitEvents : List Char → List (List Char)
  | [] => [[]]
  | '\n' :: '\n' :: rest => [] :: splitEvents rest
  | c :: rest =>
    match splitEvents rest with
    | e :: es => (c :: e) :: es
    | [] => [[c]]

/-- A line without the carriage return at its end. -/
def dropReturn (line : List Char) : List Char :=
  if line.getLast? = some '\r' then line.dropLast else line

/-- The lines of a text. A last line without a line feed is left as it is, and is none if nothing
stands in it. -/
def lines (cs : List Char) : List (List Char) :=
  let pieces := cs.splitOn '\n'
  let last := pieces.getLast?.getD []
  pieces.dropLast.map dropReturn ++ (if last.isEmpty then [] else [last])

/-- How a line with data begins. -/
def dataMark : List Char := ['d', 'a', 't', 'a', ':']

/-- The data of a line. -/
def lineData? (line : List Char) : Option (List Char) :=
  if dataMark.isPrefixOf line then some (Text.trimStart (line.drop dataMark.length)) else none

/-- The data of an event. -/
def eventData? (event : List Char) : Option (List Char) :=
  match (lines event).filterMap lineData? with
  | [] => none
  | ds => some (['\n'].intercalate ds)

/-- The data of the events of a stream, in order. -/
def payloads (body : List Char) : List (List Char) :=
  (splitEvents (unifyEnds body)).filterMap eventData?

example : payloads "event: x\r\ndata: 1\n\ndata:a\ndata: b\n\n: note\n".toList =
    [['1'], ['a', '\n', 'b']] := by decide

end Dialogue.ToolServer.EventStream
