import ValetudoMatter.Http.Sse
import ValetudoMatter.Lib.Utf8

/-!
# SSE framing

The sender's side of an event stream, which is no part of the source: blocks of lines, how they are written to the wire, and
the event each block carries. A line that carries no payload is any line that does not look like one; a heartbeat is a block
of only such lines.
-/

namespace ValetudoMatter

/-- The text of a payload line: it stays on its line. -/
structure PayloadText where
  text : String
  noLf : '\n' ∉ text.toList
  noCr : '\r' ∉ text.toList

/-- An event name, an id, a comment: a line that is not empty and does not begin with `"data: "`. -/
structure OtherLine where
  text : String
  ne : text ≠ ""
  noLf : '\n' ∉ text.toList
  notData : ¬ "data: ".toList <+: text.toList

inductive SseLine where
  | payload (t : PayloadText)
  | other (l : OtherLine)

/-- A line as it is written. -/
def SseLine.text : SseLine → String
  | .payload t => "data: " ++ t.text
  | .other l => l.text

/-- The payload a line carries. -/
def SseLine.payload? : SseLine → Option String
  | .payload t => some t.text
  | .other _ => none

/-- A block has at least one line. -/
structure SseBlock where
  lines : List SseLine
  ne : lines ≠ []

/-- The lines of a block on the wire, joined by LF. -/
def SseBlock.bytes (b : SseBlock) : List UInt8 := Utf8.bytes ("\n".intercalate (b.lines.map SseLine.text))

/-- A block on the wire: its lines joined by LF, and an empty line. -/
def SseBlock.encode (b : SseBlock) : List UInt8 := b.bytes ++ [LF, LF]

/-- The payload of a block: its payload lines joined by LF. -/
def SseBlock.payload (b : SseBlock) : String := "\n".intercalate (b.lines.filterMap SseLine.payload?)

/-- The event a block carries, if its payload is not empty. -/
def SseBlock.event (b : SseBlock) : Option String := if b.payload = "" then none else some b.payload

end ValetudoMatter
