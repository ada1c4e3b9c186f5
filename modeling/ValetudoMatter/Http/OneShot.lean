import ValetudoMatter.Http.Sse

/-!
# What an SSE body means

The abstract reading of a whole body, against which the incremental decoder is proved: cut the bytes at the leftmost `"\n\n"`s
that do not overlap, take the lines of each block, keep the payload lines, decode them as UTF-8. Nothing here is translated from
the source but the constants.
-/

namespace ValetudoMatter

/-- A line that an LF ends, without the CR directly before that LF. -/
def dropCr (line : List UInt8) : List UInt8 := if line.getLast? = some CR then line.dropLast else line

/-- The lines of a block: what its LFs separate, less the CRs directly before them. -/
def blockLines (block : List UInt8) : List (List UInt8) :=
  (block.splitOn LF).dropLast.map dropCr ++ (block.splitOn LF).getLast?.toList

/-- The payload of a block: the lines that begin with `"data: "`, without it, joined by LF. -/
def blockPayload (block : List UInt8) : List UInt8 :=
  [LF].intercalate (((blockLines block).filter (fun line => dataPrefix <+: line)).map (·.drop dataPrefix.length))

/-- What a block yields: nothing when its payload is empty, else the payload as a string, or an error if it is no UTF-8. -/
def blockItem (block : List UInt8) : Option Item :=
  if blockPayload block = [] then none
  else match String.fromUTF8? ⟨(blockPayload block).toArray⟩ with
    | some payload => some (.ok payload)
    | none => some (.error .utf8)

/-- The one-shot parse of a body: the items of its complete blocks, in order. -/
def oneShot (body : List UInt8) : List Item := (Delim.cut [LF, LF] body).1.filterMap blockItem

/-- What the end of a body yields: one error when it is a read error. -/
def Ending.items : Ending → List Item
  | .eof => []
  | .error e => [.error (.io e)]

end ValetudoMatter
