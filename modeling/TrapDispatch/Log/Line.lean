import TrapDispatch.Log.Record

/-!
# Log lines

A line is built in a buffer of fixed size, piece by piece. A text that fills the
buffer is cut back to make room for the final newline, at the end of a character.
-/

namespace TrapDispatch

/-- Bytes a line may have, its newline included. -/
def lineCapacity : Nat := 256

/-- Bytes collected for one line. -/
structure LineBuffer where
  bytes : ByteArray := ByteArray.empty

namespace LineBuffer

/-- The longest start of at most `length` bytes that is valid text. -/
def validStart (bytes : ByteArray) : Nat → String
  | 0 => ""
  | length + 1 =>
    match String.fromUTF8? (bytes.extract 0 (length + 1)) with
    | some text => text
    | none => validStart bytes length

/-- The text of the buffer, up to the first broken character. -/
def text (buffer : LineBuffer) : String :=
  validStart buffer.bytes buffer.bytes.size

/-- Adds as much of a piece as fits. -/
def write (buffer : LineBuffer) (piece : String) : LineBuffer :=
  let room := lineCapacity - buffer.bytes.size
  { bytes := buffer.bytes ++ piece.toUTF8.extract 0 (min room piece.utf8ByteSize) }

/-- Cuts a full buffer back to the last character that leaves room for a byte. -/
def makeRoom (buffer : LineBuffer) : LineBuffer :=
  if buffer.bytes.size = lineCapacity then
    { bytes := (validStart buffer.bytes (lineCapacity - 1)).toUTF8 }
  else buffer

def finish (buffer : LineBuffer) : LineBuffer :=
  buffer.makeRoom.write "\n"

end LineBuffer

namespace Record

/-- The pieces of a line: level, target and text with their separators. -/
def pieces (r : Record) : List String :=
  ["[", r.level.tag, "] ", r.target, ": ", r.text]

def line (r : Record) : String :=
  (r.pieces.foldl LineBuffer.write {}).finish.text

end Record

/-- The lines of the records in the order in which they were added. -/
def LogBook.lines (book : LogBook) : List String :=
  book.chronological.map Record.line

end TrapDispatch
