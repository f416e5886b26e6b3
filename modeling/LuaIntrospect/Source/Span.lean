/-!
Source spans and the line index. A span is a byte range with an optional origin URL. The line
index records the byte offset at which every line starts, and maps a byte offset to a 1-based line
and column: the line is the last one starting at or before the offset, and the column counts bytes
from that line's start.
-/
namespace LuaIntrospect

-- `^` is the core power even with other instances in scope; numeral exponents are typed for it
attribute [local instance (high)] instPowNat

/-- A byte range of a source text, with the URL it came from when known. -/
structure Span where
  start : Nat := 0
  stop : Nat := 0
  url : Option String := none
  deriving DecidableEq, Repr, Inhabited

/-- The byte offsets at which the lines of a text start, in increasing order. -/
structure LineIndex where
  starts : Array Nat
  deriving Repr

namespace LineIndex

/-- Indexes a text: line one starts at zero and every newline byte starts the next line. -/
def ofString (source : String) : LineIndex :=
  let bytes := source.toUTF8
  let (_, starts) := bytes.foldl
    (fun (acc : Nat × Array Nat) b => (acc.1 + 1, if b = 10 then acc.2.push (acc.1 + 1) else acc.2))
    (0, #[0])
  ⟨starts⟩

/-- The number of line starts at or before an offset. The starts increase, so they are the
first ones and the last of them begins the offset's line. -/
def countUpTo (starts : Array Nat) (offset : Nat) : Nat :=
  starts.toList.countP (· ≤ offset)

/-- The 1-based line and column of a byte offset. Offsets past the end stay on the last line.
Offsets and columns are 64-bit words, so the column after the largest offset wraps to zero. -/
def lineCol (index : LineIndex) (offset : Nat) : Nat × Nat :=
  let count := countUpTo index.starts offset
  let line := count - 1
  let start := index.starts[line]!
  (line + 1, (offset - start + 1) % 2 ^ (64 : Nat))

end LineIndex

end LuaIntrospect
