import LuaIntrospect.Source.Span
/-!
Chunk names as introspection reports them. The first byte of a `source` tells its class: `@` for
a file, `=` for a literal name, `[` for host code, and none for a chunk loaded from text. The
first rule that applies decides:

1. a script path that already carries one of those prefixes is kept as it is;
2. a span with an origin URL becomes `@<file name>`, or `=(command line)` for command-line
   origins;
3. any other script path is a chunk name written without prefix;
4. otherwise the chunk is host code, `=[C]`.

The short form of a file name keeps at most 59 bytes: a longer one keeps its tail behind `...`.
-/
namespace LuaIntrospect

/-- The `source` and `short_src` pair of a chunk. -/
structure ChunkSource where
  source : String
  shortSrc : String
  deriving DecidableEq, Repr

namespace ChunkSource

def native : ChunkSource := ⟨"=[C]", "[C]"⟩

/-- The chunk of code given on a command line. -/
def commandLine : ChunkSource := ⟨"=(command line)", "(command line)"⟩

def isNative (c : ChunkSource) : Bool := c.source == "=[C]"

/-- The most bytes a short file name keeps. -/
def shortLimit : Nat := 59

/-- The origins that stand for code typed on a command line. -/
def commandLineOrigins : List String := ["-", "-e", "(command line)", "<command line>"]

/-- Shortens a file name to at most `shortLimit` bytes: a longer name becomes `...` and its last
`shortLimit - 3` bytes, moved forward to the next character boundary. -/
def shorten (file : String) : String :=
  let bytes := file.utf8ByteSize
  if bytes ≤ shortLimit then file
  else
    -- the characters starting at or after the cut, which is the tail moved to a boundary
    let cut := bytes - (shortLimit - 3)
    let rec keep (cs : List Char) (pos : Nat) : List Char :=
      match cs with
      | [] => []
      | c :: rest => if cut ≤ pos then cs else keep rest (pos + c.utf8Size)
    "..." ++ String.ofList (keep file.toList 0)

/-- The file name of a URL: without a `file://` scheme, the last non-empty segment between `/`
or `\`, or the whole path when every segment is empty. -/
def fileName (url : String) : String :=
  let path := if url.startsWith "file://" then url.drop 7 |>.toString else url
  let segments := (path.splitToList (fun c => c == '/' || c == '\\')).filter (· ≠ "")
  segments.getLast?.getD path

def ofOrigin (url : String) : ChunkSource :=
  if url ∈ commandLineOrigins ∨ url.startsWith "data:" then commandLine
  else
    let name := fileName url
    ⟨"@" ++ name, shorten name⟩

/-- Whether a path carries a chunk class prefix. -/
def hasPrefix (path : String) : Bool :=
  path.startsWith "@" || path.startsWith "=" || path.startsWith "["

/-- Resolves a script path and a span by the four rules above. -/
def resolve (path : Option String) (span : Option Span) : ChunkSource :=
  match path with
  | some p =>
    if hasPrefix p then
      ⟨p, if p.startsWith "@" then shorten (p.drop 1).toString else p⟩
    else match span.bind Span.url with
      | some url => ofOrigin url
      | none => ⟨p, p⟩
  | none => match span.bind Span.url with
    | some url => ofOrigin url
    | none => native

end ChunkSource

end LuaIntrospect
