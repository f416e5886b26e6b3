import LuaIntrospect.Stack.Frame
/-!
The records `debug.getinfo` returns. An option string selects groups of fields by letter; the
runtime tracks no line ranges, arity or upvalue counts, so those fields hold fixed values: line
ranges are -1, counts are 0, and every function is variadic.
-/
namespace LuaIntrospect

structure InfoOptions where
  name : Bool := false
  source : Bool := false
  line : Bool := false
  tailCall : Bool := false
  upvalues : Bool := false
  func : Bool := false
  deriving DecidableEq, Repr

namespace InfoOptions

def all : String := "flnStu"

/-- Adds one letter's group; `L` and `r` are accepted and add nothing, any other letter is
refused. -/
def addLetter (o : InfoOptions) : Char → Option InfoOptions
  | 'n' => some { o with name := true }
  | 'S' => some { o with source := true }
  | 'l' => some { o with line := true }
  | 't' => some { o with tailCall := true }
  | 'u' => some { o with upvalues := true }
  | 'f' => some { o with func := true }
  | 'L' | 'r' => some o
  | _ => none

def parse? (what : String) : Option InfoOptions :=
  what.toList.foldlM addLetter {}

end InfoOptions

/-- The line value of fields that are not tracked. -/
def untrackedLine : Int := -1

/-- A `getinfo` record; absent fields were not requested. -/
structure DebugInfo where
  name : Option String := none
  namewhat : Option String := none
  what : Option String := none
  source : Option String := none
  shortSrc : Option String := none
  currentline : Option Int := none
  linedefined : Option Int := none
  lastlinedefined : Option Int := none
  nups : Option Int := none
  nparams : Option Int := none
  isvararg : Option Bool := none
  istailcall : Option Bool := none
  deriving DecidableEq, Repr

namespace DebugInfo

/-- Sets the name; a named callee counts as a global. -/
def withName (i : DebugInfo) (name : Option String) : DebugInfo :=
  { i with name := name, namewhat := some (if name.isSome then "global" else "") }

/-- Sets the source group: what runs, its chunk, and the untracked line range. -/
def withSource (i : DebugInfo) (what : String) (chunk : ChunkSource) : DebugInfo :=
  { i with what := some what, source := some chunk.source, shortSrc := some chunk.shortSrc,
           linedefined := some untrackedLine, lastlinedefined := some untrackedLine }

def withConstants (i : DebugInfo) (o : InfoOptions) : DebugInfo :=
  let i := if o.tailCall then { i with istailcall := some false } else i
  if o.upvalues then { i with nups := some 0, nparams := some 0, isvararg := some true } else i

/-- The `what` of a frame kind. -/
def whatOfKind : FrameKind → String
  | .guest => "Lua"
  | .main => "main"
  | .native => "C"

/-- The record of a frame on the stack. -/
def forFrame (f : Frame) (fallback : Option String) (o : InfoOptions) : DebugInfo :=
  let i : DebugInfo := {}
  let i := if o.name then i.withName f.name else i
  let i := if o.source then i.withSource (whatOfKind f.kind) (ChunkSource.forFrame f fallback) else i
  let i := if o.line then
      { i with currentline := some (match f.line with | some l => (l.toNat : Int) | none => untrackedLine) }
    else i
  i.withConstants o

/-- The `what` of a function. -/
def whatOfSignature : Signature → String
  | .native _ => "C"
  | .guest _ _ _ isMain _ => if isMain then "main" else "Lua"

/-- The record of a function value: no name and no current line. -/
def forFunction (s : Signature) (fallback : Option String) (o : InfoOptions) : DebugInfo :=
  let i : DebugInfo := {}
  let i := if o.name then i.withName none else i
  let i := if o.source then i.withSource (whatOfSignature s) (ChunkSource.forSignature s fallback) else i
  let i := if o.line then { i with currentline := some untrackedLine } else i
  i.withConstants o

/-- The record when there is nothing to describe: host code. -/
def nativeDefaults (o : InfoOptions) : DebugInfo :=
  let i : DebugInfo := {}
  let i := if o.name then i.withName none else i
  let i := if o.source then i.withSource "C" ChunkSource.native else i
  let i := if o.line then { i with currentline := some untrackedLine } else i
  i.withConstants o

/-- A field's value: text, a number or a flag. -/
inductive Field where
  | text (s : String)
  | number (n : Int)
  | flag (b : Bool)
  deriving DecidableEq, Repr

def fields (i : DebugInfo) : List (String × Field) :=
  let texts := [("name", i.name), ("namewhat", i.namewhat), ("what", i.what),
    ("source", i.source), ("short_src", i.shortSrc)].filterMap
      fun (k, v) => v.map fun s => (k, Field.text s)
  let numbers := [("currentline", i.currentline), ("linedefined", i.linedefined),
    ("lastlinedefined", i.lastlinedefined), ("nups", i.nups), ("nparams", i.nparams)].filterMap
      fun (k, v) => v.map fun n => (k, Field.number n)
  let flags := [("isvararg", i.isvararg), ("istailcall", i.istailcall)].filterMap
      fun (k, v) => v.map fun b => (k, Field.flag b)
  texts ++ numbers ++ flags

end DebugInfo

end LuaIntrospect
