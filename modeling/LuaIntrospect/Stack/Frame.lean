import LuaIntrospect.Source.Chunk
import LuaIntrospect.Value.Basic
/-!
Call frames. A frame records the name a function was called by, whether it runs guest code, a
main chunk or host code, the line it is at, where its code came from, its locals in declaration
order and, for guest functions, the upvalue cells it shares with its function.
-/
namespace LuaIntrospect

-- `^` is the core power even with other instances in scope; numeral exponents are typed for it
attribute [local instance (high)] instPowNat

/-- A mutable cell holding an upvalue, named by its slot in the heap. -/
structure CellRef where
  slot : Nat
  deriving DecidableEq, Repr

/-- A named upvalue and the cell holding it. -/
structure Upvalue where
  name : String
  cell : CellRef
  deriving DecidableEq, Repr

/-- What a function value tells about itself apart from its behaviour. -/
inductive Signature where
  | native (name : String)
  /-- A guest function: its name, chunk name, span, whether it is a main chunk, and its
  upvalues when they are tracked. -/
  | guest (name : Option String) (chunk : Option String) (span : Option Span) (isMain : Bool)
      (upvalues : Option (List Upvalue))
  deriving Repr

def Signature.isNative : Signature → Bool
  | .native _ => true
  | .guest .. => false

def Signature.name? : Signature → Option String
  | .native name => some name
  | .guest name .. => name

inductive FrameKind where
  | guest
  | native
  | main
  deriving DecidableEq, Repr, Inhabited

/-- The names that say nothing about a callee and stand for no name. -/
def anonymousNames : List String := ["", "?", "unknown", "function", "anonymous"]

/-- A call name, or none when it says nothing. -/
def normalizeCallName (name : String) : Option String :=
  if name ∈ anonymousNames then none else some name

structure Frame where
  name : Option String := none
  kind : FrameKind := .guest
  line : Option UInt32 := none
  scriptPath : Option String := none
  span : Option Span := none
  locals : Array (String × Value) := #[]
  upvalues : Option (List Upvalue) := none

namespace Frame

/-- The frame a call of a function pushes: a host function gives a native frame named as it is;
a guest function gives a guest or main frame with its chunk, span and shared upvalue cells. -/
def forFunction : Signature → Frame
  | .native name => { name := normalizeCallName name, kind := .native }
  | .guest name chunk span isMain upvalues =>
    { name := name.bind normalizeCallName, kind := if isMain then .main else .guest,
      scriptPath := chunk, span := span, upvalues := upvalues }

/-- Sets the current line; line zero means unknown. -/
def setLine (f : Frame) (line : UInt32) : Frame :=
  { f with line := if line = 0 then none else some line }

/-- Sets the current line from a byte offset into the frame's source, saturating at the largest
32-bit line. -/
def setPosition (f : Frame) (offset : Nat) (index : LineIndex) : Frame :=
  let line := (index.lineCol offset).1
  f.setLine (if line < 2 ^ (32 : Nat) then line.toUInt32 else 0xFFFFFFFF)

def declareLocal (f : Frame) (name : String) (v : Value) : Frame :=
  { f with locals := f.locals.push (name, v) }

/-- The local with a 1-based index, if there is one. -/
def local? (f : Frame) (index : Int) : Option (String × Value) :=
  if index < 1 then none else f.locals[(index - 1).toNat]?

end Frame

namespace ChunkSource

/-- The chunk of a frame: host code for a native frame, else its script path, or the fallback
path, resolved with its span. -/
def forFrame (f : Frame) (fallback : Option String) : ChunkSource :=
  match f.kind with
  | .native => native
  | _ => resolve (f.scriptPath.orElse fun _ => fallback) f.span

/-- The chunk of a function: host code for a host function, else its chunk name, or the fallback
path, resolved with its span. -/
def forSignature (s : Signature) (fallback : Option String) : ChunkSource :=
  match s with
  | .native _ => native
  | .guest _ chunk span _ _ => resolve (chunk.orElse fun _ => fallback) span

end ChunkSource

end LuaIntrospect
