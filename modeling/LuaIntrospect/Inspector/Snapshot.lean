import LuaIntrospect.Ron.Compound
import LuaIntrospect.Machine.Script
/-!
Stack snapshots as the inspector reads them from RON: an optional script path and the frames
from the oldest to the newest. Every field may be left out. A frame gives its name, kind, line,
script path, span, locals and upvalues, the values written as literals `Nil`, `Boolean(b)`,
`Integer(i)`, `Number(x)` or `String(s)`. A snapshot frame is installed like a pushed frame, so
it is read into a `FrameSpec`.
-/
namespace LuaIntrospect.Inspector

-- `^` is the core power even with other instances in scope; numeral exponents are typed for it
attribute [local instance (high)] instPowNat

open Ron

/-- A stack snapshot: the script path that replaces the configured one when given, and frames
oldest first. -/
structure StackSnapshot where
  scriptPath : Option String := none
  frames : List FrameSpec := []

def literal : Read Literal :=
  enumeration "Literal" ["Nil", "Boolean", "Integer", "Number", "String"] fun
    | "Nil" => pure .nil
    | "Boolean" => variantContent (Literal.bool <$> bool)
    | "Integer" =>
      variantContent ((fun i => Literal.int (Int64.ofInt i)) <$> signedInteger (-2 ^ (63 : Nat)) (2 ^ (63 : Nat) - 1))
    | "Number" => variantContent (Literal.num <$> float)
    | _ => variantContent (Literal.str <$> string)

def frameKind : Read FrameKind :=
  enumeration "FrameKind" ["Lua", "Native", "Main"] fun
    | "Native" => pure .native
    | "Main" => pure .main
    | _ => pure .guest

/-- Reads a list of named literals, as expressions for the frame's values. -/
def namedLiterals : Read (List (String × Expr)) := do
  let items ← list (pair string literal)
  pure (items.map fun (n, l) => (n, Expr.lit l))

/-- The fields of a span read so far. -/
structure SpanFields where
  start : Option Nat := none
  stop : Option Nat := none
  url : Option String := none

/-- Reads a span; its start and end are required. -/
def span : Read Span :=
  struct "SourceSpan"
    { names := ["start", "end", "url"]
      read := fun key st => match key with
        | "start" => do pure { st with start := some (← unsignedInteger (2 ^ (64 : Nat) - 1)) }
        | "end" => do pure { st with stop := some (← unsignedInteger (2 ^ (64 : Nat) - 1)) }
        | _ => do pure { st with url := ← option string } }
    ({} : SpanFields)
    fun st => match st.start, st.stop with
      | some a, some b => .ok { start := a, stop := b, url := st.url }
      | none, _ => .error (.missingStructField "start" none)
      | _, none => .error (.missingStructField "end" none)

def frame : Read FrameSpec :=
  struct "FrameSnapshot"
    { names := ["name", "kind", "line", "script_path", "span", "locals", "upvalues"]
      read := fun key st => match key with
        | "name" => do pure { st with name := ← option string }
        | "kind" => do pure { st with kind := ← frameKind }
        | "line" => do
          pure { st with line := (← option (unsignedInteger (2 ^ (32 : Nat) - 1))).map Nat.toUInt32 }
        | "script_path" => do pure { st with scriptPath := ← option string }
        | "span" => do pure { st with span := ← option span }
        | "locals" => do pure { st with locals := ← namedLiterals }
        | _ => do pure { st with upvalues := ← option namedLiterals } }
    ({} : FrameSpec) .ok

def snapshot : Read StackSnapshot :=
  struct "StackSnapshot"
    { names := ["script_path", "frames"]
      read := fun key st => match key with
        | "script_path" => do pure { st with scriptPath := ← option string }
        | _ => do pure { st with frames := ← list frame } }
    ({} : StackSnapshot) .ok

/-- Reads runtime settings; both fields may be left out. -/
def config : Read Config :=
  struct "RuntimeConfig"
    { names := ["script_path", "max_call_depth"]
      read := fun key st => match key with
        | "script_path" => do pure { st with scriptPath := ← option string }
        | _ => do pure { st with maxCallDepth := ← unsignedInteger (2 ^ (64 : Nat) - 1) } }
    ({} : Config) .ok

end LuaIntrospect.Inspector
