import LuaIntrospect.Value.Basic
import LuaIntrospect.Stack.Frame
/-!
Guest bodies as a small statement language. A body runs statements in order: calls through the
runtime, returns, tail calls and raised errors, edits of the newest frame, session variables and
tables, frame pushes and pops, and records of values and of the stack. Expressions compute values
without calling functions. A request that cannot be read holds `invalid` nodes, which stop the
whole run when they are reached.
-/
namespace LuaIntrospect

inductive Literal where
  | nil
  | bool (b : Bool)
  | int (i : Int64)
  | num (x : Float)
  | str (s : String)

def Literal.toValue : Literal → Value
  | .nil => .nil
  | .bool b => .bool b
  | .int i => .int i
  | .num x => .num x
  | .str s => .str s

inductive Expr where
  | lit (l : Literal)
  /-- A session variable, `nil` when unset. -/
  | var (name : String)
  /-- The function a definition of the program gives, by its identifier. -/
  | func (id : String)
  /-- An argument of the running body, counted from one. -/
  | arg (index : Int)
  /-- The number of arguments of the running body. -/
  | argCount
  /-- A new table from key and value expressions. -/
  | table (entries : List (Expr × Expr))
  | global (name : String)
  /-- A field of a global table, written `library.field`. -/
  | libraryField (path : String)
  | field (t k : Expr)
  | border (t : Expr)
  | thread (id : UInt32)
  | userdata (typeName : String)
  | equal (a b : Expr)
  | not (e : Expr)
  | typeOf (e : Expr)
  | toText (e : Expr)
  | depth
  | yieldDepth
  | invalid (message : String)

/-- An element of an argument list: an expression, or all arguments of the running body. -/
inductive Arg where
  | expr (e : Expr)
  | varargs

/-- How a call statement calls: following tail calls, or exactly once. -/
inductive CallMode where
  | trampoline
  | once
  deriving DecidableEq

/-- A frame to push, with expressions for its locals and upvalues. -/
structure FrameSpec where
  name : Option String := none
  kind : FrameKind := .guest
  line : Option UInt32 := none
  scriptPath : Option String := none
  span : Option Span := none
  locals : List (String × Expr) := []
  upvalues : Option (List (String × Expr)) := none

/-- How results of a call are kept: variable names by position, and whether an error is
recovered from instead of ending the body. -/
structure Handling where
  store : List String := []
  recover : Bool := false

inductive Stmt where
  | call (target : Expr) (args : List Arg) (mode : CallMode) (handling : Handling)
  /-- A library entry called directly, without a call frame. -/
  | direct (entry : String) (args : List Arg) (handling : Handling)
  | ret (values : List Arg)
  | tailCall (target : Expr) (args : List Arg)
  | raise (message : String)
  | line (n : UInt32)
  | position (offset : Nat) (source : String)
  | declareLocal (name : String) (value : Expr)
  | assign (name : String) (value : Expr)
  | increment (name : String)
  | setField (t k v : Expr)
  | setGlobal (name : String) (value : Expr)
  | setUpvalue (f : Expr) (index : Int) (value : Expr)
  | cond (test : Expr) (yes no : List Stmt)
  | log (value : Expr)
  | pushFrame (spec : FrameSpec)
  | popFrame
  | stack
  | invalid (message : String)

/-- A function the program defines: host-style with a name, or a guest function with its chunk
details and upvalues given by expressions. -/
inductive FunctionDef where
  | native (id : String) (name : String) (body : List Stmt)
  | guest (id : String) (name : Option String) (chunk : Option String) (span : Option Span)
      (isMain : Bool) (upvalues : Option (List (String × Expr))) (body : List Stmt)

namespace FunctionDef

def id : FunctionDef → String
  | .native id _ _ => id
  | .guest id .. => id

def body : FunctionDef → List Stmt
  | .native _ _ body => body
  | .guest _ _ _ _ _ _ body => body

end FunctionDef

/-- Settings of a run: the script path frames fall back to and the deepest call stack. -/
structure Config where
  scriptPath : Option String := none
  maxCallDepth : Nat := 200

/-- A program: settings, function definitions, and the statements run at top level. -/
structure Program where
  config : Config := {}
  functions : List FunctionDef := []
  steps : List Stmt := []

end LuaIntrospect
