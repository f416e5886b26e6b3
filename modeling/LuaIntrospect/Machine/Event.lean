import LuaIntrospect.Stack.Frame
/-!
What a run records. Values are shown with small identity numbers in place of references, counted
separately for tables, functions and userdata in the order they are first shown. A table shown
at the top of a record lists its entries in key order and its metatable; a nested one shows only
its number.
-/
namespace LuaIntrospect

/-- A value as a record shows it, references by identity number. -/
inductive Shown where
  | nil
  | bool (b : Bool)
  | int (i : Int64)
  /-- A float, by its text. -/
  | num (text : String)
  | str (s : String)
  | thread (id : UInt32)
  | func (id : Nat) (native : Bool) (name : Option String)
  | userdata (id : Nat) (typeName : String)
  | table (id : Nat)

/-- A value at the top of a record: a table with its contents, or any other value. -/
inductive Rendered where
  | plain (v : Shown)
  | table (id : Nat) (entries : List (Shown × Shown)) (metatable : Option Nat)

inductive ErrorClass where
  | badArgument
  | notImplemented
  | runtime
  | tailCall
  deriving DecidableEq, Repr

structure ErrorReport where
  errorClass : ErrorClass
  message : String

structure FrameReport where
  name : Option String
  kind : FrameKind
  line : Option UInt32
  scriptPath : Option String
  span : Option Span
  locals : List (String × Shown)
  upvalues : Option (List (String × Shown))

/-- The call stack and yield collector as a record shows them, frames newest first. -/
structure StackReport where
  depth : Nat
  yieldDepth : Nat
  scriptPath : Option String
  frames : List FrameReport

inductive Event where
  | returned (values : List Rendered)
  | failed (error : ErrorReport)
  | value (v : Rendered)
  /-- The stack depth after a frame push or pop. -/
  | depth (n : Nat)
  | stack (report : StackReport)

end LuaIntrospect
