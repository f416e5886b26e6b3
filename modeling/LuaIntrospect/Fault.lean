import LuaIntrospect.Value.Basic
/-!
Errors that guest code can see. A runtime error may carry the place it was raised at, which the
call that raised it adds once; a tail call travels as an error until a trampoline follows it.
-/
namespace LuaIntrospect

/-- Where a runtime error happened: a chunk's short name and, when known, a line. -/
structure Location where
  file : String
  line : Option UInt32
  deriving DecidableEq, Repr

/-- A guest-visible failure, or a tail call on its way to a trampoline. -/
inductive LuaError where
  | badArgument (position : Nat) (function : String) (message : String)
  | notImplemented (what : String)
  | runtime (message : String) (location : Option Location)
  | tailCall (target : Value) (args : List Value)

namespace LuaError

def raise (message : String) : LuaError := .runtime message none

def message : LuaError → String
  | badArgument position function message =>
    "bad argument #" ++ toString position ++ " to '" ++ function ++ "' (" ++ message ++ ")"
  | notImplemented what => what ++ " is not implemented"
  | runtime message none => message
  | runtime message (some ⟨file, none⟩) => file ++ ": " ++ message
  | runtime message (some ⟨file, some line⟩) => file ++ ":" ++ toString line.toNat ++ ": " ++ message
  | tailCall .. => "tail call escaped its trampoline"

/-- Adds a location to an unlocated runtime error; any other error stays as it is. -/
def locate (e : LuaError) (loc : Location) : LuaError :=
  match e with
  | runtime message none => runtime message (some loc)
  | e => e

/-- Whether an error is a runtime error still without a location. -/
def isUnlocated : LuaError → Bool
  | runtime _ none => true
  | _ => false

end LuaError

end LuaIntrospect
