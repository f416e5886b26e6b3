/-!
The host functions that the runtime registers: the `debug` library and the `coroutine` library,
each entry with the name under which it is published.
-/
namespace LuaIntrospect

/-- The two libraries the runtime publishes as globals. -/
inductive Library where
  | debug
  | coroutine
  deriving DecidableEq, Repr

def Library.name : Library → String
  | .debug => "debug"
  | .coroutine => "coroutine"

/-- An entry of the `debug` or `coroutine` library. -/
inductive Builtin where
  | getinfo | getlocal | getupvalue | getmetatable | setmetatable | traceback | getregistry
  | sethook | gethook | setlocal | setupvalue | getuservalue | setuservalue | upvalueid
  | upvaluejoin
  | create | resume | yield | wrap | status | close | isyieldable | running
  deriving DecidableEq, Repr

namespace Builtin

/-- The `debug` entries in the order the library lists them. -/
def debugEntries : List Builtin :=
  [getinfo, getlocal, getupvalue, getmetatable, setmetatable, traceback, getregistry, sethook,
    gethook, setlocal, setupvalue, getuservalue, setuservalue, upvalueid, upvaluejoin]

/-- The `coroutine` entries in the order the library lists them. -/
def coroutineEntries : List Builtin :=
  [create, resume, yield, wrap, status, close, isyieldable, running]

def library (b : Builtin) : Library :=
  if b ∈ debugEntries then .debug else .coroutine

def entries : Library → List Builtin
  | .debug => debugEntries
  | .coroutine => coroutineEntries

/-- The name of an entry inside its library. -/
def name : Builtin → String
  | getinfo => "getinfo" | getlocal => "getlocal" | getupvalue => "getupvalue"
  | getmetatable => "getmetatable" | setmetatable => "setmetatable" | traceback => "traceback"
  | getregistry => "getregistry" | sethook => "sethook" | gethook => "gethook"
  | setlocal => "setlocal" | setupvalue => "setupvalue" | getuservalue => "getuservalue"
  | setuservalue => "setuservalue" | upvalueid => "upvalueid" | upvaluejoin => "upvaluejoin"
  | create => "create" | resume => "resume" | yield => "yield" | wrap => "wrap"
  | status => "status" | close => "close" | isyieldable => "isyieldable" | running => "running"

/-- The qualified name, such as `debug.sethook`. -/
def qualifiedName (b : Builtin) : String := b.library.name ++ "." ++ b.name

def ofQualifiedName? (s : String) : Option Builtin :=
  (debugEntries ++ coroutineEntries).find? (fun b => b.qualifiedName == s)

end Builtin

end LuaIntrospect
