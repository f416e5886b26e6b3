import LuaIntrospect.Inspector.Args
import LuaIntrospect.Inspector.Snapshot
import LuaIntrospect.Json.Pretty
import LuaIntrospect.Machine.Session
/-!
Running an inspector command on a snapshot. The settings file is read first, then the snapshot;
the snapshot's frames are pushed on a fresh machine, its script path replacing the configured one
when given. `inspect` prints a `getinfo` record per level as indented JSON; `traceback` and
`locals` call `debug.traceback` and `debug.getlocal` through the runtime, so their own frame is on
the stack while they run and a full stack refuses them.
-/
namespace LuaIntrospect.Inspector

-- `^` is the core power even with other instances in scope; numeral exponents are typed for it
attribute [local instance (high)] instPowNat

/-- Why a command fails; each is printed after `Error: ` with status 1. -/
inductive CliError where
  | unreadable (path : String) (reason : String)
  | malformed (path : String) (position : Ron.Position) (error : Ron.RonError)
  | guest (error : LuaError)
  | invalidOption (what : String)
  | levelOutOfRange (level depth : Nat)

def CliError.message : CliError → String
  | .unreadable path reason => "error reading '" ++ path ++ "': " ++ reason
  | .malformed path p e =>
    "malformed RON in '" ++ path ++ "': " ++ toString p.line ++ ":" ++ toString p.col ++ ": " ++
      e.message
  | .guest e => e.message
  | .invalidOption what => "invalid option '" ++ what ++ "' (expected letters from \"flnStuLr\")"
  | .levelOutOfRange level depth =>
    "level " ++ toString level ++ " is outside the stack (depth " ++ toString depth ++ ")"

/-- How a run of the program ends: its exit status and what it wrote to each stream. -/
structure Outcome where
  status : Nat
  stdout : String
  stderr : String

/-- A file's text, or why it cannot be read. -/
abbrev Source := Except String String

def Command.snapshotPath : Command → String
  | .inspect p _ _ => p
  | .traceback p _ => p
  | .locals p _ => p

/-- Reads a RON text with a reader, naming the file in a failure. -/
def readRon (reader : Ron.Read α) (path : String) (text : String) : Except CliError α :=
  match Ron.readAll reader text with
  | .ok v => .ok v
  | .error (p, e) => .error (.malformed path p e)

/-- Pushes a snapshot's frames, oldest first, after its script path. -/
def install (snap : StackSnapshot) : Exec Unit := do
  if snap.scriptPath.isSome then
    Exec.modifyStack fun s => { s with scriptPath := snap.scriptPath }
  for spec in snap.frames do
    let frame ← Exec.buildFrame none spec
    Exec.modifyStack (·.push frame)

/-- A machine holding a snapshot: settings from the settings file when one is named, then the
snapshot's frames. -/
def loadMachine (inv : Invocation) (configSource : Source) (snapshotSource : Source) :
    Except CliError Machine := do
  let config ← match inv.config with
    | none => pure {}
    | some path => do
      let text ← configSource.mapError (CliError.unreadable path)
      readRon config path text
  let path := inv.command.snapshotPath
  let text ← snapshotSource.mapError (CliError.unreadable path)
  let snap ← readRon snapshot path text
  match install snap (Machine.boot config) with
  | .ok _ m => pure m
  | .error _ m => pure m

def infoMembers (i : DebugInfo) : List (String × Json.Doc) :=
  i.fields.map fun (k, f) => (k, match f with
    | .text s => Json.Doc.str s
    | .number n => .int n
    | .flag b => .bool b)

/-- `inspect`: the record of every level, or of one level, with its level first. -/
def inspectLevels (m : Machine) (what : String) (level : Option Nat) : Except CliError String := do
  let some options := InfoOptions.parse? what | throw (.invalidOption what)
  let depth := m.stack.depth
  let levels ← match level with
    | some l => if l = 0 ∨ l > depth then throw (.levelOutOfRange l depth) else pure [l]
    | none => pure ((List.range depth).map (· + 1))
  let records := levels.filterMap fun l => (m.stack.frameAt? l).map fun f =>
    Json.Doc.obj (("level", .int l) :: infoMembers (DebugInfo.forFrame f m.stack.scriptPath options))
  pure ((Json.Doc.arr records).pretty 0 ++ "\n")

/-- The text a value prints as; references, which cannot occur here, print nothing. -/
def displayText (v : Value) : String := v.scalarText?.getD ""

/-- Calls a library entry as the guest would, through the runtime. -/
def callEntry (m : Machine) (b : Builtin) (args : List Value) :
    Except CliError (List Value) × Machine :=
  let entry := (m.table (match (m.global b.library.name) with
    | .table t => t
    | _ => m.globals)).getField b.name
  match Exec.callFunction runFuel entry args m with
  | .ok vs m => (.ok vs, m)
  | .error (.error e) m => (.error (.guest e), m)
  | .error _ m => (.ok [], m)

/-- `traceback`: the text `debug.traceback` gives for the message. -/
def tracebackText (m : Machine) (message : Option String) : Except CliError String := do
  let vs ← (callEntry m .traceback (message.map (fun s => [Value.str s]) |>.getD [])).1
  pure (((vs.head?).map displayText).getD "" ++ "\n")

/-- Collects `debug.getlocal(level, i)` for `i = 1, 2, ...` until the name is `nil`. -/
def collectLocals (level : Int64) : Nat → Nat → Machine → Except CliError (List (String × String))
  | 0, _, _ => .ok []
  | fuel + 1, index, m =>
    match callEntry m .getlocal [.int level, .int (Int64.ofNat index)] with
    | (.error e, _) => .error e
    | (.ok vs, m) => match vs with
      | [] | .nil :: _ => .ok []
      | [name] => do
        let rest ← collectLocals level fuel (index + 1) m
        pure ((displayText name, "nil") :: rest)
      | name :: v :: _ => do
        let rest ← collectLocals level fuel (index + 1) m
        pure ((displayText name, displayText v) :: rest)

def alignIndex (n : Nat) : String :=
  let s := toString n
  String.ofList (List.replicate (3 - s.length) ' ') ++ s

/-- `locals`: one line per local of a level, or a note that there are none. -/
def localsText (m : Machine) (level : Nat) : Except CliError String := do
  let level64 : Int64 := if level < 2 ^ (63 : Nat) then Int64.ofNat level else Int64.ofInt (2 ^ (63 : Nat) - 1)
  let bound := m.stack.frames.foldl (fun n f => n + f.locals.size) 0 + 2
  let locals ← collectLocals level64 bound 1 m
  if locals.isEmpty then pure ("(no locals at level " ++ toString level ++ ")\n")
  else pure (String.join (locals.zipIdx.map fun ((name, v), i) =>
    alignIndex (i + 1) ++ "  " ++ name ++ " = " ++ v ++ "\n"))

/-- Runs a command on the texts of the settings file and the snapshot. -/
def execute (inv : Invocation) (configSource : Source) (snapshotSource : Source) : Outcome :=
  let result : Except CliError String := do
    let m ← loadMachine inv configSource snapshotSource
    match inv.command with
    | .inspect _ what level => inspectLevels m what level
    | .traceback _ message => tracebackText m message
    | .locals _ level => localsText m level
  match result with
  | .ok out => ⟨0, out, ""⟩
  | .error e => ⟨1, "", "Error: " ++ e.message ++ "\n"⟩

end LuaIntrospect.Inspector
