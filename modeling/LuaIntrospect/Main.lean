import LuaIntrospect.Inspector.Command
/-!
The `moonlet` command: reads its arguments, the settings file and the snapshot (`-` is standard
input, read once), runs the command and prints what it wrote, ending with its exit status.
-/
namespace LuaIntrospect.Inspector

/-- The description of an operating-system error code, as the system prints it. -/
def osErrorText (code : UInt32) (fallback : String) : String :=
  let text := match code.toNat with
    | 2 => "No such file or directory"
    | 13 => "Permission denied"
    | 20 => "Not a directory"
    | 21 => "Is a directory"
    | 36 => "File name too long"
    | 40 => "Too many levels of symbolic links"
    | _ => fallback
  text ++ " (os error " ++ toString code ++ ")"

/-- Why a file could not be read, in the system's words. -/
def readFailure (e : IO.Error) : String :=
  match e with
  | .noFileOrDirectory _ code _ => osErrorText code (toString e)
  | .permissionDenied _ code _ => osErrorText code (toString e)
  | .inappropriateType _ code _ => osErrorText code (toString e)
  | .invalidArgument _ code _ => osErrorText code (toString e)
  | .noSuchThing _ code _ => osErrorText code (toString e)
  | .otherError code _ => osErrorText code (toString e)
  | _ => toString e

/-- Reads a named input: `-` takes what is left of standard input, anything else is a file. -/
def readInput (stdinRead : IO.Ref Bool) (path : String) : IO Source := do
  let bytes ← if path == "-" then
      if ← stdinRead.get then pure (some ByteArray.empty)
      else
        stdinRead.set true
        pure (some (← (← IO.getStdin).readBinToEnd))
    else
      try pure (some (← IO.FS.readBinFile path))
      catch e => return .error (readFailure e)
  match bytes.bind String.fromUTF8? with
  | some text => pure (.ok text)
  | none => pure (.error "stream did not contain valid UTF-8")

end LuaIntrospect.Inspector

open LuaIntrospect.Inspector in
/-- Runs the command line and exits with its status. -/
def main (args : List String) : IO UInt32 := do
  let outcome ← match readArgs args with
    | .help text => pure (Outcome.mk 0 text "")
    | .usageError text => pure (Outcome.mk 2 "" text)
    | .run inv => do
      let stdinRead ← IO.mkRef false
      let configSource ← match inv.config with
        | some path => readInput stdinRead path
        | none => pure (.ok "")
      let snapshotSource ← readInput stdinRead inv.command.snapshotPath
      pure (execute inv configSource snapshotSource)
  IO.print outcome.stdout
  IO.eprint outcome.stderr
  pure outcome.status.toUInt32
