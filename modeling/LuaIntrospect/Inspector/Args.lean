/-!
The inspector's command line: `moonlet [--config <CONFIG>] <COMMAND>` with the commands
`inspect <SNAPSHOT> [--what <WHAT>] [--level <LEVEL>]`, `traceback <SNAPSHOT> [-m <MESSAGE>]` and
`locals <SNAPSHOT> [--level <LEVEL>]`. Options take their value attached (`--what=nS`, `-mtext`)
or as the next word; a word after `--` is always a value. A value is checked, and a repeated
option refused, when the next word is handled or the words run out, so a later unknown word is
reported first. Usage errors print a message, tips, the usage line and a pointer to `--help`.
-/
namespace LuaIntrospect.Inspector

-- `^` is the core power even with other instances in scope; numeral exponents are typed for it
attribute [local instance (high)] instPowNat

structure OptionSpec where
  id : String
  long : String
  short : Option Char := none
  valueName : String
  help : String
  default : Option String := none

/-- The text of an option in messages: `--long <VALUE>`. -/
def OptionSpec.display (o : OptionSpec) : String := "--" ++ o.long ++ " <" ++ o.valueName ++ ">"

inductive Subcommand where
  | inspect
  | traceback
  | locals
  deriving DecidableEq

def programName : String := "moonlet"

def configOption : OptionSpec :=
  { id := "config", long := "config", valueName := "CONFIG", help := "Runtime configuration file (RON)" }

namespace Subcommand

/-- All subcommands in the order help lists them. -/
def all : List Subcommand := [inspect, traceback, locals]

def name : Subcommand → String
  | inspect => "inspect"
  | traceback => "traceback"
  | locals => "locals"

/-- What a subcommand does, as help says it. -/
def about : Subcommand → String
  | inspect => "Print debug.getinfo for each level of a snapshot as JSON"
  | traceback => "Print debug.traceback for a snapshot"
  | locals => "List the locals visible at a level"

def snapshotHelp : Subcommand → String
  | inspect => "The snapshot file (RON), or \"-\" for stdin"
  | _ => ""

/-- A subcommand's own options, then the global one. -/
def options : Subcommand → List OptionSpec
  | inspect =>
    [{ id := "what", long := "what", valueName := "WHAT",
       help := "Fields to report, as in debug.getinfo", default := some "flnStu" },
     { id := "level", long := "level", valueName := "LEVEL",
       help := "Only report this level (1 is the most recent frame)" },
     configOption]
  | traceback =>
    [{ id := "message", long := "message", short := some 'm', valueName := "MESSAGE", help := "" },
     configOption]
  | locals =>
    [{ id := "level", long := "level", valueName := "LEVEL", help := "", default := some "1" },
     configOption]

def ofName? (s : String) : Option Subcommand := all.find? (·.name == s)

end Subcommand

inductive Command where
  | inspect (snapshot : String) (what : String) (level : Option Nat)
  | traceback (snapshot : String) (message : Option String)
  | locals (snapshot : String) (level : Nat)

/-- A command line: the settings file, if named, and the command. -/
structure Invocation where
  config : Option String
  command : Command

/-- What reading a command line gives: a command to run, text for standard output (help), or a
usage error for standard error. -/
inductive ArgsOutcome where
  | run (inv : Invocation)
  | help (text : String)
  | usageError (text : String)

section Similarity

/-- Marks the first unmarked position of `b` within `range` of `i` that holds `c`. -/
def markMatch (b : Array Char) (flags : Array Bool) (i range : Nat) (c : Char) : Option Nat :=
  (List.range b.size).find? fun j =>
    i ≤ j + range && j < i + range + 1 && b[j]? == some c && flags[j]? == some false

/-- The Jaro similarity of two words as the three ratios it averages: matches over each length,
and matches less half the transpositions over matches. Gives `(m, t)`. -/
def jaroCounts (a b : List Char) : Nat × Nat :=
  let bArr := b.toArray
  let range := (max a.length b.length / 2) - 1
  let (aFlags, bFlags) := (a.zipIdx).foldl (fun (acc : List Bool × Array Bool) (c, i) =>
    match markMatch bArr acc.2 i range c with
    | some j => (acc.1 ++ [true], acc.2.set! j true)
    | none => (acc.1 ++ [false], acc.2)) ([], Array.replicate b.length false)
  let aMatched := (a.zip aFlags).filterMap fun (c, f) => if f then some c else none
  let bMatched := (b.zip bFlags.toList).filterMap fun (c, f) => if f then some c else none
  let transposed := ((aMatched.zip bMatched).filter fun (x, y) => x != y).length
  (aMatched.length, transposed / 2)

/-- The Jaro similarity of two words in binary floating point: the three ratios are added in
order and the sum divided by three, each step rounded to the nearest double. The rounding decides
words that lie at the threshold, such as three matches between words of five and six letters. -/
def jaro (a b : String) : Float :=
  let la := a.length
  let lb := b.length
  if la = 0 ∧ lb = 0 then 1.0
  else if la = 0 ∨ lb = 0 then 0.0
  else
    let (m, t) := jaroCounts a.toList b.toList
    if m = 0 then 0.0
    else (m.toFloat / la.toFloat + m.toFloat / lb.toFloat + (m - t).toFloat / m.toFloat) / 3.0

/-- Whether two words are similar: Jaro similarity above 0.7. -/
def similar (a b : String) : Bool := 0.7 < jaro a b

/-- The candidates similar to a word, least similar first; equally similar ones keep their
order. -/
def suggestions (word : String) (candidates : List String) : List String :=
  (candidates.filter (similar word)).mergeSort fun x y => jaro word x ≤ jaro word y

end Similarity

section Messages

/-- A usage error: the message, tips, an optional usage line, and the pointer to help. -/
def usageError (message : String) (tips : List String) (usage : Option String) : String :=
  "error: " ++ message ++ "\n" ++
    (if tips.isEmpty then "" else "\n" ++ String.join (tips.map fun t => "  tip: " ++ t ++ "\n")) ++
    (match usage with | some u => "\nUsage: " ++ u ++ "\n" | none => "") ++
    "\nFor more information, try '--help'.\n"

/-- The error for an option given without its value. -/
def emptyValue (o : OptionSpec) : String :=
  usageError ("a value is required for '" ++ o.display ++ "' but none was supplied") [] none

/-- The error for a value given to a flag. -/
def unexpectedValue (value flag usage : String) : String :=
  usageError ("unexpected value '" ++ value ++ "' for '" ++ flag ++ "' found; no more were expected") []
    (some usage)

def programUsage : String := programName ++ " [OPTIONS] <COMMAND>"

/-- The usage line of the program naming the arguments used. -/
def programUsedUsage (used : List String) : String :=
  programName ++ String.join (used.map (" " ++ ·)) ++ " <COMMAND>"

def Subcommand.usage (s : Subcommand) : String := programName ++ " " ++ s.name ++ " [OPTIONS] <SNAPSHOT>"

/-- The usage line of a subcommand naming the options used and the required argument. -/
def Subcommand.usedUsage (s : Subcommand) (used : List String) : String :=
  programName ++ " " ++ s.name ++ String.join (used.map (" " ++ ·)) ++ " <SNAPSHOT>"

/-- Pads a text with blanks to a width. -/
def padTo (width : Nat) (s : String) : String := s ++ String.ofList (List.replicate (width - s.length) ' ')

/-- A help line: the entry padded to the widest entry of its section, two blanks, then its help;
the blanks are written even when there is no help. -/
def helpLine (width : Nat) (entry help : String) : String := padTo width entry ++ "  " ++ help

/-- The option lines of a help text: short form or blanks, long form and value, and help with the
default value. -/
def optionLines (opts : List OptionSpec) (extra : List (String × String)) : List String :=
  let entries := opts.map fun o =>
    let lead := match o.short with
      | some c => "  -" ++ String.singleton c ++ ", "
      | none => "      "
    let help := match o.default with
      | some d => if o.help.isEmpty then "[default: " ++ d ++ "]" else o.help ++ " [default: " ++ d ++ "]"
      | none => o.help
    (lead ++ o.display, help)
  let all := entries ++ extra
  let width := all.foldl (fun w e => max w e.1.length) 0
  all.map fun (e, h) => helpLine width e h

def programHelp : String :=
  let cmdWidth := Subcommand.all.foldl (fun w s => max w (s.name.length + 2)) 0
  "Inspect moonlet call-stack snapshots through the debug library\n\n" ++
  "Usage: " ++ programUsage ++ "\n\n" ++
  "Commands:\n" ++
  String.join (Subcommand.all.map fun s => helpLine cmdWidth ("  " ++ s.name) s.about ++ "\n") ++
  "\nOptions:\n" ++
  String.join ((optionLines [configOption]
    [("  -h, --help", "Print help"), ("  -V, --version", "Print version")]).map (· ++ "\n"))

def versionText : String := "moonlet-cli 0.3.2 (git:unknown)\n"

/-- The options a subcommand's help lists, in its order: the global one first (it was declared
first), then the subcommand's own. -/
def Subcommand.listedOptions (s : Subcommand) : List OptionSpec :=
  configOption :: s.options.filter (·.id != "config")

def Subcommand.help (s : Subcommand) : String :=
  s.about ++ "\n\n" ++
  "Usage: " ++ s.usage ++ "\n\n" ++
  "Arguments:\n" ++ helpLine 12 "  <SNAPSHOT>" s.snapshotHelp ++ "\n\n" ++
  "Options:\n" ++
  String.join ((optionLines s.listedOptions [("  -h, --help", "Print help")]).map (· ++ "\n"))

end Messages

section Parsing

/-- Reads a machine-word count as the command line does: an optional `+` and decimal digits. -/
def parseCount (s : String) : Except String Nat :=
  let digits := match s.toList with
    | '+' :: rest => rest
    | cs => cs
  if s.isEmpty then .error "cannot parse integer from empty string"
  else if digits.isEmpty || !digits.all Char.isDigit then .error "invalid digit found in string"
  else
    let n := digits.foldl (fun acc d => 10 * acc + (d.toNat - '0'.toNat)) 0
    if n ≥ 2 ^ (64 : Nat) then .error "number too large to fit in target type" else .ok n

/-- Splits the body of a long option at its first `=`: the name and the attached value. -/
def splitLong (body : String) : String × Option String :=
  match body.splitOn "=" with
  | [n] => (n, none)
  | n :: more => (n, some ("=".intercalate more))
  | [] => (body, none)

/-- The names similar to a word, the closest last. -/
def closest (word : String) (names : List String) : Option String := (suggestions word names).getLast?

/-- An argument waiting to be checked and stored: an option with the value it has so far, or the
snapshot. A value is checked when the next option or argument starts, or when the words end. -/
inductive Pending where
  | option (o : OptionSpec) (value : Option String)
  | snapshot (value : String)

structure ReadState where
  /-- The options stored so far with their values, in the order they were stored. -/
  stored : List (OptionSpec × String) := []
  /-- The snapshot, once stored. -/
  snapshot : Option String := none
  /-- Whether the snapshot was given, stored or still pending. -/
  snapshotGiven : Bool := false
  pending : Option Pending := none
  /-- Whether `--` was seen: every later word is a value. -/
  trailing : Bool := false

/-- Whether an option waits for its value, so the next word that is not an option is that value. -/
def ReadState.awaitingValue (st : ReadState) : Bool :=
  match st.pending with
  | some (.option _ none) => true
  | _ => false

/-- The options stored so far, as usage lines show them. -/
def ReadState.shown (st : ReadState) : List String := st.stored.map (·.1.display)

/-- Stores an option's value: an option given twice is refused, and a level must be a count. -/
def storeOption (s : Subcommand) (st : ReadState) (o : OptionSpec) (v : String) : Except String ReadState :=
  if st.stored.any (·.1.id == o.id) then
    .error (usageError ("the argument '" ++ o.display ++ "' cannot be used multiple times") []
      (some s.usage))
  else
    let checked : Except String Unit :=
      if o.id == "level" then
        match parseCount v with
        | .ok _ => .ok ()
        | .error reason =>
          .error (usageError ("invalid value '" ++ v ++ "' for '" ++ o.display ++ "': " ++ reason) [] none)
      else .ok ()
    checked.map fun _ => { st with stored := st.stored ++ [(o, v)] }

def resolvePending (s : Subcommand) (st : ReadState) : Except String ReadState :=
  match st.pending with
  | none => .ok st
  | some (.option o none) => .error (emptyValue o)
  | some (.option o (some v)) => storeOption s { st with pending := none } o v
  | some (.snapshot v) => .ok { st with pending := none, snapshot := some v }

/-- The pending argument stored as far as it can be, for a usage line: a missing value leaves it
out, and an option given a second time is left out altogether. -/
def settlePending (st : ReadState) : ReadState :=
  match st.pending with
  | none => st
  | some (.option _ none) => { st with pending := none }
  | some (.option o (some v)) =>
    if st.stored.any (·.1.id == o.id) then
      { st with pending := none, stored := st.stored.filter (·.1.id != o.id) }
    else { st with pending := none, stored := st.stored ++ [(o, v)] }
  | some (.snapshot v) => { st with pending := none, snapshot := some v }

/-- The error for a long option the subcommand does not have. The closest similar option, if any,
is offered and counts as used in the usage line; otherwise the tip is to pass the word after `--`.
The usage line shows the arguments given before, the pending one settled. -/
def unknownLong (s : Subcommand) (st : ReadState) (name : String) : String :=
  let st := settlePending st
  let similar := closest name (s.options.map (·.long) ++ ["help"])
  let suggested := match similar with
    | some l => match s.options.find? (·.long == l) with
      | some o => if st.stored.any (·.1.id == o.id) then [] else [o.display]
      | none => ["--help"]
    | none => []
  let shown := st.shown ++ suggested
  let usage := if shown.isEmpty && st.snapshot.isNone then s.usage else s.usedUsage shown
  let tips := match similar with
    | some l => ["a similar argument exists: '--" ++ l ++ "'"]
    | none => ["to pass '--" ++ name ++ "' as a value, use '-- --" ++ name ++ "'"]
  usageError ("unexpected argument '--" ++ name ++ "' found") tips (some usage)

/-- What one word does while reading a subcommand: go on, show help, or fail. -/
inductive Step where
  | next (st : ReadState)
  | help
  | fail (text : String)

/-- Checks the pending argument, then goes on. -/
def Step.afterPending (s : Subcommand) (st : ReadState) (k : ReadState → Step) : Step :=
  match resolvePending s st with
  | .ok st => k st
  | .error e => .fail e

/-- Handles a positional word: the snapshot, or one word too many (the pending argument is then
left unchecked). -/
def readPositional (s : Subcommand) (st : ReadState) (word : String) : Step :=
  if !st.snapshotGiven then
    Step.afterPending s st fun st =>
      .next { st with pending := some (.snapshot word), snapshotGiven := true }
  else .fail (usageError ("unexpected argument '" ++ word ++ "' found") [] (some s.usage))

/-- Handles a word that is not an option: the awaited value, or a positional word. -/
def readValue (s : Subcommand) (st : ReadState) (word : String) : Step :=
  match st.pending with
  | some (.option o none) => .next { st with pending := some (.option o (some word)) }
  | _ => readPositional s st word

/-- Starts an option: with its value attached it is stored at once, else it waits for a value. -/
def startOption (s : Subcommand) (st : ReadState) (o : OptionSpec) (attached : Option String) : Step :=
  Step.afterPending s st fun st =>
    match attached with
    | some v => match storeOption s st o v with
      | .ok st => .next st
      | .error e => .fail e
    | none => .next { st with pending := some (.option o none) }

def readWord (s : Subcommand) (st : ReadState) (word : String) : Step :=
  if st.trailing then readPositional s st word
  else if word == "--" then .next { st with trailing := true }
  else match word.toList with
    | '-' :: '-' :: rest =>
      let (name, attached) := splitLong (String.ofList rest)
      if name == "help" then
        match attached with
        | some v => .fail (unexpectedValue v "--help" (s.usedUsage (st.shown ++ ["--help"])))
        | none => Step.afterPending s st fun _ => .help
      else match s.options.find? (·.long == name) with
        | some o => startOption s st o attached
        | none => .fail (unknownLong s st name)
    | '-' :: c :: rest =>
      if c == 'h' then Step.afterPending s st fun _ => .help
      else match s.options.find? (·.short == some c) with
        | some o =>
          let attached := match rest with
            | [] => none
            | '=' :: v => some (String.ofList v)
            | v => some (String.ofList v)
          startOption s st o attached
        | none =>
          let flag := "-" ++ String.singleton c
          .fail (usageError ("unexpected argument '" ++ flag ++ "' found")
            ["to pass '" ++ flag ++ "' as a value, use '-- " ++ flag ++ "'"] (some s.usage))
    | _ => readValue s st word

def readSubcommand (s : Subcommand) (config : Option String) : ReadState → List String → ArgsOutcome
  | st, [] =>
    match resolvePending s st with
    | .error e => .usageError e
    | .ok st =>
      match st.snapshot with
      | none =>
        .usageError (usageError "the following required arguments were not provided:\n  <SNAPSHOT>" []
          (some (s.usedUsage st.shown)))
      | some snapshot =>
        let value := fun id => (st.stored.find? (·.1.id == id)).map Prod.snd
        let config := (value "config").orElse fun _ => config
        let level := (value "level").bind fun v => (parseCount v).toOption
        let command := match s with
          | .inspect => Command.inspect snapshot ((value "what").getD "flnStu") level
          | .traceback => Command.traceback snapshot (value "message")
          | .locals => Command.locals snapshot (level.getD 1)
        .run ⟨config, command⟩
  | st, w :: rest =>
    match readWord s st w with
    | .next st => readSubcommand s config st rest
    | .help => .help s.help
    | .fail e => .usageError e

/-- The long options of a subcommand, in the order it knows them. -/
def Subcommand.longs (s : Subcommand) : List String := s.options.map (·.long) ++ ["help"]

/-- The long option of a subcommand named among the remaining words that is similar to a word,
with that subcommand: the subcommand named first wins. -/
def subcommandSuggestion (name : String) (rest : List String) : Option (String × Subcommand) :=
  let found := Subcommand.all.filterMap fun s =>
    match closest name s.longs, rest.idxOf? s.name with
    | some l, some i => some (i, l, s)
    | _, _ => none
  let best := found.foldl (fun (acc : Option (Nat × String × Subcommand)) x =>
    match acc with
    | some a => if x.1 < a.1 then some x else acc
    | none => some x) none
  best.map fun (_, l, s) => (l, s)

/-- The state of reading the words before the subcommand. -/
structure ProgramState where
  /-- The settings file, once stored. -/
  config : Option String := none
  /-- The settings option waiting for its value, or holding it unchecked. -/
  pending : Option (Option String) := none
  trailing : Bool := false

/-- The arguments stored so far, as usage lines show them. -/
def ProgramState.shown (st : ProgramState) : List String :=
  if st.config.isSome then [configOption.display] else []

def resolveConfig (st : ProgramState) : Except String ProgramState :=
  match st.pending with
  | none => .ok st
  | some none => .error (emptyValue configOption)
  | some (some v) =>
    if st.config.isSome then
      .error (usageError ("the argument '" ++ configOption.display ++ "' cannot be used multiple times")
        [] (some programUsage))
    else .ok { st with config := some v, pending := none }

/-- The pending settings file stored as far as it can be, for a usage line: a missing value
leaves it out, and a second one leaves out both. -/
def settleConfig (st : ProgramState) : ProgramState :=
  match st.pending with
  | some (some v) =>
    { st with pending := none, config := if st.config.isSome then none else some v }
  | _ => { st with pending := none }

/-- The error for a long option the program does not have: a similar option of the program, or
of a subcommand named later, is offered; otherwise there is no tip, as the program takes no
positional words. The usage line shows the settings file if it was given. -/
def unknownProgramLong (st : ProgramState) (name : String) (rest : List String) : String :=
  let st := settleConfig st
  let message := "unexpected argument '--" ++ name ++ "' found"
  match closest name ["config", "help", "version"] with
  | some l =>
    let suggested := if l == "config" then (if st.config.isSome then [] else [configOption.display])
      else ["--" ++ l]
    usageError message ["a similar argument exists: '--" ++ l ++ "'"]
      (some (programUsedUsage (st.shown ++ suggested)))
  | none =>
    let usage := if st.config.isSome then programUsedUsage st.shown else programUsage
    match subcommandSuggestion name rest with
    | some (l, s) => usageError message ["'" ++ s.name ++ " --" ++ l ++ "' exists"] (some usage)
    | none => usageError message [] (some usage)

/-- The error for a word that names no subcommand, with similar names as a tip. -/
def unrecognizedSubcommand (st : ProgramState) (word : String) : String :=
  let message := "unrecognized subcommand '" ++ word ++ "'"
  if st.trailing && (Subcommand.ofName? word).isSome then
    usageError ("unexpected argument '" ++ word ++ "' found")
      ["subcommand '" ++ word ++ "' exists; to use it, remove the '--' before it"] (some programUsage)
  else match suggestions word (Subcommand.all.map (·.name)) with
    | [] => usageError message [] (some programUsage)
    | [c] => usageError message ["a similar subcommand exists: '" ++ c ++ "'"] (some programUsage)
    | cs => usageError message
      ["some similar subcommands exist: " ++ ", ".intercalate (cs.map fun c => "'" ++ c ++ "'")]
      (some programUsage)

/-- Reads the words before the subcommand: the settings file, help and version. -/
def readProgram (st : ProgramState) : List String → ArgsOutcome
  | [] =>
    match resolveConfig st with
    | .error e => .usageError e
    | .ok st =>
      if st.config.isNone then .usageError programHelp
      else
        .usageError (usageError ("'" ++ programName ++ "' requires a subcommand but one was not provided\n  [subcommands: " ++
          ", ".intercalate (Subcommand.all.map (·.name)) ++ "]") [] (some programUsage))
  | w :: rest =>
    let afterConfig := fun (k : ProgramState → ArgsOutcome) =>
      match resolveConfig st with
      | .ok st => k st
      | .error e => .usageError e
    let awaiting := st.pending == some none
    let asValue := fun (_ : Unit) =>
      if awaiting && !st.trailing then readProgram { st with pending := some (some w) } rest
      else
        match (Subcommand.ofName? w).filter fun _ => !st.trailing with
        | some s => afterConfig fun st => readSubcommand s st.config {} rest
        | none => .usageError (unrecognizedSubcommand st w)
    if st.trailing then asValue ()
    else if !awaiting && (Subcommand.ofName? w).isSome then asValue ()
    else if w == "--" then readProgram { st with trailing := true } rest
    else match w.toList with
      | '-' :: '-' :: body =>
        let (name, attached) := splitLong (String.ofList body)
        if name == "config" then
          afterConfig fun st => match attached with
            | some v =>
              if st.config.isSome then
                .usageError (usageError ("the argument '" ++ configOption.display ++
                  "' cannot be used multiple times") [] (some programUsage))
              else readProgram { st with config := some v } rest
            | none => readProgram { st with pending := some none } rest
        else if name == "help" || name == "version" then
          match attached with
          | some v => .usageError (unexpectedValue v ("--" ++ name) (programUsedUsage (st.shown ++ ["--" ++ name])))
          | none => afterConfig fun _ => .help (if name == "help" then programHelp else versionText)
        else .usageError (unknownProgramLong st name rest)
      | '-' :: c :: _ =>
        if c == 'h' then afterConfig fun _ => .help programHelp
        else if c == 'V' then afterConfig fun _ => .help versionText
        else .usageError (usageError ("unexpected argument '-" ++ String.singleton c ++ "' found") []
          (some programUsage))
      | _ => asValue ()

/-- Reads a command line, the program's name left out. -/
def readArgs (words : List String) : ArgsOutcome := readProgram {} words

end Parsing

end LuaIntrospect.Inspector
