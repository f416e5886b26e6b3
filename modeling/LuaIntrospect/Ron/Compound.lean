import LuaIntrospect.Ron.Token
/-!
Compound RON values: options `Some(x)` and `None`, lists `[a, b]`, tuples `(a, b)`, structs
`Name(field: value)` whose name may be left out, enum variants `Name` and `Name(x)`, and maps.
Elements are separated by commas and a trailing comma is allowed. Fields a struct does not know
are read as any value and dropped; a known field given twice, or a required one missing, is an
error that names the struct.

Every group and every value inside one takes a level of the nesting budget while it is read, so
nesting deeper than `recursionLimit` levels is refused. A text may open with attributes
`#![enable(...)]`; of the extensions they name, `implicit_some` lets a value stand for `Some` of
itself.
-/
namespace LuaIntrospect.Ron

-- `^` is the core power even with other instances in scope; numeral exponents are typed for it
attribute [local instance (high)] instPowNat

/-- Runs a reader and keeps its failure as a value, at the position the failure left. -/
def tryRead (x : Read α) : Read (Except RonError α) := fun s =>
  match x s with
  | .ok a s => .ok (.ok a) s
  | .error e s => .ok (.error e) s

/-- Runs a reader one level deeper: the level is taken from the nesting budget and given back
when the reader succeeds; with no level left, reading fails. -/
def nested (x : Read α) : Read α := do
  let c ← get
  match c.depthLeft with
  | 0 => throw .exceededRecursionLimit
  | left + 1 =>
    set { c with depthLeft := left }
    let v ← x
    modify fun c => { c with depthLeft := c.depthLeft + 1 }
    pure v

/-- Whether a group has a next element before its closing byte; after an element without a
comma the group must close. -/
def hasElement (terminator : UInt8) (hadComma : Bool) : Read Bool := do
  skipWs
  let b ← peekOrEof
  if hadComma then pure (b != terminator)
  else if b == terminator then pure false
  else throw .expectedComma

/-- Reads the value after a field or key: a colon and the value. -/
def nextValue (x : Read α) : Read α := do
  skipWs
  if ← consume ":" then
    skipWs
    nested x
  else throw .expectedMapColon

def elements (terminator : UInt8) (elem : Read α) : Nat → Bool → List α → Read (List α)
  | 0, _, acc => pure acc.reverse
  | fuel + 1, hadComma, acc => do
    if ← hasElement terminator hadComma then
      let v ← nested elem
      let c ← comma
      elements terminator elem fuel c (v :: acc)
    else pure acc.reverse

/-- Reads a list `[a, b, ...]`. -/
def list (elem : Read α) : Read (List α) := do
  if ← consume "[" then
    let items ← nested (elements 93 elem (remaining (← get) + 1) true [])
    let _ ← comma
    if ← consume "]" then pure items else throw .expectedArrayEnd
  else throw .expectedArray

/-- Reads `None` or `Some(x)`; with `implicit_some` enabled, any other value is read as `x` and
stands for `Some(x)`. -/
def option (inner : Read α) : Read (Option α) := do
  if ← consume "None" then pure none
  else
    let opened ← do
      if ← consume "Some" then
        skipWs
        consume "("
      else pure false
    if opened then
      skipWs
      let v ← nested inner
      let _ ← comma
      if ← consume ")" then pure (some v) else throw .expectedOptionEnd
    else if (← get).implicitSome then some <$> nested inner
    else throw .expectedOption

/-- Reads a pair `(a, b)`; a pair with fewer elements is refused by its length. -/
def pair (first : Read α) (second : Read β) : Read (α × β) := do
  if ← consume "(" then
    let v ← nested do
      if !(← hasElement 41 true) then throw (.expectedDifferentLength "a tuple of size 2" 0)
      let a ← nested first
      let c ← comma
      if !(← hasElement 41 c) then throw (.expectedDifferentLength "a tuple of size 2" 1)
      let b ← nested second
      let _ ← comma
      pure (a, b)
    if ← consume ")" then pure v else throw .expectedStructLikeEnd
  else throw .expectedStructLike

/-- Reads the optional name in front of a struct and checks it, in plain or raw form: a struct
without a name of its own takes none, and anything in place of the name that is no identifier is
refused as a missing opening parenthesis. -/
def structName (name : String) : Read Bool := do
  if checkIdent (← get) "" then return false
  if ← consumeIdent name then return true
  match ← tryRead identifier with
  | .ok found =>
    if name.isEmpty then throw (.expectedNamedStructLike name)
    if found != name then throw (.expectedDifferentStructName name found)
    pure true
  | .error _ => throw (.expectedNamedStructLike name)

/-- Names the struct in an error about its fields. -/
def withOuter (name : String) (x : Read α) : Read α := fun s =>
  let outer := if name.isEmpty then none else some name
  match x s with
  | .error (.missingStructField f none) s => .error (.missingStructField f outer) s
  | .error (.duplicateStructField f none) s => .error (.duplicateStructField f outer) s
  | r => r

def variant (enumName : String) (variants : List String) : Read String := do
  skipWs
  let found ← identifier
  if found ∈ variants then pure found
  else throw (.noSuchEnumVariant variants found (if enumName.isEmpty then none else some enumName))

/-- Reads a value of an enum: its variant name, then what `content` reads for that variant. -/
def enumeration (enumName : String) (variants : List String) (content : String → Read α) :
    Read α :=
  nested do content (← variant enumName variants)

/-- Reads the parenthesized content of a variant with one value. -/
def variantContent (x : Read α) : Read α := do
  skipWs
  if ← consume "(" then
    skipWs
    let v ← nested x
    let _ ← comma
    if ← consume ")" then pure v else throw .expectedStructLikeEnd
  else throw .expectedStructLike

def charLiteral : Read Unit := do
  if !(← consume "'") then throw .expectedChar
  let b ← peekOrEof
  if b == 92 then
    advance 1
    let _ ← escape
  else
    let c ← get
    let window := ((c.src.toList.drop c.pos).take 5)
    match window.findIdx? (· == 39) with
    | none => throw .expectedChar
    | some i =>
      let s ← textOf (window.take i)
      if s.length != 1 then throw .expectedChar
      advance i
  if !(← consume "'") then throw .expectedChar

/-- Whether a number here reads as a float: more float bytes than integer bytes follow. -/
def looksLikeFloat (c : Cursor) : Bool :=
  let skip := match byteAt c 0 with
    | some 43 | some 45 => 1
    | _ => 0
  let rest := (c.src.toList.drop (c.pos + skip))
  (rest.takeWhile isFloatByte).length > (rest.takeWhile isIntByte).length

/-- Reads a number of any kind: a float if it looks like one, else an integer, else a float. -/
def anyNumber : Read Unit := do
  let saved ← get
  let first ← peekOrEof
  if looksLikeFloat saved then
    let _ ← float
  else
    let r ← if first == 43 || first == 45 then
        tryRead (do let _ ← signedInteger (-2 ^ (63 : Nat)) (2 ^ (63 : Nat) - 1))
      else tryRead (do let _ ← unsignedInteger (2 ^ (64 : Nat) - 1))
    match r with
    | .ok _ => pure ()
    | .error _ =>
      -- the input goes back to the number, while line and column stay where the integer ended
      modify fun c => { c with pos := saved.pos }
      let _ ← float

mutual

/-- Whether the parenthesis at the position opens a tuple: it does unless a field name and a
colon follow. The position does not move, and a failure while looking is reported at the
parenthesis. -/
def opensTuple : Read Bool := fun c =>
  let look : Read Bool := do
    advance 1
    skipWs
    match ← tryRead identifier with
    | .error _ => pure true
    | .ok _ =>
      skipWs
      pure ((← peekOrEof) != 58)
  match look c with
  | .ok v _ => .ok v c
  | .error e _ => .error e c

/-- Fuel for skipping a value: more than the nesting budget lets a value use. -/
def skipFuel : Nat := 4 * recursionLimit + 8

def ignoredAny : Nat → Read Unit
  | 0 => throw .exceededRecursionLimit
  | fuel + 1 => do
    if ← consumeIdent "true" then return
    if ← consumeIdent "false" then return
    if checkIdent (← get) "Some" then
      let _ ← option (ignoredAny fuel)
      return
    if ← consumeIdent "None" then return
    if ← consume "()" then return
    if ← consumeIdent "inf" then return
    if ← consumeIdent "-inf" then return
    if ← consumeIdent "NaN" then return
    let saved ← get
    match ← tryRead identifier with
    | .ok _ =>
      skipWs
      anyStruct fuel
    | .error _ =>
      set saved
      let b ← peekOrEof
      if b == 40 then anyStruct fuel
      else if b == 91 then
        let _ ← list (ignoredAny fuel)
      else if b == 123 then anyMap fuel
      else if (b ≥ 48 && b ≤ 57) || b == 43 || b == 45 then anyNumber
      else if b == 46 then
        let _ ← float
      else if b == 34 || b == 114 then
        let _ ← string
      else if b == 39 then charLiteral
      else throw (.unexpectedByte (Char.ofNat b.toNat))

/-- Reads a struct, a tuple, or nothing, after an optional name. -/
def anyStruct : Nat → Read Unit
  | 0 => throw .exceededRecursionLimit
  | fuel + 1 => do
    if startsWith (← get) "(" then
      if ← opensTuple then
        let _ ← consume "("
        let _ ← nested (elements 41 (ignoredAny fuel) (remaining (← get) + 1) true [])
        if !(← consume ")") then throw .expectedStructLikeEnd
      else
        let _ ← structName ""
        skipWs
        let _ ← consume "("
        nested (anyFields fuel (remaining (← get) + 1) true)
        let _ ← comma
        if !(← consume ")") then throw .expectedStructLikeEnd
    else pure ()

/-- Reads and drops the fields of a struct up to its closing parenthesis. -/
def anyFields : Nat → Nat → Bool → Read Unit
  | 0, _, _ => throw .exceededRecursionLimit
  | _ + 1, 0, _ => pure ()
  | fuel + 1, count + 1, hadComma => do
    if ← hasElement 41 hadComma then
      let _ ← nested identifier
      nextValue (ignoredAny fuel)
      let c ← comma
      anyFields (fuel + 1) count c
    else pure ()

/-- Reads and drops a map `{k: v, ...}`. -/
def anyMap : Nat → Read Unit
  | 0 => throw .exceededRecursionLimit
  | fuel + 1 => do
    if !(← consume "\x7b") then throw .expectedMap
    nested (anyEntries fuel (remaining (← get) + 1) true)
    let _ ← comma
    if !(← consume "\x7d") then throw .expectedMapEnd

/-- Reads and drops map entries up to the closing brace. -/
def anyEntries : Nat → Nat → Bool → Read Unit
  | 0, _, _ => throw .exceededRecursionLimit
  | _ + 1, 0, _ => pure ()
  | fuel + 1, count + 1, hadComma => do
    if ← hasElement 125 hadComma then
      nested (ignoredAny fuel)
      nextValue (ignoredAny fuel)
      let c ← comma
      anyEntries (fuel + 1) count c
    else pure ()

end

/-- A struct's known fields: their names and how each one's value is read into the result. -/
structure Fields (σ : Type) where
  names : List String
  read : String → σ → Read σ

/-- Reads the fields of a struct up to its closing parenthesis. -/
def fieldEntries (fields : Fields σ) : Nat → Bool → List String → σ → Read σ
  | 0, _, _, st => pure st
  | fuel + 1, hadComma, seen, st => do
    if ← hasElement 41 hadComma then
      let key ← nested identifier
      if key ∈ fields.names then
        if key ∈ seen then throw (.duplicateStructField key none)
        let st ← nextValue (fields.read key st)
        let c ← comma
        fieldEntries fields fuel c (key :: seen) st
      else
        nextValue (ignoredAny skipFuel)
        let c ← comma
        fieldEntries fields fuel c seen st
    else pure st

/-- Reads a struct `Name(field: value, ...)`: the name may be left out; `finish` turns the read
fields into the value, or names a missing field. -/
def struct (name : String) (fields : Fields σ) (init : σ) (finish : σ → Except RonError α) :
    Read α := do
  let _ ← structName name
  skipWs
  if ← consume "(" then
    let v ← withOuter name <| nested do
      let st ← fieldEntries fields (remaining (← get) + 1) true [] init
      match finish st with
      | .ok v => pure v
      | .error e => throw e
    let _ ← comma
    if ← consume ")" then pure v else throw .expectedStructLikeEnd
  else if name.isEmpty then throw .expectedStructLike
  else throw (.expectedNamedStructLike name)

/-- A position in a text: 1-based line and byte column. -/
structure Position where
  line : Nat
  col : Nat
  deriving DecidableEq, Repr

/-- Moves past each of the given texts that the input continues with, in turn, skipping blanks
after each; says whether all of them were there. -/
def consumeAll (texts : List String) : Read Bool :=
  texts.foldlM (fun all t => do
    let found ← consume t
    if found then skipWs
    pure (all && found)) true

def enableExtension (name : String) : Read Unit :=
  match name with
  | "implicit_some" => modify fun c => { c with implicitSome := true }
  | "unwrap_newtypes" | "unwrap_variant_newtypes" => pure ()
  | other => throw (.noSuchExtension other)

/-- Reads the comma-separated extension names of an attribute. -/
def extensionNames : Nat → Read Unit
  | 0 => pure ()
  | fuel + 1 => do
    enableExtension (← identifier)
    let c ← comma
    let more := ((byteAt (← get) 0).map isIdentOther).getD false
    if !c && more then throw .expectedComma
    if c && more then extensionNames fuel

/-- Reads one attribute `#![enable(name, ...)]` if the input starts with `#`; says whether it
did. -/
def enableAttribute : Read Bool := do
  if (← peek?) != some 35 then return false
  if !(← consumeAll ["#", "!", "[", "enable", "("]) then throw .expectedAttribute
  skipWs
  extensionNames (remaining (← get))
  skipWs
  if ← consumeAll [")", "]"] then pure true else throw .expectedAttributeEnd

/-- Reads the attributes in front of a value, with blanks after each. -/
def attributes : Nat → Read Unit
  | 0 => pure ()
  | fuel + 1 => do
    if ← enableAttribute then
      skipWs
      attributes fuel

/-- Reads a whole text with a reader: blanks and comments may surround the value, attributes may
open it, and nothing else may follow it. -/
def readAll (x : Read α) (text : String) : Except (Position × RonError) α :=
  let whole : Read α := do
    skipWs
    attributes (remaining (← get))
    let v ← x
    skipWs
    if remaining (← get) > 0 then throw .trailingCharacters
    pure v
  match whole { src := text.toUTF8 } with
  | .ok v _ => .ok v
  | .error e c => .error (⟨c.line, c.col⟩, e)

end LuaIntrospect.Ron
