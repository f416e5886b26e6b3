import LuaIntrospect.Decimal.Read
/-!
Reading RON, the Rusty Object Notation that stack snapshots are written in. Reading is driven by
the type expected at each point, and a failure reports the line and byte column the reader had
reached. The reader skips blanks and `//` and nested `/* */` comments between tokens, reads
identifiers (raw ones as `r#name`), strings with escapes and raw strings, integers in bases 2, 8,
10 and 16 with `_` separators, floats, options, lists, tuples, structs, enums, and skips values
of fields it does not know.
-/
namespace LuaIntrospect.Ron

inductive RonError where
  | eof
  | expectedArray
  | expectedArrayEnd
  | expectedBoolean
  | expectedComma
  | expectedChar
  | expectedFloat
  | floatUnderscore
  | expectedInteger
  | expectedOption
  | expectedOptionEnd
  | expectedMap
  | expectedMapColon
  | expectedMapEnd
  | expectedDifferentStructName (expected found : String)
  | expectedStructLike
  | expectedNamedStructLike (name : String)
  | expectedStructLikeEnd
  | expectedString
  | expectedStringEnd
  | expectedIdentifier
  | invalidEscape (message : String)
  | integerOutOfBounds
  | unclosedBlockComment
  | underscoreAtBeginning
  | unexpectedByte (c : Char)
  | trailingCharacters
  | noSuchEnumVariant (expected : List String) (found : String) (outer : Option String)
  | missingStructField (field : String) (outer : Option String)
  | duplicateStructField (field : String) (outer : Option String)
  | suggestRawIdentifier (identifier : String)
  | expectedDifferentLength (expected : String) (found : Nat)
  | invalidUtf8
  | exceededRecursionLimit
  | expectedAttribute
  | expectedAttributeEnd
  | noSuchExtension (name : String)

def isIdentFirst (b : UInt8) : Bool :=
  (b ≥ 65 && b ≤ 90) || (b ≥ 97 && b ≤ 122) || b == 95

def isIdentOther (b : UInt8) : Bool := isIdentFirst b || (b ≥ 48 && b ≤ 57)

/-- A byte that may stand in a raw identifier. -/
def isIdentRaw (b : UInt8) : Bool := isIdentOther b || b == 46 || b == 43 || b == 45

/-- A byte of an integer: a hexadecimal digit or `_`. -/
def isIntByte (b : UInt8) : Bool :=
  (b ≥ 48 && b ≤ 57) || (b ≥ 97 && b ≤ 102) || (b ≥ 65 && b ≤ 70) || b == 95

/-- A byte of a float: a digit, `e`, `E`, `.`, `+`, `-` or `_`. -/
def isFloatByte (b : UInt8) : Bool :=
  (b ≥ 48 && b ≤ 57) || b == 101 || b == 69 || b == 46 || b == 43 || b == 45 || b == 95

/-- A blank byte: space, tab, newline or carriage return. Vertical tab and form feed are not
blanks. -/
def isBlank (b : UInt8) : Bool := b == 32 || b == 9 || b == 10 || b == 13

/-- How a name appears in a message: in backticks, as `r#name` when it needs the raw form, and
quoted when it is no identifier at all. -/
def identifierText (s : String) : String :=
  let bytes := s.toUTF8.toList
  if bytes.isEmpty || !bytes.all isIdentRaw then
    "\"" ++ s ++ "\"_[invalid identifier]"
  else match bytes with
    | b :: rest =>
      if isIdentFirst b && rest.all isIdentOther then "`" ++ s ++ "`" else "`r#" ++ s ++ "`"
    | [] => "`" ++ s ++ "`"

/-- How a list of alternatives ends a message. -/
def oneOf (alts : List String) (none : String) : String :=
  match alts with
  | [] => "there are no " ++ none
  | [a] => "expected " ++ identifierText a ++ " instead"
  | [a, b] => "expected either " ++ identifierText a ++ " or " ++ identifierText b ++ " instead"
  | a :: rest =>
    "expected one of " ++ identifierText a ++ String.join (rest.map (", " ++ identifierText ·)) ++
      " instead"

/-- A character as a message shows it: in single quotes, with the quote, the backslash, tab, line
breaks and the null character escaped, and other characters that do not print written as their
code in hexadecimal. -/
def charText (c : Char) : String :=
  let n := c.toNat
  let body :=
    if c = '\\' then "\\\\"
    else if c = '\'' then "\\'"
    else if n = 0 then "\\0"
    else if c = '\t' then "\\t"
    else if c = '\r' then "\\r"
    else if c = '\n' then "\\n"
    else if n < 32 ∨ (127 ≤ n ∧ n ≤ 160) ∨ n = 173 then
      "\\u\x7b" ++ String.ofList (Nat.toDigits 16 n) ++ "\x7d"
    else String.singleton c
  "'" ++ body ++ "'"

def RonError.message : RonError → String
  | .eof => "Unexpected end of RON"
  | .expectedArray => "Expected opening `[`"
  | .expectedArrayEnd => "Expected closing `]`"
  | .expectedBoolean => "Expected boolean"
  | .expectedComma => "Expected comma"
  | .expectedChar => "Expected char"
  | .expectedFloat => "Expected float"
  | .floatUnderscore => "Unexpected underscore in float"
  | .expectedInteger => "Expected integer"
  | .expectedOption => "Expected option"
  | .expectedOptionEnd => "Expected closing `)`"
  | .expectedMap => "Expected opening `\x7b`"
  | .expectedMapColon => "Expected colon"
  | .expectedMapEnd => "Expected closing `\x7d`"
  | .expectedDifferentStructName expected found =>
    "Expected struct " ++ identifierText expected ++ " but found " ++ identifierText found
  | .expectedStructLike => "Expected opening `(`"
  | .expectedNamedStructLike name =>
    if name.isEmpty then "Expected only opening `(`, no name, for un-nameable struct"
    else "Expected opening `(` for struct " ++ identifierText name
  | .expectedStructLikeEnd => "Expected closing `)`"
  | .expectedString => "Expected string"
  | .expectedStringEnd => "Expected end of string"
  | .expectedIdentifier => "Expected identifier"
  | .invalidEscape message => message
  | .integerOutOfBounds => "Integer is out of bounds"
  | .unclosedBlockComment => "Unclosed block comment"
  | .underscoreAtBeginning => "Unexpected leading underscore in an integer"
  | .unexpectedByte c => "Unexpected byte " ++ charText c
  | .trailingCharacters => "Non-whitespace trailing characters"
  | .noSuchEnumVariant expected found outer =>
    "Unexpected " ++ (if outer.isNone then "enum " else "") ++ "variant named " ++
      identifierText found ++
      (match outer with | some o => "in enum " ++ identifierText o | none => "") ++
      ", " ++ oneOf expected "variants"
  | .missingStructField field outer =>
    "Unexpected missing field " ++ identifierText field ++
      (match outer with | some o => " in " ++ identifierText o | none => "")
  | .duplicateStructField field outer =>
    "Unexpected duplicate field " ++ identifierText field ++
      (match outer with | some o => " in " ++ identifierText o | none => "")
  | .suggestRawIdentifier identifier =>
    "Found invalid std identifier `" ++ identifier ++ "`, try the raw identifier `r#" ++
      identifier ++ "` instead"
  | .expectedDifferentLength expected found =>
    "Expected " ++ expected ++ " but found " ++
      (match found with
       | 0 => "zero elements"
       | 1 => "one element"
       | n => toString n ++ " elements") ++ " instead"
  | .invalidUtf8 => "invalid utf-8 sequence"
  | .exceededRecursionLimit =>
    "Exceeded recursion limit, try increasing the limit and using `serde_stacker` to protect " ++
      "against a stack overflow"
  | .expectedAttribute => "Expected an `#![enable(...)]` attribute"
  | .expectedAttributeEnd => "Expected closing `)]` after the enable attribute"
  | .noSuchExtension name => "No RON extension named " ++ identifierText name

def recursionLimit : Nat := 128

/-- The reading position: the input, the byte offset, and the 1-based line and byte column; how
many more levels values may nest; and whether a value may stand for `Some` of itself. -/
structure Cursor where
  src : ByteArray
  pos : Nat := 0
  line : Nat := 1
  col : Nat := 1
  depthLeft : Nat := recursionLimit
  implicitSome : Bool := false

/-- Steps of reading; a failure keeps the position it happened at. -/
abbrev Read := EStateM RonError Cursor

section Primitives

/-- The byte at an offset from the position. -/
def byteAt (c : Cursor) (i : Nat) : Option UInt8 := c.src[c.pos + i]?

def remaining (c : Cursor) : Nat := c.src.size - c.pos

/-- The next byte, if any. -/
def peek? : Read (Option UInt8) := do pure (byteAt (← get) 0)

/-- The next byte; the end of the input is an error. -/
def peekOrEof : Read UInt8 := do
  match ← peek? with
  | some b => pure b
  | none => throw .eof

/-- Moves past one byte, counting lines and columns. -/
def stepOne (c : Cursor) : Cursor :=
  match byteAt c 0 with
  | some 10 => { c with pos := c.pos + 1, line := c.line + 1, col := 1 }
  | some _ => { c with pos := c.pos + 1, col := c.col + 1 }
  | none => c

/-- Moves past `n` bytes. -/
def advance (n : Nat) : Read Unit := modify fun c => Nat.repeat stepOne n c

def eatByte : Read UInt8 := do
  let b ← peekOrEof
  advance 1
  pure b

/-- The length of the run of bytes from the position that satisfy a test. -/
def runLength (c : Cursor) (p : UInt8 → Bool) : Nat :=
  ((c.src.toList.drop c.pos).takeWhile p).length

/-- Whether the input continues with the given bytes. -/
def startsWith (c : Cursor) (s : String) : Bool :=
  let bs := s.toUTF8.toList
  (List.range bs.length).all fun i => byteAt c i == bs[i]?

/-- Moves past a literal text if the input continues with it. -/
def consume (s : String) : Read Bool := do
  if startsWith (← get) s then
    advance s.utf8ByteSize
    pure true
  else pure false

/-- Whether the input continues with a word that no identifier byte follows. -/
def checkIdent (c : Cursor) (s : String) : Bool :=
  startsWith c s && !((byteAt c s.utf8ByteSize).map isIdentOther).getD false

def consumeIdent (s : String) : Read Bool := do
  if checkIdent (← get) s then
    advance s.utf8ByteSize
    pure true
  else pure false

/-- Skips the inside of a block comment, nested ones included. -/
def skipBlock : Nat → Nat → Read Unit
  | 0, _ => throw .unclosedBlockComment
  | _, 0 => pure ()
  | fuel + 1, level + 1 => do
    let c ← get
    if remaining c = 0 then throw .unclosedBlockComment
    advance (runLength c fun b => b != 47 && b != 42)
    if ← consume "/*" then skipBlock fuel (level + 2)
    else if ← consume "*/" then skipBlock fuel level
    else if remaining (← get) = 0 then throw .unclosedBlockComment
    else
      advance 1
      skipBlock fuel (level + 1)

def skipComment : Read Bool := do
  if ← consume "/" then
    let b ← peekOrEof
    advance 1
    if b == 47 then
      advance (runLength (← get) (· != 10))
    else if b == 42 then
      skipBlock (remaining (← get) + 1) 1
    else throw (.unexpectedByte (Char.ofNat b.toNat))
    pure true
  else pure false

def skipWsFuel : Nat → Read Unit
  | 0 => pure ()
  | fuel + 1 => do
    advance (runLength (← get) isBlank)
    if ← skipComment then skipWsFuel fuel else pure ()

def skipWs : Read Unit := do skipWsFuel (remaining (← get) + 1)

/-- Moves past a comma and the blanks around it, if there is one. -/
def comma : Read Bool := do
  skipWs
  if ← consume "," then
    skipWs
    pure true
  else pure false

/-- The text of some bytes, which must be UTF-8. -/
def textOf (bytes : List UInt8) : Read String :=
  match String.fromUTF8? (ByteArray.mk bytes.toArray) with
  | some s => pure s
  | none => throw .invalidUtf8

/-- Reads an identifier. A run that is only valid as a raw identifier is refused with a hint. -/
def identifier : Read String := do
  let c ← get
  let next ← peekOrEof
  if !isIdentFirst next then
    if isIdentRaw next then
      let n := runLength c isIdentRaw
      throw (.suggestRawIdentifier (← textOf ((c.src.toList.drop c.pos).take n)))
    throw .expectedIdentifier
  if next == 114 then
    match byteAt c 1 with
    | none => throw .eof
    | some 34 => throw .expectedIdentifier
    | some 35 =>
      let after := (byteAt c 2).getD 0
      if !isIdentRaw after then throw .expectedIdentifier
      advance 2
      let c ← get
      let n := runLength c isIdentRaw
      advance n
      textOf ((c.src.toList.drop c.pos).take n)
    | some _ => plain c
  else plain c
where
  plain (c : Cursor) : Read String := do
    let std := runLength c isIdentOther
    let raw := runLength c isIdentRaw
    if raw > std then
      throw (.suggestRawIdentifier (← textOf ((c.src.toList.drop c.pos).take raw)))
    advance std
    textOf ((c.src.toList.drop c.pos).take std)

def hexValue (b : UInt8) : Option Nat :=
  if b ≥ 48 && b ≤ 57 then some (b.toNat - 48)
  else if b ≥ 97 && b ≤ 102 then some (b.toNat - 87)
  else if b ≥ 65 && b ≤ 70 then some (b.toNat - 55)
  else none

def hexDigit : Read Nat := do
  match hexValue (← eatByte) with
  | some d => pure d
  | none => throw (.invalidEscape "Non-hex digit found")

/-- Reads up to six hexadecimal digits of a Unicode escape, stopping at `}`. -/
def unicodeDigits : Nat → Nat → Nat → Read (Nat × Nat)
  | 0, acc, n => pure (acc, n)
  | fuel + 1, acc, n => do
    let b ← peekOrEof
    if b == 125 then pure (acc, n)
    else
      advance 1
      match hexValue b with
      | some d => unicodeDigits fuel (acc * 16 + d) (n + 1)
      | none => throw (.invalidEscape "Non-hex digit found")

/-- Reads the rest of an escape after its backslash, giving the bytes of the character it stands
for; `\xNN` stands for the character of code NN. -/
def escape : Read (List UInt8) := do
  match ← eatByte with
  | 39 => pure [39]
  | 34 => pure [34]
  | 92 => pure [92]
  | 110 => pure [10]
  | 114 => pure [13]
  | 116 => pure [9]
  | 48 => pure [0]
  | 120 =>
    let hi ← hexDigit
    let lo ← hexDigit
    pure (String.singleton (Char.ofNat (hi * 16 + lo))).toUTF8.toList
  | 117 =>
    if (← eatByte) != 123 then throw (.invalidEscape "Missing \x7b in Unicode escape")
    let (code, n) ← unicodeDigits 6 0 0
    if n = 0 then throw (.invalidEscape "Expected 1-6 digits, got 0 digits in Unicode escape")
    if (← eatByte) != 125 then throw (.invalidEscape "No \x7d at the end of Unicode escape")
    if code > 0x10FFFF ∨ (0xD800 ≤ code ∧ code ≤ 0xDFFF) then
      throw (.invalidEscape "Not a valid char")
    pure (String.singleton (Char.ofNat code)).toUTF8.toList
  | _ => throw (.invalidEscape "Unknown escape character")

/-- Reads the rest of a quoted string after its opening quote. -/
def quotedRest : Nat → List UInt8 → Read String
  | 0, _ => throw .expectedStringEnd
  | fuel + 1, acc => do
    let c ← get
    let n := runLength c fun b => b != 92 && b != 34
    if n = remaining c then throw .expectedStringEnd
    let chunk := (c.src.toList.drop c.pos).take n
    let stop := byteAt c n
    advance (n + 1)
    if stop == some 34 then textOf (acc ++ chunk)
    else
      let e ← escape
      quotedRest fuel (acc ++ chunk ++ e)

/-- Reads a raw string after its `r`: hashes, a quote, the text, a quote and as many hashes. -/
def rawRest : Read String := do
  let c ← get
  let hashes := runLength c (· == 35)
  advance hashes
  if (← eatByte) != 34 then throw .expectedString
  let c ← get
  let rest := c.src.toList.drop c.pos
  let ending : List UInt8 := 34 :: List.replicate hashes 35
  let found := (List.range (rest.length + 1)).find? fun i => (rest.drop i).take ending.length == ending
  match found with
  | some i =>
    let s ← textOf (rest.take i)
    advance (i + ending.length)
    pure s
  | none => throw .expectedStringEnd

/-- Reads a string, quoted or raw. -/
def string : Read String := do
  if ← consume "\"" then quotedRest (remaining (← get) + 1) []
  else if ← consume "r" then rawRest
  else throw .expectedString

/-- Reads digits of an integer in a base, adding or subtracting each digit, within bounds. -/
def accumulate (digits : List UInt8) (base : Nat) (negative : Bool) (lo hi : Int) :
    Except RonError Int :=
  digits.foldlM (fun acc b =>
    if b == 95 then .ok acc
    else
      let scaled := acc * base
      if scaled < lo ∨ scaled > hi then .error .integerOutOfBounds
      else match hexValue b with
        | none => .error (.invalidEscape "Non-hex digit found")
        | some d =>
          if d ≥ base then .error .expectedInteger
          else
            let next := if negative then scaled - d else scaled + d
            if next < lo ∨ next > hi then .error .integerOutOfBounds else .ok next) (0 : Int)

/-- Reads the digits of an integer with a sign already read, within bounds. -/
def anyInteger (negative : Bool) (lo hi : Int) : Read Int := do
  let c ← get
  let base := if byteAt c 0 == some 48 then
      match byteAt c 1 with
      | some 120 => 16
      | some 98 => 2
      | some 111 => 8
      | _ => 10
    else 10
  if base != 10 then advance 2
  let c ← get
  let n := runLength c isIntByte
  if n = 0 then throw .expectedInteger
  let digits := (c.src.toList.drop c.pos).take n
  if digits.head? == some 95 then throw .underscoreAtBeginning
  let r := accumulate digits base negative lo hi
  advance n
  match r with
  | .ok v => pure v
  | .error e => throw e

/-- Reads an integer that may carry a sign. -/
def signedInteger (lo hi : Int) : Read Int := do
  match ← peekOrEof with
  | 43 => advance 1; anyInteger false lo hi
  | 45 => advance 1; anyInteger true lo hi
  | _ => anyInteger false lo hi

def unsignedInteger (hi : Nat) : Read Nat := do
  pure (← anyInteger false 0 hi).toNat

/-- Reads a float: `inf`, `NaN` with an optional sign, or decimal text. -/
def float : Read Float := do
  for word in ["inf", "+inf", "-inf", "NaN", "+NaN", "-NaN"] do
    if ← consumeIdent word then
      return (Decimal.readFloat word).getD 0
  let c ← get
  let n := runLength c isFloatByte
  let bytes := (c.src.toList.drop c.pos).take n
  match bytes.findIdx? (· == 95) with
  | some i =>
    advance i
    throw .floatUnderscore
  | none =>
    let text := String.ofList (bytes.map fun b => Char.ofNat b.toNat)
    advance n
    match Decimal.readFloat text with
    | some x => pure x
    | none => throw .expectedFloat

/-- Reads `true` or `false`. -/
def bool : Read Bool := do
  if ← consume "true" then pure true
  else if ← consume "false" then pure false
  else throw .expectedBoolean

end Primitives

end LuaIntrospect.Ron
