/-!
JSON documents and their indented text: two spaces per level, one member or element per line,
`"key": value` with one blank after the colon, and `[]` or `{}` for an empty container.
Strings escape the quote, the backslash and control characters; other characters are written as
they are.
-/
namespace LuaIntrospect.Json

inductive Doc where
  | null
  | bool (b : Bool)
  | int (i : Int)
  | str (s : String)
  | arr (items : List Doc)
  | obj (members : List (String × Doc))

def hexDigit (n : Nat) : Char :=
  if n < 10 then Char.ofNat (48 + n) else Char.ofNat (87 + n)

/-- The escaped form of a character inside a string. -/
def escapeChar (c : Char) : List Char :=
  if c = '"' then ['\\', '"']
  else if c = '\\' then ['\\', '\\']
  else if c = '\n' then ['\\', 'n']
  else if c = '\r' then ['\\', 'r']
  else if c = '\t' then ['\\', 't']
  else if c.toNat = 8 then ['\\', 'b']
  else if c.toNat = 12 then ['\\', 'f']
  else if c.toNat < 32 then ['\\', 'u', '0', '0', hexDigit (c.toNat / 16), hexDigit (c.toNat % 16)]
  else [c]

/-- A string in quotes, escaped. -/
def quote (s : String) : String :=
  String.ofList ('"' :: (s.toList.flatMap escapeChar) ++ ['"'])

/-- The blanks in front of a line at a depth. -/
def indent (depth : Nat) : String := String.ofList (List.replicate (2 * depth) ' ')

mutual

/-- The indented text of a document at a depth; the first line is not indented. -/
def Doc.pretty (depth : Nat) : Doc → String
  | .null => "null"
  | .bool b => if b then "true" else "false"
  | .int i => toString i
  | .str s => quote s
  | .arr [] => "[]"
  | .arr items => "[\n" ++ prettyItems (depth + 1) items ++ "\n" ++ indent depth ++ "]"
  | .obj [] => "\x7b\x7d"
  | .obj members =>
    "\x7b\n" ++ prettyMembers (depth + 1) members ++ "\n" ++ indent depth ++ "\x7d"

/-- Elements of an array, one per line. -/
def prettyItems (depth : Nat) : List Doc → String
  | [] => ""
  | [d] => indent depth ++ d.pretty depth
  | d :: rest => indent depth ++ d.pretty depth ++ ",\n" ++ prettyItems depth rest

/-- Members of an object, one per line. -/
def prettyMembers (depth : Nat) : List (String × Doc) → String
  | [] => ""
  | [(k, d)] => indent depth ++ quote k ++ ": " ++ d.pretty depth
  | (k, d) :: rest => indent depth ++ quote k ++ ": " ++ d.pretty depth ++ ",\n" ++ prettyMembers depth rest

end

end LuaIntrospect.Json
