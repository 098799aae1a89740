import TraceView.Json.Number

/-!
# Writing JSON

The compact form has no blanks, the indented one two spaces a level. In strings only the quote, the
backslash and the controls below the space are escaped.
-/

namespace TraceView.Json

def escapeChar (c : Char) : List Char :=
  match c with
  | '"' => ['\\', '"']
  | '\\' => ['\\', '\\']
  | '\x08' => ['\\', 'b']
  | '\t' => ['\\', 't']
  | '\n' => ['\\', 'n']
  | '\x0c' => ['\\', 'f']
  | '\r' => ['\\', 'r']
  | c => if c.toNat < 0x20 then ['\\', 'u'] ++ Text.hexPadded 4 c.toNat else [c]

def stringChars (s : String) : List Char :=
  '"' :: (s.toList.flatMap escapeChar ++ ['"'])

def scalarChars : Json → List Char
  | .null => ['n', 'u', 'l', 'l']
  | .bool true => ['t', 'r', 'u', 'e']
  | .bool false => ['f', 'a', 'l', 's', 'e']
  | .number n => n.text.toList
  | .string s => stringChars s
  | .array _ => ['[', ']']
  | .object _ => ['{', '}']

mutual

def chars : Json → List Char
  | .array items => '[' :: (itemsChars items ++ [']'])
  | .object fields => '{' :: (fieldsChars fields ++ ['}'])
  | v => scalarChars v

def itemsChars : List Json → List Char
  | [] => []
  | [v] => chars v
  | v :: rest => chars v ++ ',' :: itemsChars rest

def fieldsChars : List (String × Json) → List Char
  | [] => []
  | [(k, v)] => stringChars k ++ ':' :: chars v
  | (k, v) :: rest => stringChars k ++ ':' :: (chars v ++ ',' :: fieldsChars rest)

end

def write (v : Json) : String :=
  String.ofList (chars v)

def newline (depth : Nat) : List Char :=
  '\n' :: List.replicate (2 * depth) ' '

mutual

def indented (depth : Nat) : Json → List Char
  | .array (v :: rest) =>
    '[' :: (indentedItems (depth + 1) (v :: rest) ++ newline depth ++ [']'])
  | .object (e :: rest) =>
    '{' :: (indentedFields (depth + 1) (e :: rest) ++ newline depth ++ ['}'])
  | v => scalarChars v

def indentedItems (depth : Nat) : List Json → List Char
  | [] => []
  | [v] => newline depth ++ indented depth v
  | v :: rest => newline depth ++ indented depth v ++ ',' :: indentedItems depth rest

def indentedFields (depth : Nat) : List (String × Json) → List Char
  | [] => []
  | [(k, v)] => newline depth ++ stringChars k ++ ':' :: ' ' :: indented depth v
  | (k, v) :: rest =>
    newline depth ++ stringChars k ++ ':' :: ' ' :: (indented depth v ++
      ',' :: indentedFields depth rest)

end

def writeIndented (v : Json) : String :=
  String.ofList (indented 0 v)

end TraceView.Json
