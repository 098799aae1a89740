import TraceView.Keyed
import TraceView.Shell.Command

/-!
# Reading a script

What is left of a script, the line it stands on, and what reading has put aside: a token that was
given back, documents whose text is still to come, and aliases whose text stands in front of the
script.
-/

namespace TraceView.Shell

inductive Token where
  | ended
  | newline
  | operator (text : String)
  | keyword (text : String)
  | word (w : Word)
  /-- The descriptor, if one is written, and the sign. -/
  | redirect (descriptor : Option Nat) (sign : String)

def Token.text : Token → String
  | .ended => "end of file"
  | .newline => "newline"
  | .operator text | .keyword text => "\"" ++ text ++ "\""
  | .word _ => "word"
  | .redirect _ _ => "redirection"

/-- Why a script cannot be read on. -/
inductive Flaw where
  | unexpected (token : Token) (expected : Option Token)
  | openQuote
  | openBrace
  | openSum
  | openBackquote
  | loopName
  | functionName

def Flaw.text : Flaw → String
  | .unexpected token expected =>
    token.text ++ " unexpected" ++
      ((expected.map fun e => " (expecting " ++ e.text ++ ")").getD "")
  | .openQuote => "Unterminated quoted string"
  | .openBrace => "Missing '\x7d'"
  | .openSum => "Missing '))'"
  | .openBackquote => "EOF in backquote substitution"
  | .loopName => "Bad for loop variable"
  | .functionName => "Bad function name"

/-- A flaw and the line on which it shows. -/
structure ScriptFault where
  line : Nat
  flaw : Flaw

/-- A document that begins after the end of the line. -/
structure AwaitedDocument where
  number : Nat
  /-- The line that ends it. -/
  delimiter : List Char
  literal : Bool
  dropTabs : Bool

/-- An alias whose text stands in front of the last `rest` characters. -/
structure OpenAlias where
  name : String
  rest : Nat
  /-- May the next word be an alias too? -/
  goesOn : Bool

structure Source where
  chars : List Char
  line : Nat
  /-- The token that was read last, and whether it was given back. -/
  last : Token
  givenBack : Bool
  awaited : List AwaitedDocument
  documents : Keyed Nat Word
  aliases : Keyed String String
  openAliases : List OpenAlias

abbrev Reader := StateT Source (Except ScriptFault)

def flawHere {α : Type} (flaw : Flaw) : Reader α := do
  throw ⟨(← get).line, flaw⟩

def unexpectedFor {α : Type} (expected : Option Token) : Reader α := do
  flawHere (.unexpected (← get).last expected)

def unexpected {α : Type} : Reader α := unexpectedFor none

/-- Without the joined lines at the front, and how many they are. -/
def dropJoins : List Char → Nat × List Char
  | '\\' :: '\n' :: cs =>
    let (n, rest) := dropJoins cs
    (n + 1, rest)
  | cs => (0, cs)

/-- The next character, joined lines being one. -/
def peek : Reader (Option Char) :=
  modifyGet fun s =>
    let (n, cs) := dropJoins s.chars
    (cs.head?, { s with chars := cs, line := s.line + n })

/-- The next character as it is written. -/
def peekRaw : Reader (Option Char) := do return (← get).chars.head?

/-- Passes over a character. -/
def skip : Reader Unit :=
  modify fun s => match s.chars with
    | c :: cs => { s with chars := cs, line := if c = '\n' then s.line + 1 else s.line }
    | [] => s

def take : Reader (Option Char) := do
  let c ← peek
  skip
  return c

/-- The next character; a line break counts as part of the line. -/
def takeInLine : Reader (Option Char) := do
  let c ← peek
  modify fun s => { s with chars := s.chars.tail }
  return c

def takeRaw : Reader (Option Char) := do
  let c ← peekRaw
  skip
  return c

/-- Passes over a character if it comes next. -/
def accept (c : Char) : Reader Bool := do
  if (← peek) = some c then
    skip
    return true
  else return false

/-- The characters for as long as `p` holds, after those in reverse before them. -/
def takeWhile (p : Char → Bool) : Nat → List Char → Reader (List Char)
  | 0, before => return before.reverse
  | fuel + 1, before => do
    match ← peek with
    | some c =>
      if p c then
        skip
        takeWhile p fuel (c :: before)
      else return before.reverse
    | none => return before.reverse

/-- What surrounds the characters of a word. -/
inductive Setting where
  | plain
  /-- The word of a parameter in braces. -/
  | braces
  /-- Quotes, which may stand in such a word. -/
  | quotes (inBraces : Bool)
  /-- The word of a parameter within quotes; `inner` says whether quotes were opened in it. -/
  | quotedBraces (inner : Bool)
  /-- As before, in a document, where quotes leave no mark. -/
  | documentBraces (inner : Bool)
  | document
  | sum
  deriving DecidableEq, Repr

def Setting.isQuoted (s : Setting) : Bool := s ≠ .plain && s ≠ .braces

/-- The setting of a word in braces here. -/
def Setting.inBraces (s : Setting) : Setting :=
  match s with
  | .plain | .braces => .braces
  | .quotes _ | .quotedBraces _ | .sum => .quotedBraces false
  | .document | .documentBraces _ => .documentBraces false

/-- Does a backslash protect the character here? -/
def Setting.escapes (s : Setting) (c : Char) : Bool :=
  let closes := match s with
    | .quotes true | .quotedBraces _ | .documentBraces _ => true
    | _ => false
  c = '\\' || c = '`' || c = '$' || !s.isQuoted || (c = '"' && s ≠ .document) ||
    (c = '\x7d' && closes)

def isOperatorChar (c : Char) : Bool :=
  c = ';' || c = '&' || c = '|' || c = '(' || c = ')' || c = '<' || c = '>'

def endsWord (c : Char) : Bool := isBlank c || c = '\n' || isOperatorChar c

/-- What `$` and an open brace begin: a parameter, what is made of it, and whether a word follows. -/
structure ParamOpening where
  name : String
  use : Use
  orEmpty : Bool
  hasWord : Bool

/-- What a character asks to be made of a value. -/
def plainUse? (c : Char) : Option Use :=
  match c with
  | '\x7d' => some .value
  | '+' => some .instead
  | '-' => some (.otherwise false)
  | '=' => some (.otherwise true)
  | '?' => some .demand
  | _ => none

/-- What stands between the name of a parameter and its word. -/
def useOpening (name : String) : Reader ParamOpening := do
  match ← takeInLine with
  | some ':' =>
    match (← takeInLine).bind plainUse? with
    | some use => return ⟨name, use, true, true⟩
    | none => return ⟨name, .unknown, true, true⟩
  | some '%' => return ⟨name, .cut true (← accept '%'), false, true⟩
  | some '#' => return ⟨name, .cut false (← accept '#'), false, true⟩
  | some c => return ⟨name, (plainUse? c).getD .unknown, false, c ≠ '\x7d'⟩
  | none => return ⟨name, .unknown, false, true⟩

/-- After the name of a parameter whose length is asked for. -/
def lengthOpening (name : String) : Reader ParamOpening := do
  if (← peek) = some '\x7d' then return ⟨name, .length, false, true⟩
  else return ⟨name, .unknown, false, true⟩

/-- The name of a variable or the number of an argument that begins with this character, if it
begins one. -/
def nameFrom (fuel : Nat) (c : Char) : Reader (Option String) := do
  if isNameStart c then return some (String.ofList (← takeWhile isNameChar fuel []))
  else if c.isDigit then return some (String.ofList (← takeWhile Char.isDigit fuel []))
  else return none

/-- A sharp sign that begins the braces asks for a length, or is the number of arguments. -/
def sharpOpening (fuel : Nat) : Reader ParamOpening := do
  match ← peek with
  | none => return ⟨"#", .unknown, false, true⟩
  | some c =>
    if let some name ← nameFrom fuel c then lengthOpening name
    else
      let before ← get
      skip
      if c ≠ '\x7d' && (← peek) = some '\x7d' then
        if isSpecialParam c then lengthOpening (String.singleton c)
        else return ⟨"#", .unknown, false, true⟩
      else
        set before
        useOpening "#"

/-- What stands after an open brace. -/
def braceOpening (fuel : Nat) : Reader ParamOpening := do
  match ← peek with
  | none | some '\x7d' => return ⟨"", .unknown, false, true⟩
  | some c =>
    if let some name ← nameFrom fuel c then useOpening name
    else
      skip
      if c = '#' then sharpOpening fuel
      else if isSpecialParam c then useOpening (String.singleton c)
      else return ⟨"", .unknown, false, true⟩

/-- The script between backquotes, where a backslash protects itself, a backquote, a dollar sign
and, within quotes, a quote. -/
def backquoted (quoted : Bool) : Nat → List Char → Reader (List Char)
  | 0, _ => flawHere .openBackquote
  | fuel + 1, before => do
    match ← take with
    | none => flawHere .openBackquote
    | some '`' => return before.reverse
    | some '\\' =>
      match ← takeRaw with
      | none => flawHere .openBackquote
      | some c =>
        let guarded := c = '\\' || c = '`' || c = '$' || (quoted && c = '"')
        backquoted quoted fuel (if guarded then c :: before else c :: '\\' :: before)
    | some c => backquoted quoted fuel (c :: before)

/-- The end of what surrounds the pieces is missing. -/
def piecesEnd (setting : Setting) (before : Word) : Reader Word :=
  match setting with
  | .plain | .document => return before
  | .braces | .documentBraces _ => flawHere .openBrace
  | .quotes _ | .quotedBraces _ => flawHere .openQuote
  | .sum => flawHere .openSum

/-- The characters up to a single quote. -/
def singleQuoted : Nat → Word → Reader Word
  | 0, _ => flawHere .openQuote
  | fuel + 1, before => do
    match ← takeRaw with
    | none => flawHere .openQuote
    | some '\'' => return .mark :: before
    | some c => singleQuoted fuel (.char c true :: before)

/-- Does the delimiter stand here on a line of its own? Then what follows it. -/
def afterDelimiter? (d : AwaitedDocument) (cs : List Char) : Option (List Char) :=
  let rest := cs.drop d.delimiter.length
  if d.delimiter.isPrefixOf cs && (rest.isEmpty || rest.head? == some '\n') then some rest.tail
  else none

/-- At the start of a line of a document: whether the document ends here. -/
def documentEnds (d : AwaitedDocument) : Reader Bool := do
  unless d.literal do
    let _ ← peek
  if d.dropTabs then modify fun s => { s with chars := s.chars.dropWhile (· = '\t') }
  let s ← get
  match afterDelimiter? d s.chars with
  | some rest =>
    set { s with chars := rest, line := s.line + 1 }
    return true
  | none => return s.chars.isEmpty

section Pieces

variable (command : Reader Command)

/-- The command between parentheses whose output is asked for; its documents are its own. The token
after a command is always given back. -/
def parenthesised : Reader Command := do
  let awaited := (← get).awaited
  modify fun s => { s with awaited := [] }
  let c ← command
  match (← get).last with
  | .operator ")" => modify fun s => { s with awaited, givenBack := false }
  | _ => unexpectedFor (some (.operator ")"))
  return c

/-- Reads a command from a text of its own; what is left of the text does not count. -/
def commandIn (text : List Char) : Reader Command := do
  let outer ← get
  set { outer with chars := text, line := 1, givenBack := false, awaited := [], openAliases := [] }
  let c ← command
  modify fun s => { outer with documents := s.documents }
  return c

mutual

/-- The pieces up to the end of the word or of what surrounds them, put in front of those before
them, all in reverse. -/
def pieces : Nat → Setting → Word → Reader Word
  | 0, _, _ => flawHere .openQuote
  | fuel + 1, setting, before => do
    match ← peek with
    | none => piecesEnd setting before
    | some c =>
      if setting = .plain && endsWord c then return before
      skip
      match c, setting with
      | '"', .quotes _ => return before
      | '\x7d', .braces | '\x7d', .quotedBraces false | '\x7d', .documentBraces false =>
        return before
      | '"', .quotedBraces inner => pieces fuel (.quotedBraces !inner) (.mark :: before)
      | '"', .documentBraces inner => pieces fuel (.documentBraces !inner) before
      | c, _ => pieces fuel setting (← piece fuel setting c before)

/-- The piece that begins with a character already passed. -/
def piece : Nat → Setting → Char → Word → Reader Word
  | 0, _, _, _ => flawHere .openQuote
  | fuel + 1, setting, c, before => do
    let quoted := setting.isQuoted
    match c with
    | '\\' =>
      match ← takeRaw with
      | none => return .char '\\' true :: before
      | some c =>
        let before := if setting.escapes c then before else .char '\\' true :: before
        return .char c true :: before
    | '$' => return (← dollar fuel setting) :: before
    | '`' => return .output (← commandIn command (← backquoted quoted fuel [])) quoted :: before
    | '\'' =>
      if quoted then return .char c true :: before
      else singleQuoted fuel (.mark :: before)
    | '"' =>
      if quoted then return .char c true :: before
      else return .mark :: (← pieces fuel (.quotes (setting = .braces)) (.mark :: before))
    | c => return .char c quoted :: before

/-- What follows a dollar sign. -/
def dollar : Nat → Setting → Reader Piece
  | 0, _ => flawHere .openQuote
  | fuel + 1, setting => do
    let quoted := setting.isQuoted
    match ← peek with
    | some '(' =>
      skip
      if ← accept '(' then return .sum (← sumPieces fuel 0 []).reverse quoted
      else return .output (← parenthesised command) quoted
    | some '\x7b' =>
      skip
      let o ← braceOpening fuel
      let inner := match o.use with
        | .cut _ _ => Setting.braces
        | _ => setting.inBraces
      let word ← if o.hasWord then pieces fuel inner [] else pure []
      return .param o.name o.use o.orEmpty word.reverse quoted
    | some c =>
      if isNameStart c then
        return .param (String.ofList (← takeWhile isNameChar fuel [])) .value false [] quoted
      else if isSpecialParam c then
        skip
        return .param (String.singleton c) .value false [] quoted
      else return .char '$' quoted
    | none => return .char '$' quoted

/-- The pieces of a sum, up to two closing parentheses. -/
def sumPieces : Nat → Nat → Word → Reader Word
  | 0, _, _ => flawHere .openSum
  | fuel + 1, depth, before => do
    match ← take with
    | none => flawHere .openSum
    | some '(' => sumPieces fuel (depth + 1) (.char '(' true :: before)
    | some ')' =>
      match depth with
      | d + 1 => sumPieces fuel d (.char ')' true :: before)
      | 0 =>
        if ← accept ')' then return before
        else sumPieces fuel 0 (.char ')' true :: before)
    | some c => sumPieces fuel depth (← piece fuel .sum c before)

end

/-- The lines of a document. -/
def documentLines (d : AwaitedDocument) : Nat → Word → Reader Word
  | 0, before => return before
  | fuel + 1, before => do
    match ← if d.literal then takeRaw else take with
    | none => return before
    | some c =>
      let before ← if d.literal then pure (.char c true :: before)
        else piece command fuel .document c before
      if c = '\n' then
        if ← documentEnds d then return before
      documentLines d fuel before

/-- Reads the documents that are awaited. -/
def readDocuments (fuel : Nat) : Reader Unit := do
  let awaited := (← get).awaited
  modify fun s => { s with awaited := [] }
  for d in awaited do
    let lines ← if ← documentEnds d then pure [] else documentLines command d fuel []
    modify fun s => { s with documents := Keyed.insert s.documents d.number lines.reverse }

end Pieces

end TraceView.Shell
