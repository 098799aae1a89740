import TraceView.Shell.Source

/-!
# Scripts

Commands are read one at a time, each with the documents that belong to it, so that a command can
change how the rest of the script is read. Fuel bounds how deep reading goes.
-/

namespace TraceView.Shell

/-- What is looked for when a token is read. -/
structure Look where
  /-- Line ends are passed over. -/
  newlines : Bool
  keywords : Bool
  aliases : Bool

def Look.plain : Look := ⟨false, false, false⟩

/-- Where a command may begin, perhaps on a later line. -/
def Look.command : Look := ⟨true, true, true⟩

def giveBack : Reader Unit := modify fun s => { s with givenBack := true }

def skipBlanks : Nat → Reader Unit
  | 0 => return ()
  | fuel + 1 => do
    match ← peek with
    | some c =>
      if isBlank c then
        skip
        skipBlanks fuel
      else if c = '#' then modify fun s => { s with chars := s.chars.dropWhile (· ≠ '\n') }
    | none => return ()

/-- Closes the aliases whose text has been read; may the next word be an alias because of that? -/
def closeAliases : Reader Bool :=
  modifyGet fun s =>
    if s.openAliases.isEmpty then (false, s)
    else
      let left := s.chars.length
      let (done, more) := s.openAliases.partition fun a => left ≤ a.rest
      (done.any (·.goesOn), { s with openAliases := more })

def endsInBlank (text : String) : Bool :=
  text.toList.getLast?.any isBlank

/-- Puts the text of an alias in front of the script. -/
def openAlias (name text : String) : Reader Unit :=
  modify fun s => { s with
    chars := text.toList ++ s.chars
    openAliases := ⟨name, s.chars.length, endsInBlank text⟩ :: s.openAliases }

/-- The text of an alias that is not being read already. -/
def alias? (name : String) : Reader (Option String) := do
  let s ← get
  if s.openAliases.any (·.name = name) then return none
  else return Keyed.get? s.aliases name

/-- The rest of an operator after its first character. -/
def operatorFrom (c : Char) : Reader String := do
  let first := String.singleton c
  if c = '&' || c = '|' || c = ';' then
    if ← accept c then return first ++ first
  return first

def redirectSign (c : Char) : Reader String := do
  if c = '>' then
    if ← accept '>' then return ">>"
    else if ← accept '|' then return ">|"
    else if ← accept '&' then return ">&"
    else return ">"
  else if ← accept '<' then
    if ← accept '-' then return "<<-" else return "<<"
  else if ← accept '&' then return "<&"
  else if ← accept '>' then return "<>"
  else return "<"

/-- A word that can be the number of a descriptor. -/
def descriptor? (w : Word) : Option (Option Nat) :=
  match w with
  | [] => some none
  | [.char c false] => if c.isDigit then some (some (c.toNat - '0'.toNat)) else none
  | _ => none

/-- The word that ends a document, where only quotes and backslashes are special. -/
def delimiterPieces : Nat → Bool → Word → Reader Word
  | 0, _, _ => flawHere .openQuote
  | fuel + 1, quoted, before => do
    match ← peek with
    | none => if quoted then flawHere .openQuote else return before.reverse
    | some c =>
      if !quoted && endsWord c then return before.reverse
      skip
      if c = '"' then delimiterPieces fuel (!quoted) (.mark :: before)
      else if c = '\'' && !quoted then
        delimiterPieces fuel quoted (← singleQuoted fuel (.mark :: before))
      else if c = '\\' then
        let c := (← takeRaw).getD '\\'
        let kept := quoted && c ≠ '\\' && c ≠ '`' && c ≠ '$' && c ≠ '"'
        let before := if kept then .char '\\' true :: before else before
        delimiterPieces fuel quoted (.char c true :: before)
      else delimiterPieces fuel quoted (.char c quoted :: before)

section Tokens

variable (command : Reader Command)

def wordToken (fuel : Nat) : Reader Token := do
  let w := (← pieces command fuel .plain []).reverse
  match ← peek, descriptor? w with
  | some c, some n =>
    if c = '<' || c = '>' then
      skip
      return .redirect n (← redirectSign c)
    else return .word w
  | _, _ => return .word w

/-- The next token, and whether an alias before it lets it be an alias. -/
def rawToken (fuel : Nat) : Reader (Token × Bool) := do
  skipBlanks fuel
  let goesOn ← closeAliases
  match ← peek with
  | none => return (.ended, goesOn)
  | some c =>
    if c = '\n' then
      skip
      return (.newline, goesOn)
    else if isOperatorChar c && c ≠ '<' && c ≠ '>' then
      skip
      return (.operator (← operatorFrom c), goesOn)
    else return (← wordToken command fuel, goesOn)

/-- Passes over line ends and the documents after them. -/
def passNewlines : Nat → Token → Bool → Reader (Token × Bool)
  | fuel + 1, .newline, _ => do
    readDocuments command fuel
    let (t, goesOn) ← rawToken command fuel
    passNewlines fuel t goesOn
  | _, t, goesOn => return (t, goesOn)

/-- Recognizes keywords and puts in the text of aliases. -/
def recognize : Nat → Look → Token → Bool → Reader Token
  | 0, _, t, _ => return t
  | fuel + 1, look, t, goesOn => do
    let (t, goesOn) ← if look.newlines then passNewlines command fuel t goesOn
      else pure (t, goesOn)
    let look := { look with aliases := look.aliases || goesOn }
    match t with
    | .word w =>
      match bare? w with
      | none => return t
      | some text =>
        if look.keywords && reservedWords.contains text then return .keyword text
        else
          match ← if look.aliases then alias? text else pure none with
          | none => return t
          | some value =>
            if value ≠ "" then openAlias text value
            let (t, goesOn) ← rawToken command fuel
            recognize fuel look t goesOn
    | t => return t

def token (fuel : Nat) (look : Look) : Reader Token := do
  let s ← get
  let t ← if s.givenBack then
      set { s with givenBack := false }
      recognize command fuel look s.last false
    else
      let (t, goesOn) ← rawToken command fuel
      recognize command fuel look t goesOn
  modify fun s => { s with last := t }
  return t

end Tokens

/-- How far a list of commands goes: to the end of the line, or to a word that cannot begin a
command, before which there must be or need not be one. -/
inductive Extent where
  | line
  | body
  | arm
  deriving DecidableEq, Repr

/-- The extent of the rest of a list. -/
def Extent.rest : Extent → Extent
  | .line => .line
  | .body | .arm => .arm

/-- Does the token end the list before it? -/
def Token.endsList : Token → Bool
  | .ended => true
  | .operator t => t = ")" || t = ";;"
  | .keyword t => ["do", "done", "elif", "else", "esac", "fi", "then", closeBrace].contains t
  | _ => false

def fileMode? (sign : String) : Option FileMode :=
  match sign with
  | "<" => some .read
  | ">" => some .write
  | ">|" => some .force
  | ">>" => some .append
  | "<>" => some .both
  | _ => none

/-- The descriptor that is meant if none is written. -/
def usualDescriptor (sign : String) : Nat :=
  if sign.toList.head? = some '<' then 0 else 1

/-- The characters of a delimiter without its quotes. -/
def delimiterChars (w : Word) : List Char :=
  w.filterMap fun
    | .char c _ => some c
    | _ => none

/-- Awaits a document; the number is one that no other document has. -/
def awaitDocument (w : Word) (dropTabs : Bool) : Reader Nat :=
  modifyGet fun s =>
    let number := s.documents.length
    (number, { s with
      documents := Keyed.insert s.documents number []
      awaited := s.awaited ++ [⟨number, delimiterChars w, isQuoted w, dropTabs⟩] })

/-- The parts of a simple command. -/
structure Simple where
  assignments : List (String × Word)
  words : List Word
  redirects : List Redirect

def needWord (t : Token) : Reader Word :=
  match t with
  | .word w => return w
  | _ => unexpected

section Parts

variable (command : Reader Command)

/-- What a redirection leads to. -/
def redirectTo (fuel : Nat) (descriptor : Option Nat) (sign : String) : Reader Redirect := do
  let n := descriptor.getD (usualDescriptor sign)
  if sign = "<<" ∨ sign = "<<-" then
    skipBlanks fuel
    let start := (← peek).any fun c => !endsWord c
    if start then
      let w ← delimiterPieces fuel false []
      modify fun s => { s with last := .word w }
      return .document n (← awaitDocument w (sign = "<<-"))
    else
      let _ ← token command fuel .plain
      unexpected
  else
    let target ← needWord (← token command fuel .plain)
    return match fileMode? sign with
      | some mode => .file n mode target
      | none => .duplicate n target

/-- The redirections after a command, the first of which may be an alias. -/
def redirects : Nat → Look → Reader (List Redirect)
  | 0, _ => unexpected
  | fuel + 1, look => do
    match ← token command fuel look with
    | .redirect n sign =>
      let r ← redirectTo command fuel n sign
      return r :: (← redirects fuel .plain)
    | _ =>
      giveBack
      return []

/-- The words up to a token of another kind. -/
def words : Nat → Reader (List Word)
  | 0 => unexpected
  | fuel + 1 => do
    match ← token command fuel .plain with
    | .word w => return w :: (← words fuel)
    | _ => return []

/-- Without a list of words a loop goes through the arguments. -/
def loopWords (fuel : Nat) : Reader (List Word) := do
  match ← token command fuel .command with
  | .keyword "in" =>
    let ws ← words command fuel
    match (← get).last with
    | .newline | .operator ";" => return ws
    | _ => unexpected
  | t =>
    unless t matches .operator ";" do giveBack
    return [[.mark, .param "@" .value false [] true, .mark]]

def loopName (fuel : Nat) : Reader String := do
  match ← token command fuel .plain with
  | .word w =>
    match (bare? w).filter isName with
    | some name => return name
    | none => flawHere .loopName
  | _ => flawHere .loopName

def Token.word? : Token → Word
  | .word w => w
  | _ => []

/-- The patterns from this token to the closing parenthesis. -/
def patterns : Nat → Token → Reader (List Word)
  | 0, _ => unexpected
  | fuel + 1, t => do
    match ← token command fuel .plain with
    | .operator "|" => return t.word? :: (← patterns fuel (← token command fuel .plain))
    | .operator ")" => return [t.word?]
    | _ => unexpectedFor (some (.operator ")"))

/-- A keyword that must stand here. -/
def demand (fuel : Nat) (look : Look) (keyword : String) : Reader Unit := do
  match ← token command fuel look with
  | .keyword t => unless t = keyword do unexpectedFor (some (.keyword keyword))
  | _ => unexpectedFor (some (.keyword keyword))

end Parts

/-- A name that a function may have. -/
def functionName? (w : Word) : Option String :=
  (bare? w).filter fun name => isName name && !specialBuiltins.contains name

def withRedirects (line : Nat) (c : Command) (rs : List Redirect) : Command :=
  if rs.isEmpty then c else .group line c rs

mutual

/-- A list of commands; `before` holds those already read. -/
def list : Nat → Extent → Option Command → Reader (Option Command)
  | 0, _, _ => unexpected
  | fuel + 1, extent, before => do
    match ← token (substituted fuel) fuel ⟨extent ≠ .line, true, true⟩ with
    | .newline =>
      readDocuments (substituted fuel) fuel
      return before
    | .ended =>
      readDocuments (substituted fuel) fuel
      giveBack
      return before
    | t =>
      giveBack
      if extent = .arm && t.endsList then return before
      let c ← andOr fuel
      let t ← token (substituted fuel) fuel .plain
      let line := (← get).line
      let c := if t matches .operator "&" then .background line c else c
      let all := some (before.elim c (.sequence · c))
      match t with
      | .ended =>
        readDocuments (substituted fuel) fuel
        giveBack
        return all
      | .newline =>
        giveBack
        list fuel extent.rest all
      | .operator "&" | .operator ";" => list fuel extent.rest all
      | _ =>
        if extent = .line then unexpected
        giveBack
        return all

/-- A command whose output is asked for. -/
def substituted : Nat → Reader Command
  | 0 => unexpected
  | fuel + 1 => do return (← list fuel .arm none).getD .nothing

/-- A list that must not be empty. -/
def body : Nat → Reader Command
  | 0 => unexpected
  | fuel + 1 => do return (← list fuel .body none).getD .nothing

def andOr : Nat → Reader Command
  | 0 => unexpected
  | fuel + 1 => do andOrRest fuel (← pipeline fuel .plain)

/-- `&&` and `||` bind alike, to the left. -/
def andOrRest : Nat → Command → Reader Command
  | 0, _ => unexpected
  | fuel + 1, first => do
    match ← token (substituted fuel) fuel .plain with
    | .operator "&&" => andOrRest fuel (.both first (← pipeline fuel .command))
    | .operator "||" => andOrRest fuel (.either first (← pipeline fuel .command))
    | _ =>
      giveBack
      return first

def pipeline : Nat → Look → Reader Command
  | 0, _ => unexpected
  | fuel + 1, look => do
    match ← token (substituted fuel) fuel look with
    | .keyword "!" => return .negate (← pipes fuel ⟨false, true, true⟩)
    | _ =>
      giveBack
      pipes fuel .plain

def pipes : Nat → Look → Reader Command
  | 0, _ => unexpected
  | fuel + 1, look => do
    let first ← command fuel look
    match ← token (substituted fuel) fuel .plain with
    | .operator "|" => return .pipe first (← pipes fuel .command)
    | _ =>
      giveBack
      return first

def command : Nat → Look → Reader Command
  | 0, _ => unexpected
  | fuel + 1, look => do
    let line := (← get).line
    match ← token (substituted fuel) fuel look with
    | .operator "(" =>
      let c ← body fuel
      match ← token (substituted fuel) fuel .plain with
      | .operator ")" => return .subshell line c (← redirectsAfter fuel)
      | _ => unexpectedFor (some (.operator ")"))
    | .keyword "if" => grouped fuel line (branches fuel) "fi"
    | .keyword "while" => grouped fuel line (loopFrom fuel false) "done"
    | .keyword "until" => grouped fuel line (loopFrom fuel true) "done"
    | .keyword "for" => grouped fuel line (eachFrom fuel line) "done"
    | .keyword "case" =>
      let c ← chooseFrom fuel line
      return withRedirects line c (← redirectsAfter fuel)
    | .keyword t => if t = openBrace then grouped fuel line (body fuel) closeBrace else unexpected
    | .word _ | .redirect _ _ =>
      giveBack
      simple fuel (← get).line ⟨[], [], []⟩ true
    | _ => unexpected

/-- What ends with a keyword, and the redirections after it. -/
def grouped : Nat → Nat → Reader Command → String → Reader Command
  | 0, _, _, _ => unexpected
  | fuel + 1, line, inner, keyword => do
    let c ← inner
    demand (substituted fuel) fuel .plain keyword
    return withRedirects line c (← redirectsAfter fuel)

def redirectsAfter : Nat → Reader (List Redirect)
  | 0 => unexpected
  | fuel + 1 => redirects (substituted fuel) fuel ⟨false, true, true⟩

/-- What follows `if` or `elif`. -/
def branches : Nat → Reader Command
  | 0 => unexpected
  | fuel + 1 => do
    let test ← body fuel
    demand (substituted fuel) fuel .plain "then"
    let yes ← body fuel
    match ← token (substituted fuel) fuel .plain with
    | .keyword "elif" => return .branch test yes (← branches fuel)
    | .keyword "else" => return .branch test yes (← body fuel)
    | _ =>
      giveBack
      return .branch test yes .nothing

def loopFrom : Nat → Bool → Reader Command
  | 0, _ => unexpected
  | fuel + 1, until_ => do
    let test ← body fuel
    demand (substituted fuel) fuel .plain "do"
    return .loop until_ test (← body fuel)

def eachFrom : Nat → Nat → Reader Command
  | 0, _ => unexpected
  | fuel + 1, line => do
    let name ← loopName (substituted fuel) fuel
    let ws ← loopWords (substituted fuel) fuel
    demand (substituted fuel) fuel .command "do"
    return .each line name ws (← body fuel)

def chooseFrom : Nat → Nat → Reader Command
  | 0, _ => unexpected
  | fuel + 1, line => do
    match ← token (substituted fuel) fuel .plain with
    | .word subject =>
      demand (substituted fuel) fuel .command "in"
      return .choose line subject (← arms fuel)
    | _ => unexpectedFor (some (.word []))

/-- The arms of a `case`, up to the word that ends it. -/
def arms : Nat → Reader (List (List Word × Command))
  | 0 => unexpected
  | fuel + 1 => do
    let next := token (substituted fuel) fuel
    match ← next ⟨true, true, false⟩ with
    | .keyword "esac" => return []
    | t =>
      let first ← if t matches .operator "(" then next .plain else pure t
      let ps ← patterns (substituted fuel) fuel first
      let c := (← list fuel .arm none).getD .nothing
      match ← next ⟨true, true, false⟩ with
      | .keyword "esac" => return [(ps, c)]
      | .operator ";;" => return (ps, c) :: (← arms fuel)
      | _ => unexpectedFor (some (.operator ";;"))

/-- A simple command; `start` says whether the next word may be an assignment. -/
def simple : Nat → Nat → Simple → Bool → Reader Command
  | 0, _, _, _ => unexpected
  | fuel + 1, line, s, start => do
    match ← token (substituted fuel) fuel ⟨false, false, start⟩ with
    | .word w =>
      match assignment? w, start with
      | some a, true => simple fuel line { s with assignments := s.assignments ++ [a] } true
      | _, _ => simple fuel line { s with words := s.words ++ [w] } false
    | .redirect n sign =>
      let r ← redirectTo (substituted fuel) fuel n sign
      simple fuel line { s with redirects := s.redirects ++ [r] } start
    | .operator "(" =>
      match s with
      | ⟨[], [w], []⟩ => definition fuel w
      | _ =>
        giveBack
        return .simple line s.assignments s.words s.redirects
    | _ =>
      giveBack
      return .simple line s.assignments s.words s.redirects

def definition : Nat → Word → Reader Command
  | 0, _ => unexpected
  | fuel + 1, w => do
    match ← token (substituted fuel) fuel .plain with
    | .operator ")" =>
      match functionName? w with
      | some name => return .define (← get).line name (← command fuel .command)
      | none => flawHere .functionName
    | _ => unexpectedFor (some (.operator ")"))

end

/-- A script whose first line has the number `line`. -/
def Source.ofString (line : Nat) (aliases : Keyed String String) (documents : Keyed Nat Word)
    (text : String) : Source :=
  ⟨text.toList, line, .newline, false, [], documents, aliases, []⟩

/-- Enough for a script in which every character stands for every alias. -/
def Source.fuel (s : Source) : Nat :=
  let aliased := s.aliases.foldl (fun n a => n + a.2.length) 1
  (s.chars.length + 1) * aliased * 8 + 100

/-- The next command, or none at the end. -/
def Source.next (s : Source) : Except ScriptFault (Option (Option Command × Source)) := do
  let s := { s with givenBack := false }
  let (c, s) ← (list s.fuel .line none).run s
  match c, s.last with
  | none, .ended => return none
  | c, _ => return some (c, s)

/-- The pieces of a text in which only parameters, sums and commands are expanded. -/
def Source.word (s : Source) : Except ScriptFault (Word × Source) := do
  let (w, s) ← (pieces (substituted s.fuel) s.fuel .document []).run s
  return (w.reverse, s)

end TraceView.Shell
