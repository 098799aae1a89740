/-!
# Commands of a shell

The pieces of a word, the redirections and the commands belong together: a word may hold a command
whose output stands there.
-/

namespace TraceView.Shell

/-- What is made of the value of a parameter. -/
inductive Use where
  | value
  | length
  /-- The word instead of a value that is there. -/
  | instead
  /-- The word for a value that is missing, which may set the parameter. -/
  | otherwise (assign : Bool)
  /-- An error if the value is missing. -/
  | demand
  /-- Without the part at the start or at the end that fits a pattern. -/
  | cut (atEnd longest : Bool)
  /-- No use that there is. -/
  | unknown
  deriving DecidableEq, Repr

inductive FileMode where
  | read
  | write
  /-- Writes even to a file that is protected. -/
  | force
  | append
  | both
  deriving DecidableEq, Repr

mutual

/-- A piece of a word. -/
inductive Piece where
  | char (c : Char) (quoted : Bool)
  /-- A quote stood here, so the word is there even if it is empty. -/
  | mark
  /-- A parameter; `orEmpty` says whether an empty value counts as missing. -/
  | param (name : String) (use : Use) (orEmpty : Bool) (word : List Piece) (quoted : Bool)
  /-- The output of a command. -/
  | output (body : Command) (quoted : Bool)
  /-- The value of a sum. -/
  | sum (text : List Piece) (quoted : Bool)

inductive Redirect where
  | file (descriptor : Nat) (mode : FileMode) (target : List Piece)
  /-- Another name of an open descriptor, or a minus sign to close it. -/
  | duplicate (descriptor : Nat) (target : List Piece)
  /-- The text of a document, by its number. -/
  | document (descriptor : Nat) (number : Nat)

inductive Command where
  | nothing
  | simple (line : Nat) (assignments : List (String × List Piece)) (words : List (List Piece))
      (redirects : List Redirect)
  | pipe (first rest : Command)
  | negate (c : Command)
  | both (first rest : Command)
  | either (first rest : Command)
  | sequence (first rest : Command)
  | background (line : Nat) (c : Command)
  | group (line : Nat) (c : Command) (redirects : List Redirect)
  | subshell (line : Nat) (c : Command) (redirects : List Redirect)
  | branch (test yes no : Command)
  | loop (until_ : Bool) (test body : Command)
  | each (line : Nat) (name : String) (words : List (List Piece)) (body : Command)
  /-- Runs what stands after the first pattern that fits. -/
  | choose (line : Nat) (subject : List Piece) (arms : List (List (List Piece) × Command))
  | define (line : Nat) (name : String) (body : Command)

end

abbrev Word := List Piece

def isBlank (c : Char) : Bool := c = ' ' || c = '\t'

def isNameStart (c : Char) : Bool := c.isAlpha || c = '_'

def isNameChar (c : Char) : Bool := c.isAlphanum || c = '_'

/-- Is this the name of a variable? -/
def isName (s : String) : Bool :=
  match s.toList with
  | c :: cs => isNameStart c && cs.all isNameChar
  | [] => false

/-- The one-character names of parameters that are no variables. -/
def isSpecialParam (c : Char) : Bool :=
  c.isDigit || c = '@' || c = '*' || c = '#' || c = '?' || c = '$' || c = '!' || c = '-'

/-- The text of a word without quotes and expansions. -/
def bare? (w : Word) : Option String :=
  (w.mapM fun
    | Piece.char c false => some c
    | _ => none).map String.ofList

/-- Was any part of the word quoted? -/
def isQuoted (w : Word) : Bool :=
  w.any fun
    | .char _ quoted => quoted
    | .mark => true
    | _ => false

/-- `name=value`, where the name and the sign are not quoted. -/
def assignment? (w : Word) : Option (String × Word) :=
  let inName := fun
    | Piece.char c false => isNameChar c
    | _ => false
  match bare? (w.takeWhile inName), w.dropWhile inName with
  | some name, .char '=' false :: value => if isName name then some (name, value) else none
  | _, _ => none

/-- Commands of the shell whose failure ends the shell. -/
def specialBuiltins : List String :=
  [".", ":", "break", "continue", "eval", "exec", "exit", "export", "local", "readonly", "return",
    "set", "shift", "times", "trap", "unset"]

def ordinaryBuiltins : List String :=
  ["[", "alias", "bg", "cd", "chdir", "command", "echo", "false", "fg", "getopts", "hash", "jobs",
    "kill", "printf", "pwd", "read", "test", "true", "type", "ulimit", "umask", "unalias", "wait"]

def openBrace : String := String.singleton '{'

def closeBrace : String := String.singleton '}'

def reservedWords : List String :=
  ["!", "case", "do", "done", "elif", "else", "esac", "fi", "for", "if", "in", "then", "until",
    "while", openBrace, closeBrace]

end TraceView.Shell
