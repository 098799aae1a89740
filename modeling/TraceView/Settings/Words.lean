/-!
# Argument lists written as one line

Words are separated by blanks. Single quotes take everything literally; within double quotes a
backslash guards `$`, a backquote, a double quote and itself, and joins lines; outside quotes it
guards any character. A `#` at the start of a word begins a comment. An open quote and a last
backslash are errors.
-/

namespace TraceView.Settings

/-- Where the splitting of a line stands. -/
inductive WordPart where
  | between
  | comment
  | plain
  | escape
  | single
  | double
  | doubleEscape
  deriving DecidableEq, Repr

/-- Words read so far and the characters of the one under way, both in reverse. -/
structure WordState where
  words : List (List Char)
  word : List Char
  part : WordPart
  deriving Repr

def WordState.initial : WordState := ⟨[], [], .between⟩

def isWordBreak (c : Char) : Bool := c = ' ' || c = '\t' || c = '\n'

def isGuardedInDouble (c : Char) : Bool := c = '$' || c = '`' || c = '"' || c = '\\'

namespace WordState

def closeWord (s : WordState) : WordState :=
  ⟨s.word.reverse :: s.words, [], .between⟩

/-- A character of a word, outside quotes. -/
def pushPlain (s : WordState) (c : Char) : WordState :=
  if c = '"' then { s with part := .double }
  else if c = '\'' then { s with part := .single }
  else if c = '\\' then { s with part := .escape }
  else if isWordBreak c then s.closeWord
  else { s with word := c :: s.word, part := .plain }

def push (s : WordState) (c : Char) : WordState :=
  match s.part with
  | .between =>
    if isWordBreak c then s
    else if c = '#' then { s with part := .comment }
    else s.pushPlain c
  | .comment => if c = '\n' then { s with part := .between } else s
  | .plain => s.pushPlain c
  | .escape => { s with word := if c = '\n' then s.word else c :: s.word, part := .plain }
  | .single => if c = '\'' then { s with part := .plain } else { s with word := c :: s.word }
  | .double =>
    if c = '"' then { s with part := .plain }
    else if c = '\\' then { s with part := .doubleEscape }
    else { s with word := c :: s.word }
  | .doubleEscape =>
    let word := if isGuardedInDouble c then c :: s.word
      else if c = '\n' then s.word
      else c :: '\\' :: s.word
    { s with word, part := .double }

def finish? (s : WordState) : Option (List String) :=
  match s.part with
  | .between | .comment => some (s.words.reverse.map String.ofList)
  | .plain => some (s.closeWord.words.reverse.map String.ofList)
  | .escape | .single | .double | .doubleEscape => none

end WordState

def words? (line : String) : Option (List String) :=
  (line.toList.foldl WordState.push .initial).finish?

end TraceView.Settings
