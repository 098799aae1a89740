/-!
# Patterns

A pattern is a text whose unquoted stars, question marks and brackets stand for other characters.
An unquoted backslash, which can only come from a value, quotes the character after it.
-/

namespace TraceView.Shell

/-- A named class of characters. -/
def namedClass? (name : List Char) : Option (Char → Bool) :=
  let printed := fun c : Char => ' ' ≤ c && c ≤ '~'
  match String.ofList name with
  | "alnum" => some Char.isAlphanum
  | "alpha" => some Char.isAlpha
  | "blank" => some fun c => c = ' ' || c = '\t'
  | "cntrl" => some fun c => c < ' ' || c = '\x7f'
  | "digit" => some Char.isDigit
  | "graph" => some fun c => printed c && c ≠ ' '
  | "lower" => some Char.isLower
  | "print" => some printed
  | "punct" => some fun c => printed c && c ≠ ' ' && !c.isAlphanum
  | "space" => some fun c => c = ' ' || ('\t' ≤ c && c ≤ '\r')
  | "upper" => some Char.isUpper
  | "xdigit" => some fun c => c.isDigit || ('a' ≤ c && c ≤ 'f') || ('A' ≤ c && c ≤ 'F')
  | _ => none

inductive Member where
  | range (first last : Char)
  | named (name : List Char)
  deriving DecidableEq, Repr

def Member.has (m : Member) (c : Char) : Bool :=
  match m with
  | .range first last => first ≤ c && c ≤ last
  | .named name => (namedClass? name).any (· c)

inductive PatternItem where
  | char (c : Char)
  | any
  | star
  | oneOf (negated : Bool) (members : List Member)
  deriving DecidableEq, Repr

/-- A character with a note whether it is quoted. -/
abbrev PatternChar := Char × Bool

/-- Backslashes that quote make way for the characters they quote. -/
def unescaped : List PatternChar → List PatternChar
  | ('\\', false) :: (c, _) :: rest => (c, true) :: unescaped rest
  | e :: rest => e :: unescaped rest
  | [] => []

/-- A class name after a bracket, and how many characters it takes with all that closes it. -/
def className? (cs : List PatternChar) : Option (List Char × Nat) :=
  match cs with
  | (':', false) :: rest =>
    let name := (rest.takeWhile fun e => !e.2 && e.1.isAlpha).map (·.1)
    match rest.drop name.length with
    | (':', false) :: (']', false) :: _ =>
      if (namedClass? name).isSome then some (name, name.length + 3) else none
    | _ => none
  | _ => none

/-- The members up to the closing bracket, and how many characters they take. A bracket right at the
start is a member. -/
def bracketMembers (first : Bool) (skip : Nat) : List PatternChar → Option (List Member × Nat)
  | [] => none
  | (c, quoted) :: cs =>
    match skip with
    | n + 1 => (bracketMembers false n cs).map fun (ms, taken) => (ms, taken + 1)
    | 0 =>
      if c = ']' && !quoted && !first then some ([], 1)
      else
        let member : Member × Nat :=
          match if c = '[' && !quoted then className? cs else none with
          | some (name, n) => (.named name, n)
          | none =>
            match cs with
            | ('-', false) :: (last, lastQuoted) :: _ =>
              if last = ']' && !lastQuoted then (.range c c, 0) else (.range c last, 2)
            | _ => (.range c c, 0)
        (bracketMembers false member.2 cs).map fun (ms, taken) => (member.1 :: ms, taken + 1)

def bracket? (cs : List PatternChar) : Option (PatternItem × Nat) :=
  match cs with
  | ('!', false) :: rest => (bracketMembers true 0 rest).map fun (ms, n) => (.oneOf true ms, n + 1)
  | _ => (bracketMembers true 0 cs).map fun (ms, n) => (.oneOf false ms, n)

/-- The items of a pattern; `skip` characters are already taken. -/
def itemsFrom (skip : Nat) : List PatternChar → List PatternItem
  | [] => []
  | (c, quoted) :: rest =>
    match skip with
    | n + 1 => itemsFrom n rest
    | 0 =>
      if quoted then .char c :: itemsFrom 0 rest
      else if c = '*' then .star :: itemsFrom 0 rest
      else if c = '?' then .any :: itemsFrom 0 rest
      else if c = '[' then
        match bracket? rest with
        | some (item, n) => item :: itemsFrom n rest
        | none => .char c :: itemsFrom 0 rest
      else .char c :: itemsFrom 0 rest

def patternItems (cs : List PatternChar) : List PatternItem := itemsFrom 0 (unescaped cs)

def PatternItem.fits (item : PatternItem) (c : Char) : Bool :=
  match item with
  | .char d => c = d
  | .any | .star => true
  | .oneOf negated members => (members.any (·.has c)) != negated

/-- Does the pattern fit the whole text? -/
def matchesAll : List PatternItem → List Char → Bool
  | [], cs => cs.isEmpty
  | .star :: items, [] => matchesAll items []
  | .star :: items, c :: cs => matchesAll items (c :: cs) || matchesAll (.star :: items) cs
  | _ :: _, [] => false
  | item :: items, c :: cs => item.fits c && matchesAll items cs
  termination_by items cs => items.length + cs.length

/-- How many characters from the start fit the items, shortest first. -/
def fittingStarts (items : List PatternItem) (cs : List Char) : List Nat :=
  (List.range (cs.length + 1)).filter fun n => matchesAll items (cs.take n)

/-- Where the ends begin that fit the items, longest first. -/
def fittingEnds (items : List PatternItem) (cs : List Char) : List Nat :=
  (List.range (cs.length + 1)).filter fun n => matchesAll items (cs.drop n)

/-- Without a part that fits, if there is one. -/
def cutFitting (atEnd longest : Bool) (items : List PatternItem) (cs : List Char) : List Char :=
  if atEnd then
    let ends := fittingEnds items cs
    match if longest then ends.head? else ends.getLast? with
    | some n => cs.take n
    | none => cs
  else
    let starts := fittingStarts items cs
    match if longest then starts.getLast? else starts.head? with
    | some n => cs.drop n
    | none => cs

end TraceView.Shell
