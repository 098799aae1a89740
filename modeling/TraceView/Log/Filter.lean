import TraceView.Log.Directive

/-!
# Log filters

A filter is a list of directives, written with commas. Of the directives that cover a line the most
particular one decides; a line that none covers is not written. Lines are never in spans, so a
directive that asks for a span, or for a value that a span would have, covers nothing.
-/

namespace TraceView.Log

def Threshold.rank : Threshold → Nat
  | .off => 0
  | .error => 1
  | .warn => 2
  | .info => 3
  | .debug => 4
  | .trace => 5

def Level.rank : Level → Nat
  | .warn => 2
  | .info => 3
  | .debug => 4

def Threshold.lets (t : Threshold) (level : Level) : Bool := level.rank ≤ t.rank

abbrev Filter := List Directive

/-- The parts of a text between commas, the empty ones left out. -/
def commaParts (cs : List Char) : List (List Char) :=
  (cs.foldr (fun c parts => match parts with
    | part :: rest => if c = ',' then [] :: part :: rest else (c :: part) :: rest
    | [] => []) [[]]).filter (· ≠ [])

/-- None if a directive cannot be read. -/
def Filter.read? (s : String) : Option Filter :=
  match commaParts s.toList with
  | [] => some [.all .error]
  | parts => parts.mapM Directive.read?

def Filter.usual : Filter := [.all .info]

/-- What the environment asks for, if that can be read. -/
def Filter.ofSetting (setting : Option String) : Filter :=
  (setting.bind Filter.read?).getD .usual

/-- Does a line have a value of that name? The message has a name too. -/
def Line.hasField (line : Line) (name : String) : Bool :=
  name = "message" || line.values.any (·.1 = name)

def Directive.covers (d : Directive) (line : Line) : Bool :=
  !d.inSpan && !d.ofValue && d.part.toList.isPrefixOf line.origin.path.toList &&
    d.field.all line.hasField

/-- Is the second directive at least as particular? A longer part counts first, then a name. -/
def Directive.yieldsTo (d e : Directive) : Bool :=
  d.part.length < e.part.length ||
    (d.part.length = e.part.length &&
      match d.field, e.field with
      | none, _ => true
      | some _, none => false
      | some a, some b => a ≤ b)

/-- Of two directives the one that decides; of equally particular ones the later. -/
def stronger (best : Option Directive) (d : Directive) : Option Directive :=
  match best with
  | none => some d
  | some b => if b.yieldsTo d then some d else some b

def Filter.lets (f : Filter) (line : Line) : Bool :=
  match (f.filter (·.covers line)).foldl stronger none with
  | none => false
  | some d => d.threshold.lets line.level

end TraceView.Log
