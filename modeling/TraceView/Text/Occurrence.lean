/-!
# Occurrences of one text in another

Finding, removing and replacing. Occurrences are taken from the left and do not overlap.
-/

namespace TraceView.Text

/-- What follows `word` if `cs` starts with it. -/
def after? : (word cs : List Char) → Option (List Char)
  | [], cs => some cs
  | _ :: _, [] => none
  | w :: ws, c :: cs => if w = c then after? ws cs else none

theorem after?_eq_some_iff {word cs rest : List Char} :
    after? word cs = some rest ↔ cs = word ++ rest := by
  induction word generalizing cs with
  | nil => simp [after?]
  | cons w ws ih => cases cs <;> grind [after?]

def occursIn (word : List Char) : List Char → Bool
  | [] => word.isEmpty
  | c :: cs => (after? word (c :: cs)).isSome || occursIn word cs

/-- `skip` counts the characters of an occurrence that are still to be passed over. -/
def replaceFrom (word new : List Char) : (skip : Nat) → List Char → List Char
  | _, [] => []
  | skip + 1, _ :: cs => replaceFrom word new skip cs
  | 0, c :: cs =>
    if word.isPrefixOf (c :: cs) then new ++ replaceFrom word new (word.length - 1) cs
    else c :: replaceFrom word new 0 cs

def contains (text word : String) : Bool :=
  occursIn word.toList text.toList

/-- Nothing is replaced when the word is empty. -/
def replace (text word new : String) : String :=
  if word.isEmpty then text
  else String.ofList (replaceFrom word.toList new.toList 0 text.toList)

end TraceView.Text
