import DocPress.Text.Basic

namespace DocPress.CommandLine

inductive Opt where
  | help
  | version
  | verbose
  | quiet
  | format
  | output
  | noDiagrams
  | drawer
  | background
  | seconds
deriving DecidableEq

def Opt.takesValue : Opt → Bool
  | format | output | drawer | background | seconds => true
  | help | version | verbose | quiet | noDiagrams => false

abbrev Names := List (Text × Opt)

/-- The options that were given, in order, with their values, and the other words. -/
structure Words where
  given : List (Opt × Text)
  operands : List Text

/-- An option in the place of `words`: its value is `attached` or the next word. -/
def takeOption (o : Opt) (attached : Option Text) (words : List Text) :
    Option ((Opt × Text) × List Text) :=
  match o.takesValue, attached, words with
  | true, some value, words => some ((o, value), words)
  | true, none, value :: words => some ((o, value), words)
  | true, none, [] => none
  | false, some _, _ => none
  | false, none, words => some ((o, []), words)

def dash : CodePoint := '-'

/-- Short options written in one word; what follows one that takes a value is that value. -/
def takeShort (names : Names) : Text → List Text → Option (List (Opt × Text) × List Text)
  | [], words => some ([], words)
  | c :: rest, words =>
    match names.lookup [dash, c] with
    | none => none
    | some o =>
      if o.takesValue then do
        let (item, words) ← takeOption o (if rest = [] then none else some rest) words
        return ([item], words)
      else do
        let (items, words) ← takeShort names rest words
        return ((o, []) :: items, words)

/-- A word that begins with a dash: a long option, or else short ones. -/
def takeWord (names : Names) (word : Text) (words : List Text) :
    Option (List (Opt × Text) × List Text) :=
  let (name, attached) := match Text.breakOn (text "=") word with
    | some (name, value) => (name, some value)
    | none => (word, none)
  match if name.length = 2 then none else names.lookup name with
  | some o => (takeOption o attached words).map fun (item, words) => ([item], words)
  | none =>
    if Text.startsWith word (text "--") then none else takeShort names (word.drop 1) words

/-- Sorts the words. With `mixed`, options may also follow other words. -/
def sortFuel (names : Names) (mixed : Bool) : Nat → List Text → Option Words
  | 0, _ => none
  | _, [] => some ⟨[], []⟩
  | fuel + 1, word :: words =>
    if word = text "--" then some ⟨[], words⟩
    else if word.head? = some dash ∧ 1 < word.length then do
      let (items, words) ← takeWord names word words
      let sorted ← sortFuel names mixed fuel words
      return { sorted with given := items ++ sorted.given }
    else if mixed then do
      let sorted ← sortFuel names mixed fuel words
      return { sorted with operands := word :: sorted.operands }
    else some ⟨[], word :: words⟩

/-- The words of a command; `none` if an option is unknown, lacks its value or has one it does not
take. -/
def Words.sort (names : Names) (mixed : Bool) (words : List Text) : Option Words :=
  sortFuel names mixed (words.length + 1) words

def Words.value? (w : Words) (o : Opt) : Option Text := w.given.reverse.lookup o

def Words.has (w : Words) (o : Opt) : Bool := (w.value? o).isSome

end DocPress.CommandLine
