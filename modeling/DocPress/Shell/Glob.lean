import DocPress.Text.Basic

namespace DocPress.Shell

abbrev Glob := List (CodePoint × Bool)

/-- Whether a class in brackets holds a code point, and the pattern behind it. -/
def readClass (c : CodePoint) : Nat → Bool → Glob → Option (Bool × Glob)
  | 0, _, _ => none
  | _, _, [] => none
  | fuel + 1, found, (a, quoted) :: rest =>
    if a = ']' ∧ !quoted then some (found, rest)
    else
      match rest with
      | (d, false) :: (b, q) :: more =>
        if d = '-' ∧ ¬(b = ']' ∧ !q) then
          readClass c fuel (found || (a.val ≤ c.val && c.val ≤ b.val)) more
        else readClass c fuel (found || a == c) rest
      | _ => readClass c fuel (found || a == c) rest

def isNegation (c : CodePoint) : Bool := c == '!' || c == '^'

def globMatches : Nat → Glob → Text → Bool
  | 0, _, _ => false
  | _, [], t => t.isEmpty
  | fuel + 1, (p, quoted) :: rest, t =>
    if p = '*' ∧ !quoted then
      globMatches fuel rest t ||
        (match t with
          | [] => false
          | _ :: t => globMatches fuel ((p, quoted) :: rest) t)
    else
      match t with
      | [] => false
      | c :: t =>
        if p = '?' ∧ !quoted then globMatches fuel rest t
        else if p = '[' ∧ !quoted then
          let negated := rest.head?.any fun (c, q) => isNegation c && !q
          match readClass c rest.length false (if negated then rest.drop 1 else rest) with
          | some (found, rest) => found != negated && globMatches fuel rest t
          | none => p == c && globMatches fuel rest t
        else p == c && globMatches fuel rest t

def Glob.accepts (g : Glob) (t : Text) : Bool := globMatches (2 * (g.length + t.length) + 2) g t

/-- How many code points at the start of a text the pattern matches, as few or as many as can be. -/
def Glob.startLength (g : Glob) (longest : Bool) (t : Text) : Option Nat :=
  let lengths := List.range (t.length + 1)
  (if longest then lengths.reverse else lengths).find? fun n => g.accepts (t.take n)

def Glob.endLength (g : Glob) (longest : Bool) (t : Text) : Option Nat :=
  let lengths := List.range (t.length + 1)
  (if longest then lengths.reverse else lengths).find? fun n => g.accepts (t.drop (t.length - n))

end DocPress.Shell
