import DocPress.Text.Quoted

namespace DocPress

/-- Where a path starts. Two leading slashes are a root of their own, more than two are as one. -/
inductive Root where
  | relative
  | single
  | double
deriving DecidableEq

structure Path where
  root : Root
  parts : List Text
deriving DecidableEq

namespace Path

def slash : CodePoint := '/'

def dot : Text := text "."

def dotDot : Text := text ".."

def Root.ofSlashes : Nat → Root
  | 0 => .relative
  | 2 => .double
  | _ => .single

def Root.toText : Root → Text
  | .relative => []
  | .single => text "/"
  | .double => text "//"

/-- Empty components and `.` say nothing and are left out. -/
def splitParts (t : Text) : List Text := (Text.splitAt slash t).filter fun p => p ≠ [] && p ≠ dot

def ofText (t : Text) : Path := ⟨Root.ofSlashes (t.takeWhile (· = slash)).length, splitParts t⟩

def toText (p : Path) : Text :=
  if p.root = .relative ∧ p.parts = [] then dot else Root.toText p.root ++ Text.join [slash] p.parts

def shown (p : Path) : Text := text "PosixPath(" ++ p.toText.quoted ++ text ")"

def isAbsolute (p : Path) : Bool := p.root ≠ .relative

/-- An absolute path takes the place of what stands before it. -/
def join (p q : Path) : Path := if q.isAbsolute then q else { p with parts := p.parts ++ q.parts }

def child (p : Path) (name : Text) : Path := p.join (ofText name)

def parent (p : Path) : Path := { p with parts := p.parts.dropLast }

def name (p : Path) : Text := p.parts.getLastD []

/-- One component on the stack of those before it, the last on top: `..` takes one away, but not
another `..`, and there is nothing above a root. -/
def push (absolute : Bool) (stack : List Text) (part : Text) : List Text :=
  if part = dotDot then
    match stack with
    | [] => if absolute then [] else [dotDot]
    | top :: rest => if top = dotDot then dotDot :: stack else rest
  else part :: stack

def normalize (p : Path) : Path := { p with parts := (p.parts.foldl (push p.isAbsolute) []).reverse }

/-- `path` as it is meant from `base`, without `..` where that can be said. -/
def absolute (base path : Path) : Path := (base.join path).normalize

/-- What stands before the last dot, and from it on: a dot that begins or ends a name begins no
suffix. -/
def splitSuffix (name : Text) : Text × Text :=
  let suffix := (name.reverse.takeWhile (· ≠ ('.' : CodePoint))).reverse
  let stem := name.take (name.length - suffix.length - 1)
  if suffix = [] ∨ suffix = name ∨ stem = [] then (name, []) else (stem, '.' :: suffix)

/-- The path with another suffix of its name; a path without a name has none. -/
def withSuffix? (suffix : Text) (p : Path) : Option Path :=
  if p.name = [] then none
  else some { p with parts := p.parts.dropLast ++ [(splitSuffix p.name).1 ++ suffix] }

/-- The stack of its own components. -/
def Settled (absolute : Bool) (stack : List Text) : Prop :=
  stack.reverse.foldl (push absolute) [] = stack

theorem settled_push {absolute : Bool} {stack : List Text} (h : Settled absolute stack) (part : Text) :
    Settled absolute (push absolute stack part) := by
  by_cases hp : part = dotDot
  · cases stack with
    | nil => cases absolute <;> simp [Settled, push, hp]
    | cons top rest =>
      by_cases ht : top = dotDot
      · simp_all [Settled, push]
      · simp_all [Settled, push]
  · simp_all [Settled, push]

theorem settled_foldl_push (absolute : Bool) (parts stack : List Text) (h : Settled absolute stack) :
    Settled absolute (parts.foldl (push absolute) stack) := by
  induction parts generalizing stack with
  | nil => exact h
  | cons part rest ih => exact ih _ (settled_push h part)

theorem normalize_normalize (p : Path) : p.normalize.normalize = p.normalize := by
  have h : Settled p.isAbsolute (p.parts.foldl (push p.isAbsolute) []) :=
    settled_foldl_push _ _ _ rfl
  exact congrArg (fun stack => { p with parts := stack.reverse }) h

theorem dotDot_notMem_push {stack : List Text} (h : dotDot ∉ stack) (part : Text) :
    dotDot ∉ push true stack part := by
  by_cases hp : part = dotDot
  · cases stack with
    | nil => simp [push, hp]
    | cons top rest =>
      obtain ⟨ht, hr⟩ := not_or.1 (mt List.mem_cons.2 h)
      simpa [push, hp, Ne.symm ht] using hr
  · simpa [push, hp, Ne.symm hp] using h

theorem dotDot_notMem_foldl_push (parts : List Text) {stack : List Text} (h : dotDot ∉ stack) :
    dotDot ∉ parts.foldl (push true) stack := by
  induction parts generalizing stack with
  | nil => exact h
  | cons part rest ih => exact ih (dotDot_notMem_push h part)

theorem dotDot_notMem_normalize {p : Path} (h : p.isAbsolute = true) :
    dotDot ∉ p.normalize.parts := by
  simpa [normalize, h] using dotDot_notMem_foldl_push p.parts (List.not_mem_nil (a := dotDot))

end Path

end DocPress
