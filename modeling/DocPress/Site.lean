import DocPress.Fault

namespace DocPress

/-- A file system as it is seen from a working directory. The directory may be gone: then it has no
path, and the system walks relative paths as if nothing had been in it. -/
structure Site where
  files : FileSystem
  here : Location

namespace Site

def pathOf (l : Location) : Path := ⟨.single, l⟩

/-- A path that the system takes: without a NUL, and with only such surrogates as stand for bytes.
-/
def check (path : Text) : Except Fault Unit :=
  if CodePoint.ofChar '\x00' ∈ path then .error .badValue
  else if path.all fun c => !c.isSurrogate || (Text.Utf8.encodePointLenient c).length = 1 then .ok ()
  else .error .notEncodable

def refuse {α : Type} (path : Text) : Except Errno α → Except Fault α
  | .ok a => .ok a
  | .error e => .error (.system ⟨e, path⟩)

def entry (s : Site) (path : Text) : Except Fault Entry := do
  check path
  return (← refuse path (s.files.find s.here path true)).2

/-- Whether there is an entry, and one that `accepts`; a path the system does not take leads to
none. -/
def holds (s : Site) (accepts : Entry → Bool) (path : Text) : Except Fault Bool :=
  match s.entry path with
  | .ok e => .ok (accepts e)
  | .error (.system fault) =>
    if fault.errno.meansAbsent then .ok false else .error (.system fault)
  | .error _ => .ok false

def isDirectory (s : Site) (p : Path) : Except Fault Bool := s.holds (· = .directory) p.toText

def isRegular : Entry → Bool
  | .file _ _ => true
  | _ => false

def isFile (s : Site) (p : Path) : Except Fault Bool := s.holds isRegular p.toText

def exists_ (s : Site) (p : Path) : Except Fault Bool := s.holds (fun _ => true) p.toText

/-- Whether a path leads to a regular file, and nothing is in the way. -/
def hasFile (s : Site) (path : Text) : Bool := (s.holds isRegular path).toOption.getD false

def readBytes (s : Site) (path : Text) : Except Fault Bytes := do
  check path
  refuse path (s.files.read s.here path)

/-- The text of a document: UTF-8 with all line ends made newlines. -/
def readText (s : Site) (p : Path) : Except Fault Text :=
  match s.readBytes p.toText with
  | .error (.system fault) => .error (.unread p (.system fault))
  | .error fault => .error fault
  | .ok bytes =>
    match Text.Utf8.decode bytes with
    | .ok t => .ok (Text.unifyNewlines t)
    | .error fault => .error (.unread p (.malformed fault))

/-- The text of a path; one that is no valid Unicode is refused. -/
def pathText (path : Text) : Except Fault Text :=
  if path.isUnicode then .ok path else .error (.pathNotUnicode path)

/-- Whether a relative path is meant from a working directory that is gone, and so has no path. -/
def isStranded (s : Site) (path : Path) (base : Option Path) : Bool :=
  base.isNone && !path.isAbsolute && !s.files.isDirectoryAt s.here

/-- The path without `.` and `..` as it is meant from `base`, or else from the working directory.
Links are left as they are. -/
def absolute (s : Site) (path : Path) (base : Option Path) : Except Fault Path :=
  if s.isStranded path base then .error (.pathless .noEntry)
  else do
    let p := Path.absolute (base.getD (pathOf s.here)) path
    discard (pathText p.toText)
    return p

theorem isStranded_some (s : Site) (path base : Path) : s.isStranded path (some base) = false := rfl

theorem isStranded_of_isAbsolute {path : Path} (ha : path.isAbsolute = true) (s : Site)
    (base : Option Path) : s.isStranded path base = false := by
  simp [isStranded, ha]

theorem absolute_of_not_isStranded {s : Site} {path : Path} {base : Option Path}
    (h : s.isStranded path base = false) :
    s.absolute path base = do
      let p := Path.absolute (base.getD (pathOf s.here)) path
      discard (pathText p.toText)
      return p := by
  rw [absolute, h]
  rfl

theorem absolute_some (s : Site) (path base : Path) :
    s.absolute path (some base) = do
      discard (pathText (base.absolute path).toText)
      return base.absolute path := rfl

end Site

end DocPress
