import DocPress.Text.Quoted

namespace DocPress

inductive Errno where
  | noEntry
  | inputOutput
  | badFormat
  | denied
  | exists_
  | notDirectory
  | isDirectory
  | fileTooLarge
  | noSpace
  | nameTooLong
  | tooManyLinks
deriving DecidableEq

namespace Errno

def number : Errno → Nat
  | noEntry => 2
  | inputOutput => 5
  | badFormat => 8
  | denied => 13
  | exists_ => 17
  | notDirectory => 20
  | isDirectory => 21
  | fileTooLarge => 27
  | noSpace => 28
  | nameTooLong => 36
  | tooManyLinks => 40

def message : Errno → String
  | noEntry => "No such file or directory"
  | inputOutput => "Input/output error"
  | badFormat => "Exec format error"
  | denied => "Permission denied"
  | exists_ => "File exists"
  | notDirectory => "Not a directory"
  | isDirectory => "Is a directory"
  | fileTooLarge => "File too large"
  | noSpace => "No space left on device"
  | nameTooLong => "File name too long"
  | tooManyLinks => "Too many levels of symbolic links"

/-- Errors that only say that there is nothing usable under a name. -/
def meansAbsent : Errno → Bool
  | noEntry | notDirectory | tooManyLinks => true
  | _ => false

end Errno

/-- What is told of a refused call that was about no path. -/
def Errno.report (e : Errno) : Text :=
  text "[Errno " ++ .ofNat e.number ++ text "] " ++ text e.message

structure SystemFault where
  errno : Errno
  path : Text
deriving DecidableEq

def SystemFault.message (f : SystemFault) : Text :=
  f.errno.report ++ text ": " ++ f.path.quoted

end DocPress
