import DocPress.Url.Percent
import DocPress.Url.Punycode

namespace DocPress

structure Url where
  /-- With its colon. -/
  protocol : Text := []
  /-- Two slashes stand before the host. -/
  slashes : Bool := false
  auth : Text := []
  hostname : Text := []
  port : Text := []
  pathname : Text := []
  /-- With its question mark. -/
  search : Text := []
  /-- With its number sign. -/
  fragment : Text := []

namespace Url

/-- Letters without regard to case, which takes in four letters outside of ASCII. -/
def isProtocolLetter (c : CodePoint) : Bool :=
  c.isLetter || c.val == 0x130 || c.val == 0x131 || c.val == 0x17F || c.val == 0x212A

def isProtocolPoint (c : CodePoint) : Bool :=
  isProtocolLetter c || c.isDigit || c == '.' || c == '+' || c == '-'

def readProtocol (t : Text) : Text × Text :=
  let (name, rest) := t.span isProtocolPoint
  match rest with
  | [] => ([], t)
  | c :: rest => if name ≠ [] ∧ c = ':' then (name ++ [c], rest) else ([], t)

def isHostless (protocol : Text) : Bool := protocol == text "javascript:"

def slashedProtocols : List Text :=
  [text "http:", text "https:", text "ftp:", text "gopher:", text "file:"]

def endsHost (c : CodePoint) : Bool := c == '/' || c == '?' || c == '#'

/-- Never part of a host name. -/
def isNoHostPoint (c : CodePoint) : Bool :=
  c ∈ text "%/?;#\x27\x7b\x7d|\\^\x60<>\x22 \r\n\t"

/-- What stands before the last at sign of the part that may hold a host, and what follows it. -/
def splitAuth (t : Text) : Option (Text × Text) :=
  let area := t.takeWhile (!endsHost ·)
  let after := area.reverse.takeWhile (· ≠ ('@' : CodePoint))
  if after.length = area.length then none
  else
    let cut := area.length - after.length
    some (t.take (cut - 1), t.drop cut)

/-- Takes the port off a host. A colon without digits is dropped. -/
def splitPort (host : Text) : Text × Text :=
  let digits := (host.reverse.takeWhile CodePoint.isDigit).reverse
  let before := host.take (host.length - digits.length)
  match before.reverse with
  | [] => (host, [])
  | c :: name => if c = ':' then (name.reverse, digits) else (host, [])

def isHostnamePoint (c : CodePoint) : Bool := c.isAlphanumeric || c == '+' || c == '_' || c == '-'

def maxLabelLength : Nat := 63

/-- A label of a host name; any code point outside of ASCII may stand in it. -/
def isLabel (part : Text) : Bool :=
  part.length ≤ maxLabelLength && part.all fun c => isHostnamePoint c || c.val > 0x7F

/-- The host name up to the first code point that cannot stand in it, and what is cut off. -/
def splitHostname (done : List Text) : List Text → List Text × Option Text
  | [] => (done, none)
  | part :: parts =>
    if isLabel part then splitHostname (done ++ [part]) parts
    else
      let kept := (part.takeWhile isHostnamePoint).take maxLabelLength
      (done ++ [kept], some (Text.join (text ".") (part.drop kept.length :: parts)))

def maxHostnameLength : Nat := 255

/-- The host name, and what follows it in the URL. -/
def checkHostname (hostname rest : Text) : Text × Text :=
  if hostname.head? = some ('[' : CodePoint) ∧ hostname.getLast? = some (']' : CodePoint) then
    (if hostname.length > maxHostnameLength then [] else (hostname.drop 1).dropLast, rest)
  else
    let (parts, cut) := splitHostname [] (Text.splitAt '.' hostname)
    let name := Text.join (text ".") parts
    (if name.length > maxHostnameLength then [] else name, cut.getD [] ++ rest)

def readHost (url : Url) (t : Text) : Url × Text :=
  let (auth, t) := (splitAuth t).getD ([], t)
  let length := (t.takeWhile (!isNoHostPoint ·)).length
  let length := if t[length - 1]? = some (':' : CodePoint) ∧ length > 0 then length - 1 else length
  let (hostname, port) := splitPort (t.take length)
  let (hostname, rest) := checkHostname hostname (t.drop length)
  ({ url with auth, hostname, port }, rest)

def readTail (url : Url) (t : Text) : Url :=
  let (t, fragment) := t.span (· ≠ ('#' : CodePoint))
  let (pathname, search) := t.span (· ≠ ('?' : CodePoint))
  { url with pathname, search, fragment }

/-- A text that begins with two slashes has a host. -/
def parse (t : Text) : Url :=
  let (protocol, t) := readProtocol t.trim
  let slashes := t.startsWith (text "//") && !isHostless protocol
  let t := if slashes then t.drop 2 else t
  let url : Url := { protocol, slashes }
  let hasHost := slashes || (protocol ≠ [] && !slashedProtocols.contains protocol)
  if hasHost && !isHostless protocol then
    let (url, rest) := readHost url t
    readTail url rest
  else readTail url t

def format (u : Url) : Text :=
  u.protocol ++ (if u.slashes then text "//" else []) ++
  (if u.auth.isEmpty then [] else u.auth ++ text "@") ++
  (if (':' : CodePoint) ∈ u.hostname then text "[" ++ u.hostname ++ text "]" else u.hostname) ++
  (if u.port.isEmpty then [] else text ":" ++ u.port) ++
  u.pathname ++ u.search ++ u.fragment

def isLabelSeparator (c : CodePoint) : Bool :=
  c == '.' || c.val == 0x3002 || c.val == 0xFF0E || c.val == 0xFF61

def labels : Text → List Text
  | [] => [[]]
  | c :: r =>
    match labels r with
    | [] => [[c]]
    | p :: ps => if isLabelSeparator c then [] :: p :: ps else (c :: p) :: ps

/-- Applies `f` to the labels of a host name, of an address only to those between the first at sign
and the second. -/
def mapLabels? (f : Text → Option Text) (hostname : Text) : Option Text :=
  match Text.splitAt '@' hostname with
  | before :: domain :: _ =>
    ((labels domain).mapM f).map fun ls => before ++ text "@" ++ Text.join (text ".") ls
  | _ => ((labels hostname).mapM f).map (Text.join (text "."))

def asciiMark : Text := text "xn--"

def asciiLabel (label : Text) : Text :=
  if label.any (·.val > 0x7E) then asciiMark ++ Punycode.encode label else label

def shownLabel? (label : Text) : Option Text :=
  match Text.after? asciiMark label with
  | some rest => Punycode.decode? rest.toLower
  | none => some label

/-- Only the host names of these protocols are recoded, or of none. -/
def recodesHost (u : Url) : Bool :=
  u.protocol.isEmpty || u.protocol == text "http:" || u.protocol == text "https:" ||
  u.protocol == text "mailto:"

/-- Changes the host name; one that cannot be changed stays. -/
def recodeHost (f : Text → Option Text) (u : Url) : Url :=
  if u.recodesHost && !u.hostname.isEmpty then
    { u with hostname := (mapLabels? f u.hostname).getD u.hostname }
  else u

def normalize (t : Text) : Text :=
  percentEncode linkKept ((parse t).recodeHost (fun l => some (asciiLabel l))).format

def shown (t : Text) : Text := percentDecode shownReserved ((parse t).recodeHost shownLabel?).format

/-- Schemes that run code or read files are refused, but for images given as data. The URL is a
normalized one. -/
def isSafe (url : Text) : Bool :=
  let url := Text.toLower (Text.trim url)
  let bad := [text "vbscript:", text "javascript:", text "file:", text "data:"].any (url.startsWith ·)
  let image := ["gif", "png", "jpeg", "webp"].any fun kind =>
    url.startsWith (text "data:image/" ++ text kind ++ text ";")
  !bad || image

end Url

end DocPress
