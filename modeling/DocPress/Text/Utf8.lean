import DocPress.Text.Basic

namespace DocPress.Text.Utf8

abbrev Bytes := List UInt8

def byte (n : Nat) : UInt8 := UInt8.ofNat n

/-- The bytes of a code point, a surrogate included. -/
def encodePoint (c : CodePoint) : Bytes :=
  let n := c.val
  if n < 0x80 then [byte n]
  else if n < 0x800 then [byte (0xC0 + n / 0x40), byte (0x80 + n % 0x40)]
  else if n < 0x10000 then
    [byte (0xE0 + n / 0x1000), byte (0x80 + n / 0x40 % 0x40), byte (0x80 + n % 0x40)]
  else
    [byte (0xF0 + n / 0x40000), byte (0x80 + n / 0x1000 % 0x40), byte (0x80 + n / 0x40 % 0x40),
      byte (0x80 + n % 0x40)]

def encode? (t : Text) : Option Bytes :=
  if t.isUnicode then some (t.flatMap encodePoint) else none

/-- Surrogates from here on stand for the bytes from 0x80 on. -/
def escapeBase : Nat := 0xDC00

/-- A surrogate that stands for a byte is written as that byte. -/
def encodePointLenient (c : CodePoint) : Bytes :=
  if escapeBase + 0x80 ≤ c.val && c.val ≤ escapeBase + 0xFF then [byte (c.val - escapeBase)]
  else encodePoint c

def encodeLenient (t : Text) : Bytes := t.flatMap encodePointLenient

inductive Reason where
  | startByte
  | continuationByte
  | endOfData
deriving DecidableEq

def Reason.message : Reason → String
  | startByte => "invalid start byte"
  | continuationByte => "invalid continuation byte"
  | endOfData => "unexpected end of data"

/-- A malformed sequence of `length` bytes. -/
structure Fault where
  reason : Reason
  length : Nat
deriving DecidableEq

def isContinuation (b : UInt8) : Bool := 0x80 ≤ b && b < 0xC0

/-- Whether `second` may follow `first` at the start of a sequence of three or four bytes: the
sequence is not longer than needed, is no surrogate and is not above the last code point. -/
def mayFollow (first second : UInt8) : Bool :=
  isContinuation second &&
    (if first == 0xE0 then 0xA0 ≤ second
     else if first == 0xED then second < 0xA0
     else if first == 0xF0 then 0x90 ≤ second
     else if first == 0xF4 then second < 0x90
     else true)

def continuationBits (b : UInt8) : Nat := b.toNat % 0x40

/-- The first code point of a non-empty byte sequence and the bytes after it. -/
def decodePoint (first : UInt8) (rest : Bytes) : Except Fault (CodePoint × Bytes) :=
  if first < 0x80 then .ok (.ofNat first.toNat, rest)
  else if first < 0xC2 then .error ⟨.startByte, 1⟩
  else if first < 0xE0 then
    match rest with
    | [] => .error ⟨.endOfData, 1⟩
    | b :: rest =>
      if isContinuation b then .ok (.ofNat (first.toNat % 0x20 * 0x40 + continuationBits b), rest)
      else .error ⟨.continuationByte, 1⟩
  else if first < 0xF0 then
    match rest with
    | [] => .error ⟨.endOfData, 1⟩
    | b :: rest =>
      if !mayFollow first b then .error ⟨.continuationByte, 1⟩
      else
        match rest with
        | [] => .error ⟨.endOfData, 2⟩
        | c :: rest =>
          if isContinuation c then
            .ok (.ofNat (first.toNat % 0x10 * 0x1000 + continuationBits b * 0x40 +
              continuationBits c), rest)
          else .error ⟨.continuationByte, 2⟩
  else if first < 0xF5 then
    match rest with
    | [] => .error ⟨.endOfData, 1⟩
    | b :: rest =>
      if !mayFollow first b then .error ⟨.continuationByte, 1⟩
      else
        match rest with
        | [] => .error ⟨.endOfData, 2⟩
        | c :: rest =>
          if !isContinuation c then .error ⟨.continuationByte, 2⟩
          else
            match rest with
            | [] => .error ⟨.endOfData, 3⟩
            | d :: rest =>
              if isContinuation d then
                .ok (.ofNat (first.toNat % 8 * 0x40000 + continuationBits b * 0x1000 +
                  continuationBits c * 0x40 + continuationBits d), rest)
              else .error ⟨.continuationByte, 3⟩
  else .error ⟨.startByte, 1⟩

/-- A fault, the position of its first byte and that byte. -/
structure FaultAt where
  fault : Fault
  position : Nat
  first : UInt8
deriving DecidableEq

def decodeInto (acc : Text) : Nat → Nat → Bytes → Except FaultAt Text
  | _, _, [] => .ok acc.reverse
  | 0, _, _ :: _ => .ok acc.reverse
  | fuel + 1, position, b :: rest =>
    match decodePoint b rest with
    | .error fault => .error ⟨fault, position, b⟩
    | .ok (c, rest') =>
      decodeInto (c :: acc) fuel (position + (encodePoint c).length) rest'

def decode (bytes : Bytes) : Except FaultAt Text := decodeInto [] bytes.length 0 bytes

def decodeLenientFuel : Nat → Bytes → Text
  | _, [] => []
  | 0, _ :: _ => []
  | fuel + 1, b :: rest =>
    match decodePoint b rest with
    | .ok (c, rest') => c :: decodeLenientFuel fuel rest'
    | .error _ => .ofNat (escapeBase + b.toNat) :: decodeLenientFuel fuel rest

/-- Each byte of a malformed sequence becomes the surrogate that stands for it. -/
def decodeLenient (bytes : Bytes) : Text := decodeLenientFuel bytes.length bytes

def FaultAt.message (f : FaultAt) : Text :=
  let place :=
    if f.fault.length = 1 then
      text "byte 0x" ++ hex 2 f.first.toNat ++ text " in position " ++ .ofNat f.position
    else
      text "bytes in position " ++ .ofNat f.position ++ text "-" ++
        .ofNat (f.position + f.fault.length - 1)
  text "'utf-8' codec can't decode " ++ place ++ text ": " ++ text f.fault.reason.message

end DocPress.Text.Utf8
