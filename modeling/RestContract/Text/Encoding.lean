import RestContract.Text.Digits

/-!
# Reading bytes as text

The text of a run of bytes in the 8-bit encoding of Unicode. The encoding is checked strictly: the
first bytes that start no character, or that break one off, are named together with their position.
-/

namespace RestContract.Text

/-- Why bytes are no text. -/
inductive DecodeFault where
  | start
  | continuation
  | truncated
  deriving DecidableEq, Repr

def DecodeFault.message : DecodeFault → String
  | .start => "invalid start byte"
  | .continuation => "invalid continuation byte"
  | .truncated => "unexpected end of data"

/-- Bytes that are no text: the position of the first, and how many belong to the fault. -/
structure DecodeError where
  fault : DecodeFault
  byte : Nat
  position : Nat
  count : Nat
  deriving DecidableEq, Repr

def DecodeError.message (e : DecodeError) : String :=
  let place :=
    if e.count = 1 then
      "byte 0x" ++ hex 2 e.byte ++ " in position " ++ toString e.position
    else
      "bytes in position " ++ toString e.position ++ "-" ++ toString (e.position + e.count - 1)
  "'utf-8' codec can't decode " ++ place ++ ": " ++ e.fault.message

def isContinuation (byte : Nat) : Bool := 0x80 ≤ byte && byte < 0xc0

/-- Whether a byte may follow the first byte of a character. Some first bytes allow only a part of
    the continuation bytes, so that every character has one form and surrogates have none. -/
def isSecond (first second : Nat) : Bool :=
  isContinuation second &&
    (first != 0xe0 || 0xa0 ≤ second) && (first != 0xed || second < 0xa0) &&
    (first != 0xf0 || 0x90 ≤ second) && (first != 0xf4 || second < 0x90)

/-- The number of bytes of a character by its first byte. -/
def byteCount? (first : Nat) : Option Nat :=
  if first < 0x80 then some 1
  else if first < 0xc2 then none
  else if first < 0xe0 then some 2
  else if first < 0xf0 then some 3
  else if first < 0xf5 then some 4
  else none

/-- How many of the bytes after the first are as they should be. -/
def goodBytes (first : Nat) : List Nat → Nat
  | [] => 0
  | second :: rest =>
    if isSecond first second then 1 + (rest.takeWhile isContinuation).length else 0

/-- The payload of a first byte of a character of some length. -/
def leadBits (count first : Nat) : Nat :=
  match count with
  | 1 => first
  | 2 => first % 0x20
  | 3 => first % 0x10
  | _ => first % 8

/-- The first character of bytes with how many further bytes it takes, or what is wrong there with
    how many further bytes belong to it. -/
def leading (first : Nat) (rest : List Nat) : Except (DecodeFault × Nat) (Char × Nat) :=
  match byteCount? first with
  | none => .error (.start, 0)
  | some count =>
    let others := rest.take (count - 1)
    let good := goodBytes first others
    if good < others.length then .error (.continuation, good)
    else if others.length < count - 1 then .error (.truncated, others.length)
    else
      let code := others.foldl (fun code byte => code * 0x40 + byte % 0x40) (leadBits count first)
      .ok (Char.ofNat code, count - 1)

/-- The characters of bytes from a position on. -/
def decodeFrom (position : Nat) : List Nat → Except DecodeError (List Char)
  | [] => .ok []
  | first :: rest =>
    match leading first rest with
    | .error (fault, more) => .error ⟨fault, first, position, 1 + more⟩
    | .ok (c, more) =>
      match decodeFrom (position + 1 + more) (rest.drop more) with
      | .ok text => .ok (c :: text)
      | .error e => .error e
  termination_by bytes => bytes.length
  decreasing_by simp only [List.length_drop, List.length_cons]; omega

/-- The text of a run of bytes. -/
def decode (bytes : List Nat) : Except DecodeError (List Char) := decodeFrom 0 bytes

/-- The character that stands for bytes that are no text. -/
def replacement : Char := '\ufffd'

/-- The text of a run of bytes in which a replacement stands for each fault. -/
def decodeAnyway : List Nat → List Char
  | [] => []
  | first :: rest =>
    match leading first rest with
    | .error (_, more) => replacement :: decodeAnyway (rest.drop more)
    | .ok (c, more) => c :: decodeAnyway (rest.drop more)
  termination_by bytes => bytes.length
  decreasing_by all_goals simp only [List.length_drop, List.length_cons]; omega

end RestContract.Text
