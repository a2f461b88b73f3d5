import Literate.Text.Code
import Literate.Text.Quoted

/-! Text as UTF-8 bytes. Bytes that are no text stop the strict reading with a cause, and become one
replacement character each time in the lenient one. Halves of surrogate pairs have no bytes. -/

namespace Literate.Utf8

def encode (s : List Char) : List UInt8 := s.flatMap String.utf8EncodeChar

/-- the first halves in a text that has no encoding -/
structure Unencodable where
  position : Nat
  halves : Wording
  deriving DecidableEq, Repr, Inhabited

def Unencodable.message (e : Unencodable) : String :=
  "'utf-8' codec can't encode " ++
    (if e.halves.length = 1 then
      "character '" ++ String.ofList (e.halves.flatMap fun h => Text.escapeCode h.toNat) ++
        "' in position " ++ toString e.position
    else
      "characters in position " ++ toString e.position ++ "-" ++
        toString (e.position + e.halves.length - 1)) ++
    ": surrogates not allowed"

/-- the characters of a text without halves -/
def chars? (w : Wording) : Option (List Char) :=
  w.mapM fun
    | .char c => some c
    | .half _ => none

def encodeCodes (w : Wording) : Except Unencodable (List UInt8) :=
  match chars? w with
  | some s => .ok (encode s)
  | none =>
    let behind := w.dropWhile (!·.isHalf)
    .error ⟨w.length - behind.length, behind.takeWhile (·.isHalf)⟩

/-- why bytes are no text -/
inductive Fault where
  | start | continuation | truncated
  deriving DecidableEq, Repr, Inhabited

def Fault.message : Fault → String
  | start => "invalid start byte"
  | continuation => "invalid continuation byte"
  | truncated => "unexpected end of data"

/-- the character or the fault that bytes start with, and how many more bytes than one it takes -/
structure Step where
  read : Except Fault Char
  more : Nat

def isTail (b : UInt8) : Bool := 0x80 ≤ b && b < 0xC0

/-- Whether `b` may follow the first byte `a`: not every second byte may, as there is a shortest form
for each character, no surrogates, and a last code point. -/
def isSecond (a b : UInt8) : Bool :=
  isTail b && (a != 0xE0 || 0xA0 ≤ b) && (a != 0xED || b < 0xA0) && (a != 0xF0 || 0x90 ≤ b) &&
    (a != 0xF4 || b < 0x90)

/-- low bits of continuation bytes, six each, under the bits `n` -/
def assemble (n : Nat) (tails : List UInt8) : Char :=
  Char.ofNat (tails.foldl (fun n b => n * 64 + (b.toNat - 0x80)) n)

/-- reads what the bytes `a :: rest` start with; a faulty character ends before the first byte that
cannot belong to it -/
def step (a : UInt8) (rest : List UInt8) : Step :=
  if a < 0x80 then ⟨.ok (Char.ofNat a.toNat), 0⟩
  else if a < 0xC2 || 0xF5 ≤ a then ⟨.error .start, 0⟩
  else
    match rest with
    | [] => ⟨.error .truncated, 0⟩
    | b :: rest =>
      if !isSecond a b then ⟨.error .continuation, 0⟩
      else if a < 0xE0 then ⟨.ok (assemble (a.toNat - 0xC0) [b]), 1⟩
      else
        match rest with
        | [] => ⟨.error .truncated, 1⟩
        | c :: rest =>
          if !isTail c then ⟨.error .continuation, 1⟩
          else if a < 0xF0 then ⟨.ok (assemble (a.toNat - 0xE0) [b, c]), 2⟩
          else
            match rest with
            | [] => ⟨.error .truncated, 2⟩
            | d :: _ =>
              if !isTail d then ⟨.error .continuation, 2⟩
              else ⟨.ok (assemble (a.toNat - 0xF0) [b, c, d]), 3⟩

/-- every fault becomes a replacement character -/
def decodeLenient (bytes : List UInt8) : List Char :=
  match bytes with
  | [] => []
  | a :: rest =>
    let s := step a rest
    let c := match s.read with
      | .ok c => c
      | .error _ => '\ufffd'
    c :: decodeLenient (rest.drop s.more)
termination_by bytes.length
decreasing_by simp only [List.length_drop, List.length_cons]; omega

/-- the first bytes of an input that are no text -/
structure Invalid where
  fault : Fault
  position : Nat
  byte : UInt8
  count : Nat
  deriving DecidableEq, Repr, Inhabited

def hexDigits (b : UInt8) : String :=
  String.ofList [digit (b.toNat / 16), digit (b.toNat % 16)]
where
  digit (n : Nat) : Char := if n < 10 then Char.ofNat (48 + n) else Char.ofNat (87 + n)

def Invalid.message (e : Invalid) : String :=
  "'utf-8' codec can't decode " ++
    (if e.count = 1 then
      "byte 0x" ++ hexDigits e.byte ++ " in position " ++ toString e.position
    else
      "bytes in position " ++ toString e.position ++ "-" ++
        toString (e.position + e.count - 1)) ++
    ": " ++ e.fault.message

def decode (bytes : List UInt8) : Except Invalid (List Char) := go 0 bytes
where
  go (position : Nat) (bytes : List UInt8) : Except Invalid (List Char) :=
    match bytes with
    | [] => .ok []
    | a :: rest =>
      let s := step a rest
      match s.read with
      | .error fault => .error ⟨fault, position, a, s.more + 1⟩
      | .ok c =>
        match go (position + s.more + 1) (rest.drop s.more) with
        | .ok cs => .ok (c :: cs)
        | .error e => .error e
  termination_by bytes.length
  decreasing_by simp only [List.length_drop, List.length_cons]; omega

/-- ASCII layout bytes -/
def isBlank (b : UInt8) : Bool := b == 32 || (9 ≤ b && b ≤ 13)

/-- the bytes behind the last line feed -/
def lastLine (bytes : List UInt8) : List UInt8 := (bytes.reverse.takeWhile (· != 10)).reverse

end Literate.Utf8
