/-!
# Text in bytes

Decoding of UTF-8, UTF-16 and UTF-32. Bytes that are no text in the encoding are reported with
the codec, the bytes and the reason; `Undecodable.message` is the wording.
-/
namespace Workbench.Text

/-- Why bytes are not text. -/
inductive ByteFault where
  | invalidStart
  | invalidContinuation
  | unexpectedEnd
  | truncated
  | outOfRange
  deriving DecidableEq, Repr

def ByteFault.message : ByteFault → String
  | invalidStart => "invalid start byte"
  | invalidContinuation => "invalid continuation byte"
  | unexpectedEnd => "unexpected end of data"
  | truncated => "truncated data"
  | outOfRange => "code point not in range(0x110000)"

/-- Bytes that are not text: the codec, the first of them with its position, their count, and
the reason. -/
structure Undecodable where
  codec : String
  position : Nat
  byte : Nat
  count : Nat
  fault : ByteFault
  deriving DecidableEq, Repr

/-- A byte as two hexadecimal digits. -/
def hexByte (n : Nat) : String :=
  String.ofList [Nat.digitChar (n / 16), Nat.digitChar (n % 16)]

def Undecodable.message (u : Undecodable) : String :=
  "'" ++ u.codec ++ "' codec can't decode " ++
    (if u.count ≤ 1 then "byte 0x" ++ hexByte u.byte ++ " in position " ++ toString u.position
     else "bytes in position " ++ toString u.position ++ "-" ++
       toString (u.position + u.count - 1)) ++
    ": " ++ u.fault.message

/-- The character of a code point; surrogates stand for no character and become the replacement
character. -/
def charOfCode (n : Nat) : Char :=
  if n.isValidChar then Char.ofNat n else Char.ofNat 0xFFFD

def isContinuation (n : Nat) : Bool := 0x80 ≤ n && n < 0xC0

/-- Can the second byte follow the first in a well-formed sequence? -/
def secondFits (first second : Nat) : Bool :=
  isContinuation second &&
    (first != 0xE0 || 0xA0 ≤ second) && (first != 0xED || second < 0xA0) &&
    (first != 0xF0 || 0x90 ≤ second) && (first != 0xF4 || second < 0x90)

/-- The first character of UTF-8 bytes and how many bytes it takes, or what is wrong and with
how many bytes. -/
def utf8Head (bs : List Nat) : Except (ByteFault × Nat) (Nat × Nat) :=
  match bs with
  | [] => .error (.unexpectedEnd, 0)
  | a :: rest =>
    if a < 0x80 then .ok (a, 1)
    else if a < 0xC2 then .error (.invalidStart, 1)
    else if a < 0xE0 then
      match rest with
      | b :: _ =>
        if isContinuation b then .ok ((a - 0xC0) * 0x40 + (b - 0x80), 2)
        else .error (.invalidContinuation, 1)
      | [] => .error (.unexpectedEnd, 1)
    else if a < 0xF0 then
      match rest with
      | b :: more =>
        if !secondFits a b then .error (.invalidContinuation, 1)
        else
          match more with
          | c :: _ =>
            if isContinuation c then
              .ok (((a - 0xE0) * 0x40 + (b - 0x80)) * 0x40 + (c - 0x80), 3)
            else .error (.invalidContinuation, 2)
          | [] => .error (.unexpectedEnd, 2)
      | [] => .error (.unexpectedEnd, 1)
    else if a < 0xF5 then
      match rest with
      | b :: more =>
        if !secondFits a b then .error (.invalidContinuation, 1)
        else
          match more with
          | c :: last =>
            if !isContinuation c then .error (.invalidContinuation, 2)
            else
              match last with
              | d :: _ =>
                if isContinuation d then
                  .ok ((((a - 0xF0) * 0x40 + (b - 0x80)) * 0x40 + (c - 0x80)) * 0x40 +
                    (d - 0x80), 4)
                else .error (.invalidContinuation, 3)
              | [] => .error (.unexpectedEnd, 3)
          | [] => .error (.unexpectedEnd, 2)
      | [] => .error (.unexpectedEnd, 1)
    else .error (.invalidStart, 1)

/-- The same, except that the three bytes of a surrogate are let through. -/
def utf8HeadLoose (bs : List Nat) : Except (ByteFault × Nat) (Nat × Nat) :=
  match bs with
  | 0xED :: b :: c :: _ =>
    if 0xA0 ≤ b && isContinuation b && isContinuation c then
      .ok ((0xD * 0x40 + (b - 0x80)) * 0x40 + (c - 0x80), 3)
    else utf8Head bs
  | _ => utf8Head bs

/-- Decode by a reader of the first character. `skip` bytes belong to a character that has been
read already. -/
def decodeBy (codec : String) (head : List Nat → Except (ByteFault × Nat) (Nat × Nat)) :
    Nat → Nat → List Nat → List Char → Except Undecodable (List Char)
  | _, _, [], out => .ok out.reverse
  | position, skip + 1, _ :: rest, out => decodeBy codec head (position + 1) skip rest out
  | position, 0, b :: rest, out =>
    match head (b :: rest) with
    | .ok (n, used) =>
      decodeBy codec head (position + 1) (used - 1) rest (charOfCode n :: out)
    | .error (fault, count) => .error ⟨codec, position, b, count, fault⟩

/-- Decode UTF-8. -/
def decodeUtf8 (bs : List Nat) : Except Undecodable (List Char) :=
  decodeBy "utf-8" utf8Head 0 0 bs []

/-- The unit of two bytes in either order. -/
def pair (big : Bool) (a b : Nat) : Nat := if big then a * 0x100 + b else b * 0x100 + a

/-- The first character of UTF-16 bytes: a surrogate pair is one. -/
def utf16Head (big : Bool) (bs : List Nat) : Except (ByteFault × Nat) (Nat × Nat) :=
  match bs with
  | a :: b :: rest =>
    let high := pair big a b
    if 0xD800 ≤ high && high < 0xDC00 then
      match rest with
      | c :: d :: _ =>
        let low := pair big c d
        if 0xDC00 ≤ low && low < 0xE000 then
          .ok (0x10000 + (high - 0xD800) * 0x400 + (low - 0xDC00), 4)
        else .ok (high, 2)
      | _ => .ok (high, 2)
    else .ok (high, 2)
  | _ => .error (.truncated, 1)

/-- The first character of UTF-32 bytes. -/
def utf32Head (big : Bool) (bs : List Nat) : Except (ByteFault × Nat) (Nat × Nat) :=
  match bs with
  | a :: b :: c :: d :: _ =>
    let n := if big then pair true a b * 0x10000 + pair true c d
      else pair false c d * 0x10000 + pair false a b
    if n < 0x110000 then .ok (n, 4) else .error (.outOfRange, 4)
  | short => .error (.truncated, short.length)

/-- The encodings that a payload can be in; `mark` says that a byte-order mark stands first. -/
inductive Encoding where
  | utf8 (mark : Bool)
  | utf16 (big mark : Bool)
  | utf32 (big mark : Bool)
  deriving DecidableEq, Repr

/-- The encoding of a payload, from its byte-order mark or else from where its first bytes are
zero. -/
def Encoding.detect (bs : List Nat) : Encoding :=
  match bs with
  | 0 :: 0 :: 0xFE :: 0xFF :: _ => .utf32 true true
  | 0xFF :: 0xFE :: 0 :: 0 :: _ => .utf32 false true
  | 0xFE :: 0xFF :: _ => .utf16 true true
  | 0xFF :: 0xFE :: _ => .utf16 false true
  | 0xEF :: 0xBB :: 0xBF :: _ => .utf8 true
  | a :: b :: c :: d :: _ =>
    if a = 0 then (if b = 0 then .utf32 true false else .utf16 true false)
    else if b = 0 then (if c = 0 && d = 0 then .utf32 false false else .utf16 false false)
    else .utf8 false
  | [a, b] =>
    if a = 0 then .utf16 true false else if b = 0 then .utf16 false false else .utf8 false
  | _ => .utf8 false

/-- The name of a codec with its byte order. -/
def codecName (width : String) (big : Bool) : String :=
  "utf-" ++ width ++ (if big then "-be" else "-le")

/-- Decode a payload in the encoding it appears to be in. A mark is no part of the text. -/
def decodePayload (bs : List Nat) : Except Undecodable (List Char) :=
  match Encoding.detect bs with
  | .utf8 mark => decodeBy "utf-8" utf8HeadLoose 0 0 (if mark then bs.drop 3 else bs) []
  | .utf16 big mark =>
    decodeBy (codecName "16" big) (utf16Head big) (if mark then 2 else 0) 0
      (if mark then bs.drop 2 else bs) []
  | .utf32 big mark =>
    decodeBy (codecName "32" big) (utf32Head big) (if mark then 4 else 0) 0
      (if mark then bs.drop 4 else bs) []

end Workbench.Text
