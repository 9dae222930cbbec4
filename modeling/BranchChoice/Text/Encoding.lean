import BranchChoice.Text.Characters

/-!
# Bytes and characters

Texts as bytes in the three encoding forms of the character set.  A reading of UTF-8 goes sequence
by sequence; a sequence that cannot be read is told with the bytes that belong to it, and is
either an error or replaced as a whole.
-/

namespace BranchChoice.Text

/-- The bytes of a text in UTF-8. -/
def utf8Encode (s : List Char) : List UInt8 :=
  s.flatMap String.utf8EncodeChar

/-! ## Errors -/

/-- What can be wrong with a sequence of bytes. -/
inductive ByteFlaw where
  | invalidStart
  | invalidContinuation
  | unexpectedEnd
  | truncated
  | beyondLast
  deriving DecidableEq

/-- The wording of a flaw. -/
def ByteFlaw.message : ByteFlaw → String
  | invalidStart => "invalid start byte"
  | invalidContinuation => "invalid continuation byte"
  | unexpectedEnd => "unexpected end of data"
  | truncated => "truncated data"
  | beyondLast => "code point not in range(0x110000)"

/-- A sequence of bytes that is no character of an encoding form: where it starts, its first byte,
and how many bytes belong to it. -/
structure DecodeError where
  encoding : String
  flaw : ByteFlaw
  start : Nat
  first : UInt8
  width : Nat
  deriving DecidableEq

/-- The wording of an error: one byte is shown, of several the places. -/
def DecodeError.message (e : DecodeError) : String :=
  if e.width = 1 then
    s!"'{e.encoding}' codec can't decode byte 0x" ++ String.ofList (hexDigits 2 e.first.toNat) ++
      s!" in position {e.start}: " ++ e.flaw.message
  else
    s!"'{e.encoding}' codec can't decode bytes in position {e.start}-" ++
      toString (e.start + e.width - 1) ++ ": " ++ e.flaw.message

/-! ## UTF-8 -/

/-- Whether the byte goes on a sequence. -/
def isContinuation (b : UInt8) : Bool :=
  128 ≤ b.toNat && b.toNat < 192

/-- Whether the second byte may follow the first of a sequence of three or four: no sequence is
longer than its character needs, and none lies beyond the last character. -/
def secondFits (first second : UInt8) : Bool :=
  isContinuation second &&
    !(first.toNat == 224 && second.toNat < 160) &&
    !(first.toNat == 237 && 160 ≤ second.toNat) &&
    !(first.toNat == 240 && second.toNat < 144) &&
    !(first.toNat == 244 && 144 ≤ second.toNat)

/-- The first sequence of some bytes: its character, or its flaw, and how many bytes it has.  Half
of a surrogate pair written as three bytes reads as the replacement character if `halves` allows
it. -/
def utf8Sequence (halves : Bool) (first : UInt8) (rest : List UInt8) :
    Except ByteFlaw Char × Nat :=
  let low (b : UInt8) := b.toNat % 64
  let n := first.toNat
  if n < 128 then (.ok (Char.ofNat n), 1)
  else if n < 194 || 245 ≤ n then (.error .invalidStart, 1)
  else if n < 224 then
    match rest with
    | [] => (.error .unexpectedEnd, 1)
    | b :: _ =>
      if isContinuation b then (.ok (Char.ofNat (n % 32 * 64 + low b)), 2)
      else (.error .invalidContinuation, 1)
  else if n < 240 then
    match rest with
    | [] => (.error .unexpectedEnd, 1)
    | b :: more =>
      if secondFits first b then
        match more with
        | [] => (.error .unexpectedEnd, 2)
        | c :: _ =>
          if isContinuation c then (.ok (Char.ofNat ((n % 16 * 64 + low b) * 64 + low c)), 3)
          else (.error .invalidContinuation, 2)
      else
        match more with
        | c :: _ =>
          if halves && n == 237 && isContinuation b && isContinuation c then
            (.ok (Char.ofNat 65533), 3)
          else (.error .invalidContinuation, 1)
        | [] => (.error .invalidContinuation, 1)
  else
    match rest with
    | [] => (.error .unexpectedEnd, 1)
    | b :: more =>
      if secondFits first b then
        match more with
        | [] => (.error .unexpectedEnd, 2)
        | c :: evenMore =>
          if isContinuation c then
            match evenMore with
            | [] => (.error .unexpectedEnd, 3)
            | d :: _ =>
              if isContinuation d then
                (.ok (Char.ofNat (((n % 8 * 64 + low b) * 64 + low c) * 64 + low d)), 4)
              else (.error .invalidContinuation, 3)
          else (.error .invalidContinuation, 2)
      else (.error .invalidContinuation, 1)

/-- The characters of UTF-8 bytes, or the first sequence that is none.  `skip` bytes belong to the
sequence before. -/
def utf8DecodeFrom : Nat → Nat → List UInt8 → Except DecodeError (List Char)
  | _, _, [] => .ok []
  | offset, skip + 1, _ :: rest => utf8DecodeFrom (offset + 1) skip rest
  | offset, 0, b :: rest =>
    match utf8Sequence true b rest with
    | (.ok c, width) => (utf8DecodeFrom (offset + 1) (width - 1) rest).map (c :: ·)
    | (.error flaw, width) => .error ⟨"utf-8", flaw, offset, b, width⟩

/-- The characters of UTF-8 bytes, or the first sequence that is none. -/
def utf8Decode (bytes : List UInt8) : Except DecodeError (List Char) :=
  utf8DecodeFrom 0 0 bytes

/-- As `utf8DecodeLossy`, with `skip` bytes that belong to the sequence before. -/
def utf8DecodeLossyFrom : Nat → List UInt8 → List Char
  | _, [] => []
  | skip + 1, _ :: rest => utf8DecodeLossyFrom skip rest
  | 0, b :: rest =>
    match utf8Sequence false b rest with
    | (.ok c, width) => c :: utf8DecodeLossyFrom (width - 1) rest
    | (.error _, width) => Char.ofNat 65533 :: utf8DecodeLossyFrom (width - 1) rest

/-- The characters of UTF-8 bytes, each sequence that is none replaced by the replacement
character. -/
def utf8DecodeLossy (bytes : List UInt8) : List Char :=
  utf8DecodeLossyFrom 0 bytes

/-! ## UTF-16 and UTF-32 -/

/-- The order of the bytes of a unit. -/
inductive ByteOrder where
  | little
  | big
  deriving DecidableEq

/-- The value of bytes in an order. -/
def unitOf (order : ByteOrder) (bytes : List UInt8) : Nat :=
  (match order with | .big => bytes | .little => bytes.reverse).foldl
    (fun (n : Nat) (b : UInt8) => n * 256 + b.toNat) 0

/-- The name of an encoding form with its byte order. -/
def formName (width : Nat) (order : ByteOrder) : String :=
  s!"utf-{width}" ++ match order with | .big => "-be" | .little => "-le"

/-- The characters of UTF-16 bytes from an offset on.  Half of a pair reads as the replacement
character. -/
def utf16DecodeFrom (order : ByteOrder) (offset : Nat) :
    List UInt8 → Except DecodeError (List Char)
  | [] => .ok []
  | [b] => .error ⟨formName 16 order, .truncated, offset, b, 1⟩
  | a :: b :: c :: d :: rest =>
    let high := unitOf order [a, b]
    let low := unitOf order [c, d]
    if 55296 ≤ high && high ≤ 56319 && 56320 ≤ low && low ≤ 57343 then
      (utf16DecodeFrom order (offset + 4) rest).map
        (Char.ofNat (65536 + (high - 55296) * 1024 + (low - 56320)) :: ·)
    else
      let head := if 55296 ≤ high && high ≤ 57343 then Char.ofNat 65533 else Char.ofNat high
      (utf16DecodeFrom order (offset + 2) (c :: d :: rest)).map (head :: ·)
  | a :: b :: rest =>
    let unit := unitOf order [a, b]
    let head := if 55296 ≤ unit && unit ≤ 57343 then Char.ofNat 65533 else Char.ofNat unit
    (utf16DecodeFrom order (offset + 2) rest).map (head :: ·)

/-- The characters of UTF-32 bytes from an offset on. -/
def utf32DecodeFrom (order : ByteOrder) (offset : Nat) :
    List UInt8 → Except DecodeError (List Char)
  | [] => .ok []
  | a :: b :: c :: d :: rest =>
    let n := unitOf order [a, b, c, d]
    if 1114112 ≤ n then .error ⟨formName 32 order, .beyondLast, offset, a, 4⟩
    else
      let head := if 55296 ≤ n && n ≤ 57343 then Char.ofNat 65533 else Char.ofNat n
      (utf32DecodeFrom order (offset + 4) rest).map (head :: ·)
  | a :: rest => .error ⟨formName 32 order, .truncated, offset, a, rest.length + 1⟩

/-! ## Telling the form -/

/-- The characters of a document's bytes.  A byte order mark tells the form and is dropped; without
one the form shows in which of the first bytes are zero. -/
def decodeDocument (bytes : List UInt8) : Except DecodeError (List Char) :=
  match bytes.map (·.toNat) with
  | 0 :: 0 :: 254 :: 255 :: _ => utf32DecodeFrom .big 4 (bytes.drop 4)
  | 255 :: 254 :: 0 :: 0 :: _ => utf32DecodeFrom .little 4 (bytes.drop 4)
  | 254 :: 255 :: _ => utf16DecodeFrom .big 2 (bytes.drop 2)
  | 255 :: 254 :: _ => utf16DecodeFrom .little 2 (bytes.drop 2)
  | 239 :: 187 :: 191 :: _ => utf8Decode (bytes.drop 3)
  | [0, _] => utf16DecodeFrom .big 0 bytes
  | [_, 0] => utf16DecodeFrom .little 0 bytes
  | 0 :: 0 :: _ :: _ :: _ => utf32DecodeFrom .big 0 bytes
  | 0 :: _ :: _ :: _ :: _ => utf16DecodeFrom .big 0 bytes
  | _ :: 0 :: 0 :: 0 :: _ => utf32DecodeFrom .little 0 bytes
  | _ :: 0 :: _ :: _ :: _ => utf16DecodeFrom .little 0 bytes
  | _ => utf8Decode bytes

end BranchChoice.Text
