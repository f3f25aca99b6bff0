import WhileLang.Text.Digit

/-!
# Percent-encoded text

In a path, a percent sign with two hexadecimal digits stands for a byte; the bytes are read as
UTF-8. A percent sign without such digits stands for itself. What is not UTF-8 is shown as the
replacement character, one for each longest run of bytes that could have begun a character.
-/

namespace WhileLang.Text

/-- What a started character still needs: how many bytes, from which to which the next one may
lie, and the value so far. -/
structure Started where
  owed : Nat
  low : Nat
  high : Nat
  value : Nat

/-- What a first byte begins; a byte below 128 is a character. -/
inductive Lead where
  | char (c : Char)
  | started (s : Started)
  | invalid

def lead (b : Nat) : Lead :=
  if b < 0x80 then .char (Char.ofNat b)
  else if b < 0xC2 then .invalid
  else if b < 0xE0 then .started ⟨1, 0x80, 0xBF, b - 0xC0⟩
  else if b = 0xE0 then .started ⟨2, 0xA0, 0xBF, 0⟩
  else if b = 0xED then .started ⟨2, 0x80, 0x9F, 0xD⟩
  else if b < 0xF0 then .started ⟨2, 0x80, 0xBF, b - 0xE0⟩
  else if b = 0xF0 then .started ⟨3, 0x90, 0xBF, 0⟩
  else if b < 0xF4 then .started ⟨3, 0x80, 0xBF, b - 0xF0⟩
  else if b = 0xF4 then .started ⟨3, 0x80, 0x8F, 4⟩
  else .invalid

/-- Shown for bytes that are no character. -/
def replacement : Char := Char.ofNat 0xFFFD

/-- The characters that a byte completes between characters, and what it begins. -/
def beginByte (b : Nat) : List Char × Option Started :=
  match lead b with
  | .char c => ([c], none)
  | .started s => ([], some s)
  | .invalid => ([replacement], none)

/-- The characters that a byte completes, and what is started after it. -/
def readByte (s : Option Started) (b : Nat) : List Char × Option Started :=
  match s with
  | none => beginByte b
  | some s =>
    if s.low ≤ b ∧ b ≤ s.high then
      let value := s.value * 64 + (b - 0x80)
      if s.owed ≤ 1 then ([Char.ofNat value], none)
      else ([], some ⟨s.owed - 1, 0x80, 0xBF, value⟩)
    else
      let (cs, next) := beginByte b
      (replacement :: cs, next)

/-- The characters of a list of bytes. -/
def utf8Chars (s : Option Started) : List Nat → List Char
  | [] => if s.isSome then [replacement] else []
  | b :: bs =>
    let (cs, next) := readByte s b
    cs ++ utf8Chars next bs

/-- The bytes that one character is written with. -/
def utf8Bytes (c : Char) : List Nat := (String.singleton c).toUTF8.toList.map UInt8.toNat

/-- The bytes of a percent-encoded text. -/
def percentBytes : List Char → List Nat
  | '%' :: a :: b :: rest =>
    match hexDigit? a, hexDigit? b with
    | some x, some y => (16 * x + y) :: percentBytes rest
    | _, _ => utf8Bytes '%' ++ percentBytes (a :: b :: rest)
  | c :: rest => utf8Bytes c ++ percentBytes rest
  | [] => []

/-- The text that a percent-encoded text stands for. -/
def percentDecode (s : String) : String := String.ofList (utf8Chars none (percentBytes s.toList))

end WhileLang.Text
