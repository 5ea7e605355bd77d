/-!
# UTF-8

Bytes are read from the front: they begin with a character, or with the longest run of bytes that
begins none. `decode?` accepts the bytes that hold characters only; `decodeLossy` puts one
replacement character for each run that begins none.

* `encode`: the bytes of a text.
* `fault?`: where bytes hold no character.
* `split_length`: reading from the front takes at least one byte and leaves the rest as it was.
-/

namespace GceMachines.Utf8

/-- The bytes of a text. -/
def encode (s : String) : List UInt8 := s.toUTF8.toList

/-- What the front of a byte sequence holds. -/
inductive Piece
  | char (c : Char)
  | junk
  deriving DecidableEq, Repr

/-- A byte that may only follow another one in a character. -/
def isTail (b : UInt8) : Bool := 0x80 ≤ b && b ≤ 0xBF

/-- The six low bits of a following byte. -/
def tailBits (b : UInt8) : Nat := b.toNat % 64

/-- The bytes that may stand second after the first byte of a three-byte character. -/
def second3 (a b : UInt8) : Bool :=
  if a == 0xE0 then 0xA0 ≤ b && b ≤ 0xBF
  else if a == 0xED then 0x80 ≤ b && b ≤ 0x9F
  else isTail b

/-- The bytes that may stand second after the first byte of a four-byte character. -/
def second4 (a b : UInt8) : Bool :=
  if a == 0xF0 then 0x90 ≤ b && b ≤ 0xBF
  else if a == 0xF4 then 0x80 ≤ b && b ≤ 0x8F
  else isTail b

/-- The front piece of a non-empty byte sequence, and what follows it. -/
def split (a : UInt8) (rest : List UInt8) : Piece × List UInt8 :=
  if a < 0x80 then (.char (Char.ofNat a.toNat), rest)
  else if 0xC2 ≤ a && a ≤ 0xDF then
    match rest with
    | b :: r => if isTail b then (.char (Char.ofNat (a.toNat % 32 * 64 + tailBits b)), r)
        else (.junk, rest)
    | [] => (.junk, [])
  else if 0xE0 ≤ a && a ≤ 0xEF then
    match rest with
    | b :: r =>
      if second3 a b then
        match r with
        | c :: r' =>
          if isTail c then
            (.char (Char.ofNat ((a.toNat % 16 * 64 + tailBits b) * 64 + tailBits c)), r')
          else (.junk, r)
        | [] => (.junk, [])
      else (.junk, rest)
    | [] => (.junk, [])
  else if 0xF0 ≤ a && a ≤ 0xF4 then
    match rest with
    | b :: r =>
      if second4 a b then
        match r with
        | c :: r' =>
          if isTail c then
            match r' with
            | d :: r'' =>
              if isTail d then
                (.char (Char.ofNat
                  (((a.toNat % 8 * 64 + tailBits b) * 64 + tailBits c) * 64 + tailBits d)), r'')
              else (.junk, r')
            | [] => (.junk, [])
          else (.junk, r)
        | [] => (.junk, [])
      else (.junk, rest)
    | [] => (.junk, [])
  else (.junk, rest)

theorem split_length (a : UInt8) (rest : List UInt8) : (split a rest).2.length ≤ rest.length := by
  unfold split
  repeat' split
  all_goals simp only [List.length_cons]
  all_goals omega

/-- The pieces of a byte sequence, from the front. -/
def pieces : List UInt8 → List Piece
  | [] => []
  | a :: rest => (split a rest).1 :: pieces (split a rest).2
termination_by bs => bs.length
decreasing_by
  have := split_length a rest
  simp only [List.length_cons]
  omega

/-- The character that a piece stands for where unreadable bytes are tolerated. -/
def Piece.lossy : Piece → Char
  | .char c => c
  | .junk => '\uFFFD'

/-- The character of a piece, if it is one. -/
def Piece.char? : Piece → Option Char
  | .char c => some c
  | .junk => none

/-- The text that bytes hold, with a replacement character for each run that holds none. -/
def decodeLossy (bs : List UInt8) : String := String.ofList ((pieces bs).map Piece.lossy)

/-- The text that bytes hold, if they hold characters only. -/
def decode? (bs : List UInt8) : Option String :=
  ((pieces bs).mapM Piece.char?).map String.ofList

theorem decode?_nil : decode? [] = some "" := by simp [decode?, pieces]

/-! ### Where bytes hold no character -/

/-- **The first bytes that begin no character.** -/
structure Fault where
  /-- How many bytes stand before them. -/
  place : Nat
  /-- How many they are, unless a character is cut off by the end. -/
  length? : Option Nat
  deriving DecidableEq, Repr

/-- The wording of a fault. -/
def Fault.message (f : Fault) : String :=
  match f.length? with
  | some n => "invalid utf-8 sequence of " ++ toString n ++ " bytes from index " ++ toString f.place
  | none => "incomplete utf-8 byte sequence from index " ++ toString f.place

/-- The first fault from a place on. -/
def faultFrom (place : Nat) : List UInt8 → Option Fault
  | [] => none
  | a :: rest =>
    let after := (split a rest).2
    let taken := rest.length + 1 - after.length
    match (split a rest).1 with
    | .char _ => faultFrom (place + taken) after
    | .junk =>
      if after.isEmpty && 0xC2 ≤ a && a ≤ 0xF4 then some ⟨place, none⟩ else some ⟨place, some taken⟩
termination_by bs => bs.length
decreasing_by
  have := split_length a rest
  simp only [List.length_cons]
  omega

/-- **The first bytes that begin no character**, if there are any. -/
def fault? (bs : List UInt8) : Option Fault := faultFrom 0 bs

end GceMachines.Utf8
