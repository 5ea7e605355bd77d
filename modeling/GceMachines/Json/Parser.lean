import GceMachines.Json.Numeral
import GceMachines.Json.StringLiteral

/-!
# Documents from bytes

`parse` reads the document at the front of a text and gives what follows it, unless the document
breaks off. The three mutual readers stand at a value, between the items of a list, and between
the members of an object; each takes the text with the white space before it.

* `parse`: the document at the front of a text.
* `decode`: a whole text, read in a given way.
-/

namespace GceMachines.Json

/-- The bytes that may stand between tokens: space, tab, line feed and carriage return. -/
def isSpace (b : UInt8) : Bool := b == 0x20 || b == 0x09 || b == 0x0A || b == 0x0D

/-- A text without the white space at its front. -/
def dropSpace (bs : List UInt8) : List UInt8 := bs.dropWhile isSpace

/-- What follows a word, or how the text differs from it. -/
def afterWord : (word : List UInt8) → List UInt8 → Except Fault (List UInt8)
  | [], rest => .ok rest
  | _ :: _, [] => .error .endInValue
  | w :: ws, b :: bs => if b == w then afterWord ws bs else .error .expectedWord

/-- A document written as one word. -/
def wordDocument (d : Document) (word bs : List UInt8) : Document × Option (List UInt8) :=
  match afterWord word bs with
  | .ok rest => (d, some rest)
  | .error f => (.misspelt f, none)

/-- The document at the front of a text whose first byte is `b`, if it is no list and no object. -/
def scalar (b : UInt8) (rest : List UInt8) : Document × Option (List UInt8) :=
  if b == 0x6E then wordDocument .null [0x75, 0x6C, 0x6C] rest
  else if b == 0x74 then wordDocument (.bool true) [0x72, 0x75, 0x65] rest
  else if b == 0x66 then wordDocument (.bool false) [0x61, 0x6C, 0x73, 0x65] rest
  else if b == 0x22 then
    let (t, r) := stringToken rest
    (.string t, r)
  else if b == 0x2D || (digit? b).isSome then
    let (t, r) := numberToken (b :: rest)
    (.number t, r)
  else (.missing .expectedValue, none)

mutual

/-- The document at the front of a text. -/
def value : Nat → List UInt8 → Document × Option (List UInt8)
  | 0, _ => (.missing .endInValue, none)
  | fuel + 1, bs =>
    match dropSpace bs with
    | [] => (.missing .endInValue, none)
    | b :: rest =>
      if b == 0x5B then
        let (is, r) := items fuel true rest
        (.array is, r)
      else if b == 0x7B then
        let (ms, r) := members fuel true rest
        (.object ms, r)
      else scalar b rest

/-- The items of a list, from before the first or from behind a later one. -/
def items : Nat → (first : Bool) → List UInt8 → Items × Option (List UInt8)
  | 0, _, _ => (.close .cut, none)
  | fuel + 1, first, bs =>
    let item (text : List UInt8) : Items × Option (List UInt8) :=
      match value fuel text with
      | (v, none) => (.item v (.close .cut), none)
      | (v, some rest) =>
        let (is, r) := items fuel false rest
        (.item v is, r)
    match dropSpace bs with
    | [] => (.close .cut, none)
    | b :: rest =>
      if b == 0x5D then (.close .closed, some rest)
      else if first then item (b :: rest)
      else if b == 0x2C then
        match dropSpace rest with
        | [] => (.close .cutAfterComma, none)
        | c :: r => if c == 0x5D then (.close .danglingComma, none) else item (c :: r)
      else (.close .noComma, none)

/-- The members of an object, from before the first or from behind a later one. -/
def members : Nat → (first : Bool) → List UInt8 → Members × Option (List UInt8)
  | 0, _, _ => (.close .cut, none)
  | fuel + 1, first, bs =>
    let member (text : List UInt8) : Members × Option (List UInt8) :=
      match text with
      | [] => (.close .cut, none)
      | q :: text =>
        if q == 0x22 then
          match stringToken text with
          | (k, none) => (.member k (.missing .endInObject) (.close .cut), none)
          | (k, some rest) =>
            match dropSpace rest with
            | [] => (.member k (.missing .endInObject) (.close .cut), none)
            | c :: rest =>
              if c == 0x3A then
                match value fuel rest with
                | (v, none) => (.member k v (.close .cut), none)
                | (v, some rest) =>
                  let (ms, r) := members fuel false rest
                  (.member k v ms, r)
              else (.member k (.missing .expectedColon) (.close .cut), none)
        else (.noKey (value fuel (q :: text)).1, none)
    match dropSpace bs with
    | [] => (.close .cut, none)
    | b :: rest =>
      if b == 0x7D then (.close .closed, some rest)
      else if first then member (b :: rest)
      else if b == 0x2C then
        match dropSpace rest with
        | [] => (.close .cutAfterComma, none)
        | c :: r => if c == 0x7D then (.close .danglingComma, none) else member (c :: r)
      else (.close .noComma, none)

end

/-- **The document at the front of a text**, and what follows it unless it breaks off. Every
second step of the readers takes a byte, which bounds their number. -/
def parse (bs : List UInt8) : Document × Option (List UInt8) := value (2 * bs.length + 2) bs

/-- How deeply lists and objects may be nested. -/
def depthLimit : Nat := 128

/-- **A whole text read in a given way**: nothing but white space may follow the document. -/
def decode {α : Type} (read : Nat → Document → Except Fault α) (bs : List UInt8) :
    Except Fault α :=
  let (d, rest) := parse bs
  (read depthLimit d).bind fun a =>
    match (rest.getD []).all isSpace with
    | true => .ok a
    | false => .error .trailingCharacters

end GceMachines.Json
