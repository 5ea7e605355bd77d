import GceMachines.Json.Value

/-!
# Faults of a JSON text

A text may break the grammar, or may hold another value than the one looked for. `Fault` names
the causes and `Fault.message` words them, without the place in the text.
-/

namespace GceMachines.Json

/-- What was found where something else was looked for. -/
inductive Found
  | null
  | bool (b : Bool)
  | number (n : Number)
  | string (s : String)
  | sequence
  | map
  deriving DecidableEq, Repr

/-- The wording of what was found. -/
def Found.text : Found → String
  | .null => "null"
  | .bool b => "boolean `" ++ (if b then "true" else "false") ++ "`"
  | .number (.int n) => "integer `" ++ toString n ++ "`"
  | .number (.float x) => "floating point `" ++ x.text Decimal.Layout.json ++ "`"
  | .string s => "string " ++ Text.quoted s
  | .sequence => "sequence"
  | .map => "map"

/-- **Why a JSON text does not give the wanted value.** -/
inductive Fault
  /-- The text ends where a value should stand. -/
  | endInValue
  /-- The text ends inside an object. -/
  | endInObject
  /-- The text ends inside a list. -/
  | endInList
  /-- The text ends inside a string. -/
  | endInString
  /-- Something other than a value stands here. -/
  | expectedValue
  /-- A word that is none of `null`, `true` and `false`. -/
  | expectedWord
  | expectedColon
  | expectedCommaOrBrace
  | expectedCommaOrBracket
  | keyMustBeString
  | trailingComma
  | trailingCharacters
  | invalidNumber
  | numberOutOfRange
  | invalidEscape
  | controlCharacter
  /-- A leading surrogate without an escape after it. -/
  | unpairedEscape
  /-- A surrogate escape without its partner. -/
  | loneSurrogate
  | invalidCodePoint
  | tooDeep
  | invalidType (found : Found) (expected : String)
  | outOfRange (n : Int) (expected : String)
  | invalidLength (n : Nat) (expected : String)
  | missingField (name : String)
  | duplicateField (name : String)
  | unknownVariant (name : String) (known : List String)
  /-- A refusal with a wording of its own. -/
  | refused (text : String)
  deriving DecidableEq, Repr

/-- The wording of a fault. -/
def Fault.message : Fault → String
  | .endInValue => "EOF while parsing a value"
  | .endInObject => "EOF while parsing an object"
  | .endInList => "EOF while parsing a list"
  | .endInString => "EOF while parsing a string"
  | .expectedValue => "expected value"
  | .expectedWord => "expected ident"
  | .expectedColon => "expected `:`"
  | .expectedCommaOrBrace => "expected `,` or `\x7d`"
  | .expectedCommaOrBracket => "expected `,` or `]`"
  | .keyMustBeString => "key must be a string"
  | .trailingComma => "trailing comma"
  | .trailingCharacters => "trailing characters"
  | .invalidNumber => "invalid number"
  | .numberOutOfRange => "number out of range"
  | .invalidEscape => "invalid escape"
  | .controlCharacter => "control character (\\u0000-\\u001F) found while parsing a string"
  | .unpairedEscape => "unexpected end of hex escape"
  | .loneSurrogate => "lone leading surrogate in hex escape"
  | .invalidCodePoint => "invalid unicode code point"
  | .tooDeep => "recursion limit exceeded"
  | .invalidType found expected => "invalid type: " ++ found.text ++ ", expected " ++ expected
  | .outOfRange n expected => "invalid value: integer `" ++ toString n ++ "`, expected " ++ expected
  | .invalidLength n expected => "invalid length " ++ toString n ++ ", expected " ++ expected
  | .missingField name => "missing field `" ++ name ++ "`"
  | .duplicateField name => "duplicate field `" ++ name ++ "`"
  | .unknownVariant name known =>
    "unknown variant `" ++ name ++ "`, expected " ++
      (if known.length = 1 then "" else "one of ") ++
      ", ".intercalate (known.map fun k => "`" ++ k ++ "`")
  | .refused text => text

end GceMachines.Json
