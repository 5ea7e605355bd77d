import GceMachines.Decimal.Shortest
import GceMachines.Text.Quoted

/-!
# JSON values and their texts

A value as it is written: objects keep their members in the order given. `compact` writes it
without white space, `pretty` over several lines with two blanks per level; an empty list or
object stays on one line.

* `escapeChar`: the quote, the backslash and the control characters are escaped, all other
  characters stand for themselves.
-/

namespace GceMachines

/-- A number in JSON: a whole number, or a double. -/
inductive Json.Number
  | int (n : Int)
  | float (x : Decimal.Binary64)
  deriving DecidableEq, Repr

/-- **A JSON value.** -/
inductive Json
  | null
  | bool (b : Bool)
  | number (n : Json.Number)
  | string (s : String)
  | array (items : List Json)
  | object (members : List (String × Json))

namespace Json

instance : Inhabited Json := ⟨.null⟩

/-- The text of a number. -/
def Number.text : Number → String
  | .int n => toString n
  | .float x => x.text Decimal.Layout.json

/-- A whole number. -/
def int (n : Int) : Json := .number (.int n)

/-! ### Strings -/

/-- Two hexadecimal digits. -/
def hex2 (n : Nat) : List Char := [Nat.digitChar (n / 16 % 16), Nat.digitChar (n % 16)]

/-- One character inside a JSON string. -/
def escapeChar (c : Char) : List Char :=
  match c with
  | '"' => ['\\', '"']
  | '\\' => ['\\', '\\']
  | '\n' => ['\\', 'n']
  | '\r' => ['\\', 'r']
  | '\t' => ['\\', 't']
  | '\x08' => ['\\', 'b']
  | '\x0C' => ['\\', 'f']
  | c => if c.toNat < 0x20 then ['\\', 'u', '0', '0'] ++ hex2 c.toNat else [c]

/-- A string between its quotes. -/
def quote (s : String) : String :=
  String.ofList ('"' :: s.toList.flatMap escapeChar ++ ['"'])

/-! ### Texts of values -/

mutual

/-- **The text of a value** without white space. -/
def compact : Json → String
  | .null => "null"
  | .bool b => if b then "true" else "false"
  | .number n => n.text
  | .string s => quote s
  | .array items => "[" ++ ",".intercalate (compactItems items) ++ "]"
  | .object members => "\x7b" ++ ",".intercalate (compactMembers members) ++ "\x7d"

/-- The texts of list items. -/
def compactItems : List Json → List String
  | [] => []
  | v :: vs => compact v :: compactItems vs

/-- The texts of members. -/
def compactMembers : List (String × Json) → List String
  | [] => []
  | (k, v) :: ms => (quote k ++ ":" ++ compact v) :: compactMembers ms

end

/-- The start of a line at a level. -/
def newline (level : Nat) : String := String.ofList ('\n' :: List.replicate (2 * level) ' ')

/-- Items laid out one a line between brackets. -/
def block (openText closeText : String) (level : Nat) (items : List String) : String :=
  if items.isEmpty then openText ++ closeText
  else openText ++ newline (level + 1) ++ ("," ++ newline (level + 1)).intercalate items ++
    newline level ++ closeText

mutual

/-- The text of a value over several lines, from a level of indentation on. -/
def prettyAt (level : Nat) : Json → String
  | .null => "null"
  | .bool b => if b then "true" else "false"
  | .number n => n.text
  | .string s => quote s
  | .array items => block "[" "]" level (prettyItems (level + 1) items)
  | .object members => block "\x7b" "\x7d" level (prettyMembers (level + 1) members)

/-- The texts of list items over several lines. -/
def prettyItems (level : Nat) : List Json → List String
  | [] => []
  | v :: vs => prettyAt level v :: prettyItems level vs

/-- The texts of members over several lines. -/
def prettyMembers (level : Nat) : List (String × Json) → List String
  | [] => []
  | (k, v) :: ms => (quote k ++ ": " ++ prettyAt level v) :: prettyMembers level ms

end

/-- **The text of a value** over several lines. -/
def pretty (v : Json) : String := prettyAt 0 v

/-- The member of an object with a name, the last of several. -/
def member? (name : String) : Json → Option Json
  | .object members => (members.reverse.find? fun m => m.1 = name).map Prod.snd
  | _ => none

/-- The text of a string value. -/
def string? : Json → Option String
  | .string s => some s
  | _ => none

end Json

end GceMachines
