import GceMachines.Yaml.Plain
import GceMachines.Yaml.Refusal

/-!
# Values of a YAML text

Any tree is a value: scalars without quotes stand for what they are written like, and keys may be
values of any kind. A key stands in a mapping only once.

* `Value`: a value.
* `Value.allOfText`: the values of the documents of a text.
* `Value.eqv`: when two keys are the same.
-/

namespace GceMachines.Yaml

/-- **A value.** -/
inductive Value
  | null
  | bool (b : Bool)
  | int (n : Int)
  | float (x : Floating)
  | string (s : String)
  | sequence (items : List Value)
  | mapping (entries : List (Value × Value))

instance : Inhabited Value := ⟨.null⟩

/-- Whether two numbers are the same as keys: the sign of zero does not count. -/
def Floating.eqv (x y : Floating) : Bool :=
  match x, y with
  | finite x, finite y =>
    x.magnitude = y.magnitude && (x.magnitude.mant = 0 || x.negative == y.negative)
  | x, y => x = y

namespace Value

mutual

/-- **Whether two values are the same** as keys. The order of the entries of a mapping does not
count. -/
def eqv : Value → Value → Bool
  | null, null => true
  | bool a, bool b => a == b
  | int a, int b => a == b
  | float x, float y => x.eqv y
  | string s, string t => s == t
  | sequence a, sequence b => itemsEqv a b
  | mapping a, mapping b => a.length == b.length && entriesIn b a
  | _, _ => false

/-- Whether items are the same, one by one. -/
def itemsEqv : List Value → List Value → Bool
  | [], [] => true
  | a :: as, b :: bs => a.eqv b && itemsEqv as bs
  | _, _ => false

/-- Whether each entry is also among others. -/
def entriesIn (others : List (Value × Value)) : List (Value × Value) → Bool
  | [] => true
  | (k, v) :: es => others.any (fun (k', v') => k.eqv k' && v.eqv v') && entriesIn others es

end

/-- How messages call what was found. -/
def found : Value → String
  | null => Plain.nothing.found
  | bool b => (Plain.bool b).found
  | int n => (Plain.int n).found
  | float x => (Plain.float x).found
  | string s => (Plain.text s).found
  | sequence _ => "sequence"
  | mapping _ => "map"

/-- How the message of a second entry with a key names it. -/
def keyText : Value → String
  | null => "with null key"
  | bool b => "with key `" ++ (if b then "true" else "false") ++ "`"
  | int n => "with key " ++ toString n
  | float (.finite x) => "with key " ++ x.text { Decimal.Layout.json with plus := "" }
  | float (.infinite negative) => "with key " ++ (if negative then "-.inf" else ".inf")
  | float .notNumber => "with key .nan"
  | string s => "with key " ++ Text.quoted s
  | sequence _ => "in YAML map"
  | mapping _ => "in YAML map"

/-- What a plain scalar stands for, as a value. -/
def ofPlain (path : Path) (p : Plain) : Except Refusal Value :=
  match p with
  | .nothing => .ok null
  | .bool b => .ok (bool b)
  | .int n => .ok (int n)
  | .wide _ => wrongKind path p.found "any YAML value"
  | .float x => .ok (float x)
  | .text s => .ok (string s)

/-- The step to the value of a key. -/
def stepTo : Node → Step
  | .scalar s _ => .key s
  | _ => .unnamed

mutual

/-- **The value of a tree**, with `room` more levels of collections. -/
def ofNode (room : Nat) (path : Path) : Node → Except Refusal Value
  | .scalar s isPlain => if isPlain then ofPlain path (Plain.ofText s) else .ok (string s)
  | .sequence items =>
    if room = 0 then .error .tooDeep
    else (ofItems (room - 1) path 0 items).map sequence
  | .mapping entries =>
    if room = 0 then .error .tooDeep
    else (ofEntries (room - 1) path [] entries).map mapping
  | .broken f => .error (.grammar f)

/-- The values of items; `n` items precede them. -/
def ofItems (room : Nat) (path : Path) : (n : Nat) → List Node → Except Refusal (List Value)
  | _, [] => .ok []
  | n, v :: vs =>
    (ofNode room (.item n :: path) v).bind fun j =>
      (ofItems room path (n + 1) vs).map (j :: ·)

/-- The values of entries behind some keys. -/
def ofEntries (room : Nat) (path : Path) : (keys : List Value) → List (Node × Node) →
    Except Refusal (List (Value × Value))
  | _, [] => .ok []
  | keys, (k, v) :: es =>
    (ofNode room path k).bind fun key =>
      if keys.any (eqv key) then .error (.unwanted path ("duplicate entry " ++ key.keyText))
      else
        (ofNode room (stepTo k :: path) v).bind fun value =>
          (ofEntries room path (key :: keys) es).map ((key, value) :: ·)

end

/-- The value of a document. -/
def ofDocument (d : Document) : Except Refusal Value :=
  ((d.root.map (ofNode depthLimit [])).getD (.ok null)).bind d.finish

/-- **The values of the documents of a text**, up to the first that has none. -/
def allOfText (text : String) : List (Except Refusal Value) :=
  (Document.allOfText text).map ofDocument

end Value

end GceMachines.Yaml
