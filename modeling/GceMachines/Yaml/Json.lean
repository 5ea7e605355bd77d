import GceMachines.SortedMap
import GceMachines.Yaml.Plain
import GceMachines.Yaml.Refusal

/-!
# JSON values and texts of a YAML text

Most trees are also JSON values: their keys are texts, and plain scalars stand for JSON scalars.
Where only texts are wanted, each scalar is its text.

* `json`: the JSON value of a text.
* `texts`: the texts that a text maps keys to.
-/

namespace GceMachines.Yaml

/-! ### JSON values -/

/-- A plain scalar as a JSON value. -/
def Plain.json (path : Path) : Plain → Except Refusal Json
  | nothing => .ok .null
  | bool b => .ok (.bool b)
  | int n => .ok (.int n)
  | wide _ => .error (.unwanted path "JSON number out of range")
  | float (.finite x) => .ok (.number (.float x))
  | float _ => .ok .null
  | text s => .ok (.string s)

mutual

/-- A node as a JSON value, with `room` more levels of collections. -/
def Node.json (room : Nat) (path : Path) : Node → Except Refusal Json
  | .scalar s isPlain => if isPlain then (Plain.ofText s).json path else .ok (.string s)
  | .sequence items =>
    if room = 0 then .error .tooDeep
    else (itemsJson (room - 1) path 0 items).map Json.array
  | .mapping entries =>
    if room = 0 then .error .tooDeep
    else (entriesJson (room - 1) path true entries).map fun es =>
      .object (SortedMap.ofList es).entries
  | .broken f => .error (.grammar f)

/-- Items as JSON values; `n` items precede them. -/
def itemsJson (room : Nat) (path : Path) : (n : Nat) → List Node → Except Refusal (List Json)
  | _, [] => .ok []
  | n, v :: vs =>
    (v.json room (.item n :: path)).bind fun j =>
      (itemsJson room path (n + 1) vs).map (j :: ·)

/-- Entries as members. -/
def entriesJson (room : Nat) (path : Path) : (first : Bool) → List (Node × Node) →
    Except Refusal (List (String × Json))
  | _, [] => .ok []
  | first, (k, v) :: es =>
    (k.text path (if first then "a string key" else "a string")).bind fun key =>
      (v.json room (.key key :: path)).bind fun j =>
        (entriesJson room path false es).map ((key, j) :: ·)

end

/-- **The JSON value of a text.** An empty text stands for `null`. -/
def json (text : String) : Except Refusal Json :=
  Document.readOnly (fun root => (root.map (Node.json depthLimit [])).getD (.ok .null)) text

/-! ### Maps of texts -/

/-- The entries of a map of texts. -/
def entriesTexts : List (Node × Node) → Except Refusal (List (String × String))
  | [] => .ok []
  | (k, v) :: es =>
    (k.text [] "a string").bind fun key =>
      (v.text [.key key] "a string").bind fun text =>
        (entriesTexts es).map ((key, text) :: ·)

/-- A node as a map of texts. -/
def Node.texts : Node → Except Refusal (List (String × String))
  | .mapping entries => entriesTexts entries
  | .scalar s isPlain =>
    if isPlain && s.isEmpty then .ok []
    else wrongKind [] (if isPlain then (Plain.ofText s).found else (Plain.text s).found) "a map"
  | .sequence _ => wrongKind [] "sequence" "a map"
  | .broken f => .error (.grammar f)

/-- **The texts that a text maps keys to**; the last of several with one key counts. -/
def texts (text : String) : Except Refusal (SortedMap String String) :=
  (Document.readOnly (fun root => (root.map Node.texts).getD (.ok [])) text).map SortedMap.ofList

end GceMachines.Yaml
