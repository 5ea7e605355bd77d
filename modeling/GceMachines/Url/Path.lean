import GceMachines.Text.Split
import GceMachines.Url.Percent

/-!
# Paths of addresses

The path of an address is a list of segments, each behind a slash. A path is filled from the left:
its last segment is the place for the next one, and the places of two points take the segment
before them away. A segment of two characters that names a drive is never taken away. In the
address of a file it is written with a colon, and slashes at the front of the path count as one.

* `Path`, `Path.text`: a path and its notation.
* `put`, `fill`: a path with more segments.
* `Filling`: what filling a path depends on.
* `fill_plain`: segments that are no points and no drives are put one behind the other.
-/

namespace GceMachines.Url

/-- The path of an address. -/
inductive Path
  /-- Segments, each behind a slash. -/
  | segments (ss : List String)
  /-- A text that is not looked into, in an address that others cannot be relative to. -/
  | plain (s : String)
  deriving DecidableEq, Repr

/-- A path as it is written. -/
def Path.text : Path → String
  | .segments ss => String.join (ss.map fun s => "/" ++ s)
  | .plain s => s

/-! ### Points and drives -/

/-- Whether a segment stands for its parent. -/
def isDoubleDot (s : String) : Bool :=
  s ∈ ["..", ".%2e", ".%2E", "%2e.", "%2E.", "%2e%2e", "%2e%2E", "%2E%2e", "%2E%2E"]

/-- Whether a segment stands for nothing. -/
def isSingleDot (s : String) : Bool := s ∈ [".", "%2e", "%2E"]

/-- Whether a segment stands for a place and not for itself. -/
def isDot (s : String) : Bool := isDoubleDot s || isSingleDot s

/-- The letter of a drive, if a text is one and nothing else: a letter and a colon or a bar. -/
def drive? (cs : List Char) : Option Char :=
  match cs with
  | [a, b] => if a.isAlpha && (b == ':' || b == '|') then some a else none
  | _ => none

/-- Whether a segment is kept when its child asks for the parent: it is a drive, or begins with one
that a backward slash ends. -/
def isKept (s : String) : Bool :=
  match s.toList with
  | a :: b :: '\\' :: _ => (drive? [a, b]).isSome
  | cs => (drive? cs).isSome

/-! ### Filling a path -/

/-- What filling a path depends on. -/
structure Filling where
  /-- Whether it is the path of a file. -/
  file : Bool
  /-- Whether a drive that is the first segment is written with a colon. -/
  driveFirst : Bool
  deriving DecidableEq, Repr

/-- A segment as it is written in a path behind others. -/
def Filling.written (f : Filling) (before : List String) (s : String) : String :=
  match drive? s.toList with
  | some a => if f.driveFirst && before.isEmpty then String.ofList [a, ':'] else s
  | none => s

/-- The segments that are left when the last one is given up for its parent. -/
def parent (before : List String) : List String :=
  match before.getLast? with
  | some s => if isKept s then before else before.dropLast
  | none => before

/-- **A path with a segment** in the place that the last one holds. -/
def put (f : Filling) (ss : List String) (s : String) : List String :=
  let before := ss.dropLast
  if isDoubleDot s then parent before ++ [""]
  else if isSingleDot s then before ++ [""]
  else before ++ [f.written before s]

/-- **A path with segments** from the place on that the last one holds. Behind each of them but the
last one there is a slash. -/
def fill (f : Filling) : List String → List String → List String
  | ss, [] => ss
  | ss, [s] => put f ss s
  | ss, s :: r => fill f (if isDot s then put f ss s else put f ss s ++ [""]) r

/-- A path whose slashes in front count as one, if it is the path of a file. -/
def Filling.finish (f : Filling) (ss : List String) : List String :=
  if f.file then
    match ss.dropWhile (· = "") with
    | [] => [""]
    | rest => rest
  else ss

theorem drive?_of_length {cs : List Char} (h : cs.length ≠ 2) : drive? cs = none := by
  match cs, h with
  | [], _ | [_], _ | _ :: _ :: _ :: _, _ => rfl

theorem put_plain {f : Filling} {ss : List String} {s : String} (hd : isDot s = false)
    (hw : f.driveFirst = false) : put f ss s = ss.dropLast ++ [s] := by
  simp only [isDot, Bool.or_eq_false_iff] at hd
  have : f.written ss.dropLast s = s := by
    unfold Filling.written
    split <;> simp [hw]
  simp [put, hd, this]

theorem fill_plain {f : Filling} (before : List String) (place : String) {rest : List String}
    (hr : rest ≠ []) (hd : ∀ s ∈ rest, isDot s = false) (hw : f.driveFirst = false) :
    fill f (before ++ [place]) rest = before ++ rest := by
  induction rest generalizing before place with
  | nil => exact absurd rfl hr
  | cons s r ih =>
    have hs := hd s (by simp)
    cases r with
    | nil => simp [fill, put_plain hs hw]
    | cons t r =>
      have := ih (before ++ [s]) "" (by simp) (fun x hx => hd x (List.mem_cons_of_mem s hx))
      simp only [fill, hs, put_plain hs hw]
      simpa using this

end GceMachines.Url
