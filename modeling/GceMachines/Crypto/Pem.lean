import GceMachines.Failure
import GceMachines.Text.Base64
import GceMachines.Text.Blank
import GceMachines.Text.Utf8

/-!
# PEM

A PEM text carries bytes in Base64 between two lines that name what the bytes are. What stands
before the first line and behind the last one does not count, nor do blanks among the bytes.
Headers may precede the bytes, with an empty line between. Several such parts may follow each
other.

* `Pem`: labelled bytes.
* `Pem.parse?`: the first part of a text.
* `Pem.parseAll`: all parts of a text, or what is wrong with one.
-/

namespace GceMachines

/-- **Labelled bytes.** -/
structure Pem where
  label : String
  contents : List UInt8
  deriving DecidableEq, Repr

namespace Pem

/-! ### Marks -/

section Marks
variable {α : Type} [DecidableEq α]

/-- What stands before a mark, and what follows it, where `found` of its signs were met last. A
sign that is not the next one of the mark is not tried as its first one. -/
def splitFrom? (mark : List α) (found : Nat) : List α → Option (List α × List α)
  | [] => none
  | c :: cs =>
    let found := if mark[found]? = some c then found + 1 else 0
    if found = mark.length then some ([c], cs)
    else (splitFrom? mark found cs).map fun (before, after) => (c :: before, after)

/-- What stands before a mark, and what follows it. -/
def splitAt? (mark cs : List α) : Option (List α × List α) :=
  (splitFrom? mark 0 cs).map fun (front, after) =>
    (front.take (front.length - mark.length), after)

theorem splitFrom?_length {mark cs before after : List α} {found : Nat}
    (h : splitFrom? mark found cs = some (before, after)) : after.length < cs.length := by
  induction cs generalizing found before after with
  | nil => simp [splitFrom?] at h
  | cons c cs ih =>
    simp only [splitFrom?] at h
    generalize (if mark[found]? = some c then found + 1 else 0) = n at h
    split at h
    · simp_all
    · obtain ⟨⟨b, a⟩, hr, he⟩ := Option.map_eq_some_iff.1 h
      simp only [Prod.mk.injEq] at he
      have := ih hr
      simp only [List.length_cons, ← he.2]
      omega

theorem splitAt?_length {mark cs before after : List α}
    (h : splitAt? mark cs = some (before, after)) : after.length < cs.length := by
  obtain ⟨⟨b, a⟩, hr, he⟩ := Option.map_eq_some_iff.1 h
  simp only [Prod.mk.injEq] at he
  exact he.2 ▸ splitFrom?_length hr

end Marks

/-! ### Parts -/

/-- The parts of a text between marks, as they are written. -/
structure Frame where
  label : List UInt8
  headers : List UInt8
  data : List UInt8
  closing : List UInt8
  deriving DecidableEq, Repr

/-- Whether a byte may stand between a line and what follows it. -/
def isGap (b : UInt8) : Bool := b == 0x20 || b == 0x09 || b == 0x0A || b == 0x0D

/-- Headers and what follows them: an empty line ends headers, and without one there are none. -/
def splitHeaders (body : List UInt8) : List UInt8 × List UInt8 :=
  match splitAt? [0x0A, 0x0A] body with
  | some parts => parts
  | none => (splitAt? [0x0D, 0x0A, 0x0D, 0x0A] body).getD ([], body)

/-- The first frame, and what follows it. -/
def frame? (bs : List UInt8) : Option (Frame × List UInt8) :=
  (splitAt? (Utf8.encode "-----BEGIN ") bs).bind fun (_, rest) =>
    (splitAt? (Utf8.encode "-----") rest).bind fun (label, rest) =>
      (splitAt? (Utf8.encode "-----END ") (rest.dropWhile isGap)).bind fun (body, rest) =>
        (splitAt? (Utf8.encode "-----") rest).map fun (closing, rest) =>
          (⟨label, (splitHeaders body).1, (splitHeaders body).2, closing⟩, rest)

theorem length_dropWhile_le {α : Type} (p : α → Bool) (xs : List α) :
    (xs.dropWhile p).length ≤ xs.length := (List.dropWhile_suffix p).length_le

theorem frame?_length {bs rest : List UInt8} {f : Frame} (h : frame? bs = some (f, rest)) :
    rest.length < bs.length := by
  obtain ⟨⟨_, r₁⟩, h₁, h⟩ := Option.bind_eq_some_iff.1 h
  obtain ⟨⟨_, r₂⟩, h₂, h⟩ := Option.bind_eq_some_iff.1 h
  obtain ⟨⟨_, r₃⟩, h₃, h⟩ := Option.bind_eq_some_iff.1 h
  obtain ⟨⟨_, r₄⟩, h₄, h⟩ := Option.map_eq_some_iff.1 h
  simp only [Prod.mk.injEq] at h
  have := splitAt?_length h₁
  have := splitAt?_length h₂
  have := splitAt?_length h₃
  have := splitAt?_length h₄
  have := length_dropWhile_le isGap r₂
  simp_all
  omega

/-- The frames of a text in order. -/
def frames (bs : List UInt8) : List Frame :=
  match h : frame? bs with
  | none => []
  | some (f, rest) =>
    have := frame?_length h
    f :: frames rest
termination_by bs.length

/-! ### Labelled bytes -/

/-- **What is wrong with a part.** -/
inductive Fault
  | noLabel
  | noClosing
  | otherClosing (label closing : String)
  | badData (f : Base64.Fault)
  | badHeader (line : String)
  | notText (f : Utf8.Fault)
  deriving DecidableEq, Repr

/-- A fault as a failure. -/
def Fault.failure : Fault → Failure
  | .noLabel => .ofMessage "missing BEGIN tag"
  | .noClosing => .ofMessage "missing END tag"
  | .otherClosing label closing =>
    .ofMessage ("mismatching BEGIN (" ++ label ++ ") and END (" ++ closing ++ ") tags")
  | .badData f => .because ("invalid data: " ++ f.signMessage) (.ofMessage f.signMessage)
  | .badHeader line => .ofMessage ("invalid header: " ++ line)
  | .notText f => .because ("invalid utf-8 value: " ++ f.message) (.ofMessage f.message)

/-- Bytes as a text. -/
def text (bs : List UInt8) : Except Fault String :=
  match Utf8.fault? bs with
  | some f => .error (.notText f)
  | none => .ok (Utf8.decodeLossy bs)

/-- The lines of a text, of which the last one counts only if it is not empty; a line ends with a
line feed, perhaps behind a carriage return. -/
def lines (s : String) : List String :=
  let all := (Text.splitOn '\n' s).map fun l =>
    if l.toList.getLast? = some '\r' then String.ofList l.toList.dropLast else l
  if all.getLast? = some "" then all.dropLast else all

/-- The labelled bytes of a frame. -/
def ofFrame (f : Frame) : Except Fault Pem := do
  let label ← text f.label
  if label.isEmpty then throw .noLabel
  let closing ← text f.closing
  if closing.isEmpty then throw .noClosing
  if label ≠ closing then throw (.otherClosing label closing)
  let data ← text f.data
  let signs := String.ofList (data.toList.filter (!Text.isBlank ·))
  let contents ← (Base64.decodeGroups signs).mapError .badData
  let headers ← text f.headers
  match (lines headers).find? fun l => !l.toList.contains ':' with
  | some line => throw (.badHeader line)
  | none => return ⟨label, contents⟩

/-- **The first part of a text.** -/
def parse? (s : String) : Option Pem :=
  (frame? (Utf8.encode s)).bind fun (f, _) => (ofFrame f).toOption

/-- **All parts of a text**, or what is wrong with the first bad one. -/
def parseAll (bs : List UInt8) : Except Fault (List Pem) := (frames bs).mapM ofFrame

end Pem

end GceMachines
