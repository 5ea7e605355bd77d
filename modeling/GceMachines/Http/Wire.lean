import GceMachines.Http.Message
import GceMachines.Text.Integer

/-!
# Messages and answers as bytes

On its way a message is some lines, an empty line, and its contents. An answer looks alike and has
its status in its first line. It says how long its contents are, or sends them in chunks that each
say how long they are, or goes on until the connection ends.

* `Dispatch.wire`: the bytes that are sent, over a connection of their own.
* `Reception.ofBytes`: what a server sent before the connection ended.
* `splitLine_eq`: a line, its end and the rest make up the bytes.
-/

namespace GceMachines.Http

/-! ### Messages -/

/-- The bytes that end a line. -/
def lineEnd : List UInt8 := [13, 10]

/-- The lines before the contents. -/
def Dispatch.headLines (d : Dispatch) : List String :=
  let length := (Utf8.encode d.content.text).length
  [d.method.name ++ " " ++ d.uri.target ++ " HTTP/1.1", "Host: " ++ d.uri.hostText,
    "Accept: */*", "Connection: close"] ++
    d.authorization.map ("Authorization: " ++ ·) ++
    (d.content.type?.map ("Content-Type: " ++ ·)).toList ++
    (if length = 0 then [] else ["Content-Length: " ++ toString length])

/-- **The bytes that are sent.** -/
def Dispatch.wire (d : Dispatch) : List UInt8 :=
  d.headLines.flatMap (fun l => Utf8.encode l ++ lineEnd) ++ lineEnd ++ Utf8.encode d.content.text

/-! ### Answers -/

/-- The bytes before the first end of a line, and those behind it. -/
def splitLine : List UInt8 → Option (List UInt8 × List UInt8)
  | 13 :: 10 :: rest => some ([], rest)
  | b :: rest => (splitLine rest).map fun (line, rest) => (b :: line, rest)
  | [] => none

theorem splitLine_eq {bs line rest : List UInt8} (h : splitLine bs = some (line, rest)) :
    bs = line ++ lineEnd ++ rest := by
  fun_induction splitLine bs generalizing line rest with
  | case1 r => simp_all [lineEnd]
  | case2 b r _ ih =>
    obtain ⟨⟨l, r'⟩, hr, he⟩ := Option.map_eq_some_iff.1 h
    simp only [Prod.mk.injEq] at he
    obtain ⟨rfl, rfl⟩ := he
    simp [ih hr]
  | case3 => simp at h

theorem splitLine_length {bs line rest : List UInt8} (h : splitLine bs = some (line, rest)) :
    rest.length < bs.length := by
  rw [splitLine_eq h]
  simp only [lineEnd, List.length_append, List.length_cons, List.length_nil]
  omega

/-- The lines before the first empty one, and what is behind it. -/
def splitHead (bs : List UInt8) : Option (List String × List UInt8) :=
  match h : splitLine bs with
  | none => none
  | some ([], rest) => some ([], rest)
  | some (line, rest) =>
    have := splitLine_length h
    (splitHead rest).map fun (lines, rest) => (Utf8.decodeLossy line :: lines, rest)
termination_by bs.length

/-- The value of a header. Upper and lower case are the same in its name. -/
def header? (name : String) (lines : List String) : Option String :=
  lines.findSome? fun l =>
    (Text.splitOnce? ':' l).bind fun (n, v) =>
      if n.toLower = name then some (Text.trim v) else none

/-- The length that the line before a chunk says. -/
def chunkLength? (line : List UInt8) : Option Nat :=
  let digits := (Utf8.decodeLossy line).toList.takeWhile fun c => c != ';' && !Text.isBlank c
  if digits.isEmpty then none
  else Text.ofDigits? 16 digits

/-- The contents of chunks up to the empty one. -/
def joinChunks (bs : List UInt8) : Option (List UInt8) :=
  match h : splitLine bs with
  | none => none
  | some (line, rest) =>
    match chunkLength? line with
    | none => none
    | some 0 => some []
    | some n =>
      if rest.length < n + 2 then none
      else
        have := splitLine_length h
        (joinChunks (rest.drop (n + 2))).map (rest.take n ++ ·)
termination_by bs.length
decreasing_by
  simp only [List.length_drop]
  omega

/-- The status in the first line of an answer. -/
def statusOf (line : String) : Option Nat :=
  (Text.splitOn ' ' line)[1]?.bind (Text.readNat? 1000)

/-- An answer with a status, headers, and what followed them. -/
def Reception.ofParts (status : Nat) (headers : List String) (rest : List UInt8) : Reception :=
  let answer (body : List UInt8) : Answer := ⟨status, header? "location" headers, body⟩
  if status = 204 || status = 304 then .whole (answer [])
  else if (header? "transfer-encoding" headers).any (·.toLower = "chunked") then
    match joinChunks rest with
    | some body => .whole (answer body)
    | none => .cut (answer rest)
  else match (header? "content-length" headers).bind (Text.readNat? (Nat.pow 2 64)) with
    | some n => if rest.length < n then .cut (answer rest) else .whole (answer (rest.take n))
    | none => .whole (answer rest)

/-- **What a server sent** before the connection ended. -/
def Reception.ofBytes (bs : List UInt8) : Reception :=
  match splitHead bs with
  | some (first :: headers, rest) =>
    match statusOf first with
    | some status => .ofParts status headers rest
    | none => .dropped
  | _ => .dropped

end GceMachines.Http
