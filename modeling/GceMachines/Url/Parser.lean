import GceMachines.Url.Basic
import GceMachines.Text.Integer

/-!
# Reading addresses

Blanks and control characters around an address do not count, nor do tabs and line ends anywhere
in it. What follows the scheme depends on it: web addresses have a host behind any number of
slashes, forward or backward; other addresses have one only behind two slashes.

* `Url.parse`: the address of a text.
-/

namespace GceMachines.Url

/-- The characters of a text that count. -/
def relevant (text : String) : List Char :=
  let outer (c : Char) : Bool := c.toNat ≤ 0x20
  (((text.toList.dropWhile outer).reverse.dropWhile outer).reverse).filter (!isIgnored ·)

/-- Whether a character may stand in a scheme behind its first one. -/
def isSchemeChar (c : Char) : Bool := c.isAlphanum || c == '+' || c == '-' || c == '.'

/-- The scheme at the front of a text, in lower case, and what follows its colon. -/
def scheme? (cs : List Char) : Option (String × List Char) :=
  match cs with
  | c :: _ =>
    if c.isAlpha then
      match cs.dropWhile isSchemeChar with
      | ':' :: rest => some (String.ofList ((cs.takeWhile isSchemeChar).map Char.toLower), rest)
      | _ => none
    else none
  | [] => none

/-- A text cut before its first character of a kind. -/
def cutAt (stop : Char → Bool) (cs : List Char) : List Char × List Char :=
  (cs.takeWhile (!stop ·), cs.dropWhile (!stop ·))

/-- Whether a character separates segments. -/
def isSlash (web : Bool) (c : Char) : Bool := c == '/' || (web && c == '\\')

/-- The text of a path cut at its slashes. -/
def pathParts (web : Bool) (cs : List Char) : List String :=
  ((cs.map fun c => if isSlash web c then '/' else c).splitOn '/').map fun s =>
    percentEncode pathPlain (String.ofList s)

/-- The segments of a path from its text behind the first slash. -/
def filled (f : Filling) (web : Bool) (cs : List Char) : List String :=
  fill f [""] (pathParts web cs)

/-- The parts of an address behind its path: the query and the fragment. -/
def tail (web : Bool) (cs : List Char) : Option String × Option String :=
  let (front, back) := cutAt (· == '#') cs
  let fragment := match back with
    | _ :: f => some (percentEncode fragmentPlain (String.ofList f))
    | [] => none
  let plain := if web then webQueryPlain else queryPlain
  let query := match front with
    | _ :: q => some (percentEncode plain (String.ofList q))
    | [] => none
  (query, fragment)

/-- Whether a character ends the path. -/
def endsPath (c : Char) : Bool := c == '?' || c == '#'

/-- An address with a path of segments, and with the query and the fragment behind it. -/
def withPath (f : Filling) (web : Bool) (u : Url) (ss : List String) (rest : List Char) : Url :=
  let (query, fragment) := tail web rest
  { u with path := .segments (f.finish ss), query, fragment }

/-- The segments of a path that follows a host. A path of a web address is never empty. -/
def hostPath (f : Filling) (web : Bool) (cs : List Char) : List String :=
  match cs with
  | [] => if web then [""] else []
  | c :: r => filled f web (if isSlash web c then r else cs)

/-- The last `@` of an authority: what stands before it and behind it. -/
def splitUser (cs : List Char) : Option (List Char) × List Char :=
  let host := (cs.reverse.takeWhile (· ≠ '@')).reverse
  if host.length < cs.length then (some (cs.take (cs.length - host.length - 1)), host)
  else (none, cs)

/-- A user name and a password as they are written. -/
def userText (cs : List Char) : Option String :=
  let encode (cs : List Char) := percentEncode userPlain (String.ofList cs)
  let (name, rest) := cutAt (· == ':') cs
  let password := match rest with
    | _ :: p => if p.isEmpty then "" else ":" ++ encode p
    | [] => ""
  let all := encode name ++ password
  if all.isEmpty then none else some all

/-- The host of an authority, and what stands behind its colon. Colons in brackets do not count. -/
def splitPort : (inBrackets : Bool) → List Char → List Char × Option (List Char)
  | _, [] => ([], none)
  | inBrackets, c :: cs =>
    if c == ':' && !inBrackets then ([], some cs)
    else
      let inside := if c == '[' then true else if c == ']' then false else inBrackets
      let (host, port) := splitPort inside cs
      (c :: host, port)

/-- The port of an address, unless the scheme implies it. -/
def parsePort (scheme : String) (cs : List Char) : Except UrlError (Option Nat) :=
  if cs.isEmpty then .ok none
  else
    match Text.ofDigits? 10 cs with
    | none => .error .invalidPort
    | some n =>
      if 65535 < n then .error .invalidPort
      else .ok (if webSchemes.any fun (s, p) => s = scheme && p = n then none else some n)

/-- An address whose authority begins here. A backward slash ends a port in any address. -/
def withAuthority (scheme : String) (web : Bool) (cs : List Char) : Except UrlError Url := do
  let (authority, rest) := cutAt (fun c => isSlash web c || endsPath c) cs
  let (user, hostPort) := splitUser authority
  if user = some [] && hostPort.isEmpty && !rest.isEmpty then throw .emptyHost
  let user := user.bind userText
  let (hostText, portText) := splitPort false hostPort
  if hostText.isEmpty && (web || portText.isSome) then throw .emptyHost
  let host ← if web then Host.parse hostText else Host.parseOther hostText
  let (portText, more) := (portText.map (cutAt (isSlash true))).getD ([], [])
  let port ← parsePort scheme portText
  if hostText.isEmpty && user.isSome then throw .emptyHost
  let (path, rest) := cutAt endsPath (more ++ rest)
  let f : Filling := ⟨false, false⟩
  return withPath f web ⟨scheme, user, some host, port, false, .segments [], none, none⟩
    (hostPath f web path) rest

/-! ### Files -/

/-- The address of a file without a host and a path. -/
def blankFile : Url := ⟨"file", none, none, none, false, .segments [], none, none⟩

/-- The address of a file whose path is read from its first slash on. A drive there stays as it is
written. -/
def filePath (cs : List Char) : Url :=
  let (path, rest) := cutAt endsPath cs
  let f : Filling := ⟨true, false⟩
  withPath f true blankFile (filled f true path.tail) rest

/-- The address of a file whose path has no slash in front. -/
def drivePath (cs : List Char) : Url :=
  let (path, rest) := cutAt endsPath cs
  let f : Filling := ⟨true, true⟩
  withPath f true blankFile (filled f true path) rest

/-- The address of a file at a host. A drive at the front of the path takes the place of the
host. -/
def hostedPath (host : Host) (cs : List Char) : Url :=
  let (path, rest) := cutAt endsPath cs
  let f : Filling := ⟨true, true⟩
  let ss := hostPath f true path
  let onDrive := ss.head?.any fun s => (drive? s.toList).isSome
  withPath f true { blankFile with host := if onDrive then none else some host } ss rest

/-- An address of a file: its host may be missing. A drive in the place of the host belongs to the
path. -/
def fileAddress (cs : List Char) : Except UrlError Url := do
  match cs with
  | a :: b :: rest =>
    if isSlash true a && isSlash true b then
      let (hostText, path) := cutAt (fun c => isSlash true c || endsPath c) rest
      if (drive? hostText).isSome then return drivePath rest
      if hostText.isEmpty then return filePath path
      let host ← Host.parse hostText
      return if host = .domain "localhost" then filePath path else hostedPath host path
    else return if isSlash true a then filePath cs else drivePath cs
  | [a] => return if isSlash true a then filePath cs else drivePath cs
  | [] => return filePath cs

/-! ### Other addresses -/

/-- An address of a scheme that is no web scheme and without a host. A path that begins like a
host is set off. -/
def hostless (u : Url) : Url :=
  match u.path with
  | .segments ("" :: _ :: _) => { u with setOff := true }
  | _ => u

/-- An address of a scheme that is no web scheme. -/
def otherAddress (scheme : String) (cs : List Char) : Except UrlError Url :=
  let blank : Url := ⟨scheme, none, none, none, false, .segments [], none, none⟩
  match cs with
  | '/' :: '/' :: rest => withAuthority scheme false rest
  | '/' :: rest =>
    let (path, rest) := cutAt endsPath rest
    let f : Filling := ⟨false, false⟩
    .ok (hostless (withPath f false blank (filled f false path) rest))
  | cs =>
    let (path, rest) := cutAt endsPath cs
    let (query, fragment) := tail false rest
    .ok { blank with
      path := .plain (percentEncode hostPlain (String.ofList path)), query, fragment }

/-- **The address of a text.** -/
def parse (text : String) : Except UrlError Url :=
  match scheme? (relevant text) with
  | none => .error .relativeWithoutBase
  | some (scheme, rest) =>
    if scheme = "file" then fileAddress rest
    else if isWeb scheme then withAuthority scheme true (rest.dropWhile (isSlash true))
    else otherAddress scheme rest

end GceMachines.Url
