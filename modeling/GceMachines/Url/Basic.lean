import GceMachines.Url.Host
import GceMachines.Url.Path

/-!
# Addresses

An address is taken apart once and then kept in parts, each in its canonical notation. An address
with a path of segments can be extended: segments are appended and encoded, so that each of them
stays one segment, and pairs are appended to the query.

* `Url`, `Url.text`: an address and its notation.
* `Url.append`: an address with more segments.
* `Url.appendPair`: an address with one more pair in its query.
-/

namespace GceMachines

/-- **An address.** -/
structure Url where
  scheme : String
  /-- What stands before the host: a user name and perhaps a password. -/
  user : Option String
  host : Option Url.Host
  /-- The port, unless it is the one that the scheme implies. -/
  port : Option Nat
  /-- Whether a point stands before the path, so that its first slashes do not begin a host. -/
  setOff : Bool
  path : Url.Path
  query : Option String
  fragment : Option String
  deriving DecidableEq, Repr

namespace Url

/-- The schemes whose addresses have a host, with the ports they imply. -/
def webSchemes : List (String × Nat) :=
  [("http", 80), ("https", 443), ("ws", 80), ("wss", 443), ("ftp", 21)]

/-- Whether a scheme is one of those whose addresses follow the stricter rules. -/
def isWeb (scheme : String) : Bool := (webSchemes.any fun (s, _) => s = scheme) || scheme = "file"

/-- What is written before the path. -/
def origin (u : Url) : String :=
  match u.host with
  | none => if u.scheme = "file" then "//" else if u.setOff then "/." else ""
  | some h =>
    "//" ++ (u.user.map (· ++ "@")).getD "" ++ h.text ++
      (u.port.map fun p => ":" ++ toString p).getD ""

/-- The path and the query: what a request is aimed at. -/
def target (u : Url) : String := u.path.text ++ (u.query.map ("?" ++ ·)).getD ""

/-- **The notation of an address.** -/
def text (u : Url) : String :=
  u.scheme ++ ":" ++ u.origin ++ u.target ++ (u.fragment.map ("#" ++ ·)).getD ""

/-- Whether a character counts for nothing in an address. -/
def isIgnored (c : Char) : Bool := c == '\t' || c == '\n' || c == '\r'

/-- How the path of an address is filled when segments are put behind it. -/
def appending (scheme : String) : Filling := ⟨scheme = "file", scheme = "file"⟩

/-- Segments without an empty one at the end, unless it is the only one. -/
def trimmed (ss : List String) : List String :=
  if 1 < ss.length && ss.getLast? = some "" then ss.dropLast else ss

/-- Segments with a place for one more: an empty one that stands alone is the place. -/
def opened (ss : List String) : List String := if ss = [""] then ss else ss ++ [""]

/-- A text as it is written as one segment of a path. -/
def segmentText (web : Bool) (s : String) : String :=
  percentEncode (if web then webSegmentPlain else segmentPlain)
    (String.ofList (s.toList.filter (!isIgnored ·)))

/-- Segments with a text as one more; a text of one or two points is left out. -/
def pushText (scheme : String) (ss : List String) (s : String) : List String :=
  if s = "." || s = ".." then ss
  else
    let f := appending scheme
    f.finish (put f (opened ss) (segmentText (isWeb scheme) s))

/-- **An address with more segments.** -/
def append (u : Url) (more : List String) : Url :=
  match u.path with
  | .plain _ => u
  | .segments ss => { u with path := .segments (more.foldl (pushText u.scheme) (trimmed ss)) }

/-- **An address with one more pair** in its query. -/
def appendPair (u : Url) (key value : String) : Url :=
  let pair := formEncode key ++ "=" ++ formEncode value
  let before := u.query.getD ""
  { u with query := some (if before.isEmpty then pair else before ++ "&" ++ pair) }

/-- Whether an address names a host. -/
def hasHost (u : Url) : Bool :=
  match u.host with
  | none => false
  | some (.other h) => !h.isEmpty
  | some _ => true

/-- Whether others cannot be relative to an address. -/
def cannotBeABase (u : Url) : Bool :=
  match u.path with
  | .plain _ => true
  | .segments _ => false

end Url

end GceMachines
