import GceMachines.Url.Parser

/-!
# References

Behind an address of the web others can be named by a part of them: what such a reference leaves
out is that of the address. A reference that is an address of its own stands for itself, but one
that has the same scheme and no two slashes behind it is a part as well.

* `Url.join`: the address that a reference stands for behind one of the web.
* `Url.sameServer`: whether two addresses are at the same server.
-/

namespace GceMachines.Url

/-- The address behind another that a reference without a scheme stands for. Two slashes begin a
host, one slash a path; anything else takes the place of the last segment, of the query or of the
fragment. -/
def relative (u : Url) (cs : List Char) : Except UrlError Url :=
  let f : Filling := ⟨false, false⟩
  match cs with
  | [] => .ok { u with fragment := none }
  | '#' :: _ => .ok { u with fragment := (tail true cs).2 }
  | '?' :: _ =>
    let (query, fragment) := tail true cs
    .ok { u with query, fragment }
  | c :: behind =>
    if !isSlash true c then
      let (path, rest) := cutAt endsPath cs
      let own := match u.path with
        | .segments ss => ss
        | .plain _ => []
      .ok (withPath f true u (fill f own (pathParts true path)) rest)
    else if behind.head?.any (isSlash true) then
      withAuthority u.scheme true (cs.dropWhile (isSlash true))
    else
      let (path, rest) := cutAt endsPath behind
      .ok (withPath f true u (filled f true path) rest)

/-- **The address that a reference stands for** behind one of the web. -/
def join (u : Url) (reference : String) : Except UrlError Url :=
  let cs := relevant reference
  match scheme? cs with
  | none => relative u cs
  | some (scheme, rest) =>
    if scheme = u.scheme && (rest.takeWhile (isSlash true)).length < 2 then relative u rest
    else parse reference

/-- The port of the server at an address of the web. -/
def serverPort? (u : Url) : Option Nat := u.port.or (webSchemes.lookup u.scheme)

/-- **Whether two addresses are at the same server.** -/
def sameServer (u v : Url) : Bool :=
  u.host.map Host.text = v.host.map Host.text && u.serverPort? = v.serverPort?

end GceMachines.Url
