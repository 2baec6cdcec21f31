import TaskFabric.Http.Pattern
import TaskFabric.Text

/-! What a node serves to its peers, and the paths under which it is asked for. A target names a
path, perhaps behind a scheme and an authority, and perhaps a query and a fragment; a fragment is
not sent.
-/

namespace TaskFabric.Http

/-- What a peer can ask for. -/
inductive Route where
  | exchange
  | distribute
  | dispatch
  | digest
deriving DecidableEq

namespace Route

/-- The path of a route below that of the node. -/
def path : Route → String
  | .exchange => "/exchange"
  | .distribute => "/distribute"
  | .dispatch => "/dispatch"
  | .digest => "/digest"

/-- All routes. -/
def all : List Route := [.exchange, .distribute, .dispatch, .digest]

/-- Whether a method is served: a view is fetched, everything else is posted. -/
def allows (r : Route) (method : String) : Bool :=
  match r with
  | .digest => method == "GET" || method == "HEAD"
  | _ => method == "POST"

/-- The route of a path at a node whose routes stand behind a pattern. -/
def ofPath? (base : Pattern) (path : String) : Option Route :=
  (base.behind? path).bind fun rest => all.find? fun r => r.path.toList == rest

end Route

/-- The path of a target: what stands before its query and its fragment, and behind its scheme
and authority, if it has them.
-/
def pathOf (uri : String) : String :=
  let cs := uri.toList.takeWhile fun c => c != '?' && c != '#'
  match cs with
  | '/' :: _ => String.ofList cs
  | _ =>
      match Text.splitAtFirst? ':' cs with
      | some (_, '/' :: '/' :: rest) =>
          match rest.dropWhile (· != '/') with
          | [] => "/"
          | path => String.ofList path
      | _ => ""

/-- Whether a character may stand in a path without an escape. -/
def isPathChar (c : Char) : Bool :=
  c == '!' || ('$' ≤ c && c ≤ ';') || c == '=' || ('@' ≤ c && c ≤ '_') || ('a' ≤ c && c ≤ 'z')
    || ['|', '~', '"', '{', '}'].contains c || 127 ≤ c.toNat

/-- Whether a character may stand in a query without an escape. -/
def isQueryChar (c : Char) : Bool :=
  c == '!' || ('$' ≤ c && c ≤ ';') || c == '=' || '?' ≤ c

/-- The greatest size of a target, in bytes. -/
def targetLimit : Nat := 65534

/-- The target that is sent for a rooted path with perhaps a query and a fragment, unless there is
a character in it that has to be escaped or it is too long.
-/
def target? (uri : String) : Option String :=
  let sent := uri.toList.takeWhile (· != '#')
  if uri.utf8ByteSize ≤ targetLimit && (sent.takeWhile (· != '?')).all isPathChar
      && (sent.dropWhile (· != '?')).all isQueryChar then
    some (String.ofList sent)
  else
    none

end TaskFabric.Http
