import Admission.Http.Header
import Admission.Http.Uri
/-!
# Subjects

What a limiter is told about its callers, by kind of work: the name of a task, the user of a
pool, or the head of a request. A resolver reads the key of a partition from one of them.
-/

namespace Admission

structure TaskLabel where
  name : Option String
  deriving DecidableEq, Repr

namespace TaskLabel

def anonymous : TaskLabel := ⟨none⟩

def key? (ctx : TaskLabel) : Option String := ctx.name

end TaskLabel

/-- A request for a pooled resource, which may say for which user. -/
structure PoolUser where
  username : Option String
  deriving DecidableEq, Repr

namespace PoolUser

def anonymous : PoolUser := ⟨none⟩

def key? (ctx : PoolUser) : Option String := ctx.username

end PoolUser

/-- The head of a request. Headers are kept in the order in which they were added. -/
structure RequestHead where
  method : String
  uri : Http.Uri
  headers : List (String × List Nat)
  deriving DecidableEq, Repr

namespace RequestHead

/-- The text of the first value of a header, if it can be read. The name is in lower case. -/
def header? (ctx : RequestHead) (name : String) : Option String :=
  (ctx.headers.lookup name).bind Http.valueText?

/-- The host which the request is for: the one in the URI, or else what the host header has
before its first colon. -/
def host? (ctx : RequestHead) : Option String :=
  match ctx.uri.host? with
  | some host => some host
  | none =>
    (ctx.header? "host").map fun host => String.ofList (host.toList.takeWhile (· ≠ ':'))

def hostKey? (ctx : RequestHead) : Option String := ctx.host?

def headerKey? (name : String) (ctx : RequestHead) : Option String := ctx.header? name

/-- The parts of a request as they are given, before they are read. -/
structure Draft where
  method : Option String
  uri : Option String
  headers : List (String × List Nat)

def parseHeader (header : String × List Nat) : Except Http.Invalid (String × List Nat) := do
  let name ← Http.parseHeaderName header.1
  let value ← Http.parseHeaderValue header.2
  .ok (name, value)

/-- Reads the head of a request: the method, the URI, and the headers in order. -/
def ofDraft (draft : Draft) : Except Http.Invalid RequestHead := do
  let method ← Http.parseMethod (draft.method.getD "GET")
  let uri ← (Http.Uri.parse (draft.uri.getD "/")).mapError .uri
  let headers ← draft.headers.mapM parseHeader
  .ok ⟨method, uri, headers⟩

end RequestHead

inductive ResolverName where
  | name
  | username
  | host
  | header (name : String)
  deriving DecidableEq, Repr

/-- Subjects which keys can be read from. A resolver which does not fit the kind of work gives no
keys. -/
class Keyed (C : Type) where
  resolver : ResolverName → Except Http.Invalid (C → Option String)

instance : Keyed TaskLabel where
  resolver
    | .name => .ok TaskLabel.key?
    | _ => .ok fun _ => none

instance : Keyed PoolUser where
  resolver
    | .username => .ok PoolUser.key?
    | _ => .ok fun _ => none

instance : Keyed RequestHead where
  resolver
    | .host => .ok RequestHead.hostKey?
    | .header name => (Http.parseHeaderName name).map RequestHead.headerKey?
    | _ => .ok fun _ => none

end Admission
