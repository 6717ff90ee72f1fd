import Admission.Http.Invalid
/-!
# URIs

The target of a request: a path with an optional query, an authority alone, or both after a
scheme. A fragment is accepted and left out. The authority is checked as a whole (brackets,
colons, user information) but not taken to pieces, except for its host.
-/

namespace Admission.Http

/-- A parsed URI. The path and the query are kept as they were written; a path which was left out
after a scheme is shown as a slash. -/
structure Uri where
  scheme : Option String
  authority : List Char
  path : List Char
  query : Option (List Char)
  deriving DecidableEq, Repr

namespace Uri

def maxLength : Nat := 65534

def maxSchemeLength : Nat := 64

def isBetween (low high : Char) (c : Char) : Bool := low ≤ c && c ≤ high

def isLetterOrDigit (c : Char) : Bool :=
  isBetween 'a' 'z' c || isBetween 'A' 'Z' c || isBetween '0' '9' c

/-- Characters of a scheme; a colon ends it. -/
def isSchemeChar (c : Char) : Bool :=
  isLetterOrDigit c || "+-.~".toList.contains c

/-- Characters of an authority, other than the percent sign, which only user information may
have, and the three which end it. -/
def isAuthorityChar (c : Char) : Bool :=
  isLetterOrDigit c || "!$&'()*+,-.:;=@[]_~".toList.contains c

def endsAuthority (c : Char) : Bool := c = '/' || c = '?' || c = '#'

def inRanges (ranges : List (Nat × Nat)) (c : Char) : Bool :=
  ranges.any fun range => range.1 ≤ c.toNat && c.toNat ≤ range.2

/-- Characters of a path, other than the ones which end it. -/
def isPathChar (c : Char) : Bool :=
  inRanges [(0x21, 0x22), (0x24, 0x3B), (0x3D, 0x3D), (0x40, 0x5F), (0x61, 0x10FFFF)] c

def isQueryChar (c : Char) : Bool :=
  inRanges [(0x21, 0x21), (0x24, 0x3B), (0x3D, 0x3D), (0x3F, 0x10FFFF)] c

/-- What was seen of an authority so far. -/
structure Scan where
  /-- Colons since the last user information or bracket. -/
  colons : Nat
  opened : Bool
  closed : Bool
  /-- Whether there was a percent sign which no at sign followed. -/
  percent : Bool
  atSign : Bool
  deriving DecidableEq, Repr

def Scan.start : Scan := ⟨0, false, false, false, false⟩

def Scan.next (scan : Scan) (c : Char) : Except UriError Scan :=
  if c = ':' then
    if 8 ≤ scan.colons then .error .authority
    else .ok { scan with colons := scan.colons + 1, atSign := false }
  else if c = '[' then
    if scan.percent || scan.opened then .error .authority
    else .ok { scan with opened := true, atSign := false }
  else if c = ']' then
    if !scan.opened || scan.closed then .error .authority
    else .ok { scan with closed := true, colons := 0, percent := false, atSign := false }
  else if c = '@' then .ok { scan with colons := 0, percent := false, atSign := true }
  else if c = '%' then .ok { scan with percent := true, atSign := false }
  else if isAuthorityChar c then .ok { scan with atSign := false }
  else .error .character

def Scan.isComplete (scan : Scan) : Bool :=
  scan.opened == scan.closed && scan.colons ≤ 1 && !scan.atSign && !scan.percent

/-- Splits a text into the authority at its front and the rest. -/
def splitAuthority (text : List Char) : Except UriError (List Char × List Char) :=
  let authority := text.takeWhile (!endsAuthority ·)
  match authority.foldlM Scan.next Scan.start with
  | .error error => .error error
  | .ok scan =>
    if text.isEmpty then .error .empty
    else if scan.isComplete then .ok (authority, text.dropWhile (!endsAuthority ·))
    else .error .authority

/-- Removes a word from the front of a text, whatever its case. -/
def dropWord? (word : String) (text : List Char) : Option (List Char) :=
  if (text.take word.length).map Char.toLower = word.toList then some (text.drop word.length)
  else none

/-- The scheme at the front of a text, if it has one, and the rest after `://`. -/
def splitScheme (text : List Char) : Except UriError (Option String × List Char) :=
  match dropWord? "http://" text with
  | some rest => .ok (some "http", rest)
  | none =>
    match dropWord? "https://" text with
    | some rest => .ok (some "https", rest)
    | none =>
      let scheme := text.takeWhile isSchemeChar
      match text.drop scheme.length with
      | ':' :: '/' :: '/' :: rest =>
        if maxSchemeLength < scheme.length then .error .schemeTooLong
        else if text.length ≤ 3 then .ok (none, text)
        else .ok (some (String.ofList scheme), rest)
      | _ => .ok (none, text)

/-- The text up to a fragment. -/
def dropFragment (text : List Char) : List Char := text.takeWhile (· ≠ '#')

def splitPath (text : List Char) : Except UriError (List Char × Option (List Char)) :=
  let text := dropFragment text
  let path := text.takeWhile (· ≠ '?')
  if !path.all isPathChar then .error .character
  else
    match text.drop path.length with
    | _ :: query => if query.all isQueryChar then .ok (path, some query) else .error .character
    | [] => .ok (path, none)

def ofAuthority (authority : List Char) : Uri := ⟨none, authority, [], none⟩

def parseFull (text : List Char) : Except UriError Uri := do
  let (scheme, rest) ← splitScheme text
  let (authority, rest) ← splitAuthority rest
  match scheme with
  | none => if rest.isEmpty then .ok (ofAuthority authority) else .error .format
  | some scheme =>
    if authority.isEmpty then .error .format
    else
      let (path, query) ← splitPath rest
      .ok ⟨some scheme, authority, path, query⟩

def parse (text : String) : Except UriError Uri :=
  if maxLength < text.utf8ByteSize then .error .tooLong
  else
    match text.toList with
    | [] => .error .empty
    | ['*'] => .ok ⟨none, [], ['*'], none⟩
    | '/' :: rest => do
      let (path, query) ← splitPath ('/' :: rest)
      .ok ⟨none, [], path, query⟩
    | [c] => do
      let (authority, rest) ← splitAuthority [c]
      if rest.isEmpty then .ok (ofAuthority authority) else .error .character
    | text => parseFull text

/-- The path as it is shown: at least a slash where there is a scheme or a query. -/
def shownPath (uri : Uri) : List Char :=
  if uri.path.isEmpty && (uri.scheme.isSome || uri.query.isSome) then ['/'] else uri.path

def toText (uri : Uri) : String :=
  ((uri.scheme.map (· ++ "://")).getD "")
    ++ String.ofList (uri.authority ++ uri.shownPath
      ++ (uri.query.map ('?' :: ·)).getD [])

/-- The part of an authority after the user information. -/
def dropUser (authority : List Char) : List Char :=
  (authority.reverse.takeWhile (· ≠ '@')).reverse

/-- The host of an authority: a literal in brackets, or what stands before the first colon. -/
def hostOf (authority : List Char) : List Char :=
  let rest := dropUser authority
  match rest with
  | '[' :: _ => rest.takeWhile (· ≠ ']') ++ [']']
  | _ => rest.takeWhile (· ≠ ':')

def host? (uri : Uri) : Option String :=
  if uri.authority.isEmpty then none else some (String.ofList (hostOf uri.authority))

end Uri
end Admission.Http
