import Admission.Http.Invalid
/-!
# Methods, headers and status codes

Methods and header names are tokens; header names are the same whatever their case, and kept in
lower case. A header value is a sequence of bytes, and a text only if all of them can be shown.
-/

namespace Admission.Http

def isTokenChar (c : Char) : Bool :=
  ('a' ≤ c && c ≤ 'z') || ('A' ≤ c && c ≤ 'Z') || ('0' ≤ c && c ≤ '9')
    || "!#$%&'*+-.^_\x60|~".toList.contains c

def isToken (text : String) : Bool := !text.isEmpty && text.toList.all isTokenChar

/-- Reads a method, which keeps its case. -/
def parseMethod (text : String) : Except Invalid String :=
  if isToken text then .ok text else .error .method

def parseHeaderName (text : String) : Except Invalid String :=
  if isToken text && text.utf8ByteSize < 65536 then
    .ok (String.ofList (text.toList.map Char.toLower))
  else .error .headerName

/-- Bytes of a header value: no controls other than the tab. -/
def isValueByte (byte : Nat) : Bool := (32 ≤ byte && byte ≠ 127) || byte = 9

def isReadableByte (byte : Nat) : Bool := (32 ≤ byte && byte < 127) || byte = 9

def parseHeaderValue (bytes : List Nat) : Except Invalid (List Nat) :=
  if bytes.all isValueByte then .ok bytes else .error .headerValue

def valueText? (bytes : List Nat) : Option String :=
  if bytes.all isReadableByte then some (String.ofList (bytes.map Char.ofNat)) else none

def bytesOf (text : String) : List Nat := text.toUTF8.toList.map UInt8.toNat

structure Status where
  code : Nat
  deriving DecidableEq, Repr

namespace Status

/-- A status code has three digits. -/
def ofCode (code : Nat) : Except Invalid Status :=
  if 100 ≤ code && code < 1000 then .ok ⟨code⟩ else .error .statusCode

def isSuccess (status : Status) : Bool := 200 ≤ status.code && status.code < 300

def tooManyRequests : Status := ⟨429⟩

def serviceUnavailable : Status := ⟨503⟩

end Status
end Admission.Http
