/-!
# Invalid parts of requests

Why a text is no part of a request or a response.
-/

namespace Admission.Http

inductive UriError where
  | empty
  | tooLong
  | schemeTooLong
  | character
  | authority
  | format
  deriving DecidableEq, Repr

def UriError.message : UriError → String
  | empty => "empty string"
  | tooLong => "uri too long"
  | schemeTooLong => "scheme too long"
  | character => "invalid uri character"
  | authority => "invalid authority"
  | format => "invalid format"

/-- Which part of a message is invalid. -/
inductive Invalid where
  | uri (error : UriError)
  | method
  | headerName
  | headerValue
  | statusCode
  deriving DecidableEq, Repr

namespace Invalid

def message : Invalid → String
  | uri error => error.message
  | method => "invalid HTTP method"
  | headerName => "invalid HTTP header name"
  | headerValue => "failed to parse header value"
  | statusCode => "invalid status code"

end Invalid
end Admission.Http
