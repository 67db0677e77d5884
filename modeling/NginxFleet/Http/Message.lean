/-
Module: NginxFleet.Http.Message
Layer: Http
Purpose: What is sent to the server and what comes back. The body of an answer is the text of a
  document, another text or plain octets: a server may answer with something that is not JSON, or
  not even text.
Main exports: Method, Request, Body, Outcome, reasonPhrase?
-/
import NginxFleet.Http.Target
import NginxFleet.Json.Parser
import NginxFleet.Json.Received
import NginxFleet.Text.Utf8

namespace NginxFleet

/-- The methods that the operator uses. -/
inductive Method where
  | get
  | post
  | put
deriving DecidableEq, Repr, Inhabited

/-- The name of a method. -/
def Method.name : Method → String
  | .get => "GET"
  | .post => "POST"
  | .put => "PUT"

/-- A request to the server, with the document that the server reads in its body. -/
structure Request where
  method : Method
  target : Target
  body : Option Json := none
deriving DecidableEq, Repr, Inhabited

/-- The body of an answer. -/
inductive Body where
  | document (value : Json)
  | text (value : String)
  | octets (value : List UInt8)
deriving DecidableEq, Repr, Inhabited

namespace Body

/-- The text of a body, if it is text. -/
def asText : Body → Except Text.Utf8Fault String
  | .document value => .ok value.canonicalText
  | .text value => .ok value
  | .octets value => Text.decodeUtf8 value

/-- The document that is read in a body that is text, if there is one. -/
def asDocument : Body → Except Text.Utf8Fault (Option Json)
  | .document value => .ok (some value.received)
  | .text value => .ok (Json.parseMarked? value)
  | .octets value => (Text.decodeUtf8 value).map Json.parseMarked?

end Body

/-- What comes of a request: an answer with a status and a body, or a failure on the way. -/
inductive Outcome where
  | answer (status : Nat) (body : Body)
  | failure (reason : String)
deriving DecidableEq, Repr, Inhabited

/-- The phrase that belongs to a status of failure. -/
def reasonPhrase? (status : Nat) : Option String :=
  [(400, "Bad Request"), (401, "Unauthorized"), (402, "Payment Required"), (403, "Forbidden"),
   (404, "Not Found"), (405, "Method Not Allowed"), (406, "Not Acceptable"),
   (407, "Proxy Authentication Required"), (408, "Request Timeout"), (409, "Conflict"),
   (410, "Gone"), (411, "Length Required"), (412, "Precondition Failed"),
   (413, "Payload Too Large"), (414, "URI Too Long"), (415, "Unsupported Media Type"),
   (416, "Range Not Satisfiable"), (417, "Expectation Failed"), (418, "I'm a teapot"),
   (421, "Misdirected Request"), (422, "Unprocessable Entity"), (423, "Locked"),
   (424, "Failed Dependency"), (425, "Too Early"), (426, "Upgrade Required"),
   (428, "Precondition Required"), (429, "Too Many Requests"),
   (431, "Request Header Fields Too Large"), (451, "Unavailable For Legal Reasons"),
   (500, "Internal Server Error"), (501, "Not Implemented"), (502, "Bad Gateway"),
   (503, "Service Unavailable"), (504, "Gateway Timeout"), (505, "HTTP Version Not Supported"),
   (506, "Variant Also Negotiates"), (507, "Insufficient Storage"), (508, "Loop Detected"),
   (510, "Not Extended"), (511, "Network Authentication Required")].lookup status

/-- A status in words. -/
def statusText (status : Nat) : String :=
  toString status ++ " " ++ (reasonPhrase? status).getD "<unknown status code>"

end NginxFleet
