/-!
# Status codes

A response begins with a status code. Its hundreds give its class, and the registered codes have a
reason phrase, which messages show behind the code.
-/

set_option autoImplicit false

namespace CiClient.Http

/-- The status code of a response. -/
structure Status where
  code : Nat
  deriving DecidableEq

namespace Status

/-- The phrase of a registered status code. -/
def reason? (s : Status) : Option String :=
  match s.code with
  | 100 => some "Continue"
  | 101 => some "Switching Protocols"
  | 102 => some "Processing"
  | 103 => some "Early Hints"
  | 200 => some "OK"
  | 201 => some "Created"
  | 202 => some "Accepted"
  | 203 => some "Non Authoritative Information"
  | 204 => some "No Content"
  | 205 => some "Reset Content"
  | 206 => some "Partial Content"
  | 207 => some "Multi-Status"
  | 208 => some "Already Reported"
  | 226 => some "IM Used"
  | 300 => some "Multiple Choices"
  | 301 => some "Moved Permanently"
  | 302 => some "Found"
  | 303 => some "See Other"
  | 304 => some "Not Modified"
  | 305 => some "Use Proxy"
  | 307 => some "Temporary Redirect"
  | 308 => some "Permanent Redirect"
  | 400 => some "Bad Request"
  | 401 => some "Unauthorized"
  | 402 => some "Payment Required"
  | 403 => some "Forbidden"
  | 404 => some "Not Found"
  | 405 => some "Method Not Allowed"
  | 406 => some "Not Acceptable"
  | 407 => some "Proxy Authentication Required"
  | 408 => some "Request Timeout"
  | 409 => some "Conflict"
  | 410 => some "Gone"
  | 411 => some "Length Required"
  | 412 => some "Precondition Failed"
  | 413 => some "Payload Too Large"
  | 414 => some "URI Too Long"
  | 415 => some "Unsupported Media Type"
  | 416 => some "Range Not Satisfiable"
  | 417 => some "Expectation Failed"
  | 418 => some "I'm a teapot"
  | 421 => some "Misdirected Request"
  | 422 => some "Unprocessable Entity"
  | 423 => some "Locked"
  | 424 => some "Failed Dependency"
  | 425 => some "Too Early"
  | 426 => some "Upgrade Required"
  | 428 => some "Precondition Required"
  | 429 => some "Too Many Requests"
  | 431 => some "Request Header Fields Too Large"
  | 451 => some "Unavailable For Legal Reasons"
  | 500 => some "Internal Server Error"
  | 501 => some "Not Implemented"
  | 502 => some "Bad Gateway"
  | 503 => some "Service Unavailable"
  | 504 => some "Gateway Timeout"
  | 505 => some "HTTP Version Not Supported"
  | 506 => some "Variant Also Negotiates"
  | 507 => some "Insufficient Storage"
  | 508 => some "Loop Detected"
  | 510 => some "Not Extended"
  | 511 => some "Network Authentication Required"
  | _ => none

/-- A status as messages show it. -/
def display (s : Status) : String :=
  Nat.repr s.code ++ " " ++ s.reason?.getD "<unknown status code>"

/-- The request was carried out. -/
def isSuccess (s : Status) : Bool := 200 ≤ s.code && s.code < 300

/-- The answer is to be found elsewhere. -/
def isRedirection (s : Status) : Bool := 300 ≤ s.code && s.code < 400

/-- The server failed. -/
def isServerError (s : Status) : Bool := 500 ≤ s.code && s.code < 600

/-- A build server answers most writes with a redirection, so one counts as acceptance. -/
def isAccepted (s : Status) : Bool := s.isSuccess || s.isRedirection

/-- The accepted statuses are those from 200 to 399. -/
theorem isAccepted_iff (s : Status) : s.isAccepted = true ↔ 200 ≤ s.code ∧ s.code < 400 := by
  simp only [isAccepted, isSuccess, isRedirection, Bool.or_eq_true, Bool.and_eq_true,
    decide_eq_true_eq]
  omega

/-- The status of what the server does not have. -/
def notFound : Status := ⟨404⟩

/-- Whether responses with this status never have a body. -/
def isBodiless (s : Status) : Bool := s.code == 204 || s.code == 304

end Status
end CiClient.Http
