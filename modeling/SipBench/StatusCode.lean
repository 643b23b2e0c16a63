import SipBench.Value

/-!
# Status codes

The registered response status codes with their names and reason phrases, and the classes that a
code belongs to by its number alone.

* `StatusCode.find?` : the registered code of a value, compared by number
* `reasonPhrase` : its phrase, empty for any other value
-/

namespace SipBench

/-- A registered status code. -/
structure StatusCode where
  code : Int
  name : String
  phrase : String

namespace StatusCode

/-- The registered codes, by class. -/
def registry : List StatusCode := [
  ⟨100, "TRYING", "Trying"⟩,
  ⟨180, "RINGING", "Ringing"⟩,
  ⟨181, "CALL_IS_BEING_FORWARDED", "Call is Being Forwarded"⟩,
  ⟨182, "QUEUED", "Queued"⟩,
  ⟨183, "SESSION_PROGRESS", "Session Progress"⟩,
  ⟨200, "OK", "OK"⟩,
  ⟨202, "ACCEPTED", "Accepted"⟩,
  ⟨300, "MULTIPLE_CHOICES", "Multiple Choices"⟩,
  ⟨301, "MOVED_PERMANENTLY", "Moved Permanently"⟩,
  ⟨302, "MOVED_TEMPORARILY", "Moved Temporarily"⟩,
  ⟨305, "USE_PROXY", "Use Proxy"⟩,
  ⟨380, "ALTERNATIVE_SERVICE", "Alternative Service"⟩,
  ⟨400, "BAD_REQUEST", "Bad Request"⟩,
  ⟨401, "UNAUTHORIZED", "Unauthorized"⟩,
  ⟨402, "PAYMENT_REQUIRED", "Payment Required"⟩,
  ⟨403, "FORBIDDEN", "Forbidden"⟩,
  ⟨404, "NOT_FOUND", "Not Found"⟩,
  ⟨405, "METHOD_NOT_ALLOWED", "Method Not Allowed"⟩,
  ⟨406, "NOT_ACCEPTABLE", "Not Acceptable"⟩,
  ⟨407, "PROXY_AUTHENTICATION_REQUIRED", "Proxy Authentication Required"⟩,
  ⟨408, "REQUEST_TIMEOUT", "Request Timeout"⟩,
  ⟨410, "GONE", "Gone"⟩,
  ⟨413, "REQUEST_ENTITY_TOO_LARGE", "Request Entity Too Large"⟩,
  ⟨414, "REQUEST_URI_TOO_LONG", "Request URI Too Long"⟩,
  ⟨415, "UNSUPPORTED_MEDIA_TYPE", "Unsupported Media Type"⟩,
  ⟨416, "UNSUPPORTED_URI_SCHEME", "Unsupported URI Scheme"⟩,
  ⟨420, "BAD_EXTENSION", "Bad Extension"⟩,
  ⟨421, "EXTENSION_REQUIRED", "Extension Required"⟩,
  ⟨423, "INTERVAL_TOO_BRIEF", "Interval Too Brief"⟩,
  ⟨480, "TEMPORARILY_UNAVAILABLE", "Temporarily Unavailable"⟩,
  ⟨481, "CALL_OR_TRANSACTION_DOES_NOT_EXIST", "Call or Transaction Does Not Exist"⟩,
  ⟨482, "LOOP_DETECTED", "Loop Detected"⟩,
  ⟨483, "TOO_MANY_HOPS", "Too Many Hops"⟩,
  ⟨484, "ADDRESS_INCOMPLETE", "Address Incomplete"⟩,
  ⟨485, "AMBIGUOUS", "Ambiguous"⟩,
  ⟨486, "BUSY_HERE", "Busy Here"⟩,
  ⟨487, "REQUEST_TERMINATED", "Request Terminated"⟩,
  ⟨488, "NOT_ACCEPTABLE_HERE", "Not Acceptable Here"⟩,
  ⟨489, "BAD_EVENT", "Bad Event"⟩,
  ⟨491, "REQUEST_PENDING", "Request Pending"⟩,
  ⟨493, "UNDECIPHERABLE", "Undecipherable"⟩,
  ⟨500, "SERVER_INTERNAL_ERROR", "Server Internal Error"⟩,
  ⟨501, "NOT_IMPLEMENTED", "Not Implemented"⟩,
  ⟨502, "BAD_GATEWAY", "Bad Gateway"⟩,
  ⟨503, "SERVICE_UNAVAILABLE", "Service Unavailable"⟩,
  ⟨504, "SERVER_TIMEOUT", "Server Timeout"⟩,
  ⟨505, "VERSION_NOT_SUPPORTED", "Version Not Supported"⟩,
  ⟨513, "MESSAGE_TOO_LARGE", "Message Too Large"⟩,
  ⟨600, "BUSY_EVERYWHERE", "Busy Everywhere"⟩,
  ⟨603, "DECLINE", "Decline"⟩,
  ⟨604, "DOES_NOT_EXIST_ANYWHERE", "Does Not Exist Anywhere"⟩,
  ⟨606, "SESSION_NOT_ACCEPTABLE", "Session Not Acceptable"⟩
]

/-- The registered code that equals a value as a number. -/
def find? (value : Value) : Option StatusCode := registry.find? fun s => value.same (.int s.code)

end StatusCode

/-- The registered reason phrase of a status code, empty if there is none. -/
def reasonPhrase (code : Value) : String := ((StatusCode.find? code).map (·.phrase)).getD ""

namespace Number

/-- The class of a status code, its hundreds rounded down. -/
def statusClass : Number → Number
  | .real x => .real (x.floorDiv 100)
  | n => .whole ((n.toInt?.getD 0).fdiv 100)

/-- Whether a status code lies in the half-open range from `low` to `high`. -/
def liesIn (low high : Int) (n : Number) : Bool :=
  Number.atMost (.whole low) n && n.less (.whole high)

/-- A 1xx response, which does not end a transaction. -/
def isProvisional (n : Number) : Bool := n.liesIn 100 200

/-- A 2xx to 6xx response, which ends a transaction. -/
def isFinal (n : Number) : Bool := n.liesIn 200 700

end Number

end SipBench
