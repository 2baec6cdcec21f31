/-! Status codes of responses, and the phrases that stand for those in use. -/

namespace TaskFabric.Http

/-- The code of a response: three digits, the first of which is not zero. -/
structure StatusCode where
  value : Nat
  range : 100 ≤ value ∧ value < 1000
deriving DecidableEq

namespace StatusCode

/-- The code of a number. -/
def ofNat? (n : Nat) : Option StatusCode :=
  if h : 100 ≤ n ∧ n < 1000 then some ⟨n, h⟩ else none

/-- The request was carried out. -/
def ok : StatusCode := ⟨200, by decide⟩

/-- The body cannot be read. -/
def badRequest : StatusCode := ⟨400, by decide⟩

/-- Nothing stands under the path. -/
def notFound : StatusCode := ⟨404, by decide⟩

/-- The method is not served under the path. -/
def methodNotAllowed : StatusCode := ⟨405, by decide⟩

/-- The type of the body is not served under the path. -/
def unsupportedMediaType : StatusCode := ⟨415, by decide⟩

/-- The node failed. -/
def internalServerError : StatusCode := ⟨500, by decide⟩

/-- The node has nobody to turn to. -/
def serviceUnavailable : StatusCode := ⟨503, by decide⟩

/-- Whether a response is only a notice that another one follows. -/
def isInterim (c : StatusCode) : Bool := c.value < 200

/-- Whether a request was carried out. -/
def isSuccess (c : StatusCode) : Bool := 200 ≤ c.value && c.value < 300

/-- Whether a response never has a body. -/
def hasNoBody (c : StatusCode) : Bool := c.isInterim || c.value == 204 || c.value == 304

/-- The codes in use and their phrases. -/
def phrases : List (Nat × String) :=
  [(100, "Continue"),
    (101, "Switching Protocols"),
    (102, "Processing"),
    (200, "OK"),
    (201, "Created"),
    (202, "Accepted"),
    (203, "Non Authoritative Information"),
    (204, "No Content"),
    (205, "Reset Content"),
    (206, "Partial Content"),
    (207, "Multi-Status"),
    (208, "Already Reported"),
    (226, "IM Used"),
    (300, "Multiple Choices"),
    (301, "Moved Permanently"),
    (302, "Found"),
    (303, "See Other"),
    (304, "Not Modified"),
    (305, "Use Proxy"),
    (307, "Temporary Redirect"),
    (308, "Permanent Redirect"),
    (400, "Bad Request"),
    (401, "Unauthorized"),
    (402, "Payment Required"),
    (403, "Forbidden"),
    (404, "Not Found"),
    (405, "Method Not Allowed"),
    (406, "Not Acceptable"),
    (407, "Proxy Authentication Required"),
    (408, "Request Timeout"),
    (409, "Conflict"),
    (410, "Gone"),
    (411, "Length Required"),
    (412, "Precondition Failed"),
    (413, "Payload Too Large"),
    (414, "URI Too Long"),
    (415, "Unsupported Media Type"),
    (416, "Range Not Satisfiable"),
    (417, "Expectation Failed"),
    (418, "I'm a teapot"),
    (421, "Misdirected Request"),
    (422, "Unprocessable Entity"),
    (423, "Locked"),
    (424, "Failed Dependency"),
    (425, "Too Early"),
    (426, "Upgrade Required"),
    (428, "Precondition Required"),
    (429, "Too Many Requests"),
    (431, "Request Header Fields Too Large"),
    (451, "Unavailable For Legal Reasons"),
    (500, "Internal Server Error"),
    (501, "Not Implemented"),
    (502, "Bad Gateway"),
    (503, "Service Unavailable"),
    (504, "Gateway Timeout"),
    (505, "HTTP Version Not Supported"),
    (506, "Variant Also Negotiates"),
    (507, "Insufficient Storage"),
    (508, "Loop Detected"),
    (510, "Not Extended"),
    (511, "Network Authentication Required")]

/-- The code with its phrase. -/
def text (c : StatusCode) : String :=
  let phrase := (phrases.lookup c.value).getD "<unknown status code>"
  s!"{c.value} {phrase}"

end StatusCode

end TaskFabric.Http
