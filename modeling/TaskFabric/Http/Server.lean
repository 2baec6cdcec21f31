import TaskFabric.Http.Head
import TaskFabric.Http.Router
import TaskFabric.Text.Utf8

/-! Requests and responses of a node as bytes. A request without an announced body has an empty one;
a body that is no text reads as an empty one too, which no route accepts. Each response ends its
connection.
-/

namespace TaskFabric.Http

namespace Request

/-- The method and the target on the first line of a request, and whether its version is the older
one.
-/
def requestLine? (cs : List Char) : Option (String × String × Bool) :=
  match Text.splitAt ' ' cs with
  | [method, target, version] => do
      let isOld ←
        if version = "HTTP/1.0".toList then some true
        else if version = "HTTP/1.1".toList then some false
        else none
      if method.isEmpty || target.isEmpty then none
      else return (String.ofList method, String.ofList target, isOld)
  | _ => none

/-- The value of the first header of a name. -/
def headerText? (name : String) (headers : List Header) : Option String :=
  (headers.lookup name).map String.ofList

/-- The request that came over a connection, once it came to its end. -/
def ofBytes? (bytes : List UInt8) : Option Request := do
  let (first, headers, rest) ← head? bytes
  let (method, uri, isOld) ← requestLine? first
  let body ←
    match ← framing? isOld headers with
    | .closing => some []
    | framing => (framing.body? rest).map (·.1)
  return {
    method,
    uri,
    contentType := headerText? "content-type" headers,
    body := (Utf8.decode? body).getD "" }

end Request

namespace Response

/-- The code of a response. -/
def code : Response → StatusCode
  | .status code => code
  | .document code _ => code
  | .unreadable => .badRequest

/-- The bytes of a response; to a request for the head alone, without the body. -/
def bytes (r : Response) (headOnly : Bool) : List UInt8 :=
  let body :=
    match r with
    | .document _ doc => Utf8.encode doc.compact
    | _ => []
  let type :=
    match r with
    | .document _ _ => "content-type: application/json\r\n"
    | _ => ""
  Utf8.encode
      (s!"HTTP/1.1 {r.code.text}\r\n{type}content-length: {body.length}\r\n"
        ++ "connection: close\r\n\r\n")
    ++ (if headOnly then [] else body)

end Response

end TaskFabric.Http
