import TaskFabric.Http.MediaType
import TaskFabric.Http.Route
import TaskFabric.Http.StatusCode
import TaskFabric.Json.Text
import TaskFabric.Node
import TaskFabric.Task.Wire

/-! The routes that a node serves to its peers. Its own card says under which path they stand. A
request is judged by its path first, then by its method, by the type of its body, and by the body.
-/

namespace TaskFabric.Http

/-- A request, as far as a node looks at it. -/
structure Request where
  method : String
  uri : String
  contentType : Option String
  body : String

/-- What a node answers: a bare status, a status with a document, or that it cannot read the
body.
-/
inductive Response where
  | status (code : StatusCode)
  | document (code : StatusCode) (doc : Json)
  | unreadable

/-- The response that reports a failure. -/
def failureResponse (e : ClusterError) : Response :=
  let code : StatusCode :=
    match e with
    | .noPeers => .serviceUnavailable
    | .codec _ => .badRequest
    | _ => .internalServerError
  .document code (.obj [("error", .str e.message)])

/-- Serves a request on a route that posts a body. -/
def servePosted {σ : Type} (t : Transport σ) (route : Route) (body : String) (h : Host σ)
    : Response × Host σ :=
  match route with
  | .digest => (.status .methodNotAllowed, h)
  | .exchange =>
      match (Json.parse? body).bind Message.ofJson? with
      | none => (.unreadable, h)
      | some m =>
          let (reply, h) := h.onCase fun case disk => case.exchange m disk
          (.document .ok ((reply.map Message.toJson).getD .null), h)
  | .distribute =>
      match Batch.ofText? body with
      | none => (.unreadable, h)
      | some tasks =>
          match h.onScheduler fun s => s.runBatch tasks with
          | (some results, h) => (.document .ok (Batch.toJson results), h)
          | (none, h) => (.status .internalServerError, h)
  | .dispatch =>
      match Batch.ofText? body with
      | none => (.unreadable, h)
      | some tasks =>
          match h.distribute t tasks with
          | (.ok results, h) => (.document .ok (Batch.toJson results), h)
          | (.error e, h) => (failureResponse e, h)

/-- The pattern behind which the routes of a node stand. A node whose own card names no pattern
serves nothing.
-/
def patternOf? (node : Node) : Option Pattern := Pattern.parse? node.case.state.own.route

/-- Serves a request. -/
def serve {σ : Type} (t : Transport σ) (request : Request) (h : Host σ) : Response × Host σ :=
  match (patternOf? h.node).bind fun base => Route.ofPath? base (pathOf request.uri) with
  | none => (.status .notFound, h)
  | some route =>
      if !route.allows request.method then
        (.status .methodNotAllowed, h)
      else if route = .digest then
        if request.method = "HEAD" then (.status .ok, h)
        else (.document .ok h.node.case.digest.toJson, h)
      else if !((request.contentType.bind MediaType.parse?).any MediaType.isJson) then
        (.status .unsupportedMediaType, h)
      else
        servePosted t route request.body h

end TaskFabric.Http
