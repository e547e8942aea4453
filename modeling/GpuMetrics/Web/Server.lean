import GpuMetrics.Session
import GpuMetrics.Text.Encoding
import GpuMetrics.Web.Target

/-!
# Answers to requests

The server answers a request for the telemetry path with the metrics, one for the root with a page
that links to them, and any other with a refusal, as `do_GET` of `MetricsHandler` does. If the
metrics cannot be had the answer is an error of the server. A request that cannot be read, or whose
method is not served, is refused before that. Every answer is logged. There is no answer to a blank
line, if the host that a target names is faulty, or if the page with the link cannot be written.
-/

namespace GpuMetrics.Web

/-- What a request is answered with. -/
structure Response where
  status : Nat
  contentType : String
  body : String
  /-- Whether the body is sent, and not only its length. -/
  sendsBody : Bool := true
  deriving DecidableEq, Repr

/-- What is sent of the body. -/
def Response.sentBody (r : Response) : String := if r.sendsBody then r.body else ""

/-- The number of bytes of the body. -/
def Response.length (r : Response) : Nat := r.body.utf8ByteSize

/-- The page that links to the metrics, up to the link. -/
def landingHead : String :=
  "<html lang=\"en\">\n"
    ++ "<head><title>NVIDIA GPU Exporter</title></head>\n"
    ++ "<body>\n"
    ++ "<h1>NVIDIA GPU Exporter</h1>\n"
    ++ "<p><a href=\""

/-- The page that links to the metrics. -/
def landingPage (telemetryPath : String) : String :=
  landingHead ++ telemetryPath ++ "\">Metrics</a></p>\n"
    ++ "</body>\n"
    ++ "</html>\n"

/-- A character of a text on a page. -/
def pageChar (c : Char) : List Char :=
  if c = '&' then "&amp;".toList
  else if c = '<' then "&lt;".toList
  else if c = '>' then "&gt;".toList
  else [c]

/-- A refusal of a request that cannot be read: its code, what is wrong with the request, and what
the code means. -/
structure Refusal where
  code : Nat
  message : String
  meaning : String
  /-- Whether a page is sent with it. -/
  sendsPage : Bool := true

/-- The refusal of a request that is not written as it should be. -/
def badRequest (message : String) : Refusal :=
  { code := 400, message := message, meaning := "Bad request syntax or unsupported method" }

/-- The method that asks for an answer without its body. -/
def headMethod : String := "HEAD"

/-- The refusal of a request, as `parse_request` and `handle_one_request` have it. A blank line is
passed over. -/
def LineFault.refusal? : LineFault → Option Refusal
  | blank => none
  | tooLong => some { code := 414, message := "Request-URI Too Long", meaning := "URI is too long" }
  | noVersion word => some (badRequest ("Bad request version (" ++ Text.quoted word ++ ")"))
  | futureVersion number => some
    { code := 505, message := "Invalid HTTP version (" ++ number ++ ")",
      meaning := "Cannot fulfill request" }
  | badSyntax line => some (badRequest ("Bad request syntax (" ++ Text.quoted line ++ ")"))
  | oldMethod method => some
    (badRequest ("Bad HTTP/0.9 request type (" ++ Text.quoted method ++ ")"))
  | noMethod method => some
    { code := 501, message := "Unsupported method (" ++ Text.quoted method ++ ")",
      meaning := "Server does not support this operation", sendsPage := method ≠ headMethod }

/-- The line that the log has for a request. Of a line that is too long nothing is kept. -/
def LineFault.loggedLine (line : String) : LineFault → String
  | tooLong => ""
  | _ => line

/-- The page for a request that cannot be read: that of `send_error`. -/
def refusalPage (r : Refusal) : String :=
  let code := Text.integerText r.code
  "<!DOCTYPE HTML>\n"
    ++ "<html lang=\"en\">\n"
    ++ "    <head>\n"
    ++ "        <meta charset=\"utf-8\">\n"
    ++ "        <title>Error response</title>\n"
    ++ "    </head>\n"
    ++ "    <body>\n"
    ++ "        <h1>Error response</h1>\n"
    ++ "        <p>Error code: " ++ code ++ "</p>\n"
    ++ "        <p>Message: " ++ String.ofList (r.message.toList.flatMap pageChar) ++ ".</p>\n"
    ++ "        <p>Error code explanation: " ++ code ++ " - " ++ r.meaning ++ ".</p>\n"
    ++ "    </body>\n"
    ++ "</html>\n"

/-- The metrics. -/
def metricsResponse (text : String) : Response :=
  { status := 200, contentType := "text/plain; version=1.0.0; charset=utf-8", body := text }

/-- Why a request has no answer. -/
inductive AnswerFault
  | /-- The request is a blank line. -/
    blank
  | /-- The host that the target names is faulty. -/
    host (fault : HostFault)
  | /-- The page that links to the metrics cannot be written. -/
    page (fault : Text.Unwritable)
  deriving DecidableEq, Repr

/-- How a message names the fault. Nothing is said of a blank line. -/
def AnswerFault.message : AnswerFault → String
  | blank => ""
  | host e => e.message
  | page e => e.message

/-- The page that links to the metrics, which is written in UTF-8. -/
def landingResponse (telemetryPath : Text.Wording) : Except AnswerFault Response :=
  match Text.Encoding.utf8.fault? (Text.Wording.pointsOf landingHead ++ telemetryPath.points) with
  | some e => .error (.page e)
  | none => .ok
    { status := 200, contentType := "text/html; charset=utf-8",
      body := landingPage telemetryPath.outline }

/-- There is nothing under the path. -/
def notFoundResponse : Response :=
  { status := 404, contentType := "text/plain; charset=utf-8", body := "Not Found" }

/-- The metrics cannot be had. -/
def failureResponse : Response :=
  { status := 500, contentType := "text/plain; charset=utf-8", body := "Internal Server Error" }

/-- The request cannot be read. -/
def refusalResponse (r : Refusal) : Response :=
  { status := r.code, contentType := "text/html;charset=utf-8", body := refusalPage r,
    sendsBody := r.sendsPage }

/-- What the server serves. -/
structure Server (σ : Type) where
  /-- The channel that requests are logged on. -/
  channel : String
  /-- The path of the metrics. -/
  telemetryPath : Text.Wording
  /-- The metrics as text. -/
  metrics : Session σ String

namespace Server

variable {σ : Type}

/-- Logs an answer and gives it: `_reply`. -/
def reply (s : Server σ) (line : String) (r : Response) : Session σ Response := do
  Session.note s.channel .debug
    ("\"" ++ line ++ "\" " ++ Text.integerText r.status ++ " -")
  return r

/-- The answer to a request for the telemetry path, as `_serve_metrics` gives it. -/
def serveMetrics (s : Server σ) : Session σ Response := do
  match ← Session.attempt s.metrics with
  | .ok text => return metricsResponse text
  | .error e =>
    Session.note s.channel .error ("Failed to render metrics: " ++ e.message)
    return failureResponse

/-- The answer to a request for a path, with the three cases of `do_GET`. -/
def respond (s : Server σ) (path : String) : Session σ (Except AnswerFault Response) := do
  if s.telemetryPath = path then return .ok (← s.serveMetrics)
  else if path = "/" then return landingResponse s.telemetryPath
  else return .ok notFoundResponse

/-- The answer to a request that cannot be read. -/
def refuse (s : Server σ) (line : String) (e : LineFault) :
    Session σ (Except AnswerFault Response) := do
  match e.refusal? with
  | none => return .error .blank
  | some r =>
    Session.note s.channel .debug
      ("code " ++ Text.integerText r.code ++ ", message " ++ r.message)
    return .ok (← s.reply (e.loggedLine line) (refusalResponse r))

/-- The answer to a request, or why it has none. -/
def answer (s : Server σ) (request : String) : Session σ (Except AnswerFault Response) := do
  let line := lineOf request
  match targetOf request with
  | .error e => s.refuse line e
  | .ok target =>
    match pathOf target with
    | .error e => return .error (.host e)
    | .ok path =>
      match ← s.respond path with
      | .error e => return .error e
      | .ok r => return .ok (← s.reply line r)

end Server

end GpuMetrics.Web
