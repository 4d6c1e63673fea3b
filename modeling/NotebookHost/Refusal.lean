import NotebookHost.Http.Message
import NotebookHost.Json.Writer

namespace NotebookHost

open Http

inductive Refusal where
  | missingHost
  | invalidUpgrade
  | originNotAllowed
  | unknownHost
  | portUnavailable
  | notRunning
  | backendFailed
  | timedOut
  | internal
  deriving DecidableEq, Repr

namespace Refusal

def httpStatus : Refusal → Nat
  | .missingHost => 400
  | .invalidUpgrade => 400
  | .originNotAllowed => 403
  | .unknownHost => 404
  | .portUnavailable => 500
  | .notRunning => 500
  | .backendFailed => 500
  | .timedOut => 504
  | .internal => 500

def name : Refusal → String
  | .missingHost => "MissingHostHeader"
  | .invalidUpgrade => "InvalidUpgrade"
  | .originNotAllowed => "OriginNotAllowed"
  | .unknownHost => "UnknownHost"
  | .portUnavailable => "PortUnavailable"
  | .notRunning => "NotebookNotRunning"
  | .backendFailed => "UpstreamFailed"
  | .timedOut => "RequestTimeout"
  | .internal => "InternalError"

def capitalized (name : String) : String :=
  match name.toList with
  | [] => ""
  | c :: r => String.ofList (c.toUpper :: r.flatMap fun d => if d.isUpper then ['_', d] else [d.toUpper])

def code : Refusal → String
  | .missingHost => "MISSING_HOST_HEADER"
  | .invalidUpgrade => "INVALID_UPGRADE"
  | .originNotAllowed => "ORIGIN_NOT_ALLOWED"
  | .unknownHost => "UNKNOWN_HOST"
  | .portUnavailable => "PORT_UNAVAILABLE"
  | .notRunning => "NOTEBOOK_NOT_RUNNING"
  | .backendFailed => "UPSTREAM_FAILED"
  | .timedOut => "REQUEST_TIMEOUT"
  | .internal => "INTERNAL_ERROR"

def body (r : Refusal) (message : String) : Json :=
  .record [("code", .text (capitalized r.name)), ("error", .text message), ("status", .nat r.httpStatus)]

theorem capitalized_name (r : Refusal) : capitalized r.name = r.code := by cases r <;> rfl

def response (r : Refusal) (message : String) : Response :=
  let base := Response.json r.httpStatus (r.body message).render
  { base with headers := base.headers ++ [.ofText "x-proxy-error" r.code] }

end Refusal

structure Rejection where
  reason : Refusal
  message : String
  deriving DecidableEq, Repr

def Rejection.response (r : Rejection) : Response := r.reason.response r.message

end NotebookHost
