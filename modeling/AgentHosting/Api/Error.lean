import AgentHosting.Kube.Cluster

/-!
# AgentHosting.Api.Error

The errors of the API server and the response each becomes.
-/

namespace AgentHosting
namespace Api

open Kube

inductive AppError where
  | notFound (msg : String)
  | conflict (msg : String)
  | badRequest (msg : String)
  | kubeError (e : KubeError)
  | internal (msg : String)
deriving DecidableEq

structure Response where
  status : Nat
  body : Json

/-- `IntoResponse`; the text of a client error is its `Display`. -/
def AppError.intoResponse (err : AppError) : Response :=
  let (status, message) := match err with
    | .notFound msg => (404, msg)
    | .conflict msg => (409, msg)
    | .badRequest msg => (400, msg)
    | .kubeError e => (500, e.text)
    | .internal msg => (500, msg)
  ⟨status, Json.object [("error", .str message)]⟩

/-- The text a client is shown. -/
def AppError.message : AppError → String
  | .notFound msg | .conflict msg | .badRequest msg | .internal msg => msg
  | .kubeError e => e.text

/-- An error body is flat: one member, a string. -/
theorem AppError.intoResponse_body (err : AppError) :
    err.intoResponse.body = Json.object [("error", .str err.message)] := by
  cases err <;> rfl

theorem AppError.intoResponse_status (err : AppError) :
    400 ≤ err.intoResponse.status := by
  cases err <;> simp [AppError.intoResponse]

end Api
end AgentHosting
