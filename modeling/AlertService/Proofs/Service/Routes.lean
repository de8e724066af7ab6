import AlertService.Proofs.Service.Calls

/-!
# Requests for endpoints

A request with the path of an endpoint and a method of its own gets the response of the endpoint,
with the headers that all responses have.

* `ofPath?_path`: every endpoint is found under its path.
* `respond_of_isFor`: its answer makes the response.
-/

namespace AlertService

namespace Endpoint

theorem ofPath?_path (e : Endpoint) : ofPath? e.path = some e := by
  cases e with
  | anyone e => cases e <;> rfl
  | guarded e =>
    cases e with
    | getOne k | getAll k | create k | confirm k | modify k | delete k => cases k <;> rfl
    | _ => rfl

theorem path_of_ofPath? {e : Endpoint} {path : String} (h : ofPath? path = some e) :
    e.path = path := by
  simpa using List.find?_some h

theorem ne_options {e : Endpoint} {method : String} (h : method ∈ e.methods) :
    method ≠ "OPTIONS" := by
  rintro rfl
  revert h
  cases e with
  | anyone e => cases e <;> decide
  | guarded e =>
    cases e with
    | getOne k | getAll k | create k | confirm k | modify k | delete k => cases k <;> decide
    | _ => decide

end Endpoint

theorem Failure.status_ne (f : Failure) : f.status ≠ 200 := by
  cases f <;> simp [status]

/-- The request has the path of the endpoint and a method that it knows. -/
def Http.Request.IsFor (r : Http.Request) (e : Endpoint) : Prop :=
  r.target.path = e.path ∧ r.method ∈ e.methods

instance (r : Http.Request) (e : Endpoint) : Decidable (r.IsFor e) :=
  inferInstanceAs (Decidable (_ ∧ _))

/-- The response as it is sent: pages from anywhere may read it, and where only the headers were
asked for there is no body. -/
def Http.Response.sent (x : Http.Response) (method : String) : Http.Response :=
  let x := x.addHeaders (Service.sharing ++ [("access-control-expose-headers", "*")])
  if method = "HEAD" then x.withoutBody else x

theorem Http.Response.status_sent (x : Http.Response) (method : String) :
    (x.sent method).status = x.status := by
  unfold sent
  dsimp only
  split <;> rfl

namespace Service

variable {r : Http.Request}

theorem respond_of_isFor (service : Service) (now : Instant) {e : Endpoint} (hr : r.IsFor e)
    (w : World) :
    service.respond now r w = ((responseOf (service.answer now e r w).1).sent r.method,
      (service.answer now e r w).2) := by
  obtain ⟨hpath, hmethod⟩ := hr
  have hfound : Endpoint.ofPath? r.target.path = some e := hpath ▸ e.ofPath?_path
  have hallow : allowHeader r.target.path r.method = [] := by
    simp only [allowHeader, hfound, List.contains_iff_mem, hmethod, if_true]
  have hlength : statesLength r.target.path = true := by
    simp only [statesLength, hfound, Option.isSome_some, Bool.true_or]
  simp only [respond, hlength, if_true, respondUnmeasured, Endpoint.ne_options hmethod, if_false,
    hallow, hfound, List.append_nil, Http.Response.sent]
  rfl

theorem answer_guarded (service : Service) (now : Instant) {e : GuardedEndpoint}
    (hr : r.IsFor (.guarded e)) :
    service.answer now (.guarded e) r = (do
      let caller ← service.authenticate now r
      some <$> service.handleGuarded now e caller r) := by
  simp only [answer, List.contains_iff_mem.mpr hr.2, Bool.not_true, Bool.false_eq_true, if_false]

theorem answer_wrong (service : Service) (now : Instant) {e : OpenEndpoint}
    (hmethod : r.method ∉ (Endpoint.anyone e).methods) :
    service.answer now (.anyone e) r = return none := by
  have hwrong : (!(Endpoint.anyone e).methods.contains r.method) = true := by
    simpa using hmethod
  simp only [answer, hwrong, if_true]

theorem respond_anyone (service : Service) (now : Instant) {e : OpenEndpoint}
    (hr : r.IsFor (.anyone e)) (w : World) :
    service.respond now r w =
      ((responseOf ((service.handleOpen now e r w).1.map some)).sent r.method,
        (service.handleOpen now e r w).2) := by
  have hanswer : service.answer now (.anyone e) r w =
      ((service.handleOpen now e r w).1.map some, (service.handleOpen now e r w).2) := by
    simp only [answer, List.contains_iff_mem.mpr hr.2, Bool.not_true, Bool.false_eq_true, if_false]
    exact Handler.map_apply
  rw [respond_of_isFor service now hr, hanswer]

end Service

end AlertService
