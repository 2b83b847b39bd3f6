import PCenter.Routes

/-!
# From a request to its handler

`NewRouter` of `internal/api/router.go`: the CORS wrapper answers OPTIONS itself, the
outer multiplexer chooses a route, its wrappers admit the request, and what falls below
`/api/` is dispatched once more on the protected multiplexer.

With authentication on, the session gate stands in front of every private handler except
the two routes that drive agents over HTTP, which are registered bare. The CSRF check
stands only on the routes of the outer multiplexer that name it.
-/

namespace Router

open ServeMux Auth Routes

inductive Outcome where
  | noContent
  | redirect
  | notFound
  | refused (refusal : Refusal)
  | runs (e : Endpoint) (ctx : Context) (pathValues : List (String × String))

variable (svc : Service) (now : Int) (agentHub : Bool) (r : Request)

/-- The second dispatch, on the protected multiplexer. -/
def serveProtected (ctx : Context) : Outcome :=
  match dispatch protectedMux r.method r.path with
  | .redirect => .redirect
  | .notFound => .notFound
  | .handler hit => .runs hit.handler ctx hit.captured

def serveRoute (hit : Hit Route) (ctx : Context) : Outcome :=
  match hit.handler.target with
  | .endpoint e => .runs e ctx hit.captured
  | .protectedMux => serveProtected r ctx

/-- The handler that `NewRouter` returns when authentication is on. -/
def serve (db : DB) : Outcome × DB :=
  if r.method = "OPTIONS" then (.noContent, db)
  else
    match dispatch (mux true agentHub) r.method r.path with
    | .redirect => (.redirect, db)
    | .notFound => (.notFound, db)
    | .handler hit =>
        match passThrough svc now r hit.handler.wrappers none db with
        | (.error refusal, db') => (.refused refusal, db')
        | (.ok ctx, db') => (serveRoute r hit ctx, db')

section Dispatch

variable {svc now agentHub r}

/-- A handler runs behind the wrappers of a registered route that covers the path. -/
theorem exists_route_of_runs {db : DB} {e : Endpoint} {ctx : Context}
    {values : List (String × String)}
    (runs : (serve svc now agentHub r db).1 = .runs e ctx values) :
    ∃ hit, dispatch (mux true agentHub) r.method r.path = .handler hit ∧
      admitted svc now r hit.handler.wrappers db = some ctx ∧
      serveRoute r hit ctx = .runs e ctx values := by
  by_cases options : r.method = "OPTIONS"
  · simp [serve, options] at runs
  · cases chosen : dispatch (mux true agentHub) r.method r.path with
    | redirect => simp [serve, options, chosen] at runs
    | notFound => simp [serve, options, chosen] at runs
    | handler hit =>
        rcases passed : passThrough svc now r hit.handler.wrappers none db with ⟨result, db'⟩
        cases result with
        | error refusal => simp [serve, options, chosen, passed] at runs
        | ok ctx' =>
            have answer : serveRoute r hit ctx' = .runs e ctx values := by
              simpa [serve, options, chosen, passed] using runs
            have sameContext : ctx' = ctx := by
              cases target : hit.handler.target with
              | endpoint e' =>
                  simp only [serveRoute, target, Outcome.runs.injEq] at answer
                  exact answer.2.1
              | protectedMux =>
                  simp only [serveRoute, target, serveProtected] at answer
                  split at answer
                  · exact nomatch answer
                  · exact nomatch answer
                  · exact (Outcome.runs.inj answer).2.1
            subst sameContext
            exact ⟨hit, rfl, by simp [admitted, passed, Except.toOption], answer⟩

theorem serve_of_admitted {db : DB} {hit : Hit Route} {ctx : Context}
    (method : r.method ≠ "OPTIONS")
    (chosen : dispatch (mux true agentHub) r.method r.path = .handler hit)
    (reaches : admitted svc now r hit.handler.wrappers db = some ctx) :
    (serve svc now agentHub r db).1 = serveRoute r hit ctx := by
  rcases passed : passThrough svc now r hit.handler.wrappers none db with ⟨result, db'⟩
  cases result with
  | error refusal => simp [admitted, passed, Except.toOption] at reaches
  | ok ctx' =>
      obtain rfl : ctx' = ctx := by simpa [admitted, passed, Except.toOption] using reaches
      simp [serve, method, chosen, passed]

/-- Every route either is bare or begins with a wrapper that looks at the cookie. -/
theorem route_wrappers : ∀ agentHub, ∀ entry ∈ mux true agentHub,
    entry.handler.wrappers = [] ∨ entry.handler.wrappers = [.authenticatedWebSocket] ∨
    (entry.handler.wrappers.head? = some .requireAuth ∧
      ∀ w ∈ entry.handler.wrappers.tail, Inner w) := by
  decide

/-- A handler that sees a session sees the one that the cookie stands for. -/
theorem accepted_of_runs {db : DB} {e : Endpoint} {session : Session} {user : User}
    {values : List (String × String)}
    (runs : (serve svc now agentHub r db).1 = .runs e (some (session, user)) values) :
    svc.accepted now r db = some (session, user) := by
  obtain ⟨hit, chosen, reaches, -⟩ := exists_route_of_runs runs
  obtain ⟨entry, registered, -, sameRoute, -⟩ := dispatch_sound chosen
  rw [sameRoute] at reaches
  rcases route_wrappers agentHub entry registered with bare | webSocket | ⟨head, inner⟩
  · rw [bare] at reaches
    exact nomatch reaches
  · rw [webSocket] at reaches
    rcases step : authenticatedWebSocket svc now r db with ⟨result, db'⟩
    cases result with
    | error refusal =>
        simp [admitted, passThrough, serveHTTP, step, Except.toOption] at reaches
    | ok ctx =>
        obtain rfl : ctx = some (session, user) := by
          simpa [admitted, passThrough, serveHTTP, step, Except.toOption] using reaches
        exact (authenticatedWebSocket_ok (by rw [step])).symm
  · obtain ⟨ws, wrappers⟩ : ∃ ws, entry.handler.wrappers = .requireAuth :: ws := by
      cases shape : entry.handler.wrappers with
      | nil => simp [shape] at head
      | cons w ws => exact ⟨ws, by simpa [shape] using head⟩
    rw [wrappers] at inner reaches
    obtain ⟨session', user', carried, same, -⟩ :=
      admitted_requireAuth inner reaches
    obtain ⟨rfl, rfl⟩ : session = session' ∧ user = user' := by simpa using same
    exact carried

end Dispatch

section Gate

/-- The endpoints that work without a session, and those that are not below `/api/`. -/
def publicEndpoints : List Endpoint :=
  [.handleLogin, .handleRegister, .handleUserCount, .handleCheckAuth, .serveOpenAPIYAML,
    .serveOpenAPIJSON, .serveSwaggerUI, .serveSwaggerUICSS, .serveSwaggerUIJS,
    .agentWebSocket]

def outsideAPI : List Endpoint := [.health, .handleWebSocket, .spaHandler]

/-- The endpoints a session that awaits 2FA may reach. -/
def totpEndpoints : List Endpoint := [.handleVerifyTOTP, .handleLogout, .handleMe]

/-- Every private handler that runs for the request runs for an accepted session. -/
def GateHolds (db : DB) : Prop :=
  ∀ e ctx values, (serve svc now agentHub r db).1 = .runs e ctx values →
    e ∉ publicEndpoints → e ∉ outsideAPI →
    ∃ session user, svc.accepted now r db = some (session, user) ∧
      (awaitsTOTP session user → e ∈ totpEndpoints)

/-- The request is one of the two that drive agents over HTTP. -/
def CallsAgentHub : Prop :=
  (r.method = "POST" ∧ muxSegments r.path = ["api", "agent", "command"]) ∨
  ((r.method = "GET" ∨ r.method = "HEAD") ∧
    muxSegments r.path = ["api", "agent", "connected"])

/-- The patterns of the two routes that drive agents. -/
def agentPatterns : List Pattern :=
  [⟨some "POST", ["api", "agent", "command"], false⟩,
    ⟨some "GET", ["api", "agent", "connected"], false⟩]

/-- A route behind the session gate, which a session that awaits 2FA passes only on its
way to the endpoints meant for it. -/
def Gated (entry : Entry Route) : Prop :=
  entry.handler.wrappers.head? = some .requireAuth ∧
  (∀ w ∈ entry.handler.wrappers.tail, Inner w) ∧
  (.requireFullAuth ∈ entry.handler.wrappers.tail ∨
    entry.handler.target ∈ totpEndpoints.map .endpoint ∨
    entry.pattern = ⟨some "PUT", ["api", "auth", "password"], false⟩)

instance (entry : Entry Route) : Decidable (Gated entry) :=
  inferInstanceAs (Decidable (_ ∧ _ ∧ _))

theorem outer_routes : ∀ entry ∈ mux true true,
    entry.handler.target ∈ (publicEndpoints ++ outsideAPI).map .endpoint ∨
    entry.pattern ∈ agentPatterns ∨ Gated entry := by
  decide

section Proofs

variable {svc now r}

/-- A session that awaits 2FA and passes the session gate of a registered route has an
endpoint meant for it. -/
theorem totp_endpoint_of_gated {entry : Entry Route} (gated : Gated entry) {db : DB}
    {ctx : Context} {captured values : List (String × String)} {e : Endpoint}
    {hit : Hit Route}
    (covers : Covers entry.pattern.segments entry.pattern.subtree (muxSegments r.path)
      captured)
    (sameRoute : hit.handler = entry.handler)
    (reaches : admitted svc now r entry.handler.wrappers db = some ctx)
    (answer : serveRoute r hit ctx = .runs e ctx values) :
    ∃ session user, svc.accepted now r db = some (session, user) ∧
      (awaitsTOTP session user → e ∈ totpEndpoints) := by
  obtain ⟨head, inner, passes⟩ := gated
  obtain ⟨ws, wrappers⟩ : ∃ ws, entry.handler.wrappers = .requireAuth :: ws := by
    cases shape : entry.handler.wrappers with
    | nil => simp [shape] at head
    | cons w ws => exact ⟨ws, by simpa [shape] using head⟩
  rw [wrappers] at reaches inner passes
  obtain ⟨session, user, carried, -, free, full, -⟩ := admitted_requireAuth inner reaches
  refine ⟨session, user, carried, fun awaits => ?_⟩
  rcases passes with hasFull | forTOTP | password
  · rw [full hasFull] at awaits
    exact absurd awaits Bool.false_ne_true
  · obtain ⟨e', exempt, target⟩ := List.mem_map.mp forTOTP
    have runs : e' = e := by
      simp only [serveRoute, sameRoute, ← target, Outcome.runs.injEq] at answer
      exact answer.1
    exact runs ▸ exempt
  · rw [password] at covers
    obtain ⟨spelled, -⟩ := covers.path_eq ["api", "auth", "password"] rfl
    have plain : Plain (muxSegments r.path) := by
      rw [spelled]
      decide
    have path := free awaits
    rw [urlPath_of_plain plain, spelled] at path
    exact absurd path (by decide)

theorem callsAgentHub_of_covers {entry : Entry Route} (agent : entry.pattern ∈ agentPatterns)
    (allows : entry.pattern.Allows r.method) {values : List (String × String)}
    (covers : Covers entry.pattern.segments entry.pattern.subtree (muxSegments r.path)
      values) : CallsAgentHub r := by
  obtain ⟨pattern, handler⟩ := entry
  simp only [agentPatterns, List.mem_cons, List.not_mem_nil, or_false] at agent
  rcases agent with rfl | rfl
  · obtain ⟨spelled, -⟩ := covers.path_eq ["api", "agent", "command"] rfl
    refine Or.inl ⟨?_, spelled⟩
    rcases allows with none | post | ⟨-, get⟩
    · exact nomatch none
    · exact (Option.some.inj post).symm
    · exact absurd get (by simp)
  · obtain ⟨spelled, -⟩ := covers.path_eq ["api", "agent", "connected"] rfl
    refine Or.inr ⟨?_, spelled⟩
    rcases allows with none | get | ⟨head, -⟩
    · exact nomatch none
    · exact Or.inl (Option.some.inj get).symm
    · exact Or.inr head

/-- Away from the two agent routes the gate holds for every request. -/
theorem gateHolds_of_not_callsAgentHub {db : DB} (away : ¬CallsAgentHub r) :
    GateHolds svc now true r db := by
  intro e ctx values runs notPublic inside
  obtain ⟨hit, chosen, reaches, answer⟩ := exists_route_of_runs runs
  obtain ⟨entry, registered, allows, sameRoute, covers⟩ := dispatch_sound chosen
  rcases outer_routes entry registered with open' | agent | gated
  · obtain ⟨e', listed, target⟩ := List.mem_map.mp open'
    have same : e' = e := by
      simp only [serveRoute, sameRoute, ← target, Outcome.runs.injEq] at answer
      exact answer.1
    subst same
    rcases List.mem_append.mp listed with isPublic | isOutside
    · exact absurd isPublic notPublic
    · exact absurd isOutside inside
  · exact absurd (callsAgentHub_of_covers agent allows covers) away
  · rw [sameRoute] at reaches
    exact totp_endpoint_of_gated gated covers sameRoute reaches answer

/-- The two agent routes are registered without a wrapper. -/
theorem serve_of_callsAgentHub (db : DB) (calls : CallsAgentHub r) :
    ∃ e, e ∉ publicEndpoints ∧ e ∉ outsideAPI ∧ e ∉ totpEndpoints ∧
      (serve svc now true r db).1 = .runs e none [] := by
  rcases calls with ⟨post, spelled⟩ | ⟨get, spelled⟩
  · have plain : Plain (muxSegments r.path) := spelled ▸ by decide
    have found : find (mux true true) r.method (muxSegments r.path) =
        some ⟨bare .agentCommand, [], []⟩ := by
      rw [post, spelled]
      rfl
    refine ⟨.agentCommand, by decide, by decide, by decide, ?_⟩
    exact serve_of_admitted (by simp [post]) (dispatch_of_find plain found rfl) rfl
  · have plain : Plain (muxSegments r.path) := spelled ▸ by decide
    have found : find (mux true true) r.method (muxSegments r.path) =
        some ⟨bare .getConnectedAgents, [], []⟩ := by
      rcases get with get | head
      · rw [get, spelled]
        rfl
      · rw [head, spelled]
        rfl
    have method : r.method ≠ "OPTIONS" := by
      rcases get with get | head
      · simp [get]
      · simp [head]
    refine ⟨.getConnectedAgents, by decide, by decide, by decide, ?_⟩
    exact serve_of_admitted method (dispatch_of_find plain found rfl) rfl

end Proofs

/-- The session gate stands in front of every private handler, except that the two routes
driving agents ask for no session. -/
theorem gateHolds_iff (db : DB) :
    GateHolds svc now true r db ↔
      (CallsAgentHub r → ∃ session user, svc.accepted now r db = some (session, user) ∧
        awaitsTOTP session user = false) := by
  constructor
  · intro holds calls
    obtain ⟨e, notPublic, inside, notTOTP, runs⟩ := serve_of_callsAgentHub db calls
    obtain ⟨session, user, carried, free⟩ := holds e none [] runs notPublic inside
    refine ⟨session, user, carried, ?_⟩
    rw [← Bool.not_eq_true]
    exact fun awaits => notTOTP (free awaits)
  · intro covered
    by_cases calls : CallsAgentHub r
    · obtain ⟨session, user, carried, verified⟩ := covered calls
      intro e ctx values _ _ _
      refine ⟨session, user, carried, fun awaits => ?_⟩
      exact absurd awaits (by simp [verified])
    · exact gateHolds_of_not_callsAgentHub calls

/-- Nobody is logged in and no session exists. -/
def freshService : Service := ⟨fun _ => none, 8⟩

/-- A request that carries neither cookie nor CSRF token. -/
def anonymous (method : String) (path : List String) : Request :=
  ⟨method, path, [], none, "", none⟩

/-- Anyone may command an agent. -/
theorem agentCommand_without_session :
    ¬GateHolds freshService 0 true (anonymous "POST" ["api", "agent", "command"])
      ⟨[], []⟩ := by
  intro holds
  have runs : (serve freshService 0 true (anonymous "POST" ["api", "agent", "command"])
      ⟨[], []⟩).1 = .runs .agentCommand none [] := by rfl
  obtain ⟨session, user, carried, -⟩ := holds _ _ _ runs (by decide) (by decide)
  exact nomatch carried


end Gate

section CSRF

/-- A state-changing request that reaches a handler under a session carries the token of
that session. -/
def CSRFHolds (db : DB) : Prop :=
  ∀ e session user values,
    (serve svc now agentHub r db).1 = .runs e (some (session, user)) values →
    r.method ∉ safeMethods → r.csrfHeader = session.csrfToken

/-- The request is for a handler of the protected multiplexer. -/
def ForProtectedMux : Prop :=
  (∃ hit, dispatch (mux true agentHub) r.method r.path = .handler hit ∧
    hit.handler.target = .protectedMux) ∧
  ∃ hit, dispatch protectedMux r.method r.path = .handler hit

/-- The two routes for sessions that await 2FA, which change state. -/
def ForTOTP : Prop :=
  r.method = "POST" ∧ (muxSegments r.path = ["api", "auth", "verify-totp"] ∨
    muxSegments r.path = ["api", "auth", "logout"])

/-- The request's route has no CSRF check and admits the session. -/
def SkipsCSRF (awaits : Bool) : Prop :=
  ForTOTP r ∨ (awaits = false ∧ ForProtectedMux agentHub r)

def totpPatterns : List Pattern :=
  [⟨some "POST", ["api", "auth", "verify-totp"], false⟩,
    ⟨some "POST", ["api", "auth", "logout"], false⟩]

/-- The routes that give a handler its session: those of GET, those with the CSRF check,
the two for 2FA, and the protected multiplexer as a whole. -/
theorem session_routes : ∀ agentHub, ∀ entry ∈ mux true agentHub,
    entry.handler.wrappers = [] ∨ entry.pattern.method = some "GET" ∨
    (entry.handler.wrappers.head? = some .requireAuth ∧
      (∀ w ∈ entry.handler.wrappers.tail, Inner w) ∧
      (.csrfProtection ∈ entry.handler.wrappers.tail ∨ entry.pattern ∈ totpPatterns ∨
        entry.handler = ⟨[.requireAuth, .requireFullAuth], .protectedMux⟩)) := by
  decide

theorem protected_route : ∀ agentHub, ∀ entry ∈ mux true agentHub,
    entry.handler.target = .protectedMux →
      entry.handler.wrappers = [.requireAuth, .requireFullAuth] := by
  decide

section Proofs

variable {svc now agentHub r}

theorem safe_of_allows_get {p : Pattern} (get : p.method = some "GET")
    (allows : p.Allows r.method) : r.method ∈ safeMethods := by
  rcases allows with none | same | ⟨head, -⟩
  · simp [get] at none
  · have method : "GET" = r.method := Option.some.inj (get.symm.trans same)
    simp [← method, safeMethods]
  · simp [head, safeMethods]

theorem forTOTP_of_covers {entry : Entry Route} (totp : entry.pattern ∈ totpPatterns)
    (allows : entry.pattern.Allows r.method) {values : List (String × String)}
    (covers : Covers entry.pattern.segments entry.pattern.subtree (muxSegments r.path)
      values) : ForTOTP r := by
  obtain ⟨pattern, handler⟩ := entry
  have post : pattern.method = some "POST" := by
    simp only [totpPatterns, List.mem_cons, List.not_mem_nil, or_false] at totp
    rcases totp with rfl | rfl <;> rfl
  refine ⟨?_, ?_⟩
  · rcases allows with none | same | ⟨-, get⟩
    · simp [post] at none
    · exact Option.some.inj (same.symm.trans post)
    · simp [post] at get
  · simp only [totpPatterns, List.mem_cons, List.not_mem_nil, or_false] at totp
    rcases totp with rfl | rfl
    · exact Or.inl (covers.path_eq ["api", "auth", "verify-totp"] rfl).1
    · exact Or.inr (covers.path_eq ["api", "auth", "logout"] rfl).1

theorem serve_forTOTP {db : DB} (totp : ForTOTP r) {session : Session} {user : User}
    (carried : svc.accepted now r db = some (session, user)) :
    ∃ e, (serve svc now agentHub r db).1 = .runs e (some (session, user)) [] := by
  obtain ⟨post, spelled⟩ := totp
  have plain : Plain (muxSegments r.path) := by
    rcases spelled with spelled | spelled <;> rw [spelled] <;> decide
  have exempt : ServeMux.urlPath r.path ∈ totpPaths := by
    rw [urlPath_of_plain plain]
    rcases spelled with spelled | spelled <;> rw [spelled] <;> decide
  obtain ⟨e, found⟩ : ∃ e, find (mux true agentHub) r.method (muxSegments r.path) =
      some ⟨Routes.session e, [], []⟩ := by
    rw [post]
    rcases spelled with spelled | spelled
    · exact ⟨.handleVerifyTOTP, by rw [spelled]; cases agentHub <;> rfl⟩
    · exact ⟨.handleLogout, by rw [spelled]; cases agentHub <;> rfl⟩
  have gate := requireAuth_of_accepted carried fun _ => exempt
  refine ⟨e, serve_of_admitted (by simp [post]) (dispatch_of_find plain found rfl) ?_⟩
  rcases step : requireAuth svc now r db with ⟨result, db'⟩
  obtain rfl : result = .ok (some (session, user)) := by rw [← gate, step]
  simp [Routes.session, admitted, passThrough, serveHTTP, step, Except.toOption]

theorem serve_forProtectedMux {db : DB} (unsafe' : r.method ∉ safeMethods)
    (inner : ForProtectedMux agentHub r) {session : Session} {user : User}
    (carried : svc.accepted now r db = some (session, user))
    (verified : awaitsTOTP session user = false) :
    ∃ e values, (serve svc now agentHub r db).1 = .runs e (some (session, user)) values := by
  obtain ⟨⟨hit, chosen, target⟩, hit', chosen'⟩ := inner
  obtain ⟨entry, registered, allows, sameRoute, covers⟩ := dispatch_sound chosen
  have wrappers : hit.handler.wrappers = [.requireAuth, .requireFullAuth] := by
    rw [sameRoute] at target ⊢
    exact protected_route agentHub entry registered target
  have gate := requireAuth_of_accepted carried fun awaits => by simp [verified] at awaits
  have reaches : admitted svc now r hit.handler.wrappers db = some (some (session, user)) := by
    rcases step : requireAuth svc now r db with ⟨result, db'⟩
    obtain rfl : result = .ok (some (session, user)) := by rw [← gate, step]
    have full : requireFullAuth (some (session, user)) = .ok (some (session, user)) :=
      requireFullAuth_eq_ok.mpr ⟨rfl, session, user, rfl, verified⟩
    simp [wrappers, admitted, passThrough, serveHTTP, step, full, Except.toOption]
  have method : r.method ≠ "OPTIONS" := by
    rintro options
    exact unsafe' (by simp [options, safeMethods])
  refine ⟨hit'.handler, hit'.captured, ?_⟩
  rw [serve_of_admitted method chosen reaches]
  simp [serveRoute, target, serveProtected, chosen']

/-- Where the route skips no check, the token was compared. -/
theorem csrf_of_runs {db : DB} {e : Endpoint} {session : Session} {user : User}
    {values : List (String × String)}
    (runs : (serve svc now agentHub r db).1 = .runs e (some (session, user)) values)
    (unsafe' : r.method ∉ safeMethods) :
    svc.accepted now r db = some (session, user) ∧
      (r.csrfHeader = session.csrfToken ∨
        SkipsCSRF agentHub r (awaitsTOTP session user)) := by
  obtain ⟨hit, chosen, reaches, answer⟩ := exists_route_of_runs runs
  obtain ⟨entry, registered, allows, sameRoute, covers⟩ := dispatch_sound chosen
  rcases session_routes agentHub entry registered with bare | get | ⟨head, inner, kind⟩
  · rw [sameRoute, bare] at reaches
    exact nomatch reaches
  · exact absurd (safe_of_allows_get get allows) unsafe'
  · obtain ⟨ws, wrappers⟩ : ∃ ws, entry.handler.wrappers = .requireAuth :: ws := by
      cases shape : entry.handler.wrappers with
      | nil => simp [shape] at head
      | cons w ws => exact ⟨ws, by simpa [shape] using head⟩
    rw [wrappers] at inner kind
    rw [sameRoute, wrappers] at reaches
    obtain ⟨session', user', carried, same, -, full, checked⟩ :=
      admitted_requireAuth inner reaches
    obtain ⟨rfl, rfl⟩ : session = session' ∧ user = user' := by simpa using same
    refine ⟨carried, ?_⟩
    rcases kind with hasCSRF | totp | protected'
    · exact Or.inl (checked hasCSRF unsafe')
    · exact Or.inr (Or.inl (forTOTP_of_covers totp allows covers))
    · have isFull : Wrapper.requireFullAuth ∈ ws := by
        rw [protected'] at wrappers
        rw [← (List.cons.inj wrappers).2]
        decide
      have target : hit.handler.target = .protectedMux := by rw [sameRoute, protected']
      refine Or.inr (Or.inr ⟨full isFull, ⟨hit, chosen, target⟩, ?_⟩)
      simp only [serveRoute, target, serveProtected] at answer
      split at answer
      · exact nomatch answer
      · exact nomatch answer
      · rename_i hit' chosen'
        exact ⟨hit', chosen'⟩

end Proofs

/-- The CSRF law holds for a request exactly when its route compares the token, or the
header happens to equal it. -/
theorem csrfHolds_iff (db : DB) :
    CSRFHolds svc now agentHub r db ↔
      ∀ session user, svc.accepted now r db = some (session, user) →
        r.method ∉ safeMethods → SkipsCSRF agentHub r (awaitsTOTP session user) →
        r.csrfHeader = session.csrfToken := by
  constructor
  · intro holds session user carried unsafe' skips
    rcases skips with totp | ⟨verified, inner⟩
    · obtain ⟨e, runs⟩ : ∃ e, (serve svc now agentHub r db).1 =
          .runs e (some (session, user)) [] := serve_forTOTP totp carried
      exact holds e session user [] runs unsafe'
    · obtain ⟨e, values, runs⟩ := serve_forProtectedMux unsafe' inner carried verified
      exact holds e session user values runs unsafe'
  · intro covered e session user values runs unsafe'
    obtain ⟨carried, equal | skips⟩ := csrf_of_runs runs unsafe'
    · exact equal
    · exact covered session user carried unsafe' skips

/-- One user with one session, whose cookie is its own hash. -/
def oneSession : DB :=
  ⟨[⟨"s1", "u1", "cookie", "token", false, 1, 0⟩], [⟨"u1", "user", false⟩]⟩

/-- Deleting a VM with the cookie alone. -/
def deleteWithoutToken : Request :=
  ⟨"DELETE", ["api", "clusters", "lab", "vms", "100"], [], some "cookie", "", none⟩

/-- A guest is deleted without any CSRF token. -/
theorem delete_without_csrf_token :
    ¬CSRFHolds ⟨some, 8⟩ 0 true deleteWithoutToken oneSession := by
  intro holds
  have runs : (serve ⟨some, 8⟩ 0 true deleteWithoutToken oneSession).1 =
      .runs .deleteClusterVM
        (some (⟨"s1", "u1", "cookie", "token", false, 1, 0⟩, ⟨"u1", "user", false⟩))
        [("cluster", "lab"), ("vmid", "100")] := by
    rfl
  have equal := holds _ _ _ _ runs (by decide)
  exact absurd equal (by decide)

end CSRF

end Router
