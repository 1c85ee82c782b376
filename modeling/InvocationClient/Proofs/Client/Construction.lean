import InvocationClient.Proofs.Endpoint.Rejection

/-! # Making a client

A client is made in several steps: its endpoint is read, its logger found, which may set the level
of the default logger, a message logged and a connection made if no transport was given. Only the
first step can fail, so that what fails has done nothing. The environment only supplies the text of
the endpoint, and complains itself if there is none.
-/

namespace InvocationClient

/-- What making a client can leave its traces in. -/
structure Surroundings where
  registry : Registry
  records : List Record := []
  /-- The transport that is given, if one is. -/
  injected : Option Transport := none
  /-- The connections that have been made. -/
  connections : List Transport := []

/-- A step of making a client. What it has done stays done if a later one fails. -/
abbrev Making := EStateM Failure Surroundings

namespace Making

def endpoint (given : Option String) : Making Endpoint :=
  match Endpoint.parse given with
  | .error f => throw f
  | .ok e => pure e

def logger (process : Environment) (options : Options) : Making Logger :=
  modifyGet fun w =>
    let (l, registry) := Logger.create w.registry process.logSetting options.logger options.logLevel
    (l, { w with registry })

def log (l : Logger) (e : Entry) : Making Unit :=
  modify fun w => { w with records := w.records ++ l.record w.registry e }

/-- A connection is made only for a client that is given no transport. -/
def transport (c : Client) (replies : List Http.Reply) : Making Transport := do
  match (← get).injected with
  | some t => return t
  | none =>
    let t := c.connect replies
    modify fun w => { w with connections := w.connections ++ [t] }
    return t

variable {α β : Type} {x : Making α} {k : α → Making β} {given : Option String}
  {w w' : Surroundings} {f : Failure}

def IsSafe (x : Making α) : Prop := ∀ w f w', x w ≠ .error f w'

theorem bind_eq_error_iff :
    (x >>= k) w = .error f w' ↔
      x w = .error f w' ∨ ∃ a v, x w = .ok a v ∧ k a v = .error f w' := by
  change EStateM.bind x k w = _ ↔ _
  unfold EStateM.bind
  cases x w with
  | ok a v =>
    constructor
    · intro h
      exact .inr ⟨a, v, rfl, h⟩
    · rintro (h | ⟨b, u, h, hk⟩)
      · cases h
      · cases h
        exact hk
  | error g v =>
    constructor
    · intro h
      cases h
      exact .inl rfl
    · rintro (h | ⟨b, u, h, -⟩)
      · cases h
        rfl
      · cases h

theorem IsSafe.pure (a : α) : (pure a : Making α).IsSafe := by
  intro w f w' h
  cases h

theorem IsSafe.bind (hx : x.IsSafe) (hk : ∀ a, (k a).IsSafe) : (x >>= k).IsSafe := by
  intro w f w' h
  rcases bind_eq_error_iff.mp h with he | ⟨a, v, -, he⟩
  · exact hx w f w' he
  · exact hk a v f w' he

theorem endpoint_eq_error_iff :
    endpoint given w = .error f w' ↔ Endpoint.parse given = .error f ∧ w' = w := by
  unfold endpoint
  cases Endpoint.parse given with
  | error g =>
    change EStateM.Result.error g w = .error f w' ↔ _
    simp [eq_comm]
  | ok e =>
    change EStateM.Result.ok e w = .error f w' ↔ _
    simp

theorem isSafe_logger (process : Environment) (options : Options) :
    (logger process options).IsSafe := by
  intro w f w' h
  cases h

theorem isSafe_log (l : Logger) (e : Entry) : (log l e).IsSafe := by
  intro w f w' h
  cases h

theorem transport_eq (c : Client) (replies : List Http.Reply) (w : Surroundings) :
    transport c replies w =
      match w.injected with
      | some t => .ok t w
      | none =>
        .ok (c.connect replies) { w with connections := w.connections ++ [c.connect replies] } := by
  cases w with
  | mk registry records injected connections =>
    cases injected with
    | some t => rfl
    | none => rfl

theorem isSafe_transport (c : Client) (replies : List Http.Reply) :
    (transport c replies).IsSafe := by
  intro w f w' h
  rw [transport_eq] at h
  split at h
  · cases h
  · cases h

end Making

namespace Client

variable {process : Environment} {version : String} {options : Options}
  {replies : List Http.Reply} {given : Option String} {w : Surroundings}

/-- What is done about a client once its endpoint has been read. -/
def complete (process : Environment) (version : String) (options : Options)
    (replies : List Http.Reply) (endpoint : Endpoint) : Making (Client × Transport) := do
  let logger ← Making.logger process options
  let client : Client :=
    { endpoint
      userAgent := chooseUserAgent options.userAgent version
      pollTimeout := options.pollTimeout
      requestTimeout := options.requestTimeout
      logger }
  Making.log logger (initializing client.baseUrl)
  let transport ← Making.transport client replies
  return (client, transport)

/-- Makes a client and finds its transport, step by step. -/
def construct (process : Environment) (version : String) (options : Options)
    (replies : List Http.Reply) (given : Option String) : Making (Client × Transport) := do
  let endpoint ← Making.endpoint given
  complete process version options replies endpoint

/-- The same for the endpoint that `env` names. -/
def constructFrom (env process : Environment) (version : String) (options : Options)
    (replies : List Http.Reply) : Making (Client × Transport) :=
  match Association.get? Environment.endpointVariable env with
  | none => throw endpointMissing
  | some given =>
    if given = "" then throw endpointMissing
    else construct process version options replies (some given)

def Opening.settle (o : Opening) (replies : List Http.Reply) (w : Surroundings) :
    EStateM.Result Failure Surroundings (Client × Transport) :=
  let left : Surroundings := { w with registry := o.registry, records := w.records ++ o.records }
  match o.result with
  | .error f => .error f left
  | .ok c =>
    match w.injected with
    | some t => .ok (c, t) left
    | none =>
      .ok (c, c.connect replies) { left with connections := w.connections ++ [c.connect replies] }

theorem isSafe_complete (process : Environment) (version : String) (options : Options)
    (replies : List Http.Reply) (endpoint : Endpoint) :
    (complete process version options replies endpoint).IsSafe := by
  apply (Making.isSafe_logger process options).bind
  intro logger
  apply (Making.isSafe_log logger _).bind
  intro
  apply (Making.isSafe_transport _ replies).bind
  intro transport
  exact Making.IsSafe.pure _

theorem construct_eq_error_iff {f : Failure} {w' : Surroundings} :
    construct process version options replies given w = .error f w' ↔
      Endpoint.parse given = .error f ∧ w' = w := by
  rw [construct, Making.bind_eq_error_iff, Making.endpoint_eq_error_iff]
  constructor
  · rintro (h | ⟨e, v, -, h⟩)
    · exact h
    · exact absurd h (isSafe_complete process version options replies e v f w')
  · exact .inl

theorem construct_of_parse {e : Endpoint} (h : Endpoint.parse given = .ok e) :
    construct process version options replies given w =
      complete process version options replies e w := by
  unfold construct Making.endpoint
  rw [h]
  rfl

theorem construct_eq_settle :
    construct process version options replies given w =
      (make w.registry process version options given).settle replies w := by
  cases hp : Endpoint.parse given with
  | error f =>
    rw [construct_eq_error_iff.mpr ⟨hp, rfl⟩, make, hp]
    simp [Opening.settle]
  | ok e =>
    rw [construct_of_parse hp, make, hp]
    cases w with
    | mk registry records injected connections =>
      cases injected with
      | some t => rfl
      | none => rfl

theorem throw_eq_settle (f : Failure) (replies : List Http.Reply) (w : Surroundings) :
    (throw f : Making (Client × Transport)) w =
      Opening.settle ⟨.error f, w.registry, []⟩ replies w := by
  change EStateM.Result.error f w = _
  simp [Opening.settle]

theorem constructFrom_eq_settle {env : Environment} :
    constructFrom env process version options replies w =
      (openFrom env w.registry process version options).settle replies w := by
  unfold constructFrom openFrom
  cases Association.get? Environment.endpointVariable env with
  | none => exact throw_eq_settle endpointMissing replies w
  | some given =>
    by_cases hg : given = ""
    · simp only [if_pos hg]
      exact throw_eq_settle endpointMissing replies w
    · simp only [if_neg hg]
      exact construct_eq_settle

theorem constructFrom_of_unnamed {env : Environment}
    (h : Association.get? Environment.endpointVariable env = none ∨
      Association.get? Environment.endpointVariable env = some "") :
    constructFrom env process version options replies w = .error endpointMissing w := by
  rcases h with h | h
  · simp only [constructFrom, h]
    rfl
  · simp only [constructFrom, h, if_true]
    rfl

theorem constructFrom_of_named {env : Environment} {given : String}
    (h : Association.get? Environment.endpointVariable env = some given) (hn : given ≠ "") :
    constructFrom env process version options replies w =
      construct process version options replies (some given) w := by
  simp only [constructFrom, h, if_neg hn]

theorem openFrom_of_named {env : Environment} {given : String}
    (h : Association.get? Environment.endpointVariable env = some given) (hn : given ≠ "")
    (registry : Registry) :
    openFrom env registry process version options =
      make registry process version options (some given) := by
  simp only [openFrom, h, if_neg hn]

theorem unnamed_or_named (env : Environment) :
    (Association.get? Environment.endpointVariable env = none ∨
      Association.get? Environment.endpointVariable env = some "") ∨
    ∃ given, Association.get? Environment.endpointVariable env = some given ∧ given ≠ "" := by
  cases Association.get? Environment.endpointVariable env with
  | none => exact .inl (.inl rfl)
  | some given =>
    by_cases hn : given = ""
    · exact .inl (.inr (congrArg some hn))
    · exact .inr ⟨given, rfl, hn⟩

/-- What fails for the endpoint that `env` names has done nothing either. -/
theorem eq_of_constructFrom_error {env : Environment} {f : Failure} {w' : Surroundings}
    (h : constructFrom env process version options replies w = .error f w') : w' = w := by
  rcases unnamed_or_named env with hu | ⟨given, hg, hn⟩
  · rw [constructFrom_of_unnamed hu] at h
    cases h
    rfl
  · rw [constructFrom_of_named hg hn] at h
    exact (construct_eq_error_iff.mp h).2

/-- A complaint about an endpoint that does not tell which one. -/
def LacksEndpoint (f : Failure) : Prop :=
  ∃ message, f.error? = some ⟨.invalidEndpoint message, .absent⟩

theorem not_lacksEndpoint_of_parse {given : String} {f : Failure}
    (h : Endpoint.parse (some given) = .error f) : ¬ LacksEndpoint f := by
  rintro ⟨message, hm⟩
  rcases Endpoint.answered_or_overlong (some given) with ha | ⟨n, ho⟩
  · rw [h] at ha
    obtain ⟨told, rfl⟩ := ha
    cases hm
  · rw [Endpoint.parse_of_overlong ho] at h
    cases h
    cases hm

theorem lacksEndpoint_iff {env : Environment} :
    (∃ f w', constructFrom env process version options replies w = .error f w' ∧ LacksEndpoint f) ↔
      Association.get? Environment.endpointVariable env = none ∨
        Association.get? Environment.endpointVariable env = some "" := by
  constructor
  · rintro ⟨f, w', he, hl⟩
    rcases unnamed_or_named env with hu | ⟨given, hg, hn⟩
    · exact hu
    · rw [constructFrom_of_named hg hn, construct_eq_error_iff] at he
      exact absurd hl (not_lacksEndpoint_of_parse he.1)
  · intro hu
    exact ⟨endpointMissing, w, constructFrom_of_unnamed hu, _, rfl⟩

/-- For an environment that names no endpoint there is a complaint that tells none. For any other
it is as if the endpoint had been given: with the same client and transport or the same failure, the
same messages and the same loggers. Where this fails there is no message, the default logger is as
before, there is no new connection, and the transport that was given is untouched. -/
theorem construction_all_or_nothing (process : Environment) (version : String) (options : Options)
    (replies : List Http.Reply) (w : Surroundings) :
    (∀ env : Environment,
      (∃ f w', constructFrom env process version options replies w = .error f w' ∧
        LacksEndpoint f) ↔
      Association.get? Environment.endpointVariable env = none ∨
        Association.get? Environment.endpointVariable env = some "") ∧
    (∀ (env : Environment) (given : String),
      Association.get? Environment.endpointVariable env = some given → given ≠ "" →
      constructFrom env process version options replies w =
          construct process version options replies (some given) w ∧
        openFrom env w.registry process version options =
          make w.registry process version options (some given)) ∧
    (∀ (given : Option String) (f : Failure) (w' : Surroundings),
      construct process version options replies given w = .error f w' → w' = w) ∧
    (∀ (env : Environment) (f : Failure) (w' : Surroundings),
      constructFrom env process version options replies w = .error f w' → w' = w) ∧
    (∀ given : Option String, construct process version options replies given w =
      (make w.registry process version options given).settle replies w) ∧
    ∀ env : Environment, constructFrom env process version options replies w =
      (openFrom env w.registry process version options).settle replies w := by
  refine ⟨fun env => lacksEndpoint_iff, ?_, ?_, fun env f w' h => eq_of_constructFrom_error h,
    fun given => construct_eq_settle, fun env => constructFrom_eq_settle⟩
  · intro env given h hn
    exact ⟨constructFrom_of_named h hn, openFrom_of_named h hn w.registry⟩
  · intro given f w' h
    exact (construct_eq_error_iff.mp h).2

/-- A process that has logged, and a transport with a reply. -/
def busy : Surroundings where
  registry := ({} : Registry).enable .debug
  records := [.console Registry.defaultName .debug "up"]
  injected := some (.injected [.ok ⟨200, [], .empty⟩])

/-- An environment that names a port out of range. -/
def portless : Environment := [(Environment.endpointVariable, "h:0")]

theorem construction_all_or_nothing_portless :
    Association.get? Environment.endpointVariable portless = some "h:0" ∧ "h:0" ≠ "" ∧
      constructFrom portless [] "3.11.0" {} [] busy =
        construct [] "3.11.0" {} [] (some "h:0") busy ∧
      ∃ f w', constructFrom portless [] "3.11.0" {} [] busy = .error f w' ∧ w' = busy := by
  have hg : Association.get? Environment.endpointVariable portless = some "h:0" := by rfl
  have hn : "h:0" ≠ "" := by decide
  obtain ⟨-, hs, -, hu, -⟩ := construction_all_or_nothing [] "3.11.0" {} [] busy
  have hc := (hs portless "h:0" hg hn).1
  have he := hc.trans (construct_eq_error_iff.mpr ⟨rfl, rfl⟩)
  exact ⟨hg, hn, hc, _, _, he, hu _ _ _ he⟩

end Client

end InvocationClient
