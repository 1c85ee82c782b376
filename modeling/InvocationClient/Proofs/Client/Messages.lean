import InvocationClient.Proofs.Client.Confidential
import InvocationClient.Proofs.Client.Emissions
import InvocationClient.Proofs.Client.Polling
import InvocationClient.Proofs.Invocation.Deadline
import InvocationClient.Proofs.Invocation.Metadata
import InvocationClient.Proofs.Log.Recording

/-! # Messages of a session

Every message that a client or its HTTP transport emits has a text, whatever is said in names,
headers, errors and paths. The numbers in it are sizes, statuses and deadlines. A deadline that has
been read is never too long.
-/

namespace InvocationClient

open Slot (Takes)

/-- A status and a length that can be written. A status that cannot could not be read from a text
either. -/
structure WritableAnswer (status : Int) (body : ByteArray) : Prop where
  status : Number.isWritable status = true
  size : Number.isWritable body.size = true

def WritableOutcome (o : Outcome) : Prop :=
  ∀ response, o = .ok response → WritableAnswer response.status response.body

theorem writableOutcome_error (f : Failure) : WritableOutcome (.error f) := by
  rintro response ⟨⟩

/-- A transport with replies whose numbers can be written. -/
inductive Transport.Writable : Transport → Prop where
  | injected {replies : List Outcome} : (∀ o ∈ replies, WritableOutcome o) →
      Writable (.injected replies)
  | http {connection : Http.Connection} :
      (∀ a, .answer a ∈ connection.replies → WritableAnswer a.status a.body) →
      Writable (.http connection)

def Request.Writable (r : Request) : Prop := Number.isWritable (r.body.getD .empty).size = true

def Command.Writable (cmd : Command) : Prop :=
  ∀ payload, cmd.body? = some payload → Number.isWritable payload.size = true

/-- An exchange that emits nothing but messages with a text. -/
structure Exchange.Writable {α : Type} (x : Exchange α) : Prop where
  request : x.request.Writable
  before : ∀ e ∈ x.before, e.message.HasText
  settle : ∀ o, WritableOutcome o → ∀ e ∈ (x.settle o).entries, e.message.HasText

theorem Exchange.Writable.map {α β : Type} {x : Exchange α} (h : x.Writable) (f : α → β) :
    (x.map f).Writable :=
  ⟨h.request, h.before, h.settle⟩

namespace Transport

variable {t : Transport} {r : Request}

theorem hasText_sending (url : String) (h : r.Writable) : (Http.sending r url).message.HasText :=
  Message.hasText_of_slots [.any, .any, .number] rfl
    (.cons .text (.cons .text (.cons (.number h) .nil)))

theorem hasText_received (url : String) {a : Http.Answer} (h : WritableAnswer a.status a.body) :
    (Http.received url a).message.HasText :=
  Message.hasText_of_slots [.any, .any, .number] rfl
    (.cons .text (.cons (.shown h.status) (.cons (.number h.size) .nil)))

theorem receive_writable (connection : Http.Connection) (r : Request) {reply : Http.Reply}
    (h : ∀ a, reply = .answer a → WritableAnswer a.status a.body) :
    WritableOutcome (connection.receive r reply).1 ∧
      ∀ e ∈ (connection.receive r reply).2, e.message.HasText := by
  cases reply with
  | fault thrown => exact ⟨writableOutcome_error _, List.forall_mem_nil _⟩
  | answer a =>
    simp only [Http.Connection.receive]
    split
    · exact ⟨writableOutcome_error _, List.forall_mem_nil _⟩
    · refine ⟨?_, List.forall_mem_singleton.mpr (hasText_received _ (h a rfl))⟩
      rintro response ⟨⟩
      exact ⟨(h a rfl).status, (h a rfl).size⟩

theorem execute_writable (ht : t.Writable) (hr : r.Writable) :
    WritableOutcome (t.execute r).outcome ∧ (∀ e ∈ (t.execute r).entries, e.message.HasText) ∧
      (t.execute r).transport.Writable := by
  cases ht with
  | @injected replies h =>
    refine ⟨?_, List.forall_mem_nil _, .injected fun o ho => h o (List.mem_of_mem_tail ho)⟩
    cases replies with
    | nil => exact writableOutcome_error _
    | cons o os => exact h o List.mem_cons_self
  | @http connection h =>
    have hs := hasText_sending (connection.url r) hr
    simp only [execute, Http.Connection.execute]
    cases connection.refusal? r with
    | some f =>
      exact ⟨writableOutcome_error f, List.forall_mem_singleton.mpr hs, .http h⟩
    | none =>
      have hn : ∀ a, connection.next = .answer a → WritableAnswer a.status a.body := by
        intro a ha
        cases hc : connection.replies with
        | nil => simp [Http.Connection.next, Http.Connection.exhausted, hc] at ha
        | cons reply replies =>
          simp only [Http.Connection.next, hc, List.head?_cons, Option.getD_some] at ha
          exact h a (by simp [hc, ha])
      obtain ⟨ho, he⟩ := receive_writable connection r hn
      exact ⟨ho, List.forall_mem_cons.mpr ⟨hs, he⟩,
        .http fun a ha => h a (List.mem_of_mem_tail ha)⟩

theorem close_writable (ht : t.Writable) : t.close.Writable := by
  cases ht with
  | injected h => exact .injected h
  | http h =>
    simp only [close, Http.Connection.close]
    split
    · exact .http h
    · exact .http h

end Transport

namespace Client

variable {α : Type} {c : Client} {o : Outcome} {response : Response} {r : Request}

section Settlements

theorem hasText_logged {level : Level} {template : String} {as : List Argument}
    (slots : List Slot) (hd : Message.slots? template.toList = some slots)
    (ha : List.Forall₂ Takes slots as) :
    ∀ e ∈ [logged level template as], e.message.HasText :=
  List.forall_mem_singleton.mpr (Message.hasText_of_slots slots hd ha)

theorem hasText_pollAnswered (h : WritableAnswer response.status response.body) :
    ∀ e ∈ (pollAnswered response).entries, e.message.HasText := by
  simp only [pollAnswered]
  split
  · exact List.forall_mem_nil _
  · next i hi =>
    obtain ⟨-, -, hd, hc⟩ := Metadata.extract_eq_ok_iff.mp hi
    have hs : i.content.size = response.body.size := by rw [hc]; rfl
    exact hasText_logged [.any, .number, .number] rfl
      (.cons .text (.cons (.number (hs ▸ h.size))
        (.cons (.number (Deadline.isWritable_of_parse hd)) .nil)))

theorem hasText_pollBroken (url : String) (error : ClientError) (cause : Failure) :
    ∀ e ∈ (pollBroken url error cause).entries, e.message.HasText :=
  hasText_logged [.any] rfl (.cons .text .nil)

theorem hasText_pollRefused (url : String) {status : Int}
    (hs : Number.isWritable status = true) :
    ∀ e ∈ (pollRefused url status).entries, e.message.HasText :=
  hasText_logged [.number] rfl (.cons (.number hs) .nil)

theorem hasText_poll (ho : WritableOutcome o) :
    ∀ e ∈ (c.poll.settle o).entries, e.message.HasText := by
  cases o with
  | error f =>
    simp only [poll]
    split
    · exact hasText_pollBroken _ _ _
    · exact List.forall_mem_nil _
  | ok response =>
    simp only [poll]
    split
    · exact hasText_pollAnswered (ho response rfl)
    · exact hasText_pollRefused _ (ho response rfl).status

theorem hasText_sendFailed (f : Failure) :
    ∀ e ∈ (c.sendFailed r f : Settled α).entries, e.message.HasText := by
  simp only [sendFailed]
  split
  · exact hasText_logged [.any, .any, .any] rfl (.cons .text (.cons .text (.cons .text .nil)))
  · exact List.forall_mem_nil _

theorem hasText_expect (path : String) {status : Int} (hs : Number.isWritable status = true)
    (hr : Number.isWritable response.status = true) :
    ∀ e ∈ (c.expect path status response).entries, e.message.HasText := by
  simp only [expect]
  split
  · exact List.forall_mem_nil _
  · exact hasText_logged [.any, .number, .number] rfl
      (.cons .text (.cons (.number hr) (.cons (.number hs) .nil)))

theorem hasText_restoring (payload : ByteArray) (errorType : Option String)
    (hs : Number.isWritable response.status = true) :
    ∀ e ∈ ((c.reportRestoreError payload errorType).settle (.ok response)).entries,
      e.message.HasText := by
  simp only [reportRestoreError]
  split
  · exact List.forall_mem_nil _
  · exact hasText_logged [.number] rfl (.cons (.number hs) .nil)

theorem hasText_causeDropped (report : ErrorReport) :
    ∀ e ∈ causeDropped report, e.message.HasText := by
  simp only [causeDropped]
  split
  · exact hasText_logged [] rfl .nil
  · exact List.forall_mem_nil _

end Settlements

section Exchanges

theorem expecting_writable {status : Int} {before : List Entry}
    (hs : Number.isWritable status = true) (hr : r.Writable)
    (hb : ∀ e ∈ before, e.message.HasText) : (c.expecting r status before).Writable where
  request := hr
  before := hb
  settle
    | .error f, _ => hasText_sendFailed f
    | .ok response, ho => hasText_expect r.path hs (ho response rfl).status

theorem get_writable (c : Client) (path : String) (timeout : Float) :
    (c.get path timeout).Writable :=
  (by decide : Number.isWritable 0 = true)

theorem post_writable {path : String} {extra : Fields} {body : ByteArray}
    (h : Number.isWritable body.size = true) : (c.post path extra body).Writable := h

theorem poll_writable (c : Client) : c.poll.Writable where
  request := get_writable ..
  before := List.forall_mem_nil _
  settle _ ho := hasText_poll ho

theorem reportRestoreError_writable {payload : ByteArray} (errorType : Option String)
    (hp : Number.isWritable payload.size = true) :
    (c.reportRestoreError payload errorType).Writable where
  request := post_writable hp
  before := List.forall_mem_nil _
  settle
    | .error f, _ => hasText_sendFailed f
    | .ok response, ho => hasText_restoring payload errorType (ho response rfl).status

theorem plan_writable {cmd : Command} {x : Exchange Value} (hc : cmd.Writable)
    (h : c.plan cmd = .exchange x) : x.Writable := by
  cases planned_of_exchange h with
  | poll => exact (poll_writable c).map _
  | @expecting _ r status before hb hs hd =>
    have hr : r.Writable := by
      rw [Request.Writable, hb]
      cases hp : cmd.body? with
      | none => decide
      | some payload => exact hc payload hp
    have hw : Number.isWritable status = true := by
      rcases hs with rfl | rfl <;> decide
    have ht : ∀ e ∈ before, e.message.HasText := by
      rcases hd with rfl | ⟨report, rfl⟩
      · exact List.forall_mem_nil _
      · exact hasText_causeDropped report
    exact (expecting_writable hw hr ht).map _
  | restoring => exact (reportRestoreError_writable _ (hc _ rfl)).map _

end Exchanges

section Sessions

variable {registry : Registry} {t : Transport} {cmd : Command} {cmds : List Command}

/-- One command: it emits messages with a text, and its successor finds a transport as good. -/
theorem emissions_writable (ht : t.Writable) (hc : cmd.Writable) :
    (∀ e ∈ (c.plan cmd).emissions t, e.message.HasText) ∧ ((c.plan cmd).leaves t).Writable := by
  cases h : c.plan cmd with
  | exchange x =>
    have hx := plan_writable hc h
    obtain ⟨ho, he, hu⟩ := Transport.execute_writable ht hx.request
    refine ⟨?_, hu⟩
    simp only [Plan.emissions, Exchange.emissions, List.forall_mem_append]
    exact ⟨⟨hx.before, he⟩, hx.settle _ ho⟩
  | settled result => exact ⟨List.forall_mem_nil _, ht⟩
  | closing => exact ⟨List.forall_mem_nil _, Transport.close_writable ht⟩

theorem hasText_emissions (ht : t.Writable) (hc : ∀ cmd ∈ cmds, cmd.Writable) :
    ∀ es ∈ c.emissions t cmds, ∀ e ∈ es, e.message.HasText := by
  induction cmds generalizing t with
  | nil => exact List.forall_mem_nil _
  | cons cmd cmds ih =>
    obtain ⟨hcmd, hcmds⟩ := List.forall_mem_cons.mp hc
    obtain ⟨he, hu⟩ := emissions_writable (c := c) ht hcmd
    exact List.forall_mem_cons.mpr ⟨he, ih hu hcmds⟩

theorem hasText_initializing (url : String) : (initializing url).message.HasText :=
  Message.hasText_of_slots [.any] rfl (.cons .text .nil)

theorem records_make {process : Environment} {version : String} {options : Options}
    {given : Option String} (h : (make registry process version options given).result = .ok c) :
    (make registry process version options given).records =
      c.logger.record (make registry process version options given).registry
        (initializing c.baseUrl) := by
  unfold make at h ⊢
  split at h
  · cases h
  · cases h
    rfl

/-- All that a client and its transport emit has a text, from the making of the client on. If the
client logs to an object that does no more than format and record what it is handed, the object has
one record for each emission that is not below the level, turn by turn and in their order. -/
theorem session_keeps_all (c : Client) (registry : Registry) (ht : t.Writable)
    (hc : ∀ cmd ∈ cmds, cmd.Writable) :
    (initializing c.baseUrl).message.HasText ∧
      (∀ es ∈ c.emissions t cmds, ∀ e ∈ es, e.message.HasText) ∧
      ∀ hooks, c.logger.sink = .object hooks → hooks.general = some .working →
        (∀ before process version options given,
          (make before process version options given).result = .ok c →
            c.logger.KeepsAll (make before process version options given).records
              [initializing c.baseUrl]) ∧
          List.Forall₂ c.logger.KeepsAll ((c.session registry t cmds).map (·.records))
            (c.emissions t cmds) := by
  have he := hasText_emissions (c := c) ht hc
  refine ⟨hasText_initializing _, he, fun hooks hs hg => ⟨?_, ?_⟩⟩
  · intro before process version options given hm
    rw [records_make hm]
    exact Logger.record_of_object hs hg (hasText_initializing _)
  · rw [records_session, List.forall₂_map_left_iff]
    exact List.forall₂_same.mpr fun es hes => Logger.recordAll_of_object hs hg (he es hes)

/-- Percent signs in the name of an invocation are left alone, and so is a deadline that is as long
as a deadline may be. -/
theorem session_keeps_all_percent :
    (Transport.injected [.ok (answerTo "100%" (ones 4300)), .ok { status := 500 }]).Writable ∧
      List.Forall₂ verbose.logger.KeepsAll
        ((verbose.session {}
          (.injected [.ok (answerTo "100%" (ones 4300)), .ok { status := 500 }])
          [.poll, .reportSuccess "100%" .empty, .close]).map (·.records))
        (verbose.emissions (.injected [.ok (answerTo "100%" (ones 4300)), .ok { status := 500 }])
          [.poll, .reportSuccess "100%" .empty, .close]) := by
  have ht : (Transport.injected
      [.ok (answerTo "100%" (ones 4300)), .ok { status := 500 }]).Writable := by
    refine .injected (List.forall_mem_cons.mpr ⟨?_, List.forall_mem_singleton.mpr ?_⟩)
    · rintro response ⟨⟩
      exact ⟨by decide, by decide⟩
    · rintro response ⟨⟩
      exact ⟨by decide, by decide⟩
  have hc : ∀ cmd ∈ [Command.poll, .reportSuccess "100%" .empty, .close], cmd.Writable := by
    simp only [List.forall_mem_cons]
    refine ⟨?_, ?_, ?_, List.forall_mem_nil _⟩
    · rintro payload ⟨⟩
    · rintro payload ⟨⟩
      decide
    · rintro payload ⟨⟩
  obtain ⟨-, -, hk⟩ := session_keeps_all verbose {} ht hc
  exact ⟨ht, (hk _ rfl rfl).2⟩

theorem emit_of_textless {l : Logger} {hooks : Hooks} (hs : l.sink = .object hooks)
    (hg : hooks.general = some .working) {level : Level} {m : Message} (ht : ¬ m.HasText) :
    l.emit registry level m = [] := by
  have hf : m.format? = none := Option.not_isSome_iff_eq_none.mp ht
  simp only [Logger.emit_eq, hs, Sink.deliver, hg, EntryPoint.receive, hf, Delivery.ofText?, ite_self]

/-- What a poll says that was answered with another status. -/
def refusal (status : Int) : Entry :=
  logged .error "Next invocation poll returned status=%d" [.number status]

theorem not_hasText_refusal {status : Int} (h : Number.isWritable status = false) :
    ¬ (refusal status).message.HasText := by
  have hs : Message.slots? "Next invocation poll returned status=%d".toList = some [.number] := by
    decide +kernel
  intro ht
  cases (Message.fills_iff hs).mp (Message.hasText_iff.mp ht) with
  | cons hn _ =>
    cases hn with
    | number hw =>
      rw [h] at hw
      cases hw

theorem emissions_refused {status : Int} (h : status ≠ okStatus) :
    c.emissions (.injected [.ok { status }]) [.poll] = [[refusal status]] := by
  simp [emissions, Plan.emissions, plan, Exchange.emissions, Exchange.map, Transport.execute, poll, h,
    pollRefused, refusal]

/-- A poll that is answered with a status of 4301 digits says so, but there is no record of it. -/
theorem unrecorded_of_digits :
    verbose.emissions (.injected [.ok { status := Nat.pow 10 Number.digitLimit }]) [.poll] =
        [[refusal (Nat.pow 10 Number.digitLimit)]] ∧
      (verbose.session {} (.injected [.ok { status := Nat.pow 10 Number.digitLimit }])
        [.poll]).map (·.records) = [[]] ∧
      ¬ verbose.logger.KeepsAll [] [refusal (Nat.pow 10 Number.digitLimit)] := by
  have hw : Number.isWritable (Nat.pow 10 Number.digitLimit) = false := Number.isWritable_pow
  generalize (Nat.pow 10 Number.digitLimit : Int) = status at hw ⊢
  have hs : status ≠ okStatus := by
    rintro rfl
    cases hw
  have he := emissions_refused (c := verbose) hs
  refine ⟨he, ?_, ?_⟩
  · rw [records_session, he]
    have hr : verbose.logger.record {} (refusal status) = [] :=
      emit_of_textless rfl rfl (not_hasText_refusal hw)
    simp [Logger.recordAll, hr]
  · rintro ⟨⟩

end Sessions

end Client

end InvocationClient
