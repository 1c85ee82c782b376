import InvocationClient.Proofs.Client.Plan
import InvocationClient.Proofs.Client.Settlement
import InvocationClient.Proofs.Invocation.Metadata
import InvocationClient.Proofs.Transport.Confidential

/-! # Confidential contents of a session

What a session logs does not depend on the contents of payloads and bodies, but for their sizes, nor
on the confidential part of the metadata or on what an error report says about its type and cause.
Over HTTP an answer has to be read in one encoding whatever its confidential fields hold: a field
that is not UTF-8 changes how the name of the invocation reads.
-/

namespace InvocationClient

open Metadata (lastValue?)

/-- Error reports that differ in no more than what is confidential. A cause counts by whether there
is one and whether it is sent. -/
structure ErrorReport.Alike (report report' : ErrorReport) : Prop where
  size : report.payload.size = report'.payload.size
  requestId : report.requestId = report'.requestId
  cause : report.errorCause.isSome = report'.errorCause.isSome
  sendable : report.sendableCause.isSome = report'.sendableCause.isSome

/-- Commands of one kind for one invocation, with payloads of one size. -/
inductive Command.Alike : Command → Command → Prop where
  | poll : Alike .poll .poll
  | reportSuccess {id : String} {payload payload' : ByteArray} : payload.size = payload'.size →
      Alike (.reportSuccess id payload) (.reportSuccess id payload')
  | reportError {report report' : ErrorReport} : report.Alike report' →
      Alike (.reportError report) (.reportError report')
  | reportInitError {payload payload' : ByteArray} {errorType errorType' : Option String} :
      payload.size = payload'.size →
      Alike (.reportInitError payload errorType) (.reportInitError payload' errorType')
  | pollRestore : Alike .pollRestore .pollRestore
  | reportRestoreError {payload payload' : ByteArray} {errorType errorType' : Option String} :
      payload.size = payload'.size →
      Alike (.reportRestoreError payload errorType) (.reportRestoreError payload' errorType')
  | close : Alike .close .close
  | enter : Alike .enter .enter
  | exit : Alike .exit .exit

/-- Exchanges that log the same about outcomes that are alike. -/
structure Exchange.Alike {α : Type} (x x' : Exchange α) : Prop where
  request : x.request.Alike x'.request
  before : x.before = x'.before
  entries : ∀ {o o' : Outcome}, AlikeOutcomes o o' → (x.settle o).entries = (x'.settle o').entries

inductive Plan.Alike : Plan → Plan → Prop where
  | exchange {x x' : Exchange Value} : x.Alike x' → Alike (.exchange x) (.exchange x')
  | settled {result result' : Except Failure Value} : Alike (.settled result) (.settled result')
  | closing : Alike .closing .closing

structure Turn.Alike {α : Type} (turn turn' : Turn α) : Prop where
  records : turn.records = turn'.records
  transport : turn.transport.Alike turn'.transport
  reading : turn.transport.SameReading turn'.transport

section Metadata

variable {fields fields' : Fields} {f : Metadata.Field}

theorem lastValue?_alike (h : List.Forall₂ AlikeFields fields fields')
    (hf : f.isConfidential = false) : lastValue? f fields = lastValue? f fields' := by
  induction h with
  | nil => rfl
  | @cons h h' fields fields' hh _ ih =>
    obtain ⟨hn, hv⟩ := hh
    rw [Metadata.lastValue?_cons, Metadata.lastValue?_cons, ih, ← hn]
    rcases hv with hv | ⟨g, hg, hc⟩
    · rw [hv]
    · have hgf : g ≠ f := by
        rintro rfl
        rw [hf] at hc
        cases hc
      simp [hg, hgf]

end Metadata

namespace Client

variable {α : Type} {c : Client} {registry : Registry} {t t' : Transport} {r r' : Request}
  {path : String} {status : Int} {before : List Entry} {cmd cmd' : Command}

section Requests

variable {extra extra' : Fields} {body body' : ByteArray} {report report' : ErrorReport}

theorem isPlainName_agent : IsPlainName "User-Agent" := ⟨by decide, by decide +kernel⟩

theorem isPlainName_content : IsPlainName contentType.1 := ⟨by decide, by decide +kernel⟩

theorem isPlainName_type : IsPlainName typeHeader := ⟨by decide, by decide +kernel⟩

theorem isPlainName_cause : IsPlainName causeHeader := ⟨by decide, by decide +kernel⟩

theorem isPlainName_errorFields (report : ErrorReport) :
    ∀ h ∈ errorFields report, IsPlainName h.1 := by
  simp only [errorFields, List.mem_append, List.mem_cons, List.mem_map]
  rintro h ((rfl | ⟨_, -, rfl⟩) | ⟨_, -, rfl⟩)
  · exact isPlainName_content
  · exact isPlainName_type
  · exact isPlainName_cause

theorem get_alike (c : Client) (path : String) (timeout : Float) :
    (c.get path timeout).Alike (c.get path timeout) where
  method := rfl
  path := rfl
  timeout := rfl
  size := rfl
  plain := List.forall_mem_singleton.mpr isPlainName_agent
  plain' := List.forall_mem_singleton.mpr isPlainName_agent

theorem post_alike (hs : body.size = body'.size) (he : ∀ h ∈ extra, IsPlainName h.1)
    (he' : ∀ h ∈ extra', IsPlainName h.1) :
    (c.post path extra body).Alike (c.post path extra' body') where
  method := rfl
  path := rfl
  timeout := rfl
  size := hs
  plain := List.forall_mem_cons.mpr ⟨isPlainName_agent, he⟩
  plain' := List.forall_mem_cons.mpr ⟨isPlainName_agent, he'⟩

theorem postError_alike (hs : report.payload.size = report'.payload.size) :
    (c.postError path report).Alike (c.postError path report') :=
  post_alike hs (isPlainName_errorFields report) (isPlainName_errorFields report')

end Requests

section Exchanges

theorem sendFailed_alike (hq : r.Alike r') (f : Failure) :
    (c.sendFailed r f : Settled α).entries = (c.sendFailed r' f : Settled α).entries := by
  unfold sendFailed
  cases transportError? f with
  | none => rfl
  | some e => simp only [hq.method, hq.path]

theorem expect_alike {a a' : Response} (ha : a.status = a'.status) :
    (c.expect path status a).entries = (c.expect path status a').entries := by
  simp only [expect, ha]
  split <;> rfl

theorem expecting_alike (hq : r.Alike r') :
    (c.expecting r status before).Alike (c.expecting r' status before) where
  request := hq
  before := rfl
  entries := by
    rintro _ _ (⟨ha⟩ | f)
    · simp only [expecting, hq.path]
      exact expect_alike ha.status
    · exact sendFailed_alike hq f

theorem pollAnswered_alike {a a' : Response} (ha : a.Alike a') :
    (pollAnswered a).entries = (pollAnswered a').entries := by
  have hi : lastValue? .requestId a.headers = lastValue? .requestId a'.headers :=
    lastValue?_alike ha.headers rfl
  have hf : lastValue? .functionArn a.headers = lastValue? .functionArn a'.headers :=
    lastValue?_alike ha.headers rfl
  have hd : lastValue? .deadline a.headers = lastValue? .deadline a'.headers :=
    lastValue?_alike ha.headers rfl
  unfold pollAnswered
  cases hi' : lastValue? .requestId a'.headers with
  | none =>
    rw [Metadata.extract_of_id_missing (hi.trans hi'), Metadata.extract_of_id_missing hi']
  | some id =>
    cases hf' : lastValue? .functionArn a'.headers with
    | none =>
      rw [Metadata.extract_of_arn_missing (hi.trans hi') (hf.trans hf'),
        Metadata.extract_of_arn_missing hi' hf']
    | some arn =>
      rw [Metadata.extract_of_required (hi.trans hi') (hf.trans hf'),
        Metadata.extract_of_required hi' hf', hd]
      cases Deadline.parse (lastValue? .deadline a'.headers) with
      | error e => rfl
      | ok deadline => simp [Except.map, Metadata.describe, ha.size]

theorem poll_alike (c : Client) : c.poll.Alike c.poll where
  request := get_alike c _ _
  before := rfl
  entries := by
    rintro _ _ (⟨ha⟩ | f)
    · simp only [poll, ha.status]
      split
      · exact pollAnswered_alike ha
      · rfl
    · rfl

theorem reportRestoreError_alike {payload payload' : ByteArray} {errorType errorType' : Option String}
    (hs : payload.size = payload'.size) :
    (c.reportRestoreError payload errorType).Alike (c.reportRestoreError payload' errorType') where
  request := postError_alike hs
  before := rfl
  entries := by
    rintro _ _ (⟨ha⟩ | f)
    · simp only [reportRestoreError, ha.status]
    · exact sendFailed_alike (postError_alike hs) f

theorem causeDropped_alike {report report' : ErrorReport} (h : report.Alike report') :
    causeDropped report = causeDropped report' := by
  have hn : report.sendableCause.isNone = report'.sendableCause.isNone := by
    rw [← Option.not_isSome, ← Option.not_isSome, h.sendable]
  rw [causeDropped, causeDropped, h.cause, hn]

theorem map_alike {β : Type} {x x' : Exchange α} (f : α → β) (h : x.Alike x') :
    (x.map f).Alike (x'.map f) :=
  ⟨h.request, h.before, h.entries⟩

theorem plan_alike (h : cmd.Alike cmd') : (c.plan cmd).Alike (c.plan cmd') := by
  cases h with
  | poll => exact .exchange (map_alike _ (poll_alike c))
  | reportSuccess hs =>
    exact .exchange (map_alike _ (expecting_alike (post_alike hs (by simp) (by simp))))
  | @reportError report report' h =>
    rw [plan, plan]
    rcases hid : report'.requestId with _ | id
    · rw [reportError_of_unnamed (.inl (h.requestId.trans hid)), reportError_of_unnamed (.inl hid)]
      exact .settled
    · by_cases hn : id = ""
      · subst hn
        rw [reportError_of_unnamed (.inr (h.requestId.trans hid)),
          reportError_of_unnamed (.inr hid)]
        exact .settled
      · rw [reportError_of_named (h.requestId.trans hid) hn, reportError_of_named hid hn,
          causeDropped_alike h]
        exact .exchange (map_alike _ (expecting_alike (postError_alike h.size)))
  | reportInitError hs => exact .exchange (map_alike _ (expecting_alike (postError_alike hs)))
  | pollRestore => exact .exchange (map_alike _ (expecting_alike (get_alike c _ _)))
  | reportRestoreError hs => exact .exchange (map_alike _ (reportRestoreError_alike hs))
  | close => exact .closing
  | enter => exact .settled
  | exit => exact .closing

end Exchanges

section Sessions

theorem connect_alike {replies replies' : List Http.Reply}
    (h : List.Forall₂ Http.Reply.Alike replies replies') :
    (c.connect replies).Alike (c.connect replies') :=
  .http (c := .ofUrl c.baseUrl c.requestTimeout true []) h

theorem carryOut_alike {x x' : Exchange α} (ht : t.Alike t') (hs : t.SameReading t')
    (hx : x.Alike x') : (c.carryOut registry t x).Alike (c.carryOut registry t' x') := by
  have he := Transport.execute_alike ht hs hx.request
  refine ⟨?_, he.transport, he.reading⟩
  simp only [carryOut, hx.before, he.entries, hx.entries he.outcome]

theorem perform_alike (ht : t.Alike t') (hs : t.SameReading t') (h : cmd.Alike cmd') :
    (c.perform registry t cmd).Alike (c.perform registry t' cmd') := by
  have hp := plan_alike (c := c) h
  rw [perform_eq_run, perform_eq_run]
  generalize c.plan cmd = p, c.plan cmd' = p' at hp
  cases hp with
  | exchange hx => exact carryOut_alike ht hs hx
  | settled => exact ⟨rfl, ht, hs⟩
  | closing => exact ⟨rfl, Transport.close_alike ht, Transport.close_sameReading hs⟩

/-- Sessions of commands that are alike, over transports that are alike and read their answers the
same, log the same in every turn. -/
theorem records_session_eq (c : Client) (registry : Registry) (ht : t.Alike t')
    (hs : t.SameReading t') {cmds cmds' : List Command}
    (hc : List.Forall₂ Command.Alike cmds cmds') :
    (c.session registry t cmds).map (·.records) =
      (c.session registry t' cmds').map (·.records) := by
  induction hc generalizing t t' with
  | nil => rfl
  | cons h _ ih =>
    have hp : (c.perform registry _ _).Alike (c.perform registry _ _) := perform_alike ht hs h
    rw [session, session, List.map_cons, List.map_cons, hp.records, ih hp.transport hp.reading]

end Sessions

section Samples

open Http (Answer Readable decodeString_of_ascii)

def verbose : Client := { sample with logger := ⟨.object { general := some .working }, .debug⟩ }

def wireName (f : Metadata.Field) : List UInt8 := f.header.toUTF8.data.toList

/-- An answer for the invocation `é`, told in UTF-8, with a trace and a body. -/
def traced (trace : List UInt8) (body : ByteArray) : Answer where
  status := okStatus
  headers := [
    (wireName .requestId, [0xc3, 0xa9]), (wireName .functionArn, [0x66]), (wireName .traceId, trace)]
  body := body

theorem lowerName_wireName (f : Metadata.Field) :
    Http.lowerName (wireName f) = (Text.lower f.header).toUTF8.data.toList := by
  cases f <;> decide +kernel

theorem traced_alike (trace trace' : List UInt8) {body body' : ByteArray}
    (hb : body.size = body'.size) : (traced trace body).Alike (traced trace' body') where
  status := rfl
  headers := .cons ⟨rfl, .inl rfl⟩
    (.cons ⟨rfl, .inl rfl⟩ (.cons ⟨rfl, .inr ⟨.traceId, rfl, lowerName_wireName _⟩⟩ .nil))
  size := hb

theorem readable_traced {trace : List UInt8} {text : String} (body : ByteArray)
    (ht : Text.Utf8.decodeString trace = .ok text) : Readable (traced trace body).headers := by
  have hn : ∀ f, Text.Utf8.IsAscii (Http.lowerName (wireName f)) := fun f =>
    lowerName_wireName f ▸ Http.isAscii_header f
  have hid : Text.Utf8.decodeString [0xc3, 0xa9] = .ok "é" := by decide +kernel
  have ha : Text.Utf8.decodeString [0x66] = .ok "f" := by decide +kernel
  simp only [Readable, traced, List.forall_mem_cons]
  exact ⟨⟨(_, _), decodeString_of_ascii (hn .requestId), hid⟩,
    ⟨(_, _), decodeString_of_ascii (hn .functionArn), ha⟩,
    ⟨(_, _), decodeString_of_ascii (hn .traceId), ht⟩, List.forall_mem_nil _⟩

/-- Another trace, another body of the same size, and a report of another error. -/
theorem records_session_eq_traced :
    (verbose.connect [.answer (traced [0x61] "yes".toUTF8)]).Alike
        (verbose.connect [.answer (traced [0x62, 0x63] "no!".toUTF8)]) ∧
      (verbose.session {} (verbose.connect [.answer (traced [0x61] "yes".toUTF8)])
          [.poll, .reportInitError "one".toUTF8 none, .close]).map (·.records) =
        (verbose.session {} (verbose.connect [.answer (traced [0x62, 0x63] "no!".toUTF8)])
          [.poll, .reportInitError "two".toUTF8 (some "E"), .close]).map (·.records) := by
  have hd : Text.Utf8.decodeString [0x61] = .ok "a" := by decide +kernel
  have hd' : Text.Utf8.decodeString [0x62, 0x63] = .ok "bc" := by decide +kernel
  have hr : Readable (traced [0x61] "yes".toUTF8).headers ↔
      Readable (traced [0x62, 0x63] "no!".toUTF8).headers :=
    iff_of_true (readable_traced _ hd) (readable_traced _ hd')
  have ht : (verbose.connect [.answer (traced [0x61] "yes".toUTF8)]).Alike
      (verbose.connect [.answer (traced [0x62, 0x63] "no!".toUTF8)]) :=
    connect_alike (.cons (.answer (traced_alike _ _ (by decide +kernel))) .nil)
  exact ⟨ht, records_session_eq verbose {} ht (.http (.cons (.answer (.inl hr)) .nil))
    (.cons .poll (.cons (.reportInitError (by decide +kernel)) (.cons .close .nil)))⟩

/-- Without a care for encodings sessions may log differently: a trace that is not UTF-8 makes the
name of the invocation appear in Latin-1. -/
theorem records_session_ne_of_encoding :
    ¬ ∀ (c : Client) (registry : Registry) (t t' : Transport) (cmds cmds' : List Command),
      t.Alike t' → List.Forall₂ Command.Alike cmds cmds' →
        (c.session registry t cmds).map (·.records) =
          (c.session registry t' cmds').map (·.records) := by
  intro h
  have hr := h verbose {} (verbose.connect [.answer (traced [0x61] .empty)])
    (verbose.connect [.answer (traced [0xff] .empty)]) [.poll] [.poll]
    (connect_alike (.cons (.answer (traced_alike _ _ rfl)) .nil)) (.cons .poll .nil)
  revert hr
  decide +kernel

end Samples

end Client

end InvocationClient
