import InvocationClient.Proofs.Invocation.Metadata
import InvocationClient.Proofs.Transport.Headers
import InvocationClient.Transport

/-! # Confidential contents on the wire

Answers that differ in no more than the contents of their bodies and the values of confidential
header fields. A transport makes the same entries of requests and answers that differ so, if it
reads the other header fields the same.
-/

namespace InvocationClient

open Text (lower)

/-- The fields of the metadata whose values concern the handler alone. -/
def Metadata.Field.isConfidential : Metadata.Field → Bool
  | requestId => false
  | functionArn => false
  | deadline => false
  | traceId => true
  | clientContext => true
  | cognitoIdentity => true

/-- Header fields of one name, and of one value unless it is confidential. -/
def AlikeFields (h h' : String × String) : Prop :=
  h.1 = h'.1 ∧ (h.2 = h'.2 ∨ ∃ f, Metadata.Field.ofName? h.1 = some f ∧ f.isConfidential = true)

structure Response.Alike (a a' : Response) : Prop where
  status : a.status = a'.status
  headers : List.Forall₂ AlikeFields a.headers a'.headers
  size : a.body.size = a'.body.size

/-- Answers that are alike, or one failure. -/
inductive AlikeOutcomes : Outcome → Outcome → Prop where
  | answer {a a' : Response} : a.Alike a' → AlikeOutcomes (.ok a) (.ok a')
  | failure (f : Failure) : AlikeOutcomes (.error f) (.error f)

/-- A header field that keeps clear of how a request is sent. -/
def IsPlainName (name : String) : Prop :=
  name.toList.all Text.Ascii.isAscii = true ∧ lower name ≠ "host"

/-- Requests that look the same from outside: only the contents of their bodies and the header
fields of plain names may differ. -/
structure Request.Alike (r r' : Request) : Prop where
  method : r.method = r'.method
  path : r.path = r'.path
  timeout : r.timeout = r'.timeout
  size : (r.body.getD .empty).size = (r'.body.getD .empty).size
  plain : ∀ h ∈ r.headers, IsPlainName h.1
  plain' : ∀ h ∈ r'.headers, IsPlainName h.1

namespace Http

open Text Utf8

/-- The name, in lower case, of a field whose value is confidential. -/
def IsConfidentialName (name : List UInt8) : Prop :=
  ∃ f : Metadata.Field, f.isConfidential = true ∧ name = (lower f.header).toUTF8.data.toList

/-- Header fields of one name, and of one value unless it is confidential. -/
def AlikeRaw (h h' : List UInt8 × List UInt8) : Prop :=
  h.1 = h'.1 ∧ (h.2 = h'.2 ∨ IsConfidentialName (lowerName h.1))

structure Answer.Alike (a a' : Answer) : Prop where
  status : a.status = a'.status
  headers : List.Forall₂ AlikeRaw a.headers a'.headers
  size : a.body.size = a'.body.size

inductive Reply.Alike : Reply → Reply → Prop where
  | answer {a a' : Answer} : a.Alike a' → Alike (.answer a) (.answer a')
  | fault (thrown : Thrown) : Alike (.fault thrown) (.fault thrown)

/-- A header field in ASCII, apart from a confidential value. -/
def IsPlainField (h : List UInt8 × List UInt8) : Prop :=
  IsAscii h.1 ∧ (IsAscii h.2 ∨ IsConfidentialName (lowerName h.1))

/-- The header fields of both answers are UTF-8 or those of neither, unless all that is not
confidential is in ASCII anyway. -/
def Answer.SameReading (a a' : Answer) : Prop :=
  (Readable a.headers ↔ Readable a'.headers) ∨
    (∀ h ∈ a.headers, IsPlainField h) ∧ ∀ h ∈ a'.headers, IsPlainField h

inductive Reply.SameReading : Reply → Reply → Prop where
  | answer {a a' : Answer} : a.SameReading a' → SameReading (.answer a) (.answer a')
  | fault (thrown thrown' : Thrown) : SameReading (.fault thrown) (.fault thrown')

section Readings

variable {h h' : List UInt8 × List UInt8} {field field' : String × String}
  {hs hs' : List (List UInt8 × List UInt8)} {fields fields' : Fields}

theorem isAscii_header (f : Metadata.Field) : IsAscii (lower f.header).toUTF8.data.toList := by
  unfold IsAscii
  cases f <;> decide +kernel

theorem latin1_header (f : Metadata.Field) :
    latin1 (lower f.header).toUTF8.data.toList = lower f.header := by
  cases f <;> decide +kernel

theorem ofName?_lower_header (f : Metadata.Field) :
    Metadata.Field.ofName? (lower f.header) = some f := by
  have hl : lower (lower f.header) = lower f.header := by cases f <;> decide +kernel
  rw [← Metadata.ofName?_header f, Metadata.Field.ofName?, Metadata.Field.ofName?, hl]

theorem ofName?_of_isConfidentialName (hr : ReadAs h field)
    (hc : IsConfidentialName (lowerName h.1)) :
    ∃ f, Metadata.Field.ofName? field.1 = some f ∧ f.isConfidential = true := by
  obtain ⟨f, hf, hn⟩ := hc
  have ha : IsAscii (lowerName h.1) := hn ▸ isAscii_header f
  have hname : field.1 = latin1 (lowerName h.1) := hr.name_of_ascii ha
  exact ⟨f, by rw [hname, hn, latin1_header, ofName?_lower_header], hf⟩

theorem alikeFields_of_reading (hh : AlikeRaw h h') (hr : ReadAs h field)
    (hn : field.1 = field'.1) (hv : h.2 = h'.2 → field.2 = field'.2) :
    AlikeFields field field' :=
  ⟨hn, hh.2.imp hv (ofName?_of_isConfidentialName hr)⟩

theorem alikeFields_of_utf8 (hh : AlikeRaw h h') (hu : InUtf8 h field) (hu' : InUtf8 h' field') :
    AlikeFields field field' := by
  refine alikeFields_of_reading hh (.inl hu) ?_ fun hv => ?_
  · have hn := hu.1
    rw [lowerName, hh.1] at hn
    exact Except.ok.inj (hn.symm.trans hu'.1)
  · have hv' := hu.2
    rw [hv] at hv'
    exact Except.ok.inj (hv'.symm.trans hu'.2)

theorem alikeFields_of_latin1 (hh : AlikeRaw h h') : AlikeFields (inLatin1 h) (inLatin1 h') :=
  alikeFields_of_reading hh (.inr rfl) (by simp only [inLatin1, lowerName, hh.1])
    fun hv => by simp only [inLatin1, hv]

theorem alikeFields_of_plain (hh : AlikeRaw h h') (hp : IsPlainField h) (hp' : IsPlainField h')
    (hr : ReadAs h field) (hr' : ReadAs h' field') : AlikeFields field field' := by
  refine ⟨?_, ?_⟩
  · rw [hr.name_of_ascii (isAscii_lowerName hp.1), hr'.name_of_ascii (isAscii_lowerName hp'.1),
      lowerName, lowerName, hh.1]
  · by_cases hc : IsConfidentialName (lowerName h.1)
    · exact .inr (ofName?_of_isConfidentialName hr hc)
    · have hv : h.2 = h'.2 := hh.2.resolve_right hc
      have ha : IsAscii h.2 := hp.2.resolve_right hc
      exact .inl (by rw [hr.value_of_ascii ha, hr'.value_of_ascii (hv ▸ ha), hv])

theorem forall₂_alikeFields {Reads Reads' : List UInt8 × List UInt8 → String × String → Prop}
    (hp : ∀ {h h' field field'}, AlikeRaw h h' → Reads h field → Reads' h' field' →
      AlikeFields field field')
    (hh : List.Forall₂ AlikeRaw hs hs') (hr : List.Forall₂ Reads hs fields)
    (hr' : List.Forall₂ Reads' hs' fields') : List.Forall₂ AlikeFields fields fields' := by
  induction hh generalizing fields fields' with
  | nil =>
    cases hr
    cases hr'
    exact .nil
  | cons hh _ ih =>
    cases hr with
    | cons hf hfs =>
      cases hr' with
      | cons hf' hfs' => exact .cons (hp hh hf hf') (ih hfs hfs')

end Readings

theorem decodeFields_alike {a a' : Answer} (ha : a.Alike a') (hr : a.SameReading a') :
    List.Forall₂ AlikeFields (decodeFields a.headers) (decodeFields a'.headers) := by
  rcases hr with hu | ⟨hp, hp'⟩
  · by_cases h : Readable a.headers
    · exact forall₂_alikeFields alikeFields_of_utf8 ha.headers (decodeFields_of_readable h)
        (decodeFields_of_readable (hu.mp h))
    · rw [decodeFields_of_unreadable h, decodeFields_of_unreadable (fun h' => h (hu.mpr h')),
        List.forall₂_map_left_iff, List.forall₂_map_right_iff]
      exact ha.headers.imp fun _ _ => alikeFields_of_latin1
  · have hf := (List.forall₂_and_left _ _).mpr ⟨hp, decodeFields_readAs a.headers⟩
    have hf' := (List.forall₂_and_left _ _).mpr ⟨hp', decodeFields_readAs a'.headers⟩
    exact forall₂_alikeFields (fun hh h h' => alikeFields_of_plain hh h.1 h'.1 h.2 h'.2)
      ha.headers hf hf'

namespace Connection

variable {c : Connection} {r r' : Request} {reply reply' : Reply}

/-- Header fields of plain names do not decide whether a request is sent. -/
theorem refusal?_of_plain (h : ∀ f ∈ r.headers, IsPlainName f.1) :
    c.refusal? r = c.refusal? { r with headers := [] } := by
  have ha : (r.headers.findSome? fun f => (Ascii.fault? f.1.toList).map Failure.unencodable) =
      none := by
    rw [List.findSome?_eq_none_iff]
    intro f hf
    rw [(Ascii.fault?_eq_none_iff _).mpr (h f hf).1]
    rfl
  have hs : siteFault? r.headers = siteFault? [] := by
    funext site
    have hn : (r.headers.any fun f => lower f.1 = "host") = false := by
      rw [List.any_eq_false]
      intro f hf
      simpa using (h f hf).2
    simp only [siteFault?, hn]
    rfl
  simp only [refusal?, ha, hs]
  rfl

theorem refusal?_alike (h : r.Alike r') : c.refusal? r = c.refusal? r' := by
  rw [refusal?_of_plain h.plain, refusal?_of_plain h.plain']
  simp only [refusal?, url, h.path]

theorem url_alike (h : r.Alike r') : c.url r = c.url r' := by
  rw [url, url, h.path]

theorem receive_alike (hq : r.Alike r') (hr : reply.Alike reply')
    (hs : reply.SameReading reply') :
    AlikeOutcomes (c.receive r reply).1 (c.receive r' reply').1 ∧
      (c.receive r reply).2 = (c.receive r' reply').2 := by
  have hu : c.url r = c.url r' := url_alike hq
  have hc : (c.call r).url = (c.call r').url := by simp only [call, hu]
  have ht : (c.call r).timeout = (c.call r').timeout := by simp only [call, hq.timeout]
  cases hr with
  | fault thrown =>
    simp only [receive, hq.method, hu, ht]
    exact ⟨.failure _, trivial⟩
  | @answer a a' ha =>
    cases hs with
    | answer hs =>
      simp only [receive, hu, hc, ha.status, ha.size, received]
      split
      · exact ⟨.failure _, rfl⟩
      · exact ⟨.answer ⟨rfl, decodeFields_alike ha hs, ha.size⟩, rfl⟩

end Connection

end Http

open Http (Reply Connection)

namespace Transport

inductive Alike : Transport → Transport → Prop where
  | injected {replies replies' : List Outcome} : List.Forall₂ AlikeOutcomes replies replies' →
      Alike (.injected replies) (.injected replies')
  | http {c : Connection} {replies replies' : List Reply} :
      List.Forall₂ Reply.Alike replies replies' →
      Alike (.http { c with replies }) (.http { c with replies := replies' })

inductive SameReading : Transport → Transport → Prop where
  | injected {replies replies' : List Outcome} :
      SameReading (.injected replies) (.injected replies')
  | http {c c' : Connection} : List.Forall₂ Reply.SameReading c.replies c'.replies →
      SameReading (.http c) (.http c')

end Transport

structure Transfer.Alike (x x' : Transfer) : Prop where
  outcome : AlikeOutcomes x.outcome x'.outcome
  entries : x.entries = x'.entries
  transport : x.transport.Alike x'.transport
  reading : x.transport.SameReading x'.transport

namespace Transport

variable {t t' : Transport} {r r' : Request}

theorem close_alike (ht : t.Alike t') : t.close.Alike t'.close := by
  cases ht with
  | injected h => exact .injected h
  | @http c replies replies' h =>
    simp only [close, Connection.close]
    split
    · exact .http (c := { c with closings := c.closings + 1 }) h
    · exact .http h

theorem close_sameReading (hs : t.SameReading t') : t.close.SameReading t'.close := by
  have hc : ∀ c : Connection, c.close.replies = c.replies := fun c => by
    rw [Connection.close]
    split <;> rfl
  cases hs with
  | injected => exact .injected
  | http h => exact .http (by rwa [hc, hc])

/-- One step over transports that are alike leaves them so. -/
theorem execute_alike (ht : t.Alike t') (hs : t.SameReading t') (hq : r.Alike r') :
    (t.execute r).Alike (t'.execute r') := by
  cases ht with
  | injected h =>
    cases h with
    | nil => exact ⟨.failure _, rfl, .injected .nil, .injected⟩
    | cons ho hos => exact ⟨ho, rfl, .injected hos, .injected⟩
  | @http c replies replies' h =>
    cases hs with
    | http hs =>
      have hsend : Http.sending r (c.url r) = Http.sending r' (c.url r') := by
        simp only [Http.sending, hq.method, hq.size, Connection.url_alike hq]
      have hf : ({ c with replies } : Connection).refusal? r =
          ({ c with replies := replies' } : Connection).refusal? r' := Connection.refusal?_alike hq
      simp only [execute, Connection.execute, hf]
      split
      · exact ⟨.failure _, congrArg (fun e => [e]) hsend, .http h, .http hs⟩
      · cases h with
        | nil =>
          have hx : Connection.exhausted.Alike Connection.exhausted := .fault _
          obtain ⟨ho, he⟩ := Connection.receive_alike (c := c) hq hx (.fault _ _)
          exact ⟨ho, congrArg₂ List.cons hsend he, .http .nil, .http .nil⟩
        | cons hr hrs =>
          cases hs with
          | cons hs hss =>
            obtain ⟨ho, he⟩ := Connection.receive_alike (c := c) hq hr hs
            exact ⟨ho, congrArg₂ List.cons hsend he, .http hrs, .http hss⟩

end Transport

end InvocationClient
