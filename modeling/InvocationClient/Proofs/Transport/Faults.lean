import InvocationClient.Proofs.Number.Decimal
import InvocationClient.Proofs.Transport.Confidential
import Mathlib.Logic.Relation

/-! # Faults of an exchange

The kinds of failures of an HTTP exchange form a hierarchy. Timeouts are request errors too, and are
told apart from the others by being looked for first. Both become errors of the transport with the
URL of the request, whichever kind below them it is. All other kinds are left as they are.
-/

namespace InvocationClient.Http

namespace Nature

variable {kind ancestor : String} {kinds : List String}

/-- Kinds of failures, each with the kind right above it. -/
def hierarchy : List (String × String) := [
  ("RequestError", "HTTPError"), ("HTTPStatusError", "HTTPError"),
  ("TransportError", "RequestError"), ("DecodingError", "RequestError"),
  ("TooManyRedirects", "RequestError"),
  ("TimeoutException", "TransportError"), ("NetworkError", "TransportError"),
  ("ProtocolError", "TransportError"), ("ProxyError", "TransportError"),
  ("UnsupportedProtocol", "TransportError"),
  ("ConnectTimeout", "TimeoutException"), ("ReadTimeout", "TimeoutException"),
  ("WriteTimeout", "TimeoutException"), ("PoolTimeout", "TimeoutException"),
  ("ConnectError", "NetworkError"), ("ReadError", "NetworkError"), ("WriteError", "NetworkError"),
  ("CloseError", "NetworkError"),
  ("LocalProtocolError", "ProtocolError"), ("RemoteProtocolError", "ProtocolError")]

/-- A kind is the other one or lies below it. -/
def IsA (kind ancestor : String) : Prop :=
  Relation.ReflTransGen (fun kind above => (kind, above) ∈ hierarchy) kind ancestor

/-- What is found above a kind in some steps up. -/
def lineage : (steps : Nat) → String → List String
  | 0, kind => [kind]
  | steps + 1, kind =>
    kind :: (hierarchy.filter (·.1 = kind)).flatMap fun p => lineage steps p.2

theorem isA_of_mem_lineage {steps : Nat} (h : ancestor ∈ lineage steps kind) :
    IsA kind ancestor := by
  induction steps generalizing kind with
  | zero =>
    obtain rfl := List.mem_singleton.mp h
    exact .refl
  | succ steps ih =>
    rcases List.mem_cons.mp h with rfl | h
    · exact .refl
    · obtain ⟨⟨k, above⟩, hp, ha⟩ := List.mem_flatMap.mp h
      obtain ⟨hm, hk⟩ := List.mem_filter.mp hp
      obtain rfl : k = kind := of_decide_eq_true hk
      exact .head hm (ih ha)

/-- Whether some kinds all lead up to one of them, with no other kind right below any. -/
def isBranch (ancestor : String) (kinds : List String) : Bool :=
  kinds.contains ancestor && hierarchy.all (fun p => !kinds.contains p.2 || kinds.contains p.1) &&
    kinds.all fun kind => (lineage 3 kind).contains ancestor

theorem isA_iff_mem (h : isBranch ancestor kinds = true) : IsA kind ancestor ↔ kind ∈ kinds := by
  simp only [isBranch, Bool.and_eq_true, List.all_eq_true, Bool.or_eq_true,
    Bool.not_eq_true', List.contains_eq_mem, decide_eq_false_iff_not, decide_eq_true_eq] at h
  obtain ⟨⟨ha, hc⟩, hl⟩ := h
  constructor
  · intro hk
    induction hk using Relation.ReflTransGen.head_induction_on with
    | refl => exact ha
    | head hp _ ih => exact (hc _ hp).resolve_left (not_not.mpr ih)
  · intro hk
    exact isA_of_mem_lineage (hl kind hk)

theorem isA_timeout_iff : IsA kind "TimeoutException" ↔ kind ∈ timeouts :=
  isA_iff_mem (by decide +kernel)

theorem isA_request_iff : IsA kind "RequestError" ↔ kind ∈ timeouts ∨ kind ∈ requestErrors := by
  rw [← List.mem_append]
  exact isA_iff_mem (by decide +kernel)

theorem ofKind_cases (kind : String) :
    (ofKind kind = timeout ∧ IsA kind "TimeoutException") ∨
      (ofKind kind = request ∧ IsA kind "RequestError" ∧ ¬ IsA kind "TimeoutException") ∨
        (ofKind kind = other ∧ ¬ IsA kind "RequestError") := by
  rw [isA_timeout_iff, isA_request_iff, ← List.contains_iff_mem, ← List.contains_iff_mem, ofKind]
  by_cases ht : timeouts.contains kind = true
  · exact .inl ⟨if_pos ht, ht⟩
  by_cases hr : requestErrors.contains kind = true
  · exact .inr (.inl ⟨by rw [if_neg ht, if_pos hr], .inr hr, ht⟩)
  · exact .inr (.inr ⟨by rw [if_neg ht, if_neg hr], not_or.mpr ⟨ht, hr⟩⟩)

theorem isA_request_of_timeout (h : IsA kind "TimeoutException") : IsA kind "RequestError" :=
  isA_request_iff.mpr (.inl (isA_timeout_iff.mp h))

end Nature

open Nature (IsA)

section Translation

variable {method url : String} {timeout : Float} {thrown : Thrown} {e e' : ClientError}

/-- The error of the transport that stands for what was raised in an exchange with `url`. -/
inductive Translates (method url : String) (timeout : Float) (thrown : Thrown) :
    ClientError → Prop where
  | timeout {text : String} : IsA thrown.kind "TimeoutException" → Number.Shows timeout text →
      Translates method url timeout thrown
        ⟨.transport ("HTTP " ++ method ++ " " ++ url ++ " timed out after " ++ text ++ "s"),
          .text url⟩
  | request : IsA thrown.kind "RequestError" → ¬ IsA thrown.kind "TimeoutException" →
      Translates method url timeout thrown
        ⟨.transport ("Cannot reach " ++ url ++ ": " ++ thrown.text), .text url⟩

namespace Translates

theorem unique (h : Translates method url timeout thrown e)
    (h' : Translates method url timeout thrown e') : e = e' := by
  cases h with
  | timeout ht hs =>
    cases h' with
    | timeout _ hs' => rw [hs.unique hs']
    | request _ hn => exact absurd ht hn
  | request _ hn =>
    cases h' with
    | timeout ht _ => exact absurd ht hn
    | request => rfl

theorem isA_request (h : Translates method url timeout thrown e) :
    IsA thrown.kind "RequestError" := by
  cases h with
  | timeout ht _ => exact Nature.isA_request_of_timeout ht
  | request hr => exact hr

theorem problem (h : Translates method url timeout thrown e) :
    e.problem = .transport e.message := by
  cases h <;> rfl

theorem context (h : Translates method url timeout thrown e) : e.context = .text url := by
  cases h <;> rfl

end Translates

theorem translate_cases (method url : String) (timeout : Float) (thrown : Thrown) :
    (∃ e, Translates method url timeout thrown e ∧
        translate method url timeout thrown = .because e (.foreign thrown)) ∨
      (¬ IsA thrown.kind "RequestError" ∧
        translate method url timeout thrown = .foreign thrown) := by
  unfold translate
  rcases Nature.ofKind_cases thrown.kind with ⟨hk, ht⟩ | ⟨hk, hr, hn⟩ | ⟨hk, hn⟩
  · rw [hk]
    exact .inl ⟨_, .timeout ht (Number.shows_writeFloat timeout), rfl⟩
  · rw [hk]
    exact .inl ⟨_, .request hr hn, rfl⟩
  · rw [hk]
    exact .inr ⟨hn, rfl⟩

end Translation

namespace Connection

variable {c : Connection} {r : Request} {thrown : Thrown}

/-- The connection is open, and requests can be sent to the URL. -/
structure Takes (c : Connection) (url : String) : Prop where
  isOpen : c.isClosed = false
  sound : ∃ site, Url.check url = .ok site ∧ site.bind (siteFault? []) = none

theorem refusal?_of_takes (h : c.Takes (c.url r)) (hp : ∀ f ∈ r.headers, IsPlainName f.1) :
    c.refusal? r = none := by
  obtain ⟨site, hu, hs⟩ := h.sound
  have hc : c.url { r with headers := [] } = c.url r := rfl
  rw [refusal?_of_plain hp, refusal?, hc, hu]
  simp [hs, h.isOpen]

theorem outcome_of_fault (h : c.Takes (c.url r)) (hp : ∀ f ∈ r.headers, IsPlainName f.1)
    (hn : c.next = .fault thrown) :
    (c.execute r).outcome =
      .error (translate r.method (c.url r) (r.timeout.getD c.timeout) thrown) := by
  simp only [execute, refusal?_of_takes h hp, hn]
  rfl

end Connection

end InvocationClient.Http
