import InvocationClient.Proofs.Client.Settlement
import InvocationClient.Proofs.Transport.Conveyance

/-! # Agreement of transports

A poll comes to the same over HTTP as over an injected transport that answers with the response as
it was given: to one invocation, or to one failure.
-/

namespace InvocationClient.Client

open Http (Answer Brings Connection wire)
open Metadata (lastValue?)

variable {c : Client} {a a' : Response}

/-- Of the header fields of an answer only the last values have a part in what a poll comes to. -/
theorem poll_result_congr (hs : a.status = a'.status) (hb : a.body = a'.body)
    (hl : ∀ f, lastValue? f a.headers = lastValue? f a'.headers) :
    (c.poll.settle (.ok a)).result = (c.poll.settle (.ok a')).result := by
  by_cases h : a.status = okStatus
  · rw [poll_result_of_answer h, poll_result_of_answer (hs ▸ h), hb]
    exact Metadata.extract_congr hl _
  · rw [poll_result_of_refusal h, poll_result_of_refusal (hs ▸ h), hs]

/-- Over HTTP an answer counts as the response that it stands for. The connection may have been
used before, and fields may have been added to the answer. -/
theorem poll_agrees_over_http (c : Client) (registry registry' : Registry) {connection : Connection}
    {answer : Answer} {response : Response} (hg : connection.Gives c.poll.request answer)
    (hc : answer.Conveys response) (replies : List Outcome) :
    (c.carryOut registry (.http connection) c.poll).result =
      (c.carryOut registry' (.injected (.ok response :: replies)) c.poll).result := by
  have ho : ((Transport.http connection).execute c.poll.request).outcome =
      .ok ⟨answer.status, Http.decodeFields answer.headers, answer.body⟩ :=
    Connection.outcome_of_gives hg
  rw [carryOut_result, carryOut_result, ho]
  exact poll_result_congr hc.status hc.body (Http.lastValue?_decodeFields hc.headers)

section Samples

/-- A name that occurs twice, in different cases, before the function. -/
def repeated : Response where
  status := okStatus
  headers := [
    ("Lambda-Runtime-Aws-Request-Id", "1"), ("LAMBDA-RUNTIME-AWS-REQUEST-ID", "2"),
    ("lambda-runtime-invoked-function-arn", "f")]

/-- The response on the wire, with its length put before the function. -/
def lengthened : Answer where
  status := okStatus
  headers := [
    (wire "Lambda-Runtime-Aws-Request-Id", wire "1"),
    (wire "LAMBDA-RUNTIME-AWS-REQUEST-ID", wire "2"), (wire "Content-Length", wire "0"),
    (wire "lambda-runtime-invoked-function-arn", wire "f")]

theorem lengthened_conveys : lengthened.Conveys repeated where
  status := rfl
  headers := .given (by decide) (by decide) (.given (by decide) (by decide)
    (.added (Http.isAscii_wire (by decide)) (by decide +kernel)
      (.given (by decide) (by decide) .nil)))
  body := rfl

theorem poll_agrees_over_http_repeated :
    (Connection.ofUrl sample.baseUrl 30.0 true [.answer lengthened]).Gives sample.poll.request
        lengthened ∧
      (sample.carryOut {} (sample.connect [.answer lengthened]) sample.poll).result =
        (sample.carryOut {} (.injected [.ok repeated]) sample.poll).result := by
  have hg : (Connection.ofUrl sample.baseUrl 30.0 true [.answer lengthened]).Gives
      sample.poll.request lengthened := ⟨rfl, _, rfl⟩
  exact ⟨hg, poll_agrees_over_http sample {} {} hg lengthened_conveys []⟩

end Samples

end InvocationClient.Client
