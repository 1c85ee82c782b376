import InvocationClient.Invocation.Metadata
import InvocationClient.Log.Message

/-! # Exchanges

An operation of the runtime API is one request together with what its outcome means.
-/

namespace InvocationClient

structure Request where
  method : String
  path : String
  headers : Fields := []
  body : Option ByteArray := none
  /-- In seconds. -/
  timeout : Option Float := none

structure Response where
  status : Int
  headers : Fields := []
  body : ByteArray := .empty

abbrev Outcome := Except Failure Response

structure Settled (α : Type) where
  result : Except Failure α
  entries : List Entry := []

structure Exchange (α : Type) where
  request : Request
  /-- Logged before the request is made. -/
  before : List Entry := []
  settle : Outcome → Settled α

end InvocationClient
