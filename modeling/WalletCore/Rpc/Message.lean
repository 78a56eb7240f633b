import WalletCore.Rpc.Error

/-! # Requests and responses

A request names a method and the origin that it comes from; a response answers it under the same
id with a result or an error.
-/
namespace WalletCore.Rpc

/-- The id of a request. -/
inductive Id where
  /-- A number. -/
  | number (value : UInt64)
  /-- A string. -/
  | string (value : String)
  /-- No id. -/
  | null
deriving DecidableEq

namespace Id

/-- An id as JSON. -/
def toJson : Id → Json
  | .number value => .number (.ofUInt64 value)
  | .string value => .string value
  | .null => .null

/-- The id that a JSON value stands for. -/
def ofJson? : Json → Option Id
  | .number (.integer value _) =>
    if 0 ≤ value then some (.number (UInt64.ofNat value.toNat)) else none
  | .string value => some (.string value)
  | .null => some .null
  | _ => none

/-- The id of a JSON value, which is read whole before its form is looked at. -/
def decoder : Decoder Id where
  ofJson value := (ofJson? value).elim (.error (.noMatchingForm "Id")) .ok
  read allowance text := do
    let (value, rest) ← Decoder.any.read allowance text
    .ok (← (ofJson? value).elim (.error (.noMatchingForm "Id")) .ok, rest)

end Id

/-- The version of the protocol. -/
def protocolVersion : String := "2.0"

/-- A request of a dApp. -/
structure Request where
  /-- The version of the protocol. -/
  version : String := protocolVersion
  /-- The id. -/
  id : Id
  /-- The name of the method. -/
  method : String
  /-- The parameters. -/
  params : Option Json := none
  /-- The origin that the request comes from. -/
  origin : String
deriving DecidableEq

namespace Request

/-- A request as JSON. Parameters that are missing are not written. -/
def toJson (request : Request) : Json :=
  .object <|
    [("jsonrpc", .string request.version), ("id", request.id.toJson),
      ("method", .string request.method)] ++
    (request.params.elim [] fun params => [("params", params)]) ++
    [("origin", .string request.origin)]

/-- The fields of a request that were read. -/
structure Draft where
  /-- The version of the protocol. -/
  version : Option String := none
  /-- The id. -/
  id : Option Id := none
  /-- The name of the method. -/
  method : Option String := none
  /-- The parameters, or null for none. -/
  params : Option (Option Json) := none
  /-- The origin. -/
  origin : Option String := none

/-- The fields of a request; the parameters may be missing. -/
def record : Record Draft Request where
  name := "Request"
  fields := [
    ⟨"jsonrpc", true,
      Decoder.string.map fun version draft => { draft with version := some version },
      fun draft => draft.version.isSome⟩,
    ⟨"id", true, Id.decoder.map fun id draft => { draft with id := some id },
      fun draft => draft.id.isSome⟩,
    ⟨"method", true,
      Decoder.string.map fun method draft => { draft with method := some method },
      fun draft => draft.method.isSome⟩,
    ⟨"params", false,
      Decoder.any.optional.map fun params draft => { draft with params := some params },
      fun draft => draft.params.isSome⟩,
    ⟨"origin", true,
      Decoder.string.map fun origin draft => { draft with origin := some origin },
      fun draft => draft.origin.isSome⟩]
  blank := {}
  finish draft := do
    let version ← Record.require "jsonrpc" draft.version
    let id ← Record.require "id" draft.id
    let method ← Record.require "method" draft.method
    let origin ← Record.require "origin" draft.origin
    .ok ⟨version, id, method, draft.params.join, origin⟩

/-- The decoder of requests. -/
def decoder : Decoder Request := record.decoder

end Request

/-- The answer to a request. -/
structure Response where
  /-- The version of the protocol. -/
  version : String := protocolVersion
  /-- The id of the request. -/
  id : Id
  /-- The result of a success. -/
  result : Option Json := none
  /-- The error of a failure. -/
  error : Option Error := none
deriving DecidableEq

namespace Response

/-- The answer with a result. -/
def success (id : Id) (result : Json) : Response := { id, result := some result }

/-- The answer with an error. -/
def failure (id : Id) (error : Error) : Response := { id, error := some error }

/-- The answer with the outcome of a handler. -/
def ofOutcome (id : Id) : Except Error Json → Response
  | .ok result => success id result
  | .error error => failure id error

/-- Whether a response carries an error. -/
def isError (response : Response) : Bool := response.error.isSome

/-- A response as JSON. A result or an error that is missing is not written. -/
def toJson (response : Response) : Json :=
  .object <|
    [("jsonrpc", .string response.version), ("id", response.id.toJson)] ++
    (response.result.elim [] fun result => [("result", result)]) ++
    (response.error.elim [] fun error => [("error", error.toJson)])

/-- The fields of a response that were read. -/
structure Draft where
  /-- The version of the protocol. -/
  version : Option String := none
  /-- The id. -/
  id : Option Id := none
  /-- The result, or null for none. -/
  result : Option (Option Json) := none
  /-- The error, or null for none. -/
  error : Option (Option Error) := none

/-- The fields of a response; the result and the error may be missing. -/
def record : Record Draft Response where
  name := "Response"
  fields := [
    ⟨"jsonrpc", true,
      Decoder.string.map fun version draft => { draft with version := some version },
      fun draft => draft.version.isSome⟩,
    ⟨"id", true, Id.decoder.map fun id draft => { draft with id := some id },
      fun draft => draft.id.isSome⟩,
    ⟨"result", false,
      Decoder.any.optional.map fun result draft => { draft with result := some result },
      fun draft => draft.result.isSome⟩,
    ⟨"error", false,
      Error.decoder.optional.map fun error draft => { draft with error := some error },
      fun draft => draft.error.isSome⟩]
  blank := {}
  finish draft := do
    let version ← Record.require "jsonrpc" draft.version
    let id ← Record.require "id" draft.id
    .ok ⟨version, id, draft.result.join, draft.error.join⟩

/-- The decoder of responses. -/
def decoder : Decoder Response := record.decoder

end Response

end WalletCore.Rpc
