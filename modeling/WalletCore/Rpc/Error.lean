import WalletCore.Json.Printer
import WalletCore.Json.Record
import WalletCore.Permission.Error

/-! # Errors of remote calls

An error answers a dApp with a code, a message and perhaps data. The codes of the protocol and of
the providers have names; every other code is an error of a server.
-/
namespace WalletCore.Rpc

/-- The code of an error. -/
inductive ErrorCode where
  /-- The request is not JSON. -/
  | parseError
  /-- The request has the wrong shape. -/
  | invalidRequest
  /-- The method is unknown. -/
  | methodNotFound
  /-- The parameters are wrong. -/
  | invalidParams
  /-- Something failed inside. -/
  | internalError
  /-- The request cannot be admitted now. -/
  | resourceUnavailable
  /-- The user declined. -/
  | userRejectedRequest
  /-- The origin lacks a permission. -/
  | unauthorized
  /-- Any other code. -/
  | serverError (code : Int64)
deriving DecidableEq

namespace ErrorCode

/-- The number of a code. -/
def number : ErrorCode → Int64
  | .parseError => -32700
  | .invalidRequest => -32600
  | .methodNotFound => -32601
  | .invalidParams => -32602
  | .internalError => -32603
  | .resourceUnavailable => -32002
  | .userRejectedRequest => 4001
  | .unauthorized => 4100
  | .serverError code => code

/-- The code of a number. -/
def ofNumber (number : Int64) : ErrorCode :=
  if number = -32700 then .parseError
  else if number = -32600 then .invalidRequest
  else if number = -32601 then .methodNotFound
  else if number = -32602 then .invalidParams
  else if number = -32603 then .internalError
  else if number = -32002 then .resourceUnavailable
  else if number = 4001 then .userRejectedRequest
  else if number = 4100 then .unauthorized
  else .serverError number

/-- The message that goes with a code when there is no other. -/
def message : ErrorCode → String
  | .parseError => "Parse error"
  | .invalidRequest => "Invalid request"
  | .methodNotFound => "Method not found"
  | .invalidParams => "Invalid params"
  | .internalError => "Internal error"
  | .resourceUnavailable => "Resource unavailable"
  | .userRejectedRequest => "User rejected the request."
  | .unauthorized => "Unauthorized"
  | .serverError _ => "Server error"

/-- The name of a code. -/
def name : ErrorCode → String
  | .parseError => "ParseError"
  | .invalidRequest => "InvalidRequest"
  | .methodNotFound => "MethodNotFound"
  | .invalidParams => "InvalidParams"
  | .internalError => "InternalError"
  | .resourceUnavailable => "ResourceUnavailable"
  | .userRejectedRequest => "UserRejectedRequest"
  | .unauthorized => "Unauthorized"
  | .serverError code => "ServerError(" ++ toString code.toInt ++ ")"

end ErrorCode

/-- An error that is answered to a dApp. -/
structure Error where
  /-- The code. -/
  code : ErrorCode
  /-- The message. -/
  message : String
  /-- Further data. -/
  data : Option Json := none
deriving DecidableEq

namespace Error

/-- The error of a code with the code's own message. -/
def ofCode (code : ErrorCode) : Error := { code, message := code.message }

/-- The request is not JSON. -/
def parseError (message : String) : Error := { code := .parseError, message }

/-- The request has the wrong shape. -/
def invalidRequest (message : String) : Error := { code := .invalidRequest, message }

/-- The method is unknown. -/
def methodNotFound (method : String) : Error where
  code := .methodNotFound
  message := "The method \"" ++ method ++ "\" does not exist / is not available."

/-- The parameters are wrong. -/
def invalidParams (message : String) : Error := { code := .invalidParams, message }

/-- Something failed inside. -/
def internalError (message : String) : Error := { code := .internalError, message }

/-- The request cannot be admitted now. -/
def resourceUnavailable (message : String) : Error := { code := .resourceUnavailable, message }

/-- The user declined. -/
def userRejectedRequest : Error := .ofCode .userRejectedRequest

/-- The answer to a permission error: the parameters are wrong if a check refused them. -/
def ofPermissionError (cause : Permission.Error) : Error :=
  if cause.isValidation then invalidParams cause.message else internalError cause.message

/-- The text that shows an error. -/
def describe (error : Error) : String := error.code.message ++ ": " ++ error.message

/-- An error as JSON. Data that are missing are not written. -/
def toJson (error : Error) : Json :=
  .object <|
    [("code", .number (.ofInt64 error.code.number)), ("message", .string error.message)] ++
    error.data.elim [] fun data => [("data", data)]

/-- The fields of an error that were read. -/
structure Draft where
  /-- The code. -/
  code : Option ErrorCode := none
  /-- The message. -/
  message : Option String := none
  /-- Further data, or null for none. -/
  data : Option (Option Json) := none

/-- The fields of an error; the data may be missing. -/
def record : Record Draft Error where
  name := "RpcError"
  fields := [
    ⟨"code", true,
      Decoder.signed.map fun number draft => { draft with code := some (.ofNumber number) },
      fun draft => draft.code.isSome⟩,
    ⟨"message", true,
      Decoder.string.map fun message draft => { draft with message := some message },
      fun draft => draft.message.isSome⟩,
    ⟨"data", false,
      Decoder.any.optional.map fun data draft => { draft with data := some data },
      fun draft => draft.data.isSome⟩]
  blank := {}
  finish draft := do
    let code ← Record.require "code" draft.code
    let message ← Record.require "message" draft.message
    .ok ⟨code, message, draft.data.join⟩

/-- The decoder of errors. -/
def decoder : Decoder Error := record.decoder

end Error

end WalletCore.Rpc
