import PyJwt.Correctness.IssuedClaims
import PyJwt.Correctness.RawSignatures
import PyJwt.Correctness.TokenErrors

/-! Which errors leave the encoding of a token, for a key of any kind. Nothing is caught on this
way, so an error that is not the library's own is the caller's to handle.
-/

namespace PyJwt

open Foundations
open Python

variable {env : Env}

-----------------------------------------------------------------------------------------
-- Preparing any key
-----------------------------------------------------------------------------------------

namespace PyJWS

variable {jws : PyJWS} {payload : Bytes} {key : KeyArg} {algorithm : AlgorithmArg}
  {headers : Option (Dict Json)} {isPayloadDetached sortHeaders : Bool}

end PyJWS

-----------------------------------------------------------------------------------------
-- Encoding claims
-----------------------------------------------------------------------------------------

namespace PyJWT

end PyJWT

variable {self : PyJWT} {heap : PyJWT.DictHeap} {payload : Option Nat} {key : KeyArg}
  {algorithm : AlgorithmArg} {headers : Option (Dict Json)} {sortHeaders : Bool}

end PyJwt
