import Ingest.Url.Problem
/-!
# Why a request has no answer
-/

namespace Ingest.Http

/-- The causes for which a request is not sent or its answer cannot be read. -/
inductive Failure where
  /-- What should be the address of the request is not a URL. -/
  | notUrl (problem : Url.Problem)
  /-- No request can be sent to the address. -/
  | notSendable (url : String)
  /-- Nobody answers at the address. -/
  | unanswered (url : String)
  /-- The request is sent on from place to place. -/
  | redirectedTooOften (url : String)
  /-- The answer breaks off. -/
  | cutBody
  /-- Any other cause, in words. -/
  | described (text : String)
  deriving DecidableEq, Repr

def Failure.message : Failure → String
  | .notUrl problem => problem.message
  | .notSendable url => s!"builder error for url ({url})"
  | .unanswered url => s!"error sending request for url ({url})"
  | .redirectedTooOften url => s!"error following redirect for url ({url})"
  | .cutBody => "error decoding response body"
  | .described text => text

end Ingest.Http
