/-!
What calls throw: the errors of libraries, and the exceptions that become responses.
-/

namespace IdpSaas

/-- What a rejected call throws; `message` is absent when it is not an `Error`. -/
structure JsError where
  message : Option String
  deriving DecidableEq, Repr

inductive HttpError
  | badRequest (message : String)
  | unauthorized (message : String)
  | notFound (message : String)
  | conflict (message : String)
  | internal (err : JsError)
  deriving DecidableEq, Repr

end IdpSaas
