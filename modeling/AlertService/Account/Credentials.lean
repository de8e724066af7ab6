import AlertService.Json.Record

/-!
# Credentials

The name and the password that a user signs up or logs in with.
-/

namespace AlertService

structure Credentials where
  name : String
  password : String
deriving DecidableEq

namespace Credentials

def shape : Json.Shape Credentials where
  name := "Credentials"
  fields := [.required "name" .string, .required "password" .string]
  closed := true
  build := fun (name, password, _) => ⟨name, password⟩

end Credentials

end AlertService
