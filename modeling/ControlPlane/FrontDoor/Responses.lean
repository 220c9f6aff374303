import ControlPlane.Library.JsonText

/-! What a request is answered. -/

namespace ControlPlane.FrontDoor

open ControlPlane.Library

structure JsonResponse where
  status : Nat
  body : Option Json

def json (fields : List (String × Json)) (status : Nat := 200) : JsonResponse where
  status := status
  body := some (.object fields)

def err (error : String) (status : Nat) (extra : List (String × Json) := []) : JsonResponse :=
  json (("error", .str error) :: extra) status

/-- What a request is answered that throws. -/
def internalError : JsonResponse :=
  err "internal_error" 500

def nullable (text : Option String) : Json :=
  text.elim .null .str

end ControlPlane.FrontDoor
