import AppCatalog.Failure

/-!
# Status of failures

Every failure of the catalog's own has a status among the answers of the web service; a breakdown is
an error of the server.
-/

namespace AppCatalog

def Failure.status : Failure → Nat
  | notRegistered _ _ => 404
  | alreadyRegistered _ => 409
  | invalidUri _ _ | invalidEntry _ _ | importSource _ | resource _ => 400
  | unresolved _ _ => 502
  | general _ | breakdown _ => 500

end AppCatalog
