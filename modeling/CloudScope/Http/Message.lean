import CloudScope.Http.Headers

/-!
# Requests and responses
-/

namespace CloudScope

structure Request where
  method : String
  url : String
  headers : Headers := ∅
deriving DecidableEq, Repr

def Request.text (r : Request) : String :=
  r.method ++ " " ++ r.url

/-- The request with the entries of other headers put into its own, one after the other. -/
def Request.withHeaders (r : Request) (h : Headers) : Request :=
  { r with headers := r.headers.insertAll h.toList }

structure Response where
  status : Nat
  url : String
  headers : Headers := ∅
  body : String := ""
deriving DecidableEq, Repr

/-- Whether the status says that the request succeeded. -/
def Response.isSuccess (r : Response) : Bool :=
  200 ≤ r.status && r.status < 300

end CloudScope
