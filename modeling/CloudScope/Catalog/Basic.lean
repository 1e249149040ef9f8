/-!
# Service catalogs

A catalog lists the services of all clouds with their addresses. Look-ups give the first service
in the order of the list.
-/

namespace CloudScope

/-- One service of one cloud, at one interface. -/
structure Service where
  serviceType : String
  cloud : String
  url : String
  interface : Option String := none
deriving DecidableEq, Repr

/-- The service type whose requests carry identity headers. -/
def identityType : String := "identity"

/-- The interface at which tokens are checked. -/
def adminInterface : String := "admin"

/-- How a message speaks of a service. -/
def Service.text (s : Service) : String :=
  match s.interface with
  | some interface => s.serviceType ++ "@" ++ s.cloud ++ " (" ++ interface ++ ") " ++ s.url
  | none => s.serviceType ++ "@" ++ s.cloud ++ " " ++ s.url

/-- What a service has to be to be found. -/
structure Query where
  serviceType : String
  cloud : String
  interface : Option String
deriving DecidableEq, Repr

namespace Query

/-- How a message speaks of a query. -/
def text (q : Query) : String :=
  match q.interface with
  | some interface => q.serviceType ++ "@" ++ q.cloud ++ " (" ++ interface ++ ")"
  | none => q.serviceType ++ "@" ++ q.cloud

/-- The query for what `s` is, in another cloud. -/
def siblingOf (s : Service) (cloud : String) : Query :=
  ⟨s.serviceType, cloud, s.interface⟩

/-- Whether a service is what the query asks for. -/
def Matches (q : Query) (s : Service) : Prop :=
  s.interface = q.interface ∧ s.serviceType = q.serviceType ∧ s.cloud = q.cloud

instance (q : Query) (s : Service) : Decidable (q.Matches s) :=
  inferInstanceAs (Decidable (_ ∧ _ ∧ _))

end Query

inductive Sought where
  /-- No service answers the query. -/
  | query (q : Query)
  /-- No service has a wanted property. -/
  | property
  /-- A reason given by a caller. -/
  | stated (reason : String)
deriving DecidableEq, Repr

/-- How a message speaks of what was sought. -/
def Sought.message : Sought → String
  | .query q => q.text
  | .property => "no service satisfies the lookup predicate"
  | .stated reason => reason

structure Catalog where
  services : List Service := []
deriving DecidableEq, Repr

namespace Catalog

def lookup (c : Catalog) (p : Service → Bool) : Except Sought Service :=
  match c.services.find? p with
  | some s => .ok s
  | none => .error .property

/-- The first service that answers a query. -/
def find? (c : Catalog) (q : Query) : Option Service :=
  c.services.find? fun s => q.Matches s

/-- The first service that answers a query. -/
def find (c : Catalog) (q : Query) : Except Sought Service :=
  match c.find? q with
  | some s => .ok s
  | none => .error (.query q)

/-- The first service whose address is at the front of `url`, and what follows it there. -/
def matchUrl? (c : Catalog) (url : String) : Option (Service × List Char) :=
  c.services.findSome? fun s =>
    (s.url.toList.isPrefixOf? url.toList).map fun rest => (s, rest)

end Catalog

end CloudScope
