/-
Sessions: what a caller asks for, and the handles that stand for what
lives outside the host.

Endpoints, owners and sessions are opaque to the host. It passes them on
and compares nothing about them; a handle here is the name under which
the environment knows the thing.
-/
import SpellSessions.Identity

namespace SpellSessions

/-- Where a connected provider takes requests for sessions. -/
structure Endpoint where
  name : String
deriving DecidableEq, Repr

/-- A session that a provider has made. -/
structure Session where
  label : String
deriving DecidableEq, Repr

/-- Who is to be told once a requested session is ready. -/
structure Owner where
  number : Nat
deriving DecidableEq, Repr

/-- Texts that a caller passes on to the provider, by name. They are
kept in ascending order of their names, each name once. -/
structure Extras where
  entries : List (String × String)
deriving DecidableEq, Repr

namespace Extras

/-- No texts. -/
def empty : Extras := ⟨[]⟩

/-- Entries with one more, in its place; it replaces an entry of the same
name. -/
def insertEntry (name text : String) :
    List (String × String) → List (String × String)
  | [] => [(name, text)]
  | entry :: rest =>
    if name = entry.1 then (name, text) :: rest
    else if name < entry.1 then (name, text) :: entry :: rest
    else entry :: insertEntry name text rest

/-- The texts with one more. -/
def insert (e : Extras) (name text : String) : Extras :=
  ⟨insertEntry name text e.entries⟩

/-- The texts of a list, of which a later one replaces an earlier one of
the same name. -/
def ofList (named : List (String × String)) : Extras :=
  named.foldl (fun e (name, text) => e.insert name text) empty

end Extras

/-- A request for a session. -/
structure Request where
  caller : Caller
  /-- The locale that the caller suggests to the provider. -/
  locale : Option String
  /-- Who is told when the session is ready. -/
  owner : Owner
  /-- Who receives the provider's findings; registered while the session
  lives. -/
  listener : ListenerId
  extras : Extras
deriving DecidableEq, Repr

/-- A request that the host has accepted, under the id it gave it. -/
structure NumberedRequest where
  id : RequestId
  request : Request
deriving DecidableEq, Repr

/-- What a provider is told about a request. -/
structure Brief where
  locale : Option String
  listener : ListenerId
  extras : Extras
deriving DecidableEq, Repr

/-- What the provider is told about the request. -/
def Request.brief (r : Request) : Brief :=
  ⟨r.locale, r.listener, r.extras⟩

end SpellSessions
