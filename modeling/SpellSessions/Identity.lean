/-
The names by which the parts of the system know each other.

Provider ids and packages are text that comes from outside. Users,
callers and listeners are numbers that come from outside. Connection
tokens and request ids are numbers that the host gives out itself, in
ascending order and each one once.

The numbers given out are unbounded here, where the system counts them in
64 bits. The two agree until a counter wraps, so what is proved of tokens
and request ids is meant for runs with fewer than 2 ^ 64 connections and
fewer than 2 ^ 64 requests; a run with fewer than 2 ^ 64 entries is one
(`Journal.Reached.numbers_lt`).
-/
namespace SpellSessions

/-- The id of a provider: text, compared character by character. -/
abbrev ProviderId := String

/-- A user whose selection is stored and served. -/
structure UserId where
  number : UInt32
deriving DecidableEq, Repr

/-- Who is behind a call: the process and the user it runs as. -/
structure Caller where
  uid : UInt32
  user : UserId
deriving DecidableEq, Repr

/-- A session listener, as its owner numbers it. -/
structure ListenerId where
  number : UInt64
deriving DecidableEq, Repr

/-- One attempt to connect to a provider, by how many were made up to it. -/
structure Token where
  number : Nat
deriving DecidableEq, Repr

/-- One request for a session, by how many were made up to it. -/
structure RequestId where
  number : Nat
deriving DecidableEq, Repr

/-- A user in words. -/
def UserId.text (u : UserId) : String :=
  "user#" ++ toString u.number

/-- A listener in words. -/
def ListenerId.text (l : ListenerId) : String :=
  "listener#" ++ toString l.number

/-- A connection in words. -/
def Token.text (t : Token) : String :=
  "conn#" ++ toString t.number

end SpellSessions
