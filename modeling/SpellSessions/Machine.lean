/-
The machine: the service and the calls it is in the middle of.

The calls that a turn owes are made one after the other. While one of
them is running, the collaborator may enter the service again, and that
entry may owe calls of its own; so the calls in progress form a stack,
the innermost first. The machine moves when something enters it, at any
moment whatever is on the stack, and when the innermost call returns
with an answer. It makes no choice of its own: each move runs on until
the next call begins or a reply is due.

There is one stack, also where several threads call. A call that begins
while another one is in progress lies within that one and returns before
it, whichever threads make the two. Calls of two threads that overlap
without one lying within the other have no state here.

# One round of calls

A round takes its calls in order. What a call's return decides on is
appended at the end. Once a call of a connection has failed in a round,
the round skips its further requests for sessions on that connection.
-/
import SpellSessions.Service

namespace SpellSessions

/-- The calls of one turn, as far as they are still to be made. -/
structure Round where
  /-- The calls to make, the next one first. -/
  queue : List Call
  /-- The connections of which a call has failed in this round. -/
  failed : List Token
  /-- The last refusal of a connection in this round. -/
  refusal : Option ConnectRefusal
  manner : Manner
deriving DecidableEq, Repr

/-- A call in progress, and the round it belongs to. -/
structure Frame where
  call : Call
  round : Round
deriving DecidableEq, Repr

/-- A service in the middle of calls. -/
structure Machine where
  service : Service
  /-- The calls in progress, the innermost first. -/
  stack : List Frame

/-- What a move leads to: the machine, what was seen, and the reply that
became due, if one did. -/
structure Progress where
  machine : Machine
  events : List Event
  reply : Option Reply

/-- What a caller meets who enters. -/
inductive Reception where
  /-- The entry took its turn. -/
  | taken (progress : Progress)
  /-- The entry waits, and nothing happened. -/
  | parked

namespace Round

/-- The round of a turn that owes calls. -/
def start (calls : List Call) (manner : Manner) : Round :=
  ⟨calls, [], none, manner⟩

/-- Whether a call is skipped: it asks for a session on a connection
that has failed. -/
def skips (r : Round) (c : Call) : Bool :=
  c.isCreate && r.failed.contains c.token

/-- The next call that is not skipped, unless there is none. -/
def next? (r : Round) : Option Frame :=
  match r.queue.dropWhile r.skips with
  | [] => none
  | c :: rest => some ⟨c, { r with queue := rest }⟩

/-- The round with calls appended. -/
def append (r : Round) (calls : List Call) : Round :=
  { r with queue := r.queue ++ calls }

/-- The round with a connection that has failed. -/
def fail (r : Round) (t : Token) : Round :=
  { r with failed := t :: r.failed }

/-- The reply that is due at the end of a round. -/
def reply (r : Round) : Reply :=
  match r.manner, r.refusal with
  | .reported, some refusal => .refused (.connectRefused refusal)
  | _, _ => .done

/-- What is logged at the end of a round. -/
def closing (r : Round) : List Notice :=
  match r.manner, r.refusal with
  | .logged, some refusal => [.followUpFailed refusal]
  | _, _ => []

end Round

namespace Frame

/-- What the return of a call decides: the notices that come first, the
transition of the host, and the round that goes on. -/
def returned (f : Frame) (h : Host) : Answer → Decision × Round
  | .accepted =>
    match f.call with
    | .connect p t => (h.established p.id t, f.round)
    | _ => (h.stay [], f.round)
  | .declined reason =>
    match f.call with
    | .connect p t =>
      let refusal : ConnectRefusal := ⟨p.id, reason⟩
      ((h.stay [.connectRefused refusal]).andThen (·.forgetRefused p.id t),
        { f.round.fail t with refusal := some refusal })
    | .create id t _ _ _ =>
      ((h.stay [.handOverFailed id reason]).andThen (·.dropWork id t),
        f.round.fail t)
    | .notify id t _ _ listener _ =>
      ((h.stay [.ownerGone id listener]).andThen
        (·.ownerLost id t listener), f.round)
    | .disconnect _ _ => (h.stay [], f.round)

end Frame

namespace Machine

/-- The machine of a service, with no call in progress. -/
def idle (s : Service) : Machine :=
  ⟨s, []⟩

/-- A round goes on: its next call begins, or its reply is due. -/
def proceed (m : Machine) (r : Round) (events : List Event) : Progress :=
  match r.next? with
  | some f =>
    ⟨{ m with stack := f :: m.stack }, events ++ [.called f.call], none⟩
  | none =>
    ⟨m, events ++ r.closing.map .noticed, some r.reply⟩

/-- Something enters the service. -/
def enter (m : Machine) (around : Surroundings) (e : Entry) : Reception :=
  let turn := m.service.enter around e
  let after : Machine := { m with service := turn.service }
  match turn.verdict with
  | .replied r => .taken ⟨after, turn.events, some r⟩
  | .owes calls manner =>
    .taken (after.proceed (.start calls manner) turn.events)
  | .parked => .parked

/-- The innermost call returns. Without a call in progress there is
nothing to return from. -/
def answer (m : Machine) (a : Answer) : Option Progress :=
  match m.stack with
  | [] => none
  | f :: outer =>
    let (d, round) := f.returned m.service.host a
    let after : Machine := ⟨{ m.service with host := d.host }, outer⟩
    some (after.proceed (round.append d.calls)
      (d.notices.map .noticed))

end Machine

end SpellSessions
