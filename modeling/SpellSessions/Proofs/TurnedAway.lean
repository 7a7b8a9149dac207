/-
Callers turned away: what a caller learns who may not use the service.

Every operation on behalf of a caller is a turn behind the same door
(`Operation.exists_forCaller`). Whoever is turned away there is told why,
and that depends on nothing but whether the caller is let in. Neither what is
known nor what is selected nor any group has a part in it, so two services
that turn a caller away answer alike.

# The second look

A caller who asks for a session may have to wait behind the door, and whose
turn it is may change in the meantime. What is left of the entry after the
wait looks at that once more, before it looks at anything else
(`Service.resumeSession`). An entry that does not wait sees the same host both
times; so whoever goes on after a wait does what an entry of that moment does
that is let in (`operate_eq_resumeSession`), and runs need no moves of their
own for those who waited.
-/
import SpellSessions.Proofs.Described

namespace SpellSessions

/-- The caller that an operation is for, unless it is for the system around
the service. -/
def Operation.caller? : Operation → Option Caller
  | .askProvider c _ => some c
  | .askSubtype c _ _ => some c
  | .beginSession _ r => some r.caller
  | .endSession c _ => some c
  | .askEnabled c => some c
  | .askProviders c => some c
  | .selectProvider c _ => some c
  | .selectSubtype c _ => some c
  | _ => none

namespace Service

variable {s : Service} {around : Surroundings} {c : Caller} {op : Operation}
  {turn : Turn} {x : Refusal}

-- ============================================================= the door

/-- Every operation for a caller passes the door first. -/
theorem exists_forCaller (s : Service) (around : Surroundings)
    (hop : op.caller? = some c) :
    ∃ turn, s.operate around op = s.forCaller around c turn := by
  cases op <;> cases hop <;> exact ⟨_, rfl⟩

theorem turnedAway?_of_denied (h : around.allows c = false) :
    s.turnedAway? around c = some (.accessDenied c.uid) := by
  unfold turnedAway?
  rw [h]
  rfl

theorem turnedAway?_of_unserved (hallows : around.allows c = true)
    (hunserved : s.host.isServing c.user = false) :
    s.turnedAway? around c = some .inactive := by
  unfold turnedAway?
  rw [hallows, hunserved]
  rfl

/-- An admitted caller of the user being served is not turned away. -/
theorem turnedAway?_of_served (hallows : around.allows c = true)
    (hserving : s.host.isServing c.user = true) :
    s.turnedAway? around c = none := by
  unfold turnedAway?
  rw [hallows, hserving]
  rfl

theorem forCaller_of_served (hallows : around.allows c = true)
    (hserving : s.host.isServing c.user = true) :
    s.forCaller around c turn = turn := by
  unfold forCaller
  rw [turnedAway?_of_served hallows hserving]

/-- Whoever is turned away gets the reason, whatever the turn would have
been. -/
theorem operate_of_turnedAway (hop : op.caller? = some c)
    (haway : s.turnedAway? around c = some x) :
    s.operate around op = s.answer (.refused x) := by
  obtain ⟨turn, hturn⟩ := s.exists_forCaller around hop
  rw [hturn]
  unfold forCaller
  rw [haway]

-- ======================================================== the second look

/-- Whoever goes on after a wait, and whose user's turn has ended, is told
so. -/
theorem resumeSession_of_unserved {id : ProviderId} {r : Request}
    (hsettled : s.host.isConnecting id = false)
    (hunserved : s.host.isServing r.caller.user = false) :
    s.resumeSession id r = s.answer (.refused .inactive) := by
  unfold resumeSession
  rw [hsettled, hunserved]
  rfl

/-- When the wait is over, what is left of an entry that asks for a session is
all of an entry that is let in at that moment. -/
theorem operate_eq_resumeSession {id : ProviderId} {r : Request}
    (hallows : around.allows r.caller = true) (hid : id.isEmpty = false)
    (hsettled : s.host.isConnecting id = false) :
    s.operate around (.beginSession id r) = s.resumeSession id r := by
  cases hserving : s.host.isServing r.caller.user with
  | true =>
      have hadmitted : s.operate around (.beginSession id r)
          = s.beginSession id r := forCaller_of_served hallows hserving
      rw [hadmitted]
      unfold beginSession
      rw [hid, if_neg Bool.false_ne_true]
  | false =>
      rw [resumeSession_of_unserved hsettled hserving]
      exact operate_of_turnedAway rfl
        (turnedAway?_of_unserved hallows hserving)

end Service

-- ============================================================== two services

/-- An operation is refused, and nothing else comes of it: the machine stays
as it is, and nobody sees anything. -/
def Machine.Refuses (m : Machine) (around : Surroundings) (op : Operation)
    (x : Refusal) : Prop :=
  m.enter around (.operation op) = .taken ⟨m, [], some (.refused x)⟩

namespace Machine

variable {m : Machine} {around : Surroundings} {c : Caller} {op : Operation}
  {x : Refusal}

theorem refuses_of_turnedAway (hop : op.caller? = some c)
    (haway : m.service.turnedAway? around c = some x) :
    m.Refuses around op x :=
  enter_operation (Service.operate_of_turnedAway hop haway)

/-- Whatever two services know, serve and have stored, and whatever calls they
are in the middle of: a caller whom neither lets in, and a caller whom both
let in while neither serves the caller's user, are refused alike by both of
them, every operation and whatever it asks for, and change nothing. So is a
caller who has waited for a session while the user's turn ended. -/
theorem turned_away_alike (m m' : Machine) (around around' : Surroundings) :
    (∀ op c, op.caller? = some c →
        (around.allows c = false → around'.allows c = false →
            m.Refuses around op (.accessDenied c.uid)
              ∧ m'.Refuses around' op (.accessDenied c.uid))
          ∧ (around.allows c = true → around'.allows c = true →
              m.service.host.isServing c.user = false →
              m'.service.host.isServing c.user = false →
                m.Refuses around op .inactive
                  ∧ m'.Refuses around' op .inactive))
      ∧ ∀ id r,
          m.service.host.isConnecting id = false →
          m'.service.host.isConnecting id = false →
          m.service.host.isServing r.caller.user = false →
          m'.service.host.isServing r.caller.user = false →
            m.service.resumeSession id r
                = m.service.answer (.refused .inactive)
              ∧ m'.service.resumeSession id r
                = m'.service.answer (.refused .inactive) := by
  constructor
  · intro op c hop
    constructor
    · intro hdenied hdenied'
      constructor
      · exact refuses_of_turnedAway hop
          (Service.turnedAway?_of_denied hdenied)
      · exact refuses_of_turnedAway hop
          (Service.turnedAway?_of_denied hdenied')
    · intro hallows hallows' hunserved hunserved'
      constructor
      · exact refuses_of_turnedAway hop
          (Service.turnedAway?_of_unserved hallows hunserved)
      · exact refuses_of_turnedAway hop
          (Service.turnedAway?_of_unserved hallows' hunserved')
  · intro id r hsettled hsettled' hunserved hunserved'
    exact ⟨Service.resumeSession_of_unserved hsettled hunserved,
      Service.resumeSession_of_unserved hsettled' hunserved'⟩

end Machine

/-- A request on behalf of a user who is not served. -/
def Sample.stranger : Request :=
  ⟨⟨0, ⟨1⟩⟩, none, ⟨0⟩, ⟨7⟩, .empty⟩

/-- Before anybody is served, and while a user is served with a provider that
is being connected, a caller of another user who asks for a session with the
provider is refused alike. -/
theorem Journal.stranger_refused_alike :
    ∃ j k : Journal, j.host.registry.contains "p" = false
      ∧ Sample.start.after? Sample.opening = some k
      ∧ k.host.registry.contains "p" = true
      ∧ k.host.isConnecting "p" = true
      ∧ j.machine.Refuses (Sample.around [])
          (.beginSession "p" Sample.stranger) .inactive
      ∧ k.machine.Refuses (Sample.around [])
          (.beginSession "p" Sample.stranger) .inactive := by
  obtain ⟨k, hk, hend⟩ := (Option.any_eq_true
    (fun k : Journal =>
      k.host.registry.contains "p" && k.host.isConnecting "p"
        && decide (k.host.isServing Sample.stranger.caller.user = false)) _).mp
    (show (Sample.start.after? Sample.opening).any _ = true from rfl)
  simp only [Bool.and_eq_true, decide_eq_true_eq] at hend
  obtain ⟨⟨hknown, hconnecting⟩, hunserved⟩ := hend
  obtain ⟨hstart, hwaiting⟩ :=
    ((Sample.start.machine.turned_away_alike k.machine (Sample.around [])
      (Sample.around [])).1 (.beginSession "p" Sample.stranger) _ rfl).2
      rfl rfl rfl hunserved
  exact ⟨Sample.start, k, rfl, hk, hknown, hconnecting, hstart, hwaiting⟩

end SpellSessions
