/-
Rounds: the calls that a turn owes are worked off, and they run out.

A round takes the first call of its queue. It skips the call, or makes it and
waits for its return, which may append calls. `Round.work` is this loop, in a
world that says what each return finds: any host, since whoever is called may
turn to the service meanwhile, and any answer.

The queue does not get shorter with every call, but it gets lighter: what is
appended weighs less than the call that returned (`Machine/Weight.lean`). That
is why the loop is a function at all, and it bounds the calls it deals with.

# The machine

The machine has no loop; it moves when something enters or a call returns, and
the calls of other rounds come and go above those of this one
(`Journal.attend?`). The returns of a round in a run are those of its loop in
some world (`Journal.Attends.work`), and the round is over when no call is left
in the loop.
-/
import SpellSessions.Proofs.Unwinding

namespace SpellSessions

-- ============================================================ what is done

/-- How a call comes back: the host that its return finds, and the answer. -/
structure Return where
  host : Host
  answer : Answer

/-- What a round did with a call. -/
inductive Deed where
  /-- It was skipped. -/
  | skipped (c : Call)
  /-- It was made, with the rest of the round behind it, and came back. -/
  | made (f : Frame) (back : Return)

namespace Deed

/-- The call that was dealt with. -/
def call : Deed → Call
  | skipped c => c
  | made f _ => f.call

/-- Whether the call was skipped. -/
def isSkipped : Deed → Bool
  | skipped _ => true
  | made _ _ => false

/-- The call that was made and how it came back. -/
def return? : Deed → Option (Frame × Return)
  | skipped _ => none
  | made f back => some (f, back)

/-- The calls that were appended to the round. -/
def followUps : Deed → List Call
  | skipped _ => []
  | made f back => (f.returned back.host back.answer).1.calls

/-- Whether a connection failed: it was refused, or a request did not reach
its provider. -/
def fails (t : Token) : Deed → Bool
  | made ⟨.connect _ t', _⟩ ⟨_, .declined _⟩ => t == t'
  | made ⟨.create _ t' _ _ _, _⟩ ⟨_, .declined _⟩ => t == t'
  | _ => false

end Deed

/-- The round that goes on after a return. -/
def Frame.resumed (f : Frame) (back : Return) : Round :=
  (f.returned back.host back.answer).2.append
    (f.returned back.host back.answer).1.calls

theorem Frame.queue_resumed (f : Frame) (back : Return) :
    (f.resumed back).queue
      = f.round.queue ++ (f.returned back.host back.answer).1.calls := by
  rw [← f.queue_returned back.host back.answer]
  rfl

/-- A round with its return is lighter than the call and what was behind
it. -/
theorem Frame.weight_resumed (f : Frame) (back : Return) :
    callsWeight (f.resumed back).queue < f.weight := by
  have hlt := f.weight_returned back.host back.answer
  rw [queue_resumed, callsWeight_append]
  unfold weight
  omega

-- ================================================================ the loop

namespace Round

/-- What a round does with its calls, in a world that says how each of those
that are made comes back. -/
def work (r : Round) (world : Nat → Return) : List Deed :=
  match hqueue : r.queue with
  | [] => []
  | c :: rest =>
    let f : Frame := ⟨c, { r with queue := rest }⟩
    if r.skips c then .skipped c :: f.round.work world
    else .made f (world 0) :: (f.resumed (world 0)).work fun n => world (n + 1)
termination_by callsWeight r.queue
decreasing_by
  · rw [hqueue]
    exact Nat.lt_add_of_pos_left c.weight_pos
  · rw [hqueue]
    exact f.weight_resumed (world 0)

variable {r : Round} {world : Nat → Return}

/-- A round deals with no more calls than the calls in its queue weigh. -/
theorem length_work (r : Round) (world : Nat → Return) :
    (r.work world).length ≤ callsWeight r.queue := by
  fun_induction work r world with
  | case1 r world hqueue => exact Nat.zero_le _
  | case2 r world c rest hqueue f hskips ih =>
      have hpos := c.weight_pos
      have hrest : (f.round.work world).length ≤ callsWeight rest := ih
      rw [hqueue, callsWeight_cons, List.length_cons]
      omega
  | case3 r world c rest hqueue f hskips ih =>
      have hlt := f.weight_resumed (world 0)
      have hweight : f.weight = c.weight + callsWeight rest := rfl
      rw [hqueue, callsWeight_cons, List.length_cons]
      omega

/-- The calls that a round deals with are those in its queue and then those
that are appended. -/
theorem calls_work (r : Round) (world : Nat → Return) :
    (r.work world).map Deed.call
      = r.queue ++ (r.work world).flatMap Deed.followUps := by
  fun_induction work r world with
  | case1 r world hqueue =>
      rw [hqueue]
      rfl
  | case2 r world c rest hqueue f hskips ih =>
      rw [List.map_cons, ih, hqueue]
      rfl
  | case3 r world c rest hqueue f hskips ih =>
      rw [List.map_cons, ih, hqueue, f.queue_resumed, List.flatMap_cons,
        List.append_assoc]
      rfl

/-- The connections that have failed in a round, after one more return. -/
theorem failed_resumed (f : Frame) (back : Return) (t : Token) :
    (f.resumed back).failed.contains t
      = ((Deed.made f back).fails t || f.round.failed.contains t) := by
  obtain ⟨c, r⟩ := f
  obtain ⟨h, a⟩ := back
  cases a with
  | accepted => cases c <;> rfl
  | declined reason =>
      cases c with
      | connect p t' => exact List.contains_cons
      | create id t' e q b => exact List.contains_cons
      | notify id t' q o l s => rfl
      | disconnect id t' => rfl

/-- A call is skipped if it asks for a session on a connection that has failed
in the round, and only then. -/
theorem isSkipped_of_work (r : Round) (world : Nat → Return)
    (before : List Deed) {after : List Deed} {d : Deed} :
    r.work world = before ++ d :: after →
      d.isSkipped = (d.call.isCreate
        && (before.any (·.fails d.call.token)
          || r.failed.contains d.call.token)) := by
  fun_induction work r world generalizing before with
  | case1 r world hqueue => simp
  | case2 r world c rest hqueue f hskips ih =>
      intro h
      cases before with
      | nil =>
          cases h
          exact hskips.symm
      | cons e before =>
          obtain ⟨rfl, hrest⟩ := List.cons.inj h
          exact ih before hrest
  | case3 r world c rest hqueue f hskips ih =>
      intro h
      cases before with
      | nil =>
          cases h
          exact (Bool.eq_false_iff.mpr hskips).symm
      | cons e before =>
          obtain ⟨rfl, hrest⟩ := List.cons.inj h
          rw [ih before hrest, failed_resumed, ← Bool.or_assoc,
            List.any_cons, Bool.or_comm (before.any _)]

/-- Where every call that is left is skipped, nothing comes back. -/
theorem returns_of_next_none (r : Round) (world : Nat → Return) :
    r.next? = none → (r.work world).filterMap Deed.return? = [] := by
  fun_induction work r world with
  | case1 r world hqueue => exact fun _ => rfl
  | case2 r world c rest hqueue f hskips ih =>
      intro h
      rw [next?_of_skips hqueue hskips] at h
      exact ih h
  | case3 r world c rest hqueue f hskips ih =>
      intro h
      rw [next?_of_not_skips hqueue hskips] at h
      cases h

/-- The next call that is not skipped comes back first. -/
theorem returns_of_next (r : Round) (world : Nat → Return) {f : Frame} :
    r.next? = some f →
      (r.work world).filterMap Deed.return?
        = (f, world 0) :: ((f.resumed (world 0)).work
            fun n => world (n + 1)).filterMap Deed.return? := by
  fun_induction work r world with
  | case1 r world hqueue =>
      intro h
      simp [next?, hqueue] at h
  | case2 r world c rest hqueue f' hskips ih =>
      intro h
      rw [next?_of_skips hqueue hskips] at h
      exact ih h
  | case3 r world c rest hqueue f' hskips ih =>
      intro h
      rw [next?_of_not_skips hqueue hskips] at h
      cases h
      rfl

end Round

-- ============================================================= the machine

namespace Journal

variable {j j' k : Journal} {mv : Move} {moves : List Move}
  {outer : List Frame} {r : Round} {backs : List (Frame × Return)}

/-- What comes back in a move to the round that stands just above the given
number of calls in progress. -/
def comesBack (depth : Nat) (j : Journal) : Move → List (Frame × Return)
  | .answer a =>
    match j.machine.stack with
    | f :: outer => if outer.length = depth then [(f, ⟨j.host, a⟩)] else []
    | [] => []
  | _ => []

/-- Moves in turn, as long as the round just above the given number of calls
in progress is not over: what came back to the round, and the journal that the
moves lead to. -/
def attend? (depth : Nat) (j : Journal) :
    List Move → Option (List (Frame × Return) × Journal)
  | [] => some ([], j)
  | mv :: rest =>
    if j.machine.stack.length ≤ depth then none
    else do
      let j' ← j.move? mv
      let (backs, k) ← j'.attend? depth rest
      return (j.comesBack depth mv ++ backs, k)

/-- A round goes on above the calls in progress around it, or is over. -/
inductive Attends (outer : List Frame) (r : Round) (j : Journal) : Prop
  /-- The next call of the round is in progress. -/
  | busy (f : Frame) (hnext : r.next? = some f)
      (hstack : f :: outer <:+ j.machine.stack)
  /-- No call of the round is left to make. -/
  | ended (hnext : r.next? = none) (hstack : j.machine.stack = outer)

theorem attends_of_follows {p : Progress} (h : p.Follows outer r)
    {past : List Moment} : Attends outer r ⟨p.machine, past⟩ := by
  cases h with
  | begins f hnext hstack hreply =>
      exact .busy f hnext (hstack ▸ List.suffix_refl _)
  | ends reply hnext hstack hreply => exact .ended hnext hstack

theorem comesBack_eq_nil {f : Frame} (hs : f :: outer <:+ j.machine.stack)
    (hnot : ∀ a, mv = .answer a → j.machine.stack ≠ f :: outer) :
    j.comesBack outer.length mv = [] := by
  cases mv with
  | enter around e => rfl
  | store settings => rfl
  | reorder groups => rfl
  | answer a =>
      unfold comesBack
      cases hstack : j.machine.stack with
      | nil => rfl
      | cons f' outer' =>
          dsimp only
          rw [if_neg]
          intro hlength
          rw [hstack] at hs
          have heq := hs.eq_of_length (by simp [hlength])
          exact hnot a rfl (hstack.trans heq.symm)

/-- A move either is the return of the call of a round, which then goes on, or
leaves the round where it is. -/
theorem Attends.move {f : Frame} (hnext : r.next? = some f)
    (hs : f :: outer <:+ j.machine.stack) (hmove : j.move? mv = some j') :
    (j.comesBack outer.length mv = [] ∧ Attends outer r j')
      ∨ ∃ a, j.comesBack outer.length mv = [(f, ⟨j.host, a⟩)]
        ∧ Attends outer (f.resumed ⟨j.host, a⟩) j' := by
  by_cases hreturn : (∃ a, mv = .answer a) ∧ j.machine.stack = f :: outer
  · right
    obtain ⟨⟨a, rfl⟩, hstack⟩ := hreturn
    refine ⟨a, ?_, ?_⟩
    · simp only [comesBack, hstack, if_true]
    · obtain ⟨_, _, p, -, hanswer, rfl⟩ := advance_of_answer hmove
      obtain ⟨-, hfollows⟩ := Machine.answer_follows hstack hanswer
      rw [← f.calls_returned] at hfollows
      exact attends_of_follows hfollows
  · left
    constructor
    · apply comesBack_eq_nil hs
      rintro a rfl hstack
      exact hreturn ⟨⟨a, rfl⟩, hstack⟩
    · rcases suffix_or_answer hs hmove with hs' | ⟨a, hanswer, hstack⟩
      · exact .busy f hnext hs'
      · exact absurd ⟨⟨a, hanswer⟩, hstack⟩ hreturn

/-- What comes back to a round comes back in its loop, in some world; the round
is over when the loop has no more to make. -/
theorem Attends.work (hj : Attends outer r j)
    (h : j.attend? outer.length moves = some (backs, k)) :
    ∃ world later, (r.work world).filterMap Deed.return? = backs ++ later
      ∧ (later = [] ↔ k.machine.stack = outer) := by
  induction moves generalizing j r backs with
  | nil =>
      cases h
      refine ⟨fun _ => ⟨.initial, .accepted⟩, _, rfl, ?_⟩
      cases hj with
      | busy f hnext hs =>
          rw [Round.returns_of_next _ _ hnext]
          refine ⟨nofun, fun hstack => ?_⟩
          exact absurd (Nat.le_of_eq (congrArg List.length hstack))
            (not_le_of_suffix hs)
      | ended hnext hstack =>
          rw [Round.returns_of_next_none _ _ hnext]
          exact ⟨fun _ => hstack, fun _ => rfl⟩
  | cons mv rest ih =>
      unfold attend? at h
      split at h
      · cases h
      · next hbusy =>
        obtain ⟨j', hmove, h⟩ := Option.bind_eq_some_iff.mp h
        obtain ⟨⟨backs', k'⟩, hrest, h⟩ := Option.bind_eq_some_iff.mp h
        cases h
        cases hj with
        | ended hnext hstack =>
            exact absurd (Nat.le_of_eq (congrArg List.length hstack)) hbusy
        | busy f hnext hs =>
            rcases Attends.move hnext hs hmove with
              ⟨hnone, hj'⟩ | ⟨a, hback, hj'⟩
            · obtain ⟨world, later, hwork, hover⟩ := ih hj' hrest
              rw [hnone, List.nil_append]
              exact ⟨world, later, hwork, hover⟩
            · obtain ⟨world, later, hwork, hover⟩ := ih hj' hrest
              -- the world of the call that came back, and then the one after
              refine ⟨fun n => Nat.casesOn n ⟨j.host, a⟩ world, later, ?_,
                hover⟩
              rw [Round.returns_of_next _ _ hnext, hback, List.append_assoc,
                ← hwork]
              rfl

end Journal

-- ============================================================= running out

/-- A call that is skipped and a call that releases a connection are followed
by nothing; every other call is followed by one release at most. -/
theorem Deed.followUps_cases (d : Deed) :
    d.followUps = []
      ∨ d.isSkipped = false ∧ d.call.isDisconnect = false
        ∧ ∃ id t, d.followUps = [.disconnect id t] := by
  cases d with
  | skipped c => exact .inl rfl
  | made f back =>
      have hlt := f.weight_returned back.host back.answer
      have hlight := Nat.lt_of_lt_of_le hlt f.call.weight_le
      rcases release_of_callsWeight hlight with hnone | ⟨id, t, hone⟩
      · exact .inl hnone
      · right
        refine ⟨rfl, ?_, id, t, hone⟩
        -- a release would weigh more than the release that follows it
        rw [Bool.eq_false_iff]
        intro hrelease
        have hweight : f.call.weight = 1 := if_pos hrelease
        rw [hone, hweight] at hlt
        exact Nat.lt_irrefl 1 hlt

/-- The calls of a round run out. Whatever host each return finds and however
it answers, the round deals with at most twice as many calls as it started
with: with those, in order, and then with their follow-ups. Only a call that is
made and releases no connection is followed by another, by one, and that one
releases a connection. A call is skipped if it asks for a session on a
connection that failed before in the round, and only then. In a run of any
machine, whatever enters during the calls, no more comes back to the round than
that; it comes back as in the loop, and the round is over when, and only when,
nothing is left in the loop. -/
theorem Round.runs_out (calls : List Call) (manner : Manner) :
    (∀ world : Nat → Return,
        let deeds := (Round.start calls manner).work world
        deeds.length ≤ 2 * calls.length
          ∧ deeds.map Deed.call = calls ++ deeds.flatMap Deed.followUps
          ∧ (∀ d ∈ deeds, d.followUps = []
              ∨ d.isSkipped = false ∧ d.call.isDisconnect = false
                ∧ ∃ id t, d.followUps = [.disconnect id t])
          ∧ ∀ before d after, deeds = before ++ d :: after →
              d.isSkipped = (d.call.isCreate
                && before.any (·.fails d.call.token)))
      ∧ ∀ (m : Machine) (events : List Event) (past : List Moment)
          (moves : List Move) (backs : List (Frame × Return)) (k : Journal),
          Journal.attend? m.stack.length
              ⟨(m.proceed (.start calls manner) events).machine, past⟩ moves
            = some (backs, k) →
          backs.length ≤ 2 * calls.length
            ∧ ∃ world later,
              ((Round.start calls manner).work world).filterMap Deed.return?
                  = backs ++ later
                ∧ (later = [] ↔ k.machine.stack = m.stack) := by
  have hbound : ∀ world,
      ((Round.start calls manner).work world).length ≤ 2 * calls.length :=
    fun world => Nat.le_trans (length_work _ world) (callsWeight_le calls)
  constructor
  · intro world
    refine ⟨hbound world, calls_work _ world, fun d _ => d.followUps_cases, ?_⟩
    intro before d after h
    rw [isSkipped_of_work _ world before h]
    simp [start]
  · intro m events past moves backs k h
    obtain ⟨-, hfollows⟩ :=
      Machine.proceed_follows (m := m) (.start calls manner) events
    obtain ⟨world, later, hwork, hover⟩ :=
      (Journal.attends_of_follows hfollows).work h
    refine ⟨?_, world, later, hwork, hover⟩
    calc backs.length
        ≤ (backs ++ later).length := by simp
      _ = (((Round.start calls manner).work world).filterMap
            Deed.return?).length := by rw [hwork]
      _ ≤ ((Round.start calls manner).work world).length :=
          List.length_filterMap_le _ _
      _ ≤ 2 * calls.length := hbound world

namespace Sample

/-- A connection and two sessions on another one. -/
def owed : List Call :=
  [.connect provider ⟨1⟩,
    .create "p" ⟨2⟩ ⟨"s"⟩ ⟨1⟩ (request 1).brief,
    .create "p" ⟨2⟩ ⟨"s"⟩ ⟨2⟩ (request 2).brief]

/-- The connector returns, the first session fails, and the connector returns
again. -/
def returning : List Move :=
  [.answer .accepted, .answer (.declined "lost"), .answer .accepted]

end Sample

/-- A connection that nobody wants any more is released at the end of the
round, and the second request is skipped. -/
theorem Round.failed_request_runs_out :
    ∃ backs k,
      Journal.attend? 0
          ⟨(Sample.start.machine.proceed (.start Sample.owed .logged)
            []).machine, []⟩ Sample.returning
        = some (backs, k)
      ∧ backs.map (·.1.call)
        = [.connect Sample.provider ⟨1⟩,
          .create "p" ⟨2⟩ ⟨"s"⟩ ⟨1⟩ (Sample.request 1).brief,
          .disconnect "p" ⟨1⟩]
      ∧ ∃ world, ((Round.start Sample.owed .logged).work world).filterMap
          Deed.return? = backs := by
  obtain ⟨⟨backs, k⟩, hrun, hend⟩ := (Option.any_eq_true
    (fun result : List (Frame × Return) × Journal =>
      result.2.machine.stack.isEmpty
        && decide (result.1.map (·.1.call)
          = [.connect Sample.provider ⟨1⟩,
            .create "p" ⟨2⟩ ⟨"s"⟩ ⟨1⟩ (Sample.request 1).brief,
            .disconnect "p" ⟨1⟩])) _).mp
    (show (Journal.attend? 0
      ⟨(Sample.start.machine.proceed (.start Sample.owed .logged)
        []).machine, []⟩ Sample.returning).any _ = true from rfl)
  obtain ⟨hover, hcalls⟩ := Bool.and_eq_true_iff.mp hend
  obtain ⟨-, hmachine⟩ := Round.runs_out Sample.owed .logged
  obtain ⟨-, world, later, hwork, hiff⟩ :=
    hmachine Sample.start.machine [] [] Sample.returning backs k hrun
  have hlater : later = [] := hiff.mpr (List.isEmpty_iff.mp hover)
  rw [hlater, List.append_nil] at hwork
  exact ⟨backs, k, hrun, of_decide_eq_true hcalls, world, hwork⟩

end SpellSessions
