/-
Queueing: the requests of a provider are served in the order in which they
arrived.

A provider may connect and drop any number of times while requests come in,
and each time it connects, the queue of those that wait is drained. Still
the requests of a group never change places: those that are ongoing came
before those that wait, and among both each came before the next
(Transaction/Arrival.lean). So the drained queue goes behind what is ongoing
as a whole and in its order, and that order is also the one in which the
provider is asked for the sessions (`requests_in_arrival_order`).

# The calls of a callback

A callback always takes its turn, and owes calls without a failed one among
them. So the round that it starts skips none: the first call begins within
the turn, the others are queued (`callback_begins`).
-/
import SpellSessions.Proofs.Account

namespace SpellSessions

-- ========================================================= calls that begin

/-- The calls in progress when some calls are owed and nobody waits for
them: the first has begun, and its round holds the others. -/
def Frame.begun (calls : List Call) (outer : List Frame) : List Frame :=
  match calls with
  | [] => outer
  | c :: rest => ⟨c, .start rest .logged⟩ :: outer

theorem Machine.stack_proceed_start (m : Machine) (calls : List Call)
    (events : List Event) :
    (m.proceed (.start calls .logged) events).machine.stack
      = Frame.begun calls m.stack := by
  cases calls with
  | nil => rfl
  | cons c rest =>
      have hfirst : (Round.start (c :: rest) .logged).next?
          = some ⟨c, .start rest .logged⟩ :=
        Round.next?_of_not_skips rfl (by rw [Round.skips_start]; nofun)
      unfold Machine.proceed
      rw [hfirst]
      rfl

/-- A callback takes its turn, and the calls of its transaction begin. -/
theorem Machine.callback_begins (m : Machine) (around : Surroundings)
    (report : Callback) :
    ∃ p, m.enter around (.callback report) = .taken p
      ∧ p.machine.service.host
        = (report.transaction.decision m.service.host).host
      ∧ p.machine.stack
        = Frame.begun (report.transaction.decision m.service.host).calls
            m.stack := by
  have hhost : (m.service.enter around (.callback report)).service.host = _ :=
    Service.host_enter _
  have hcalls : (m.service.enter around (.callback report)).calls = _ :=
    Service.calls_enter _
  refine ⟨_, rfl, ?_, ?_⟩
  · rw [(proceed_follows _ _).1]
    exact hhost
  · rw [stack_proceed_start]
    exact congrArg (Frame.begun · m.stack) hcalls

-- ====================================================== a drained queue

/-- The group of a provider that is connected: what waited is ongoing,
behind what was ongoing before. -/
def Group.served (g : Group) (endpoint : Endpoint) : Group :=
  { g with
    endpoint := some endpoint
    pending := []
    ongoing := g.ongoing ++ g.pending }

/-- A live group drains its queue in order, and the other groups stay as
they are. -/
theorem Host.connected_of_live {h : Host} {l : Link} {g : Group}
    (hb : h.groups.Busy) (hl : h.groups.live? l.provider l.token = some g)
    (endpoint : Endpoint) :
    (∀ id,
      (h.connected l.provider l.token endpoint).host.groups.find? id
        = if id = l.provider then some (g.served endpoint)
          else h.groups.find? id)
      ∧ (h.connected l.provider l.token endpoint).calls
        = g.pending.map (.handOver l.provider l.token endpoint) := by
  obtain ⟨he, -⟩ := GroupTable.live?_eq_some_iff.mp hl
  have hret : ¬ g.retired = true := Bool.eq_false_iff.mp (hb _ he).1
  unfold Host.connected
  rw [hl]
  dsimp only
  rw [Group.connect_eq, Group.drained_eq, if_neg hret, if_neg hret]
  constructor
  · intro id
    by_cases hid : id = l.provider
    · subst hid
      rw [if_pos rfl]
      refine GroupTable.find?_update_const ?_
      rw [GroupTable.find?_eq_some_iff.mpr he]
      rfl
    · rw [if_neg hid]
      exact GroupTable.find?_update_of_ne hid
  · rw [List.map_map]
    rfl

-- ============================================================= on the whole

namespace Journal

variable {j : Journal}

/-- In every group the requests stand in the order of their arrival, those
that are ongoing before those that wait, and none waits for a provider that
is connected. When a provider reports that it is connected, its queue goes
behind what is ongoing, whole and in order, no other group changes, and it
is asked for one session after the other in that order. -/
theorem requests_in_arrival_order (hj : j.Reached) :
    (∀ id g, j.host.groups.find? id = some g →
      ((g.ongoing ++ g.pending).map (·.id.number)).Pairwise (· < ·)
        ∧ (∀ n ∈ g.ongoing ++ g.pending, n.id.number ≤ j.host.requests)
        ∧ (g.endpoint.isSome = true → g.pending = []))
      ∧ ∀ around l endpoint g,
        j.host.groups.live? l.provider l.token = some g →
        (Entry.callback (.connected l endpoint)).isHeld j.past = true →
        ∃ j', j.move? (.enter around (.callback (.connected l endpoint)))
            = some j'
          ∧ (∀ id, j'.host.groups.find? id
              = if id = l.provider then some (g.served endpoint)
                else j.host.groups.find? id)
          ∧ j'.machine.stack
            = Frame.begun
                (g.pending.map (.handOver l.provider l.token endpoint))
                j.machine.stack := by
  constructor
  · intro id g hg
    obtain ⟨hascending, hnumbered, hdrained⟩ :=
      hj.ledger.arrived _ (GroupTable.find?_eq_some_iff.mp hg)
    exact ⟨List.pairwise_map.mpr hascending, hnumbered, hdrained⟩
  · intro around l endpoint g hl hheld
    obtain ⟨p, htaken, hhost, hstack⟩ :=
      j.machine.callback_begins around (.connected l endpoint)
    obtain ⟨hgroups, hcalls⟩ :=
      Host.connected_of_live hj.busy hl endpoint
    refine ⟨_, j.move?_of_taken hheld htaken, fun id => ?_, ?_⟩
    · refine (congrArg (·.groups.find? id) hhost).trans ?_
      exact hgroups id
    · refine hstack.trans ?_
      exact congrArg (Frame.begun · j.machine.stack) hcalls

end Journal

/-- The provider is connected and was handed a request, then drops, and two
more requests wait for it. -/
def Sample.requeued : List Move :=
  waiting ++ [
    .enter (around []) (.callback (.connected ⟨"p", ⟨1⟩⟩ ⟨"s"⟩)),
    .answer .accepted,
    .enter (around []) (.callback (.disconnected ⟨"p", ⟨1⟩⟩)),
    operate (.beginSession "p" (request 2)),
    operate (.beginSession "p" (request 3))]

/-- The two requests that wait. -/
def Sample.queue : List NumberedRequest :=
  [⟨⟨2⟩, request 2⟩, ⟨⟨3⟩, request 3⟩]

/-- When the provider is back, the first request is still ongoing, the two
others come behind it, and both are asked for in turn. -/
theorem Journal.queue_drained_on_reconnection :
    ∃ j j', Sample.start.after? Sample.requeued = some j
      ∧ j.move? (.enter (Sample.around [])
          (.callback (.connected ⟨"p", ⟨1⟩⟩ ⟨"t"⟩))) = some j'
      ∧ (j'.host.groups.find? "p").map (·.ongoing.map (·.id.number))
        = some [1, 2, 3]
      ∧ j'.machine.stack.map (fun f => f.call :: f.round.queue)
        = [[.create "p" ⟨1⟩ ⟨"t"⟩ ⟨2⟩ (Sample.request 2).brief,
            .create "p" ⟨1⟩ ⟨"t"⟩ ⟨3⟩ (Sample.request 3).brief]] := by
  obtain ⟨j, hj, hend⟩ := (Option.any_eq_true
    (fun j : Journal => decide (j.machine.stack = [])
      && (Entry.callback (.connected ⟨"p", ⟨1⟩⟩ ⟨"t"⟩)).isHeld j.past
      && (j.host.groups.live? "p" ⟨1⟩).any fun g : Group =>
        decide (g.ongoing.map (·.id.number) = [1])
          && decide (g.pending = Sample.queue)) _).mp
    (show (Sample.start.after? Sample.requeued).any _ = true from rfl)
  rw [Bool.and_eq_true, Bool.and_eq_true, decide_eq_true_eq,
    Option.any_eq_true] at hend
  obtain ⟨⟨hidle, hheld⟩, g, hl, hgroup⟩ := hend
  rw [Bool.and_eq_true, decide_eq_true_eq, decide_eq_true_eq] at hgroup
  obtain ⟨hongoing, hpending⟩ := hgroup
  obtain ⟨j', hmove, hgroups, hstack⟩ :=
    (requests_in_arrival_order (Reached.of_after hj)).2
      (Sample.around []) ⟨"p", ⟨1⟩⟩ ⟨"t"⟩ g hl hheld
  refine ⟨j, j', hj, hmove, ?_, ?_⟩
  · rw [hgroups "p", if_pos rfl]
    show some ((g.ongoing ++ g.pending).map _) = _
    rw [List.map_append, hongoing, hpending]
    rfl
  · rw [hstack, hpending, hidle]
    rfl

end SpellSessions
