/-
What is left for a machine to do without being entered again.

A call that may decide on one more call when it returns weighs two, a
call that releases a connection weighs one and decides on nothing. The
weight of a machine is that of all calls in progress and all calls
queued behind them. Whatever a return decides on weighs less than the
call that returned, so each return lowers the weight: calls that nobody
enters during run out.
-/
import SpellSessions.Machine

namespace SpellSessions

-- ============================================================== weights

/-- What the members of a list weigh in all. -/
def total {α : Type} (weight : α → Nat) : List α → Nat
  | [] => 0
  | a :: rest => weight a + total weight rest

theorem total_append {α : Type} (weight : α → Nat) (a b : List α) :
    total weight (a ++ b) = total weight a + total weight b := by
  induction a with
  | nil => exact (Nat.zero_add _).symm
  | cons x rest ih =>
      show weight x + total weight (rest ++ b) = _
      rw [ih, ← Nat.add_assoc]
      rfl

/-- The weight of a call. -/
def Call.weight (c : Call) : Nat :=
  if c.isDisconnect then 1 else 2

/-- The weight of calls. -/
def callsWeight (calls : List Call) : Nat :=
  total Call.weight calls

/-- The weight of a call in progress and of the calls behind it. -/
def Frame.weight (f : Frame) : Nat :=
  f.call.weight + callsWeight f.round.queue

/-- The weight of a machine. -/
def Machine.weight (m : Machine) : Nat :=
  total Frame.weight m.stack

theorem callsWeight_append (a b : List Call) :
    callsWeight (a ++ b) = callsWeight a + callsWeight b :=
  total_append Call.weight a b

theorem Call.weight_pos (c : Call) : 0 < c.weight := by
  unfold weight
  split <;> omega

theorem Call.weight_le (c : Call) : c.weight ≤ 2 := by
  unfold weight
  split <;> omega

theorem callsWeight_cons (c : Call) (rest : List Call) :
    callsWeight (c :: rest) = c.weight + callsWeight rest :=
  rfl

/-- Calls weigh two each at most. -/
theorem callsWeight_le (calls : List Call) :
    callsWeight calls ≤ 2 * calls.length := by
  induction calls with
  | nil => exact Nat.le_refl 0
  | cons c rest ih =>
      have hc := c.weight_le
      rw [callsWeight_cons, List.length_cons]
      omega

/-- Calls that weigh less than two in all are one release, or none. -/
theorem release_of_callsWeight {calls : List Call}
    (h : callsWeight calls < 2) :
    calls = [] ∨ ∃ id t, calls = [.disconnect id t] := by
  cases calls with
  | nil => exact .inl rfl
  | cons c rest =>
      right
      rw [callsWeight_cons] at h
      cases rest with
      | nil =>
          cases c with
          | disconnect id t => exact ⟨id, t, rfl⟩
          | _ => exact absurd h (Nat.lt_irrefl 2)
      | cons d rest =>
          have hc := c.weight_pos
          have hd := d.weight_pos
          rw [callsWeight_cons] at h
          omega

/-- Calls that are skipped weigh something, so dropping them makes
nothing heavier. -/
theorem callsWeight_dropWhile (skips : Call → Bool) (calls : List Call) :
    callsWeight (calls.dropWhile skips) ≤ callsWeight calls := by
  induction calls with
  | nil => exact Nat.le_refl _
  | cons c rest ih =>
      rw [List.dropWhile_cons]
      split
      · rw [callsWeight_cons]
        omega
      · exact Nat.le_refl _

/-- The next call of a round and what is behind it weigh no more than the
round's queue. -/
theorem Round.weight_next {r : Round} {f : Frame} (h : r.next? = some f) :
    f.weight ≤ callsWeight r.queue := by
  have hle := callsWeight_dropWhile r.skips r.queue
  unfold Round.next? at h
  split at h
  · cases h
  · next c rest hq =>
      cases h
      rw [hq] at hle
      exact hle

/-- A round that goes on adds no more than its queue to the machine. -/
theorem Machine.weight_proceed (m : Machine) (r : Round)
    (events : List Event) :
    (m.proceed r events).machine.weight ≤ m.weight + callsWeight r.queue := by
  unfold Machine.proceed
  split
  · next f hf =>
      have := Round.weight_next hf
      show f.weight + m.weight ≤ _
      omega
  · exact Nat.le_add_right _ _

-- ============================================ what a return decides on

namespace Host

variable (h : Host) (id : ProviderId) (t : Token)

/-- A retirement decides on one release at most. -/
theorem weight_retireIfIdle :
    callsWeight (h.retireIfIdle id t).calls ≤ 1 := by
  unfold retireIfIdle
  split
  · exact Nat.zero_le _
  · split
    · split
      · exact Nat.zero_le _
      · exact Nat.le_refl _
    · exact Nat.zero_le _

/-- A transition that decides on nothing, and then a retirement, decides on
one release at most. -/
theorem weight_andThen_retireIfIdle {d : Decision} (hd : d.calls = []) :
    callsWeight (d.andThen (·.retireIfIdle id t)).calls ≤ 1 := by
  show callsWeight (d.calls ++ _) ≤ 1
  rw [hd]
  exact weight_retireIfIdle d.host id t

/-- A connection that is established decides on one release at most. -/
theorem weight_established : callsWeight (h.established id t).calls ≤ 1 := by
  unfold established
  split
  · exact Nat.zero_le _
  · exact Nat.le_refl _

/-- A refused connection decides on nothing. -/
theorem calls_forgetRefused : (h.forgetRefused id t).calls = [] := by
  unfold forgetRefused
  split <;> rfl

/-- A failed connection decides on one release at most. -/
theorem weight_dropWork : callsWeight (h.dropWork id t).calls ≤ 1 := by
  refine weight_andThen_retireIfIdle id t ?_
  split <;> rfl

/-- An owner that is gone decides on one release at most. -/
theorem weight_ownerLost (l : ListenerId) :
    callsWeight (h.ownerLost id t l).calls ≤ 1 := by
  refine weight_andThen_retireIfIdle id t ?_
  split <;> rfl

end Host

/-- What a return decides on weighs less than the call that returned. -/
theorem Frame.weight_returned (f : Frame) (h : Host) (a : Answer) :
    callsWeight (f.returned h a).1.calls < f.call.weight := by
  unfold Frame.returned
  cases a with
  | accepted =>
      cases hc : f.call with
      | connect p t => exact Nat.lt_succ_of_le (h.weight_established p.id t)
      | create id t e r ps => exact Nat.zero_lt_two
      | notify id t r o l s => exact Nat.zero_lt_two
      | disconnect id t => exact Nat.zero_lt_one
  | declined reason =>
      cases hc : f.call with
      | connect p t =>
          show callsWeight (h.forgetRefused p.id t).calls < 2
          rw [Host.calls_forgetRefused]
          exact Nat.zero_lt_two
      | create id t e r ps => exact Nat.lt_succ_of_le (h.weight_dropWork id t)
      | notify id t r o l s =>
          exact Nat.lt_succ_of_le (h.weight_ownerLost id t l)
      | disconnect id t => exact Nat.zero_lt_one

/-- A return leaves the queue of its round as it was. -/
theorem Frame.queue_returned (f : Frame) (h : Host) (a : Answer) :
    (f.returned h a).2.queue = f.round.queue := by
  unfold Frame.returned
  cases a <;> cases f.call <;> rfl

/-- Each return lowers the weight of the machine. -/
theorem Machine.weight_answer {m : Machine} {a : Answer} {p : Progress}
    (h : m.answer a = some p) : p.machine.weight < m.weight := by
  unfold Machine.answer at h
  split at h
  · cases h
  · next f outer hstack =>
      cases h
      have hcalls := f.weight_returned m.service.host a
      have hqueue := f.queue_returned m.service.host a
      have hproceed := Machine.weight_proceed
        ⟨{ m.service with host := (f.returned m.service.host a).1.host },
          outer⟩
        ((f.returned m.service.host a).2.append
          (f.returned m.service.host a).1.calls)
        ((f.returned m.service.host a).1.notices.map .noticed)
      have happend : callsWeight ((f.returned m.service.host a).2.append
            (f.returned m.service.host a).1.calls).queue
          = callsWeight f.round.queue
            + callsWeight (f.returned m.service.host a).1.calls := by
        show callsWeight ((f.returned m.service.host a).2.queue ++ _) = _
        rw [callsWeight_append, hqueue]
      have hbefore : m.weight
          = f.call.weight + callsWeight f.round.queue
            + total Frame.weight outer := by
        unfold Machine.weight
        rw [hstack]
        rfl
      refine Nat.lt_of_le_of_lt hproceed ?_
      rw [happend, hbefore]
      show total Frame.weight outer + _ < _
      omega

end SpellSessions
