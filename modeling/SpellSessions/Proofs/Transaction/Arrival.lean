/-
Arrival order: the requests of a group stand in the order in which they
were submitted.

Request ids are given out in order, a request that is accepted goes behind
all others, and what waited goes behind what was ongoing when the provider
is connected. So the ids of a group ascend from what is ongoing to what
waits, and in a connected group nothing waits (`arrived_decision`).
-/
import SpellSessions.Proofs.Transaction.Held

namespace SpellSessions

/-- The requests of a group stand in the order of their ids, all of them
given out, and none waits while the provider is connected. -/
structure Group.Arrived (g : Group) (given : Nat) : Prop where
  ascending : g.requests.Pairwise (·.id.number < ·.id.number)
  numbered : ∀ n ∈ g.requests, n.id.number ≤ given
  drained : g.endpoint.isSome = true → g.pending = []

/-- The requests of every group have arrived in order. -/
def Host.Arrived (h : Host) : Prop :=
  ∀ e ∈ h.groups.entries, e.2.Arrived h.requests

namespace Group

variable {g g' : Group} {given : Nat}

/-- A group that only loses requests keeps the order of the others. -/
theorem Arrived.of_sublist (ha : g.Arrived given)
    (hsub : g'.requests.Sublist g.requests)
    (hdrained : g'.endpoint.isSome = true → g'.pending = []) :
    g'.Arrived given where
  ascending := ha.ascending.sublist hsub
  numbered := fun n hn => ha.numbered n (hsub.subset hn)
  drained := hdrained

theorem Arrived.later (ha : g.Arrived given) {given' : Nat}
    (hle : given ≤ given') : g.Arrived given' where
  ascending := ha.ascending
  numbered := fun n hn => Nat.le_trans (ha.numbered n hn) hle
  drained := ha.drained

/-- A request with the next id goes behind all others. -/
theorem Arrived.accept (ha : g.Arrived given) (hret : g.retired = false)
    {n : NumberedRequest} (hn : n.id.number = given + 1) :
    (g.accept n).1.Arrived (given + 1) := by
  have hbehind : (g.accept n).1.requests = g.requests ++ [n] := by
    unfold Group.accept requests
    rw [hret, if_neg Bool.false_ne_true]
    cases hendpoint : g.endpoint with
    | none => exact (List.append_assoc _ _ _).symm
    | some endpoint =>
        have hnone := ha.drained (by rw [hendpoint]; rfl)
        dsimp only
        rw [hnone, List.append_nil, List.append_nil]
  have hlast : ∀ m ∈ g.requests, m.id.number < n.id.number := by
    intro m hm
    have := ha.numbered m hm
    omega
  constructor
  · rw [hbehind, List.pairwise_append]
    refine ⟨ha.ascending, List.pairwise_singleton _ _, fun m hm k hk => ?_⟩
    cases List.mem_singleton.mp hk
    exact hlast m hm
  · intro m hm
    rw [hbehind, List.mem_append, List.mem_singleton] at hm
    rcases hm with hm | rfl
    · exact Nat.le_succ_of_le (ha.numbered m hm)
    · exact Nat.le_of_eq hn
  · unfold Group.accept
    rw [hret, if_neg Bool.false_ne_true]
    cases hendpoint : g.endpoint with
    | none => exact fun hsome => absurd hsome Bool.false_ne_true
    | some endpoint => exact fun _ => ha.drained (by rw [hendpoint]; rfl)

theorem Arrived.connect (ha : g.Arrived given) (hret : g.retired = false)
    (endpoint : Endpoint) : (g.connect endpoint).Arrived given := by
  rw [Group.connect_eq, hret, if_neg Bool.false_ne_true]
  refine ha.of_sublist ?_ fun _ => rfl
  show (g.ongoing ++ g.pending ++ []).Sublist (g.ongoing ++ g.pending)
  rw [List.append_nil]

theorem Arrived.finished (ha : g.Arrived given) (r : RequestId) :
    (g.finished r).Arrived given := by
  unfold Group.finished Group.finish?
  split
  · exact ha
  · next m rest hfound =>
      split at hfound
      · cases hfound
      · obtain ⟨n, -, hrest⟩ := Option.map_eq_some_iff.mp hfound
        cases hrest
        refine ha.of_sublist ?_ ha.drained
        exact List.Sublist.append_right List.eraseP_sublist g.pending

theorem Arrived.clear (ha : g.Arrived given) : g.clear.Arrived given :=
  ha.of_sublist (List.nil_sublist _) fun _ => rfl

end Group

namespace Transaction

variable {h : Host} {tx : Transaction} {id : ProviderId} {g : Group}

/-- What a transaction leaves to a group has arrived in order. -/
theorem arrived_leaves (hret : g.retired = false)
    (ha : g.Arrived h.requests) :
    (tx.leaves h id g).Arrived (h.requests + tx.asks) := by
  have honly : ∀ (l : Link) (work : Group → Group),
      (work g).Arrived h.requests →
      (l.only work id g).Arrived h.requests := by
    intro l work hwork
    unfold Link.only
    split
    · exact hwork
    · exact ha
  cases tx with
  | submit p q =>
      show Group.Arrived (if p.id = id then _ else g) (h.requests + 1)
      split
      · exact ha.accept hret rfl
      · exact ha.later (Nat.le_succ _)
  | connected l endpoint =>
      exact honly l (·.connect endpoint) (ha.connect hret _)
  | answered a session =>
      exact honly a.link (·.finished a.request) (ha.finished _)
  | disconnected l =>
      exact honly l Group.disconnect
        (ha.of_sublist (List.Sublist.refl _) nofun)
  | forgetRefused l => exact honly l Group.clear ha.clear
  | dropWork l => exact honly l Group.clear ha.clear
  | retireEvery => exact ha.clear
  | established l =>
      exact honly l Group.established
        (ha.of_sublist (List.Sublist.refl _) ha.drained)
  | ownerLost l k =>
      exact honly l (·.eraseListener k)
        (ha.of_sublist (List.Sublist.refl _) ha.drained)
  | releaseListener k => exact ha.of_sublist (List.Sublist.refl _) ha.drained
  | stay => exact ha

/-- A transaction keeps the requests of every group in the order of their
arrival. -/
theorem arrived_decision (hb : h.groups.Busy) (ha : h.Arrived) :
    (tx.decision h).host.Arrived := by
  rintro ⟨id, g'⟩ he
  rw [requests_decision]
  rcases (mem_decision hb).mp he with ⟨g, hg, -, rfl⟩ | hopened
  · exact arrived_leaves (hb _ hg).1 (ha _ hg)
  · cases tx with
    | submit p q =>
        obtain ⟨-, r, rfl⟩ := mem_opens hopened
        unfold opens at hopened
        dsimp only at hopened
        split at hopened
        · refine ⟨List.pairwise_singleton _ _, fun n hn => ?_, nofun⟩
          cases List.mem_singleton.mp hn
          exact Nat.le_refl _
        · cases hopened
    | _ => cases hopened

end Transaction

end SpellSessions
