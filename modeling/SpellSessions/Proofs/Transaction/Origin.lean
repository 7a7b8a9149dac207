/-
Origins: where what a group holds after a transaction comes from.

A request that a group holds was held there before, or it was just
submitted for the provider of the group (`request_origin`). A listener that
is registered was registered before, or it is that of an ongoing request
which the provider answers (`listener_origin`), and the call that tells the
owner of that request is then the one call that falls due
(`calls_of_answer`). No other transaction tells an owner (`answer_of_told`).
-/
import SpellSessions.Proofs.Transaction.Held

namespace SpellSessions

-- ======================================================= a group changed

namespace Group

variable {g : Group} {n m : NumberedRequest} {k : ListenerId}

theorem mem_insertListener {l : ListenerId} {ls : List ListenerId} :
    k ∈ insertListener l ls ↔ k = l ∨ k ∈ ls := by
  induction ls with
  | nil => exact List.mem_cons
  | cons m rest ih =>
      unfold insertListener
      split
      · next hsame =>
          subst hsame
          rw [List.mem_cons, or_self_left]
      · split
        · exact List.mem_cons
        · rw [List.mem_cons, ih, or_left_comm, List.mem_cons]

/-- A group that accepts a request holds it, and what it held. -/
theorem mem_requests_accept (h : m ∈ (g.accept n).1.requests) :
    m ∈ g.requests ∨ m = n := by
  unfold accept at h
  split at h
  · exact .inl h
  · cases hendpoint : g.endpoint with
    | none =>
        rw [hendpoint] at h
        unfold requests at h ⊢
        simp only [List.mem_append, List.mem_singleton] at h ⊢
        tauto
    | some endpoint =>
        rw [hendpoint] at h
        unfold requests at h ⊢
        simp only [List.mem_append, List.mem_singleton] at h ⊢
        tauto

theorem mem_requests_connect {endpoint : Endpoint}
    (h : m ∈ (g.connect endpoint).requests) : m ∈ g.requests := by
  rw [connect_eq] at h
  split at h
  · exact h
  · unfold requests at h ⊢
    rw [List.append_nil] at h
    exact h

theorem mem_requests_finished {r : RequestId}
    (h : m ∈ (g.finished r).requests) : m ∈ g.requests := by
  unfold finished at h
  split at h
  · exact h
  · next n rest hfinish =>
      unfold finish? at hfinish
      split at hfinish
      · cases hfinish
      · obtain ⟨found, -, hrest⟩ := Option.map_eq_some_iff.mp hfinish
        cases hrest
        rcases List.mem_append.mp h with hongoing | hpending
        · exact List.mem_append_left _ (List.eraseP_subset hongoing)
        · exact List.mem_append_right _ hpending

/-- An answer that finds a request registers its listener, and no other. -/
theorem mem_listeners_finished {r : RequestId}
    (h : k ∈ (g.finished r).listeners) :
    k ∈ g.listeners
      ∨ ∃ n, g.ongoing.find? (·.id = r) = some n
          ∧ n.request.listener = k := by
  unfold finished at h
  split at h
  · exact .inl h
  · next n rest hfinish =>
      unfold finish? at hfinish
      split at hfinish
      · cases hfinish
      · obtain ⟨found, hfound, hrest⟩ := Option.map_eq_some_iff.mp hfinish
        cases hrest
        rcases mem_insertListener.mp h with hnew | hbefore
        · exact .inr ⟨n, hfound, hnew.symm⟩
        · exact .inl hbefore

theorem listeners_accept : (g.accept n).1.listeners = g.listeners := by
  unfold accept
  split
  · rfl
  · cases g.endpoint <;> rfl

theorem listeners_connect {endpoint : Endpoint} :
    (g.connect endpoint).listeners = g.listeners := by
  rw [connect_eq]
  split <;> rfl

end Group

/-- What is found in the changed group of a link is found in the group, or
the group is that of the link. -/
theorem Link.mem_only {α : Type} {part : Group → List α} {x : α} {l : Link}
    {work : Group → Group} {id : ProviderId} {g : Group}
    (h : x ∈ part (l.only work id g)) :
    x ∈ part g ∨ l = ⟨id, g.token⟩ ∧ x ∈ part (work g) := by
  unfold Link.only at h
  split at h
  · next hof =>
      obtain ⟨hid, htoken⟩ := Bool.and_eq_true_iff.mp hof
      have hlink : l = ⟨id, g.token⟩ :=
        congrArg₂ Link.mk (of_decide_eq_true hid) (of_decide_eq_true htoken)
      exact .inr ⟨hlink, h⟩
  · exact .inl h

theorem Link.mem_of_only {α : Type} {part : Group → List α} {x : α}
    {l : Link} {work : Group → Group} {id : ProviderId} {g : Group}
    (hsub : x ∈ part (work g) → x ∈ part g)
    (h : x ∈ part (l.only work id g)) : x ∈ part g := by
  rcases Link.mem_only h with hbefore | ⟨-, hwork⟩
  · exact hbefore
  · exact hsub hwork

namespace Transaction

variable {h : Host} {tx : Transaction} {id : ProviderId} {g g' : Group}
  {n : NumberedRequest} {k : ListenerId} {t : Token} {r : RequestId}
  {owner : Owner} {session : Option Session}

-- ============================================================== requests

/-- A request that is left to a group was held by it, or is submitted for
it. -/
theorem request_of_leaves (hn : n ∈ (tx.leaves h id g).requests) :
    n ∈ g.requests
      ∨ ∃ p q, tx = .submit p q ∧ p.id = id ∧ n = ⟨h.freshRequest, q⟩ := by
  -- a change of the group of one link that adds no request
  have honly : ∀ (l : Link) (work : Group → Group),
      (n ∈ (work g).requests → n ∈ g.requests) →
      n ∈ (l.only work id g).requests → n ∈ g.requests :=
    fun l work => Link.mem_of_only
  cases tx with
  | submit p q =>
      replace hn : n ∈ Group.requests (if p.id = id then _ else g) := hn
      split at hn
      · next hid =>
          rcases Group.mem_requests_accept hn with hbefore | rfl
          · exact .inl hbefore
          · exact .inr ⟨p, q, rfl, hid, rfl⟩
      · exact .inl hn
  | connected l endpoint =>
      exact .inl (honly l _ Group.mem_requests_connect hn)
  | answered a s =>
      exact .inl (honly a.link _ Group.mem_requests_finished hn)
  | stay => exact .inl hn
  | disconnected l => exact .inl (honly l Group.disconnect (fun hm => hm) hn)
  | established l => exact .inl (honly l Group.established (fun hm => hm) hn)
  | forgetRefused l => exact .inl (honly l Group.clear nofun hn)
  | dropWork l => exact .inl (honly l Group.clear nofun hn)
  | ownerLost l k => exact .inl (honly l (·.eraseListener k) (fun hm => hm) hn)
  | releaseListener k => exact .inl hn
  | retireEvery => cases hn

/-- A request that a group holds after a transaction was held there before,
or was just submitted for its provider. -/
theorem request_origin (hb : h.groups.Busy)
    (he : (id, g') ∈ (tx.decision h).host.groups.entries)
    (hn : n ∈ g'.requests) :
    (∃ g, (id, g) ∈ h.groups.entries ∧ g.token = g'.token
        ∧ n ∈ g.requests)
      ∨ ∃ p q, tx = .submit p q ∧ p.id = id ∧ n = ⟨h.freshRequest, q⟩ := by
  rcases (mem_decision hb).mp he with ⟨g, hg, -, rfl⟩ | hopened
  · rcases request_of_leaves hn with hbefore | hnew
    · exact .inl ⟨g, hg, leaves_token.symm, hbefore⟩
    · exact .inr hnew
  · right
    cases tx with
    | submit p q =>
        unfold opens at hopened
        dsimp only at hopened
        split at hopened
        · cases List.mem_singleton.mp hopened
          exact ⟨p, q, rfl, rfl, List.mem_singleton.mp hn⟩
        · cases hopened
    | _ => cases hopened

-- ============================================================= listeners

/-- A listener that is left to a group was registered in it, or an answer on
the group's link finds its request. -/
theorem listener_of_leaves (hk : k ∈ (tx.leaves h id g).listeners) :
    k ∈ g.listeners
      ∨ ∃ n s, tx = .answered ⟨id, g.token, n.id⟩ s
          ∧ g.ongoing.find? (·.id = n.id) = some n
          ∧ n.request.listener = k := by
  -- a change of the group of one link that registers nobody
  have honly : ∀ (l : Link) (work : Group → Group),
      (k ∈ (work g).listeners → k ∈ g.listeners) →
      k ∈ (l.only work id g).listeners → k ∈ g.listeners :=
    fun l work => Link.mem_of_only
  cases tx with
  | submit p q =>
      replace hk : k ∈ Group.listeners (if p.id = id then _ else g) := hk
      split at hk
      · rw [Group.listeners_accept] at hk
        exact .inl hk
      · exact .inl hk
  | answered a s =>
      replace hk : k ∈ Group.listeners
        (a.link.only (·.finished a.request) id g) := hk
      rcases Link.mem_only hk with hbefore | ⟨hlink, hfinished⟩
      · exact .inl hbefore
      · rcases Group.mem_listeners_finished hfinished with
          hbefore | ⟨n, hfound, hlistener⟩
        · exact .inl hbefore
        · right
          have hid := List.find?_some hfound
          replace hid : n.id = a.request := of_decide_eq_true hid
          obtain ⟨provider, token, request⟩ := a
          cases hlink
          cases hid
          exact ⟨n, s, rfl, hfound, hlistener⟩
  | connected l endpoint =>
      refine .inl (honly l (·.connect endpoint) ?_ hk)
      rw [Group.listeners_connect]
      exact fun hm => hm
  | ownerLost l k' =>
      exact .inl (honly l (·.eraseListener k') List.mem_of_mem_erase hk)
  | releaseListener k' => exact .inl (List.mem_of_mem_erase hk)
  | stay => exact .inl hk
  | disconnected l => exact .inl (honly l Group.disconnect (fun hm => hm) hk)
  | established l => exact .inl (honly l Group.established (fun hm => hm) hk)
  | forgetRefused l => exact .inl (honly l Group.clear nofun hk)
  | dropWork l => exact .inl (honly l Group.clear nofun hk)
  | retireEvery => cases hk

/-- A listener that is registered in a group after a transaction was
registered there before, or is that of a request which was ongoing there
and is answered. -/
theorem listener_origin (hb : h.groups.Busy)
    (he : (id, g') ∈ (tx.decision h).host.groups.entries)
    (hk : k ∈ g'.listeners) :
    (∃ g, (id, g) ∈ h.groups.entries ∧ g.token = g'.token
        ∧ k ∈ g.listeners)
      ∨ ∃ g n s, h.groups.live? id g'.token = some g
          ∧ tx = .answered ⟨id, g'.token, n.id⟩ s
          ∧ g.ongoing.find? (·.id = n.id) = some n
          ∧ n.request.listener = k := by
  rcases (mem_decision hb).mp he with ⟨g, hg, -, rfl⟩ | hopened
  · rw [leaves_token]
    rcases listener_of_leaves hk with hbefore | hnew
    · exact .inl ⟨g, hg, rfl, hbefore⟩
    · obtain ⟨n, s, htx, hfound, hlistener⟩ := hnew
      have hl : h.groups.live? id g.token = some g :=
        GroupTable.live?_eq_some_iff.mpr ⟨hg, rfl⟩
      exact .inr ⟨g, n, s, hl, htx, hfound, hlistener⟩
  · obtain ⟨-, q, rfl⟩ := mem_opens hopened
    cases hk

-- ======================================================= who is told

/-- An owner is told of a request that was ongoing on the link, by the
transaction of an answer to it. -/
theorem answer_of_told (hb : h.groups.Busy)
    (hc : .notify id t r owner k session ∈ (tx.decision h).calls) :
    tx = .answered ⟨id, t, r⟩ session
      ∧ ∃ g n, h.groups.live? id t = some g
          ∧ g.ongoing.find? (·.id = r) = some n
          ∧ n.request.owner = owner ∧ n.request.listener = k := by
  cases mem_hands_iff.mp (mem_hands hb hc rfl) with
  | answers hl hn => exact ⟨rfl, _, _, hl, hn, rfl, rfl⟩

/-- The answer to a request that is ongoing tells its owner, and owes no
other call. -/
theorem calls_of_answer (hb : h.groups.Busy)
    (hl : h.groups.live? id t = some g)
    (hn : g.ongoing.find? (·.id = r) = some n) :
    ((Transaction.answered ⟨id, t, r⟩ session).decision h).calls
      = [.notify id t r n.request.owner n.request.listener session] := by
  refine (answered_effect hb ⟨id, t, r⟩ session).2.trans ?_
  unfold hands
  dsimp only
  rw [hl]
  dsimp only
  rw [hn]

end Transaction

end SpellSessions
