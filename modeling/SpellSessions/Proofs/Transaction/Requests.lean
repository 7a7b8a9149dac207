/-
The requests of one transaction, followed on one connection.

A request waits in its group or is handed over with a call that asks for
its session, and is ongoing from then on. A transaction moves the requests
that wait on a link to calls or leaves them waiting, and only a request
just submitted is new (`waiting_decision`). Whatever it hands over is ongoing
afterwards (`ongoing_of_asks`), and what was ongoing stays so while the
group is live, unless it was answered (`ongoing_leaves`).
-/
import SpellSessions.Proofs.Transaction.Calls

namespace SpellSessions

-- ========================================================== whose request

namespace Call

/-- Whether a call asks for a session on the link. -/
def creates (l : Link) : Call → Bool
  | create id t _ _ _ => id = l.provider && t = l.token
  | _ => false

/-- Whether a call asks for the session of a request on the link. -/
def asks (l : Link) (r : RequestId) : Call → Bool
  | create id t _ r' _ => id = l.provider && t = l.token && r' = r
  | _ => false

variable {l : Link} {r : RequestId} {c : Call}

theorem creates_of_asks (h : c.asks l r = true) : c.creates l = true := by
  cases c with
  | create id t e r' b => exact (Bool.and_eq_true_iff.mp h).1
  | _ => cases h

theorem asks_handOver (endpoint : Endpoint) (n : NumberedRequest) :
    (handOver l.provider l.token endpoint n).asks l r = decide (n.id = r) := by
  unfold handOver asks
  simp

end Call

namespace Group

/-- How often a request waits in the group. -/
def waiting (g : Group) (r : RequestId) : Nat :=
  g.pending.countP (·.id = r)

/-- Whether a request is ongoing in the group. -/
def hasOngoing (g : Group) (r : RequestId) : Prop :=
  ∃ n ∈ g.ongoing, n.id = r

end Group

/-- How often a request waits on a live link. -/
def GroupTable.waiting (t : GroupTable) (l : Link) (r : RequestId) : Nat :=
  match t.live? l.provider l.token with
  | none => 0
  | some g => g.waiting r

theorem GroupTable.waiting_of_perm {t t' : GroupTable}
    (h : t.entries.Perm t'.entries) (l : Link) (r : RequestId) :
    t.waiting l r = t'.waiting l r := by
  unfold waiting
  rw [live?_of_perm h]

namespace Transaction

variable {h : Host} {tx : Transaction} {l : Link} {id : ProviderId}
  {g : Group} {c : Call} {r : RequestId}

-- ====================================================== what is handed over

/-- A request is handed over on a link that is live: one just submitted, or
one that waited until the provider was connected. -/
theorem creates_of_mem_hands (hc : c ∈ tx.hands h)
    (hcreates : c.creates l = true) :
    ∃ g, h.groups.live? l.provider l.token = some g
      ∧ ((∃ p q endpoint, tx = .submit p q ∧ p.id = l.provider
            ∧ g.endpoint = some endpoint
            ∧ c = .handOver l.provider l.token endpoint
                ⟨h.freshRequest, q⟩)
        ∨ ∃ endpoint, tx = .connected l endpoint
            ∧ ∃ n ∈ g.pending,
                c = .handOver l.provider l.token endpoint n) := by
  cases mem_hands_iff.mp hc with
  | opens hnone => cases hcreates
  | @joins p q g endpoint hg hendpoint =>
      obtain ⟨hid, htoken⟩ := Bool.and_eq_true_iff.mp hcreates
      have hid := of_decide_eq_true hid
      have htoken := of_decide_eq_true htoken
      refine ⟨g, GroupTable.live?_eq_some_iff.mpr ⟨?_, htoken⟩,
        .inl ⟨p, q, endpoint, rfl, hid, hendpoint, ?_⟩⟩
      · rw [← hid]
        exact GroupTable.find?_eq_some_iff.mp hg
      · rw [hid, htoken]
  | @drains l' endpoint g n hl hn =>
      obtain ⟨hid, htoken⟩ := Bool.and_eq_true_iff.mp hcreates
      have hsame : l' = l := congrArg₂ Link.mk (of_decide_eq_true hid)
        (of_decide_eq_true htoken)
      subst hsame
      exact ⟨g, hl, .inr ⟨endpoint, rfl, n, hn, rfl⟩⟩
  | answers hl hn => cases hcreates

/-- A transaction asks for sessions only among what it hands over. -/
theorem mem_hands_of_creates (hb : h.groups.Busy)
    (hc : c ∈ (tx.decision h).calls) (hcreates : c.creates l = true) :
    c ∈ tx.hands h := by
  refine mem_hands hb hc ?_
  cases c with
  | disconnect id t => cases hcreates
  | _ => rfl

-- ========================================================== what goes on

/-- What is ongoing on a link stays so while its group has work, unless it
is answered. -/
theorem ongoing_leaves (htoken : g.token = l.token)
    (hongoing : g.hasOngoing r)
    (hwork : (tx.leaves h l.provider g).isIdle = false)
    (hnot : ∀ s, tx ≠ .answered ⟨l.provider, l.token, r⟩ s) :
    (tx.leaves h l.provider g).hasOngoing r := by
  -- a change of one link that keeps what is ongoing, or leaves nothing
  have honly : ∀ (l' : Link) (work : Group → Group),
      (l'.only work l.provider g).isIdle = false →
      (l'.isOf l.provider g = true → (work g).isIdle = false →
        (work g).hasOngoing r) →
      (l'.only work l.provider g).hasOngoing r := by
    intro l' work hleft hkeeps
    unfold Link.only at hleft ⊢
    split at hleft
    · next hof =>
        rw [if_pos hof]
        exact hkeeps hof hleft
    · next hof =>
        rw [if_neg hof]
        exact hongoing
  obtain ⟨n, hn, hid⟩ := hongoing
  cases tx with
  | stay => exact ⟨n, hn, hid⟩
  | submit p q =>
      show Group.hasOngoing (if p.id = l.provider then _ else g) r
      split
      · unfold Group.accept
        split
        · exact ⟨n, hn, hid⟩
        · cases g.endpoint with
          | none => exact ⟨n, hn, hid⟩
          | some endpoint => exact ⟨n, List.mem_append_left _ hn, hid⟩
      · exact ⟨n, hn, hid⟩
  | connected l' endpoint =>
      refine honly l' _ hwork fun _ _ => ?_
      rw [Group.connect_eq]
      split
      · exact ⟨n, hn, hid⟩
      · exact ⟨n, List.mem_append_left _ hn, hid⟩
  | disconnected l' => exact honly l' _ hwork fun _ _ => ⟨n, hn, hid⟩
  | answered a session =>
      refine honly a.link _ hwork fun hof _ => ?_
      have hrequest : a.request ≠ r := by
        rintro rfl
        unfold Link.isOf at hof
        rw [Bool.and_eq_true, decide_eq_true_eq, decide_eq_true_eq,
          htoken] at hof
        obtain ⟨provider, token, request⟩ := a
        obtain ⟨rfl, rfl⟩ := hof
        exact hnot session rfl
      unfold Group.finished Group.finish?
      by_cases hret : g.retired = true
      · rw [if_pos hret]
        exact ⟨n, hn, hid⟩
      · rw [if_neg hret]
        cases g.ongoing.find? (·.id = a.request) with
        | none => exact ⟨n, hn, hid⟩
        | some found =>
            refine ⟨n, ?_, hid⟩
            show n ∈ g.ongoing.eraseP (·.id = a.request)
            rw [List.mem_eraseP_of_neg]
            · exact hn
            · rw [hid]
              simpa using Ne.symm hrequest
  | established l' => exact honly l' _ hwork fun _ _ => ⟨n, hn, hid⟩
  | forgetRefused l' =>
      exact honly l' _ hwork fun _ hidle => absurd hidle Bool.noConfusion
  | dropWork l' =>
      exact honly l' _ hwork fun _ hidle => absurd hidle Bool.noConfusion
  | ownerLost l' listener =>
      exact honly l' _ hwork fun _ _ => ⟨n, hn, hid⟩
  | releaseListener listener => exact ⟨n, hn, hid⟩
  | retireEvery => cases hwork

theorem isIdle_of_hasOngoing (hongoing : g.hasOngoing r) :
    g.isIdle = false := by
  obtain ⟨n, hn, -⟩ := hongoing
  rw [Bool.eq_false_iff, ne_eq, Group.isIdle_eq_true_iff]
  rintro ⟨-, -, hnone⟩
  rw [hnone] at hn
  cases hn

/-- What is ongoing on a live link is ongoing after a transaction that does
not answer it, unless the link is no longer live. -/
theorem ongoing_decision (hb : h.groups.Busy) {g' : Group}
    (hl : h.groups.live? l.provider l.token = some g)
    (hl' : (tx.decision h).host.groups.live? l.provider l.token = some g')
    (hongoing : g.hasOngoing r)
    (hnot : ∀ s, tx ≠ .answered ⟨l.provider, l.token, r⟩ s) :
    g'.hasOngoing r := by
  rw [live?_decision hb hl] at hl'
  split at hl'
  · cases hl'
  · next hwork =>
      cases hl'
      exact ongoing_leaves (GroupTable.live?_eq_some_iff.mp hl).2 hongoing
        (Bool.eq_false_iff.mpr hwork) hnot

/-- A request that is handed over is ongoing afterwards, on a link that is
live. -/
theorem ongoing_of_asks (hb : h.groups.Busy)
    (hc : c ∈ (tx.decision h).calls) (hasks : c.asks l r = true) :
    ∃ g', (tx.decision h).host.groups.live? l.provider l.token = some g'
      ∧ g'.hasOngoing r := by
  have hcreates := Call.creates_of_asks hasks
  have hhands := mem_hands_of_creates hb hc hcreates
  obtain ⟨g, hl, hcases⟩ := creates_of_mem_hands hhands hcreates
  obtain ⟨he, htoken⟩ := GroupTable.live?_eq_some_iff.mp hl
  have hret := (hb _ he).1
  suffices hleft : (tx.leaves h l.provider g).hasOngoing r by
    rw [live?_decision hb hl, isIdle_of_hasOngoing hleft]
    exact ⟨_, rfl, hleft⟩
  rcases hcases with
    ⟨p, q, endpoint, rfl, hid, hendpoint, rfl⟩ | ⟨endpoint, rfl, n, hn, rfl⟩
  · rw [Call.asks_handOver] at hasks
    refine ⟨⟨h.freshRequest, q⟩, ?_, of_decide_eq_true hasks⟩
    show _ ∈ Group.ongoing (if p.id = l.provider then _ else g)
    rw [if_pos hid]
    unfold Group.accept
    rw [hret, if_neg Bool.false_ne_true, hendpoint]
    exact List.mem_append_right _ (List.mem_singleton.mpr rfl)
  · rw [Call.asks_handOver] at hasks
    refine ⟨n, ?_, of_decide_eq_true hasks⟩
    show n ∈ (l.only (·.connect endpoint) l.provider g).ongoing
    rw [only_self _ htoken]
    rw [Group.connect_eq, hret, if_neg Bool.false_ne_true]
    exact List.mem_append_right _ hn

-- ======================================================= what waits

theorem countP_asks_eq_zero (hb : h.groups.Busy)
    (hnone : ∀ c ∈ tx.hands h, c.creates l = false) :
    (tx.decision h).calls.countP (·.asks l r) = 0 := by
  rw [List.countP_eq_zero]
  intro c hc hasks
  have hcreates := Call.creates_of_asks hasks
  rw [hnone c (mem_hands_of_creates hb hc hcreates)] at hcreates
  cases hcreates

theorem countP_asks (hb : h.groups.Busy) :
    (tx.decision h).calls.countP (·.asks l r)
      = (tx.hands h).countP (·.asks l r) := by
  refine countP_calls hb fun c hc => ?_
  cases c with
  | create id t e r' b => cases hc
  | _ => rfl

/-- A submitted request waits or is handed over. -/
theorem waiting_submit (hb : h.groups.Busy) {p : Provider} {q : Request}
    (hl : h.groups.live? l.provider l.token = some g)
    (hid : p.id = l.provider) :
    ((Transaction.submit p q).leaves h l.provider g).waiting r
        + ((Transaction.submit p q).decision h).calls.countP (·.asks l r)
      = g.waiting r + if r = h.freshRequest then 1 else 0 := by
  obtain ⟨he, htoken⟩ := GroupTable.live?_eq_some_iff.mp hl
  have hfind := GroupTable.find?_eq_some_iff.mpr he
  have hfresh : (if (⟨h.freshRequest, q⟩ : NumberedRequest).id = r then 1
      else 0) = if r = h.freshRequest then 1 else 0 :=
    if_congr eq_comm rfl rfl
  have hleft : (Transaction.submit p q).leaves h l.provider g
      = (g.accept ⟨h.freshRequest, q⟩).1 := if_pos hid
  rw [countP_asks hb, hleft]
  unfold hands Group.accept
  dsimp only
  rw [hid, hfind, (hb _ he).1, if_neg Bool.false_ne_true]
  dsimp only
  cases g.endpoint with
  | none =>
      show (g.pending ++ [_]).countP _ + 0 = g.pending.countP _ + _
      rw [List.countP_append, List.countP_singleton, Nat.add_zero]
      simp [eq_comm]
  | some endpoint =>
      dsimp only
      rw [htoken, List.countP_singleton, Call.asks_handOver]
      show g.waiting r + _ = _
      simp [eq_comm]

/-- What waited on a link is handed over when its provider is connected. -/
theorem waiting_connected (hb : h.groups.Busy) {endpoint : Endpoint}
    (hl : h.groups.live? l.provider l.token = some g) :
    ((Transaction.connected l endpoint).leaves h l.provider g).waiting r
        + ((Transaction.connected l endpoint).decision h).calls.countP
            (·.asks l r)
      = g.waiting r := by
  obtain ⟨he, htoken⟩ := GroupTable.live?_eq_some_iff.mp hl
  have hleft : (Transaction.connected l endpoint).leaves h l.provider g
      = g.connect endpoint := only_self (·.connect endpoint) htoken
  rw [countP_asks hb, hleft]
  unfold hands
  dsimp only
  rw [hl, Group.connect_eq, (hb _ he).1, if_neg Bool.false_ne_true]
  show 0 + (g.pending.map _).countP _ = g.pending.countP _
  rw [Nat.zero_add, List.countP_map]
  refine List.countP_congr fun n _ => ?_
  rw [Function.comp_apply, Call.asks_handOver]

/-- On a live link a transaction moves requests from waiting to calls; only
a request just submitted is new. -/
theorem waiting_leaves (hb : h.groups.Busy)
    (hl : h.groups.live? l.provider l.token = some g) :
    (tx.leaves h l.provider g).waiting r
        + (tx.decision h).calls.countP (·.asks l r)
      ≤ g.waiting r + if r = h.freshRequest then tx.asks else 0 := by
  -- where nothing is handed over on the link, nothing may begin to wait
  have hquiet : (∀ c ∈ tx.hands h, c.creates l = false) →
      (tx.leaves h l.provider g).waiting r ≤ g.waiting r →
      (tx.leaves h l.provider g).waiting r
          + (tx.decision h).calls.countP (·.asks l r)
        ≤ g.waiting r + if r = h.freshRequest then tx.asks else 0 := by
    intro hnone hle
    rw [countP_asks_eq_zero hb hnone]
    omega
  have htoken := (GroupTable.live?_eq_some_iff.mp hl).2
  have hnocreate : (∀ p q, tx = .submit p q → p.id ≠ l.provider) →
      (∀ endpoint, tx ≠ .connected l endpoint) →
      ∀ c ∈ tx.hands h, c.creates l = false := by
    intro hsubmit hconnected c hc
    rw [Bool.eq_false_iff]
    intro hcreates
    obtain ⟨g', -, hcases⟩ := creates_of_mem_hands hc hcreates
    rcases hcases with ⟨p, q, e, htx, hid, -⟩ | ⟨e, htx, -⟩
    · exact hsubmit p q htx hid
    · exact hconnected e htx
  have honly : ∀ (l' : Link) (work : Group → Group),
      (∀ g : Group, (work g).waiting r ≤ g.waiting r) →
      (l'.only work l.provider g).waiting r ≤ g.waiting r := by
    intro l' work hle
    unfold Link.only
    split
    · exact hle g
    · exact Nat.le_refl _
  cases tx with
  | submit p q =>
      by_cases hid : p.id = l.provider
      · exact Nat.le_of_eq (waiting_submit hb hl hid)
      · refine hquiet (hnocreate ?_ fun _ => nofun) ?_
        · rintro p' q' heq
          cases heq
          exact hid
        · exact Nat.le_of_eq (congrArg (Group.waiting · r) (if_neg hid))
  | connected l' endpoint =>
      by_cases hsame : l' = l
      · subst hsame
        rw [waiting_connected hb hl]
        exact Nat.le_add_right _ _
      · refine hquiet (hnocreate (fun _ _ => nofun) ?_) ?_
        · rintro e heq
          cases heq
          exact hsame rfl
        · have hleft : l'.only (·.connect endpoint) l.provider g = g :=
            only_of_ne hsame htoken
          exact Nat.le_of_eq (congrArg (Group.waiting · r) hleft)
  | answered a session =>
      refine hquiet (hnocreate (fun _ _ => nofun) fun _ => nofun) ?_
      refine honly a.link _ fun g => ?_
      exact Nat.le_of_eq
        (finished_keeps (Group.waiting · r) (fun _ _ _ => rfl) _)
  | forgetRefused l' =>
      exact hquiet (hnocreate (fun _ _ => nofun) fun _ => nofun)
        (honly l' _ fun _ => Nat.zero_le _)
  | dropWork l' =>
      exact hquiet (hnocreate (fun _ _ => nofun) fun _ => nofun)
        (honly l' _ fun _ => Nat.zero_le _)
  | retireEvery =>
      exact hquiet (hnocreate (fun _ _ => nofun) fun _ => nofun)
        (Nat.zero_le _)
  | disconnected l' =>
      exact hquiet (hnocreate (fun _ _ => nofun) fun _ => nofun)
        (honly l' _ fun _ => Nat.le_refl _)
  | established l' =>
      exact hquiet (hnocreate (fun _ _ => nofun) fun _ => nofun)
        (honly l' _ fun _ => Nat.le_refl _)
  | ownerLost l' listener =>
      exact hquiet (hnocreate (fun _ _ => nofun) fun _ => nofun)
        (honly l' _ fun _ => Nat.le_refl _)
  | stay =>
      exact hquiet (hnocreate (fun _ _ => nofun) fun _ => nofun)
        (Nat.le_refl _)
  | releaseListener listener =>
      exact hquiet (hnocreate (fun _ _ => nofun) fun _ => nofun)
        (Nat.le_refl _)

/-- In a group that is opened only the request just submitted waits. -/
theorem waiting_opens (hopened : (id, g) ∈ tx.opens h) :
    g.waiting r ≤ if r = h.freshRequest then tx.asks else 0 := by
  cases tx with
  | submit p q =>
      unfold opens at hopened
      dsimp only at hopened
      split at hopened
      · cases List.mem_singleton.mp hopened
        show [_].countP _ ≤ if _ then 1 else 0
        rw [List.countP_singleton]
        simp [eq_comm]
      · cases hopened
  | _ => cases hopened

/-- A transaction moves the requests that wait on a link from waiting to
calls; only a request just submitted is new. -/
theorem waiting_decision (hb : h.groups.Busy) :
    (tx.decision h).host.groups.waiting l r
        + (tx.decision h).calls.countP (·.asks l r)
      ≤ h.groups.waiting l r + if r = h.freshRequest then tx.asks else 0 := by
  cases hl : h.groups.live? l.provider l.token with
  | some g =>
      have hleft : (tx.decision h).host.groups.waiting l r
          ≤ (tx.leaves h l.provider g).waiting r := by
        unfold GroupTable.waiting
        rw [live?_decision hb hl]
        cases (tx.leaves h l.provider g).isIdle with
        | true => exact Nat.zero_le _
        | false => exact Nat.le_refl _
      have hbefore : h.groups.waiting l r = g.waiting r := by
        unfold GroupTable.waiting
        rw [hl]
      rw [hbefore]
      exact Nat.le_trans (Nat.add_le_add_right hleft _)
        (waiting_leaves hb hl)
  | none =>
      have hnone : ∀ c ∈ tx.hands h, c.creates l = false := by
        intro c hc
        rw [Bool.eq_false_iff]
        intro hcreates
        obtain ⟨g, hsome, -⟩ := creates_of_mem_hands hc hcreates
        rw [hl] at hsome
        cases hsome
      rw [countP_asks_eq_zero hb hnone, Nat.add_zero]
      unfold GroupTable.waiting
      rw [hl]
      cases hl' : (tx.decision h).host.groups.live? l.provider l.token with
      | none => exact Nat.zero_le _
      | some g' =>
          obtain ⟨hopened, -⟩ := live?_opened hb hl hl'
          rw [Nat.zero_add]
          exact waiting_opens hopened

end Transaction

end SpellSessions
