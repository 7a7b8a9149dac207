/-
The requests that a group holds, followed through one transaction.

A group holds a request while it waits or is ongoing. A transaction keeps
what a link holds, drops it, or moves it to the call that tells its owner;
only a request just submitted is new, and it joins one link, the one that
`joins` names (`held_decision`). What is ongoing afterwards was ongoing
before or comes with the call that hands it over (`ongoing_origin`).
-/
import SpellSessions.Proofs.Transaction.Requests

namespace SpellSessions

-- ============================================================ what is held

/-- Whether a call tells the owner of a request made on the link. -/
def Call.tellsOn (l : Link) (r : RequestId) : Call → Bool
  | notify id t r' _ _ _ => id = l.provider && t = l.token && r' = r
  | _ => false

namespace Group

/-- The requests of a group, in the order of their arrival. -/
def requests (g : Group) : List NumberedRequest :=
  g.ongoing ++ g.pending

/-- How often a group holds a request. -/
def held (g : Group) (r : RequestId) : Nat :=
  g.requests.countP (·.id = r)

variable {g : Group} {r : RequestId}

theorem held_pos_iff : 0 < g.held r ↔ ∃ n ∈ g.requests, n.id = r := by
  unfold held
  rw [List.countP_pos_iff]
  simp

theorem waiting_le_held : g.waiting r ≤ g.held r := by
  unfold waiting held requests
  rw [List.countP_append]
  exact Nat.le_add_left _ _

theorem held_accept (hret : g.retired = false) (n : NumberedRequest) :
    (g.accept n).1.held r = g.held r + if n.id = r then 1 else 0 := by
  unfold accept held requests
  rw [hret, if_neg Bool.false_ne_true]
  cases g.endpoint with
  | none =>
      simp only [List.countP_append, List.countP_singleton,
        decide_eq_true_eq]
      omega
  | some endpoint =>
      simp only [List.countP_append, List.countP_singleton,
        decide_eq_true_eq]
      omega

theorem held_connect (endpoint : Endpoint) :
    (g.connect endpoint).held r = g.held r := by
  rw [connect_eq]
  unfold held requests
  split
  · rfl
  · simp

/-- An answer takes the request that it finds, and no other. -/
theorem held_finished (hret : g.retired = false) {q : RequestId}
    {n : NumberedRequest} (hf : g.ongoing.find? (·.id = q) = some n) :
    (g.finished q).held r + (if q = r then 1 else 0) = g.held r := by
  have hfinish := Group.finish?_of_live hret q
  rw [hf] at hfinish
  rw [Group.finished_of_some hfinish]
  show (g.ongoing.eraseP (·.id = q) ++ g.pending).countP (·.id = r) + _
    = (g.ongoing ++ g.pending).countP (·.id = r)
  obtain ⟨m, before, after, -, hm, hsplit, herase⟩ :=
    List.exists_of_eraseP (List.mem_of_find?_eq_some hf)
      (List.find?_some hf)
  rw [herase, hsplit, ← of_decide_eq_true hm]
  simp only [List.countP_append, List.countP_cons, decide_eq_true_eq]
  omega

theorem held_finished_le (hret : g.retired = false) (q : RequestId) :
    (g.finished q).held r ≤ g.held r := by
  cases hf : g.ongoing.find? (·.id = q) with
  | none =>
      have hfinish := Group.finish?_of_live hret q
      rw [hf] at hfinish
      exact Nat.le_of_eq (congrArg (held · r) (finished_of_none hfinish))
  | some n =>
      exact Nat.le_of_add_right_le (Nat.le_of_eq (held_finished hret hf))

/-- A request that is accepted is ongoing at once where the provider is
connected. -/
theorem ongoing_of_accept (hret : g.retired = false) {n : NumberedRequest}
    (hongoing : (g.accept n).1.hasOngoing r) :
    g.hasOngoing r ∨ n.id = r ∧ ∃ endpoint, g.endpoint = some endpoint := by
  unfold accept at hongoing
  rw [hret, if_neg Bool.false_ne_true] at hongoing
  cases hendpoint : g.endpoint with
  | none =>
      rw [hendpoint] at hongoing
      exact .inl hongoing
  | some endpoint =>
      rw [hendpoint] at hongoing
      obtain ⟨m, hm, hr⟩ := hongoing
      rcases List.mem_append.mp hm with hm | hm
      · exact .inl ⟨m, hm, hr⟩
      · cases List.mem_singleton.mp hm
        exact .inr ⟨hr, endpoint, rfl⟩

theorem ongoing_of_connect (hret : g.retired = false) {endpoint : Endpoint}
    (hongoing : (g.connect endpoint).hasOngoing r) :
    g.hasOngoing r ∨ ∃ n ∈ g.pending, n.id = r := by
  rw [connect_eq, hret, if_neg Bool.false_ne_true] at hongoing
  obtain ⟨n, hn, hr⟩ := hongoing
  rcases List.mem_append.mp hn with hn | hn
  · exact .inl ⟨n, hn, hr⟩
  · exact .inr ⟨n, hn, hr⟩

theorem ongoing_of_finished (hret : g.retired = false) {q : RequestId}
    (hongoing : (g.finished q).hasOngoing r) : g.hasOngoing r := by
  have hfinish := finish?_of_live hret q
  cases hf : g.ongoing.find? (·.id = q) with
  | none =>
      rw [hf] at hfinish
      rw [finished_of_none hfinish] at hongoing
      exact hongoing
  | some m =>
      rw [hf] at hfinish
      rw [finished_of_some hfinish] at hongoing
      obtain ⟨n, hn, hr⟩ := hongoing
      exact ⟨n, List.eraseP_subset hn, hr⟩

end Group

/-- How often a live link holds a request. -/
def GroupTable.held (t : GroupTable) (l : Link) (r : RequestId) : Nat :=
  match t.live? l.provider l.token with
  | none => 0
  | some g => g.held r

theorem GroupTable.held_of_perm {t t' : GroupTable}
    (h : t.entries.Perm t'.entries) (l : Link) (r : RequestId) :
    t.held l r = t'.held l r := by
  unfold held
  rw [live?_of_perm h]

theorem GroupTable.waiting_le_held (t : GroupTable) (l : Link)
    (r : RequestId) : t.waiting l r ≤ t.held l r := by
  unfold waiting held
  cases t.live? l.provider l.token with
  | none => exact Nat.le_refl 0
  | some g => exact Group.waiting_le_held

namespace Transaction

variable {h : Host} {tx : Transaction} {l : Link} {id : ProviderId}
  {g g' : Group} {c : Call} {r : RequestId}

/-- The link that a submitted request joins: that of its provider's group,
or of the group that is opened for it. -/
def joins (h : Host) : Transaction → Option Link
  | .submit p _ =>
    match h.groups.find? p.id with
    | none => some ⟨p.id, h.freshToken⟩
    | some g => some ⟨p.id, g.token⟩
  | _ => none

theorem joins_of_live {p : Provider} {q : Request}
    (hl : h.groups.live? l.provider l.token = some g)
    (hid : p.id = l.provider) : (Transaction.submit p q).joins h = some l := by
  obtain ⟨he, htoken⟩ := GroupTable.live?_eq_some_iff.mp hl
  unfold joins
  dsimp only
  rw [hid, GroupTable.find?_eq_some_iff.mpr he]
  dsimp only
  rw [htoken]

-- ======================================================== what is told

/-- An owner is told of a request that is found ongoing on a live link. -/
theorem tells_of_mem_hands (hc : c ∈ tx.hands h)
    (htells : c.tellsOn l r = true) :
    ∃ session, tx = .answered ⟨l.provider, l.token, r⟩ session := by
  cases mem_hands_iff.mp hc with
  | @answers a session g n hl hn =>
      simp only [Call.tellsOn, Bool.and_eq_true, decide_eq_true_eq] at htells
      obtain ⟨⟨hid, htoken⟩, hrequest⟩ := htells
      rw [← hid, ← htoken, ← hrequest]
      exact ⟨session, rfl⟩
  | _ => cases htells

/-- Owners are told by what a transaction hands out. -/
theorem countP_tellsOn (hb : h.groups.Busy) :
    (tx.decision h).calls.countP (·.tellsOn l r)
      = (tx.hands h).countP (·.tellsOn l r) := by
  refine countP_calls hb fun c hc => ?_
  cases c with
  | notify id t r' o k s => cases hc
  | _ => rfl

theorem countP_tellsOn_eq_zero (hb : h.groups.Busy)
    (hnot : ∀ s, tx ≠ .answered ⟨l.provider, l.token, r⟩ s) :
    (tx.decision h).calls.countP (·.tellsOn l r) = 0 := by
  rw [countP_tellsOn hb, List.countP_eq_zero]
  intro c hc htells
  obtain ⟨session, htx⟩ := tells_of_mem_hands hc htells
  exact hnot session htx

-- ============================================================ one live link

/-- The answer to a request on a live link moves the request to the call
that tells its owner. -/
theorem held_answered (hb : h.groups.Busy) {session : Option Session}
    (hl : h.groups.live? l.provider l.token = some g) :
    (g.finished r).held r
        + ((Transaction.answered ⟨l.provider, l.token, r⟩
            session).decision h).calls.countP (·.tellsOn l r)
      = g.held r := by
  have hret := (hb _ (GroupTable.live?_eq_some_iff.mp hl).1).1
  rw [countP_tellsOn hb]
  unfold hands
  dsimp only
  rw [hl]
  dsimp only
  cases hf : g.ongoing.find? (·.id = r) with
  | none =>
      have hfinish := Group.finish?_of_live hret r
      rw [hf] at hfinish
      rw [Group.finished_of_none hfinish]
      rfl
  | some n =>
      rw [← Group.held_finished hret hf, if_pos rfl]
      simp [Call.tellsOn]

/-- What a change of one link leaves, it leaves to that link. -/
theorem held_only_le {work : Group → Group} (l' : Link)
    (hle : (work g).held r ≤ g.held r) :
    (l'.only work id g).held r ≤ g.held r := by
  unfold Link.only
  split
  · exact hle
  · exact Nat.le_refl _

/-- Nothing is added to what a group holds but by a request for it. -/
theorem held_leaves_le (hret : g.retired = false)
    (hnot : ∀ p q, tx = .submit p q → p.id ≠ id) :
    (tx.leaves h id g).held r ≤ g.held r := by
  cases tx with
  | stay => exact Nat.le_refl _
  | submit p q =>
      exact Nat.le_of_eq (congrArg (Group.held · r) (if_neg (hnot p q rfl)))
  | connected l' endpoint =>
      exact held_only_le l' (Nat.le_of_eq (Group.held_connect endpoint))
  | disconnected l' => exact held_only_le l' (Nat.le_refl _)
  | answered a session =>
      exact held_only_le a.link (Group.held_finished_le hret a.request)
  | established l' => exact held_only_le l' (Nat.le_refl _)
  | forgetRefused l' => exact held_only_le l' (Nat.zero_le _)
  | dropWork l' => exact held_only_le l' (Nat.zero_le _)
  | ownerLost l' listener => exact held_only_le l' (Nat.le_refl _)
  | releaseListener listener => exact Nat.le_refl _
  | retireEvery => exact Nat.zero_le _

/-- On a live link a transaction keeps requests, drops them, or tells their
owners; only a request that joins the link is new. -/
theorem held_leaves (hb : h.groups.Busy)
    (hl : h.groups.live? l.provider l.token = some g) :
    (tx.leaves h l.provider g).held r
        + (tx.decision h).calls.countP (·.tellsOn l r)
      ≤ g.held r
        + if tx.joins h = some l ∧ r = h.freshRequest then 1 else 0 := by
  obtain ⟨he, htoken⟩ := GroupTable.live?_eq_some_iff.mp hl
  have hret := (hb _ he).1
  by_cases hanswered : ∃ s, tx = .answered ⟨l.provider, l.token, r⟩ s
  · obtain ⟨session, rfl⟩ := hanswered
    have hleft : (Transaction.answered ⟨l.provider, l.token, r⟩
        session).leaves h l.provider g = g.finished r :=
      only_self (·.finished r) htoken
    rw [hleft, held_answered hb hl]
    exact Nat.le_add_right _ _
  -- otherwise nobody is told, and it is enough that nothing is added
  rw [countP_tellsOn_eq_zero hb fun s heq => hanswered ⟨s, heq⟩]
  by_cases hsubmit : ∃ p q, tx = .submit p q ∧ p.id = l.provider
  · obtain ⟨p, q, rfl, hid⟩ := hsubmit
    have hleft : (Transaction.submit p q).leaves h l.provider g
        = (g.accept ⟨h.freshRequest, q⟩).1 := if_pos hid
    rw [hleft, Group.held_accept hret, joins_of_live hl hid]
    simp [eq_comm]
  · have hle : (tx.leaves h l.provider g).held r ≤ g.held r :=
      held_leaves_le hret fun p q htx hid => hsubmit ⟨p, q, htx, hid⟩
    omega

-- =============================================================== any link

/-- A group that is opened holds the request that joins it. -/
theorem held_opens (hopened : (id, g) ∈ tx.opens h) :
    tx.joins h = some ⟨id, h.freshToken⟩
      ∧ g.held r = if r = h.freshRequest then 1 else 0 := by
  cases tx with
  | submit p q =>
      unfold opens at hopened
      dsimp only at hopened
      split at hopened
      · next hf =>
          cases List.mem_singleton.mp hopened
          unfold joins
          dsimp only
          rw [hf]
          refine ⟨rfl, ?_⟩
          show ([] ++ [_]).countP _ = _
          rw [List.nil_append, List.countP_singleton]
          simp [eq_comm]
      · cases hopened
  | _ => cases hopened

/-- A transaction keeps the requests of a link, drops them, or tells their
owners; only a request that joins the link is new. -/
theorem held_decision (hb : h.groups.Busy) :
    (tx.decision h).host.groups.held l r
        + (tx.decision h).calls.countP (·.tellsOn l r)
      ≤ h.groups.held l r
        + if tx.joins h = some l ∧ r = h.freshRequest then 1 else 0 := by
  unfold GroupTable.held
  cases hl : h.groups.live? l.provider l.token with
  | some g =>
      have hleaves := tx.held_leaves (r := r) hb hl
      rw [live?_decision hb hl]
      cases (tx.leaves h l.provider g).isIdle with
      | false => exact hleaves
      | true =>
          show 0 + _ ≤ _
          dsimp only
          omega
  | none =>
      have htold : (tx.decision h).calls.countP (·.tellsOn l r) = 0 := by
        rw [countP_tellsOn hb, List.countP_eq_zero]
        intro c hc htells
        obtain ⟨session, rfl⟩ := tells_of_mem_hands hc htells
        unfold hands at hc
        dsimp only at hc
        rw [hl] at hc
        cases hc
      rw [htold]
      cases hl' : (tx.decision h).host.groups.live? l.provider l.token with
      | none => exact Nat.zero_le _
      | some g' =>
          obtain ⟨hopened, htoken⟩ := live?_opened hb hl hl'
          obtain ⟨hjoins, hheld⟩ := held_opens (r := r) hopened
          rw [← htoken] at hjoins
          dsimp only
          rw [hjoins, hheld]
          simp

-- ============================================================ what goes on

/-- What is ongoing in a group after a transaction was ongoing before, or is
handed over with it. -/
theorem ongoing_of_leaves (hb : h.groups.Busy)
    (hl : h.groups.live? l.provider l.token = some g)
    (hongoing : (tx.leaves h l.provider g).hasOngoing r) :
    g.hasOngoing r ∨ ∃ c ∈ (tx.decision h).calls, c.asks l r = true := by
  obtain ⟨he, htoken⟩ := GroupTable.live?_eq_some_iff.mp hl
  have hret := (hb _ he).1
  -- a change of the group of one link is a change of this one, or of another
  have honly : ∀ {l' : Link} {work : Group → Group},
      (l'.only work l.provider g).hasOngoing r →
      g.hasOngoing r ∨ l' = l ∧ (work g).hasOngoing r := by
    intro l' work hchanged
    by_cases hsame : l' = l
    · subst hsame
      rw [only_self _ htoken] at hchanged
      exact .inr ⟨rfl, hchanged⟩
    · rw [only_of_ne hsame htoken] at hchanged
      exact .inl hchanged
  -- one that adds nothing to what is ongoing
  have hkeeps : ∀ {l' : Link} {work : Group → Group},
      ((work g).hasOngoing r → g.hasOngoing r) →
      (l'.only work l.provider g).hasOngoing r → g.hasOngoing r :=
    fun hsub hchanged => (honly hchanged).elim id fun hwork => hsub hwork.2
  have hnone : g.clear.hasOngoing r → g.hasOngoing r := by
    rintro ⟨n, hn, -⟩
    cases hn
  cases tx with
  | stay => exact .inl hongoing
  | submit p q =>
      by_cases hid : p.id = l.provider
      · have hleft : (Transaction.submit p q).leaves h l.provider g
            = (g.accept ⟨h.freshRequest, q⟩).1 := if_pos hid
        rw [hleft] at hongoing
        rcases Group.ongoing_of_accept hret hongoing with
          hbefore | ⟨hr, endpoint, hendpoint⟩
        · exact .inl hbefore
        · have hg := GroupTable.find?_eq_some_iff.mpr he
          rw [← hid] at hg
          have hc : .handOver p.id g.token endpoint ⟨h.freshRequest, q⟩
              ∈ (Transaction.submit p q).hands h :=
            mem_hands_iff.mpr (.joins hg hendpoint)
          rw [hid, htoken] at hc
          refine .inr ⟨_, mem_calls_of_mem_hands hb hc, ?_⟩
          rw [Call.asks_handOver]
          exact decide_eq_true hr
      · have hleft : (Transaction.submit p q).leaves h l.provider g = g :=
          if_neg hid
        rw [hleft] at hongoing
        exact .inl hongoing
  | connected l' endpoint =>
      rcases honly hongoing with hbefore | ⟨rfl, hconnected⟩
      · exact .inl hbefore
      rcases Group.ongoing_of_connect hret hconnected with
        hbefore | ⟨n, hn, hr⟩
      · exact .inl hbefore
      · have hc : .handOver l'.provider l'.token endpoint n
            ∈ (Transaction.connected l' endpoint).hands h :=
          mem_hands_iff.mpr (.drains hl hn)
        refine .inr ⟨_, mem_calls_of_mem_hands hb hc, ?_⟩
        rw [Call.asks_handOver]
        exact decide_eq_true hr
  | answered a session =>
      exact .inl (hkeeps (Group.ongoing_of_finished hret) hongoing)
  | disconnected l' => exact .inl (hkeeps id hongoing)
  | established l' => exact .inl (hkeeps id hongoing)
  | forgetRefused l' => exact .inl (hkeeps hnone hongoing)
  | dropWork l' => exact .inl (hkeeps hnone hongoing)
  | ownerLost l' k => exact .inl (hkeeps id hongoing)
  | releaseListener k => exact .inl hongoing
  | retireEvery => exact .inl (hnone hongoing)

/-- What is ongoing on a link after a transaction was ongoing before, or is
handed over with it. -/
theorem ongoing_origin (hb : h.groups.Busy)
    (hl' : (tx.decision h).host.groups.live? l.provider l.token = some g')
    (hongoing : g'.hasOngoing r) :
    (∃ g, h.groups.live? l.provider l.token = some g ∧ g.hasOngoing r)
      ∨ ∃ c ∈ (tx.decision h).calls, c.asks l r = true := by
  cases hl : h.groups.live? l.provider l.token with
  | none =>
      obtain ⟨hopened, -⟩ := live?_opened hb hl hl'
      obtain ⟨-, q, rfl⟩ := mem_opens hopened
      obtain ⟨n, hn, -⟩ := hongoing
      cases hn
  | some g =>
      rw [live?_decision hb hl] at hl'
      split at hl'
      · cases hl'
      · cases hl'
        rcases ongoing_of_leaves hb hl hongoing with hbefore | hcalls
        · exact .inl ⟨g, rfl, hbefore⟩
        · exact .inr hcalls

end Transaction

end SpellSessions
