/-
What every transaction does, in the four parts of Transaction.lean.

Every entry is changed by `leaves` and goes if it is left idle, a first
request opens one more (`entries_decision`); the calls owed are those that
are handed out and the releases (`calls_decision`). The rest of the host's
state is counted in `tokens_decision` and `requests_decision`, and left alone
otherwise (`decision_keeps`). Nothing after this file unfolds a transition.
-/
import SpellSessions.Machine.Weight
import SpellSessions.Proofs.Transaction.Retire

namespace SpellSessions.Transaction

variable {h : Host} {tx : Transaction} {id : ProviderId} {g : Group}

-- =================================================== a request submitted

theorem leaves_submit_of_none {p : Provider} {r : Request}
    (hf : h.groups.find? p.id = none) :
    ∀ e ∈ h.groups.entries,
      (Transaction.submit p r).leaves h e.1 e.2 = e.2 := by
  intro e he
  refine if_neg fun hid => ?_
  exact GroupTable.find?_eq_none_iff.mp hf e.2 (hid ▸ he)

theorem isIdle_leaves_submit (hb : h.groups.Busy) {p : Provider}
    {r : Request} :
    ∀ e ∈ h.groups.entries,
      ((Transaction.submit p r).leaves h e.1 e.2).isIdle = false := by
  intro e he
  show (if p.id = e.1 then (e.2.accept _).1 else e.2).isIdle = false
  split
  · exact Group.isIdle_accept (hb e he).1 _
  · exact (hb e he).2

/-- A first request for a provider opens a group in which it waits. -/
theorem submit_opens {p : Provider} (r : Request)
    (hf : h.groups.find? p.id = none) :
    (h.submit p r).host.groups.entries
        = h.groups.entries ++ [(p.id, .first h.freshToken ⟨h.freshRequest, r⟩)]
      ∧ (h.submit p r).calls = [.connect p h.freshToken] := by
  have hopen : h.openGroup p
      = ⟨{ h with
          tokens := h.tokens + 1
          groups := h.groups.insert p.id (.opening h.freshToken) },
        [.connect p h.freshToken], [.groupCreated p.id h.freshToken]⟩ := by
    unfold Host.openGroup
    rw [hf]
  have hfind := GroupTable.find?_insert (g := .opening h.freshToken) hf
  unfold Host.submit Decision.andThen
  rw [hopen]
  unfold Host.offer
  dsimp only
  rw [hfind]
  refine ⟨?_, rfl⟩
  show ((h.groups.insert p.id _).entries.map _) = _
  rw [GroupTable.entries_insert hf, List.map_append]
  congr 1
  · refine (List.map_congr_left fun e he => ?_).trans (List.map_id _)
    have hne : e.1 ≠ p.id := fun hid =>
      GroupTable.find?_eq_none_iff.mp hf e.2 (hid ▸ he)
    exact if_neg hne
  · rw [List.map_singleton]
    exact congrArg (fun e => [e]) (if_pos rfl)

/-- A further request joins the group of its provider. -/
theorem submit_joins (hb : h.groups.Busy) {p : Provider} (r : Request)
    (hf : h.groups.find? p.id = some g) :
    (h.submit p r).host.groups.entries
        = h.groups.kept ((Transaction.submit p r).leaves h)
      ∧ (h.submit p r).calls = (Transaction.submit p r).hands h := by
  have hg := GroupTable.find?_eq_some_iff.mp hf
  have hret := (hb _ hg).1
  have hkept : h.groups.kept ((Transaction.submit p r).leaves h)
      = (h.groups.update p.id fun _ =>
          (g.accept ⟨h.freshRequest, r⟩).1).entries := by
    rw [GroupTable.kept_of_busy (isIdle_leaves_submit hb),
      GroupTable.entries_update_const]
    refine List.map_congr_left fun e he => ?_
    show (e.1, if p.id = e.1 then (e.2.accept _).1 else e.2) = _
    by_cases hid : e.1 = p.id
    · have hgroup : e.2 = g := GroupTable.group_unique (hid ▸ he) hg
      rw [if_pos hid.symm, if_pos hid, hgroup]
    · rw [if_neg (Ne.symm hid), if_neg hid]
  have hopen : h.openGroup p = h.stay [] := by
    unfold Host.openGroup
    rw [hf]
  rw [hkept]
  unfold Host.submit Decision.andThen hands
  rw [hopen]
  unfold Host.offer Host.stay
  dsimp only
  rw [hf]
  dsimp only
  cases he : g.endpoint with
  | none =>
      have hacc : g.accept ⟨h.freshRequest, r⟩
          = ({ g with pending := g.pending ++ [⟨h.freshRequest, r⟩] },
            .waits) := by
        unfold Group.accept
        rw [hret, if_neg Bool.false_ne_true, he]
      rw [hacc]
      exact ⟨rfl, rfl⟩
  | some endpoint =>
      have hacc : g.accept ⟨h.freshRequest, r⟩
          = ({ g with ongoing := g.ongoing ++ [⟨h.freshRequest, r⟩] },
            .handedTo endpoint) := by
        unfold Group.accept
        rw [hret, if_neg Bool.false_ne_true, he]
      rw [hacc]
      exact ⟨rfl, rfl⟩

-- ============================================ a group changed, then seen to

/-- The group of a connection is changed, and then looked at. -/
theorem changed_effect (hb : h.groups.Busy) (l : Link)
    (work : Group → Group) (notices : List Notice)
    (htok : ∀ g, (work g).token = g.token)
    (hret : ∀ g, (work g).retired = g.retired)
    (hcon : ∀ g, (work g).connecting = g.connecting) :
    let changed : Decision :=
      match h.groups.live? l.provider l.token with
      | none => h.stay []
      | some g =>
        (h.withGroups (h.groups.update l.provider fun _ => work g)).stay
          notices
    let d := changed.andThen (·.retireIfIdle l.provider l.token)
    d.host.groups.entries = h.groups.kept (l.only work)
      ∧ d.calls = h.groups.released (l.only work) := by
  cases hl : h.groups.live? l.provider l.token with
  | none =>
      rw [GroupTable.kept_only_of_stale hb hl,
        GroupTable.released_only_of_stale hb hl]
      show (h.retireIfIdle l.provider l.token).host.groups.entries = _
        ∧ (h.retireIfIdle l.provider l.token).calls = _
      rw [Host.retireIfIdle_of_stale hl]
      exact ⟨rfl, rfl⟩
  | some g =>
      exact ⟨Host.entries_change hb hl (htok g) (hret g),
        Host.calls_change hb hl (htok g) (hret g) (hcon g)⟩

/-- A request that is answered becomes a listener, so its group is looked
at in vain. -/
theorem answered_effect (hb : h.groups.Busy) (a : ReplyHandle)
    (session : Option Session) :
    (h.answered a.provider a.token a.request session).host.groups.entries
        = h.groups.kept (a.link.only (·.finished a.request))
      ∧ (h.answered a.provider a.token a.request session).calls
        = (Transaction.answered a session).hands h := by
  unfold Host.answered hands
  dsimp only
  cases hl : h.groups.live? a.provider a.token with
  | none =>
      exact ⟨(GroupTable.kept_only_of_stale (l := a.link) hb hl).symm, rfl⟩
  | some g =>
      obtain ⟨hg, htoken⟩ := GroupTable.live?_eq_some_iff.mp hl
      obtain ⟨hret, hwork⟩ := hb _ hg
      have hw := Group.isIdle_finished hwork a.request
      rw [GroupTable.kept_only_of_work (l := a.link) hb hl hw]
      dsimp only
      have hfinish := Group.finish?_of_live hret a.request
      rw [hfinish]
      cases hf : g.ongoing.find? (·.id = a.request) with
      | none =>
          rw [hf] at hfinish
          have hlook := Host.entries_retireIfIdle hl hret
          have hcalls := Host.calls_retireIfIdle hl hret
          rw [hwork, if_neg Bool.false_ne_true] at hlook
          rw [hwork, Bool.false_and, if_neg Bool.false_ne_true] at hcalls
          rw [Group.finished_of_none hfinish]
          exact ⟨hlook.trans (GroupTable.entries_update_same hg).symm, hcalls⟩
      | some r =>
          rw [hf] at hfinish
          have htoken' : (g.finished a.request).token = a.token :=
            (finished_keeps Group.token (fun _ _ _ => rfl) _).trans htoken
          have hret' : (g.finished a.request).retired = false :=
            (finished_keeps Group.retired (fun _ _ _ => rfl) _).trans hret
          have hlive := Host.live?_replaced (g.finished a.request) hl htoken'
          have hlook := Host.entries_retireIfIdle hlive hret'
          have hcalls := Host.calls_retireIfIdle hlive hret'
          rw [hw, if_neg Bool.false_ne_true] at hlook
          rw [hw, Bool.false_and, if_neg Bool.false_ne_true] at hcalls
          rw [Group.finished_of_some hfinish] at hlook hcalls ⊢
          refine ⟨hlook, ?_⟩
          exact congrArg ([Call.notify _ _ _ _ _ _] ++ ·) hcalls

-- ============================================================== entries

/-- What a transaction that submits nothing leaves in the table. -/
theorem entries_of_no_submit (hb : h.groups.Busy)
    (hnot : ∀ p r, tx ≠ .submit p r) :
    (tx.decision h).host.groups.entries = h.groups.kept (tx.leaves h) := by
  cases tx with
  | stay => exact (GroupTable.kept_of_same hb fun _ _ => rfl).symm
  | submit p r => exact absurd rfl (hnot p r)
  | connected l endpoint =>
      have hw : ∀ g : Group, g.isIdle = false →
          (g.connect endpoint).isIdle = false :=
        fun g hg => (Group.isIdle_connect endpoint).trans hg
      refine Eq.trans ?_ (GroupTable.kept_only_of_busy hb hw).symm
      unfold decision Host.connected
      dsimp only
      cases h.groups.live? l.provider l.token <;> rfl
  | disconnected l =>
      have hw : ∀ g : Group, g.isIdle = false → g.disconnect.isIdle = false :=
        fun _ hg => hg
      refine Eq.trans ?_ (GroupTable.kept_only_of_busy hb hw).symm
      unfold decision Host.disconnected
      dsimp only
      cases h.groups.live? l.provider l.token <;> rfl
  | answered a session => exact (answered_effect hb a session).1
  | established l =>
      have hw : ∀ g : Group, g.isIdle = false →
          g.established.isIdle = false := fun _ hg => hg
      refine Eq.trans ?_ (GroupTable.kept_only_of_busy hb hw).symm
      unfold decision Host.established
      dsimp only
      cases h.groups.live? l.provider l.token <;> rfl
  | forgetRefused l =>
      unfold decision Host.forgetRefused leaves
      dsimp only
      cases hl : h.groups.live? l.provider l.token with
      | none => exact (GroupTable.kept_only_of_stale hb hl).symm
      | some g =>
          rw [GroupTable.kept_only hb hl, Group.isIdle_clear, if_pos rfl]
          rfl
  | dropWork l =>
      exact (changed_effect hb l Group.clear _ (fun _ => rfl) (fun _ => rfl)
        fun _ => rfl).1
  | ownerLost l listener =>
      exact (changed_effect hb l (·.eraseListener listener) _ (fun _ => rfl)
        (fun _ => rfl) fun _ => rfl).1
  | releaseListener listener =>
      exact Host.entries_sweep hb (fun _ => rfl) fun _ => rfl
  | retireEvery =>
      exact Host.entries_sweep hb (fun _ => rfl) fun _ => rfl

/-- What a transaction leaves in the table. -/
theorem entries_decision (hb : h.groups.Busy) :
    (tx.decision h).host.groups.entries
      = h.groups.kept (tx.leaves h) ++ tx.opens h := by
  cases tx with
  | submit p r =>
      unfold opens
      dsimp only
      cases hf : h.groups.find? p.id with
      | none =>
          rw [GroupTable.kept_of_same hb (leaves_submit_of_none hf)]
          exact (submit_opens r hf).1
      | some g =>
          rw [List.append_nil]
          exact (submit_joins hb r hf).1
  | _ =>
      refine Eq.trans ?_ (List.append_nil _).symm
      exact entries_of_no_submit hb fun _ _ => nofun

-- ================================================================ calls

/-- The calls that a transaction owes. -/
theorem calls_decision (hb : h.groups.Busy) :
    (tx.decision h).calls = tx.hands h ++ tx.releases h := by
  cases tx with
  | stay =>
      show [] = [] ++ h.groups.released fun _ g => g
      rw [GroupTable.released_of_same hb fun _ _ => rfl]
      rfl
  | submit p r =>
      show (h.submit p r).calls
        = _ ++ h.groups.released ((Transaction.submit p r).leaves h)
      rw [GroupTable.released_of_busy (isIdle_leaves_submit hb),
        List.append_nil]
      cases hf : h.groups.find? p.id with
      | none =>
          rw [(submit_opens r hf).2]
          unfold hands
          dsimp only
          rw [hf]
      | some g => exact (submit_joins hb r hf).2
  | connected l endpoint =>
      have hw : ∀ g : Group, g.isIdle = false →
          (g.connect endpoint).isIdle = false :=
        fun g hg => (Group.isIdle_connect endpoint).trans hg
      show _ = _ ++ h.groups.released (l.only (·.connect endpoint))
      rw [GroupTable.released_only_of_busy hb hw, List.append_nil]
      unfold decision Host.connected hands
      dsimp only
      cases hl : h.groups.live? l.provider l.token with
      | none => rfl
      | some g =>
          have hret := (hb _ (GroupTable.live?_eq_some_iff.mp hl).1).1
          dsimp only
          rw [Group.drained_eq, hret, if_neg Bool.false_ne_true,
            List.map_map]
          rfl
  | disconnected l =>
      have hw : ∀ g : Group, g.isIdle = false → g.disconnect.isIdle = false :=
        fun _ hg => hg
      show _ = [] ++ h.groups.released (l.only Group.disconnect)
      rw [GroupTable.released_only_of_busy hb hw]
      unfold decision Host.disconnected
      dsimp only
      cases h.groups.live? l.provider l.token <;> rfl
  | answered a session =>
      have hw : ∀ g : Group, g.isIdle = false →
          (g.finished a.request).isIdle = false :=
        fun _ hg => Group.isIdle_finished hg a.request
      show _ = _ ++ h.groups.released (a.link.only (·.finished a.request))
      rw [GroupTable.released_only_of_busy hb hw, List.append_nil]
      exact (answered_effect hb a session).2
  | established l =>
      show _ = [] ++ _
      unfold decision Host.established releases
      dsimp only
      cases h.groups.live? l.provider l.token <;> rfl
  | forgetRefused l =>
      show (h.forgetRefused l.provider l.token).calls = []
      exact Host.calls_forgetRefused h l.provider l.token
  | dropWork l =>
      exact (changed_effect hb l Group.clear _ (fun _ => rfl) (fun _ => rfl)
        fun _ => rfl).2
  | ownerLost l listener =>
      exact (changed_effect hb l (·.eraseListener listener) _ (fun _ => rfl)
        (fun _ => rfl) fun _ => rfl).2
  | releaseListener listener =>
      exact Host.calls_sweep hb (fun _ => rfl) (fun _ => rfl) fun _ => rfl
  | retireEvery =>
      exact Host.calls_sweep hb (fun _ => rfl) (fun _ => rfl) fun _ => rfl

/-- When every group is retired each of them is released, but for those that
are connecting. -/
theorem calls_retireEvery (hb : h.groups.Busy) :
    h.retireEvery.calls
      = h.groups.entries.filterMap fun e =>
          if e.2.connecting then none
          else some (.disconnect e.1 e.2.token) := by
  show (Transaction.retireEvery.decision h).calls = _
  rw [calls_decision hb]
  refine List.filterMap_congr fun e _ => ?_
  show (if (e.2.clear.isIdle && !e.2.connecting) = true then _ else none) = _
  rw [Group.isIdle_clear, Bool.true_and]
  cases e.2.connecting <;> rfl

-- ================================================== the rest of the host

theorem retireIfIdle_keeps {α : Type} (part : Host → α)
    (hp : ∀ h groups, part (Host.withGroups h groups) = part h)
    (h : Host) (id : ProviderId) (token : Token) :
    part (h.retireIfIdle id token).host = part h := by
  unfold Host.retireIfIdle
  split
  · rfl
  · split
    · split
      · exact hp _ _
      · exact hp _ _
    · rfl

theorem retireIdleOf_keeps {α : Type} (part : Host → α)
    (hp : ∀ h groups, part (Host.withGroups h groups) = part h)
    (h : Host) (l : List (ProviderId × Token)) :
    part (h.retireIdleOf l).host = part h := by
  induction l generalizing h with
  | nil => rfl
  | cons c rest ih =>
      show part ((h.retireIfIdle c.1 c.2).host.retireIdleOf rest).host = _
      rw [ih, retireIfIdle_keeps part hp]

/-- A transaction that submits nothing changes groups only. -/
theorem decision_keeps {α : Type} (part : Host → α)
    (hp : ∀ h groups, part (Host.withGroups h groups) = part h)
    (hs : ∀ p r, tx = .submit p r → part (h.submit p r).host = part h) :
    part (tx.decision h).host = part h := by
  cases tx with
  | stay => rfl
  | submit p r => exact hs p r rfl
  | connected l endpoint =>
      unfold decision Host.connected
      dsimp only
      split
      · rfl
      · exact hp _ _
  | disconnected l =>
      unfold decision Host.disconnected
      dsimp only
      split
      · rfl
      · exact hp _ _
  | answered a session =>
      unfold decision Host.answered
      dsimp only
      split
      · rfl
      · split
        · exact retireIfIdle_keeps part hp _ _ _
        · exact (retireIfIdle_keeps part hp _ _ _).trans (hp _ _)
  | established l =>
      unfold decision Host.established
      dsimp only
      split
      · exact hp _ _
      · rfl
  | forgetRefused l =>
      unfold decision Host.forgetRefused
      dsimp only
      split
      · rfl
      · exact hp _ _
  | dropWork l =>
      refine (retireIfIdle_keeps part hp _ _ _).trans ?_
      split
      · rfl
      · exact hp _ _
  | ownerLost l listener =>
      refine (retireIfIdle_keeps part hp _ _ _).trans ?_
      split
      · rfl
      · exact hp _ _
  | releaseListener listener =>
      exact (retireIdleOf_keeps part hp _ _).trans (hp _ _)
  | retireEvery =>
      exact (retireIdleOf_keeps part hp _ _).trans (hp _ _)

/-- An offer counts one request and changes groups. -/
theorem offer_keeps {α : Type} (part : Host → α)
    (hp : ∀ h groups, part (Host.withGroups h groups) = part h)
    (h : Host) (id : ProviderId) (r : Request) :
    part (h.offer id r).host
      = part { h with requests := h.requests + 1 } := by
  unfold Host.offer
  dsimp only
  split
  · rfl
  · split <;> exact hp { h with requests := h.requests + 1 } _

theorem openGroup_host (h : Host) (p : Provider) :
    (h.openGroup p).host
      = match h.groups.find? p.id with
        | some _ => h
        | none =>
          { h with
            tokens := h.tokens + 1
            groups := h.groups.insert p.id (.opening h.freshToken) } := by
  unfold Host.openGroup
  cases h.groups.find? p.id <;> rfl

/-- A token is given out to each group that is opened. -/
theorem tokens_decision :
    (tx.decision h).host.tokens = h.tokens + (tx.opens h).length := by
  cases tx with
  | submit p r =>
      show (h.submit p r).host.tokens = _
      refine (offer_keeps Host.tokens (fun _ _ => rfl) _ p.id r).trans ?_
      show (h.openGroup p).host.tokens = _
      rw [openGroup_host]
      unfold opens
      dsimp only
      cases h.groups.find? p.id <;> rfl
  | _ =>
      refine decision_keeps Host.tokens (fun _ _ => rfl) fun p r heq => ?_
      cases heq

/-- The number of requests that the transaction accepts. -/
def asks : Transaction → Nat
  | .submit _ _ => 1
  | _ => 0

theorem asks_le_one : tx.asks ≤ 1 := by
  cases tx with
  | submit p r => exact Nat.le_refl 1
  | _ => exact Nat.zero_le 1

/-- A request id is given out to each request. -/
theorem requests_decision :
    (tx.decision h).host.requests = h.requests + tx.asks := by
  cases tx with
  | submit p r =>
      show (h.submit p r).host.requests = _
      refine (offer_keeps Host.requests (fun _ _ => rfl) _ p.id r).trans ?_
      show (h.openGroup p).host.requests + 1 = _
      rw [openGroup_host]
      cases h.groups.find? p.id <;> rfl
  | _ =>
      refine decision_keeps Host.requests (fun _ _ => rfl) fun p r heq => ?_
      cases heq

/-- A transaction leaves the registry and the user alone: whatever reads
neither groups nor numbers given out reads the same. -/
theorem served_decision {α : Type} (part : Host → α)
    (hp : ∀ h groups tokens requests,
      part { h with
        groups := groups, tokens := tokens, requests := requests }
        = part h) :
    part (tx.decision h).host = part h := by
  refine decision_keeps part (fun h _ => hp h _ h.tokens h.requests) ?_
  intro p r _
  refine (offer_keeps part (fun h _ => hp h _ h.tokens h.requests)
    _ p.id r).trans ?_
  refine (hp (h.openGroup p).host (h.openGroup p).host.groups
    (h.openGroup p).host.tokens _).trans ?_
  rw [openGroup_host]
  cases h.groups.find? p.id with
  | none => exact hp h _ _ h.requests
  | some g => rfl

end SpellSessions.Transaction
