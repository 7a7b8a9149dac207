/-
The calls of one transaction that connect and release, counted for one
connection.

A connection is opening while its group is live and the call that
connects has not returned, and standing while its group is live and that
call came back well. A transaction that does not end the connecting
itself moves a standing connection to a release or leaves it standing
(`standing_decision`), and an opening one comes with a call to connect
(`opening_decision`). The two transactions that end the connecting are
settled apart. On what occasion a transaction hands out a call is said once
(`mem_hands_iff`), and every statement about such calls goes by it.
-/
import SpellSessions.Proofs.Transaction.Connection

namespace SpellSessions

-- ========================================================== whose call

namespace Call

/-- Whether a call connects the link. -/
def connects (l : Link) : Call → Bool
  | connect p t => p.id = l.provider && t = l.token
  | _ => false

/-- Whether a call releases the link. -/
def releases (l : Link) : Call → Bool
  | disconnect id t => id = l.provider && t = l.token
  | _ => false

/-- Whether a call connects under the token, whatever the provider. -/
def connectsUnder (t : Token) : Call → Bool
  | connect _ t' => t' = t
  | _ => false

/-- Whether a call releases what stands under the token. -/
def releasesUnder (t : Token) : Call → Bool
  | disconnect _ t' => t' = t
  | _ => false

theorem connects_iff {c : Call} {l : Link} :
    c.connects l = true
      ↔ ∃ p, p.id = l.provider ∧ c = .connect p l.token := by
  constructor
  · intro h
    cases c with
    | connect p t =>
        obtain ⟨hid, htoken⟩ := Bool.and_eq_true_iff.mp h
        cases of_decide_eq_true htoken
        exact ⟨p, of_decide_eq_true hid, rfl⟩
    | _ => cases h
  · rintro ⟨p, hid, rfl⟩
    simp [connects, hid]

theorem not_connectsUnder {t : Token} (c : Call)
    (h : c.isDisconnect = true) : c.connectsUnder t = false := by
  cases c with
  | disconnect id t' => rfl
  | _ => cases h

end Call

namespace GroupTable

variable {t : GroupTable}

/-- The link is live and its call to connect has not returned: one, or
none. -/
def opening (t : GroupTable) (l : Link) : Nat :=
  ((t.live? l.provider l.token).any (·.connecting)).toNat

/-- The link is live and its call to connect came back well: one, or
none. -/
def standing (t : GroupTable) (l : Link) : Nat :=
  ((t.live? l.provider l.token).any (!·.connecting)).toNat

theorem opening_of_perm {t t' : GroupTable} (h : t.entries.Perm t'.entries)
    (l : Link) : t.opening l = t'.opening l := by
  unfold opening
  rw [live?_of_perm h]

theorem standing_of_perm {t t' : GroupTable} (h : t.entries.Perm t'.entries)
    (l : Link) : t.standing l = t'.standing l := by
  unfold standing
  rw [live?_of_perm h]

/-- What holds of one provider's entry only is counted there. -/
theorem countP_at {q : ProviderId × Group → Bool} (id : ProviderId)
    (hq : ∀ e ∈ t.entries, e.1 ≠ id → q e = false) :
    t.entries.countP q = ((t.find? id).any fun g => q (id, g)).toNat := by
  have hat := t.filterMap_at (f := Option.guard q) id fun e he hid => by
    rw [Option.guard, hq e he hid]
    rfl
  rw [List.countP_eq_length_filter, ← List.filterMap_eq_filter, hat]
  cases t.find? id with
  | none => rfl
  | some g =>
      rw [Option.bind_some, Option.any_some, Option.guard]
      cases q (id, g) <;> rfl

/-- A change releases a link at most once, and does so if it leaves the
link without work after its call to connect came back. -/
theorem countP_released {change : ProviderId → Group → Group} (l : Link) :
    (t.released change).countP (·.releases l)
      = ((t.live? l.provider l.token).any fun g =>
          (change l.provider g).isIdle && !g.connecting).toNat := by
  unfold released
  rw [List.countP_filterMap, countP_at l.provider]
  · unfold live?
    cases t.find? l.provider with
    | none => rfl
    | some g =>
        by_cases htoken : g.token = l.token
        · cases hidle : (change l.provider g).isIdle <;>
            cases hcon : g.connecting <;>
            simp [Call.releases, htoken, hidle, hcon]
        · cases hidle : (change l.provider g).isIdle <;>
            cases hcon : g.connecting <;>
            simp [Call.releases, htoken, hidle, hcon]
  · rintro ⟨k, g⟩ - hid
    dsimp only at hid ⊢
    cases (change k g).isIdle && !g.connecting <;>
      simp [Call.releases, hid]

end GroupTable

-- ============================================ the calls of a transaction

namespace Transaction

variable {h : Host} {tx : Transaction} {l : Link} {id : ProviderId}
  {g : Group} {c : Call}

/-- Whether the transaction belongs to the return of the call that connects
the link. -/
def endsConnecting (l : Link) : Transaction → Bool
  | .established l' => l' = l
  | .forgetRefused l' => l' = l
  | _ => false

/-- A transaction hands out a call: to connect the group that it opens, to
hand over a request that joins a connected group or waited until the
provider was connected, or to tell an owner of an answer. -/
inductive HandsOut (h : Host) : Transaction → Call → Prop
  | opens {p : Provider} {r : Request}
      (hnone : h.groups.find? p.id = none) :
      HandsOut h (.submit p r) (.connect p h.freshToken)
  | joins {p : Provider} {r : Request} {g : Group} {endpoint : Endpoint}
      (hg : h.groups.find? p.id = some g)
      (hendpoint : g.endpoint = some endpoint) :
      HandsOut h (.submit p r)
        (.handOver p.id g.token endpoint ⟨h.freshRequest, r⟩)
  | drains {l : Link} {endpoint : Endpoint} {g : Group} {n : NumberedRequest}
      (hl : h.groups.live? l.provider l.token = some g)
      (hn : n ∈ g.pending) :
      HandsOut h (.connected l endpoint)
        (.handOver l.provider l.token endpoint n)
  | answers {a : ReplyHandle} {session : Option Session} {g : Group}
      {n : NumberedRequest}
      (hl : h.groups.live? a.provider a.token = some g)
      (hn : g.ongoing.find? (·.id = a.request) = some n) :
      HandsOut h (.answered a session)
        (.notify a.provider a.token a.request n.request.owner
          n.request.listener session)

theorem mem_hands_iff : c ∈ tx.hands h ↔ HandsOut h tx c := by
  constructor
  · intro hc
    cases tx with
    | submit p r =>
        unfold hands at hc
        dsimp only at hc
        split at hc
        · next hnone =>
            cases List.mem_singleton.mp hc
            exact .opens hnone
        · next g hg =>
            split at hc
            · cases hc
            · next endpoint hendpoint =>
                cases List.mem_singleton.mp hc
                exact .joins hg hendpoint
    | connected l endpoint =>
        unfold hands at hc
        dsimp only at hc
        split at hc
        · cases hc
        · next g hl =>
            obtain ⟨n, hn, rfl⟩ := List.mem_map.mp hc
            exact .drains hl hn
    | answered a session =>
        unfold hands at hc
        dsimp only at hc
        split at hc
        · cases hc
        · next g hl =>
            split at hc
            · cases hc
            · next n hn =>
                cases List.mem_singleton.mp hc
                exact .answers hl hn
    | _ => cases hc
  · intro hc
    unfold hands
    cases hc with
    | opens hnone =>
        dsimp only
        rw [hnone]
        exact List.mem_singleton.mpr rfl
    | joins hg hendpoint =>
        dsimp only
        rw [hg]
        dsimp only
        rw [hendpoint]
        exact List.mem_singleton.mpr rfl
    | drains hl hn =>
        dsimp only
        rw [hl]
        exact List.mem_map.mpr ⟨_, hn, rfl⟩
    | answers hl hn =>
        dsimp only
        rw [hl]
        dsimp only
        rw [hn]
        exact List.mem_singleton.mpr rfl

theorem not_releases_of_mem_hands (hc : c ∈ tx.hands h) :
    c.releases l = false := by
  cases mem_hands_iff.mp hc with
  | _ => rfl

theorem isDisconnect_of_mem_releases (hc : c ∈ tx.releases h) :
    c.isDisconnect = true := by
  have hreleased : ∀ change, c ∈ h.groups.released change →
      c.isDisconnect = true := by
    intro change hmem
    obtain ⟨e, -, hsome⟩ := List.mem_filterMap.mp hmem
    split at hsome
    · cases hsome
      rfl
    · cases hsome
  cases tx with
  | established l =>
      unfold releases at hc
      dsimp only at hc
      split at hc
      · cases List.mem_singleton.mp hc
        rfl
      · cases hc
  | forgetRefused l => cases hc
  | _ => exact hreleased _ hc

/-- What a transaction owes besides releases is handed out. -/
theorem mem_hands (hb : h.groups.Busy) (hc : c ∈ (tx.decision h).calls)
    (hnot : c.isDisconnect = false) : c ∈ tx.hands h := by
  rw [calls_decision hb] at hc
  refine (List.mem_append.mp hc).resolve_right fun hreleases => ?_
  rw [isDisconnect_of_mem_releases hreleases] at hnot
  cases hnot

theorem mem_calls_of_mem_hands (hb : h.groups.Busy) (hc : c ∈ tx.hands h) :
    c ∈ (tx.decision h).calls := by
  rw [calls_decision hb]
  exact List.mem_append_left _ hc

/-- Calls of a kind that releases are not of are counted in what is handed
out. -/
theorem countP_calls (hb : h.groups.Busy) {q : Call → Bool}
    (hq : ∀ c, c.isDisconnect = true → q c = false) :
    (tx.decision h).calls.countP q = (tx.hands h).countP q := by
  have hreleases : (tx.releases h).countP q = 0 := by
    rw [List.countP_eq_zero]
    intro c hc
    rw [hq c (isDisconnect_of_mem_releases hc)]
    exact Bool.false_ne_true
  rw [calls_decision hb, List.countP_append, hreleases, Nat.add_zero]

/-- A transaction owes a call to connect for each group it opens, under the
fresh token. -/
theorem countP_connectsUnder (hb : h.groups.Busy) (t : Token) :
    (tx.decision h).calls.countP (·.connectsUnder t)
      = if t = h.freshToken then (tx.opens h).length else 0 := by
  rw [countP_calls hb Call.not_connectsUnder]
  cases tx with
  | submit p r =>
      unfold hands opens
      dsimp only
      cases h.groups.find? p.id with
      | none => simp [Call.connectsUnder, List.countP_singleton, eq_comm]
      | some g =>
          dsimp only
          cases g.endpoint <;> simp [Call.connectsUnder, Call.handOver]
  | connected l' endpoint =>
      unfold hands opens
      dsimp only
      cases h.groups.live? l'.provider l'.token with
      | none => simp
      | some g => simp [Function.comp_def, Call.connectsUnder, Call.handOver]
  | answered a session =>
      unfold hands opens
      dsimp only
      cases h.groups.live? a.provider a.token with
      | none => simp
      | some g =>
          dsimp only
          cases g.ongoing.find? (·.id = a.request) <;>
            simp [Call.connectsUnder]
  | _ => simp [hands, opens]

/-- A group is opened together with the call that connects it. -/
theorem connect_mem_hands (hopened : (id, g) ∈ tx.opens h) :
    ∃ p, p.id = id ∧ .connect p h.freshToken ∈ tx.hands h := by
  cases tx with
  | submit p r =>
      unfold opens at hopened
      dsimp only at hopened
      split at hopened
      · next hnone =>
          cases List.mem_singleton.mp hopened
          exact ⟨p, rfl, mem_hands_iff.mpr (.opens hnone)⟩
      · cases hopened
  | _ => cases hopened

theorem only_self (work : Group → Group) (htoken : g.token = l.token) :
    l.only work l.provider g = work g := by
  refine if_pos ?_
  unfold Link.isOf
  rw [htoken, decide_eq_true rfl, decide_eq_true rfl]
  rfl

/-- A group that does not belong to a link is not changed by what becomes
of the link. -/
theorem only_of_ne {l' : Link} {work : Group → Group} (hne : l' ≠ l)
    (htoken : g.token = l.token) : l'.only work l.provider g = g := by
  refine if_neg fun hof => hne ?_
  unfold Link.isOf at hof
  rw [Bool.and_eq_true, decide_eq_true_eq, decide_eq_true_eq, htoken] at hof
  obtain ⟨provider, token⟩ := l'
  obtain ⟨hprovider, hsame⟩ := hof
  exact congrArg₂ Link.mk hprovider hsame

/-- Unless a transaction ends the connecting of the link, it releases the
link when it leaves the link without work after its call came back. -/
theorem countP_releases (hb : h.groups.Busy)
    (hnot : tx.endsConnecting l = false) :
    (tx.decision h).calls.countP (·.releases l)
      = ((h.groups.live? l.provider l.token).any fun g =>
          (tx.leaves h l.provider g).isIdle && !g.connecting).toNat := by
  have hhands : (tx.hands h).countP (·.releases l) = 0 :=
    List.countP_eq_zero.mpr fun c hc =>
      Bool.eq_false_iff.mp (not_releases_of_mem_hands hc)
  rw [calls_decision hb, List.countP_append, hhands, Nat.zero_add]
  -- a link other than the one whose connecting ends keeps its work
  have hother : ∀ {l' : Link} {work : Group → Group}, l' ≠ l →
      ((h.groups.live? l.provider l.token).any fun g =>
        (l'.only work l.provider g).isIdle && !g.connecting) = false := by
    intro l' work hne
    cases hl : h.groups.live? l.provider l.token with
    | none => rfl
    | some g =>
        obtain ⟨he, htoken⟩ := GroupTable.live?_eq_some_iff.mp hl
        rw [Option.any_some, only_of_ne hne htoken, (hb _ he).2,
          Bool.false_and]
  cases tx with
  | established l' =>
      have hne : l' ≠ l := of_decide_eq_false hnot
      unfold releases leaves
      dsimp only
      rw [hother hne]
      cases h.groups.live? l'.provider l'.token with
      | some g => rfl
      | none =>
          rw [List.countP_singleton, if_neg]
          · rfl
          · unfold Call.releases
            rw [Bool.and_eq_true, decide_eq_true_eq, decide_eq_true_eq]
            rintro ⟨hprovider, htoken⟩
            exact hne (congrArg₂ Link.mk hprovider htoken)
  | forgetRefused l' =>
      have hne : l' ≠ l := of_decide_eq_false hnot
      unfold leaves
      dsimp only
      rw [hother hne]
      rfl
  | _ => exact GroupTable.countP_released l

/-- Unless a transaction ends the connecting of the link, a group of the
link connects after it as before. -/
theorem leaves_connecting_of_not_ends (htoken : g.token = l.token)
    (hnot : tx.endsConnecting l = false) :
    (tx.leaves h l.provider g).connecting = g.connecting := by
  cases tx with
  | established l' =>
      exact congrArg Group.connecting
        (only_of_ne (of_decide_eq_false hnot) htoken)
  | _ => exact leaves_connecting fun _ => nofun

-- ============================================ what becomes of a link

/-- A standing link is left standing or released. -/
theorem standing_decision (hb : h.groups.Busy)
    (hnot : tx.endsConnecting l = false) :
    (tx.decision h).host.groups.standing l
        + (tx.decision h).calls.countP (·.releases l)
      = h.groups.standing l := by
  rw [countP_releases hb hnot]
  unfold GroupTable.standing
  cases hl : h.groups.live? l.provider l.token with
  | none =>
      cases hl' : (tx.decision h).host.groups.live? l.provider l.token with
      | none => rfl
      | some g' =>
          obtain ⟨hopened, -⟩ := live?_opened hb hl hl'
          obtain ⟨-, r, rfl⟩ := mem_opens hopened
          rfl
  | some g =>
      obtain ⟨-, htoken⟩ := GroupTable.live?_eq_some_iff.mp hl
      have hconnecting := leaves_connecting_of_not_ends (h := h) htoken hnot
      rw [live?_decision hb hl]
      cases hidle : (tx.leaves h l.provider g).isIdle with
      | true => simp [hidle]
      | false => simp [hidle, hconnecting]

/-- A link that is opening was opening before, or is opened with a call
that connects it. -/
theorem opening_decision (hb : h.groups.Busy)
    (hnot : tx.endsConnecting l = false) :
    (tx.decision h).host.groups.opening l
      ≤ h.groups.opening l
        + (tx.decision h).calls.countP (·.connects l) := by
  unfold GroupTable.opening
  cases hl : h.groups.live? l.provider l.token with
  | none =>
      cases hl' : (tx.decision h).host.groups.live? l.provider l.token with
      | none => exact Nat.zero_le _
      | some g' =>
          obtain ⟨hopened, htoken⟩ := live?_opened hb hl hl'
          have hcall : 0 < (tx.decision h).calls.countP (·.connects l) := by
            obtain ⟨p, hp, hconnect⟩ := connect_mem_hands hopened
            rw [List.countP_pos_iff]
            refine ⟨_, mem_calls_of_mem_hands hb hconnect, ?_⟩
            simp [Call.connects, hp, htoken]
          have hle := Bool.toNat_le (g'.connecting)
          show g'.connecting.toNat ≤ 0 + _
          omega
  | some g =>
      obtain ⟨-, htoken⟩ := GroupTable.live?_eq_some_iff.mp hl
      have hconnecting := leaves_connecting_of_not_ends (h := h) htoken hnot
      rw [live?_decision hb hl]
      refine Nat.le_add_right_of_le ?_
      cases hidle : (tx.leaves h l.provider g).isIdle with
      | true => simp
      | false => simp [hconnecting]

/-- A link whose call came back well stands, or is released at once. -/
theorem standing_established (hb : h.groups.Busy) :
    ((Transaction.established l).decision h).host.groups.opening l = 0
      ∧ ((Transaction.established l).decision h).host.groups.standing l
          + ((Transaction.established l).decision h).calls.countP
              (·.releases l) = 1 := by
  have hcalls : ((Transaction.established l).decision h).calls
      = (Transaction.established l).releases h := calls_decision hb
  rw [hcalls]
  unfold GroupTable.opening GroupTable.standing releases
  dsimp only
  cases hl : h.groups.live? l.provider l.token with
  | none =>
      cases hl' : ((Transaction.established l).decision h).host.groups.live?
          l.provider l.token with
      | none => simp [Call.releases]
      | some g' => cases (live?_opened hb hl hl').1
  | some g =>
      obtain ⟨he, htoken⟩ := GroupTable.live?_eq_some_iff.mp hl
      have hleft : (Transaction.established l).leaves h l.provider g
          = g.established := only_self _ htoken
      have hwork : g.established.isIdle = false := (hb _ he).2
      rw [live?_decision hb hl, hleft, hwork]
      exact ⟨rfl, rfl⟩

/-- A link that was refused is gone, and nothing is released. -/
theorem standing_forgetRefused (hb : h.groups.Busy) :
    ((Transaction.forgetRefused l).decision h).host.groups.opening l = 0
      ∧ ((Transaction.forgetRefused l).decision h).host.groups.standing l
          + ((Transaction.forgetRefused l).decision h).calls.countP
              (·.releases l) = 0 := by
  have hcalls : ((Transaction.forgetRefused l).decision h).calls = [] :=
    Host.calls_forgetRefused h l.provider l.token
  have hgone : ((Transaction.forgetRefused l).decision h).host.groups.live?
      l.provider l.token = none := by
    refine live?_of_idle hb rfl fun g hl => ?_
    obtain ⟨-, htoken⟩ := GroupTable.live?_eq_some_iff.mp hl
    have hleft : (Transaction.forgetRefused l).leaves h l.provider g
        = g.clear := only_self _ htoken
    rw [hleft]
    rfl
  unfold GroupTable.opening GroupTable.standing
  rw [hgone, hcalls]
  exact ⟨rfl, rfl⟩

end Transaction

end SpellSessions
