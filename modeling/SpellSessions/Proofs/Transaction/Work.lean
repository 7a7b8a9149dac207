/-
What a transaction leaves of the work of a group, and which entries that
keeps in the table.

A group keeps its token and is never retired in place, whatever a
transaction leaves of its work. The entries that a change of one
connection keeps, and the release it owes, are settled here once, in
`kept_only` and `released_only`: the group of a live connection is
replaced or erased, and a stale connection changes nothing.
-/
import SpellSessions.Proofs.Transaction

namespace SpellSessions

-- ================================================== the work of a group

namespace Group

variable {g : Group}

theorem isIdle_eq_true_iff :
    g.isIdle = true ↔ g.listeners = [] ∧ g.pending = [] ∧ g.ongoing = [] := by
  unfold isIdle
  rw [Bool.and_eq_true, Bool.and_eq_true, List.isEmpty_iff,
    List.isEmpty_iff, List.isEmpty_iff, and_assoc]

theorem isIdle_clear : g.clear.isIdle = true := rfl

theorem isIdle_accept (hr : g.retired = false) (r : NumberedRequest) :
    (g.accept r).1.isIdle = false := by
  unfold accept
  rw [hr, if_neg Bool.false_ne_true]
  cases g.endpoint <;> simp [isIdle]

theorem isIdle_connect (endpoint : Endpoint) :
    (g.connect endpoint).isIdle = g.isIdle := by
  rw [connect_eq]
  split
  · rfl
  · unfold isIdle
    cases g.pending <;> cases g.ongoing <;> simp

/-- Every listener that is put in its place is there. -/
theorem insertListener_ne_nil (l : ListenerId) (ls : List ListenerId) :
    insertListener l ls ≠ [] := by
  cases ls with
  | nil => simp [insertListener]
  | cons m rest =>
      unfold insertListener
      split
      · simp
      · split <;> simp

theorem finish?_of_live (hret : g.retired = false) (r : RequestId) :
    g.finish? r = (g.ongoing.find? (·.id = r)).map fun n =>
      (n, { g with ongoing := g.ongoing.eraseP (·.id = r) }) := by
  unfold finish?
  rw [hret, if_neg Bool.false_ne_true]

theorem finished_of_none {r : RequestId} (hf : g.finish? r = none) :
    g.finished r = g := by
  unfold finished
  rw [hf]

theorem finished_of_some {r : RequestId} {n : NumberedRequest} {rest : Group}
    (hf : g.finish? r = some (n, rest)) :
    g.finished r = rest.addListener n.request.listener := by
  unfold finished
  rw [hf]

/-- An answer replaces a request by a listener, so work is left. -/
theorem isIdle_finished (hi : g.isIdle = false) (r : RequestId) :
    (g.finished r).isIdle = false := by
  unfold finished
  split
  · exact hi
  · next r' rest _ =>
      rw [Bool.eq_false_iff, ne_eq, isIdle_eq_true_iff]
      exact fun h => insertListener_ne_nil _ _ h.1

end Group

-- ========================================= what a transaction keeps of it

namespace Transaction

variable {h : Host} {tx : Transaction} {id : ProviderId} {g : Group}

/-- What one connection keeps, a change of that connection keeps. -/
theorem only_keeps {α : Type} (part : Group → α) {change : Group → Group}
    (hc : ∀ g, part (change g) = part g) (l : Link) :
    part (l.only change id g) = part g := by
  unfold Link.only
  split
  · exact hc g
  · rfl

/-- An answer changes requests and listeners only. -/
theorem finished_keeps {α : Type} (part : Group → α)
    (hc : ∀ (g : Group) rs ls,
      part { g with ongoing := rs, listeners := ls } = part g)
    (r : RequestId) : part (g.finished r) = part g := by
  unfold Group.finished Group.finish?
  by_cases hret : g.retired = true
  · rw [if_pos hret]
  · rw [if_neg hret]
    cases g.ongoing.find? (·.id = r) with
    | none => rfl
    | some found => exact hc g _ _

/-- A transaction changes work and nothing that identifies a group. -/
theorem leaves_keeps {α : Type} (part : Group → α)
    (hc : ∀ (g : Group) endpoint waiting rs ls,
      part { g with
        endpoint := endpoint, pending := waiting, ongoing := rs,
        listeners := ls } = part g)
    (he : (∃ l, tx = .established l) →
      ∀ g, part (Group.established g) = part g) :
    part (tx.leaves h id g) = part g := by
  cases tx with
  | stay => rfl
  | submit p r =>
      show part (if p.id = id then (g.accept _).1 else g) = part g
      split
      · unfold Group.accept
        split
        · rfl
        · cases g.endpoint with
          | none => exact hc g _ _ _ _
          | some endpoint => exact hc g _ _ _ _
      · rfl
  | connected l endpoint =>
      show part (l.only (·.connect endpoint) id g) = part g
      refine only_keeps part (fun g => ?_) l
      rw [Group.connect_eq]
      split
      · rfl
      · exact hc g _ _ _ _
  | disconnected l => exact only_keeps part (fun g => hc g _ _ _ _) l
  | answered a session =>
      exact only_keeps part
        (fun g => finished_keeps part (fun g rs ls => hc g _ _ rs ls) _) a.link
  | established l => exact only_keeps part (he ⟨l, rfl⟩) l
  | forgetRefused l => exact only_keeps part (fun g => hc g _ _ _ _) l
  | dropWork l => exact only_keeps part (fun g => hc g _ _ _ _) l
  | ownerLost l listener => exact only_keeps part (fun g => hc g _ _ _ _) l
  | releaseListener listener => exact hc g _ _ _ _
  | retireEvery => exact hc g _ _ _ _

theorem leaves_token : (tx.leaves h id g).token = g.token :=
  leaves_keeps Group.token (fun _ _ _ _ _ => rfl)
    fun _ _ => rfl

theorem leaves_retired : (tx.leaves h id g).retired = g.retired :=
  leaves_keeps Group.retired (fun _ _ _ _ _ => rfl)
    fun _ _ => rfl

/-- Only the return of the call that connects ends the connecting. -/
theorem leaves_connecting (ht : ∀ l, tx ≠ .established l) :
    (tx.leaves h id g).connecting = g.connecting :=
  leaves_keeps Group.connecting (fun _ _ _ _ _ => rfl)
    fun ⟨l, hl⟩ _ => absurd hl (ht l)

end Transaction

-- ========================================================= kept entries

namespace GroupTable

variable {t : GroupTable} {change : ProviderId → Group → Group} {l : Link}
  {g : Group} {work : Group → Group}

/-- Where every group has work left, every entry stays in its place. -/
theorem kept_of_busy
    (hc : ∀ e ∈ t.entries, (change e.1 e.2).isIdle = false) :
    t.kept change = t.entries.map fun e => (e.1, change e.1 e.2) := by
  unfold kept
  rw [← List.filterMap_eq_map']
  refine List.filterMap_congr fun e he => ?_
  rw [hc e he, if_neg Bool.false_ne_true]

theorem released_of_busy
    (hc : ∀ e ∈ t.entries, (change e.1 e.2).isIdle = false) :
    t.released change = [] := by
  unfold released
  rw [List.filterMap_eq_nil_iff]
  intro e he
  rw [hc e he, Bool.false_and, if_neg Bool.false_ne_true]

theorem kept_of_same (hb : t.Busy)
    (hc : ∀ e ∈ t.entries, change e.1 e.2 = e.2) :
    t.kept change = t.entries := by
  have hbusy : ∀ e ∈ t.entries, (change e.1 e.2).isIdle = false :=
    fun e he => by rw [hc e he]; exact (hb e he).2
  rw [kept_of_busy hbusy]
  refine (List.map_congr_left fun e he => ?_).trans (List.map_id _)
  rw [hc e he]
  rfl

theorem released_of_same (hb : t.Busy)
    (hc : ∀ e ∈ t.entries, change e.1 e.2 = e.2) :
    t.released change = [] :=
  released_of_busy fun e he => by rw [hc e he]; exact (hb e he).2

-- ===================================================== one connection

/-- A connection that is not live changes no entry. -/
theorem only_of_stale (hl : t.live? l.provider l.token = none) :
    ∀ e ∈ t.entries, l.only work e.1 e.2 = e.2 := by
  intro e he
  unfold Link.only Link.isOf
  rw [if_neg]
  intro hof
  rw [Bool.and_eq_true, decide_eq_true_eq, decide_eq_true_eq] at hof
  obtain ⟨hid, htok⟩ := hof
  exact live?_eq_none_iff.mp hl e.2 (hid ▸ he) htok.symm

theorem kept_only_of_stale (hb : t.Busy)
    (hl : t.live? l.provider l.token = none) :
    t.kept (l.only work) = t.entries :=
  kept_of_same hb (only_of_stale hl)

theorem released_only_of_stale (hb : t.Busy)
    (hl : t.live? l.provider l.token = none) :
    t.released (l.only work) = [] :=
  released_of_same hb (only_of_stale hl)

/-- A live connection changes the entry of its provider. -/
theorem only_of_live (work : Group → Group)
    (hl : t.live? l.provider l.token = some g) :
    ∀ e ∈ t.entries, l.only work e.1 e.2
      = if e.1 = l.provider then work g else e.2 := by
  intro e he
  obtain ⟨hg, htok⟩ := live?_eq_some_iff.mp hl
  unfold Link.only Link.isOf
  by_cases hid : e.1 = l.provider
  · have hgroup : e.2 = g := group_unique (hid ▸ he) hg
    rw [if_pos hid, hgroup]
    simp [hid, htok]
  · rw [if_neg hid]
    simp [Ne.symm hid]

/-- The group of a live connection is erased if it is left without work,
and replaced if not. -/
theorem kept_only (hb : t.Busy)
    (hl : t.live? l.provider l.token = some g) :
    t.kept (l.only work)
      = if (work g).isIdle then (t.erase l.provider).entries
        else (t.update l.provider fun _ => work g).entries := by
  have hat := only_of_live work hl
  split
  · next hidle =>
      rw [entries_erase, ← List.filterMap_eq_filter]
      refine List.filterMap_congr fun e he => ?_
      rw [hat e he]
      by_cases hid : e.1 = l.provider
      · simp [Option.guard, hid, hidle]
      · simp [Option.guard, hid, (hb e he).2]
  · next hwork =>
      rw [entries_update_const, ← List.filterMap_eq_map']
      refine List.filterMap_congr fun e he => ?_
      rw [hat e he]
      by_cases hid : e.1 = l.provider
      · simp [hid, hwork]
      · simp [hid, (hb e he).2]

/-- A live connection is released if it is left without work and its call
has returned. -/
theorem released_only (hb : t.Busy)
    (hl : t.live? l.provider l.token = some g) :
    t.released (l.only work)
      = if (work g).isIdle && !g.connecting then
          [.disconnect l.provider l.token] else [] := by
  have hat := only_of_live work hl
  obtain ⟨hg, htok⟩ := live?_eq_some_iff.mp hl
  have hself := hat _ hg
  rw [if_pos rfl] at hself
  unfold released
  rw [filterMap_at l.provider ?_, find?_eq_some_iff.mpr hg,
    Option.bind_some, hself, htok]
  · split <;> rfl
  · intro e he hid
    rw [hat e he, if_neg hid, (hb e he).2, Bool.false_and,
      if_neg Bool.false_ne_true]

theorem kept_only_of_work (hb : t.Busy)
    (hl : t.live? l.provider l.token = some g)
    (hw : (work g).isIdle = false) :
    t.kept (l.only work)
      = (t.update l.provider fun _ => work g).entries := by
  rw [kept_only hb hl, hw, if_neg Bool.false_ne_true]

theorem released_only_of_work (hb : t.Busy)
    (hl : t.live? l.provider l.token = some g)
    (hw : (work g).isIdle = false) :
    t.released (l.only work) = [] := by
  rw [released_only hb hl, hw, Bool.false_and, if_neg Bool.false_ne_true]

/-- A change that leaves work to every group replaces the group of a live
connection, and keeps all entries otherwise. -/
theorem kept_only_of_busy (hb : t.Busy)
    (hw : ∀ g, g.isIdle = false → (work g).isIdle = false) :
    t.kept (l.only work)
      = match t.live? l.provider l.token with
        | none => t.entries
        | some g => (t.update l.provider fun _ => work g).entries := by
  cases hl : t.live? l.provider l.token with
  | none => exact kept_only_of_stale hb hl
  | some g =>
      have he := (live?_eq_some_iff.mp hl).1
      exact kept_only_of_work hb hl (hw g (hb _ he).2)

/-- A change that leaves work to every group releases nothing. -/
theorem released_only_of_busy (hb : t.Busy)
    (hw : ∀ g, g.isIdle = false → (work g).isIdle = false) :
    t.released (l.only work) = [] := by
  cases hl : t.live? l.provider l.token with
  | none => exact released_only_of_stale hb hl
  | some g =>
      have he := (live?_eq_some_iff.mp hl).1
      exact released_only_of_work hb hl (hw g (hb _ he).2)

end GroupTable

end SpellSessions
