/-
Listed listeners: a group lists each of its listeners once, in ascending
order.

A listener is put in its place among the others when an answer registers it
(`ascending_insertListener`), and nothing else adds one, so every
transaction keeps the lists in order (`listed_decision`). A list in order
names nobody twice, and so a listener that is taken off it is gone
(`Listed.eraseListener`).
-/
import SpellSessions.Proofs.Transaction.Origin

namespace SpellSessions

namespace Group

variable {g : Group} {k : ListenerId}

/-- The listeners stand in ascending order, each one once. -/
def Listed (g : Group) : Prop :=
  g.listeners.Pairwise (·.number < ·.number)

/-- A listener that is put in its place keeps the order of the others. -/
theorem ascending_insertListener {ls : List ListenerId}
    (h : ls.Pairwise (·.number < ·.number)) (l : ListenerId) :
    (insertListener l ls).Pairwise (·.number < ·.number) := by
  induction ls with
  | nil => exact List.pairwise_singleton _ _
  | cons m rest ih =>
      obtain ⟨hfirst, hrest⟩ := List.pairwise_cons.mp h
      unfold insertListener
      by_cases hsame : l = m
      · rw [if_pos hsame]
        exact h
      · rw [if_neg hsame]
        by_cases hlt : l.number < m.number
        · rw [if_pos hlt, List.pairwise_cons]
          refine ⟨fun n hn => ?_, h⟩
          rcases List.mem_cons.mp hn with rfl | hn
          · exact hlt
          · exact UInt64.lt_trans hlt (hfirst n hn)
        · rw [if_neg hlt, List.pairwise_cons]
          refine ⟨fun n hn => ?_, ih hrest⟩
          rcases mem_insertListener.mp hn with rfl | hn
          · refine UInt64.lt_of_le_of_ne (UInt64.not_lt.mp hlt) ?_
            intro hnumber
            exact hsame (congrArg ListenerId.mk hnumber.symm)
          · exact hfirst n hn

theorem Listed.nodup (hg : g.Listed) : g.listeners.Nodup := by
  refine List.Pairwise.imp (fun {k l} hlt => ?_) hg
  intro heq
  rw [heq] at hlt
  exact UInt64.lt_irrefl _ hlt

/-- A group that only loses listeners keeps the order of the others. -/
theorem Listed.of_sublist {g' : Group} (hg : g.Listed)
    (hsub : g'.listeners.Sublist g.listeners) : g'.Listed :=
  List.Pairwise.sublist hsub hg

/-- Taking a listener off the list leaves all others, and not that one. -/
theorem Listed.eraseListener (hg : g.Listed) (k : ListenerId) :
    g.eraseListener k
      = { g with listeners := g.listeners.filter (· ≠ k) } := by
  unfold Group.eraseListener
  rw [hg.nodup.erase_eq_filter]
  congr 1
  refine List.filter_congr fun l _ => ?_
  rw [bne, beq_eq_decide, decide_not]

theorem Listed.finished (hg : g.Listed) (r : RequestId) :
    (g.finished r).Listed := by
  unfold Group.finished Group.finish?
  split
  · exact hg
  · next m rest hfound =>
      split at hfound
      · cases hfound
      · obtain ⟨n, -, hrest⟩ := Option.map_eq_some_iff.mp hfound
        cases hrest
        exact ascending_insertListener hg _

end Group

/-- Every group lists its listeners in order. -/
def GroupTable.Listed (t : GroupTable) : Prop :=
  ∀ e ∈ t.entries, e.2.Listed

namespace Transaction

variable {h : Host} {tx : Transaction} {id : ProviderId} {g : Group}

/-- What a transaction leaves to a group is listed in order. -/
theorem listed_leaves (hg : g.Listed) : (tx.leaves h id g).Listed := by
  have honly : ∀ (l : Link) (work : Group → Group),
      (work g).Listed → (l.only work id g).Listed := by
    intro l work hwork
    unfold Link.only
    split
    · exact hwork
    · exact hg
  -- all but an answer leave a part of the list
  have hpart : ∀ (l : Link) (work : Group → Group),
      (work g).listeners.Sublist g.listeners →
      (l.only work id g).Listed :=
    fun l work hsub => honly l work (hg.of_sublist hsub)
  cases tx with
  | answered a session =>
      exact honly a.link (·.finished a.request) (hg.finished _)
  | submit p q =>
      show Group.Listed (if p.id = id then _ else g)
      split
      · refine hg.of_sublist ?_
        rw [Group.listeners_accept]
      · exact hg
  | connected l endpoint =>
      refine hpart l (·.connect endpoint) ?_
      rw [Group.listeners_connect]
  | disconnected l => exact hpart l Group.disconnect (.refl _)
  | established l => exact hpart l Group.established (.refl _)
  | forgetRefused l => exact hpart l Group.clear (List.nil_sublist _)
  | dropWork l => exact hpart l Group.clear (List.nil_sublist _)
  | ownerLost l k => exact hpart l (·.eraseListener k) List.erase_sublist
  | releaseListener k => exact hg.of_sublist List.erase_sublist
  | retireEvery => exact hg.of_sublist (List.nil_sublist _)
  | stay => exact hg

/-- A transaction keeps the listeners of every group in order. -/
theorem listed_decision (hb : h.groups.Busy) (hg : h.groups.Listed) :
    (tx.decision h).host.groups.Listed := by
  intro e he
  obtain ⟨id, g'⟩ := e
  rcases (mem_decision hb).mp he with ⟨g, hbefore, -, rfl⟩ | hopened
  · exact listed_leaves (hg _ hbefore)
  · obtain ⟨-, r, rfl⟩ := mem_opens hopened
    exact List.Pairwise.nil

end Transaction

end SpellSessions
