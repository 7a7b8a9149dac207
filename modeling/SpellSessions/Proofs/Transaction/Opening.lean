/-
The work of one request, followed through one transaction.

A group that is opened has one item of work, the request that opened it. As
long as nobody else may submit to the group, a transaction can only move
that item on: the request waits, is ongoing, or has left its listener
behind, and once that is gone the group is gone too (`worksFor_leaves`). A
call to connect falls due in one way only, as the one call of a request
that opens a group (`submit_of_connect`).
-/
import SpellSessions.Proofs.Transaction.Held

namespace SpellSessions

namespace Group

/-- The one item of work of the group is that of the request: the request
itself, or the listener that it left behind. -/
def WorksFor (g : Group) (n : NumberedRequest) : Prop :=
  (g.requests = [n] ∧ g.listeners = [])
    ∨ (g.requests = [] ∧ g.listeners = [n.request.listener])

variable {g : Group} {n : NumberedRequest}

theorem WorksFor.length_eq_one (hw : g.WorksFor n) :
    g.pending.length + g.ongoing.length + g.listeners.length = 1 := by
  have hlength : g.requests.length = g.ongoing.length + g.pending.length :=
    List.length_append
  rcases hw with ⟨hrequests, hlisteners⟩ | ⟨hrequests, hlisteners⟩
  · rw [hrequests, List.length_singleton] at hlength
    rw [hlisteners, List.length_nil]
    omega
  · rw [hrequests, List.length_nil] at hlength
    rw [hlisteners, List.length_singleton]
    omega

theorem worksFor_first (t : Token) (n : NumberedRequest) :
    (first t n).WorksFor n :=
  .inl ⟨rfl, rfl⟩

theorem WorksFor.connect (hw : g.WorksFor n) (hret : g.retired = false)
    (endpoint : Endpoint) : (g.connect endpoint).WorksFor n := by
  have hrequests : (g.connect endpoint).requests = g.requests := by
    rw [Group.connect_eq, hret, if_neg Bool.false_ne_true]
    exact List.append_nil _
  have hlisteners : (g.connect endpoint).listeners = g.listeners := by
    rw [Group.connect_eq]
    split <;> rfl
  unfold WorksFor
  rw [hrequests, hlisteners]
  exact hw

/-- An answer that finds a request finds the one there is, and leaves its
listener. -/
theorem WorksFor.finished (hw : g.WorksFor n) (hret : g.retired = false)
    (r : RequestId) : (g.finished r).WorksFor n := by
  have hfinish := finish?_of_live hret r
  cases hf : g.ongoing.find? (·.id = r) with
  | none =>
      rw [hf] at hfinish
      rw [finished_of_none hfinish]
      exact hw
  | some m =>
      rw [hf] at hfinish
      have hm := List.mem_of_find?_eq_some hf
      have hmem : m ∈ g.requests := List.mem_append_left _ hm
      rcases hw with ⟨hrequests, hlisteners⟩ | ⟨hrequests, -⟩
      · rw [hrequests] at hmem
        cases List.mem_singleton.mp hmem
        have hone : g.ongoing = [n] ∧ g.pending = [] := by
          rcases List.append_eq_singleton_iff.mp hrequests with
            ⟨hnone, -⟩ | hone
          · rw [hnone] at hm
            cases hm
          · exact hone
        have hid := List.find?_some hf
        have herase : [n].eraseP (·.id = r) = [] := by
          rw [List.eraseP_cons_of_pos]
          exact hid
        rw [finished_of_some hfinish]
        right
        unfold requests addListener
        dsimp only
        rw [hone.1, hone.2, hlisteners, herase]
        exact ⟨rfl, rfl⟩
      · rw [hrequests] at hmem
        cases hmem

/-- A group with one item of work keeps it, or is left without work, when a
listener is erased. -/
theorem WorksFor.eraseListener (hw : g.WorksFor n) {k : ListenerId}
    (hwork : (g.eraseListener k).isIdle = false) :
    (g.eraseListener k).WorksFor n := by
  rcases hw with ⟨hrequests, hlisteners⟩ | ⟨hrequests, hlisteners⟩
  · left
    unfold Group.eraseListener
    rw [hlisteners]
    exact ⟨hrequests, rfl⟩
  · right
    by_cases hk : n.request.listener = k
    · exfalso
      obtain ⟨hongoing, hpending⟩ := List.append_eq_nil_iff.mp hrequests
      rw [Bool.eq_false_iff, ne_eq, isIdle_eq_true_iff] at hwork
      refine hwork ⟨?_, hpending, hongoing⟩
      unfold Group.eraseListener
      rw [hlisteners, hk]
      exact List.erase_cons_head k []
    · refine ⟨hrequests, ?_⟩
      unfold Group.eraseListener
      rw [hlisteners]
      exact List.erase_of_not_mem (by simp [Ne.symm hk])

end Group

namespace Transaction

variable {h : Host} {tx : Transaction} {l : Link} {g : Group}
  {n : NumberedRequest}

/-- A group with one item of work keeps it, or is left without work, where
nobody else submits to it. -/
theorem worksFor_leaves (hw : g.WorksFor n) (hret : g.retired = false)
    (hnot : ∀ p r, tx = .submit p r → p.id ≠ l.provider)
    (hwork : (tx.leaves h l.provider g).isIdle = false) :
    (tx.leaves h l.provider g).WorksFor n := by
  -- a change of the group of one connection changes this group or does not
  have honly : ∀ (l' : Link) (work : Group → Group),
      ((work g).isIdle = false → (work g).WorksFor n) →
      (l'.only work l.provider g).isIdle = false →
      (l'.only work l.provider g).WorksFor n := by
    intro l' work hdone
    unfold Link.only
    split
    · exact hdone
    · exact fun _ => hw
  cases tx with
  | stay => exact hw
  | submit p r =>
      show Group.WorksFor (if p.id = l.provider then _ else g) n
      rw [if_neg (hnot p r rfl)]
      exact hw
  | connected l' endpoint =>
      exact honly l' _ (fun _ => hw.connect hret endpoint) hwork
  | disconnected l' => exact honly l' Group.disconnect (fun _ => hw) hwork
  | answered a session =>
      exact honly a.link _ (fun _ => hw.finished hret a.request) hwork
  | established l' => exact honly l' Group.established (fun _ => hw) hwork
  | forgetRefused l' => exact honly l' Group.clear nofun hwork
  | dropWork l' => exact honly l' Group.clear nofun hwork
  | ownerLost l' k => exact honly l' (·.eraseListener k) hw.eraseListener hwork
  | releaseListener k => exact hw.eraseListener hwork
  | retireEvery => cases hwork

/-- A call to connect falls due as the one call of a request that opens a
group. -/
theorem submit_of_connect (hb : h.groups.Busy) {p : Provider} {t : Token}
    (hc : .connect p t ∈ (tx.decision h).calls) :
    ∃ r, tx = .submit p r ∧ h.groups.find? p.id = none ∧ t = h.freshToken
      ∧ (tx.decision h).calls = [.connect p t] := by
  cases mem_hands_iff.mp (mem_hands hb hc rfl) with
  | opens hnone => exact ⟨_, rfl, hnone, rfl, (submit_opens _ hnone).2⟩

end Transaction

end SpellSessions
