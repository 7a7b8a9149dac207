/-
Order: requests are handed over in the order of their arrival, unless a
connection overtakes them.

Who of two requests is ahead is settled when the later one leaves the queue
of its group, and it leaves the queue when its provider is connected
(`connected_of_drained`): what waited comes on the agenda behind what was
handed over and in front of what was due (`agenda_connected`). An earlier
request that waits too goes before it in the same batch, and one that was
handed over came before it. But one whose call is due, in a batch that a
call in progress holds up, is overtaken: what falls due inside a call is
made before the call returns.
-/
import SpellSessions.Proofs.Agenda
import SpellSessions.Proofs.Batch

namespace SpellSessions

namespace Transaction

/-- When a provider is connected, what waited for it is due to be handed
over, in order. -/
theorem handed_connected {h : Host} (hb : h.groups.Busy) {l : Link}
    {g : Group} (hl : h.groups.live? l.provider l.token = some g)
    (endpoint : Endpoint) :
    (g.pending.map (·.id)).Sublist
      (((Transaction.connected l endpoint).decision h).calls.filterMap
        Call.handed?) := by
  have hhands : ((Transaction.connected l endpoint).hands h).filterMap
      Call.handed? = g.pending.map (·.id) := by
    unfold hands
    dsimp only
    rw [hl]
    dsimp only
    rw [List.filterMap_map]
    exact congrFun List.filterMap_eq_map _
  rw [calls_decision hb, List.filterMap_append, hhands]
  exact List.sublist_append_left _ _

end Transaction

namespace Journal

variable {j j' k k' : Journal} {mv : Move} {l : Link} {r s : RequestId}

-- ============================================================ what is said

/-- A request waits on a link. -/
def Waits (j : Journal) (l : Link) (r : RequestId) : Prop :=
  ∃ g, j.host.groups.live? l.provider l.token = some g
    ∧ ∃ n ∈ g.pending, n.id = r

/-- A request waited on a link at some moment of the run. -/
def Waited (j : Journal) (l : Link) (r : RequestId) : Prop :=
  ∃ k : Journal, k.Reached ∧ k.Leads j ∧ k.Waits l r

/-- At some moment of the run the provider of a link was connected while one
request waited there and the call for another was queued behind a call in
progress. -/
def Overtaken (j : Journal) (l : Link) (r s : RequestId) : Prop :=
  ∃ (k k' : Journal) (around : Surroundings) (endpoint : Endpoint)
      (f : Frame) (c : Call),
    k.Reached
      ∧ k.move? (.enter around (.callback (.connected l endpoint))) = some k'
      ∧ k'.Leads j ∧ k.Waits l s
      ∧ f ∈ k.machine.stack ∧ c ∈ f.round.queue ∧ c.asks l r = true

theorem waits_iff : j.Waits l r ↔ 0 < j.ledger.host.groups.waiting l r := by
  show _ ↔ 0 < j.host.groups.waiting l r
  unfold Waits GroupTable.waiting
  cases j.host.groups.live? l.provider l.token with
  | none => simp
  | some g => simp [Group.waiting, List.countP_pos_iff]

theorem Waits.keeps (h : j.Waits l r) : j.ledger.Keeps l r := by
  have := waits_iff.mp h
  unfold Ledger.Keeps
  omega

/-- What holds at first and not in the end ends in some move. -/
theorem Leads.exists_move {P : Journal → Prop} (h : j.Leads k) (hj : P j)
    (hk : ¬ P k) :
    ∃ i i' mv, j.Leads i ∧ i.move? mv = some i' ∧ i'.Leads k
      ∧ P i ∧ ¬ P i' := by
  induction h with
  | here => exact absurd hj hk
  | @move i i' mv h hmove ih =>
      by_cases hi : P i
      · exact ⟨i, i', mv, h, hmove, .here, hi, hk⟩
      · obtain ⟨i₀, i₁, mv₀, hi₀, hmove₀, hleads, hrest⟩ := ih hi
        exact ⟨i₀, i₁, mv₀, hi₀, hmove₀, .move mv hleads hmove, hrest⟩

-- ==================================================== leaving the queue

/-- A request that leaves the queue in a step and is kept is handed over in
that step. -/
theorem Waits.asked_of_drained (hw : k.Waits l s) (hk : k.Reached)
    {b : Ledger} {new : List Call} (hstep : k.ledger.Step b)
    (hleads : b.Leads k'.ledger) (hgroups : b.host.groups = k'.host.groups)
    (hdue : b.due.Perm (new ++ k.ledger.due))
    (hmade : b.made (·.asks l s) = k.ledger.made (·.asks l s))
    (hnot : ¬ k'.Waits l s) (hkept : k'.ledger.Keeps l s) :
    ∃ c ∈ new, c.asks l s = true := by
  have hwaits := waits_iff.mp hw
  have honce := (hk.ledger.asked_once l s).1
  have hkept' : b.Keeps l s := by
    have hle := hk.ledger.number_le hw.keeps.concerns
    have hle' := (Ledger.Leads.step .here hstep).requests_le
    exact hleads.keeps (hk.ledger.step hstep) (Nat.le_trans hle hle') hkept
  have hleft : b.host.groups.waiting l s = 0 := by
    rw [hgroups]
    exact Nat.eq_zero_of_not_pos (mt waits_iff.mpr hnot)
  unfold Ledger.Keeps at hkept'
  rw [hleft, hmade, hdue.countP_eq, List.countP_append] at hkept'
  have hasked : 0 < new.countP (·.asks l s) := by omega
  exact List.countP_pos_iff.mp hasked

/-- Only a report that the provider is connected takes a request from the
queue and keeps it. -/
theorem Waits.connected_of_drained (hw : k.Waits l s) (hk : k.Reached)
    (hmove : k.move? mv = some k') (hnot : ¬ k'.Waits l s)
    (hkept : k'.ledger.Keeps l s) :
    ∃ around endpoint,
      mv = .enter around (.callback (.connected l endpoint)) := by
  cases mv with
  | enter around e =>
      obtain ⟨p, hheld, htaken, rfl⟩ := advance_of_enter hmove
      obtain ⟨b, hstep, hhost, hdue, hpast, hleads⟩ :=
        leads_entered hheld htaken
      have hmade : b.made (·.asks l s) = k.ledger.made (·.asks l s) := by
        unfold Ledger.made
        rw [hpast]
        rfl
      obtain ⟨c, hc, hasks⟩ := hw.asked_of_drained hk hstep hleads
        (congrArg _ hhost) (.of_eq hdue) hmade hnot hkept
      have hcreates := Call.creates_of_asks hasks
      obtain ⟨g, -, hcases⟩ := Transaction.creates_of_mem_hands
        (Transaction.mem_hands_of_creates hk.busy hc hcreates) hcreates
      rcases hcases with
        ⟨p', q, endpoint, -, -, -, rfl⟩ | ⟨endpoint, htx, -⟩
      · -- a request just submitted has not waited
        have hle := hk.ledger.number_le hw.keeps.concerns
        rw [Call.asks_handOver] at hasks
        rw [← of_decide_eq_true hasks] at hle
        exact absurd hle (Nat.not_succ_le_self _)
      · have he : e = .callback (.connected l endpoint) :=
          Entry.callback_of_transaction htx
        exact ⟨around, endpoint, congrArg _ he⟩
  | answer a =>
      obtain ⟨f, outer, p, hstack, hanswer, rfl⟩ := advance_of_answer hmove
      obtain ⟨b, hstep, hhost, hdue, hpast, hleads⟩ :=
        leads_returned hstack hanswer
      have hmade : b.made (·.asks l s) = k.ledger.made (·.asks l s) := by
        unfold Ledger.made
        rw [hpast]
        rfl
      have hperm : b.due.Perm (((f.call.transaction a).decision k.host).calls
          ++ k.ledger.due) := by
        rw [hdue, due_of_stack hstack, ← List.append_assoc]
        exact List.perm_append_comm.append_right _
      obtain ⟨c, hc, hasks⟩ := hw.asked_of_drained hk hstep hleads
        (congrArg _ hhost) hperm hmade hnot hkept
      -- when a call returns nothing is handed over
      have hnone := Transaction.not_creates_of_return hk.busy hc l
      rw [Call.creates_of_asks hasks] at hnone
      cases hnone
  | store settings | reorder groups =>
      obtain ⟨s, hr, rfl⟩ := reorders_of_aside rfl hmove
      obtain ⟨g, hl, hpending⟩ := hw
      exact absurd ⟨g, (hr.live? _ _).trans hl, hpending⟩ hnot

/-- When a provider is connected, what waited for it comes on the agenda
behind what was handed over and in front of what was due. -/
theorem Reached.agenda_connected (hk : k.Reached) {around : Surroundings}
    {endpoint : Endpoint}
    (hmove : k.move? (.enter around (.callback (.connected l endpoint)))
      = some k') :
    ∃ (b : Ledger) (new : List RequestId), b.Reached
      ∧ b.Leads k'.ledger
      ∧ b.agenda = handedOver k.past ++ new
          ++ k.ledger.due.filterMap Call.handed?
      ∧ ∀ g, k.host.groups.live? l.provider l.token = some g →
          (g.pending.map (·.id)).Sublist new := by
  obtain ⟨p, hheld, htaken, rfl⟩ := advance_of_enter hmove
  obtain ⟨b, hstep, -, hdue, hpast, hleads⟩ := leads_entered hheld htaken
  refine ⟨b, _, hk.ledger.step hstep, hleads, ?_,
    fun g hl => Transaction.handed_connected hk.busy hl endpoint⟩
  unfold Ledger.agenda handedOver
  rw [hdue, hpast, List.filterMap_append, ← List.append_assoc,
    List.reverse_cons, List.filterMap_append]
  exact congrArg (· ++ _ ++ _) (List.append_nil _)

theorem Waits.mem_pending (h : j.Waits l r) :
    ∃ g, j.host.groups.live? l.provider l.token = some g
      ∧ r ∈ g.pending.map (·.id) := by
  obtain ⟨g, hl, n, hn, rfl⟩ := h
  exact ⟨g, hl, List.mem_map_of_mem hn⟩

/-- A request that was overtaken stands behind the other. -/
theorem Overtaken.ahead (ho : j.Overtaken l r s) (hr : j.ledger.Keeps l r)
    (hs : j.ledger.Keeps l s) : [s, r].Sublist j.ledger.agenda := by
  obtain ⟨k, k', around, endpoint, f, c, hk, hmove, hleads, hw, hf, hc, hasks⟩
    := ho
  obtain ⟨b, new, hb, hbleads, hagenda, hnew⟩ := hk.agenda_connected hmove
  refine (hbleads.trans hleads.ledger).ahead hb ?_ hs hr
  obtain ⟨g, hl, hmem⟩ := hw.mem_pending
  rw [hagenda]
  show ([s] ++ [r]).Sublist _
  refine List.Sublist.append ?_ (List.singleton_sublist.mpr ?_)
  · refine (List.singleton_sublist.mpr ?_).trans (List.sublist_append_right _ _)
    exact (hnew g hl).subset hmem
  · exact List.mem_filterMap.mpr ⟨c, due_of_queued hf hc,
      Call.handed?_eq_some.mpr (Call.handsOver_of_asks hasks)⟩

theorem Reached.ahead_waiting (hj : j.Reached) (hr : j.Waits l r)
    (hs : j.Waits l s) (hlt : r.number < s.number) :
    ∃ g, j.host.groups.live? l.provider l.token = some g
      ∧ [r, s].Sublist (g.pending.map (·.id)) := by
  obtain ⟨g, hl, hmem⟩ := hr.mem_pending
  obtain ⟨g', hl', hmem'⟩ := hs.mem_pending
  cases hl.symm.trans hl'
  refine ⟨g, hl, ?_⟩
  have harrived := hj.ledger.arrived _ (GroupTable.live?_eq_some_iff.mp hl).1
  have hascending : (g.pending.map (·.id)).Pairwise (·.number < ·.number) :=
    List.pairwise_map.mpr
      (harrived.ascending.sublist (List.sublist_append_right _ _))
  have hne : r ≠ s := by
    rintro rfl
    exact Nat.lt_irrefl _ hlt
  refine (sublist_pair_or hmem hmem' hne).resolve_right fun hswapped => ?_
  have := List.pairwise_iff_forall_sublist.mp hascending hswapped
  omega

/-- Of two requests that leave the queue of a link, the earlier comes first
on the agenda unless it was overtaken. -/
theorem Waited.ahead (hw : j.Waited l s) (hlt : r.number < s.number)
    (hr : j.ledger.Keeps l r) (hs : j.ledger.Keeps l s)
    (hs' : s ∈ j.ledger.agenda) (hnot : ¬ j.Overtaken l r s) :
    [r, s].Sublist j.ledger.agenda := by
  obtain ⟨k₀, hk₀, hleads₀, hw₀⟩ := hw
  have hleft : ¬ j.Waits l s := by
    have hj := (hk₀.leads hleads₀).ledger
    rw [waits_iff, hj.not_waiting hs hs']
    exact Nat.lt_irrefl 0
  obtain ⟨k, k', mv, hk, hmove, hleads, hwaits, hnot'⟩ :=
    hleads₀.exists_move (P := (·.Waits l s)) hw₀ hleft
  replace hk := hk₀.leads hk
  have hmoves := leads_of_move hmove
  have hle := hk.ledger.number_le hwaits.keeps.concerns
  have hkept' : k'.ledger.Keeps l s :=
    hleads.ledger.keeps (hk.move _ hmove).ledger
      (Nat.le_trans hle hmoves.requests_le) hs
  obtain ⟨around, endpoint, rfl⟩ :=
    hwaits.connected_of_drained hk hmove hnot' hkept'
  obtain ⟨b, new, hb, hbleads, hagenda, hnew⟩ := hk.agenda_connected hmove
  refine (hbleads.trans hleads.ledger).ahead hb ?_ hr hs
  rw [hagenda]
  by_cases hrwaits : k.Waits l r
  · -- both go in one batch
    obtain ⟨g, hl, hpair⟩ := hk.ahead_waiting hrwaits hwaits hlt
    exact (hpair.trans (hnew g hl)).trans
      ((List.sublist_append_right _ _).trans (List.sublist_append_left _ _))
  · have hkept : k.ledger.Keeps l r :=
      (hmoves.trans hleads.ledger).keeps hk.ledger (by omega) hr
    rw [waits_iff, Nat.not_lt, Nat.le_zero] at hrwaits
    obtain ⟨g, hl, hmem⟩ := hwaits.mem_pending
    have hsnew := List.singleton_sublist.mpr ((hnew g hl).subset hmem)
    rcases List.mem_append.mp (hk.ledger.mem_agenda hkept hrwaits) with
      hhanded | hdue
    · have hpair := (List.singleton_sublist.mpr hhanded).append hsnew
      exact hpair.trans (List.sublist_append_left _ _)
    · -- the call for the earlier request is held up: it is overtaken
      obtain ⟨c, hc, hover⟩ := List.mem_filterMap.mp hdue
      obtain ⟨f, hf, hqueued⟩ := queued_of_due hc
      refine absurd ⟨k, k', around, endpoint, f, c, hk, hmove, hleads,
        hwaits, hf, hqueued, ?_⟩ hnot
      exact (hk.ledger.handsOver_iff hkept.concerns (.inr hc)).mp
        (Call.handed?_eq_some.mp hover)

/-- A request that waited on a link and was handed over is kept there. -/
theorem Waited.keeps (hw : j.Waited l r) (hr : r ∈ handedOver j.past) :
    j.ledger.Keeps l r := by
  obtain ⟨k, hk, hleads, hwaits⟩ := hw
  have hj := (hk.leads hleads).ledger
  have hagenda : r ∈ j.ledger.agenda := List.mem_append_left _ hr
  obtain ⟨l', hconcerns⟩ := Ledger.concerns_of_agenda hagenda
  have hcount := List.count_pos_iff.mpr hagenda
  rw [hj.count_agenda_eq hconcerns] at hcount
  have hkept : j.ledger.Keeps l' r := by
    unfold Ledger.Keeps
    omega
  have hle := hk.ledger.number_le hwaits.keeps.concerns
  have hkept' := hleads.ledger.keeps hk.ledger hle hkept
  cases hk.ledger.link_of_request hkept'.concerns hwaits.keeps.concerns
  exact hkept

/-- Of two requests that waited on one link and were handed over, the one
that was submitted first was handed over first, unless the provider was
connected again while the other waited and the call for the first was still
queued behind a call in progress; then it was handed over second. -/
theorem handed_in_order_iff (hr : j.Waited l r) (hs : j.Waited l s)
    (hlt : r.number < s.number) (hr' : r ∈ handedOver j.past)
    (hs' : s ∈ handedOver j.past) :
    [r, s].Sublist (handedOver j.past) ↔ ¬ j.Overtaken l r s := by
  have hkeptr := hr.keeps hr'
  have hkepts := hs.keeps hs'
  obtain ⟨k, hk, hleads, -⟩ := hr
  have hnodup := (hk.leads hleads).ledger.agenda_nodup
  have honto : (handedOver j.past).Sublist j.ledger.agenda :=
    List.sublist_append_left _ _
  constructor
  · intro hfirst hovertaken
    exact not_sublist_pair_swap hnodup (hfirst.trans honto)
      (hovertaken.ahead hkeptr hkepts)
  · intro hnot
    have hne : r ≠ s := by
      rintro rfl
      exact Nat.lt_irrefl _ hlt
    refine (sublist_pair_or hr' hs' hne).resolve_right fun hswapped => ?_
    exact not_sublist_pair_swap hnodup
      (hs.ahead hlt hkeptr hkepts (honto.subset hs') hnot)
      (hswapped.trans honto)

theorem waits_of_any (h : (j.host.groups.live? l.provider l.token).any
    (·.pending.any (·.id = r)) = true) : j.Waits l r := by
  obtain ⟨g, hl, hany⟩ := (Option.any_eq_true _ _).mp h
  obtain ⟨n, hn, hid⟩ := List.any_eq_true.mp hany
  exact ⟨g, hl, n, hn, of_decide_eq_true hid⟩

end Journal

namespace Sample

/-- A second request joins the first. -/
def joined : List Move :=
  waiting ++ [operate (.beginSession "p" (request 2))]

/-- The provider is connected, and both calls return. -/
def handed : List Move :=
  [.enter (around []) (.callback (.connected ⟨"p", ⟨1⟩⟩ ⟨"s"⟩)),
    .answer .accepted, .answer .accepted]

/-- The provider is connected, and from inside the first call it is lost and
a third request is made. -/
def rejoined : List Move :=
  [.enter (around []) (.callback (.connected ⟨"p", ⟨1⟩⟩ ⟨"s"⟩)),
    .enter (around []) (.callback (.disconnected ⟨"p", ⟨1⟩⟩)),
    operate (.beginSession "p" (request 3))]

end Sample

namespace Journal

/-- Where both calls return at once, the second request does not overtake the
first. -/
theorem first_request_not_overtaken :
    ∃ k j, Sample.start.after? Sample.joined = some k
      ∧ k.after? Sample.handed = some j
      ∧ ¬ j.Overtaken ⟨"p", ⟨1⟩⟩ ⟨1⟩ ⟨2⟩ := by
  obtain ⟨k, hk, hend⟩ := (Option.any_eq_true
    (fun k : Journal =>
      (k.host.groups.live? "p" ⟨1⟩).any (·.pending.any (·.id = ⟨1⟩))
        && (k.host.groups.live? "p" ⟨1⟩).any (·.pending.any (·.id = ⟨2⟩))
        && (k.after? Sample.handed).any fun j =>
          decide (handedOver j.past = [⟨1⟩, ⟨2⟩])) _).mp
    (show (Sample.start.after? Sample.joined).any _ = true from rfl)
  rw [Bool.and_eq_true, Bool.and_eq_true] at hend
  obtain ⟨⟨hfirst, hsecond⟩, hlast⟩ := hend
  obtain ⟨j, hj, hhanded⟩ := (Option.any_eq_true _ _).mp hlast
  have hhanded := of_decide_eq_true hhanded
  have hwaited : ∀ r, k.Waits ⟨"p", ⟨1⟩⟩ r → j.Waited ⟨"p", ⟨1⟩⟩ r :=
    fun r hr => ⟨k, Reached.of_after hk, leads_of_after hj, hr⟩
  refine ⟨k, j, hk, hj, ?_⟩
  refine (handed_in_order_iff (hwaited _ (waits_of_any hfirst))
    (hwaited _ (waits_of_any hsecond)) (by decide) ?_ ?_).mp ?_
  · rw [hhanded]
    exact List.mem_cons_self
  · rw [hhanded]
    exact List.mem_cons_of_mem _ List.mem_cons_self
  · rw [hhanded]

/-- Where the provider is lost and connected again from inside the first
call, a third request overtakes the second, which was queued before it. -/
theorem second_request_overtaken :
    (∀ mv ∈ Sample.joined ++ Sample.rejoined ++ Sample.handed,
        mv.isDirect = false)
      ∧ ∃ k i j, Sample.start.after? Sample.joined = some k
        ∧ k.after? Sample.rejoined = some i
        ∧ i.after? Sample.handed = some j
        ∧ j.Waited ⟨"p", ⟨1⟩⟩ ⟨2⟩ ∧ j.Waited ⟨"p", ⟨1⟩⟩ ⟨3⟩
        ∧ ⟨2⟩ ∈ handedOver j.past ∧ ⟨3⟩ ∈ handedOver j.past
        ∧ ¬ [⟨2⟩, ⟨3⟩].Sublist (handedOver j.past) := by
  refine ⟨by decide, ?_⟩
  obtain ⟨k, hk, hend⟩ := (Option.any_eq_true
    (fun k : Journal =>
      (k.host.groups.live? "p" ⟨1⟩).any (·.pending.any (·.id = ⟨2⟩))
        && (k.after? Sample.rejoined).any fun i =>
          (i.host.groups.live? "p" ⟨1⟩).any (·.pending.any (·.id = ⟨3⟩))
            && (i.after? Sample.handed).any fun j =>
              decide (handedOver j.past = [⟨1⟩, ⟨3⟩, ⟨2⟩])) _).mp
    (show (Sample.start.after? Sample.joined).any _ = true from rfl)
  rw [Bool.and_eq_true] at hend
  obtain ⟨hsecond, hmiddle⟩ := hend
  obtain ⟨i, hi, hend⟩ := (Option.any_eq_true _ _).mp hmiddle
  rw [Bool.and_eq_true] at hend
  obtain ⟨hthird, hlast⟩ := hend
  obtain ⟨j, hj, hhanded⟩ := (Option.any_eq_true _ _).mp hlast
  have hhanded := of_decide_eq_true hhanded
  have hreached := Reached.of_after hk
  refine ⟨k, i, j, hk, hi, hj, ?_, ?_, ?_⟩
  · exact ⟨k, hreached, (leads_of_after hi).trans (leads_of_after hj),
      waits_of_any hsecond⟩
  · exact ⟨i, hreached.leads (leads_of_after hi), leads_of_after hj,
      waits_of_any hthird⟩
  · rw [hhanded]
    decide

end Journal

end SpellSessions
