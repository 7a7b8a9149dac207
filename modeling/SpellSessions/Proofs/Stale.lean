/-
Stale reports: what comes through a handle whose connection is gone, or
whose request is no longer ongoing.

Links and reply handles may be kept and used at any later time. A report
is stale when the live group of its provider does not carry its token, or
when it answers a request that is not ongoing there. A stale report leaves
the machine exactly as it was and calls nobody: an answer that finds no
request still looks whether the group is idle, but no live group ever is
(`Reached.busy`). And a report that is stale stays so. A token is given out
once, so a link that is gone never is live again; a request is handed over
once, so one that was handed over and is not ongoing never is ongoing
again.
-/
import SpellSessions.Proofs.Batch
import SpellSessions.Proofs.Release
import SpellSessions.Proofs.Transaction.Held

namespace SpellSessions

-- ===================================================== nothing comes of it

/-- A report is stale: its link is not live, or the request that it answers
is not ongoing there. -/
def Journal.Stale (j : Journal) : Callback → Prop
  | .connected l _ => ¬ j.IsLive l
  | .disconnected l => ¬ j.IsLive l
  | .delivered a _ => ¬ j.Wants a.link a.request

namespace Host

variable {h : Host} {l : Link}

/-- The answer to a request that is not ongoing finds nothing to do. -/
theorem answered_of_not_ongoing (hb : h.groups.Busy) {a : ReplyHandle}
    {session : Option Session}
    (hnot : ∀ g, h.groups.live? a.provider a.token = some g →
      ¬ g.hasOngoing a.request) :
    (h.answered a.provider a.token a.request session).host = h
      ∧ (h.answered a.provider a.token a.request session).calls = [] := by
  unfold answered
  cases hl : h.groups.live? a.provider a.token with
  | none => exact ⟨rfl, rfl⟩
  | some g =>
      have hbusy := hb _ (GroupTable.live?_eq_some_iff.mp hl).1
      have hnone : g.ongoing.find? (·.id = a.request) = none := by
        rw [List.find?_eq_none]
        intro n hn hid
        exact hnot g hl ⟨n, hn, of_decide_eq_true hid⟩
      have hfinish := Group.finish?_of_live hbusy.1 a.request
      rw [hnone] at hfinish
      have hkeeps : g.canRetire = false := by
        unfold Group.canRetire
        rw [hbusy.2, Bool.and_false]
      dsimp only
      rw [hfinish]
      dsimp only [Option.map_none]
      unfold retireIfIdle
      rw [hl]
      dsimp only
      rw [hkeeps, if_neg Bool.false_ne_true]
      exact ⟨rfl, rfl⟩

end Host

/-- A callback whose transaction neither changes the host nor owes a call
leaves the machine as it was. -/
theorem Machine.enter_callback {m : Machine} {report : Callback}
    (hhost : (report.transaction.decision m.service.host).host
      = m.service.host)
    (hcalls : (report.transaction.decision m.service.host).calls = [])
    (around : Surroundings) :
    ∃ events, m.enter around (.callback report)
      = .taken ⟨m, events, some .done⟩ := by
  have hturn : m.service.enter around (.callback report)
      = (m.service.draft.transition fun h =>
          report.transaction.decision h).owing .logged := by
    cases report <;> rfl
  unfold enter
  rw [hturn]
  unfold Draft.transition Draft.owing Service.draft
  dsimp only
  rw [hhost, hcalls]
  exact ⟨_, rfl⟩

namespace Journal

variable {j j' k : Journal} {mv : Move} {report : Callback} {l : Link}
  {r : RequestId}

/-- A stale report changes nothing and owes nothing. -/
theorem Stale.decision (hs : j.Stale report) (hb : j.host.groups.Busy) :
    (report.transaction.decision j.host).host = j.host
      ∧ (report.transaction.decision j.host).calls = [] := by
  cases report with
  | connected link endpoint =>
      have hl := Option.not_isSome_iff_eq_none.mp hs
      show (j.host.connected _ _ _).host = _
        ∧ (j.host.connected _ _ _).calls = _
      unfold Host.connected
      rw [hl]
      exact ⟨rfl, rfl⟩
  | disconnected link =>
      have hl := Option.not_isSome_iff_eq_none.mp hs
      show (j.host.disconnected _ _).host = _
        ∧ (j.host.disconnected _ _).calls = _
      unfold Host.disconnected
      rw [hl]
      exact ⟨rfl, rfl⟩
  | delivered handle session =>
      exact Host.answered_of_not_ongoing hb fun g hl hongoing =>
        hs ⟨g, hl, hongoing⟩

/-- A stale report that comes through a handle that was handed out is
answered on the spot, and the machine is as before. -/
theorem Stale.move (hs : j.Stale report) (hb : j.host.groups.Busy)
    (hheld : (Entry.callback report).isHeld j.past = true)
    (around : Surroundings) :
    ∃ j', j.move? (.enter around (.callback report)) = some j'
      ∧ j'.machine = j.machine
      ∧ j'.past = .replied .done :: .entered (.callback report) :: j.past := by
  obtain ⟨hhost, hcalls⟩ := hs.decision hb
  obtain ⟨events, htaken⟩ := Machine.enter_callback hhost hcalls around
  refine ⟨j.advance (.entered (.callback report))
    ⟨j.machine, events, some .done⟩, ?_, rfl, rfl⟩
  exact j.move?_of_taken hheld htaken

-- ========================================================= for ever after

theorem isHeld_of_leads {e : Entry} (hleads : j.Leads k)
    (hheld : e.isHeld j.past = true) : e.isHeld k.past = true := by
  have hany : ∀ q : Moment → Bool, j.past.any q = true →
      k.past.any q = true := by
    intro q hq
    obtain ⟨m, hm, hqm⟩ := List.any_eq_true.mp hq
    exact List.any_eq_true.mpr ⟨m, (past_of_leads hleads).subset hm, hqm⟩
  cases e with
  | callback report => cases report <;> exact hany _ hheld
  | _ => rfl

/-- The token of a link that was handed out counts as given out. -/
theorem Reached.token_le_of_link (hj : j.Reached)
    (hheld : j.past.any (·.handsOutLink l) = true) :
    l.token.number ≤ j.host.tokens := by
  refine hj.ledger.token_le_of_made (Ledger.made_pos_iff.mpr ?_)
  obtain ⟨m, hm, hhands⟩ := List.any_eq_true.mp hheld
  cases m with
  | called c =>
      cases c with
      | connect p t =>
          exact ⟨.connect p t, (Bool.and_eq_true_iff.mp hhands).2, hm⟩
      | _ => cases hhands
  | _ => cases hhands

/-- A request that was handed over is handed over by no transaction. -/
theorem Reached.not_asked_again (hj : j.Reached)
    (hmade : 0 < j.ledger.made (·.asks l r)) (tx : Transaction) :
    ∀ c ∈ (tx.decision j.host).calls, c.asks l r = false := by
  obtain ⟨honce, hnumbered⟩ := hj.ledger.asked_once l r
  have hwaiting := tx.waiting_decision (l := l) (r := r) hj.busy
  have hle : r.number ≤ j.host.requests := by
    by_contra hbeyond
    have := hnumbered (Nat.lt_of_not_le hbeyond)
    omega
  have hfresh : r ≠ j.host.freshRequest := by
    rintro rfl
    exact Nat.not_succ_le_self _ hle
  rw [if_neg hfresh] at hwaiting
  replace honce : j.host.groups.waiting l r + _ + _ ≤ 1 := honce
  have hzero : (tx.decision j.host).calls.countP (·.asks l r) = 0 := by omega
  exact fun c hc => Bool.eq_false_iff.mpr (List.countP_eq_zero.mp hzero c hc)

/-- A request that was handed over and is not ongoing is not ongoing after a
move. -/
theorem Reached.unwanted_move (hj : j.Reached)
    (hmade : 0 < j.ledger.made (·.asks l r)) (hnot : ¬ j.Wants l r)
    (hmove : j.move? mv = some j') : ¬ j'.Wants l r := by
  obtain ⟨tx, hhost⟩ := matches_of_move hmove
  rintro ⟨g', hl', hongoing⟩
  rw [hhost.live?] at hl'
  rcases Transaction.ongoing_origin hj.busy hl' hongoing with
    hbefore | ⟨c, hc, hasks⟩
  · exact hnot hbefore
  · rw [hj.not_asked_again hmade tx c hc] at hasks
    cases hasks

/-- A report that comes through a handle that was handed out is stale for
ever once it is. -/
theorem Stale.leads (hj : j.Reached)
    (hheld : (Entry.callback report).isHeld j.past = true)
    (hs : j.Stale report) (hleads : j.Leads k) : k.Stale report := by
  cases report with
  | connected link endpoint =>
      exact (gone_of_leads hj hleads (hj.token_le_of_link hheld) hs).2
  | disconnected link =>
      exact (gone_of_leads hj hleads (hj.token_le_of_link hheld) hs).2
  | delivered handle session =>
      induction hleads with
      | here => exact hs
      | @move k _ mv hleads hmove ih =>
          have hmade : 0 < k.ledger.made (·.asks handle.link handle.request) :=
            Ledger.made_of_handed_out (isHeld_of_leads hleads hheld)
          exact (hj.leads hleads).unwanted_move hmade ih hmove

/-- In a run, a report through a handle that was handed out, once stale,
leaves the machine exactly as it is and calls nobody, whenever it comes; and
a token that was given out and that no live group carries is not carried by
a live group ever again. -/
theorem stale_report_inert (hj : j.Reached) (hleads : j.Leads k) :
    (∀ report around, (Entry.callback report).isHeld j.past = true →
        j.Stale report →
          ∃ k', k.move? (.enter around (.callback report)) = some k'
            ∧ k'.machine = k.machine
            ∧ k'.past
              = .replied .done :: .entered (.callback report) :: k.past)
      ∧ ∀ t : Token, t.number ≤ j.host.tokens →
          (∀ id g, j.host.groups.find? id = some g → g.token ≠ t) →
          ∀ id g, k.host.groups.find? id = some g → g.token ≠ t := by
  constructor
  · intro report around hheld hs
    exact (hs.leads hj hheld hleads).move (hj.leads hleads).busy
      (isHeld_of_leads hleads hheld) around
  · rintro t ht hgone id g hg rfl
    have hbefore : ¬ j.IsLive ⟨id, g.token⟩ := by
      intro hlive
      obtain ⟨g₀, hl⟩ := Option.isSome_iff_exists.mp hlive
      obtain ⟨he, htoken⟩ := GroupTable.live?_eq_some_iff.mp hl
      exact hgone id g₀ (GroupTable.find?_eq_some_iff.mpr he) htoken
    refine (gone_of_leads hj hleads ht hbefore).2 ?_
    unfold IsLive
    rw [GroupTable.live?_of_find? hg]
    rfl

end Journal

namespace Sample

/-- The user is dropped before the provider has answered. -/
def left : List Move :=
  waiting ++ [.enter (around [descriptor])
      (.callback (.connected ⟨"p", ⟨1⟩⟩ ⟨"s"⟩)), .answer .accepted,
    operate .stopServing, .answer .accepted]

/-- The user is back, and asks for a session with the same provider. -/
def renewed : List Move :=
  [operate (.changeUser ⟨0⟩ true), operate (.beginSession "p" (request 2))]

/-- The answer to the first request, which comes too late. -/
def late : Callback :=
  .delivered ⟨"p", ⟨1⟩, ⟨1⟩⟩ (some ⟨"x"⟩)

end Sample

/-- An answer that comes after its group left, when the provider has a new
group, changes nothing. -/
theorem Journal.late_answer_inert :
    ∃ j k, Sample.start.after? Sample.left = some j
      ∧ j.after? Sample.renewed = some k
      ∧ (∃ k', k.move? (.enter (Sample.around []) (.callback Sample.late))
          = some k' ∧ k'.machine = k.machine)
      ∧ ∀ id g, k.host.groups.find? id = some g → g.token ≠ ⟨1⟩ := by
  obtain ⟨j, hj, hend⟩ := (Option.any_eq_true
    (fun j : Journal => decide (j.host.groups.entries = [])
      && decide (1 ≤ j.host.tokens)
      && (Entry.callback Sample.late).isHeld j.past
      && (j.after? Sample.renewed).isSome) _).mp
    (show (Sample.start.after? Sample.left).any _ = true from rfl)
  simp only [Bool.and_eq_true, decide_eq_true_eq] at hend
  obtain ⟨⟨⟨hnone, ht⟩, hheld⟩, hsome⟩ := hend
  obtain ⟨k, hk⟩ := Option.isSome_iff_exists.mp hsome
  have hgone : ∀ id, j.host.groups.find? id = none := by
    intro id
    rw [GroupTable.find?_eq_none_iff, hnone]
    exact fun _ => List.not_mem_nil
  have hstale : j.Stale Sample.late := by
    rintro ⟨g, hl, -⟩
    unfold GroupTable.live? at hl
    rw [hgone] at hl
    cases hl
  obtain ⟨hinert, htokens⟩ :=
    stale_report_inert (Reached.of_after hj) (leads_of_after hk)
  obtain ⟨k', hmove, hmachine, -⟩ :=
    hinert Sample.late (Sample.around []) hheld hstale
  refine ⟨j, k, hj, hk, ⟨k', hmove, hmachine⟩, htokens ⟨1⟩ ht ?_⟩
  intro id g hg
  rw [hgone] at hg
  cases hg

end SpellSessions
