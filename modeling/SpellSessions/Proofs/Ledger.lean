/-
The ledger of a run: the calls that are due, those that are running, and
what happened.

A round keeps its calls in order, and rounds are nested in each other; to
count calls, neither matters. A ledger forgets both. Each move of a
journal is a few steps of its ledger: a transaction whose calls fall due,
then requests that are skipped, then a call that begins or a reply; a move
that passes the calls by is one step, which may put the groups into another
order (`Reached.ledger`). What is counted over a run is proved by induction
over these steps.
-/
import SpellSessions.Proofs.Journal

namespace SpellSessions

-- ====================================================== what is forgotten

/-- The two have the same groups, in whatever order, and gave out the same
numbers. -/
structure Host.Matches (h h' : Host) : Prop where
  entries : h.groups.entries.Perm h'.groups.entries
  tokens : h.tokens = h'.tokens
  requests : h.requests = h'.requests

namespace Host

variable {h h' : Host}

theorem Matches.refl (h : Host) : h.Matches h :=
  ⟨.refl _, rfl, rfl⟩

theorem Reorders.matches (hr : h.Reorders h') : h.Matches h' :=
  ⟨hr.entries, hr.tokens, hr.requests⟩

/-- A provider has the same group in both. -/
theorem Matches.find? (hm : h.Matches h') (id : ProviderId) :
    h.groups.find? id = h'.groups.find? id :=
  GroupTable.find?_of_perm hm.entries id

theorem Matches.live? (hm : h.Matches h') (id : ProviderId)
    (token : Token) : h.groups.live? id token = h'.groups.live? id token :=
  GroupTable.live?_of_perm hm.entries id token

/-- What holds of every group of one holds of every group of the other. -/
theorem Matches.forall_entries {P : ProviderId × Group → Prop}
    (hm : h.Matches h') (hall : ∀ e ∈ h'.groups.entries, P e) :
    ∀ e ∈ h.groups.entries, P e :=
  fun e he => hall e (hm.entries.mem_iff.mp he)

end Host

/-- Whether an entry can make the transaction: it is not one that belongs
to the return of a call, and the handle it takes was handed out. -/
def Transaction.isOpenTo (past : List Moment) : Transaction → Bool
  | .connected l _ => past.any (·.handsOutLink l)
  | .disconnected l => past.any (·.handsOutLink l)
  | .answered a _ => past.any (·.handsOutReply a)
  | .established _ => false
  | .forgetRefused _ => false
  | .dropWork _ => false
  | .ownerLost _ _ => false
  | _ => true

/-- A host with its calls and its past. -/
structure Ledger where
  host : Host
  /-- The calls that have not returned. -/
  running : List Call
  /-- The calls that are owed and not made yet. -/
  due : List Call
  past : List Moment

namespace Ledger

/-- One step. -/
inductive Step (b : Ledger) : Ledger → Prop
  /-- Something enters, and a transaction is made. -/
  | enters (e : Entry) (tx : Transaction) (h' : Host)
      (hopen : tx.isOpenTo b.past = true)
      (hmatch : h'.Matches (tx.decision b.host).host) :
      Step b ⟨h', b.running, (tx.decision b.host).calls ++ b.due,
        .entered e :: b.past⟩
  /-- A call returns, and the transaction of its return is made. -/
  | returns (c : Call) (a : Answer) (others mine theirs : List Call)
      (hrunning : b.running = c :: others) (hdue : b.due = mine ++ theirs) :
      Step b ⟨((c.transaction a).decision b.host).host, others,
        mine ++ ((c.transaction a).decision b.host).calls ++ theirs,
        .returned c a :: b.past⟩
  /-- A request for a session is skipped. -/
  | skips (c : Call) (rest : List Call) (hdue : b.due = c :: rest)
      (hcreate : c.isCreate = true) : Step b { b with due := rest }
  /-- A call begins. -/
  | begins (c : Call) (rest : List Call) (hdue : b.due = c :: rest) :
      Step b ⟨b.host, c :: b.running, rest, .called c :: b.past⟩
  /-- An entry is answered. -/
  | replies (r : Reply) : Step b { b with past := .replied r :: b.past }
  /-- The groups are put into another order. -/
  | reorders (h' : Host) (hmatch : h'.Matches b.host) :
      Step b { b with host := h' }

/-- The ledgers that some steps lead to. -/
inductive Reached : Ledger → Prop
  | begin : Reached ⟨.initial, [], [], []⟩
  | step {b b' : Ledger} (hb : Reached b) (hstep : b.Step b') : Reached b'

/-- Some steps from one ledger to another. -/
inductive Leads (b : Ledger) : Ledger → Prop
  | here : Leads b b
  | step {b₁ b₂ : Ledger} (hb : Leads b b₁) (hstep : b₁.Step b₂) :
      Leads b b₂

theorem Leads.trans {b b₁ b₂ : Ledger} (h : b.Leads b₁) (h' : b₁.Leads b₂) :
    b.Leads b₂ := by
  induction h' with
  | here => exact h
  | step _ hstep ih => exact .step ih hstep

theorem Reached.leads {b b' : Ledger} (hb : b.Reached) (h : b.Leads b') :
    b'.Reached := by
  induction h with
  | here => exact hb
  | step _ hstep ih => exact .step ih hstep

end Ledger

-- ============================================================== counting

/-- Whether a call of the kind began at the moment. -/
def Moment.calls (q : Call → Bool) : Moment → Bool
  | .called c => q c
  | _ => false

/-- Whether a call of the kind came back at the moment. -/
def Moment.returns (q : Call → Bool) : Moment → Bool
  | .returned c _ => q c
  | _ => false

/-- Whether a call of the kind came back well at the moment. -/
def Moment.accepts (q : Call → Bool) : Moment → Bool
  | .returned c .accepted => q c
  | _ => false

namespace Ledger

variable {b : Ledger}

/-- How many calls of a kind were made. -/
def made (b : Ledger) (q : Call → Bool) : Nat :=
  b.past.countP (·.calls q)

/-- How many calls of a kind came back. -/
def returned (b : Ledger) (q : Call → Bool) : Nat :=
  b.past.countP (·.returns q)

/-- How many calls of a kind came back well. -/
def accepted (b : Ledger) (q : Call → Bool) : Nat :=
  b.past.countP (·.accepts q)

theorem made_pos_iff {q : Call → Bool} :
    0 < b.made q ↔ ∃ c, q c = true ∧ .called c ∈ b.past := by
  unfold made
  rw [List.countP_pos_iff]
  constructor
  · rintro ⟨m, hm, hcalls⟩
    cases m with
    | called c => exact ⟨c, hcalls, hm⟩
    | _ => cases hcalls
  · rintro ⟨c, hq, hc⟩
    exact ⟨.called c, hc, hq⟩

theorem accepted_le_returned (q : Call → Bool) :
    b.accepted q ≤ b.returned q := by
  refine List.countP_mono_left fun m _ hm => ?_
  cases m with
  | returned c a =>
      cases a with
      | accepted => exact hm
      | declined reason => cases hm
  | _ => cases hm

/-- Every call that was made is running or came back. -/
theorem Reached.made_eq (hb : b.Reached) (q : Call → Bool) :
    b.made q = b.running.countP q + b.returned q := by
  induction hb with
  | begin => rfl
  | step _ hstep ih =>
      unfold made returned at ih ⊢
      cases hstep with
      | enters e tx h' hopen hmatch => exact ih
      | returns c a others mine theirs hrunning hdue =>
          rw [hrunning] at ih
          simp only [List.countP_cons, Moment.calls, Moment.returns,
            Bool.false_eq_true, if_false] at ih ⊢
          omega
      | skips c rest hdue hcreate => exact ih
      | begins c rest hdue =>
          simp only [List.countP_cons, Moment.calls, Moment.returns,
            Bool.false_eq_true, if_false] at ih ⊢
          omega
      | replies r => exact ih
      | reorders h' hmatch => exact ih

-- ================================================ a step as a transaction

/-- What a step makes of a transaction. The calls of the transaction fall
due, and nothing else does. -/
structure Transacts (b : Ledger) (tx : Transaction) (b' : Ledger) :
    Prop where
  host : b'.host.Matches (tx.decision b.host).host
  due : ∀ c ∈ b'.due, c ∈ (tx.decision b.host).calls ∨ c ∈ b.due
  /-- A call that falls due stays due until it is made or skipped. -/
  counted : ∀ q, b'.due.countP q + b'.made q
    ≤ (tx.decision b.host).calls.countP q + b.due.countP q + b.made q
  /-- An answer comes through a handle that was handed out. -/
  held : ∀ a session, tx = .answered a session →
    b.past.any (·.handsOutReply a) = true

theorem transaction_ne_answered (c : Call) (a : Answer)
    (handle : ReplyHandle) (session : Option Session) :
    c.transaction a ≠ .answered handle session := by
  cases c <;> cases a <;> exact nofun

/-- Every step makes one transaction; one that leaves the groups alone
makes `stay`. -/
theorem Step.transacts {b' : Ledger} (hstep : b.Step b') :
    ∃ tx, b.Transacts tx b' := by
  cases hstep with
  | enters e tx h' hopen hmatch =>
      refine ⟨tx, hmatch, fun c hc => List.mem_append.mp hc, ?_, ?_⟩
      · intro q
        unfold made
        simp only [List.countP_append, List.countP_cons, Moment.calls,
          Bool.false_eq_true, if_false]
        omega
      · rintro a session rfl
        exact hopen
  | returns c a others mine theirs hrunning hdue =>
      refine ⟨c.transaction a, .refl _, ?_, ?_, ?_⟩
      · intro d hd
        rw [hdue]
        simp only [List.mem_append] at hd ⊢
        tauto
      · intro q
        unfold made
        rw [hdue]
        simp only [List.countP_append, List.countP_cons, Moment.calls,
          Bool.false_eq_true, if_false]
        omega
      · intro handle session htx
        exact absurd htx (transaction_ne_answered c a handle session)
  | skips c rest hdue hcreate =>
      refine ⟨.stay, .refl _, ?_, ?_, nofun⟩
      · intro d hd
        rw [hdue]
        exact .inr (List.mem_cons_of_mem _ hd)
      · intro q
        rw [hdue, List.countP_cons]
        show _ + b.made q ≤ _ + _ + b.made q
        dsimp only
        omega
  | begins c rest hdue =>
      refine ⟨.stay, .refl _, ?_, ?_, nofun⟩
      · intro d hd
        rw [hdue]
        exact .inr (List.mem_cons_of_mem _ hd)
      · intro q
        unfold made
        rw [hdue]
        simp only [List.countP_cons, Moment.calls]
        omega
  | replies r =>
      refine ⟨.stay, .refl _, fun d hd => .inr hd, ?_, nofun⟩
      intro q
      unfold made
      simp only [List.countP_cons, Moment.calls, Bool.false_eq_true, if_false]
      omega
  | reorders h' hmatch =>
      refine ⟨.stay, hmatch, fun d hd => .inr hd, fun q => ?_, nofun⟩
      exact Nat.add_le_add_right (Nat.le_add_left _ _) _

theorem Step.past_suffix {b' : Ledger} (hstep : b.Step b') :
    b.past <:+ b'.past := by
  cases hstep with
  | skips c rest hdue hcreate => exact List.suffix_refl _
  | reorders h' hmatch => exact List.suffix_refl _
  | _ => exact List.suffix_cons _ _

/-- A call that was made was due just before. -/
theorem Reached.called_was_due (hb : b.Reached) {c : Call}
    {later earlier : List Moment}
    (hpast : b.past = later ++ .called c :: earlier) :
    ∃ b₀ : Ledger, b₀.Reached ∧ b₀.past = earlier ∧ c ∈ b₀.due := by
  induction hb generalizing later with
  | begin => simp at hpast
  | @step b b' hb hstep ih =>
      -- a call that is not the latest moment was made before the step
      have hbefore : ∀ m, m :: b.past = later ++ .called c :: earlier →
          m ≠ .called c →
          ∃ b₀ : Ledger, b₀.Reached ∧ b₀.past = earlier ∧ c ∈ b₀.due := by
        intro m hcons hm
        cases later with
        | nil => exact absurd (List.cons.inj hcons).1 hm
        | cons m' later => exact ih (List.cons.inj hcons).2
      cases hstep with
      | enters e tx h' hopen hmatch => exact hbefore (.entered e) hpast nofun
      | returns d a others mine theirs hrunning hdue =>
          exact hbefore (.returned d a) hpast nofun
      | skips d rest hdue hcreate => exact ih hpast
      | begins d rest hdue =>
          cases later with
          | nil =>
              cases hpast
              exact ⟨b, hb, rfl, hdue ▸ List.mem_cons_self⟩
          | cons m later => exact ih (List.cons.inj hpast).2
      | replies reply => exact hbefore (.replied reply) hpast nofun
      | reorders h' hmatch => exact ih hpast

end Ledger

-- ================================================= the ledger of a journal

/-- An entry makes a transaction that is open to it. -/
theorem Entry.isOpenTo_transaction {past : List Moment} {e : Entry}
    (s : Service) (around : Surroundings) (h : e.isHeld past = true) :
    (e.transaction s around).isOpenTo past = true := by
  have hsubmission : ∀ id r, (s.submission id r).isOpenTo past = true := by
    intro id r
    unfold Service.submission
    split
    · rfl
    · cases s.host.registry.get? id <;> rfl
  cases e with
  | operation op =>
      cases op with
      | beginSession id r =>
          unfold transaction Operation.transaction
          dsimp only
          cases s.turnedAway? around r.caller with
          | none => exact hsubmission id r
          | some refusal => rfl
      | endSession c l =>
          unfold transaction Operation.transaction
          dsimp only
          cases s.turnedAway? around c <;> rfl
      | _ => rfl
  | callback report => cases report <;> exact h
  | direct entry =>
      cases entry with
      | request p r =>
          unfold transaction DirectEntry.transaction
          dsimp only
          split <;> rfl
      | _ => rfl

/-- Serving is not in the ledger. -/
theorem Entry.matches_serves {s : Service} {around : Surroundings}
    (e : Entry) (h : Host) : (e.serves s around h).Matches h where
  entries := .of_eq (congrArg GroupTable.entries
    (e.serves_keeps Host.groups (fun _ _ _ _ => rfl) h))
  tokens := e.serves_keeps Host.tokens (fun _ _ _ _ => rfl) h
  requests := e.serves_keeps Host.requests (fun _ _ _ _ => rfl) h

namespace Journal

/-- The ledger of a journal. -/
def ledger (j : Journal) : Ledger :=
  ⟨j.host, j.machine.stack.map Frame.call,
    j.machine.stack.flatMap (·.round.queue), j.past⟩

/-- Requests at the front of a queue can be skipped one by one. -/
theorem leads_dropWhile {h : Host} {running others : List Call}
    {past : List Moment} {skips : Call → Bool}
    (hs : ∀ c, skips c = true → c.isCreate = true) (queue : List Call) :
    Ledger.Leads ⟨h, running, queue ++ others, past⟩
      ⟨h, running, queue.dropWhile skips ++ others, past⟩ := by
  induction queue with
  | nil => exact .here
  | cons c rest ih =>
      rw [List.dropWhile_cons]
      split
      · next hc =>
          exact Ledger.Leads.trans (.step .here (.skips c _ rfl (hs c hc))) ih
      · exact .here

/-- A round that goes on takes its ledger along. -/
theorem leads_follows {outer : List Frame} {r : Round} {p : Progress}
    (hp : p.Follows outer r) (h : Host) (past : List Moment) :
    Ledger.Leads
      ⟨h, outer.map Frame.call, r.queue ++ outer.flatMap (·.round.queue),
        past⟩
      ⟨h, p.machine.stack.map Frame.call,
        p.machine.stack.flatMap (·.round.queue), p.sequel ++ past⟩ := by
  have hskip : ∀ c, r.skips c = true → c.isCreate = true :=
    fun c hc => (Bool.and_eq_true_iff.mp hc).1
  refine (leads_dropWhile hskip r.queue).trans ?_
  unfold Progress.sequel
  cases hp with
  | begins f hnext hstack hreply =>
      rw [hstack, hreply]
      unfold Round.next? at hnext
      split at hnext
      · cases hnext
      · next c rest hqueue =>
          cases hnext
          rw [hqueue]
          exact .step .here (.begins c _ rfl)
  | ends reply hnext hstack hreply =>
      rw [hstack, hreply]
      unfold Round.next? at hnext
      split at hnext
      · next hqueue =>
          rw [hqueue]
          exact .step .here (.replies reply)
      · cases hnext

variable {j j' : Journal} {mv : Move} {p : Progress}

/-- An entry changes groups and numbers given out by its transaction
only. -/
theorem matches_of_enter {around : Surroundings} {e : Entry}
    (htaken : j.machine.enter around e = .taken p) :
    p.machine.service.host.Matches
      ((e.transaction j.machine.service around).decision j.host).host := by
  obtain ⟨hservice, -⟩ := Machine.enter_follows htaken
  rw [hservice, Service.host_enter]
  exact e.matches_serves _

theorem matches_of_answer {a : Answer} {f : Frame} {outer : List Frame}
    (hstack : j.machine.stack = f :: outer)
    (hanswer : j.machine.answer a = some p) :
    p.machine.service.host.Matches
      ((f.call.transaction a).decision j.host).host := by
  obtain ⟨hhost, -⟩ := Machine.answer_follows hstack hanswer
  rw [hhost]
  exact .refl _

/-- Every move changes groups and numbers given out by one transaction at
most. -/
theorem matches_of_move (hmove : j.move? mv = some j') :
    ∃ tx : Transaction, j'.host.Matches (tx.decision j.host).host := by
  cases moved_of_move hmove with
  | entered around e p hheld htaken => exact ⟨_, matches_of_enter htaken⟩
  | returned a f outer p hstack hanswer =>
      exact ⟨_, matches_of_answer hstack hanswer⟩
  | aside s hr => exact ⟨.stay, hr.matches⟩

/-- After an entry the calls of its transaction are due, in front of what
was due before. -/
theorem leads_entered {around : Surroundings} {e : Entry}
    (hheld : e.isHeld j.past = true)
    (htaken : j.machine.enter around e = .taken p) :
    ∃ b : Ledger, j.ledger.Step b ∧ b.host = p.machine.service.host
      ∧ b.due = ((e.transaction j.machine.service around).decision
          j.host).calls ++ j.ledger.due
      ∧ b.past = .entered e :: j.past
      ∧ b.Leads (j.advance (.entered e) p).ledger := by
  obtain ⟨-, manner, hfollows⟩ := Machine.enter_follows htaken
  have hcalls : (j.machine.service.enter around e).calls = _ :=
    Service.calls_enter e
  have hstep := Ledger.Step.enters (b := j.ledger) e _ _
    (e.isOpenTo_transaction j.machine.service around hheld)
    (matches_of_enter htaken)
  have hleads := leads_follows hfollows p.machine.service.host
    (.entered e :: j.past)
  exact ⟨_, hstep, rfl, rfl, rfl, hcalls ▸ hleads⟩

theorem due_of_stack {f : Frame} {outer : List Frame}
    (hstack : j.machine.stack = f :: outer) :
    j.ledger.due = f.round.queue ++ outer.flatMap (·.round.queue) := by
  unfold ledger
  rw [hstack]
  rfl

/-- After a return the calls of its transaction are due, behind what its
round had left. -/
theorem leads_returned {a : Answer} {f : Frame} {outer : List Frame}
    (hstack : j.machine.stack = f :: outer)
    (hanswer : j.machine.answer a = some p) :
    ∃ b : Ledger, j.ledger.Step b ∧ b.host = p.machine.service.host
      ∧ b.due = f.round.queue ++ ((f.call.transaction a).decision j.host).calls
          ++ outer.flatMap (·.round.queue)
      ∧ b.past = .returned f.call a :: j.past
      ∧ b.Leads (j.advance (.returned f.call a) p).ledger := by
  obtain ⟨hhost, hfollows⟩ := Machine.answer_follows hstack hanswer
  have hqueue := f.queue_returned j.machine.service.host a
  have hrunning : j.ledger.running = f.call :: outer.map Frame.call := by
    unfold ledger
    rw [hstack]
    rfl
  have hstep := Ledger.Step.returns (b := j.ledger) f.call a _ _ _
    hrunning (due_of_stack hstack)
  have hleads := leads_follows hfollows p.machine.service.host
    (.returned f.call a :: j.past)
  unfold Round.append at hleads
  rw [hqueue] at hleads
  rw [show ((f.call.transaction a).decision j.ledger.host).host
    = p.machine.service.host from hhost.symm] at hstep
  exact ⟨_, hstep, rfl, rfl, rfl, hleads⟩

/-- A move of a journal is some steps of its ledger. -/
theorem leads_of_move (hmove : j.move? mv = some j') :
    j.ledger.Leads j'.ledger := by
  cases moved_of_move hmove with
  | entered around e p hheld htaken =>
      obtain ⟨b, hstep, -, -, -, hleads⟩ := leads_entered hheld htaken
      exact Ledger.Leads.trans (.step .here hstep) hleads
  | returned a f outer p hstack hanswer =>
      obtain ⟨b, hstep, -, -, -, hleads⟩ := leads_returned hstack hanswer
      exact Ledger.Leads.trans (.step .here hstep) hleads
  | aside s hr => exact .step .here (.reorders s.host hr.matches)

theorem Leads.ledger {k : Journal} (h : j.Leads k) :
    j.ledger.Leads k.ledger := by
  induction h with
  | here => exact .here
  | move mv _ hmove ih => exact ih.trans (leads_of_move hmove)

/-- The ledger of a journal that a run leads to is reached step by
step. -/
theorem Reached.ledger (hj : j.Reached) : j.ledger.Reached := by
  induction hj with
  | begin rule settings => exact .begin
  | move mv _ hmove ih => exact ih.leads (leads_of_move hmove)

end Journal

end SpellSessions
