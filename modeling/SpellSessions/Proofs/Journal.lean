/-
Runs: a machine, and the record of what happened to it.

What surrounds the service may move at any moment: something enters, also
from inside a call that is in progress; the innermost call returns, with
any answer; somebody else writes the settings; or the groups are walked in
another order from now on. A report comes through a handle, so it needs a
call that handed the handle out, and nothing else limits the order of the
moves. A caller who would wait for a call to connect makes no move, and one
whose wait is over does what an entry of that moment does
(`Service.operate_eq_resumeSession`). What is proved of `Reached` therefore
holds of every order of operations, callbacks, nested entries and answers, and
of every order in which the groups are walked.

# What is no run

Anything may enter from any thread, but the calls in progress form one stack,
and the innermost returns first. So an entry that comes while a call is in
progress is over before that call returns, whoever makes it. What two threads
do one after the other is a run, and so is what one of them begins and ends
within a call of the other. Rounds of two threads that overlap without one
lying within the other are no run.
-/
import SpellSessions.Proofs.Turn

namespace SpellSessions

-- ============================================================== moments

/-- Something that happened in a run. -/
inductive Moment where
  /-- Something entered the service. -/
  | entered (entry : Entry)
  /-- A call came back. -/
  | returned (call : Call) (answer : Answer)
  /-- A collaborator was called. -/
  | called (call : Call)
  /-- An entry was answered. -/
  | replied (reply : Reply)
deriving DecidableEq, Repr

/-- Whether a link was handed out at the moment. -/
def Moment.handsOutLink (l : Link) : Moment → Bool
  | .called (.connect p t) => p.id = l.provider && t = l.token
  | _ => false

/-- Whether a reply handle was handed out at the moment. -/
def Moment.handsOutReply (a : ReplyHandle) : Moment → Bool
  | .called (.create id t _ r _) =>
    id = a.provider && t = a.token && r = a.request
  | _ => false

/-- Whether the handle that an entry comes through was handed out. An
operation or a direct entry comes through none. -/
def Entry.isHeld (past : List Moment) : Entry → Bool
  | .callback (.connected link _) => past.any (·.handsOutLink link)
  | .callback (.disconnected link) => past.any (·.handsOutLink link)
  | .callback (.delivered handle _) => past.any (·.handsOutReply handle)
  | _ => true

/-- What becomes of a move of the machine: a call begins, or a reply is
given. -/
def Progress.sequel (p : Progress) : List Moment :=
  match p.reply, p.machine.stack with
  | some r, _ => [.replied r]
  | none, f :: _ => [.called f.call]
  | none, [] => []

-- ================================================================= runs

/-- A machine and what happened to it, the latest first. -/
structure Journal where
  machine : Machine
  past : List Moment

/-- A move of what surrounds the service. -/
inductive Move where
  /-- Something enters the service and finds this around it. -/
  | enter (around : Surroundings) (entry : Entry)
  /-- The innermost call returns. -/
  | answer (a : Answer)
  /-- Somebody else writes the settings. -/
  | store (settings : Settings)
  /-- The groups are walked in the order of this table from now on. Nothing
  promises the order of a map, so it may be another at any moment. -/
  | reorder (groups : GroupTable)

/-- Whether a move turns to the groups directly. -/
def Move.isDirect : Move → Bool
  | .enter _ (.direct _) => true
  | _ => false

/-- Whether a move passes the calls by: nothing enters, and nothing
returns. -/
def Move.isAside : Move → Bool
  | .store _ => true
  | .reorder _ => true
  | _ => false

namespace Journal

/-- A service before anything happened. -/
def begin (rule : DefaultRule) (settings : Settings) : Journal :=
  ⟨.idle ⟨rule, .initial, settings⟩, []⟩

/-- The host at the moment. -/
def host (j : Journal) : Host :=
  j.machine.service.host

/-- The journal after a move of the machine, and what caused it. -/
def advance (j : Journal) (cause : Moment) (p : Progress) : Journal :=
  ⟨p.machine, p.sequel ++ cause :: j.past⟩

/-- The journal with another service in the middle of the same calls. -/
def withService (j : Journal) (s : Service) : Journal :=
  { j with machine := { j.machine with service := s } }

/-- The journal after a move, unless the move cannot be made. -/
def move? (j : Journal) : Move → Option Journal
  | .enter around e =>
    if e.isHeld j.past then
      match j.machine.enter around e with
      | .taken p => some (j.advance (.entered e) p)
      | .parked => none
    else none
  | .answer a =>
    match j.machine.stack with
    | [] => none
    | f :: _ =>
      (j.machine.answer a).map (j.advance (.returned f.call a))
  | .store settings =>
    some (j.withService { j.machine.service with settings })
  | .reorder groups =>
    if groups.entries.Perm j.host.groups.entries then
      some (j.withService
        { j.machine.service with host := j.host.withGroups groups })
    else none

/-- The journal after moves in turn. -/
def after? (j : Journal) : List Move → Option Journal
  | [] => some j
  | mv :: rest => (j.move? mv).bind (·.after? rest)

/-- The journals that some run leads to. -/
inductive Reached : Journal → Prop
  | begin (rule : DefaultRule) (settings : Settings) :
      Reached (.begin rule settings)
  | move {j j' : Journal} (mv : Move) (hj : Reached j)
      (hmove : j.move? mv = some j') : Reached j'

/-- The journals that some run without direct entries leads to. -/
inductive ReachedIndirectly : Journal → Prop
  | begin (rule : DefaultRule) (settings : Settings) :
      ReachedIndirectly (.begin rule settings)
  | move {j j' : Journal} (mv : Move) (hj : ReachedIndirectly j)
      (hindirect : mv.isDirect = false) (hmove : j.move? mv = some j') :
      ReachedIndirectly j'

/-- A run from one journal to another. -/
inductive Leads (j : Journal) : Journal → Prop
  | here : Leads j j
  | move {k k' : Journal} (mv : Move) (hk : Leads j k)
      (hmove : k.move? mv = some k') : Leads j k'

variable {j j' k : Journal} {mv : Move}

theorem Leads.trans (h : j.Leads j') (h' : j'.Leads k) : j.Leads k := by
  induction h' with
  | here => exact h
  | move mv _ hmove ih => exact .move mv ih hmove

theorem leads_of_after {moves : List Move} (h : j.after? moves = some k) :
    j.Leads k := by
  induction moves generalizing j with
  | nil =>
      cases h
      exact .here
  | cons mv rest ih =>
      unfold after? at h
      obtain ⟨j', hmove, hrest⟩ := Option.bind_eq_some_iff.mp h
      exact Leads.trans (.move mv .here hmove) (ih hrest)

theorem Reached.leads (hj : j.Reached) (hk : j.Leads k) : k.Reached := by
  induction hk with
  | here => exact hj
  | move mv _ hmove ih => exact .move mv ih hmove

/-- What some moves lead to from the beginning is reached. -/
theorem Reached.of_after {rule : DefaultRule} {settings : Settings}
    {moves : List Move}
    (h : (Journal.begin rule settings).after? moves = some j) : j.Reached :=
  (Reached.begin rule settings).leads (leads_of_after h)

theorem ReachedIndirectly.reached (hj : j.ReachedIndirectly) :
    j.Reached := by
  induction hj with
  | begin rule settings => exact .begin rule settings
  | move mv _ _ hmove ih => exact ih.move mv hmove

theorem ReachedIndirectly.after {moves : List Move}
    (hj : j.ReachedIndirectly) (h : j.after? moves = some k)
    (hindirect : ∀ mv ∈ moves, mv.isDirect = false) :
    k.ReachedIndirectly := by
  induction moves generalizing j with
  | nil =>
      cases h
      exact hj
  | cons mv rest ih =>
      unfold after? at h
      obtain ⟨j', hmove, hrest⟩ := Option.bind_eq_some_iff.mp h
      have hfirst := hindirect mv List.mem_cons_self
      refine ih (hj.move mv hfirst hmove) hrest ?_
      intro mv' hmv'
      exact hindirect mv' (List.mem_cons_of_mem _ hmv')

/-- What some moves lead to from the beginning, none of them a direct
entry. -/
theorem ReachedIndirectly.of_after {rule : DefaultRule}
    {settings : Settings} {moves : List Move}
    (h : (Journal.begin rule settings).after? moves = some j)
    (hindirect : ∀ mv ∈ moves, mv.isDirect = false) :
    j.ReachedIndirectly :=
  (ReachedIndirectly.begin rule settings).after h hindirect

-- ============================================== what a move comes down to

/-- A move, taken apart. -/
inductive Moved (j : Journal) : Journal → Prop
  /-- Something entered. -/
  | entered (around : Surroundings) (e : Entry) (p : Progress)
      (hheld : e.isHeld j.past = true)
      (htaken : j.machine.enter around e = .taken p) :
      Moved j (j.advance (.entered e) p)
  /-- The innermost call returned. -/
  | returned (a : Answer) (f : Frame) (outer : List Frame) (p : Progress)
      (hstack : j.machine.stack = f :: outer)
      (hanswer : j.machine.answer a = some p) :
      Moved j (j.advance (.returned f.call a) p)
  /-- The settings were written, or the groups put into another order. -/
  | aside (s : Service) (hr : s.host.Reorders j.host) :
      Moved j (j.withService s)

theorem move?_of_taken (j : Journal) {around : Surroundings} {e : Entry}
    {p : Progress} (hheld : e.isHeld j.past = true)
    (htaken : j.machine.enter around e = .taken p) :
    j.move? (.enter around e) = some (j.advance (.entered e) p) := by
  unfold move?
  dsimp only
  rw [if_pos hheld, htaken]

theorem move?_of_answered {a : Answer} {f : Frame} {outer : List Frame}
    {p : Progress} (hstack : j.machine.stack = f :: outer)
    (hanswer : j.machine.answer a = some p) :
    j.move? (.answer a) = some (j.advance (.returned f.call a) p) := by
  unfold move?
  dsimp only
  rw [hstack, hanswer]
  rfl

theorem advance_of_enter {around : Surroundings} {e : Entry}
    (h : j.move? (.enter around e) = some j') :
    ∃ p, e.isHeld j.past = true ∧ j.machine.enter around e = .taken p
      ∧ j' = j.advance (.entered e) p := by
  dsimp only [move?] at h
  split at h
  · next hheld =>
      split at h
      · next p htaken => exact ⟨p, hheld, htaken, (Option.some.inj h).symm⟩
      · cases h
  · cases h

theorem advance_of_answer {a : Answer} (h : j.move? (.answer a) = some j') :
    ∃ f outer p, j.machine.stack = f :: outer
      ∧ j.machine.answer a = some p
      ∧ j' = j.advance (.returned f.call a) p := by
  dsimp only [move?] at h
  split at h
  · cases h
  · next f outer hstack =>
      obtain ⟨p, hanswer, heq⟩ := Option.map_eq_some_iff.mp h
      exact ⟨f, outer, p, hstack, hanswer, heq.symm⟩

theorem withService_of_reorder {groups : GroupTable}
    (h : j.move? (.reorder groups) = some j') :
    groups.entries.Perm j.host.groups.entries
      ∧ j' = j.withService
          { j.machine.service with host := j.host.withGroups groups } := by
  dsimp only [move?] at h
  split at h
  · next hperm => exact ⟨hperm, (Option.some.inj h).symm⟩
  · cases h

/-- A move that passes the calls by leaves the host as it is but for the order
of its groups. -/
theorem reorders_of_aside (haside : mv.isAside = true)
    (h : j.move? mv = some j') :
    ∃ s : Service, s.host.Reorders j.host ∧ j' = j.withService s := by
  cases mv with
  | enter around e => cases haside
  | answer a => cases haside
  | store settings =>
      refine ⟨_, ?_, (Option.some.inj h).symm⟩
      exact .refl j.host
  | reorder groups =>
      obtain ⟨hperm, rfl⟩ := withService_of_reorder h
      refine ⟨_, ?_, rfl⟩
      exact ⟨hperm, rfl, rfl, rfl, rfl, rfl⟩

/-- Any other order of the groups is one that a move puts them into. -/
theorem move?_of_reorders {h : Host} (hr : h.Reorders j.host) :
    j.move? (.reorder h.groups)
      = some (j.withService { j.machine.service with host := h }) := by
  have hhost : j.host.withGroups h.groups = h := by
    obtain ⟨registry, user, active, groups, tokens, requests⟩ := h
    obtain ⟨-, rfl, rfl, rfl, rfl, rfl⟩ := hr
    rfl
  dsimp only [move?]
  rw [if_pos hr.entries, hhost]

/-- Every other order of the groups is reached as well. -/
theorem Reached.reordered (hj : j.Reached) {h : Host}
    (hr : h.Reorders j.host) :
    (j.withService { j.machine.service with host := h }).Reached :=
  hj.move _ (move?_of_reorders hr)

theorem moved_of_move (h : j.move? mv = some j') : Moved j j' := by
  cases mv with
  | enter around e =>
      obtain ⟨p, hheld, htaken, rfl⟩ := advance_of_enter h
      exact .entered around e p hheld htaken
  | answer a =>
      obtain ⟨f, outer, p, hstack, hanswer, rfl⟩ := advance_of_answer h
      exact .returned a f outer p hstack hanswer
  | store settings | reorder groups =>
      obtain ⟨s, hr, rfl⟩ := reorders_of_aside rfl h
      exact .aside s hr

/-- What happened stays on record. -/
theorem past_of_move (hmove : j.move? mv = some j') : j.past <:+ j'.past := by
  cases moved_of_move hmove with
  | entered around e p hheld htaken =>
      exact ⟨p.sequel ++ [.entered e], by simp [advance]⟩
  | returned a f outer p hstack hanswer =>
      exact ⟨p.sequel ++ [.returned f.call a], by simp [advance]⟩
  | aside s hr => exact List.suffix_refl _

theorem past_of_leads (hleads : j.Leads k) : j.past <:+ k.past := by
  induction hleads with
  | here => exact List.suffix_refl _
  | move mv _ hmove ih => exact ih.trans (past_of_move hmove)

end Journal

-- ======================================================== a small world

namespace Sample

/-- A provider as discovery lists it. -/
def descriptor : Descriptor :=
  ⟨"p", "pkg", some requiredPermission, false, [⟨"en", ""⟩]⟩

/-- The provider that the descriptor stands for. -/
def provider : Provider :=
  ⟨"p", "pkg", false, [⟨⟨"en", none, none⟩, ""⟩]⟩

/-- Everybody is let in, and discovery lists the given providers. -/
def around (listed : List Descriptor) : Surroundings :=
  ⟨fun _ => true, fun _ => listed, ⟨"en", none, none⟩, none⟩

def request (listener : UInt64) : Request :=
  ⟨⟨0, ⟨0⟩⟩, none, ⟨0⟩, ⟨listener⟩, .empty⟩

/-- An operation while discovery lists the one provider. -/
def operate (op : Operation) : Move :=
  .enter (around [descriptor]) (.operation op)

def start : Journal :=
  .begin ⟨[]⟩ (.empty true)

/-- A user is served, and a first session is asked for: the provider's
connector is called. -/
def opening : List Move :=
  [operate (.changeUser ⟨0⟩ true), operate (.beginSession "p" (request 1))]

/-- The connector has returned, and the request waits for the provider. -/
def waiting : List Move :=
  opening ++ [.answer .accepted]

end Sample

end SpellSessions
