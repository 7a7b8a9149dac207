/-
Outcomes: what the answer to an entry that asks for a session says.

Such an entry is granted, refused at once, or refused because its connection
is. What is refused at once is refused before anything is done, so it leaves
everything as it was. The refusal of a connection reports the call to
connect that the entry itself made: the call is the one that opened the
group of its request, and a round without one ends well (`answered`). So
neither a refusal inside a nested entry nor a failure later in the round is
ever the answer.

# Nothing is left

Under one token one call to connect is made, so a link whose call was
refused is never connected well: no group carries the token any more, and
nothing is released under it (`Ledger.Reached.refused_link`). The request of
the entry belonged to that link alone; it is held nowhere, and its owner is
not told of it from then on (`Reached.untraced`).
-/
import SpellSessions.Proofs.Requests
import SpellSessions.Proofs.Told
import SpellSessions.Proofs.Unwinding

namespace SpellSessions

-- ====================================================== refused at once

/-- Whether a refusal is one that is given before anything is done. -/
def Refusal.isImmediate : Refusal → Bool
  | .connectRefused _ => false
  | _ => true

namespace Service

variable {s : Service} {around : Surroundings} {reply : Reply}
  {refusal : Refusal}

theorem immediate_of_turnedAway {c : Caller}
    (h : s.turnedAway? around c = some refusal) :
    refusal.isImmediate = true := by
  unfold turnedAway? at h
  split at h
  · cases h
    rfl
  · split at h
    · cases h
      rfl
    · cases h

/-- A turn for a caller ends in a refusal if the caller is turned away, or
the turn does. -/
theorem immediate_of_forCaller {c : Caller} {turn : Turn}
    (h : (s.forCaller around c turn).verdict = .replied (.refused refusal)) :
    refusal.isImmediate = true
      ∨ turn.verdict = .replied (.refused refusal) := by
  unfold forCaller at h
  cases haway : s.turnedAway? around c with
  | none =>
      rw [haway] at h
      exact .inr h
  | some x =>
      rw [haway] at h
      cases h
      exact .inl (immediate_of_turnedAway haway)

/-- A session that is asked for is refused at once, if it is answered at
once; and whatever the settings are, all that happens is the refusal. -/
theorem refused_of_beginSession {id : ProviderId} {r : Request}
    (h : (s.beginSession id r).verdict = .replied reply) :
    ∃ x : Refusal, reply = .refused x ∧ x.isImmediate = true
      ∧ ∀ settings, ({ s with settings } : Service).beginSession id r
          = ({ s with settings } : Service).answer (.refused x) := by
  unfold beginSession resumeSession at h ⊢
  split at h
  · next hid =>
      cases h
      exact ⟨.emptyProviderId, rfl, rfl, fun _ => if_pos hid⟩
  · next hid =>
      split at h
      · cases h
      · next hcon =>
          split at h
          · next hserving =>
              cases h
              refine ⟨.inactive, rfl, rfl, fun settings => ?_⟩
              rw [if_neg hid, if_neg hcon, if_pos hserving]
          · next hserving =>
              split at h
              · next hp =>
                  cases h
                  refine ⟨.unknownProvider id, rfl, rfl, fun settings => ?_⟩
                  rw [if_neg hid, if_neg hcon, if_neg hserving, hp]
              · cases h

/-- An entry that asks for a session and is answered at once is refused;
and whatever the settings are, all that happens is the refusal. -/
theorem refused_of_session {e : Entry} {id : ProviderId} {r : Request}
    (hasks : e.session? = some (id, r))
    (h : (s.enter around e).verdict = .replied reply) :
    ∃ x : Refusal, reply = .refused x ∧ x.isImmediate = true
      ∧ ∀ settings, ({ s with settings } : Service).enter around e
          = ({ s with settings } : Service).answer (.refused x) := by
  cases e with
  | operation op =>
      cases op with
      | beginSession id' r' =>
          unfold enter operate forCaller at h ⊢
          dsimp only at h ⊢
          cases haway : s.turnedAway? around r'.caller with
          | some x =>
              rw [haway] at h
              cases h
              refine ⟨x, rfl, immediate_of_turnedAway haway, ?_⟩
              intro settings
              rw [show ({ s with settings } : Service).turnedAway? around
                r'.caller = some x from haway]
          | none =>
              rw [haway] at h
              obtain ⟨x, hreply, himmediate, hall⟩ := refused_of_beginSession h
              refine ⟨x, hreply, himmediate, ?_⟩
              intro settings
              rw [show ({ s with settings } : Service).turnedAway? around
                r'.caller = none from haway]
              exact hall settings
      | _ => cases hasks
  | callback report => cases hasks
  | direct entry =>
      cases entry with
      | request p r' =>
          unfold enter direct at h
          dsimp only at h
          split at h <;> cases h
      | _ => cases hasks

/-- A refusal that is given at once is no refusal of a connection. -/
theorem immediate_of_replied {e : Entry}
    (h : (s.enter around e).verdict = .replied (.refused refusal)) :
    refusal.isImmediate = true := by
  cases hasks : e.session? with
  | some q =>
      obtain ⟨x, hreply, himmediate, -⟩ := refused_of_session hasks h
      cases hreply
      exact himmediate
  | none =>
      cases e with
      | operation op =>
          cases op with
          | userUnlocked u =>
              replace h : (s.userUnlocked around u).verdict = _ := h
              unfold userUnlocked at h
              split at h <;> cases h
          | packagesChanged news =>
              replace h : (s.packagesChanged around news).verdict = _ := h
              rw [verdict_packagesChanged] at h
              cases h
          | beginSession id r => cases hasks
          | selectProvider c id =>
              rcases immediate_of_forCaller h with himmediate | hturn
              · exact himmediate
              · unfold selectProvider at hturn
                split at hturn
                · cases hturn
                  rfl
                · cases hturn
          | changeUser u unlocked => cases h
          | stopServing => cases h
          | listenerLost l => cases h
          | _ =>
              rcases immediate_of_forCaller h with himmediate | hturn
              · exact himmediate
              · cases hturn
      | callback report => cases report <;> cases h
      | direct entry =>
          cases entry with
          | request p r => cases hasks
          | _ => cases h

end Service

/-- Entering is refused, and is all that happens: whatever the settings are,
the machine stays as it is, and nobody is called or shown anything. -/
def Machine.RefusesAtOnce (m : Machine) (around : Surroundings) (e : Entry)
    (refusal : Refusal) : Prop :=
  ∀ settings,
    let m' : Machine := { m with service := { m.service with settings } }
    m'.enter around e = .taken ⟨m', [], some (.refused refusal)⟩

theorem Machine.refuses_at_once {m : Machine} {around : Surroundings}
    {e : Entry} {id : ProviderId} {r : Request} {reply : Reply}
    (hasks : e.session? = some (id, r))
    (h : (m.service.enter around e).verdict = .replied reply) :
    ∃ x : Refusal, reply = .refused x ∧ x.isImmediate = true
      ∧ m.RefusesAtOnce around e x := by
  obtain ⟨x, hreply, himmediate, hall⟩ := Service.refused_of_session hasks h
  refine ⟨x, hreply, himmediate, ?_⟩
  intro settings
  dsimp only [enter]
  rw [hall settings]
  rfl

-- ================================================== a link that is refused

namespace Ledger

variable {b : Ledger} {p p' : Provider} {t : Token} {a a' : Answer}

/-- Under one token one call to connect comes back, once. -/
theorem Reached.return_unique (hb : b.Reached)
    (h : .returned (.connect p t) a ∈ b.past)
    (h' : .returned (.connect p' t) a' ∈ b.past) : p = p' ∧ a = a' := by
  have honce := (hb.connects_once t).1
  have hmade := hb.made_eq (·.connectsUnder t)
  have hle : b.returned (·.connectsUnder t) ≤ 1 := by omega
  have hself : ∀ (p : Provider) (a : Answer),
      (Moment.returned (.connect p t) a).returns (·.connectsUnder t) = true :=
    fun _ _ => decide_eq_true rfl
  have heq := eq_of_countP_le_one hle h h' (hself p a) (hself p' a')
  cases heq
  exact ⟨rfl, rfl⟩

/-- Under a token whose call to connect was refused nothing is connected
well, and no group is live. -/
theorem Reached.refused_link (hb : b.Reached) {reason : String}
    (h : .returned (.connect p t) (.declined reason) ∈ b.past)
    (id : ProviderId) :
    b.accepted (·.connects ⟨id, t⟩) = 0
      ∧ b.host.groups.live? id t = none := by
  have haccepted : b.accepted (·.connects ⟨id, t⟩) = 0 := by
    by_contra hpos
    obtain ⟨p', -, hwell⟩ := returned_of_accepted (Nat.pos_of_ne_zero hpos)
    cases (hb.return_unique h hwell).2
  refine ⟨haccepted, ?_⟩
  -- the one call to connect under the token is over
  have honce := (hb.connects_once t).1
  have hmade := hb.made_eq (·.connectsUnder t)
  have hreturned : 0 < b.returned (·.connectsUnder t) :=
    List.countP_pos_iff.mpr ⟨_, h, decide_eq_true rfl⟩
  have hunder : ∀ cs : List Call,
      cs.countP (·.connects ⟨id, t⟩) ≤ cs.countP (·.connectsUnder t) := by
    intro cs
    apply List.countP_mono_left
    intro c _ hc
    obtain ⟨p', -, rfl⟩ := Call.connects_iff.mp hc
    exact decide_eq_true rfl
  have hdue := hunder b.due
  have hrunning := hunder b.running
  have hopening := hb.opening_le ⟨id, t⟩
  have hstanding := hb.standing_eq ⟨id, t⟩
  cases hl : b.host.groups.live? id t with
  | none => rfl
  | some g =>
      exfalso
      unfold GroupTable.opening at hopening
      unfold GroupTable.standing at hstanding
      rw [hl, Option.any_some] at hopening hstanding
      have hone : g.connecting.toNat + (!g.connecting).toNat = 1 := by
        cases g.connecting <;> rfl
      omega

end Ledger

namespace Journal

variable {j j₁ k k' : Journal} {moves : List Move} {around : Surroundings}
  {e : Entry} {id : ProviderId} {p : Provider} {t : Token} {r : Request}
  {n : NumberedRequest} {l : Link} {reply : Reply}

-- ========================================================= what is opened

/-- A link is opened for a request: its provider had no group, and has one
in which the request waits. -/
def Opens (j j₁ : Journal) (l : Link) (n : NumberedRequest) : Prop :=
  j.host.groups.find? l.provider = none
    ∧ j₁.host.groups.find? l.provider = some (.first l.token n)

/-- Nothing is left of a link that was refused, nor of the request that it
was opened for, and nothing comes of them any more. -/
def Untraced (k : Journal) (t : Token) (r : RequestId) : Prop :=
  ∀ k', k.Leads k' →
    (∀ id g, k'.host.groups.find? id = some g → g.token ≠ t)
      ∧ ¬ k'.Holds r
      ∧ (∀ id t' owner listener session,
          ¬ k.CalledSince k' (.notify id t' r owner listener session))
      ∧ ∀ id, .called (.disconnect id t) ∉ k'.past

/-- Once the call to connect a link was refused, no group holds the request
that the link was opened for. -/
theorem Reached.dropped (hj : j₁.Reached)
    (hopened : j₁.host.groups.find? id = some (.first t n))
    (hleads : j₁.Leads k) {reason : String}
    (hrefused : .returned (.connect p t) (.declined reason) ∈ k.past) :
    n.id.number ≤ k.host.requests ∧ ¬ k.Holds n.id := by
  have hl : j₁.host.groups.live? id t = some (.first t n) :=
    GroupTable.live?_of_find? hopened
  have hconcerns : j₁.ledger.Concerns ⟨id, t⟩ n.id :=
    concerns_of_request (l := ⟨id, t⟩) hl List.mem_cons_self
  have hgiven := hj.ledger.number_le hconcerns
  refine ⟨Nat.le_trans hgiven hleads.ledger.requests_le, ?_⟩
  apply hj.not_holds_of_gone hconcerns hleads
  obtain ⟨-, hgone⟩ := (hj.leads hleads).ledger.refused_link hrefused id
  exact Option.not_isSome_iff_eq_none.mpr hgone

/-- Once its call to connect was refused, nothing is left of a link and of
the request that it was opened for. -/
theorem Reached.untraced (hj : j₁.Reached)
    (hopened : j₁.host.groups.find? id = some (.first t n))
    (hleads : j₁.Leads k) {reason : String}
    (hrefused : .returned (.connect p t) (.declined reason) ∈ k.past) :
    k.Untraced t n.id := by
  have hk := hj.leads hleads
  obtain ⟨hgiven, hnot⟩ := hj.dropped hopened hleads hrefused
  intro k' hlater
  have hk' := (hk.leads hlater).ledger
  have hrefused' := (past_of_leads hlater).subset hrefused
  obtain ⟨hforgotten, huntold⟩ := hk.forgotten hgiven hnot hlater
  refine ⟨?_, hforgotten, huntold, ?_⟩
  · intro id' g hg htoken
    obtain ⟨-, hgone⟩ := hk'.refused_link hrefused' id'
    exact GroupTable.live?_eq_none_iff.mp hgone g
      (GroupTable.find?_eq_some_iff.mp hg) htoken
  · intro id' hreleased
    have hpos := hk'.accepted_of_released hreleased
    obtain ⟨hzero, -⟩ := hk'.refused_link hrefused' id'
    omega

/-- An entry that owes a call to connect asks for a session, and opens the
link. -/
theorem Reached.opens_of_connect (hj : j.Reached)
    (hmove : j.move? (.enter around e) = some j₁)
    (hc : .connect p t ∈ (j.machine.service.enter around e).calls) :
    ∃ n : NumberedRequest, e.session? = some (p.id, n.request)
      ∧ j.Opens j₁ ⟨p.id, t⟩ n := by
  rw [Service.calls_enter] at hc
  obtain ⟨r, htx, hnone, rfl, -⟩ :=
    Transaction.submit_of_connect hj.busy hc
  obtain ⟨hasks, -, -⟩ := Entry.asks_of_submit htx
  obtain ⟨q, hheld, htaken, rfl⟩ := advance_of_enter hmove
  have hhost := matches_of_enter htaken
  rw [htx] at hhost
  refine ⟨⟨j.host.freshRequest, r⟩, hasks, hnone, ?_⟩
  show q.machine.service.host.groups.find? p.id = _
  rw [hhost.find?, GroupTable.find?_eq_some_iff,
    Transaction.mem_decision hj.busy]
  right
  simp [Transaction.opens, hnone]

/-- An entry that opens a link owes the call to connect it. -/
theorem Reached.connect_of_opens (hj : j.Reached)
    (hmove : j.move? (.enter around e) = some j₁) (ho : j.Opens j₁ l n) :
    ∃ p, p.id = l.provider
      ∧ .connect p l.token ∈ (j.machine.service.enter around e).calls := by
  obtain ⟨q, hheld, htaken, rfl⟩ := advance_of_enter hmove
  have hhost := matches_of_enter htaken
  obtain ⟨hnone, hopened⟩ := ho
  replace hopened : q.machine.service.host.groups.find? l.provider
    = some (.first l.token n) := hopened
  rw [hhost.find?] at hopened
  have he := GroupTable.find?_eq_some_iff.mp hopened
  have hnew : (l.provider, Group.first l.token n)
      ∈ (e.transaction j.machine.service around).opens j.host := by
    rcases (Transaction.mem_decision hj.busy).mp he with ⟨g, hg, -, -⟩ | hnew
    · exact absurd hg (GroupTable.find?_eq_none_iff.mp hnone g)
    · exact hnew
  obtain ⟨-, r, hfirst⟩ := Transaction.mem_opens hnew
  obtain ⟨p, hid, hc⟩ := Transaction.connect_mem_hands hnew
  have htoken : l.token = j.host.freshToken :=
    congrArg Group.token hfirst
  refine ⟨p, hid, ?_⟩
  rw [Service.calls_enter, htoken]
  exact Transaction.mem_calls_of_mem_hands hj.busy hc

-- ====================================================== how an entry ends

/-- How an entry comes to its reply. -/
inductive Answered (j : Journal) (around : Surroundings) (e : Entry)
    (k : Journal) : Reply → Prop
  /-- It is answered before it owes anything. -/
  | atOnce (reply : Reply)
      (hverdict : (j.machine.service.enter around e).verdict
        = .replied reply)
      (hmove : j.move? (.enter around e) = some k) :
      Answered j around e k reply
  /-- It owes no call to connect, and ends well. -/
  | done
      (hnot : ∀ p t,
        .connect p t ∉ (j.machine.service.enter around e).calls) :
      Answered j around e k .done
  /-- Its call to connect comes back well. -/
  | connected (p : Provider) (t : Token)
      (hcall : .connect p t ∈ (j.machine.service.enter around e).calls)
      (hwell : .returned (.connect p t) .accepted ∈ k.past) :
      Answered j around e k .done
  /-- Its call to connect is refused. -/
  | refused (p : Provider) (t : Token) (reason : String)
      (hcall : .connect p t ∈ (j.machine.service.enter around e).calls)
      (hrefused : .returned (.connect p t) (.declined reason) ∈ k.past) :
      Answered j around e k (.refused (.connectRefused ⟨p.id, reason⟩))

/-- A call to connect that an entry owes begins with the entry. -/
theorem Reached.connect_begins (hj : j.Reached)
    (hmove : j.move? (.enter around e) = some j₁)
    (hc : .connect p t ∈ (j.machine.service.enter around e).calls) :
    j₁.machine.stack
      = ⟨.connect p t, .start [] .reported⟩ :: j.machine.stack := by
  have hcalls : (j.machine.service.enter around e).calls
    = ((e.transaction j.machine.service around).decision j.host).calls :=
    Service.calls_enter e
  rw [hcalls] at hc
  obtain ⟨r, htx, -, -, hone⟩ := Transaction.submit_of_connect hj.busy hc
  obtain ⟨-, -, hverdict⟩ := Entry.asks_of_submit htx
  replace hone : (j.machine.service.enter around e).calls
    = [.connect p t] := hcalls.trans hone
  rw [hone] at hverdict
  obtain ⟨q, hheld, htaken, rfl⟩ := advance_of_enter hmove
  exact Machine.enter_connect hverdict htaken

/-- When the calls that an entry made have returned, and those that came of
them, the entry was answered last, and its own calls say how. -/
theorem Reached.answered (hj : j.Reached)
    (hmove : j.move? (.enter around e) = some j₁)
    (hrun : j₁.unwind? j.machine.stack.length moves = some k) :
    k.machine.stack = j.machine.stack
      ∧ ∃ reply past, k.past = .replied reply :: past
        ∧ Answered j around e k reply := by
  have hj₁ := hj.move _ hmove
  by_cases hconnects : ∃ p t,
      .connect p t ∈ (j.machine.service.enter around e).calls
  · obtain ⟨p, t, hc⟩ := hconnects
    have hs : ⟨.connect p t, .start [] .reported⟩ :: j.machine.stack
        <:+ j₁.machine.stack :=
      hj.connect_begins hmove hc ▸ List.suffix_refl _
    obtain ⟨hover, reply, past, hpast, hends⟩ :=
      hj₁.connect_of_unwind hs rfl hrun
    refine ⟨hover, reply, past, hpast, ?_⟩
    rcases hends with ⟨rfl, hwell⟩ | ⟨reason, rfl, hrefused⟩
    · exact .connected p t hc hwell
    · exact .refused p t reason hc hrefused
  · have hnot : ∀ p t,
        .connect p t ∉ (j.machine.service.enter around e).calls :=
      fun p t hc => hconnects ⟨p, t, hc⟩
    obtain ⟨q, hheld, htaken, rfl⟩ := advance_of_enter hmove
    rcases Machine.enter_cases htaken with
      ⟨reply, hverdict, hstack, hreply⟩ | ⟨hstack, hreply⟩
        | ⟨f, hf, hstack⟩
    · cases eq_of_unwind hstack hrun
      exact ⟨hstack, reply, _, past_of_reply hreply,
        .atOnce reply hverdict hmove⟩
    · cases eq_of_unwind hstack hrun
      exact ⟨hstack, .done, _, past_of_reply hreply, .done hnot⟩
    · have hcall : ∀ p t, f.call ≠ .connect p t :=
        fun p t hcall => hnot p t (hcall ▸ hf)
      have hs : f :: j.machine.stack
          <:+ (j.advance (.entered e) q).machine.stack :=
        hstack ▸ List.suffix_refl (f :: j.machine.stack)
      obtain ⟨hover, past, hpast⟩ := hj₁.done_of_unwind hs hcall hrun
      exact ⟨hover, .done, past, hpast, .done hnot⟩

-- ================================================ a session is asked for

/-- What the reply to an entry says that asks for a session with a provider,
where the first journal is just before the entry, the second just after it,
and the last one at its reply. -/
structure Clean (around : Surroundings) (e : Entry) (id : ProviderId)
    (r : Request) (reply : Reply) (j j₁ k : Journal) : Prop where
  /-- The session is under way, or refused. -/
  kind : reply = .done ∨ ∃ x, reply = .refused x
  /-- What is refused at once changes nothing and calls nobody. -/
  at_once : ∀ x : Refusal, reply = .refused x → x.isImmediate = true →
    k.machine = j.machine ∧ k.past = .replied reply :: .entered e :: j.past
      ∧ j.machine.RefusesAtOnce around e x
  /-- It is refused for want of a connection if and only if the entry opened
  a link and the call to connect that link was refused. -/
  connection : ∀ c : ConnectRefusal,
    reply = .refused (.connectRefused c)
      ↔ c.provider = id ∧ ∃ p t n, p.id = id ∧ n.request = r
          ∧ j.Opens j₁ ⟨id, t⟩ n
          ∧ .returned (.connect p t) (.declined c.reason) ∈ k.past
  /-- Then nothing is left of the link and the request. -/
  untraced : ∀ p t n reason, j.Opens j₁ ⟨id, t⟩ n →
    .returned (.connect p t) (.declined reason) ∈ k.past → k.Untraced t n.id

/-- An entry that is refused at once leaves everything as it was. -/
theorem machine_of_refused {x : Refusal}
    (hrefuses : j.machine.RefusesAtOnce around e x)
    (hmove : j.move? (.enter around e) = some k) :
    k.machine = j.machine
      ∧ k.past = .replied (.refused x) :: .entered e :: j.past := by
  obtain ⟨q, hheld, htaken, rfl⟩ := advance_of_enter hmove
  have hrefused := hrefuses j.machine.service.settings
  cases htaken.symm.trans hrefused
  exact ⟨rfl, rfl⟩

/-- The call to connect that an entry owes is on the link that it opened. -/
theorem Reached.connect_on_opened (hj : j.Reached)
    (hmove : j.move? (.enter around e) = some j₁)
    (ho : j.Opens j₁ l n)
    (hc : .connect p t ∈ (j.machine.service.enter around e).calls) :
    t = l.token := by
  obtain ⟨p', -, hc'⟩ := hj.connect_of_opens hmove ho
  have hstack := hj.connect_begins hmove hc
  rw [hj.connect_begins hmove hc'] at hstack
  cases hstack
  rfl

/-- An entry that asks for a session is answered cleanly, however it comes
to its reply. -/
theorem Reached.clean_of_answered (hj : j.Reached)
    (hasks : e.session? = some (id, r))
    (hmove : j.move? (.enter around e) = some j₁)
    (hleads : j₁.Leads k) (h : Answered j around e k reply) :
    Clean around e id r reply j j₁ k where
  kind := by
    cases h with
    | atOnce reply hverdict hmove' =>
        obtain ⟨x, hreply, -, -⟩ := Machine.refuses_at_once hasks hverdict
        exact .inr ⟨x, hreply⟩
    | done hnot => exact .inl rfl
    | connected p t hcall hwell => exact .inl rfl
    | refused p t reason hcall hrefused => exact .inr ⟨_, rfl⟩
  at_once := by
    intro x hx himmediate
    cases h with
    | atOnce reply hverdict hmove' =>
        obtain ⟨x', hreply, -, hrefuses⟩ :=
          Machine.refuses_at_once hasks hverdict
        cases hx.symm.trans hreply
        obtain ⟨hmachine, hpast⟩ := machine_of_refused hrefuses hmove'
        exact ⟨hmachine, hx ▸ hpast, hrefuses⟩
    | done hnot => cases hx
    | connected p t hcall hwell => cases hx
    | refused p t reason hcall hrefused =>
        cases hx
        cases himmediate
  connection := by
    intro c
    have hj₁ := hj.move _ hmove
    have hk := (hj₁.leads hleads).ledger
    constructor
    · intro hreply
      cases h with
      | atOnce reply hverdict hmove' =>
          obtain ⟨x, hx, himmediate, -⟩ :=
            Machine.refuses_at_once hasks hverdict
          cases hreply.symm.trans hx
          cases himmediate
      | done hnot => cases hreply
      | connected p t hcall hwell => cases hreply
      | refused p t reason hcall hrefused =>
          cases hreply
          obtain ⟨n, hsession, ho⟩ := hj.opens_of_connect hmove hcall
          cases hasks.symm.trans hsession
          exact ⟨rfl, p, t, n, rfl, rfl, ho, hrefused⟩
    · -- the link that was opened is the one that the entry called for
      intro hopened
      obtain ⟨hid, p, t, n, hp, -, ho, hrefused⟩ := hopened
      obtain ⟨p', -, hcall'⟩ := hj.connect_of_opens hmove ho
      cases h with
      | atOnce reply hverdict hmove' =>
          unfold Turn.calls at hcall'
          rw [hverdict] at hcall'
          cases hcall'
      | done hnot => exact absurd hcall' (hnot p' t)
      | connected q t' hcall hwell =>
          cases hj.connect_on_opened hmove ho hcall
          cases (hk.return_unique hrefused hwell).2
      | refused q t' reason hcall hrefused' =>
          cases hj.connect_on_opened hmove ho hcall
          obtain ⟨rfl, hsame⟩ := hk.return_unique hrefused hrefused'
          obtain ⟨provider, reason'⟩ := c
          cases hsame
          cases hid.trans hp.symm
          rfl
  untraced := by
    intro p t n reason ho hrefused
    exact (hj.move _ hmove).untraced ho.2 hleads hrefused

/-- An entry that asks for no session is never answered with the refusal of
a connection. -/
theorem Reached.not_connectRefused (hj : j.Reached)
    (hasks : e.session? = none)
    (hmove : j.move? (.enter around e) = some j₁)
    (h : Answered j around e k reply) (c : ConnectRefusal) :
    reply ≠ .refused (.connectRefused c) := by
  rintro rfl
  cases h with
  | atOnce reply hverdict hmove' =>
      cases Service.immediate_of_replied hverdict
  | refused p t reason hcall hrefused =>
      obtain ⟨n, hsession, -⟩ := hj.opens_of_connect hmove hcall
      rw [hasks] at hsession
      cases hsession

/-- Asking for a session fails cleanly. From any moment of a run, once the
calls that the entry made and those that came of them have returned, the
entry is answered, and its reply is clean; an entry that asks for no session
is never answered with the refusal of a connection; and no round that goes
on when its call returns has such a refusal to log instead. -/
theorem session_fails_cleanly (hj : j.Reached) :
    (∀ around e j₁ moves k, j.move? (.enter around e) = some j₁ →
        j₁.unwind? j.machine.stack.length moves = some k →
          k.machine.stack = j.machine.stack
            ∧ ∃ reply past, k.past = .replied reply :: past
              ∧ (∀ id r, e.session? = some (id, r) →
                  Clean around e id r reply j j₁ k)
              ∧ (e.session? = none →
                  ∀ c, reply ≠ .refused (.connectRefused c)))
      ∧ ∀ f ∈ j.machine.stack, ∀ a, (f.returned j.host a).2.closing = [] := by
  constructor
  · intro around e j₁ moves k hmove hrun
    obtain ⟨hstack, reply, past, hpast, hanswered⟩ := hj.answered hmove hrun
    refine ⟨hstack, reply, past, hpast, ?_, ?_⟩
    · intro id r hasks
      exact hj.clean_of_answered hasks hmove (leads_of_unwind hrun) hanswered
    · intro hasks
      exact hj.not_connectRefused hasks hmove hanswered
  · intro f hf a
    exact hj.closing_eq_nil hf a

end Journal

namespace Sample

/-- From inside the call that connects it the provider is connected and
answers the request; then the connection is refused. -/
def refusing : List Move :=
  [.enter (around []) (.callback (.connected ⟨"p", ⟨1⟩⟩ ⟨"s"⟩)),
    .answer .accepted,
    .enter (around [])
      (.callback (.delivered ⟨"p", ⟨1⟩, ⟨1⟩⟩ (some ⟨"x"⟩))),
    .answer .accepted, .answer (.declined "busy")]

end Sample

/-- Where the connection is refused although the provider has answered by
then, the entry is refused, and nothing is left of the session that the
owner was told of. -/
theorem Journal.told_session_refused :
    ∃ j j₁ k past,
      Sample.start.after? [Sample.operate (.changeUser ⟨0⟩ true)] = some j
      ∧ j.move? (Sample.operate (.beginSession "p" (Sample.request 1)))
          = some j₁
      ∧ j₁.unwind? j.machine.stack.length Sample.refusing = some k
      ∧ .called (.notify "p" ⟨1⟩ ⟨1⟩ ⟨0⟩ ⟨1⟩ (some ⟨"x"⟩)) ∈ k.past
      ∧ k.past
        = .replied (.refused (.connectRefused ⟨"p", "busy"⟩)) :: past
      ∧ k.Untraced ⟨1⟩ ⟨1⟩ := by
  obtain ⟨j, hj, hend⟩ := (Option.any_eq_true
    (fun j : Journal => (j.host.groups.find? "p").isNone
      && (j.move? (Sample.operate (.beginSession "p" (Sample.request 1)))).any
        fun j₁ : Journal =>
          decide (j₁.host.groups.find? "p"
              = some (.first ⟨1⟩ ⟨⟨1⟩, Sample.request 1⟩))
            && (j₁.unwind? j.machine.stack.length Sample.refusing).any
              fun k : Journal =>
                decide (.called (.notify "p" ⟨1⟩ ⟨1⟩ ⟨0⟩ ⟨1⟩ (some ⟨"x"⟩))
                    ∈ k.past)
                  && decide (.returned (.connect Sample.provider ⟨1⟩)
                    (.declined "busy") ∈ k.past)) _).mp
    (show (Sample.start.after?
      [Sample.operate (.changeUser ⟨0⟩ true)]).any _ = true from rfl)
  simp only [Bool.and_eq_true, decide_eq_true_eq, Option.any_eq_true,
    Option.isNone_iff_eq_none] at hend
  obtain ⟨hnone, j₁, hmove, hopened, k, hrun, htold, hrefused⟩ := hend
  obtain ⟨hends, -⟩ := session_fails_cleanly (Reached.of_after hj)
  obtain ⟨-, reply, past, hpast, hclean, -⟩ := hends _ _ _ _ _ hmove hrun
  have hclean := hclean "p" (Sample.request 1) rfl
  have ho : j.Opens j₁ ⟨"p", ⟨1⟩⟩ ⟨⟨1⟩, Sample.request 1⟩ := ⟨hnone, hopened⟩
  have hreply := (hclean.connection ⟨"p", "busy"⟩).mpr
    ⟨rfl, Sample.provider, ⟨1⟩, _, rfl, rfl, ho, hrefused⟩
  exact ⟨j, j₁, k, past, hj, hmove, hrun, htold, hreply ▸ hpast,
    hclean.untraced _ _ _ _ ho hrefused⟩

end SpellSessions
