/-
Connecting: a group is connecting while the call that connects it is in
progress, and no longer.

A group that is left connecting would keep every later caller of its
provider waiting for ever. The flag is set when the group is opened; it is
cleared by the return of the call to connect, or goes with the group when
the group leaves first. Both directions are counts over the run. A link
that is opening has its call due or running (`Reached.opening_le`), and no
call to connect is ever left due (`Reached.not_connect_queued`); a link
that stands was connected well, and under its token no second call to
connect can be running (`Reached.standing_eq_zero`).

# What has to wait

An entry waits only if it asks for a session with a provider whose group is
connecting. So where no call is in progress nothing waits, and from inside
a call an entry waits only for a provider whose call to connect encloses
it.
-/
import SpellSessions.Proofs.Admission

namespace SpellSessions

-- ========================================================= what is parked

namespace Service

variable {s : Service} {around : Surroundings}

theorem parked_of_forCaller {turn : Turn} {c : Caller}
    (h : (s.forCaller around c turn).verdict = .parked) :
    s.turnedAway? around c = none ∧ turn.verdict = .parked := by
  unfold forCaller at h
  cases haway : s.turnedAway? around c with
  | none =>
      rw [haway] at h
      exact ⟨rfl, h⟩
  | some refusal =>
      rw [haway] at h
      cases h

/-- A session that is asked for waits exactly while its provider is
connecting. -/
theorem parked_beginSession_iff {id : ProviderId} {r : Request} :
    (s.beginSession id r).verdict = .parked
      ↔ id.isEmpty = false ∧ s.host.isConnecting id = true := by
  unfold beginSession resumeSession
  by_cases hid : id.isEmpty = true
  · simp [hid, answer, Draft.reply]
  · by_cases hcon : s.host.isConnecting id = true
    · simp [hid, hcon]
    · cases s.host.isServing r.caller.user with
      | false => simp [hid, hcon, answer, Draft.reply]
      | true =>
          cases s.host.registry.get? id with
          | none => simp [hid, hcon, answer, Draft.reply]
          | some p => simp [hid, hcon, Draft.owing]

/-- Only an entry that asks for a session waits, and only for a provider
that is connecting. -/
theorem connecting_of_parked {e : Entry}
    (h : (s.enter around e).verdict = .parked) :
    ∃ id r, e.session? = some (id, r) ∧ s.host.isConnecting id = true := by
  cases e with
  | operation op =>
      cases op with
      | beginSession id r =>
          obtain ⟨-, hparked⟩ := parked_of_forCaller h
          obtain ⟨-, hcon⟩ := parked_beginSession_iff.mp hparked
          exact ⟨id, r, rfl, hcon⟩
      | userUnlocked u =>
          replace h : (s.userUnlocked around u).verdict = .parked := h
          unfold userUnlocked at h
          split at h <;> cases h
      | packagesChanged news =>
          replace h : (s.packagesChanged around news).verdict = .parked := h
          rw [verdict_packagesChanged] at h
          cases h
      | selectProvider c id =>
          obtain ⟨-, hparked⟩ := parked_of_forCaller h
          unfold selectProvider at hparked
          split at hparked <;> cases hparked
      | changeUser u unlocked => cases h
      | stopServing => cases h
      | listenerLost l => cases h
      | _ => cases (parked_of_forCaller h).2
  | callback report => cases report <;> cases h
  | direct entry =>
      cases entry with
      | request p r =>
          replace h : (s.direct (.request p r)).verdict = .parked := h
          unfold direct at h
          dsimp only at h
          split at h
          · next hcon => exact ⟨p.id, r, rfl, hcon⟩
          · cases h
      | _ => cases h

end Service

theorem Machine.enter_parked_iff {m : Machine} {around : Surroundings}
    {e : Entry} :
    m.enter around e = .parked
      ↔ (m.service.enter around e).verdict = .parked := by
  unfold Machine.enter
  dsimp only
  cases (m.service.enter around e).verdict <;> simp

-- ===================================================== one call at a time

namespace Ledger

variable {b : Ledger}

/-- While a call to connect is running under a token, no link under that
token stands. -/
theorem Reached.standing_eq_zero (hb : b.Reached) {l : Link}
    (hrunning : 0 < b.running.countP (·.connectsUnder l.token)) :
    b.host.groups.standing l = 0 := by
  have honce := (hb.connects_once l.token).1
  have hmade := hb.made_eq (·.connectsUnder l.token)
  have hreturned := b.accepted_le_returned (·.connectsUnder l.token)
  have hunder : b.accepted (·.connects l)
      ≤ b.accepted (·.connectsUnder l.token) := by
    apply List.countP_mono_left
    intro m _ hm
    obtain ⟨p, -, rfl⟩ := Moment.accepts_connects_iff.mp hm
    exact decide_eq_true rfl
  have hstanding := hb.standing_eq l
  omega

end Ledger

namespace Journal

variable {j : Journal} {id : ProviderId} {g : Group}

/-- A group is connecting if and only if a call to connect under its token
is in progress. -/
theorem Reached.connecting_iff (hj : j.Reached)
    (hg : j.host.groups.find? id = some g) :
    g.connecting = true
      ↔ ∃ f ∈ j.machine.stack, f.call.connectsUnder g.token = true := by
  have hl : j.host.groups.live? id g.token = some g :=
    GroupTable.live?_of_find? hg
  constructor
  · intro hconnecting
    obtain ⟨n, frames, ho⟩ :=
      hj.opening_of_connecting (l := ⟨id, g.token⟩) hl hconnecting
    obtain ⟨p, outer, -, rfl⟩ := ho.frames_eq
    exact ⟨_, ho.suffix.subset List.mem_cons_self, decide_eq_true rfl⟩
  · intro hcall
    obtain ⟨f, hf, hconnects⟩ := hcall
    have hrunning : 0 < j.ledger.running.countP
        (·.connectsUnder g.token) :=
      List.countP_pos_iff.mpr
        ⟨f.call, List.mem_map.mpr ⟨f, hf, rfl⟩, hconnects⟩
    have hzero := hj.ledger.standing_eq_zero (l := ⟨id, g.token⟩) hrunning
    replace hzero : j.host.groups.standing ⟨id, g.token⟩ = 0 := hzero
    unfold GroupTable.standing at hzero
    rw [hl] at hzero
    cases hcon : g.connecting with
    | true => rfl
    | false => simp [hcon] at hzero

/-- A provider is connecting if and only if a call to connect it is in
progress whose link is still live. -/
theorem Reached.isConnecting_iff (hj : j.Reached) :
    j.host.isConnecting id = true
      ↔ ∃ f ∈ j.machine.stack, ∃ p t, f.call = .connect p t ∧ p.id = id
          ∧ j.IsLive ⟨id, t⟩ := by
  constructor
  · intro hcon
    obtain ⟨g, hg, hconnecting⟩ := (Option.any_eq_true _ _).mp hcon
    have hl : j.host.groups.live? id g.token = some g :=
      GroupTable.live?_of_find? hg
    obtain ⟨n, frames, ho⟩ :=
      hj.opening_of_connecting (l := ⟨id, g.token⟩) hl hconnecting
    obtain ⟨p, outer, hid, rfl⟩ := ho.frames_eq
    refine ⟨_, ho.suffix.subset List.mem_cons_self, p, g.token, rfl, hid, ?_⟩
    simp [IsLive, hl]
  · intro hcall
    obtain ⟨f, hf, p, t, hconnect, -, hlive⟩ := hcall
    obtain ⟨g, hl⟩ := Option.isSome_iff_exists.mp hlive
    obtain ⟨he, htoken⟩ := GroupTable.live?_eq_some_iff.mp hl
    have hg := GroupTable.find?_eq_some_iff.mpr he
    have hconnecting := (hj.connecting_iff hg).mpr
      ⟨f, hf, by rw [hconnect]; exact decide_eq_true htoken.symm⟩
    unfold Host.isConnecting
    rw [hg]
    exact hconnecting

-- ============================================================== in a run

/-- At every moment of a run a live group is connecting if and only if a
call to connect under its token is in progress. So where no call is in
progress no group is connecting and no entry has to wait; and from inside a
call, asking for a session waits only for a provider whose own call to
connect is in progress, and whose group that call opened is still live. -/
theorem connecting_while_called (hj : j.Reached) :
    (∀ id g, j.host.groups.find? id = some g →
        (g.connecting = true
          ↔ ∃ f ∈ j.machine.stack, f.call.connectsUnder g.token = true))
      ∧ (j.machine.stack = [] →
          (∀ id g, j.host.groups.find? id = some g → g.connecting = false)
            ∧ ∀ around e, ∃ p, j.machine.enter around e = .taken p)
      ∧ ∀ around id r,
          j.machine.enter around (.operation (.beginSession id r)) = .parked
            ↔ j.machine.service.turnedAway? around r.caller = none
              ∧ id.isEmpty = false
              ∧ ∃ f ∈ j.machine.stack, ∃ p t,
                  f.call = .connect p t ∧ p.id = id ∧ j.IsLive ⟨id, t⟩ := by
  refine ⟨fun id g hg => hj.connecting_iff hg, ?_, ?_⟩
  · intro hstack
    have hnone : ∀ id g, j.host.groups.find? id = some g →
        g.connecting = false := by
      intro id g hg
      rw [Bool.eq_false_iff]
      intro hconnecting
      obtain ⟨f, hf, -⟩ := (hj.connecting_iff hg).mp hconnecting
      rw [hstack] at hf
      cases hf
    refine ⟨hnone, ?_⟩
    intro around e
    cases hentry : j.machine.enter around e with
    | taken p => exact ⟨p, rfl⟩
    | parked =>
        obtain ⟨id, r, -, hcon⟩ := Service.connecting_of_parked
          (Machine.enter_parked_iff.mp hentry)
        obtain ⟨g, hg, hconnecting⟩ := (Option.any_eq_true _ _).mp hcon
        rw [hnone id g hg] at hconnecting
        cases hconnecting
  · intro around id r
    rw [Machine.enter_parked_iff, ← hj.isConnecting_iff]
    constructor
    · intro hparked
      obtain ⟨hallowed, hverdict⟩ := Service.parked_of_forCaller hparked
      exact ⟨hallowed, Service.parked_beginSession_iff.mp hverdict⟩
    · intro hwaits
      obtain ⟨hallowed, hverdict⟩ := hwaits
      show (j.machine.service.forCaller around r.caller _).verdict = _
      unfold Service.forCaller
      rw [hallowed]
      exact Service.parked_beginSession_iff.mpr hverdict

end Journal

namespace Sample

/-- While the connector is called the user is dropped and comes back, and
asks for a session again: the connector is called from inside its own
call. -/
def reopening : List Move :=
  opening ++ [operate .stopServing, operate (.changeUser ⟨0⟩ true),
    operate (.beginSession "p" (request 2))]

/-- The second call returns; then the first, whose group is gone, and the
release that it owes. -/
def reopened : List Move :=
  [.answer .accepted, .answer .accepted, .answer .accepted]

end Sample

/-- Where two calls to connect one provider are nested, the group that the
inner one opened is connecting and keeps others waiting, until both have
returned. -/
theorem Journal.reopened_while_called :
    ∃ j k, Sample.start.after? Sample.reopening = some j
      ∧ j.after? Sample.reopened = some k
      ∧ j.machine.stack.map Frame.call
          = [.connect Sample.provider ⟨2⟩, .connect Sample.provider ⟨1⟩]
      ∧ (∃ g, j.host.groups.find? "p" = some g ∧ g.connecting = true)
      ∧ j.machine.enter (Sample.around [])
          (.operation (.beginSession "p" (Sample.request 3))) = .parked
      ∧ (∃ g, k.host.groups.find? "p" = some g ∧ g.connecting = false)
      ∧ ∃ p, k.machine.enter (Sample.around [])
          (.operation (.beginSession "p" (Sample.request 3))) = .taken p := by
  obtain ⟨j, hj, hend⟩ := (Option.any_eq_true
    (fun j : Journal =>
      decide (j.machine.stack.map Frame.call
          = [.connect Sample.provider ⟨2⟩, .connect Sample.provider ⟨1⟩])
        && (j.host.groups.live? "p" ⟨2⟩).isSome
        && (j.machine.service.turnedAway? (Sample.around [])
          (Sample.request 3).caller).isNone
        && (j.after? Sample.reopened).any fun k : Journal =>
          k.machine.stack.isEmpty && (k.host.groups.find? "p").isSome) _).mp
    (show (Sample.start.after? Sample.reopening).any _ = true from rfl)
  simp only [Bool.and_eq_true, decide_eq_true_eq, Option.any_eq_true,
    List.isEmpty_iff, Option.isNone_iff_eq_none] at hend
  obtain ⟨⟨⟨hcalls, hlive⟩, hallowed⟩, k, hk, hstack, hstays⟩ := hend
  have hreached := Reached.of_after hj
  obtain ⟨f, outer, hframes, hcall, -⟩ := List.map_eq_cons_iff.mp hcalls
  have hf : f ∈ j.machine.stack := hframes ▸ List.mem_cons_self
  obtain ⟨hiff, -, hwaits⟩ := connecting_while_called hreached
  obtain ⟨-, hidle, -⟩ :=
    connecting_while_called (hreached.leads (leads_of_after hk))
  obtain ⟨hnone, htaken⟩ := hidle hstack
  obtain ⟨g, hl⟩ := Option.isSome_iff_exists.mp hlive
  obtain ⟨he, htoken⟩ := GroupTable.live?_eq_some_iff.mp hl
  have hg := GroupTable.find?_eq_some_iff.mpr he
  obtain ⟨g', hg'⟩ := Option.isSome_iff_exists.mp hstays
  refine ⟨j, k, hj, hk, hcalls, ⟨g, hg, ?_⟩, ?_, ⟨g', hg', hnone _ _ hg'⟩,
    htaken _ _⟩
  · refine (hiff "p" g hg).mpr ⟨f, hf, ?_⟩
    rw [hcall]
    exact decide_eq_true htoken.symm
  · refine (hwaits _ "p" _).mpr ⟨hallowed, rfl, f, hf, _, ⟨2⟩, hcall, rfl, ?_⟩
    exact hlive

end SpellSessions
