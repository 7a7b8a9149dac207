/-
Choices: a subtype that a user selects, read back.

A subtype is stored by its hash, and two hashes are reserved. No declared
subtype has either of them (`ProviderSubtype.hash_ne_automatic`,
`ProviderSubtype.hash_ne_unset`), so what is stored for a declared subtype
is never taken for no choice at all, and what is stored for anything else is
the automatic hash, which no subtype answers to. From there on the read
looks in one way only: by the hash that is stored, or by the locale
(`subtypeFor?_of_named`, `subtypeFor?_of_automatic`).

# Later registries

The hash is stored and not the subtype. Where the stored id names another
provider after a rebuild, the hash is looked up among what that one
declares, and a look-up that fails gives nothing; it does not turn into an
automatic choice.
-/
import SpellSessions.Proofs.Stores
import SpellSessions.Proofs.Subtypes
import SpellSessions.Proofs.TurnedAway

namespace SpellSessions

-- ======================================================= reserved hashes

/-- The leading word of a digest is kept out of the way of both reserved
hashes. -/
theorem SubtypeHash.ofWord_not_reserved (word : UInt32) :
    ofWord word ≠ .automatic ∧ ofWord word ≠ .unset := by
  unfold ofWord
  dsimp only
  split
  · decide
  · next hautomatic =>
      split
      · decide
      · next hunset =>
          constructor
          · intro heq
            exact hautomatic (congrArg SubtypeHash.raw heq)
          · intro heq
            exact hunset (congrArg SubtypeHash.raw heq)

namespace ProviderSubtype

theorem hash_ne_automatic (t : ProviderSubtype) : t.hash ≠ .automatic :=
  (SubtypeHash.ofWord_not_reserved _).1

theorem hash_ne_unset (t : ProviderSubtype) : t.hash ≠ .unset :=
  (SubtypeHash.ofWord_not_reserved _).2

end ProviderSubtype

theorem Provider.hash_of_find? {p : Provider} {hash : SubtypeHash}
    {t : ProviderSubtype} (h : p.subtypes.find? (·.hash = hash) = some t) :
    t.hash = hash := by
  have hfound := List.find?_some h
  exact of_decide_eq_true hfound

-- =============================================================== reading

namespace Service

variable {s : Service} {u : UserId} {p : Provider} {hash : SubtypeHash}
  {t : ProviderSubtype} {around : Surroundings} {input : Option Locale}
  {allowImplicit : Bool}

/-- A stored hash that is not reserved is looked up among what the selected
provider declares. -/
theorem subtypeFor?_of_named (hcurrent : s.providerFor? u = some p)
    (hstored : s.settings.hashOf .unset u = hash)
    (hautomatic : hash ≠ .automatic) (hunset : hash ≠ .unset) :
    s.subtypeFor? around u input allowImplicit
      = p.subtypes.find? (·.hash = hash) := by
  unfold subtypeFor?
  rw [hcurrent, hstored]
  simp [SpellSessions.selectSubtype, hautomatic, hunset, Provider.subtype?]

/-- The automatic hash leaves the subtype to the locale. -/
theorem subtypeFor?_of_automatic (hcurrent : s.providerFor? u = some p)
    (hstored : s.settings.hashOf .unset u = .automatic) :
    s.subtypeFor? around u input allowImplicit
      = automaticSubtype? p.subtypes
          ((input.or around.input).getD around.system) := by
  unfold subtypeFor?
  rw [hcurrent, hstored]
  exact selectSubtype_of_followsLocale (.inl rfl)

-- =============================================================== storing

/-- What is stored when a subtype is selected by its hash. -/
theorem hashOf_selectSubtype (s : Service) (u : UserId) (hash : SubtypeHash) :
    (s.selectSubtype u hash).service.settings.hashOf .unset u
      = (((s.providerFor? u).bind (·.subtype? hash)).map (·.hash)).getD
          .automatic :=
  Settings.hashOf_putHash _ _ _ _

/-- The hash of a declared subtype is stored as it is. -/
theorem hashOf_of_declared (hcurrent : s.providerFor? u = some p)
    (ht : p.subtypes.find? (·.hash = hash) = some t) :
    (s.selectSubtype u hash).service.settings.hashOf .unset u = hash := by
  have hfound : p.subtype? hash = some t := ht
  rw [hashOf_selectSubtype, hcurrent, Option.bind_some, hfound]
  exact Provider.hash_of_find? ht

/-- For any other hash the automatic one is stored. -/
theorem hashOf_of_not_declared (hcurrent : s.providerFor? u = some p)
    (hnone : ∀ t ∈ p.subtypes, t.hash ≠ hash) :
    (s.selectSubtype u hash).service.settings.hashOf .unset u
      = .automatic := by
  have hfound : p.subtype? hash = none := by
    unfold Provider.subtype?
    simpa [List.find?_eq_none] using hnone
  rw [hashOf_selectSubtype, hcurrent, Option.bind_some, hfound]
  rfl

end Service

-- ============================================================= the machine

/-- Every caller of a user who is let in and asks for the subtype is answered
with the one chosen for the locale: the input locale that the caller gives or
the one around the service, else the system locale. Nothing else happens. -/
def Machine.AnswersSubtype (m : Machine) (u : UserId)
    (chosen : Locale → Option ProviderSubtype) : Prop :=
  ∀ around c input allowImplicit, around.allows c = true → c.user = u →
    m.enter around (.operation (.askSubtype c input allowImplicit))
      = .taken ⟨m, [], some (.subtype
          (chosen ((input.or around.input).getD around.system)))⟩

namespace Machine

variable {m : Machine} {u : UserId}

theorem answersSubtype {chosen : Locale → Option ProviderSubtype}
    (hserving : m.service.host.isServing u = true)
    (h : ∀ around input allowImplicit,
      m.service.subtypeFor? around u input allowImplicit
        = chosen ((input.or around.input).getD around.system)) :
    m.AnswersSubtype u chosen := by
  rintro around c input allowImplicit hallows rfl
  apply enter_operation
  dsimp only [Service.operate]
  rw [Service.forCaller_of_served hallows hserving, h]
  rfl

end Machine

namespace Journal

variable {j : Journal} {around : Surroundings} {c : Caller} {p : Provider}

/-- A subtype that an admitted caller of the user being served selects is
stored, and is what every such caller reads from then on: the first subtype
of the selected provider with the hash, whatever the locale; and for a hash
that no subtype of it has, as for the reserved ones, the automatic choice.
After a run in which nothing is stored the hash is still looked up, among
what the provider of the stored id then declares. -/
theorem choice_reads_back (hash : SubtypeHash)
    (hallows : around.allows c = true)
    (hserving : j.host.isServing c.user = true)
    (hcurrent : j.machine.service.providerFor? c.user = some p) :
    ∃ j', j.move? (.enter around (.operation (.selectSubtype c hash)))
        = some j'
      ∧ j'.machine.stack = j.machine.stack
      ∧ (∃ past, j'.past = .replied .done :: past)
      ∧ (∀ t, p.subtypes.find? (·.hash = hash) = some t →
          j'.machine.AnswersSubtype c.user (fun _ => some t)
            ∧ ∀ k q, j'.LeadsBy Unwritten k →
                k.host.isServing c.user = true →
                k.machine.service.providerFor? c.user = some q →
                k.machine.AnswersSubtype c.user
                  (fun _ => q.subtypes.find? (·.hash = hash)))
      ∧ ((∀ t ∈ p.subtypes, t.hash ≠ hash) →
          j'.machine.AnswersSubtype c.user (automaticSubtype? p.subtypes))
      ∧ (hash = .automatic ∨ hash = .unset →
          ∀ t ∈ p.subtypes, t.hash ≠ hash) := by
  have hturn : j.machine.service.operate around (.selectSubtype c hash)
      = j.machine.service.selectSubtype c.user hash :=
    Service.forCaller_of_served hallows hserving
  -- the selection is as before, so what is read next is of the same provider
  have hcurrent' := (j.machine.service.providerFor?_selectSubtype c.user
    c.user hash).trans hcurrent
  refine ⟨_, j.move?_of_taken rfl (Machine.enter_operation hturn), rfl,
    ⟨_, rfl⟩, ?_, ?_, ?_⟩
  · intro t ht
    have hstored := Service.hashOf_of_declared hcurrent ht
    have hautomatic : hash ≠ .automatic :=
      Provider.hash_of_find? ht ▸ t.hash_ne_automatic
    have hunset : hash ≠ .unset :=
      Provider.hash_of_find? ht ▸ t.hash_ne_unset
    constructor
    · refine Machine.answersSubtype hserving ?_
      intro around' input allowImplicit
      exact (Service.subtypeFor?_of_named hcurrent' hstored hautomatic
        hunset).trans ht
    · intro k q hrun hserving' hresolved
      have hkept := settings_of_unwritten hrun
      refine Machine.answersSubtype hserving' ?_
      intro around' input allowImplicit
      refine Service.subtypeFor?_of_named hresolved ?_ hautomatic hunset
      rw [hkept]
      exact hstored
  · intro hnone
    have hstored := Service.hashOf_of_not_declared hcurrent hnone
    refine Machine.answersSubtype hserving ?_
    intro around' input allowImplicit
    exact Service.subtypeFor?_of_automatic hcurrent' hstored
  · rintro (rfl | rfl) t -
    · exact t.hash_ne_automatic
    · exact t.hash_ne_unset

end Journal

namespace Sample

/-- A user is served with a provider that declares English twice. -/
def servingEnglish : List Move :=
  [.enter (around [declaring "p" ["en", "en-US"]])
    (.operation (.changeUser ⟨0⟩ true))]

/-- The first subtype that the provider declares. -/
def plain : ProviderSubtype :=
  ⟨⟨"en", none, none⟩, ""⟩

/-- The provider is replaced by one without that subtype. -/
def narrowing : Move :=
  .enter (around [declaring "p" ["en-US"]])
    (.operation (.packagesChanged updated))

end Sample

/-- The subtype that is selected is read for every locale; once the provider
does not declare it any more, none is. -/
theorem Journal.undeclared_choice_reads_nothing :
    ∃ j j' k, Sample.start.after? Sample.servingEnglish = some j
      ∧ j.move? (.enter (Sample.around []) (.operation
          (.selectSubtype ⟨0, ⟨0⟩⟩ Sample.plain.hash))) = some j'
      ∧ j'.machine.AnswersSubtype ⟨0⟩ (fun _ => some Sample.plain)
      ∧ j'.move? Sample.narrowing = some k
      ∧ k.machine.AnswersSubtype ⟨0⟩ (fun _ => none) := by
  obtain ⟨j, hj, hend⟩ := (Option.any_eq_true
    (fun j : Journal =>
      j.host.isServing ⟨0⟩
        && decide (j.machine.service.providerFor? ⟨0⟩ = some Sample.english)
        && (j.move? (.enter (Sample.around []) (.operation
          (.selectSubtype ⟨0, ⟨0⟩⟩ Sample.plain.hash)))).any fun j' =>
          decide (Event.stores (j'.seen Sample.narrowing) = [])
            && (j'.move? Sample.narrowing).any fun k =>
              k.host.isServing ⟨0⟩
                && (k.machine.service.providerFor? ⟨0⟩).any fun q =>
                  (q.subtypes.find? (·.hash = Sample.plain.hash)).isNone) _).mp
    (show (Sample.start.after? Sample.servingEnglish).any _ = true by
      decide +kernel)
  simp only [Bool.and_eq_true, decide_eq_true_eq, Option.any_eq_true,
    Option.isNone_iff_eq_none] at hend
  obtain ⟨⟨hserving, hcurrent⟩, j', hmove, hunwritten, k, hlater, hserving',
    q, hresolved, hnone⟩ := hend
  have hallows : (Sample.around []).allows ⟨0, ⟨0⟩⟩ = true := rfl
  obtain ⟨j₁, hmove₁, -, -, hnamed, -⟩ :=
    choice_reads_back Sample.plain.hash hallows hserving hcurrent
  cases hmove₁.symm.trans hmove
  have hfirst : Sample.english.subtypes.find?
      (·.hash = Sample.plain.hash) = some Sample.plain :=
    List.find?_cons_of_pos (decide_eq_true rfl)
  obtain ⟨hnow, hthen⟩ := hnamed _ hfirst
  have hread := hthen k q (.move _ .here ⟨rfl, hunwritten⟩ hlater) hserving'
    hresolved
  rw [hnone] at hread
  exact ⟨j, j', k, hj, hmove, hnow, hlater, hread⟩

end SpellSessions
