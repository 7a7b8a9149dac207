/-
The store of what users have selected.

For each user the store holds a provider, the hash of a subtype and the
enabled flag, each of them absent until it is written. Users do not
share anything: a write for one of them is invisible to all others.
-/
import SpellSessions.Config
import SpellSessions.Identity
import SpellSessions.Provider.SubtypeHash

namespace SpellSessions

/-- What is stored for one user. -/
structure UserChoices where
  provider : Option ProviderId := none
  subtypeHash : Option SubtypeHash := none
  enabled : Option Bool := none
deriving DecidableEq, Repr

/-- The store. -/
structure Settings where
  /-- The enabled flag of a user for whom none was written. -/
  enabledDefault : Bool
  /-- The users for whom something was written. -/
  users : List (UserId × UserChoices)
deriving DecidableEq, Repr

namespace Settings

/-- A store in which nothing was written. -/
def empty (enabledDefault : Bool) : Settings :=
  ⟨enabledDefault, []⟩

/-- The empty store that a configuration asks for. -/
def ofConfig (c : Config) : Settings :=
  empty c.enabledDefault

/-- What is stored for a user. -/
def user (s : Settings) (u : UserId) : UserChoices :=
  (List.lookup u s.users).getD {}

/-- The store with one user's entry changed. -/
def update (s : Settings) (u : UserId)
    (change : UserChoices → UserChoices) : Settings :=
  { s with
    users := (u, change (s.user u)) :: s.users.filter (·.1 ≠ u) }

-- ============================================================== reading

/-- The selected provider of a user, the empty text when none is
stored. -/
def providerOf (s : Settings) (u : UserId) : ProviderId :=
  (s.user u).provider.getD ""

/-- The selected subtype of a user, or a given hash when none is
stored. -/
def hashOf (s : Settings) (default : SubtypeHash) (u : UserId) :
    SubtypeHash :=
  (s.user u).subtypeHash.getD default

/-- Whether spell checking is on for a user. -/
def enabledFor (s : Settings) (u : UserId) : Bool :=
  (s.user u).enabled.getD s.enabledDefault

-- ============================================================== writing

/-- Stores the selected provider of a user. The empty text clears the
selection. -/
def putProvider (s : Settings) (id : ProviderId) (u : UserId) : Settings :=
  s.update u fun stored =>
    { stored with provider := if id.isEmpty then none else some id }

/-- Stores the selected subtype of a user. -/
def putHash (s : Settings) (hash : SubtypeHash) (u : UserId) : Settings :=
  s.update u fun stored => { stored with subtypeHash := some hash }

/-- Stores the enabled flag of a user. -/
def putEnabled (s : Settings) (enabled : Bool) (u : UserId) : Settings :=
  s.update u fun stored => { stored with enabled := some enabled }

-- ============================================================ the views

/-- The entry that was changed reads as it was changed to. -/
theorem user_update_self (s : Settings) (u : UserId)
    (change : UserChoices → UserChoices) :
    (s.update u change).user u = change (s.user u) := by
  simp [update, user]

/-- Every other entry reads as before. -/
theorem user_update_of_ne (s : Settings) {u v : UserId} (h : v ≠ u)
    (change : UserChoices → UserChoices) :
    (s.update u change).user v = s.user v := by
  have hv : (v == u) = false := by simpa using h
  have hlookup : ∀ users : List (UserId × UserChoices),
      List.lookup v (users.filter (·.1 ≠ u)) = List.lookup v users := by
    intro users
    induction users with
    | nil => rfl
    | cons entry rest ih =>
        obtain ⟨w, stored⟩ := entry
        by_cases hw : w = u
        · subst hw
          rw [List.filter_cons_of_neg (by simp), ih, List.lookup_cons, hv]
        · rw [List.filter_cons_of_pos (by simpa using hw), List.lookup_cons,
            List.lookup_cons, ih]
  unfold update user
  rw [List.lookup_cons, hv, hlookup]

-- ==================================================== reading what is stored

/-- The selected provider that was stored is read back; the empty text reads
as none. -/
theorem providerOf_putProvider (s : Settings) (id : ProviderId)
    (u : UserId) : (s.putProvider id u).providerOf u = id := by
  unfold putProvider providerOf
  rw [user_update_self]
  by_cases hid : id.isEmpty = true
  · rw [if_pos hid, String.isEmpty_iff.mp hid]
    rfl
  · rw [if_neg hid]
    rfl

/-- To store a subtype leaves the selected providers alone. -/
theorem providerOf_putHash (s : Settings) (hash : SubtypeHash)
    (u v : UserId) : (s.putHash hash u).providerOf v = s.providerOf v := by
  unfold putHash providerOf
  by_cases hv : v = u
  · rw [hv, user_update_self]
  · rw [user_update_of_ne s hv]

/-- The selected subtype that was stored is read back. -/
theorem hashOf_putHash (s : Settings) (default hash : SubtypeHash)
    (u : UserId) : (s.putHash hash u).hashOf default u = hash := by
  unfold putHash hashOf
  rw [user_update_self]
  rfl

end Settings

end SpellSessions
