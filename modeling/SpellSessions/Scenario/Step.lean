/-
Scenarios: what happens around a service, written down in advance.

A scenario is a list of steps. A step acts on the service or on its
surroundings, and may load scripts: what is to happen inside a later
call, and how that call comes back. A script is cued by the call it
belongs to, and is made of steps itself; so everything that ever happens
is part of the scenario, and its weight bounds what can happen.
-/
import SpellSessions.Machine.Weight
import SpellSessions.Overview

namespace SpellSessions.Scenario

/-- Which connection is meant: the newest one with a token, or the newest
one to a provider. -/
inductive LinkChoice where
  | token (number : Nat)
  | provider (id : ProviderId)
deriving DecidableEq, Repr

/-- Which unanswered request is meant: the one of a given number, or the
one at a given place among all of them, counted around in a circle. -/
inductive ReplyChoice where
  | number (n : Nat)
  | place (n : Nat)
deriving DecidableEq, Repr

/-- A call for which a script waits. -/
inductive Cue where
  /-- A provider is connected to. -/
  | connect (id : ProviderId)
  /-- An endpoint is asked for a session. -/
  | create (endpoint : String)
  /-- A connection to a provider is released. -/
  | disconnect (id : ProviderId)
  /-- An owner is told of its session. -/
  | ready (owner : Owner)
deriving DecidableEq, Repr

/-- The cue that a call gives. -/
def Cue.ofCall : Call → Cue
  | .connect p _ => .connect p.id
  | .create _ _ endpoint _ _ => .create endpoint.name
  | .notify _ _ _ owner _ _ => .ready owner
  | .disconnect id _ => .disconnect id

/-- A request as a scenario spells it. The owner is supplied when the
request is made. -/
structure RequestForm where
  caller : Caller
  listener : ListenerId
  locale : Option String
  extras : List (String × String)
deriving DecidableEq, Repr

/-- The request with its owner. -/
def RequestForm.request (f : RequestForm) (owner : Owner) :
    Request where
  caller := f.caller
  locale := f.locale
  owner := owner
  listener := f.listener
  extras := .ofList f.extras

/-- A step on the settings themselves, past the service. -/
inductive StoreAction where
  | putProvider (user : UserId) (id : ProviderId)
  | putHash (user : UserId) (hash : SubtypeHash)
  | putEnabled (user : UserId) (enabled : Bool)
  | get (user : UserId) (default : SubtypeHash)
deriving DecidableEq, Repr

/-- A thing whose short form is asked for. -/
inductive Topic where
  | service
  | groups
  | registry
  | request (form : RequestForm)
  | link (choice : LinkChoice)
  | token (choice : LinkChoice)
  | reply (number : Nat)
  | listener (listener : ListenerId)
  | hash (hash : SubtypeHash)
  | transport (reason : String)
  | gone

/-- What a step does. Locale tags and descriptors are read when the step
is taken. -/
inductive Action where
  -- what happens around the service
  | connected (link : LinkChoice) (endpoint : String)
  | disconnected (link : LinkChoice)
  | deliver (reply : ReplyChoice) (session : Option String)
  /-- The scripts of the step are to wait for a cue. -/
  | load (cue : Cue)
  /-- Discovery lists other providers from now on, for one user or for
  all that have no list of their own. -/
  | install (user : Option UserId) (descriptors : List Json)
  | setLocales (system : String) (input : Option String)
  /-- Exactly these processes are not let in from now on. -/
  | deny (uids : List UInt32)
  | store (action : StoreAction)
  /-- The service ceases to exist. -/
  | drop
  -- what the service is asked
  | operate (op : Operation)
  | askProvider (caller : Caller) (context : Option String)
  | askSubtype (caller : Caller) (input : Option String)
      (allowImplicit : Bool)
  | beginSession (id : ProviderId) (form : RequestForm)
  | requestDirectly (descriptor : Json) (form : RequestForm)
  | direct (entry : DirectEntry)
  | overview
  | overviewText
  | groupCount
  | describe (topic : Topic)
  /-- A step that nobody knows. -/
  | unknown

/-- What is to happen inside a call: whether its parameters are noted,
the steps to take, and how the call comes back. -/
structure Script (σ : Type) where
  describe : Bool
  steps : List σ
  answer : Answer

/-- The script of a call for which none waits. -/
def Script.empty {σ : Type} : Script σ :=
  ⟨false, [], .accepted⟩

instance {σ : Type} : Inhabited (Script σ) := ⟨.empty⟩

/-- A step, with the scripts it loads. -/
inductive Step where
  | mk (action : Action) (scripts : List (Script Step))

instance : Inhabited Step := ⟨.mk .unknown []⟩

namespace Step

/-- What the step does. -/
def action : Step → Action
  | mk a _ => a

/-- The scripts it loads. -/
def scripts : Step → List (Script Step)
  | mk _ ss => ss

end Step

-- ============================================================== weights

mutual

/-- The number of steps in a step, itself included. -/
def stepWeight : Step → Nat
  | .mk _ scripts => scriptsWeight scripts + 1

/-- The number of steps in scripts. -/
def scriptsWeight : List (Script Step) → Nat
  | [] => 0
  | s :: rest => scriptWeight s + scriptsWeight rest

/-- The number of steps in a script. -/
def scriptWeight : Script Step → Nat
  | .mk _ steps _ => stepsWeight steps

/-- The number of steps in a list of steps. -/
def stepsWeight : List Step → Nat
  | [] => 0
  | s :: rest => stepWeight s + stepsWeight rest

end

/-- Scripts that wait for their cues, in the order in which they were
loaded. -/
abbrev Prompts := List (Cue × Script Step)

namespace Prompts

/-- The number of steps in waiting scripts. -/
def weight (ps : Prompts) : Nat :=
  total (fun p => scriptWeight p.2) ps

/-- The first script for a cue, or an empty one, and the scripts that
wait on. -/
def take (ps : Prompts) (cue : Cue) : Script Step × Prompts :=
  match ps.find? (·.1 = cue) with
  | none => (.empty, ps)
  | some (_, script) => (script, ps.eraseP (·.1 = cue))

/-- A script that is taken is one of those that waited. -/
theorem weight_take (ps : Prompts) (cue : Cue) :
    scriptWeight (ps.take cue).1 + (ps.take cue).2.weight = ps.weight := by
  induction ps with
  | nil => rfl
  | cons p rest ih =>
      unfold take at ih ⊢
      by_cases h : p.1 = cue
      · rw [List.find?_cons_of_pos (by simpa using h),
          List.eraseP_cons_of_pos (by simpa using h)]
        rfl
      · rw [List.find?_cons_of_neg (by simpa using h),
          List.eraseP_cons_of_neg (by simpa using h)]
        have hw : weight (p :: rest)
            = scriptWeight p.2 + weight rest := rfl
        cases hf : rest.find? (·.1 = cue) with
        | none =>
            show 0 + weight (p :: rest) = weight (p :: rest)
            omega
        | some found =>
            rw [hf] at ih
            have ih' : scriptWeight found.2
                + weight (rest.eraseP (·.1 = cue)) = weight rest := ih
            show scriptWeight found.2
                + (scriptWeight p.2 + weight (rest.eraseP (·.1 = cue))) = _
            omega

end Prompts

end SpellSessions.Scenario
