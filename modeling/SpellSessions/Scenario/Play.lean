/-
Playing a scenario.

The steps of a scenario are taken one by one. When a step makes the
service call out, the script of the call becomes an activity: its steps
are taken while the call is running, and then the call comes back as the
script says. Activities form a stack beside the stack of calls in
progress, and a step has ended when the last of its calls has returned.

# Why a play ends

Each step that is taken leaves fewer steps that can still be taken,
counting those in activities and in waiting scripts. When no activity has
a step left, the innermost call returns, which takes no step and lowers
the weight of the machine.
-/
import SpellSessions.Machine.Weight
import SpellSessions.Scenario.Scene

namespace SpellSessions.Scenario

/-- What goes on inside a call: the steps still to take, and how the call
comes back. -/
structure Activity where
  steps : List Step
  answer : Answer

/-- A scene in the middle of a scenario. -/
structure Stage where
  scene : Scene
  /-- The scripts that wait for their calls. -/
  prompts : Prompts
  /-- What goes on inside the calls in progress, the innermost first. -/
  activities : List Activity

/-- A stage after a move: what was seen of it, and the outcome of the
step that has ended with it, if one has. -/
structure Moved where
  stage : Stage
  sights : List Sight
  outcome : Option Outcome

namespace Stage

/-- The number of steps that can still be taken. -/
def pool (s : Stage) : Nat :=
  total (fun a => stepsWeight a.steps) s.activities + s.prompts.weight

/-- What a step has done is observed. A call that has begun gets its
script. -/
def follow (s : Stage) (t : Taken) : Moved :=
  match t.response with
  | .ended outcome =>
    let (scene, sights) := t.scene.observeAll .empty t.events
    ⟨{ s with scene := scene }, sights, some outcome⟩
  | .calling call =>
    let (script, prompts) := s.prompts.take (.ofCall call)
    let (scene, sights) := t.scene.observeAll script t.events
    ⟨⟨scene, prompts, ⟨script.steps, script.answer⟩ :: s.activities⟩,
      sights, none⟩

/-- The scripts that a step loads, each with its cue. Those of a request
wait for its owner to be told. -/
def loads (s : Stage) (step : Step) : Prompts :=
  match step.action with
  | .load cue => step.scripts.map (cue, ·)
  | .beginSession _ _ | .requestDirectly _ _ =>
    step.scripts.map (.ready ⟨s.scene.owners + 1⟩, ·)
  | _ => []

/-- A step is taken. -/
def take (s : Stage) (step : Step) : Moved :=
  { s with prompts := s.prompts ++ s.loads step }.follow
    (s.scene.act step.action)

-- ================================================== what a move leaves

/-- Observing does not move the machine. -/
theorem machine_observe (sc : Scene) (script : Script Step) (e : Event) :
    (sc.observe script e).1.machine = sc.machine := by
  cases e with
  | called c => cases c <;> rfl
  | noticed n => rfl
  | discovered u => rfl
  | storedProvider id u => rfl
  | storedHash hash u => rfl

/-- Observing does not move the machine, however much is observed. -/
theorem machine_observeAll (sc : Scene) (script : Script Step)
    (es : List Event) :
    (sc.observeAll script es).1.machine = sc.machine := by
  induction es generalizing sc with
  | nil => rfl
  | cons e es ih =>
      show ((sc.observe script e).1.observeAll script es).1.machine = _
      rw [ih, machine_observe]

/-- Following a move takes no step. -/
theorem pool_follow (s : Stage) (t : Taken) :
    (s.follow t).stage.pool = s.pool := by
  unfold follow
  split
  · rfl
  · next call _ =>
      have h := s.prompts.weight_take (.ofCall call)
      have hsteps : scriptWeight (s.prompts.take (.ofCall call)).1
          = stepsWeight (s.prompts.take (.ofCall call)).1.steps := by
        cases (s.prompts.take (.ofCall call)).1
        rfl
      show stepsWeight (s.prompts.take (.ofCall call)).1.steps
          + total (fun a => stepsWeight a.steps) s.activities
          + (s.prompts.take (.ofCall call)).2.weight = _
      unfold pool
      omega

/-- Following a move leaves the machine where the move left it. -/
theorem machine_follow (s : Stage) (t : Taken) :
    (s.follow t).stage.scene.machine = t.scene.machine := by
  unfold follow
  split <;> exact machine_observeAll _ _ _

/-- Scripts for one cue weigh what they weigh without it. -/
theorem weight_map_cue (cue : Cue) (scripts : List (Script Step)) :
    Prompts.weight (scripts.map (cue, ·)) = scriptsWeight scripts := by
  induction scripts with
  | nil => rfl
  | cons s rest ih =>
      show scriptWeight s + Prompts.weight (rest.map (cue, ·)) = _
      rw [ih]
      rfl

/-- A step loads no more steps than it has. -/
theorem weight_loads (s : Stage) (step : Step) :
    (s.loads step).weight + 1 ≤ stepWeight step := by
  have hstep : stepWeight step = scriptsWeight step.scripts + 1 := by
    cases step
    rfl
  unfold loads
  split
  · rw [weight_map_cue]
    omega
  · rw [weight_map_cue]
    omega
  · rw [weight_map_cue]
    omega
  · show 0 + 1 ≤ _
    omega

/-- Taking the next step of an activity leaves fewer steps. -/
theorem pool_take {s : Stage} {a : Activity} {outer : List Activity}
    {step : Step} {rest : List Step} (ha : s.activities = a :: outer)
    (hs : a.steps = step :: rest) :
    (({ s with activities := { a with steps := rest } :: outer } :
      Stage).take step).stage.pool < s.pool := by
  have hload := s.weight_loads step
  unfold take
  rw [pool_follow]
  have hprompts : (s.prompts ++ s.loads step).weight
      = s.prompts.weight + (s.loads step).weight :=
    total_append _ _ _
  have hbefore : s.pool = stepWeight step + stepsWeight rest
      + total (fun a => stepsWeight a.steps) outer + s.prompts.weight := by
    unfold pool
    rw [ha, total, hs]
    rfl
  show stepsWeight rest + total (fun a => stepsWeight a.steps) outer
      + (s.prompts ++ s.loads step).weight < _
  rw [hprompts, hbefore]
  omega

/-- An activity without steps adds nothing to the pool. -/
theorem pool_outer {s : Stage} {a : Activity} {outer : List Activity}
    (ha : s.activities = a :: outer) (hs : a.steps = []) :
    ({ s with activities := outer } : Stage).pool = s.pool := by
  unfold pool
  rw [ha, total, hs]
  show _ = 0 + _ + _
  rw [Nat.zero_add]

-- ============================================================== playing

/-- The activities go on until none is left. What was seen so far is
given, and so is the outcome if nothing ends any more. -/
def run (s : Stage) (sights : List Sight) (outcome : Outcome) :
    Stage × List Sight × Outcome :=
  match ha : s.activities with
  | [] => (s, sights, outcome)
  | a :: outer =>
    match hs : a.steps with
    | step :: rest =>
      let inner : Stage :=
        { s with activities := { a with steps := rest } :: outer }
      let next := inner.take step
      have := pool_take ha hs
      next.stage.run
        (sights ++ next.sights ++ (next.outcome.map Sight.nested).toList)
        outcome
    | [] =>
      match hm : s.scene.machine.answer a.answer with
      | none =>
        ({ s with activities := outer } : Stage).run sights outcome
      | some p =>
        have := Machine.weight_answer hm
        let next := ({ s with activities := outer } : Stage).follow
          (s.scene.moved p)
        let reported :=
          if outer.isEmpty then [] else (next.outcome.map Sight.nested).toList
        next.stage.run (sights ++ next.sights ++ reported)
          (next.outcome.getD outcome)
termination_by (s.pool, s.scene.machine.weight, s.activities.length)
decreasing_by
  · exact Prod.Lex.left _ _ this
  · rw [pool_outer ha hs]
    refine Prod.Lex.right _ (Prod.Lex.right _ ?_)
    rw [ha]
    exact Nat.lt_succ_self _
  · rw [pool_follow, pool_outer ha hs]
    refine Prod.Lex.right _ (Prod.Lex.left _ _ ?_)
    rw [machine_follow]
    exact this

end Stage

/-- A step of a scenario and what came of it. -/
structure Report where
  outcome : Outcome
  sights : List Sight
  /-- The groups after the step, as long as there is a service. -/
  groups : Option (List GroupView)

/-- A step is taken, and all calls it leads to are made. -/
def Stage.play (s : Stage) (step : Step) : Stage × Report :=
  let first := s.take step
  let (last, sights, outcome) :=
    first.stage.run first.sights (first.outcome.getD (.reply .done))
  (last, ⟨outcome, sights, last.scene.groupViews?⟩)

/-- All steps in turn. -/
def Stage.playAll (s : Stage) : List Step → List Report
  | [] => []
  | step :: rest =>
    let (next, report) := s.play step
    report :: next.playAll rest

/-- A scenario from its beginning. -/
def play (s : Scene) (steps : List Step) : List Report :=
  Stage.playAll ⟨s, [], []⟩ steps

/-- Everything that was logged, in order. -/
def noticesOf (reports : List Report) : List Notice :=
  reports.flatMap fun r => r.sights.filterMap fun
    | .noticed n => some n
    | _ => none

end SpellSessions.Scenario
