import RemoteCrowd.Proofs.Session.Following

/-!
A worker and a run whose operations are over at once. The worker makes the updates of a step one
by one and reports when it is done; the run has made all of them as soon as it is asked. Until the
worker has caught up, what is still ahead of it leads to where the run is already. A step that
never ends leads nowhere, and the worker is never done with it.
-/

namespace RemoteCrowd

variable {μ : Type}

/-- What a worker will report of a step that ends so. -/
def StepEnd.report : StepEnd → Report
  | paused _ => .stepFinished
  | completed => .runFinished .completed
  | failed reason => .runFinished (.failed reason)

/-- How the run has ended behind a step that ends so, if it has. -/
def StepEnd.outcome? : StepEnd → Option RunOutcome
  | paused _ => none
  | completed => some .completed
  | failed reason => some (.failed reason)

theorem Run.outcome_behind {run : Run μ} (waits : run.outcome = none) (course : Course μ)
    (ending : StepEnd) : (run.behind course ending).outcome = ending.outcome? := by
  cases ending with
  | paused time => exact waits
  | completed | failed reason => rfl

namespace Worker

variable {movement : Movement μ} {worker after : Worker μ} {run : Run μ} {lifecycle : Lifecycle}
  {target : Option Double} {report? : Option Report}

/-- The worker has been asked for a step, and still has updates of it to make. -/
def Owes (worker : Worker μ) (target : Option Double) : Prop :=
  worker.phase = .idle ∧ worker.queue = [.step target] ∨
    worker.phase = .stepping target ∧ worker.queue = []

/-- An update leaves as much to do as was to do before, less this update. -/
theorem update_cases (stepping : worker.phase = .stepping target) :
    (worker.update movement target).phase = .stepping target ∧
        worker.course.advance movement worker.scenario target =
          (worker.update movement target).course.advance movement worker.scenario target ∨
      ∃ ending, (worker.update movement target).phase = .reporting ending.report ∧
        worker.course.advance movement worker.scenario target =
          some ((worker.update movement target).course, ending) := by
  unfold update
  split
  · next course reason updated =>
    exact .inr ⟨.failed reason, rfl, Course.advance_of_failed updated⟩
  · next course updated =>
    rw [Course.advance_of_updated updated]
    split
    · exact .inr ⟨.completed, rfl, rfl⟩
    · split
      · exact .inl ⟨stepping, rfl⟩
      · exact .inr ⟨.paused course.world.time, rfl, rfl⟩

/-- A worker that owes a step goes on with it, and reports nothing meanwhile. -/
theorem Owes.goes (owes : worker.Owes target) (goes : worker.Goes movement after report?) :
    report? = none ∧ after.queue = [] ∧
      (after.phase = .stepping target ∧
          worker.course.advance movement worker.scenario target =
            after.course.advance movement after.scenario target ∨
        ∃ ending, after.phase = .reporting ending.report ∧
          worker.course.advance movement worker.scenario target = some (after.course, ending)) := by
  rcases owes with ⟨idle, asked⟩ | ⟨stepping, asked⟩
  · cases goes with
    | begins idle' asked' =>
      obtain ⟨same, rfl⟩ := List.cons.inj (asked.symm.trans asked')
      obtain rfl := Request.step.inj same
      exact ⟨rfl, rfl, .inl ⟨rfl, rfl⟩⟩
    | stops idle' asked' => cases asked.symm.trans asked'
    | updates stepping => cases idle.symm.trans stepping
    | reports reporting => cases idle.symm.trans reporting
    | exits leaving => cases idle.symm.trans leaving
  · cases goes with
    | begins idle | stops idle => cases stepping.symm.trans idle
    | updates stepping' =>
      obtain rfl := Phase.stepping.inj (stepping.symm.trans stepping')
      refine ⟨rfl, (queue_update ..).trans asked, ?_⟩
      rw [scenario_update]
      exact update_cases stepping
    | reports reporting => cases stepping.symm.trans reporting
    | exits leaving => cases stepping.symm.trans leaving

/-- The worker of a run in its lifecycle. The run is where the step ends that the worker owes,
and has ended as the worker reports. -/
inductive Plays (movement : Movement μ) (worker : Worker μ) (run : Run μ) : Lifecycle → Prop where
  | waits (idle : worker.phase = .idle) (asked : worker.queue = [])
    (same : worker.course = run.course) (waits : run.outcome = none) :
    Plays movement worker run .loadedIdle
  | owes {target : Option Double} {ending : StepEnd} (owes : worker.Owes target)
    (ends : worker.course.advance movement worker.scenario target = some (run.course, ending))
    (ended : run.outcome = ending.outcome?) : Plays movement worker run .stepping
  | reports {ending : StepEnd} (reporting : worker.phase = .reporting ending.report)
    (asked : worker.queue = []) (same : worker.course = run.course)
    (ended : run.outcome = ending.outcome?) : Plays movement worker run .stepping
  | gone {outcome : RunOutcome} (gone : worker.isServing = false) (asked : worker.queue = [])
    (ended : run.outcome = some outcome) : Plays movement worker run outcome.lifecycle

theorem Plays.waits_of_loadedIdle (plays : worker.Plays movement run .loadedIdle) :
    worker.course = run.course ∧ run.outcome = none := by
  generalize idle : Lifecycle.loadedIdle = lifecycle at plays
  cases plays with
  | waits idle asked same waits => exact ⟨same, waits⟩
  | owes | reports => cases idle
  | @gone outcome => cases outcome <;> cases idle

/-- Between two steps the lifecycle is that of the run. -/
theorem Plays.lifecycle_eq {session : Session μ} (plays : worker.Plays movement run lifecycle)
    (rests : lifecycle ≠ .stepping) (loaded : session.run? = some run) :
    session.lifecycle = lifecycle := by
  rw [Session.lifecycle_of_loaded loaded]
  cases plays with
  | waits idle asked same waits => rw [waits]
  | owes | reports => exact absurd rfl rests
  | gone gone asked ended => rw [ended]

/-- Whatever the worker of a run does, it plays the run in the lifecycle of a slot that hears it. -/
theorem Plays.goes (plays : worker.Plays movement run lifecycle)
    (goes : worker.Goes movement after report?) (id : Nat) :
    after.Plays movement run ((Slot.mk id lifecycle).heard id report?).lifecycle := by
  cases plays with
  | waits idle asked same waits =>
    cases goes with
    | begins idle' asked' | stops idle' asked' => cases asked.symm.trans asked'
    | updates stepping => cases idle.symm.trans stepping
    | reports reporting => cases idle.symm.trans reporting
    | exits leaving => cases idle.symm.trans leaving
  | owes owes ends ended =>
    obtain ⟨rfl, asked, ⟨stepping, onward⟩ | ⟨ending, reporting, onward⟩⟩ := owes.goes goes
    · exact .owes (.inr ⟨stepping, asked⟩) (onward.symm.trans ends) ended
    · obtain ⟨same, rfl⟩ := Prod.mk.inj (Option.some.inj (onward.symm.trans ends))
      exact .reports reporting asked same ended
  | @reports ending reporting asked same ended =>
    cases goes with
    | begins idle | stops idle => cases reporting.symm.trans idle
    | updates stepping => cases reporting.symm.trans stepping
    | reports reporting' =>
      obtain rfl := Phase.reporting.inj (reporting.symm.trans reporting')
      cases ending with
      | paused time =>
        simp only [StepEnd.report, Slot.heard, Slot.note, if_true]
        exact .waits rfl asked same ended
      | completed | failed reason =>
        simp only [StepEnd.report, Slot.heard, Slot.note, if_true]
        exact .gone rfl asked ended
    | exits leaving => cases reporting.symm.trans leaving
  | gone gone asked ended =>
    cases goes with
    | begins idle asked' | stops idle asked' => cases asked.symm.trans asked'
    | updates stepping => simp [isServing, stepping] at gone
    | reports reporting => simp [isServing, reporting] at gone
    | exits leaving => exact .gone rfl asked ended

/-- The step that the worker owes never ends. -/
def Stalls (movement : Movement μ) (worker : Worker μ) : Prop :=
  ∃ target, worker.Owes target ∧ worker.course.advance movement worker.scenario target = none

theorem Stalls.goes (stalls : worker.Stalls movement)
    (goes : worker.Goes movement after report?) : report? = none ∧ after.Stalls movement := by
  obtain ⟨target, owes, endless⟩ := stalls
  obtain ⟨silent, asked, ⟨stepping, onward⟩ | ⟨ending, reporting, onward⟩⟩ := owes.goes goes
  · exact ⟨silent, target, .inr ⟨stepping, asked⟩, onward.symm.trans endless⟩
  · cases endless.symm.trans onward

end Worker

end RemoteCrowd
