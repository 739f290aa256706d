import RemoteCrowd.Session.Basic

/-!
What a request does to a run. It ends with the first step that fails, that reaches the finish
time or that leaves no target ahead. There need not be such a step, and then the request has no
result.
-/

namespace RemoteCrowd

variable {μ : Type}

/-- The number of updates of a request of which so many succeed. -/
def StepEnd.attempts (count : Nat) : StepEnd → Nat
  | failed _ => count + 1
  | paused _ | completed => count

namespace Course

variable {movement : Movement μ} {scenario : Scenario} {target : Option Double}

theorem advance_of_failed {course after : Course μ} {reason : String}
    (updated : course.update movement scenario.stepLength = (after, some reason)) :
    course.advance movement scenario target = some (after, .failed reason) := by
  rw [advance, updated]

theorem advance_of_updated {course after : Course μ}
    (updated : course.update movement scenario.stepLength = (after, none)) :
    course.advance movement scenario target =
      if isComplete scenario.finishTime after.world then some (after, .completed)
      else if isAhead target after.world then after.advance movement scenario target
      else some (after, .paused after.world.time) := by
  rw [advance, updated]

/-- The steps of a request: how many updates succeed, the course behind them and behind one that
fails, and how the request ends. -/
inductive Takes (movement : Movement μ) (scenario : Scenario) (target : Option Double) :
    Course μ → Nat → Course μ → StepEnd → Prop where
  | fails {course after : Course μ} {reason : String}
    (updated : course.update movement scenario.stepLength = (after, some reason)) :
    Takes movement scenario target course 0 after (.failed reason)
  | completes {course after : Course μ}
    (updated : course.update movement scenario.stepLength = (after, none))
    (complete : isComplete scenario.finishTime after.world = true) :
    Takes movement scenario target course 1 after .completed
  | pauses {course after : Course μ}
    (updated : course.update movement scenario.stepLength = (after, none))
    (incomplete : isComplete scenario.finishTime after.world = false)
    (reached : isAhead target after.world = false) :
    Takes movement scenario target course 1 after (.paused after.world.time)
  | goesOn {course after last : Course μ} {count : Nat} {ending : StepEnd}
    (updated : course.update movement scenario.stepLength = (after, none))
    (incomplete : isComplete scenario.finishTime after.world = false)
    (ahead : isAhead target after.world = true)
    (later : Takes movement scenario target after count last ending) :
    Takes movement scenario target course (count + 1) last ending

theorem Takes.advance_eq {course last : Course μ} {count : Nat} {ending : StepEnd}
    (takes : Takes movement scenario target course count last ending) :
    course.advance movement scenario target = some (last, ending) := by
  induction takes with
  | fails updated => exact advance_of_failed updated
  | completes updated complete => rw [advance_of_updated updated, if_pos complete]
  | pauses updated incomplete reached =>
    rw [advance_of_updated updated, incomplete, reached]
    rfl
  | goesOn updated incomplete ahead _ ih =>
    rw [advance_of_updated updated, incomplete, ahead]
    exact ih

theorem exists_takes_of_advance {course last : Course μ} {ending : StepEnd}
    (advanced : course.advance movement scenario target = some (last, ending)) :
    ∃ count, Takes movement scenario target course count last ending := by
  refine advance.partial_correctness movement scenario target
    (fun course result => ∃ count, Takes movement scenario target course count result.1 result.2)
    ?_ course (last, ending) advanced
  intro again ih course result made
  generalize updated : course.update movement scenario.stepLength = outcome at made
  obtain ⟨after, _ | reason⟩ := outcome
  · simp only at made
    split at made
    · next complete =>
      obtain rfl := Option.some.inj made
      exact ⟨1, .completes updated complete⟩
    · next incomplete =>
      have incomplete := eq_false_of_ne_true incomplete
      split at made
      · next ahead =>
        obtain ⟨count, later⟩ := ih after result made
        exact ⟨count + 1, .goesOn updated incomplete ahead later⟩
      · next reached =>
        obtain rfl := Option.some.inj made
        exact ⟨1, .pauses updated incomplete (eq_false_of_ne_true reached)⟩
  · obtain rfl := Option.some.inj made
    exact ⟨0, .fails updated⟩

/-- A request has a result just when finitely many steps lead to its end. -/
theorem advance_eq_some_iff {course last : Course μ} {ending : StepEnd} :
    course.advance movement scenario target = some (last, ending) ↔
      ∃ count, Takes movement scenario target course count last ending := by
  constructor
  · exact exists_takes_of_advance
  · rintro ⟨count, takes⟩
    exact takes.advance_eq

theorem Takes.count_unique {course last last' : Course μ} {count count' : Nat}
    {ending ending' : StepEnd}
    (takes : Takes movement scenario target course count last ending)
    (takes' : Takes movement scenario target course count' last' ending') : count' = count := by
  induction takes generalizing count' with
  | fails updated =>
    cases takes' with
    | fails => rfl
    | completes updated' | pauses updated' | goesOn updated' => cases updated.symm.trans updated'
  | completes updated complete =>
    cases takes' with
    | fails updated' => cases updated.symm.trans updated'
    | completes | pauses => rfl
    | goesOn updated' incomplete =>
      obtain ⟨rfl, -⟩ := Prod.mk.inj (updated.symm.trans updated')
      cases complete.symm.trans incomplete
  | pauses updated incomplete reached =>
    cases takes' with
    | fails updated' => cases updated.symm.trans updated'
    | completes | pauses => rfl
    | goesOn updated' _ ahead =>
      obtain ⟨rfl, -⟩ := Prod.mk.inj (updated.symm.trans updated')
      cases reached.symm.trans ahead
  | goesOn updated incomplete ahead _ ih =>
    cases takes' with
    | fails updated' => cases updated.symm.trans updated'
    | completes updated' complete =>
      obtain ⟨rfl, -⟩ := Prod.mk.inj (updated.symm.trans updated')
      cases complete.symm.trans incomplete
    | pauses updated' _ reached =>
      obtain ⟨rfl, -⟩ := Prod.mk.inj (updated.symm.trans updated')
      cases reached.symm.trans ahead
    | goesOn updated' _ _ later =>
      obtain ⟨rfl, -⟩ := Prod.mk.inj (updated.symm.trans updated')
      rw [ih later]

/-- A request has one end. -/
theorem Takes.unique {course last last' : Course μ} {count count' : Nat} {ending ending' : StepEnd}
    (takes : Takes movement scenario target course count last ending)
    (takes' : Takes movement scenario target course count' last' ending') :
    count' = count ∧ last' = last ∧ ending' = ending := by
  obtain ⟨rfl, rfl⟩ :=
    Prod.mk.inj (Option.some.inj (takes'.advance_eq.symm.trans takes.advance_eq))
  exact ⟨takes.count_unique takes', rfl, rfl⟩

/-- The steps of a request, as long as there are not more than the given number of them. -/
def advanceWithin (movement : Movement μ) (scenario : Scenario) (target : Option Double) :
    Nat → Course μ → Option (Nat × Course μ × StepEnd)
  | 0, _ => none
  | limit + 1, course =>
    match course.update movement scenario.stepLength with
    | (after, some reason) => some (0, after, .failed reason)
    | (after, none) =>
      if isComplete scenario.finishTime after.world then some (1, after, .completed)
      else if isAhead target after.world then do
        let (count, last, ending) ← advanceWithin movement scenario target limit after
        return (count + 1, last, ending)
      else some (1, after, .paused after.world.time)

theorem takes_of_advanceWithin (limit : Nat) {course last : Course μ} {count : Nat}
    {ending : StepEnd}
    (advanced : advanceWithin movement scenario target limit course = some (count, last, ending)) :
    Takes movement scenario target course count last ending := by
  induction limit generalizing course count with
  | zero => cases advanced
  | succ limit ih =>
    rw [advanceWithin] at advanced
    generalize updated : course.update movement scenario.stepLength = outcome at advanced
    obtain ⟨after, _ | reason⟩ := outcome
    · simp only at advanced
      split at advanced
      · next complete =>
        cases advanced
        exact .completes updated complete
      · next incomplete =>
        have incomplete := eq_false_of_ne_true incomplete
        split at advanced
        · next ahead =>
          obtain ⟨⟨count', last', ending'⟩, later, made⟩ := Option.bind_eq_some_iff.mp advanced
          cases made
          exact .goesOn updated incomplete ahead (ih later)
        · next reached =>
          cases advanced
          exact .pauses updated incomplete (eq_false_of_ne_true reached)
    · cases advanced
      exact .fails updated

/-- What a movement itself writes to the counter of steps in its next updates, of which there are
so many. -/
def written (movement : Movement μ) (stepLength : Double) : Nat → Course μ → UInt64
  | 0, _ => 0
  | count + 1, course =>
    (movement.update course.memory course.world stepLength).world.step - course.world.step +
      written movement stepLength count (course.update movement stepLength).1

theorem step_of_update_eq_none {stepLength : Double} {course after : Course μ}
    (updated : course.update movement stepLength = (after, none)) :
    after.world.step =
      (movement.update course.memory course.world stepLength).world.step + 1 := by
  unfold update at updated
  simp only at updated
  split at updated
  · cases updated
  · obtain ⟨rfl, -⟩ := Prod.mk.inj updated
    rfl

theorem step_of_update_eq_some {stepLength : Double} {course after : Course μ} {reason : String}
    (updated : course.update movement stepLength = (after, some reason)) :
    after.world.step = (movement.update course.memory course.world stepLength).world.step := by
  unfold update at updated
  simp only at updated
  split at updated
  · obtain ⟨rfl, -⟩ := Prod.mk.inj updated
    rfl
  · cases updated

/-- Every update that succeeds is counted once, besides what the movement writes by itself. -/
theorem Takes.step_eq {course last : Course μ} {count : Nat} {ending : StepEnd}
    (takes : Takes movement scenario target course count last ending) :
    last.world.step = course.world.step + .ofNat count +
      written movement scenario.stepLength (ending.attempts count) course := by
  induction takes with
  | @fails course after reason updated =>
    rw [step_of_update_eq_some updated, StepEnd.attempts, written, written]
    grind
  | @completes course after updated | @pauses course after updated =>
    rw [step_of_update_eq_none updated, StepEnd.attempts, written, written]
    grind
  | @goesOn course after last count ending updated _ _ _ ih =>
    have again : ending.attempts (count + 1) = ending.attempts count + 1 := by
      cases ending <;> rfl
    rw [ih, again, written, updated, step_of_update_eq_none updated, UInt64.ofNat_add]
    grind

end Course

/-- No update of the movement touches the counter of steps. -/
def Movement.LeavesCount (movement : Movement μ) : Prop :=
  ∀ memory world seconds, (movement.update memory world seconds).world.step = world.step

theorem Movement.leavesCount_constantVelocity : constantVelocity.LeavesCount :=
  fun _ _ _ => rfl

namespace Course

variable {movement : Movement μ} {scenario : Scenario} {target : Option Double}

theorem written_of_leavesCount (leaves : movement.LeavesCount) (stepLength : Double) (count : Nat)
    (course : Course μ) : written movement stepLength count course = 0 := by
  induction count generalizing course with
  | zero => rfl
  | succ count ih => rw [written, ih, leaves, UInt64.sub_self, UInt64.add_zero]

/-- A run that waits again has counted at least one step more. -/
theorem Takes.lt_of_leavesCount (leaves : movement.LeavesCount) {course last : Course μ}
    {count : Nat} {time : Double}
    (takes : Takes movement scenario target course count last (.paused time))
    (fits : course.world.step.toNat + count < UInt64.size) : course.world.step < last.world.step := by
  have positive : 0 < count := by
    cases takes with
    | pauses => exact Nat.one_pos
    | goesOn => exact Nat.succ_pos _
  have counted := takes.step_eq
  rw [written_of_leavesCount leaves, UInt64.add_zero] at counted
  rw [counted, UInt64.lt_iff_toNat_lt, UInt64.toNat_add, UInt64.toNat_ofNat',
    Nat.mod_eq_of_lt (by omega : count < UInt64.size), Nat.mod_eq_of_lt fits]
  omega

end Course

/-- How a session stands behind a request that ends so. -/
def StepEnd.lifecycle : StepEnd → Lifecycle
  | paused _ => .loadedIdle
  | completed => .finished
  | failed reason => .failed reason

namespace Run

/-- The run behind a request that ends so. -/
def behind (run : Run μ) (course : Course μ) (ending : StepEnd) : Run μ :=
  (run.conclude course ending).1

variable {run : Run μ} {course : Course μ} {ending : StepEnd}

@[simp] theorem course_behind : (run.behind course ending).course = course := by
  cases ending <;> rfl

@[simp] theorem id_behind : (run.behind course ending).id = run.id := by
  cases ending <;> rfl

@[simp] theorem scenario_behind : (run.behind course ending).scenario = run.scenario := by
  cases ending <;> rfl

theorem perform_eq_some_iff {movement : Movement μ} {target : Option Double} {after : Run μ}
    {event : RunEvent} :
    run.perform movement target = some (after, event) ↔
      ∃ course ending, run.course.advance movement run.scenario target = some (course, ending) ∧
        run.conclude course ending = (after, event) := by
  rw [perform, Option.bind_eq_bind, Option.bind_eq_some_iff]
  constructor
  · rintro ⟨⟨course, ending⟩, advanced, made⟩
    exact ⟨course, ending, advanced, Option.some.inj made⟩
  · rintro ⟨course, ending, advanced, made⟩
    exact ⟨(course, ending), advanced, congrArg some made⟩

theorem perform_eq_none_iff {movement : Movement μ} {target : Option Double} :
    run.perform movement target = none ↔
      run.course.advance movement run.scenario target = none := by
  rw [perform]
  cases run.course.advance movement run.scenario target with
  | none => exact iff_of_true rfl rfl
  | some advanced => exact iff_of_false nofun nofun

end Run


namespace Session
variable {session : Session μ}

theorem lifecycle_of_loaded {run : Run μ} (loaded : session.run? = some run) :
    session.lifecycle =
      match run.outcome with
      | none => .loadedIdle
      | some outcome => outcome.lifecycle := by
  cases outcome : run.outcome with
  | none => simp only [lifecycle, loaded, outcome]
  | some outcome' => simp only [lifecycle, loaded, outcome]

theorem exists_run_of_loadedIdle (idle : session.lifecycle = .loadedIdle) :
    ∃ run, session.run? = some run ∧ run.outcome = none := by
  cases loaded : session.run? with
  | none =>
    rw [lifecycle, loaded] at idle
    cases idle
  | some run =>
    cases outcome : run.outcome with
    | none => exact ⟨run, rfl, outcome⟩
    | some outcome' =>
      rw [lifecycle_of_loaded loaded, outcome] at idle
      cases outcome' <;> cases idle

theorem usable_eq_ok {run : Run μ} (loaded : session.run? = some run) (waits : run.outcome = none) :
    session.usable = .ok run := by
  rw [usable, lifecycle_of_loaded loaded, waits, loaded]
  rfl

theorem exists_usable_eq_ok (idle : session.lifecycle = .loadedIdle) :
    ∃ run, session.usable = .ok run := by
  obtain ⟨run, loaded, waits⟩ := exists_run_of_loadedIdle idle
  exact ⟨run, usable_eq_ok loaded waits⟩

/-- A session that does not wait for a request refuses to be used. -/
theorem exists_usable_eq_error (busy : session.lifecycle ≠ .loadedIdle) :
    ∃ cause, session.usable = .error cause := by
  cases loaded : session.run? with
  | none =>
    refine ⟨.access .noScenario, ?_⟩
    rw [usable, lifecycle, loaded]
    rfl
  | some run =>
    rw [usable]
    rw [lifecycle_of_loaded loaded] at busy ⊢
    cases outcome : run.outcome with
    | none =>
      rw [outcome] at busy
      exact absurd rfl busy
    | some outcome' => cases outcome' <;> exact ⟨_, rfl⟩

theorem usable_eq_ok_iff {run : Run μ} :
    session.usable = .ok run ↔ session.run? = some run ∧ run.outcome = none := by
  constructor
  · intro usable
    by_cases idle : session.lifecycle = .loadedIdle
    · obtain ⟨run', loaded, waits⟩ := exists_run_of_loadedIdle idle
      obtain rfl := Except.ok.inj ((usable_eq_ok loaded waits).symm.trans usable)
      exact ⟨loaded, waits⟩
    · obtain ⟨cause, unusable⟩ := exists_usable_eq_error idle
      cases unusable.symm.trans usable
  · intro waiting
    exact usable_eq_ok waiting.1 waiting.2

/-- To put the present state in place of itself changes nothing. -/
theorem setWorld_of_usable {run : Run μ} (usable : session.usable = .ok run) :
    session.setWorld run.course.world = session := by
  have loaded := (usable_eq_ok_iff.mp usable).1
  rw [setWorld, loaded, Option.map_some]
  exact congrArg (Session.mk · session.nextId) loaded.symm

theorem usable_of_loadedIdle {run : Run μ} (idle : session.lifecycle = .loadedIdle)
    (loaded : session.run? = some run) : session.usable = .ok run := by
  obtain ⟨run', loaded', waits⟩ := exists_run_of_loadedIdle idle
  obtain rfl := Option.some.inj (loaded.symm.trans loaded')
  exact usable_eq_ok loaded waits


/-- The session behind a request to its run that ends so. -/
def behind (run : Run μ) (course : Course μ) (ending : StepEnd) (session : Session μ) :
    Session μ :=
  { session with run? := some (run.behind course ending) }

/-- How a session stands behind a request is a matter of how the request ended. -/
theorem lifecycle_behind {run : Run μ} (waits : run.outcome = none) (course : Course μ)
    (ending : StepEnd) : (session.behind run course ending).lifecycle = ending.lifecycle := by
  cases ending with
  | paused time => simp only [behind, Run.behind, Run.conclude, lifecycle, waits, StepEnd.lifecycle]
  | completed | failed reason => rfl

variable {movement : Movement μ} {target : Option Double}

theorem step_of_unusable {cause : Error} (unusable : session.usable = .error cause) :
    session.step movement target = .error (.error cause) := by
  rw [step, unusable]
  rfl

theorem step_of_usable {run : Run μ} (usable : session.usable = .ok run) :
    session.step movement target =
      match run.perform movement target with
      | some (after, _) => .ok { session with run? := some after }
      | none => .error .endless := by
  rw [step, usable]
  show (match run.perform movement target with
    | some (after, _) => pure { session with run? := some after }
    | none => throw Lapse.endless) = _
  cases run.perform movement target <;> rfl

/-- A request to a session ends just when its run waits and the steps come to an end. -/
theorem step_eq_ok_iff {after : Session μ} :
    session.step movement target = .ok after ↔
      ∃ run course ending, session.run? = some run ∧ run.outcome = none ∧
        run.course.advance movement run.scenario target = some (course, ending) ∧
        after = session.behind run course ending := by
  cases usable : session.usable with
  | error cause =>
    rw [step_of_unusable usable]
    refine iff_of_false (fun same => by cases same) ?_
    rintro ⟨run, _, _, loaded, waits, -, -⟩
    cases usable.symm.trans (usable_eq_ok loaded waits)
  | ok run =>
    obtain ⟨loaded, waits⟩ := usable_eq_ok_iff.mp usable
    rw [step_of_usable usable]
    constructor
    · intro stepped
      split at stepped
      · next after event performed =>
        obtain ⟨course, ending, advanced, made⟩ := Run.perform_eq_some_iff.mp performed
        refine ⟨run, course, ending, loaded, waits, advanced, ?_⟩
        rw [behind, Run.behind, made]
        exact (Except.ok.inj stepped).symm
      · cases stepped
    · rintro ⟨run', course, ending, loaded', -, advanced, rfl⟩
      obtain rfl := Option.some.inj (loaded.symm.trans loaded')
      simp only [Run.perform_eq_some_iff.mpr ⟨course, ending, advanced, rfl⟩]
      rfl

/-- A request to a session goes on for ever just when its run waits and the steps have no end. -/
theorem step_eq_endless_iff :
    session.step movement target = .error .endless ↔
      ∃ run, session.run? = some run ∧ run.outcome = none ∧
        run.course.advance movement run.scenario target = none := by
  cases usable : session.usable with
  | error cause =>
    rw [step_of_unusable usable]
    refine iff_of_false (fun same => by cases same) ?_
    rintro ⟨run, loaded, waits, -⟩
    cases usable.symm.trans (usable_eq_ok loaded waits)
  | ok run =>
    obtain ⟨loaded, waits⟩ := usable_eq_ok_iff.mp usable
    rw [step_of_usable usable]
    constructor
    · intro stepped
      split at stepped
      · cases stepped
      · next endless => exact ⟨run, loaded, waits, Run.perform_eq_none_iff.mp endless⟩
    · rintro ⟨run', loaded', -, endless⟩
      obtain rfl := Option.some.inj (loaded.symm.trans loaded')
      simp only [Run.perform_eq_none_iff.mpr endless]

end Session

end RemoteCrowd
