import RemoteCrowd.Proofs.Result
import RemoteCrowd.Proofs.Simulation.Run

/-!
Stepping to a target. A request for a target makes the same updates as requests for single steps
that are made up to the first one that ends the run or does not leave the target ahead. So how many
updates there are, and how the request ends, can be told by the clock.
-/

namespace RemoteCrowd

variable {μ : Type}

namespace Course

/-- The course behind a number of updates, if none of them fails. -/
def after? (movement : Movement μ) (stepLength : Double) (course : Course μ) :
    Nat → Option (Course μ)
  | 0 => some course
  | count + 1 =>
    match after? movement stepLength course count with
    | none => none
    | some before =>
      match before.update movement stepLength with
      | (later, none) => some later
      | (_, some _) => none

/-- The counter of steps behind a number of updates: each of them is counted once, besides what
the movement writes to the counter by itself. -/
def counterAfter (movement : Movement μ) (stepLength : Double) (course : Course μ) (count : Nat) :
    UInt64 :=
  course.world.step + .ofNat count + written movement stepLength count course

/-- The time that goes with this counter: so many step lengths. -/
def clockAfter (movement : Movement μ) (stepLength : Double) (course : Course μ) (count : Nat) :
    Double :=
  World.timeAfter stepLength (course.counterAfter movement stepLength count)

section Updates

variable {movement : Movement μ} {stepLength : Double} {course before later : Course μ}
  {count : Nat}

theorem after?_succ_eq_some_iff :
    course.after? movement stepLength (count + 1) = some later ↔
      ∃ before, course.after? movement stepLength count = some before ∧
        before.update movement stepLength = (later, none) := by
  rw [after?]
  cases course.after? movement stepLength count with
  | none => simp
  | some before =>
    generalize updated : before.update movement stepLength = updated'
    obtain ⟨after, fault?⟩ := updated'
    cases fault? <;> simp [updated]

/-- The first of the updates can be told from the others as well as the last. -/
theorem exists_first_of_after? (made : course.after? movement stepLength (count + 1) = some later) :
    ∃ first, course.update movement stepLength = (first, none) ∧
      first.after? movement stepLength count = some later := by
  induction count generalizing later with
  | zero =>
    obtain ⟨before, same, updated⟩ := after?_succ_eq_some_iff.mp made
    obtain rfl := Option.some.inj same
    exact ⟨later, updated, rfl⟩
  | succ count ih =>
    obtain ⟨before, made, updated⟩ := after?_succ_eq_some_iff.mp made
    obtain ⟨first, updated', made'⟩ := ih made
    exact ⟨first, updated', after?_succ_eq_some_iff.mpr ⟨before, made', updated⟩⟩

/-- What the next update writes to the counter is added to what the updates before have written. -/
theorem written_succ (made : course.after? movement stepLength count = some before) :
    written movement stepLength (count + 1) course =
      written movement stepLength count course +
        ((movement.update before.memory before.world stepLength).world.step -
          before.world.step) := by
  induction count generalizing course with
  | zero =>
    obtain rfl := Option.some.inj made
    rw [written, written, written]
    grind
  | succ count ih =>
    obtain ⟨first, updated, made⟩ := exists_first_of_after? made
    have later := ih made
    have head : written movement stepLength (count + 1) course =
        (movement.update course.memory course.world stepLength).world.step - course.world.step +
          written movement stepLength count first := by rw [written, updated]
    rw [written, updated, later, head]
    grind

/-- The clock is set by the counter. -/
theorem time_of_update (updated : course.update movement stepLength = (later, none)) :
    later.world.time = World.timeAfter stepLength later.world.step := by
  unfold update at updated
  simp only at updated
  split at updated
  · cases updated
  · obtain ⟨rfl, -⟩ := Prod.mk.inj updated
    rfl

theorem step_of_after? (made : course.after? movement stepLength count = some later) :
    later.world.step = course.counterAfter movement stepLength count := by
  induction count generalizing later with
  | zero =>
    obtain rfl := Option.some.inj made
    rw [counterAfter, written]
    grind
  | succ count ih =>
    obtain ⟨before, made, updated⟩ := after?_succ_eq_some_iff.mp made
    have counted := ih made
    rw [counterAfter] at counted ⊢
    rw [step_of_update_eq_none updated, written_succ made, UInt64.ofNat_add]
    grind

theorem time_of_after? (made : course.after? movement stepLength (count + 1) = some later) :
    later.world.time = course.clockAfter movement stepLength (count + 1) := by
  obtain ⟨before, -, updated⟩ := after?_succ_eq_some_iff.mp made
  rw [clockAfter, ← step_of_after? made]
  exact time_of_update updated

theorem counterAfter_of_leavesCount (leaves : movement.LeavesCount) (course : Course μ)
    (stepLength : Double) (count : Nat) :
    course.counterAfter movement stepLength count = course.world.step + .ofNat count := by
  rw [counterAfter, written_of_leavesCount leaves, UInt64.add_zero]

end Updates

/-- At this time a request for the target has come to its end. -/
def IsOver (scenario : Scenario) (target time : Double) : Prop :=
  (scenario.finishTime - tolerance).le time = true ∨ time.lt (target - tolerance) = false

variable {movement : Movement μ} {scenario : Scenario} {target : Double}

theorem not_isOver_iff {world : World} :
    ¬IsOver scenario target world.time ↔
      ¬isComplete scenario.finishTime world = true ∧ isAhead (some target) world = true := by
  rw [IsOver, not_or, Bool.not_eq_false]
  rfl

/-- Some updates are made, and at none of the times behind them has the request come to its
end. -/
structure GoesOn (movement : Movement μ) (scenario : Scenario) (target : Double)
    (course : Course μ) (count : Nat) (later : Course μ) : Prop where
  made : course.after? movement scenario.stepLength count = some later
  early : ∀ number, 0 < number → number ≤ count →
    ¬IsOver scenario target (course.clockAfter movement scenario.stepLength number)

/-- How a request for a target ends with the update of the given number: that is the first one that
fails, or behind which the finish time is reached or the target is not ahead any more. -/
inductive Ends (movement : Movement μ) (scenario : Scenario) (target : Double)
    (course : Course μ) : Nat → Course μ → StepEnd → Prop where
  | fails {count : Nat} {before last : Course μ} {reason : String}
    (goesOn : course.GoesOn movement scenario target count before)
    (updated : before.update movement scenario.stepLength = (last, some reason)) :
    Ends movement scenario target course (count + 1) last (.failed reason)
  | completes {count : Nat} {before last : Course μ} {time : Double}
    (goesOn : course.GoesOn movement scenario target count before)
    (updated : before.update movement scenario.stepLength = (last, none))
    (shown : time = course.clockAfter movement scenario.stepLength (count + 1))
    (complete : (scenario.finishTime - tolerance).le time = true) :
    Ends movement scenario target course (count + 1) last .completed
  | pauses {count : Nat} {before last : Course μ} {time : Double}
    (goesOn : course.GoesOn movement scenario target count before)
    (updated : before.update movement scenario.stepLength = (last, none))
    (shown : time = course.clockAfter movement scenario.stepLength (count + 1))
    (incomplete : (scenario.finishTime - tolerance).le time = false)
    (reached : time.lt (target - tolerance) = false) :
    Ends movement scenario target course (count + 1) last (.paused time)

section Ends

variable {course before last : Course μ} {count number : Nat} {ending : StepEnd}

theorem GoesOn.start (course : Course μ) : course.GoesOn movement scenario target 0 course where
  made := rfl
  early _ positive none := absurd positive (Nat.not_lt.mpr none)

theorem GoesOn.update (goesOn : course.GoesOn movement scenario target count before)
    (updated : before.update movement scenario.stepLength = (last, none))
    (early : ¬IsOver scenario target last.world.time) :
    course.GoesOn movement scenario target (count + 1) last := by
  have made := after?_succ_eq_some_iff.mpr ⟨before, goesOn.made, updated⟩
  refine ⟨made, fun number positive within => ?_⟩
  rcases Nat.le_succ_iff.mp within with within | rfl
  · exact goesOn.early number positive within
  · rw [← time_of_after? made]
    exact early

/-- The last of the updates, and what has not come about behind it. -/
theorem GoesOn.pred (goesOn : course.GoesOn movement scenario target (count + 1) last) :
    ∃ before, course.GoesOn movement scenario target count before ∧
      before.update movement scenario.stepLength = (last, none) ∧
      ¬isComplete scenario.finishTime last.world = true ∧
      isAhead (some target) last.world = true := by
  obtain ⟨before, made, updated⟩ := after?_succ_eq_some_iff.mp goesOn.made
  have early := goesOn.early (count + 1) (Nat.succ_pos count) (Nat.le_refl _)
  rw [← time_of_after? goesOn.made, not_isOver_iff] at early
  refine ⟨before, ⟨made, ?_⟩, updated, early⟩
  intro number positive within
  exact goesOn.early number positive (Nat.le_succ_of_le within)

theorem GoesOn.mono (goesOn : course.GoesOn movement scenario target count last) {earlier : Nat}
    (within : earlier ≤ count) :
    ∃ between, course.GoesOn movement scenario target earlier between := by
  induction count generalizing last with
  | zero =>
    obtain rfl := Nat.le_zero.mp within
    exact ⟨last, goesOn⟩
  | succ count ih =>
    rcases Nat.le_succ_iff.mp within with within | rfl
    · obtain ⟨before, goesOn', -⟩ := goesOn.pred
      exact ih goesOn' within
    · exact ⟨last, goesOn⟩

/-- The first updates of a request leave it as it was. -/
theorem GoesOn.advance_eq (goesOn : course.GoesOn movement scenario target count before) :
    course.advance movement scenario (some target) =
      before.advance movement scenario (some target) := by
  induction count generalizing before with
  | zero =>
    obtain rfl := Option.some.inj goesOn.made
    rfl
  | succ count ih =>
    obtain ⟨first, goesOn', updated, incomplete, ahead⟩ := goesOn.pred
    rw [ih goesOn', advance_of_updated updated, if_neg incomplete, if_pos ahead]

/-- The last update ends a request for the target, and a request for a single step too. -/
theorem Ends.advance_last (ends : course.Ends movement scenario target number last ending) :
    ∃ count before, number = count + 1 ∧ course.GoesOn movement scenario target count before ∧
      before.advance movement scenario none = some (last, ending) ∧
      before.advance movement scenario (some target) = some (last, ending) := by
  cases ends with
  | fails goesOn updated =>
    exact ⟨_, _, rfl, goesOn, advance_of_failed updated, advance_of_failed updated⟩
  | completes goesOn updated shown complete =>
    have made := after?_succ_eq_some_iff.mpr ⟨_, goesOn.made, updated⟩
    rw [shown, ← time_of_after? made] at complete
    have complete' : isComplete scenario.finishTime last.world = true := complete
    refine ⟨_, _, rfl, goesOn, ?_, ?_⟩
    · rw [advance_of_updated updated, if_pos complete']
    · rw [advance_of_updated updated, if_pos complete']
  | pauses goesOn updated shown incomplete reached =>
    have made := after?_succ_eq_some_iff.mpr ⟨_, goesOn.made, updated⟩
    rw [shown, ← time_of_after? made] at incomplete reached ⊢
    have incomplete' : ¬isComplete scenario.finishTime last.world = true :=
      ne_true_of_eq_false incomplete
    have reached' : ¬isAhead (some target) last.world = true := ne_true_of_eq_false reached
    have alone : ¬isAhead none last.world = true := Bool.false_ne_true
    refine ⟨_, _, rfl, goesOn, ?_, ?_⟩
    · rw [advance_of_updated updated, if_neg incomplete', if_neg alone]
    · rw [advance_of_updated updated, if_neg incomplete', if_neg reached']

/-- The request that ends so is the one that is made. -/
theorem Ends.advance_eq (ends : course.Ends movement scenario target number last ending) :
    course.advance movement scenario (some target) = some (last, ending) := by
  obtain ⟨count, before, -, goesOn, -, advanced⟩ := ends.advance_last
  exact goesOn.advance_eq.trans advanced

/-- The last update is counted unless it fails. What the movement has written is there either
way. -/
theorem Ends.counts (ends : course.Ends movement scenario target number last ending) :
    match ending with
    | .failed _ => last.world.step + 1 = course.counterAfter movement scenario.stepLength number
    | _ => last.world.step = course.counterAfter movement scenario.stepLength number ∧
        last.world.time = course.clockAfter movement scenario.stepLength number := by
  cases ends with
  | @fails count _ _ _ goesOn updated =>
    have counted := step_of_after? goesOn.made
    rw [counterAfter] at counted
    show last.world.step + 1 = _
    rw [step_of_update_eq_some updated, counterAfter, written_succ goesOn.made, UInt64.ofNat_add]
    grind
  | completes goesOn updated shown complete | pauses goesOn updated shown incomplete reached =>
    have made := after?_succ_eq_some_iff.mpr ⟨_, goesOn.made, updated⟩
    exact ⟨step_of_after? made, time_of_after? made⟩

/-- None of the updates before has shown the end. -/
theorem Ends.early (ends : course.Ends movement scenario target number last ending) {earlier : Nat}
    (positive : 0 < earlier) (before : earlier < number) :
    ¬IsOver scenario target (course.clockAfter movement scenario.stepLength earlier) := by
  cases ends with
  | fails goesOn | completes goesOn | pauses goesOn =>
    exact goesOn.early earlier positive (Nat.le_of_lt_succ before)

/-- The last update shows the end, unless it fails. -/
theorem Ends.isOver (ends : course.Ends movement scenario target number last ending)
    (made : ∀ reason, ending ≠ .failed reason) :
    IsOver scenario target (course.clockAfter movement scenario.stepLength number) ∧
      (ending = .completed ↔ (scenario.finishTime - tolerance).le
        (course.clockAfter movement scenario.stepLength number) = true) := by
  cases ends with
  | fails => exact absurd rfl (made _)
  | completes goesOn updated shown complete =>
    rw [← shown]
    exact ⟨.inl complete, iff_of_true rfl complete⟩
  | pauses goesOn updated shown incomplete reached =>
    rw [← shown]
    exact ⟨.inr reached, iff_of_false nofun (ne_true_of_eq_false incomplete)⟩

/-- A request that goes on up to some course ends as it ends from there. -/
theorem Takes.exists_ends {earlier : Nat}
    (takes : Takes movement scenario (some target) before count last ending)
    (goesOn : course.GoesOn movement scenario target earlier before) :
    course.Ends movement scenario target (earlier + ending.attempts count) last ending := by
  generalize asked : some target = target? at takes
  induction takes generalizing earlier with
  | fails updated => exact .fails goesOn updated
  | completes updated complete =>
    have made := after?_succ_eq_some_iff.mpr ⟨_, goesOn.made, updated⟩
    exact .completes goesOn updated (time_of_after? made) complete
  | pauses updated incomplete reached =>
    subst asked
    have made := after?_succ_eq_some_iff.mpr ⟨_, goesOn.made, updated⟩
    rw [time_of_after? made]
    refine .pauses goesOn updated rfl ?_ ?_
    · rw [← time_of_after? made]
      exact incomplete
    · rw [← time_of_after? made]
      exact reached
  | @goesOn _ after _ count ending updated incomplete ahead _ ih =>
    subst asked
    have early : ¬IsOver scenario target after.world.time :=
      not_isOver_iff.mpr ⟨ne_true_of_eq_false incomplete, ahead⟩
    have again : earlier + 1 + ending.attempts count = earlier + ending.attempts (count + 1) := by
      cases ending <;> simp only [StepEnd.attempts] <;> omega
    rw [← again]
    exact ih (goesOn.update updated early)

/-- A request that has a result ends with the update of some number. -/
theorem exists_ends_of_advance
    (advanced : course.advance movement scenario (some target) = some (last, ending)) :
    ∃ number, course.Ends movement scenario target number last ending := by
  obtain ⟨count, takes⟩ := exists_takes_of_advance advanced
  exact ⟨_, takes.exists_ends (.start course)⟩

/-- A request that goes on for some updates has not ended with one of them. -/
theorem GoesOn.lt_of_ends (goesOn : course.GoesOn movement scenario target count before)
    (ends : course.Ends movement scenario target number last ending) : count < number := by
  refine Nat.lt_of_not_le fun within => ?_
  obtain ⟨between, goesOn⟩ := goesOn.mono within
  cases ends with
  | fails goesOn' updated =>
    obtain ⟨before', made, updated'⟩ := after?_succ_eq_some_iff.mp goesOn.made
    obtain rfl := Option.some.inj (made.symm.trans goesOn'.made)
    cases updated.symm.trans updated'
  | completes _ _ shown complete =>
    exact goesOn.early _ (Nat.succ_pos _) (Nat.le_refl _) (.inl (shown ▸ complete))
  | pauses _ _ shown _ reached =>
    exact goesOn.early _ (Nat.succ_pos _) (Nat.le_refl _) (.inr (shown ▸ reached))

/-- There is only one number. -/
theorem Ends.unique (ends : course.Ends movement scenario target number last ending)
    {number' : Nat} {last' : Course μ} {ending' : StepEnd}
    (ends' : course.Ends movement scenario target number' last' ending') :
    number' = number ∧ last' = last ∧ ending' = ending := by
  obtain ⟨rfl, rfl⟩ :=
    Prod.mk.inj (Option.some.inj (ends'.advance_eq.symm.trans ends.advance_eq))
  obtain ⟨count, before, rfl, goesOn, -⟩ := ends.advance_last
  obtain ⟨count', before', rfl, goesOn', -⟩ := ends'.advance_last
  have less := goesOn.lt_of_ends ends'
  have less' := goesOn'.lt_of_ends ends
  exact ⟨by omega, rfl, rfl⟩

/-- A request has no result just when it goes on for any number of updates. -/
theorem advance_eq_none_iff :
    course.advance movement scenario (some target) = none ↔
      ∀ count, ∃ later, course.GoesOn movement scenario target count later := by
  constructor
  · intro endless count
    induction count with
    | zero => exact ⟨course, .start course⟩
    | succ count ih =>
      obtain ⟨before, goesOn⟩ := ih
      rw [goesOn.advance_eq] at endless
      generalize updated : before.update movement scenario.stepLength = outcome
      obtain ⟨after, _ | reason⟩ := outcome
      · rw [advance_of_updated updated] at endless
        refine ⟨after, goesOn.update updated (not_isOver_iff.mpr ?_)⟩
        split at endless
        · cases endless
        · next incomplete =>
          split at endless
          · next ahead => exact ⟨incomplete, ahead⟩
          · cases endless
      · cases (advance_of_failed updated).symm.trans endless
  · intro goesOn
    cases advanced : course.advance movement scenario (some target) with
    | none => rfl
    | some result =>
      obtain ⟨number, ends⟩ := exists_ends_of_advance advanced
      obtain ⟨later, goesOn⟩ := goesOn number
      exact absurd (goesOn.lt_of_ends ends) (Nat.lt_irrefl number)

end Ends

end Course

namespace Session

variable {movement : Movement μ} {session after : Session μ}

/-- Requests for single steps, one after another. -/
def singles (movement : Movement μ) (session : Session μ) : Nat → Except Lapse (Session μ)
  | 0 => .ok session
  | count + 1 => do (← singles movement session count).step movement none

/-- The run is over, or the target is not ahead any more. -/
def isThere (target : Double) (session : Session μ) : Bool :=
  match session.run? with
  | none => true
  | some run => run.outcome.isSome || !Course.isAhead (some target) run.course.world

/-- As long as a request for the target goes on, single steps do the same. -/
theorem singles_of_goesOn {target : Double} {run : Run μ} (loaded : session.run? = some run)
    (waits : run.outcome = none) {count : Nat} {before : Course μ}
    (goesOn : run.course.GoesOn movement run.scenario target count before) :
    ∃ run', session.singles movement count = .ok { session with run? := some run' } ∧
      run'.course = before ∧ run'.scenario = run.scenario ∧ run'.outcome = none ∧
      ∀ course ending, run'.behind course ending = run.behind course ending := by
  induction count generalizing before with
  | zero =>
    obtain ⟨run?, nextId⟩ := session
    obtain rfl : run? = some run := loaded
    obtain rfl := Option.some.inj goesOn.made
    exact ⟨run, rfl, rfl, rfl, waits, fun _ _ => rfl⟩
  | succ count ih =>
    obtain ⟨first, goesOn', updated, incomplete, -⟩ := goesOn.pred
    obtain ⟨run', made, rfl, scenario, waits', same⟩ := ih goesOn'
    have paused : run'.course.advance movement run'.scenario none =
        some (before, .paused before.world.time) := by
      rw [scenario, Course.advance_of_updated updated, if_neg incomplete]
      rfl
    have stepped : step movement none { session with run? := some run' } = .ok _ :=
      step_eq_ok_iff.mpr ⟨run', _, _, rfl, waits', paused, rfl⟩
    refine ⟨run'.behind before (.paused before.world.time), ?_, rfl, scenario, waits', ?_⟩
    · rw [singles, made]
      exact stepped
    · intro course ending
      rw [← same]
      cases ending <;> rfl

/-- What a request for a target has made of a session. There is one number of updates, told both by
single steps and by the clock. -/
structure SteppedTo (movement : Movement μ) (target : Double) (session after : Session μ)
    (run last : Run μ) (number : Nat) (ending : StepEnd) : Prop where
  loaded : session.run? = some run
  result : after = { session with run? := some last }
  lifecycle : after.lifecycle = ending.lifecycle
  positive : 0 < number
  /-- As many single steps lead there too. -/
  singly : session.singles movement number = .ok after
  there : after.isThere target = true
  /-- None of the single steps before has led there. -/
  notYet : ∀ earlier, 0 < earlier → earlier < number →
    ∃ between, session.singles movement earlier = .ok between ∧ between.isThere target = false
  /-- The first update that fails or behind which the clock shows that the request is over. -/
  ends : run.course.Ends movement run.scenario target number last.course ending
  early : ∀ earlier, 0 < earlier → earlier < number → ¬Course.IsOver run.scenario target
    (run.course.clockAfter movement run.scenario.stepLength earlier)
  shows : (∀ reason, ending ≠ .failed reason) →
    Course.IsOver run.scenario target
      (run.course.clockAfter movement run.scenario.stepLength number) ∧
    (ending = .completed ↔ (run.scenario.finishTime - Course.tolerance).le
      (run.course.clockAfter movement run.scenario.stepLength number) = true)
  /-- No other end can be told. -/
  unique : ∀ number' course ending',
    run.course.Ends movement run.scenario target number' course ending' →
      number' = number ∧ course = last.course ∧ ending' = ending
  /-- An update that fails is not counted. -/
  failed : ∀ reason, ending = .failed reason →
    last.course.world.step + 1 = run.course.counterAfter movement run.scenario.stepLength number
  made : (∀ reason, ending ≠ .failed reason) →
    last.course.world.step = run.course.counterAfter movement run.scenario.stepLength number ∧
    last.course.world.time = run.course.clockAfter movement run.scenario.stepLength number
  clock : ∀ count, run.course.clockAfter movement run.scenario.stepLength count =
    .ofNat (run.course.counterAfter movement run.scenario.stepLength count).toNat *
      run.scenario.stepLength
  /-- Each update is counted once. A movement may write to the counter too, and what it writes is
  added. -/
  counter : ∀ count, run.course.counterAfter movement run.scenario.stepLength count =
    run.course.world.step + .ofNat count +
      run.course.written movement run.scenario.stepLength count
  /-- If it does not, the counter is raised by the number of updates. -/
  steps : movement.LeavesCount → ∀ count, run.course.world.step.toNat + count < UInt64.size →
    (run.course.counterAfter movement run.scenario.stepLength count).toNat =
      run.course.world.step.toNat + count

/-- None of the first single steps ends the run or leaves the target behind. -/
theorem exists_singles_of_goesOn {target : Double} {run : Run μ}
    (loaded : session.run? = some run) (waits : run.outcome = none) {number : Nat}
    (positive : 0 < number) {last : Course μ}
    (goesOn : run.course.GoesOn movement run.scenario target number last) :
    ∃ between, session.singles movement number = .ok between ∧
      between.isThere target = false := by
  obtain ⟨count, rfl⟩ := Nat.exists_eq_add_one_of_ne_zero (Nat.ne_of_gt positive)
  obtain ⟨run', made, rfl, -, waits', -⟩ := singles_of_goesOn loaded waits goesOn
  obtain ⟨-, -, -, -, ahead⟩ := goesOn.pred
  refine ⟨_, made, ?_⟩
  rw [isThere]
  simp [waits', ahead]

theorem isThere_of_ends {target : Double} {run : Run μ} {last : Course μ} {number : Nat}
    {ending : StepEnd} (ends : run.course.Ends movement run.scenario target number last ending) :
    (session.behind run last ending).isThere target = true := by
  cases ends with
  | fails | completes => rfl
  | pauses goesOn updated shown incomplete reached =>
    have made := Course.after?_succ_eq_some_iff.mpr ⟨_, goesOn.made, updated⟩
    rw [shown, ← Course.time_of_after? made] at reached
    have reached' : Course.isAhead (some target) last.world = false := reached
    simp [isThere, behind, Run.behind, Run.conclude, reached']

/-- The last single step leads where the request for the target leads. -/
theorem singles_of_ends {target : Double} {run : Run μ} (loaded : session.run? = some run)
    (waits : run.outcome = none) {last : Course μ} {number : Nat} {ending : StepEnd}
    (ends : run.course.Ends movement run.scenario target number last ending) :
    session.singles movement number = .ok (session.behind run last ending) := by
  obtain ⟨count, before, rfl, goesOn, single, -⟩ := ends.advance_last
  obtain ⟨run', made, rfl, scenario, waits', same⟩ := singles_of_goesOn loaded waits goesOn
  rw [← scenario] at single
  have stepped : step movement none { session with run? := some run' } = .ok _ :=
    step_eq_ok_iff.mpr ⟨run', _, _, rfl, waits', single, rfl⟩
  rw [singles, made]
  refine stepped.trans ?_
  rw [behind, behind, same]

private def lane : Scenario where
  name := "lane"
  stepLength := .ofNat 2
  finishTime := .ofNat 60
  pedestrians := [⟨1, .origin, ⟨.ofNat 1, .zero⟩⟩]

end Session

end RemoteCrowd
