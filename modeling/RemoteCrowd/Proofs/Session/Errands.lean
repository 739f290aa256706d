import Mathlib.Data.List.Induction
import RemoteCrowd.Proofs.Session.Listening

/-!
All the requests to a run, from its start to the parting of its holder. Up to the end of the run
every request is accepted and causes one event. From then on every request is refused, for a cause
that tells how the run has ended, and nothing more is heard. If the run has not ended before, the
parting ends it. The flag that says whether the run waits tells the same, with one exception: a
refused request sets it again where the run has reached its finish time.
-/

namespace RemoteCrowd

variable {μ : Type}

theorem heardIn_concat (errands : List Errand) (errand : Errand) :
    heardIn (errands ++ [errand]) = heardIn errands ++ errand.heard := by
  simp [heardIn]

theorem RunOutcome.reason?_eq_some_iff {outcome : RunOutcome} {reason : String} :
    outcome.reason? = some reason ↔ outcome = .failed reason := by
  cases outcome <;> simp [reason?]

/-- The shared session asks the worker of a run in the same way. -/
theorem SharedSession.requestStep_eq_ask {session : SharedSession μ} {run : Nat} {worker : Worker μ}
    (found : session.worker? run = some worker) (target : Option Double) :
    session.requestStep run target worker =
      (session.setWorker run (worker.ask target).2).goTo
        (match (worker.ask target).1 with
        | .ok () => .leaving .done
        | .error cause => .aborting run cause) := by
  unfold requestStep Worker.ask
  cases worker.failure? with
  | some reason =>
    obtain ⟨-, found⟩ := worker?_eq_some_iff.mp found
    obtain ⟨short, same⟩ := List.getElem?_eq_some_iff.mp found
    simp only [setWorker, ← same, List.set_getElem_self]
  | none => by_cases exited : worker.phase = .exited <;> simp only [exited, if_true, if_false]

namespace Worker

variable {movement : Movement μ} {run : Nat} {scenario : Scenario} {worker after : Worker μ}
  {heard : List RunEvent} {target : Option Double} {errands : List Errand}

theorem Tells.scenario_eq (tells : worker.Tells movement run heard after) :
    after.scenario = worker.scenario := by
  induction tells with
  | rests worker => rfl
  | goesOn next tells ih => rw [ih, (next?_eq_some_iff.mp next).scenario_eq]
  | signalled isOpen tells ih => exact ih

/-- Nothing is heard of a worker that has exited. -/
theorem Tells.of_exited (tells : worker.Tells movement run heard after)
    (exited : worker.phase = .exited) :
    heard = [] ∧ ∃ signals,
      after = { worker with course := worker.course.signalAll movement signals } := by
  induction tells with
  | rests worker => exact ⟨rfl, [], rfl⟩
  | goesOn next tells ih => simp [next?, exited] at next
  | signalled isOpen tells ih =>
    obtain ⟨rfl, signals, rfl⟩ := ih exited
    exact ⟨rfl, isOpen :: signals, rfl⟩

@[simp] theorem scenario_ask (target : Option Double) (worker : Worker μ) :
    (worker.ask target).2.scenario = worker.scenario := by
  unfold ask
  split
  · rfl
  · split <;> rfl

theorem ask_of_idle (idle : worker.phase = .idle) (sound : worker.failure? = none) :
    worker.ask target = (.ok (), { worker.send (.step target) with waiting := false }) := by
  simp [ask, idle, sound]

theorem ask_of_exited {outcome : RunOutcome} (exited : worker.phase = .exited)
    (failure : worker.failure? = outcome.reason?) :
    worker.ask target = (.error outcome.refusal,
      { worker with waiting := worker.waiting || outcome.reason?.isNone }) := by
  obtain ⟨scenario, course, queue, phase, waiting, failure?⟩ := worker
  obtain rfl : failure? = outcome.reason? := failure
  obtain rfl : phase = .exited := exited
  cases outcome <;> simp [ask, RunOutcome.reason?, RunOutcome.refusal]

theorem serving_send (request : Request) (flag : Bool) (idle : worker.phase = .idle)
    (empty : worker.queue = []) (sound : worker.failure? = none) :
    { worker.send request with waiting := flag }.Serving movement run request worker.course flag
      [] := by
  refine .asked idle ?_ sound rfl fun target => ⟨[], .begins⟩
  rw [send, empty, List.nil_append]

/-- How a worker stands behind some errands, when the run has ended so or has not ended yet. -/
structure Stands (run : Nat) (scenario : Scenario) (errands : List Errand) (worker : Worker μ)
    (outcome? : Option RunOutcome) : Prop where
  scenario : worker.scenario = scenario
  heard : ∃ times : List Double, heardIn errands =
    times.map (.stepFinished run) ++ (outcome?.map (.runFinished run)).toList
  unforced : outcome? ≠ some .stopped
  failure : worker.failure? = outcome?.bind RunOutcome.reason?
  phase : worker.phase = if outcome?.isSome then .exited else .idle
  empty : worker.queue = []
  answered : outcome? = none → ∀ errand ∈ errands, errand.isRefused = false
  waiting : worker.waiting = true ↔
    outcome? = none ∨ outcome? = some .completed ∧ ∃ errand ∈ errands, errand.isRefused = true

namespace Stands

theorem starts (movement : Movement μ) (run : Nat) (scenario : Scenario) :
    (start movement scenario).Stands run scenario [] none where
  scenario := rfl
  heard := ⟨[], rfl⟩
  unforced := nofun
  failure := rfl
  phase := rfl
  empty := rfl
  answered _ := List.forall_mem_nil _
  waiting := iff_of_true rfl (.inl rfl)

theorem endIn?_eq {outcome? : Option RunOutcome}
    (stands : worker.Stands run scenario errands outcome?) : endIn? errands = outcome? := by
  obtain ⟨times, heard⟩ := stands.heard
  have steps : (times.map (RunEvent.stepFinished run)).findSome? RunEvent.outcome? = none := by
    simp [RunEvent.outcome?]
  rw [endIn?, heard, List.findSome?_append, steps]
  cases outcome? <;> rfl

theorem ask_eq (stands : worker.Stands run scenario errands none) :
    worker.ask target = (.ok (), { worker.send (.step target) with waiting := false }) :=
  ask_of_idle stands.phase stands.failure

theorem serving_step (stands : worker.Stands run scenario errands none)
    (target : Option Double) :
    (worker.ask target).2.Serving movement run (.step target) worker.course false [] := by
  rw [stands.ask_eq]
  exact serving_send (.step target) false stands.phase stands.empty stands.failure

theorem serving_stop (stands : worker.Stands run scenario errands none) :
    (worker.send .stop).Serving movement run .stop worker.course worker.waiting [] :=
  serving_send .stop worker.waiting stands.phase stands.empty stands.failure

/-- A step that can be made in full settles. -/
theorem exists_tells (stands : worker.Stands run scenario errands none)
    (performed : ∃ signals course outcome?,
      worker.course.Performs movement scenario target signals course outcome?) :
    ∃ heard after, (worker.ask target).2.Tells movement run heard after ∧ after.IsSettled := by
  obtain ⟨signals, course, outcome?, performs⟩ := performed
  rw [← stands.scenario] at performs
  rw [stands.ask_eq]
  refine exists_tells_of_performs stands.phase ?_ performs
  rw [send, stands.empty, List.nil_append]

theorem scenario_of_tells {outcome? : Option RunOutcome}
    (stands : worker.Stands run scenario errands outcome?)
    (tells : (worker.ask target).2.Tells movement run heard after) : after.scenario = scenario := by
  rw [tells.scenario_eq, scenario_ask, stands.scenario]

theorem exists_served (stands : worker.Stands run scenario errands none)
    (tells : (worker.ask target).2.Tells movement run heard after) (settled : after.IsSettled) :
    ∃ outcome?, after.Served movement run (.step target) worker.course false heard outcome? :=
  ((stands.serving_step target).tells tells).exists_served settled

/-- A request is accepted up to the end of the run, and the worker has served it. -/
theorem served (stands : worker.Stands run scenario errands none)
    (tells : (worker.ask target).2.Tells movement run heard after)
    {outcome? : Option RunOutcome}
    (served : after.Served movement run (.step target) worker.course false heard outcome?) :
    after.Stands run scenario (errands ++ [⟨target, .ok (), heard⟩]) outcome? := by
  have answered : ∀ errand ∈ errands ++ [⟨target, .ok (), heard⟩], errand.isRefused = false := by
    intro errand member
    rcases List.mem_append.mp member with before | last
    · exact stands.answered rfl errand before
    · rw [List.mem_singleton.mp last]
      rfl
  exact {
    scenario := stands.scenario_of_tells tells
    heard := by
      obtain ⟨times, before⟩ := stands.heard
      rw [heardIn_concat, before, served.heard]
      cases outcome? with
      | none => exact ⟨times ++ [after.course.world.time], by simp [RunEvent.ofStep]⟩
      | some outcome => exact ⟨times, by simp [RunEvent.ofStep]⟩
    unforced := by
      cases served.meets with
      | step later performs => exact performs.ne_stopped
    failure := served.failure
    phase := served.phase
    empty := served.empty
    answered := fun _ => answered
    waiting := by
      have accepted :
          ¬∃ errand ∈ errands ++ [⟨target, .ok (), heard⟩], errand.isRefused = true := by
        intro refused
        obtain ⟨errand, member, refused⟩ := refused
        cases (answered errand member).symm.trans refused
      rw [served.waiting, or_iff_left fun refused => accepted refused.2]
      cases outcome? <;> simp }

/-- A request is refused from the end of the run on. -/
theorem refused {outcome : RunOutcome} (stands : worker.Stands run scenario errands (some outcome))
    (movement : Movement μ) (target : Option Double) (signals : List Bool) :
    Stands run scenario (errands ++ [⟨target, .error outcome.refusal, []⟩])
      { worker with
        waiting := worker.waiting || outcome.reason?.isNone
        course := worker.course.signalAll movement signals } (some outcome) where
  scenario := stands.scenario
  heard := by
    rw [heardIn_concat, List.append_nil]
    exact stands.heard
  unforced := stands.unforced
  failure := stands.failure
  phase := stands.phase
  empty := stands.empty
  answered := nofun
  waiting := by
    have waiting := stands.waiting
    cases outcome with
    | completed =>
      have member := List.mem_append_right errands
        (List.mem_singleton_self (Errand.mk target (.error RunOutcome.completed.refusal) []))
      exact iff_of_true (Bool.or_true _) (.inr ⟨rfl, _, member, rfl⟩)
    | stopped => exact absurd rfl stands.unforced
    | failed reason => simpa [RunOutcome.reason?] using waiting

end Stands

theorem Serves.exists_stands (serves : Serves movement run scenario errands worker) :
    ∃ outcome?, worker.Stands run scenario errands outcome? := by
  induction serves with
  | starts => exact ⟨none, .starts movement run scenario⟩
  | asked target serves tells settled ih =>
    obtain ⟨outcome?, stands⟩ := ih
    cases outcome? with
    | none =>
      obtain ⟨outcome?, served⟩ := stands.exists_served tells settled
      rw [stands.ask_eq]
      exact ⟨outcome?, stands.served tells served⟩
    | some outcome =>
      rw [ask_of_exited stands.phase stands.failure] at tells ⊢
      obtain ⟨rfl, signals, rfl⟩ := tells.of_exited stands.phase
      exact ⟨some outcome, stands.refused movement target signals⟩

end Worker

/-- The movement does not heed signals at all. -/
def Movement.IsDeaf (movement : Movement μ) : Prop :=
  ∀ isOpen memory, movement.signal isOpen memory = memory

section Runs

variable {movement : Movement μ} {id : Nat} {scenario : Scenario} {run : Run μ}
  {target : Option Double} {errands : List Errand} {worker : Worker μ}

theorem Course.signalAll_eq (deaf : movement.IsDeaf) (signals : List Bool) (course : Course μ) :
    course.signalAll movement signals = course := by
  unfold signalAll
  induction signals with
  | nil => rfl
  | cons isOpen rest ih => rwa [List.foldl_cons, signal, deaf]

theorem Run.perform_of_performs (deaf : movement.IsDeaf) (waits : run.outcome = none)
    {signals : List Bool} {after : Course μ} {outcome? : Option RunOutcome}
    (performs : run.course.Performs movement run.scenario target signals after outcome?) :
    run.perform movement target =
      some ({ run with course := after, outcome := outcome?, waiting := outcome?.isNone },
        .ofStep run.id after.world.time outcome?) := by
  have ignores : movement.Ignores signals := fun isOpen _ memory => deaf isOpen memory
  obtain ⟨id, scenario, course, outcome, waiting⟩ := run
  obtain rfl : outcome = none := waits
  cases performs with
  | fails underway makes =>
    rw [perform, underway.advance_eq ignores,
      Course.advance_of_failed (Course.makes_iff.mp makes).2]
    rfl
  | completes underway makes late =>
    rw [perform, underway.advance_eq ignores,
      Course.advance_of_updated (Course.makes_iff.mp makes).2, Course.isLate_iff.mp late]
    rfl
  | pauses underway makes early reached =>
    rw [perform, underway.advance_eq ignores,
      Course.advance_of_updated (Course.makes_iff.mp makes).2, Course.not_isLate_iff.mp early,
      Course.not_hasAhead_iff.mp reached]
    rfl

theorem Run.request_of_performs (deaf : movement.IsDeaf) (waits : run.outcome = none)
    {signals : List Bool} {after : Course μ} {outcome? : Option RunOutcome}
    (performs : run.course.Performs movement run.scenario target signals after outcome?) :
    run.request movement target = some (.ok (.ofStep run.id after.world.time outcome?),
      { run with course := after, outcome := outcome?, waiting := outcome?.isNone }) := by
  simp only [request, waits, perform_of_performs deaf waits performs]
  rfl

theorem Run.request_of_takes (waits : run.outcome = none) {course : Course μ} {count : Nat}
    {ending : StepEnd}
    (takes : run.course.Takes movement run.scenario target count course ending) :
    run.request movement target =
      some (.ok (run.conclude course ending).2, (run.conclude course ending).1) := by
  simp only [request, waits, perform, takes.advance_eq]
  rfl

theorem Run.request_of_ended {outcome : RunOutcome} (ended : run.outcome = some outcome) :
    run.request movement target = some (.error outcome.refusal,
      { run with waiting := run.waiting || outcome.reason?.isNone }) := by
  obtain ⟨id, scenario, course, outcome?, waiting⟩ := run
  obtain rfl : outcome? = some outcome := ended
  cases outcome <;> simp [request, RunOutcome.refusal, RunOutcome.reason?]

theorem Run.errands_cons_eq_some_iff {rest : List (Option Double)} {last : Run μ} :
    run.errands movement (target :: rest) = some (errands, last) ↔
      ∃ answer between later, run.request movement target = some (answer, between) ∧
        between.errands movement rest = some (later, last) ∧
        errands = .atOnce target answer :: later := by
  rw [Run.errands]
  simp only [Option.bind_eq_bind, Option.bind_eq_some_iff]
  constructor
  · rintro ⟨⟨answer, between⟩, met, ⟨later, last'⟩, made, same⟩
    obtain ⟨rfl, rfl⟩ := Prod.mk.inj (Option.some.inj same)
    exact ⟨answer, between, later, met, made, rfl⟩
  · rintro ⟨answer, between, later, met, made, rfl⟩
    exact ⟨(answer, between), met, (later, last), made, rfl⟩

theorem Run.errands_cons {rest : List (Option Double)} {between last : Run μ}
    {answer : Except Error RunEvent} (met : run.request movement target = some (answer, between))
    (made : between.errands movement rest = some (errands, last)) :
    run.errands movement (target :: rest) = some (.atOnce target answer :: errands, last) :=
  errands_cons_eq_some_iff.mpr ⟨answer, between, errands, met, made, rfl⟩

theorem Run.errands_concat_eq_some_iff {targets : List (Option Double)} {last : Run μ} :
    run.errands movement (targets ++ [target]) = some (errands, last) ↔
      ∃ earlier between answer, run.errands movement targets = some (earlier, between) ∧
        between.request movement target = some (answer, last) ∧
        errands = earlier ++ [.atOnce target answer] := by
  induction targets generalizing run errands with
  | nil =>
    rw [List.nil_append, errands_cons_eq_some_iff]
    constructor
    · rintro ⟨answer, between, later, met, made, rfl⟩
      obtain ⟨rfl, rfl⟩ := Prod.mk.inj (Option.some.inj made)
      exact ⟨[], run, answer, rfl, met, rfl⟩
    · rintro ⟨earlier, between, answer, made, met, rfl⟩
      obtain ⟨rfl, rfl⟩ := Prod.mk.inj (Option.some.inj made)
      exact ⟨answer, last, [], met, rfl, rfl⟩
  | cons first rest ih =>
    rw [List.cons_append, errands_cons_eq_some_iff]
    constructor
    · rintro ⟨answer, between, later, met, made, rfl⟩
      obtain ⟨earlier, between', answer', made', met', rfl⟩ := ih.mp made
      exact ⟨_, between', answer', errands_cons met made', met', rfl⟩
    · rintro ⟨earlier, between, answer, made, met, rfl⟩
      obtain ⟨answer', between', later, met', made', rfl⟩ := errands_cons_eq_some_iff.mp made
      exact ⟨answer', between', _, met', ih.mpr ⟨later, between, answer, made', met, rfl⟩, rfl⟩

theorem Run.map_target_errands {targets : List (Option Double)} {last : Run μ}
    (made : run.errands movement targets = some (errands, last)) :
    errands.map Errand.target = targets := by
  induction targets generalizing run errands with
  | nil =>
    obtain ⟨rfl, rfl⟩ := Prod.mk.inj (Option.some.inj made)
    rfl
  | cons first rest ih =>
    obtain ⟨answer, between, later, -, made', rfl⟩ := errands_cons_eq_some_iff.mp made
    exact congrArg (first :: ·) (ih made')

/-- Where no signal is heeded, a worker that settles each request is a run that meets each of them
at once. -/
theorem Worker.Serves.errands_eq (deaf : movement.IsDeaf)
    (serves : Worker.Serves movement id scenario errands worker) :
    ∃ last, (Run.start movement id scenario).errands movement (errands.map Errand.target) =
        some (errands, last) ∧ last.id = id ∧ last.scenario = scenario ∧
      worker.course = last.course ∧ worker.waiting = last.waiting ∧
      worker.Stands id scenario errands last.outcome := by
  induction serves with
  | starts => exact ⟨_, rfl, rfl, rfl, rfl, rfl, .starts movement id scenario⟩
  | asked target serves tells settled ih =>
    obtain ⟨last, made, rfl, rfl, course, waiting, stands⟩ := ih
    rw [List.map_append]
    cases ended : last.outcome with
    | none =>
      rw [ended] at stands
      obtain ⟨outcome?, served⟩ := stands.exists_served tells settled
      have stands' := stands.served tells served
      rw [stands.ask_eq]
      cases served.meets with
      | step later performs left =>
        rw [Course.signalAll_eq deaf] at left
        rw [stands'.scenario, course, ← left] at performs
        have met := Run.request_of_performs deaf ended performs
        obtain rfl := served.heard
        exact ⟨_, Run.errands_concat_eq_some_iff.mpr ⟨_, last, _, made, met, rfl⟩, rfl, rfl, rfl,
          served.waiting.trans (Bool.or_false _), stands'⟩
    | some outcome =>
      rw [ended] at stands
      rw [Worker.ask_of_exited stands.phase stands.failure] at tells ⊢
      obtain ⟨rfl, signals, rfl⟩ := tells.of_exited stands.phase
      have stands' := stands.refused movement target signals
      have met : last.request movement target = _ := Run.request_of_ended ended
      refine ⟨_, Run.errands_concat_eq_some_iff.mpr ⟨_, last, _, made, met, rfl⟩, rfl, rfl, ?_,
        congrArg (· || _) waiting, ?_⟩
      · exact (Course.signalAll_eq deaf signals _).trans course
      · rw [← ended] at stands'
        exact stands'

/-- In turn, a run that meets each request at once is a worker that settles each of them, if the
movement never waits. -/
theorem Run.exists_serves (deaf : movement.IsDeaf) (ready : ∀ memory, movement.ready memory = true)
    {targets : List (Option Double)} {last : Run μ}
    (made : (Run.start movement id scenario).errands movement targets = some (errands, last)) :
    ∃ worker, Worker.Serves movement id scenario errands worker ∧
      worker.waiting = last.waiting := by
  induction targets using List.reverseRecOn generalizing errands last with
  | nil =>
    obtain ⟨rfl, rfl⟩ := Prod.mk.inj (Option.some.inj made)
    exact ⟨_, .starts, rfl⟩
  | append_singleton targets target ih =>
    obtain ⟨earlier, between, answer, made', met, rfl⟩ := errands_concat_eq_some_iff.mp made
    obtain ⟨worker, serves, -⟩ := ih made'
    obtain ⟨between', again, -, same, course, -, stands⟩ := serves.errands_eq deaf
    rw [map_target_errands made', made'] at again
    obtain ⟨-, rfl⟩ := Prod.mk.inj (Option.some.inj again)
    obtain ⟨heard, after, tells, settled⟩ : ∃ heard after,
        (worker.ask target).2.Tells movement id heard after ∧ after.IsSettled := by
      cases ended : between.outcome with
      | none =>
        rw [ended] at stands
        simp only [request, ended, Option.bind_eq_bind, Option.bind_eq_some_iff] at met
        obtain ⟨⟨after, event⟩, performed, -⟩ := met
        obtain ⟨after', ending, advanced, -⟩ := perform_eq_some_iff.mp performed
        obtain ⟨count, takes⟩ := Course.exists_takes_of_advance advanced
        rw [same, ← course] at takes
        obtain ⟨outcome?, performs⟩ := Course.exists_performs_of_takes ready .begins takes
        exact stands.exists_tells ⟨[], after', outcome?, performs⟩
      | some outcome =>
        rw [ended] at stands
        rw [Worker.ask_of_exited stands.phase stands.failure]
        exact ⟨[], _, .rests _, .inr stands.phase⟩
    have serves' := serves.asked target tells settled
    obtain ⟨last', again, -, -, -, waiting, -⟩ := serves'.errands_eq deaf
    rw [List.map_append, map_target_errands made', List.map_singleton, made] at again
    obtain ⟨errands_eq, rfl⟩ := Prod.mk.inj (Option.some.inj again)
    exact ⟨after, errands_eq ▸ serves', waiting⟩

end Runs

namespace Worker

variable {movement : Movement μ} {run : Nat} {scenario : Scenario} {worker after : Worker μ}
  {heard : List RunEvent} {target : Option Double} {errands : List Errand}

/-- What comes of any further request, and of the parting, once a run has met with some requests. -/
structure Reliable (movement : Movement μ) (run : Nat) (scenario : Scenario)
    (errands : List Errand) (worker : Worker μ) : Prop where
  /-- Before the end of the run a request is accepted, and causes one event. It tells that the step
  has ended, and when, or how the run has ended with it. -/
  accepted : endIn? errands = none → ∀ target, (worker.ask target).1 = .ok () ∧
    ∀ heard after, (worker.ask target).2.Tells movement run heard after → after.IsSettled →
      ∃ signals course outcome?,
        worker.course.Performs movement scenario target signals course outcome? ∧
        outcome? ≠ some .stopped ∧ after.course.world = course.world ∧
        heard = [.ofStep run course.world.time outcome?]
  /-- The request settles, with some signals if need be, just when the step can be made in full. -/
  settles : endIn? errands = none → ∀ target,
    ((∃ heard after, (worker.ask target).2.Tells movement run heard after ∧ after.IsSettled) ↔
      ∃ signals course outcome?,
        worker.course.Performs movement scenario target signals course outcome?)
  /-- So it does if the movement never waits, and the step comes to an end. -/
  settlesAlone : endIn? errands = none → (∀ memory, movement.ready memory = true) → ∀ target,
    worker.course.advance movement scenario target ≠ none →
    ∃ heard after, (worker.ask target).2.Tells movement run heard after ∧ after.IsSettled
  /-- Behind the end a request is refused, and causes none. -/
  refused : ∀ outcome, endIn? errands = some outcome → outcome ≠ .stopped ∧ ∀ target,
    (worker.ask target).1 = .error outcome.refusal ∧ (worker.ask target).2.IsSettled ∧
    ∀ heard after, (worker.ask target).2.Tells movement run heard after → heard = []
  /-- The parting settles, whatever the movement waits for. -/
  parts : ∀ parting, ∃ heard last,
    (Holding.part parting { worker }).worker.Tells movement run heard last ∧ last.IsSettled
  /-- It ends the run if nothing else has. So the end of the run is the last event, and the only one
  of its kind. -/
  parted : ∀ parting heard last,
    (Holding.part parting { worker }).worker.Tells movement run heard last → last.IsSettled →
      heard = (if (endIn? errands).isNone then [.runFinished run .stopped] else []) ∧
      ∃ (times : List Double) (outcome : RunOutcome), heardIn errands ++ heard =
          times.map (.stepFinished run) ++ [.runFinished run outcome] ∧
        last.phase = .exited ∧ ∀ reason, last.failure? = some reason ↔ outcome = .failed reason
  failure : ∀ reason, worker.failure? = some reason ↔ endIn? errands = some (.failed reason)

theorem Stands.parts {outcome? : Option RunOutcome}
    (stands : worker.Stands run scenario errands outcome?) :
    ∃ heard last, (worker.send .stop).Tells movement run heard last ∧ last.IsSettled := by
  cases outcome? with
  | none =>
    refine exists_tells_of_stop stands.phase ?_
    rw [send, stands.empty, List.nil_append]
  | some outcome => exact ⟨[], _, .rests _, .inr stands.phase⟩

theorem Stands.parted {outcome? : Option RunOutcome} {last : Worker μ}
    (stands : worker.Stands run scenario errands outcome?)
    (tells : (worker.send .stop).Tells movement run heard last) (settled : last.IsSettled) :
    heard = (if outcome?.isNone then [.runFinished run .stopped] else []) ∧
    ∃ (times : List Double) (outcome : RunOutcome), heardIn errands ++ heard =
        times.map (.stepFinished run) ++ [.runFinished run outcome] ∧
      last.phase = .exited ∧ ∀ reason, last.failure? = some reason ↔ outcome = .failed reason := by
  obtain ⟨times, before⟩ := stands.heard
  cases outcome? with
  | none =>
    obtain ⟨outcome?, served⟩ := (stands.serving_stop.tells tells).exists_served settled
    have failure := served.failure
    cases served.meets with
    | stop =>
      obtain rfl : heard = [.runFinished run .stopped] := served.heard
      refine ⟨rfl, times, .stopped, ?_, served.phase, fun reason => ?_⟩
      · rw [before, List.append_assoc]
        rfl
      · rw [failure, Option.bind_some, RunOutcome.reason?_eq_some_iff]
  | some outcome =>
    obtain ⟨rfl, signals, rfl⟩ := tells.of_exited stands.phase
    refine ⟨rfl, times, outcome, ?_, stands.phase, fun reason => ?_⟩
    · rw [before, List.append_nil]
      rfl
    · rw [← RunOutcome.reason?_eq_some_iff]
      exact (congrArg (· = some reason) stands.failure).to_iff

theorem Stands.accepts (stands : worker.Stands run scenario errands none)
    (tells : (worker.ask target).2.Tells movement run heard after) (settled : after.IsSettled) :
    ∃ signals course outcome?,
      worker.course.Performs movement scenario target signals course outcome? ∧
      outcome? ≠ some .stopped ∧ after.course.world = course.world ∧
      heard = [.ofStep run course.world.time outcome?] := by
  obtain ⟨outcome?, served⟩ := stands.exists_served tells settled
  cases served.meets with
  | @step _ signals course _ later performs left =>
    have world : after.course.world = course.world := by rw [left, Course.world_signalAll]
    rw [stands.scenario_of_tells tells] at performs
    refine ⟨signals, course, outcome?, performs, performs.ne_stopped, world, ?_⟩
    rw [← world]
    exact served.heard

/-- A request behind the end of the run is refused, and nothing is heard. -/
theorem Stands.refuses {outcome : RunOutcome}
    (stands : worker.Stands run scenario errands (some outcome)) (target : Option Double) :
    (worker.ask target).1 = .error outcome.refusal ∧ (worker.ask target).2.IsSettled ∧
      ∀ heard after, (worker.ask target).2.Tells movement run heard after → heard = [] := by
  rw [ask_of_exited stands.phase stands.failure]
  exact ⟨rfl, .inr stands.phase, fun heard after tells => (tells.of_exited stands.phase).1⟩

/-- Holder and listener of a run can rely on each other, whatever the requests were. -/
theorem Serves.reliable (serves : Serves movement run scenario errands worker) :
    worker.Reliable movement run scenario errands := by
  obtain ⟨outcome?, stands⟩ := serves.exists_stands
  have told := stands.endIn?_eq
  exact {
    accepted := fun open? target => by
      obtain rfl := told.symm.trans open?
      refine ⟨congrArg Prod.fst stands.ask_eq, fun heard after tells settled => ?_⟩
      exact stands.accepts tells settled
    settles := fun open? target => by
      obtain rfl := told.symm.trans open?
      refine ⟨fun settles => ?_, stands.exists_tells⟩
      obtain ⟨heard, after, tells, settled⟩ := settles
      obtain ⟨signals, course, outcome?, performs, -⟩ := stands.accepts tells settled
      exact ⟨signals, course, outcome?, performs⟩
    settlesAlone := fun open? ready target ends => by
      obtain rfl := told.symm.trans open?
      obtain ⟨⟨last, ending⟩, advanced⟩ := Option.ne_none_iff_exists'.mp ends
      obtain ⟨count, takes⟩ := Course.exists_takes_of_advance advanced
      obtain ⟨outcome?, performs⟩ := Course.exists_performs_of_takes ready .begins takes
      exact stands.exists_tells ⟨[], last, outcome?, performs⟩
    refused := fun outcome ended => by
      obtain rfl := told.symm.trans ended
      refine ⟨fun forced => stands.unforced (congrArg some forced), stands.refuses⟩
    parts := fun parting => by
      rw [Holding.worker_part]
      exact stands.parts
    parted := fun parting heard last tells settled => by
      rw [Holding.worker_part] at tells
      rw [told]
      exact stands.parted tells settled
    failure := fun reason => by
      rw [told, stands.failure, Option.bind_eq_some_iff]
      simp [RunOutcome.reason?_eq_some_iff] }

/-- A run whose second update breaks off. -/
private def stumbling : Movement Nat where
  start _ := 0
  update count world _ :=
    { memory := count + 1, world, fault := if count = 1 then some (.panic none) else none }

private def hall : Scenario where
  name := "hall"
  stepLength := .ofNat 1
  finishTime := .ofNat 60

/-- One step, one that breaks off, and one that is refused. -/
theorem Serves.reliable_hall :
    ∃ errands worker, Serves stumbling 7 hall errands worker ∧ errands.length = 3 ∧
      endIn? errands = some (.failed "model panicked") ∧
      worker.Reliable stumbling 7 hall errands := by
  have deaf : stumbling.IsDeaf := fun _ _ => rfl
  obtain ⟨errands, last, made, three, ended⟩ : ∃ errands last,
      (Run.start stumbling 7 hall).errands stumbling [none, some (.ofNat 9), none] =
        some (errands, last) ∧ errands.length = 3 ∧
      endIn? errands = some (.failed "model panicked") :=
    ⟨_, _, Run.errands_cons (Run.request_of_takes rfl (.pauses rfl (by decide +kernel) rfl))
      (Run.errands_cons (Run.request_of_takes rfl (.fails rfl))
        (Run.errands_cons (Run.request_of_ended rfl) rfl)), rfl, rfl⟩
  obtain ⟨worker, serves, -⟩ := Run.exists_serves deaf (fun _ => rfl) made
  exact ⟨errands, worker, serves, three, ended, serves.reliable⟩

/-- The worker says that it waits as long as it does, that is up to the end of the run. But in a run
that has reached its finish time it says so again once a request has been refused. -/
theorem Serves.waiting_iff (serves : Serves movement run scenario errands worker) :
    (worker.phase = .idle ∧ worker.queue = [] ↔ endIn? errands = none) ∧
      (worker.waiting = true ↔ endIn? errands = none ∨
        endIn? errands = some .completed ∧ ∃ errand ∈ errands, errand.isRefused = true) := by
  obtain ⟨outcome?, stands⟩ := serves.exists_stands
  rw [stands.endIn?_eq]
  refine ⟨?_, stands.waiting⟩
  cases outcome? with
  | none => exact iff_of_true ⟨stands.phase, stands.empty⟩ rfl
  | some outcome =>
    refine iff_of_false (fun rests => ?_) nofun
    cases rests.1.symm.trans stands.phase

/-- A run of one step. -/
private def dash : Scenario where
  name := "a"
  stepLength := .ofNat 1
  finishTime := .ofNat 1

/-- The only step ends the run, and another request is refused. -/
private theorem exists_errands_dash :
    ∃ errands last, (Run.start .constantVelocity 1 dash).errands .constantVelocity [none, none] =
        some (errands, last) ∧ endIn? errands = some .completed ∧
      (∃ errand ∈ errands, errand.isRefused = true) ∧ last.waiting = true :=
  ⟨_, _, Run.errands_cons (Run.request_of_takes rfl (.completes rfl (by decide +kernel)))
    (Run.errands_cons (Run.request_of_ended rfl) rfl), rfl,
    ⟨_, List.mem_cons_of_mem _ List.mem_cons_self, rfl⟩, rfl⟩

/-- The only step, and a request that is refused. -/
theorem Serves.waiting_iff_dash :
    ∃ errands worker, Serves .constantVelocity 1 dash errands worker ∧
      endIn? errands = some .completed ∧ ¬(worker.phase = .idle ∧ worker.queue = []) ∧
      worker.waiting = true := by
  have deaf : Movement.constantVelocity.IsDeaf := fun _ _ => rfl
  obtain ⟨errands, last, made, ended, refused, -⟩ := exists_errands_dash
  obtain ⟨worker, serves, -⟩ := Run.exists_serves deaf (fun _ => rfl) made
  obtain ⟨rests, waiting⟩ := serves.waiting_iff
  refine ⟨errands, worker, serves, ended, ?_, waiting.mpr (.inr ⟨ended, refused⟩)⟩
  rw [rests, ended]
  exact nofun

/-- So the flag does not tell whether the run has ended. -/
theorem Serves.not_waiting_iff_endIn?_eq_none :
    ¬∀ errands worker, Serves .constantVelocity 1 dash errands worker →
      (worker.waiting = true ↔ endIn? errands = none) := by
  intro told
  have deaf : Movement.constantVelocity.IsDeaf := fun _ _ => rfl
  obtain ⟨errands, last, made, ended, -, waits⟩ := exists_errands_dash
  obtain ⟨worker, serves, waiting⟩ := Run.exists_serves deaf (fun _ => rfl) made
  cases ended.symm.trans ((told errands worker serves).mp (waiting.trans waits))

end Worker

end RemoteCrowd
