import RemoteCrowd.Session.Shared

/-!
What single actions do. Workers and the holder of the lock each go on in one of a few ways,
and these are listed here once, with the conditions under which they are possible. Whatever
is shown of all interleavings is shown way by way.
-/

namespace RemoteCrowd

namespace Worker

variable {μ : Type}

/-- The ways in which a worker goes on, and what it reports then. -/
inductive Goes (movement : Movement μ) (worker : Worker μ) : Worker μ → Option Report → Prop where
  | begins {target : Option Double} {rest : List Request} (idle : worker.phase = .idle)
    (asked : worker.queue = .step target :: rest) :
    Goes movement worker { worker with queue := rest, phase := .stepping target } none
  | stops {rest : List Request} (idle : worker.phase = .idle)
    (asked : worker.queue = .stop :: rest) :
    Goes movement worker
      { worker with queue := rest, phase := .reporting (.runFinished .stopped) } none
  | updates {target : Option Double} (stepping : worker.phase = .stepping target)
    (ready : movement.ready worker.course.memory = true) :
    Goes movement worker (worker.update movement target) none
  | reports {report : Report} (reporting : worker.phase = .reporting report) :
    Goes movement worker (worker.reported report) (some report)
  | exits (leaving : worker.phase = .leaving) :
    Goes movement worker { worker with phase := .exited } none

theorem next?_eq_some_iff {movement : Movement μ} {worker after : Worker μ}
    {report? : Option Report} :
    worker.next? movement = some (after, report?) ↔ worker.Goes movement after report? := by
  constructor
  · intro next
    unfold next? at next
    split at next
    · next idle =>
      split at next
      · cases next
      · next asked =>
        obtain ⟨rfl, rfl⟩ := Prod.mk.inj (Option.some.inj next)
        exact .begins idle asked
      · next asked =>
        obtain ⟨rfl, rfl⟩ := Prod.mk.inj (Option.some.inj next)
        exact .stops idle asked
    · next stepping =>
      split at next
      · next ready =>
        obtain ⟨rfl, rfl⟩ := Prod.mk.inj (Option.some.inj next)
        exact .updates stepping ready
      · cases next
    · next reporting =>
      obtain ⟨rfl, rfl⟩ := Prod.mk.inj (Option.some.inj next)
      exact .reports reporting
    · next leaving =>
      obtain ⟨rfl, rfl⟩ := Prod.mk.inj (Option.some.inj next)
      exact .exits leaving
    · cases next
  · intro goes
    cases goes with
    | begins idle asked => simp only [next?, idle, asked]
    | stops idle asked => simp only [next?, idle, asked]
    | updates stepping ready => simp only [next?, stepping, ready, if_true]
    | reports reporting => simp only [next?, reporting]
    | exits leaving => simp only [next?, leaving]

/-- How an update leaves a worker: the step goes on, or it has ended and will be reported. -/
inductive Updated (target : Option Double) (failure? : Option String) :
    Phase → Option String → Prop where
  | ahead : Updated target failure? (.stepping target) failure?
  | paused : Updated target failure? (.reporting .stepFinished) failure?
  | completed : Updated target failure? (.reporting (.runFinished .completed)) failure?
  | failed (reason : String) :
    Updated target failure? (.reporting (.runFinished (.failed reason))) (some reason)

theorem updated_update (movement : Movement μ) {target : Option Double} {worker : Worker μ}
    (stepping : worker.phase = .stepping target) :
    Updated target worker.failure? (worker.update movement target).phase
      (worker.update movement target).failure? := by
  unfold update
  split
  · exact .failed _
  · split
    · exact .completed
    · split
      · simp only [stepping]
        exact .ahead
      · exact .paused

@[simp] theorem queue_update (movement : Movement μ) (target : Option Double)
    (worker : Worker μ) : (worker.update movement target).queue = worker.queue := by
  unfold update
  split
  · rfl
  · split
    · rfl
    · split <;> rfl

end Worker

/-- The slot behind what a worker does. -/
def Slot.heard (slot : Slot) (run : Nat) : Option Report → Slot
  | some report => slot.note run report
  | none => slot

theorem Slot.heard_of_ne {slot : Slot} {run : Nat} (other : slot.runId ≠ run)
    (report? : Option Report) : slot.heard run report? = slot := by
  cases report? with
  | none => rfl
  | some report => exact if_neg other

@[simp] theorem Slot.runId_heard (slot : Slot) (run : Nat) (report? : Option Report) :
    (slot.heard run report?).runId = slot.runId := by
  cases report? with
  | none => rfl
  | some report =>
    unfold heard note
    simp only
    split
    · cases report with
      | stepFinished => simp only; split <;> rfl
      | runFinished outcome => rfl
    · rfl

namespace SharedSession

variable {μ : Type}

theorem worker?_eq_some_iff {session : SharedSession μ} {run : Nat} {worker : Worker μ} :
    session.worker? run = some worker ↔
      run ≠ 0 ∧ session.workers[run - 1]? = some (some worker) := by
  unfold worker?
  split
  · simp_all
  · rw [Option.join_eq_some_iff]
    simp_all

theorem pos_of_worker? {session : SharedSession μ} {run : Nat} {worker : Worker μ}
    (found : session.worker? run = some worker) : run ≠ 0 :=
  (worker?_eq_some_iff.mp found).1

/-- Runs have started already. -/
theorem lt_nextId_of_worker? {session : SharedSession μ} {run : Nat} {worker : Worker μ}
    (found : session.worker? run = some worker) : run < session.nextId := by
  obtain ⟨positive, found⟩ := worker?_eq_some_iff.mp found
  have short := (List.getElem?_eq_some_iff.mp found).1
  unfold nextId
  omega

/-- The next run has no worker yet. -/
theorem worker?_nextId (session : SharedSession μ) : session.worker? session.nextId = none := by
  cases found : session.worker? session.nextId with
  | none => rfl
  | some worker => exact absurd (lt_nextId_of_worker? found) (Nat.lt_irrefl _)

/-- Behind the announcement of a run, this run has the worker that was started for it, if any. -/
@[simp] theorem worker?_addWorker_self (session : SharedSession μ) (worker? : Option (Worker μ)) :
    (session.addWorker worker?).worker? session.nextId = worker? := by
  have positive : session.nextId ≠ 0 := Nat.succ_ne_zero _
  have last : session.nextId - 1 = session.workers.length := rfl
  simp only [SharedSession.worker?, addWorker, if_neg positive, last, List.getElem?_concat_length,
    Option.join_some]

theorem worker?_addWorker_of_ne {session : SharedSession μ} {run : Nat}
    (other : run ≠ session.nextId) (worker? : Option (Worker μ)) :
    (session.addWorker worker?).worker? run = session.worker? run := by
  unfold SharedSession.worker?
  split
  · rfl
  · simp only [nextId] at other
    rw [addWorker, List.getElem?_append]
    split
    · rfl
    · next late =>
      have past : session.workers.length < run - 1 := by omega
      rw [List.getElem?_eq_none (by simpa using by omega), List.getElem?_eq_none (by omega)]

@[simp] theorem nextId_addWorker (session : SharedSession μ) (worker? : Option (Worker μ)) :
    (session.addWorker worker?).nextId = session.nextId + 1 := by
  simp [nextId, addWorker]

@[simp] theorem worker?_setWorker_self {session : SharedSession μ} {run : Nat}
    {worker : Worker μ} (found : session.worker? run = some worker) (after : Worker μ) :
    (session.setWorker run after).worker? run = some after := by
  obtain ⟨positive, found⟩ := worker?_eq_some_iff.mp found
  have short := (List.getElem?_eq_some_iff.mp found).1
  refine worker?_eq_some_iff.mpr ⟨positive, ?_⟩
  rw [setWorker, List.getElem?_set_self short]

theorem worker?_setWorker_of_ne {session : SharedSession μ} {run other : Nat} (positive : run ≠ 0)
    (different : other ≠ run) (after : Worker μ) :
    (session.setWorker run after).worker? other = session.worker? other := by
  unfold worker?
  split
  · rfl
  · have apart : run - 1 ≠ other - 1 := by omega
    rw [setWorker, List.getElem?_set_ne apart]

@[simp] theorem nextId_setWorker (session : SharedSession μ) (run : Nat) (worker : Worker μ) :
    (session.setWorker run worker).nextId = session.nextId := by
  rw [nextId, setWorker, List.length_set]
  rfl

@[simp] theorem holder_setWorker (session : SharedSession μ) (run : Nat) (worker : Worker μ) :
    (session.setWorker run worker).holder = session.holder := rfl

/-- The session in which a worker has gone on, and the slot has heard what it reported. -/
def worked (session : SharedSession μ) (run : Nat) (after : Worker μ)
    (report? : Option Report) : SharedSession μ :=
  (session.setWorker run after).hear run report?

/-- The stage of the holder of the lock behind what a worker reports. -/
def wokenBy (session : SharedSession μ) (run : Nat) (report? : Option Report) (stage : Stage) :
    Stage :=
  if report?.isSome then stage.wokenBy run session.slot else stage

section worked

variable (session : SharedSession μ) (run : Nat) (after : Worker μ) (report? : Option Report)

@[simp] theorem slot_worked :
    (session.worked run after report?).slot = session.slot.heard run report? := by
  cases report? <;> rfl

@[simp] theorem current_worked :
    (session.worked run after report?).current = session.current := by
  cases report? <;> rfl

@[simp] theorem workers_worked :
    (session.worked run after report?).workers = (session.setWorker run after).workers := by
  cases report? <;> rfl

theorem holder_worked :
    (session.worked run after report?).holder =
      session.holder.map (session.wokenBy run report?) := by
  cases report? with
  | none =>
    show session.holder = _
    cases session.holder <;> rfl
  | some report => rfl

@[simp] theorem worker?_worked (other : Nat) :
    (session.worked run after report?).worker? other =
      (session.setWorker run after).worker? other := by
  cases report? <;> rfl

@[simp] theorem nextId_worked :
    (session.worked run after report?).nextId = session.nextId := by
  rw [nextId, workers_worked]
  exact nextId_setWorker session run after

end worked

/-- A report wakes a sleeper of the run that the slot speaks of, and does nothing else to the
holder of the lock. -/
theorem wokenBy_cases (session : SharedSession μ) (run : Nat) (report? : Option Report)
    (stage : Stage) :
    session.wokenBy run report? stage = stage ∨
      ∃ own change, stage = .asleep own change ∧ session.slot.runId = run ∧
        report?.isSome = true ∧ session.wokenBy run report? stage = .checking own change := by
  unfold wokenBy Stage.wokenBy
  split
  · next reports =>
    split
    · next own change =>
      split
      · next own' => exact .inr ⟨own, change, rfl, own', reports, rfl⟩
      · exact .inl rfl
    · exact .inl rfl
  · exact .inl rfl

/-- Nobody else is woken. -/
theorem wokenBy_of_awake {stage : Stage} (awake : ∀ own change, stage ≠ .asleep own change)
    (session : SharedSession μ) (run : Nat) (report? : Option Report) :
    session.wokenBy run report? stage = stage := by
  obtain same | ⟨own, change, asleep, -⟩ := session.wokenBy_cases run report? stage
  · exact same
  · exact absurd asleep (awake own change)

/-- Nobody is woken by a run that the slot does not speak of. -/
theorem holder_worked_of_apart {session : SharedSession μ} {run : Nat}
    (apart : ∀ own change, session.holder = some (.asleep own change) → session.slot.runId ≠ run)
    (after : Worker μ) (report? : Option Report) :
    (session.worked run after report?).holder = session.holder := by
  rw [holder_worked]
  cases holding : session.holder with
  | none => rfl
  | some stage =>
    obtain same | ⟨own, change, rfl, speaks, -⟩ := session.wokenBy_cases run report? stage
    · exact congrArg some same
    · exact absurd speaks (apart own change holding)

theorem work?_eq_some_iff {movement : Movement μ} {run : Nat} {session after : SharedSession μ} :
    session.work? movement run = some after ↔
      ∃ worker worker' report?, session.worker? run = some worker ∧
        worker.Goes movement worker' report? ∧ after = session.worked run worker' report? := by
  simp only [work?, Option.bind_eq_bind, Option.bind_eq_some_iff, ← Worker.next?_eq_some_iff]
  constructor
  · intro worked
    obtain ⟨worker, found, ⟨worker', report?⟩, next, made⟩ := worked
    obtain rfl := Option.some.inj made
    exact ⟨worker, worker', report?, found, next, rfl⟩
  · intro worked
    obtain ⟨worker, worker', report?, found, next, rfl⟩ := worked
    exact ⟨worker, found, ⟨worker', report?⟩, next, rfl⟩

theorem signal?_eq_some_iff {movement : Movement μ} {run : Nat} {isOpen : Bool}
    {session after : SharedSession μ} :
    session.signal? movement run isOpen = some after ↔
      ∃ worker, session.worker? run = some worker ∧
        after = session.setWorker run (worker.signal movement isOpen) := by
  simp only [signal?, Option.bind_eq_bind, Option.bind_eq_some_iff]
  constructor
  · intro signalled
    obtain ⟨worker, found, made⟩ := signalled
    exact ⟨worker, found, (Option.some.inj made).symm⟩
  · intro signalled
    obtain ⟨worker, found, rfl⟩ := signalled
    exact ⟨worker, found, rfl⟩

/-- The ways in which the holder of the lock goes on, by the stage it has come to. -/
inductive Proceeds (movement : Movement μ) (session : SharedSession μ) :
    Stage → SharedSession μ → Option Answer → Prop where
  | loadsFirst {scenario : Scenario} (empty : session.current = none) :
    Proceeds movement session (.entered (.load scenario))
      (session.goTo (.announcing scenario)) none
  | loadsNext {scenario : Scenario} {run : Nat} (present : session.current = some run) :
    Proceeds movement session (.entered (.load scenario))
      (({ session with current := none }).goTo (.stopping run (some scenario))) none
  | stepsNowhere {target : Option Double} (empty : session.current = none) :
    Proceeds movement session (.entered (.step target))
      (session.goTo (.leaving (.refused (.access .noScenario)))) none
  | stepRefused {target : Option Double} {run : Nat} {cause : Error}
    (present : session.current = some run) (refused : session.slot.beginStep run = .error cause) :
    Proceeds movement session (.entered (.step target))
      (session.goTo (.leaving (.refused cause))) none
  | stepBegins {target : Option Double} {run : Nat} {slot : Slot}
    (present : session.current = some run) (begun : session.slot.beginStep run = .ok slot) :
    Proceeds movement session (.entered (.step target))
      (({ session with slot }).goTo (.requesting run target)) none
  | looksNowhere {change : World → World} (empty : session.current = none) :
    Proceeds movement session (.entered (.access change))
      (session.goTo (.leaving (.refused (.access .noScenario)))) none
  | looks {change : World → World} {run : Nat} (present : session.current = some run) :
    Proceeds movement session (.entered (.access change))
      (session.goTo (.checking run change)) none
  | fallsAsleep {change : World → World} {run : Nat} (busy : session.slot.stepEnd? run = none) :
    Proceeds movement session (.checking run change) (session.goTo (.asleep run change)) none
  | lookRefused {change : World → World} {run : Nat} {cause : Error}
    (ended : session.slot.stepEnd? run = some (.error cause)) :
    Proceeds movement session (.checking run change)
      (session.goTo (.leaving (.refused cause))) none
  | lookBegins {change : World → World} {run : Nat}
    (ended : session.slot.stepEnd? run = some (.ok ())) :
    Proceeds movement session (.checking run change)
      (session.goTo (.handling run change)) none
  | closesNothing (empty : session.current = none) :
    Proceeds movement session (.entered .close) (session.goTo (.leaving .done)) none
  | closes {run : Nat} (present : session.current = some run) :
    Proceeds movement session (.entered .close)
      (({ session with current := none, slot := {} }).goTo (.stopping run none)) none
  | tells {run : Nat} {scenario? : Option Scenario} {worker : Worker μ}
    (found : session.worker? run = some worker) :
    Proceeds movement session (.stopping run scenario?)
      ((session.setWorker run (worker.send .stop)).goTo (.parting run scenario?)) none
  | awaits {run : Nat} {scenario? : Option Scenario} {worker : Worker μ}
    (found : session.worker? run = some worker)
    (idle : (worker.waiting || worker.phase = .exited) = true) :
    Proceeds movement session (.parting run scenario?)
      (session.goTo (.joining run scenario?)) none
  | detaches {run : Nat} {scenario? : Option Scenario} {worker : Worker μ}
    (found : session.worker? run = some worker)
    (busy : (worker.waiting || worker.phase = .exited) = false) :
    Proceeds movement session (.parting run scenario?)
      (session.goTo (afterParting scenario?)) none
  | joins {run : Nat} {scenario? : Option Scenario} {worker : Worker μ}
    (found : session.worker? run = some worker) (exited : worker.phase = .exited) :
    Proceeds movement session (.joining run scenario?) (session.goTo (afterParting scenario?)) none
  | announces {scenario : Scenario} :
    Proceeds movement session (.announcing scenario)
      (({ session with slot := ⟨session.nextId, .loadedIdle⟩ }).goTo
        (.starting session.nextId scenario)) none
  | starts {run : Nat} {scenario : Scenario} :
    Proceeds movement session (.starting run scenario)
      (({ session.addWorker (some (.start movement scenario)) with current := some run }).goTo
        (.leaving .done)) none
  | requests {run : Nat} {target : Option Double} {worker : Worker μ}
    (found : session.worker? run = some worker) :
    Proceeds movement session (.requesting run target) (session.requestStep run target worker) none
  | aborts {run : Nat} {cause : Error} :
    Proceeds movement session (.aborting run cause)
      (({ session with slot := session.slot.abortStep run }).goTo (.leaving (.refused cause))) none
  | handles {run : Nat} {change : World → World} {worker : Worker μ}
    (found : session.worker? run = some worker) :
    Proceeds movement session (.handling run change)
      ((session.setWorker run
        { worker with course := worker.course.change change }).goTo
          (.leaving (.seen worker.course.world))) none
  | leaves {answer : Answer} :
    Proceeds movement session (.leaving answer) { session with holder := none } (some answer)

theorem proceeds_enterCall (movement : Movement μ) (session : SharedSession μ) (call : Call) :
    Proceeds movement session (.entered call) (session.enterCall call) none := by
  cases call with
  | load scenario =>
    simp only [enterCall]
    split
    · next empty => exact .loadsFirst empty
    · next present => exact .loadsNext present
  | step target =>
    simp only [enterCall]
    split
    · next empty => exact .stepsNowhere empty
    · next present =>
      split
      · next refused => exact .stepRefused present refused
      · next begun => exact .stepBegins present begun
  | access change =>
    simp only [enterCall]
    split
    · next empty => exact .looksNowhere empty
    · next present => exact .looks present
  | close =>
    simp only [enterCall]
    split
    · next empty => exact .closesNothing empty
    · next present => exact .closes present

theorem proceeds_checkStep (movement : Movement μ) (session : SharedSession μ) (run : Nat)
    (change : World → World) :
    Proceeds movement session (.checking run change) (session.checkStep run change) none := by
  unfold checkStep
  split
  · next busy => exact .fallsAsleep busy
  · next ended => exact .lookRefused ended
  · next ended => exact .lookBegins ended

theorem proceeds_of_proceed? {movement : Movement μ} {session after : SharedSession μ}
    {answer? : Option Answer} (proceeded : session.proceed? movement = some (after, answer?)) :
    ∃ stage, session.holder = some stage ∧ Proceeds movement session stage after answer? := by
  unfold proceed? at proceeded
  split at proceeded
  · cases proceeded
  · next call entered =>
    obtain ⟨rfl, rfl⟩ := Prod.mk.inj (Option.some.inj proceeded)
    exact ⟨_, entered, proceeds_enterCall movement session call⟩
  · next stopping =>
    obtain ⟨worker, found, made⟩ := Option.bind_eq_some_iff.mp proceeded
    obtain ⟨rfl, rfl⟩ := Prod.mk.inj (Option.some.inj made)
    exact ⟨_, stopping, .tells found⟩
  · next parting =>
    obtain ⟨worker, found, made⟩ := Option.bind_eq_some_iff.mp proceeded
    split at made
    · next idle =>
      obtain ⟨rfl, rfl⟩ := Prod.mk.inj (Option.some.inj made)
      exact ⟨_, parting, .awaits found idle⟩
    · next busy =>
      obtain ⟨rfl, rfl⟩ := Prod.mk.inj (Option.some.inj made)
      exact ⟨_, parting, .detaches found (Bool.not_eq_true _ ▸ busy)⟩
  · next joining =>
    obtain ⟨worker, found, made⟩ := Option.bind_eq_some_iff.mp proceeded
    split at made
    · next exited =>
      obtain ⟨rfl, rfl⟩ := Prod.mk.inj (Option.some.inj made)
      exact ⟨_, joining, .joins found exited⟩
    · cases made
  · next announcing =>
    obtain ⟨rfl, rfl⟩ := Prod.mk.inj (Option.some.inj proceeded)
    exact ⟨_, announcing, .announces⟩
  · next starting =>
    obtain ⟨rfl, rfl⟩ := Prod.mk.inj (Option.some.inj proceeded)
    exact ⟨_, starting, .starts⟩
  · next requesting =>
    obtain ⟨worker, found, made⟩ := Option.bind_eq_some_iff.mp proceeded
    obtain ⟨rfl, rfl⟩ := Prod.mk.inj (Option.some.inj made)
    exact ⟨_, requesting, .requests found⟩
  · next aborting =>
    obtain ⟨rfl, rfl⟩ := Prod.mk.inj (Option.some.inj proceeded)
    exact ⟨_, aborting, .aborts⟩
  · next run change checking =>
    obtain ⟨rfl, rfl⟩ := Prod.mk.inj (Option.some.inj proceeded)
    exact ⟨_, checking, proceeds_checkStep movement session run change⟩
  · cases proceeded
  · next handling =>
    obtain ⟨worker, found, made⟩ := Option.bind_eq_some_iff.mp proceeded
    obtain ⟨rfl, rfl⟩ := Prod.mk.inj (Option.some.inj made)
    exact ⟨_, handling, .handles found⟩
  · next leaving =>
    obtain ⟨rfl, rfl⟩ := Prod.mk.inj (Option.some.inj proceeded)
    exact ⟨_, leaving, .leaves⟩

/-- One action of whoever acts. -/
inductive Acts (movement : Movement μ) (session : SharedSession μ) :
    Action → SharedSession μ → Option Answer → Prop where
  | enters {call : Call} (free : session.holder = none) :
    Acts movement session (.enter call) (session.goTo (.entered call)) none
  | proceeds {stage : Stage} {after : SharedSession μ} {answer? : Option Answer}
    (holding : session.holder = some stage)
    (proceeds : Proceeds movement session stage after answer?) :
    Acts movement session .proceed after answer?
  | fails {run : Nat} {scenario : Scenario} {reason : String}
    (starting : session.holder = some (.starting run scenario)) :
    Acts movement session (.fail reason)
      (({ session.addWorker none with slot := {} }).goTo
        (.leaving (.refused (threadError reason)))) none
  | breaksOff {run : Nat} {scenario : Scenario}
    (starting : session.holder = some (.starting run scenario)) :
    Acts movement session .breakOff ((session.addWorker none).goTo (.leaving .brokenOff)) none
  | works {run : Nat} {worker worker' : Worker μ} {report? : Option Report}
    (found : session.worker? run = some worker) (goes : worker.Goes movement worker' report?) :
    Acts movement session (.work run) (session.worked run worker' report?) none
  | signals {run : Nat} {isOpen : Bool} {worker : Worker μ}
    (found : session.worker? run = some worker) :
    Acts movement session (.signal run isOpen)
      (session.setWorker run (worker.signal movement isOpen)) none

theorem acts_of_act? {movement : Movement μ} {session after : SharedSession μ} {action : Action}
    {answer? : Option Answer} (acted : session.act? movement action = some (after, answer?)) :
    Acts movement session action after answer? := by
  cases action with
  | enter call =>
    simp only [act?] at acted
    split at acted
    · next free =>
      obtain ⟨rfl, rfl⟩ := Prod.mk.inj (Option.some.inj acted)
      exact .enters free
    · cases acted
  | proceed =>
    obtain ⟨stage, holding, proceeds⟩ := proceeds_of_proceed? acted
    exact .proceeds holding proceeds
  | fail reason =>
    obtain ⟨later, failed, made⟩ := Option.bind_eq_some_iff.mp acted
    obtain ⟨rfl, rfl⟩ := Prod.mk.inj (Option.some.inj made)
    unfold fail? at failed
    split at failed
    · next starting =>
      obtain rfl := Option.some.inj failed
      exact .fails starting
    · cases failed
  | breakOff =>
    obtain ⟨later, broken, made⟩ := Option.bind_eq_some_iff.mp acted
    obtain ⟨rfl, rfl⟩ := Prod.mk.inj (Option.some.inj made)
    unfold breakOff? at broken
    split at broken
    · next starting =>
      obtain rfl := Option.some.inj broken
      exact .breaksOff starting
    · cases broken
  | work run =>
    obtain ⟨later, worked, made⟩ := Option.bind_eq_some_iff.mp acted
    obtain ⟨rfl, rfl⟩ := Prod.mk.inj (Option.some.inj made)
    obtain ⟨worker, worker', report?, found, goes, rfl⟩ := work?_eq_some_iff.mp worked
    exact .works found goes
  | signal run isOpen =>
    obtain ⟨later, signalled, made⟩ := Option.bind_eq_some_iff.mp acted
    obtain ⟨rfl, rfl⟩ := Prod.mk.inj (Option.some.inj made)
    obtain ⟨worker, found, rfl⟩ := signal?_eq_some_iff.mp signalled
    exact .signals found

/-- Each of these ways is open wherever its conditions hold. -/
theorem proceed?_of_proceeds {movement : Movement μ} {session after : SharedSession μ}
    {stage : Stage} {answer? : Option Answer} (holding : session.holder = some stage)
    (proceeds : Proceeds movement session stage after answer?) :
    session.proceed? movement = some (after, answer?) := by
  unfold proceed?
  cases proceeds with
  | loadsFirst empty | stepsNowhere empty | looksNowhere empty | closesNothing empty =>
    simp [holding, enterCall, empty]
  | loadsNext present | closes present => simp [holding, enterCall, present]
  | stepRefused present refused => simp [holding, enterCall, present, refused]
  | stepBegins present begun => simp [holding, enterCall, present, begun]
  | looks present => simp [holding, enterCall, present]
  | fallsAsleep ended | lookRefused ended | lookBegins ended => simp [holding, checkStep, ended]
  | tells found | requests found | handles found => simp [holding, found]
  | awaits found idle =>
    simp only [holding, found, Option.bind_eq_bind, Option.bind_some, idle, if_true]
    rfl
  | detaches found busy =>
    simp only [holding, found, Option.bind_eq_bind, Option.bind_some, busy]
    rfl
  | joins found exited => simp [holding, found, exited]
  | announces | starts | aborts | leaves => simp [holding]

theorem act?_eq_some_iff {movement : Movement μ} {session after : SharedSession μ}
    {action : Action} {answer? : Option Answer} :
    session.act? movement action = some (after, answer?) ↔
      Acts movement session action after answer? := by
  constructor
  · exact acts_of_act?
  · intro acts
    cases acts with
    | enters free => simp [act?, free]
    | proceeds holding proceeds => exact proceed?_of_proceeds holding proceeds
    | fails starting => simp [act?, fail?, starting]
    | breaksOff starting => simp [act?, breakOff?, starting]
    | works found goes =>
      simp [act?, work?_eq_some_iff.mpr ⟨_, _, _, found, goes, rfl⟩]
    | @signals run isOpen worker found =>
      have signalled : session.signal? movement run isOpen =
          some (session.setWorker run (worker.signal movement isOpen)) :=
        signal?_eq_some_iff.mpr ⟨worker, found, rfl⟩
      simp [act?, signalled]

theorem run?_cons_eq_some_iff {movement : Movement μ} {session last : SharedSession μ}
    {action : Action} {rest : List Action} {answers : List Answer} :
    run? movement (action :: rest) session = some (last, answers) ↔
      ∃ after answer? later, session.act? movement action = some (after, answer?) ∧
        run? movement rest after = some (last, later) ∧ answers = answer?.toList ++ later := by
  simp only [run?, Option.bind_eq_bind, Option.bind_eq_some_iff]
  constructor
  · intro ran
    obtain ⟨⟨after, answer?⟩, acted, ⟨last', later⟩, ran, made⟩ := ran
    obtain ⟨rfl, rfl⟩ := Prod.mk.inj (Option.some.inj made)
    exact ⟨after, answer?, later, acted, ran, rfl⟩
  · intro ran
    obtain ⟨after, answer?, later, acted, ran, rfl⟩ := ran
    exact ⟨(after, answer?), acted, (last, later), ran, rfl⟩

theorem run?_cons_of_acts {movement : Movement μ} {session after last : SharedSession μ}
    {action : Action} {answer? : Option Answer} {rest : List Action} {answers : List Answer}
    (acts : Acts movement session action after answer?)
    (ran : run? movement rest after = some (last, answers)) :
    run? movement (action :: rest) session = some (last, answer?.toList ++ answers) :=
  run?_cons_eq_some_iff.mpr ⟨after, answer?, answers, act?_eq_some_iff.mpr acts, ran, rfl⟩

theorem run?_append {movement : Movement μ} {session between last : SharedSession μ}
    {earlier later : List Action} {answers answers' : List Answer}
    (ran : run? movement earlier session = some (between, answers))
    (ranLater : run? movement later between = some (last, answers')) :
    run? movement (earlier ++ later) session = some (last, answers ++ answers') := by
  induction earlier generalizing session answers with
  | nil =>
    obtain ⟨rfl, rfl⟩ := Prod.mk.inj (Option.some.inj ran)
    exact ranLater
  | cons action rest ih =>
    obtain ⟨after, answer?, given, acted, ranRest, rfl⟩ := run?_cons_eq_some_iff.mp ran
    rw [List.append_assoc]
    exact run?_cons_of_acts (acts_of_act? acted) (ih ranRest)

/-- What the empty history says of the session at its start, and each action keeps, the history
of a run says of the session at its end. -/
theorem run?_history {movement : Movement μ} {initial : SharedSession μ}
    (Kept : List Action → List Answer → SharedSession μ → Prop) (start : Kept [] [] initial)
    (step : ∀ actions answers session action after answer?, Kept actions answers session →
      Acts movement session action after answer? →
      Kept (actions ++ [action]) (answers ++ answer?.toList) after)
    {actions : List Action} {session : SharedSession μ} {answers : List Answer}
    (ran : run? movement actions initial = some (session, answers)) :
    Kept actions answers session := by
  have extends_history (past : List Action) (given : List Answer) (between : SharedSession μ)
      (kept : Kept past given between) (rest : List Action) (later : List Answer)
      (ran : run? movement rest between = some (session, later)) :
      Kept (past ++ rest) (given ++ later) session := by
    induction rest generalizing past given between later with
    | nil =>
      obtain ⟨rfl, rfl⟩ := Prod.mk.inj (Option.some.inj ran)
      rwa [List.append_nil, List.append_nil]
    | cons action rest ih =>
      obtain ⟨after, answer?, latest, acted, ranRest, rfl⟩ := run?_cons_eq_some_iff.mp ran
      have kept' := step past given between action after answer? kept (acts_of_act? acted)
      have keptLast := ih _ _ after kept' latest ranRest
      rwa [List.append_assoc, List.singleton_append, List.append_assoc] at keptLast
  exact extends_history [] [] initial start actions answers ran

end SharedSession

end RemoteCrowd
