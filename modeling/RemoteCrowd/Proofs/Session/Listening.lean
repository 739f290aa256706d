import RemoteCrowd.Proofs.Session.Following
import RemoteCrowd.Session.Listener

/-!
What the listener of a run hears. A worker that has been asked for one thing goes through a few
situations until it rests again or has exited, and one of them is behind its one report. So every
request that is accepted causes one event, the last event is the end of the run, and nothing is
heard behind it.
-/

namespace RemoteCrowd

variable {μ : Type}

theorem Course.Performs.ne_stopped {movement : Movement μ} {scenario : Scenario}
    {target : Option Double} {begun after : Course μ} {signals : List Bool}
    {outcome? : Option RunOutcome}
    (performs : begun.Performs movement scenario target signals after outcome?) :
    outcome? ≠ some .stopped := by
  cases performs <;> exact nofun

/-- Pass signals on to the movement, one after another. -/
def Course.signalAll (movement : Movement μ) (signals : List Bool) (course : Course μ) : Course μ :=
  signals.foldl (fun course isOpen => course.signal movement isOpen) course

@[simp] theorem Course.world_signalAll (movement : Movement μ) (signals : List Bool)
    (course : Course μ) : (course.signalAll movement signals).world = course.world := by
  unfold signalAll
  induction signals generalizing course with
  | nil => rfl
  | cons isOpen rest ih => exact ih (course.signal movement isOpen)

namespace Worker

variable {movement : Movement μ} {run : Nat} {request : Request} {begun : Course μ} {flag : Bool}
  {worker after : Worker μ} {heard : List RunEvent} {outcome? : Option RunOutcome}

/-- How a request ends that was taken up at a course: a step is made in full, or the run is
stopped. Signals may come in later. -/
inductive Meets (movement : Movement μ) (begun : Course μ) (worker : Worker μ) :
    Request → Option RunOutcome → Prop where
  | step {target : Option Double} {signals : List Bool} {course : Course μ}
    {outcome? : Option RunOutcome} (later : List Bool)
    (performs : begun.Performs movement worker.scenario target signals course outcome?)
    (left : worker.course = course.signalAll movement later) :
    Meets movement begun worker (.step target) outcome?
  | stop : Meets movement begun worker .stop (some .stopped)

theorem Meets.congr (meets : worker.Meets movement begun request outcome?)
    (scenario : after.scenario = worker.scenario) (course : after.course = worker.course) :
    after.Meets movement begun request outcome? := by
  cases meets with
  | step later performs left => exact .step later (scenario ▸ performs) (course.trans left)
  | stop => exact .stop

theorem Meets.signal (meets : worker.Meets movement begun request outcome?) (isOpen : Bool) :
    (worker.signal movement isOpen).Meets movement begun request outcome? := by
  cases meets with
  | step later performs left =>
    refine .step (later ++ [isOpen]) performs ?_
    rw [Course.signalAll, List.foldl_append]
    exact congrArg (Course.signal movement isOpen) left
  | stop => exact .stop

/-- How far a worker has come with the one request that it has, and what has been heard of it. The
flag is what it said of its waiting when it was asked. -/
inductive Serving (movement : Movement μ) (run : Nat) (request : Request) (begun : Course μ)
    (flag : Bool) (worker : Worker μ) : List RunEvent → Prop where
  | asked (idle : worker.phase = .idle) (asked : worker.queue = [request])
    (sound : worker.failure? = none) (told : worker.waiting = flag)
    (underway : ∀ target, ∃ signals,
      begun.Underway movement worker.scenario target signals worker.course) :
    Serving movement run request begun flag worker []
  | makes {target : Option Double} (same : request = .step target)
    (stepping : worker.phase = .stepping target) (empty : worker.queue = [])
    (sound : worker.failure? = none) (told : worker.waiting = flag)
    (underway : ∃ signals, begun.Underway movement worker.scenario target signals worker.course) :
    Serving movement run request begun flag worker []
  | pauses (reporting : worker.phase = .reporting .stepFinished) (empty : worker.queue = [])
    (sound : worker.failure? = none) (waits : worker.waiting = true)
    (meets : worker.Meets movement begun request none) :
    Serving movement run request begun flag worker []
  | paused (idle : worker.phase = .idle) (empty : worker.queue = [])
    (sound : worker.failure? = none) (waits : worker.waiting = true)
    (meets : worker.Meets movement begun request none) :
    Serving movement run request begun flag worker [.ofStep run worker.course.world.time none]
  | ends {outcome : RunOutcome} (reporting : worker.phase = .reporting (.runFinished outcome))
    (empty : worker.queue = []) (failure : worker.failure? = outcome.reason?)
    (told : worker.waiting = flag) (meets : worker.Meets movement begun request (some outcome)) :
    Serving movement run request begun flag worker []
  | ended {outcome : RunOutcome} (gone : worker.isServing = false) (empty : worker.queue = [])
    (failure : worker.failure? = outcome.reason?) (told : worker.waiting = flag)
    (meets : worker.Meets movement begun request (some outcome)) :
    Serving movement run request begun flag worker
      [.ofStep run worker.course.world.time (some outcome)]

/-- An update of a step goes on with it, or ends it. -/
theorem serving_update {target : Option Double} {signals : List Bool}
    (stepping : worker.phase = .stepping target)
    (ready : movement.ready worker.course.memory = true) (empty : worker.queue = [])
    (sound : worker.failure? = none) (told : worker.waiting = flag)
    (underway : begun.Underway movement worker.scenario target signals worker.course) :
    (worker.update movement target).Serving movement run (.step target) begun flag [] := by
  unfold update
  split
  · next course reason updated =>
    have makes := Course.makes_iff.mpr ⟨ready, updated⟩
    exact .ends rfl empty rfl told (.step [] (.fails underway makes) rfl)
  · next course updated =>
    have makes := Course.makes_iff.mpr ⟨ready, updated⟩
    split
    · next late =>
      exact .ends rfl empty sound told (.step [] (.completes underway makes late) rfl)
    · next early =>
      split
      · next ahead =>
        exact .makes rfl stepping empty sound told
          ⟨signals, .goesOn underway makes early (Course.hasAhead_iff.mpr ahead)⟩
      · next reached =>
        have reached' := fun ahead => reached (Course.hasAhead_iff.mp ahead)
        exact .pauses rfl empty sound rfl (.step [] (.pauses underway makes early reached') rfl)

namespace Serving

/-- Whatever the worker does, it goes on with its one request. -/
theorem goes {report? : Option Report}
    (serving : worker.Serving movement run request begun flag heard)
    (goes : worker.Goes movement after report?) :
    after.Serving movement run request begun flag
      (heard ++ (report?.map (worker.event run)).toList) := by
  cases goes with
  | begins idle queue =>
    cases serving with
    | asked idle' asked sound told underway =>
      obtain ⟨rfl, rfl⟩ := List.cons.inj (asked.symm.trans queue)
      exact .makes rfl rfl rfl sound told (underway _)
    | paused idle' empty | ended gone empty => cases empty.symm.trans queue
    | makes same stepping => cases idle.symm.trans stepping
    | pauses reporting | ends reporting => cases idle.symm.trans reporting
  | stops idle queue =>
    cases serving with
    | asked idle' asked sound told underway =>
      obtain ⟨rfl, rfl⟩ := List.cons.inj (asked.symm.trans queue)
      exact .ends rfl rfl sound told .stop
    | paused idle' empty | ended gone empty => cases empty.symm.trans queue
    | makes same stepping => cases idle.symm.trans stepping
    | pauses reporting | ends reporting => cases idle.symm.trans reporting
  | updates stepping ready =>
    cases serving with
    | makes same stepping' empty sound told underway =>
      obtain rfl := Phase.stepping.inj (stepping.symm.trans stepping')
      obtain ⟨signals, underway⟩ := underway
      subst same
      exact serving_update stepping ready empty sound told underway
    | asked idle | paused idle => cases idle.symm.trans stepping
    | pauses reporting | ends reporting => cases reporting.symm.trans stepping
    | ended gone => simp [isServing, stepping] at gone
  | reports reporting =>
    cases serving with
    | pauses reporting' empty sound waits meets =>
      obtain rfl := Phase.reporting.inj (reporting.symm.trans reporting')
      exact .paused rfl empty sound waits (meets.congr rfl rfl)
    | ends reporting' empty failure told meets =>
      obtain rfl := Phase.reporting.inj (reporting.symm.trans reporting')
      exact .ended rfl empty failure told (meets.congr rfl rfl)
    | asked idle | paused idle => cases idle.symm.trans reporting
    | makes same stepping => cases stepping.symm.trans reporting
    | ended gone => simp [isServing, reporting] at gone
  | exits leaving =>
    cases serving with
    | ended gone empty failure told meets =>
      exact .ended rfl empty failure told (meets.congr rfl rfl)
    | asked idle | paused idle => cases idle.symm.trans leaving
    | makes same stepping => cases stepping.symm.trans leaving
    | pauses reporting | ends reporting => cases reporting.symm.trans leaving

theorem signal (serving : worker.Serving movement run request begun flag heard) (isOpen : Bool) :
    (worker.signal movement isOpen).Serving movement run request begun flag heard := by
  cases serving with
  | asked idle asked sound told underway =>
    refine .asked idle asked sound told fun target => ?_
    obtain ⟨signals, underway⟩ := underway target
    exact ⟨_, .hears isOpen underway⟩
  | makes same stepping empty sound told underway =>
    obtain ⟨signals, underway⟩ := underway
    exact .makes same stepping empty sound told ⟨_, .hears isOpen underway⟩
  | pauses reporting empty sound waits meets =>
    exact .pauses reporting empty sound waits (meets.signal isOpen)
  | paused idle empty sound waits meets =>
    exact .paused idle empty sound waits (meets.signal isOpen)
  | ends reporting empty failure told meets =>
    exact .ends reporting empty failure told (meets.signal isOpen)
  | ended gone empty failure told meets =>
    exact .ended gone empty failure told (meets.signal isOpen)

theorem tells {more : List RunEvent}
    (serving : worker.Serving movement run request begun flag heard)
    (tells : worker.Tells movement run more after) :
    after.Serving movement run request begun flag (heard ++ more) := by
  induction tells generalizing heard with
  | rests worker =>
    rw [List.append_nil]
    exact serving
  | goesOn next tells ih =>
    rw [← List.append_assoc]
    exact ih (serving.goes (next?_eq_some_iff.mp next))
  | signalled isOpen tells ih => exact ih (serving.signal isOpen)

end Serving

/-- How a worker stands when the request has been settled, and what has been heard of it. -/
structure Served (movement : Movement μ) (run : Nat) (request : Request) (begun : Course μ)
    (flag : Bool) (worker : Worker μ) (heard : List RunEvent) (outcome? : Option RunOutcome) :
    Prop where
  heard : heard = [.ofStep run worker.course.world.time outcome?]
  meets : worker.Meets movement begun request outcome?
  empty : worker.queue = []
  failure : worker.failure? = outcome?.bind RunOutcome.reason?
  phase : worker.phase = if outcome?.isSome then .exited else .idle
  waiting : worker.waiting = (outcome?.isNone || flag)

theorem Serving.exists_served (serving : worker.Serving movement run request begun flag heard)
    (settled : worker.IsSettled) :
    ∃ outcome?, worker.Served movement run request begun flag heard outcome? := by
  cases serving with
  | paused idle empty sound waits meets => exact ⟨none, rfl, meets, empty, sound, idle, waits⟩
  | @ended outcome gone empty failure told meets =>
    rcases settled with ⟨idle, -⟩ | exited
    · simp [isServing, idle] at gone
    · exact ⟨some outcome, rfl, meets, empty, failure, exited, told⟩
  | asked idle asked =>
    rcases settled with ⟨-, empty⟩ | exited
    · cases asked.symm.trans empty
    · cases idle.symm.trans exited
  | makes same stepping =>
    rcases settled with ⟨idle, -⟩ | exited
    · cases stepping.symm.trans idle
    · cases stepping.symm.trans exited
  | pauses reporting | ends reporting =>
    rcases settled with ⟨idle, -⟩ | exited
    · cases reporting.symm.trans idle
    · cases reporting.symm.trans exited

theorem Tells.append {between : Worker μ} {later : List RunEvent}
    (tells : worker.Tells movement run heard between)
    (tells' : between.Tells movement run later after) :
    worker.Tells movement run (heard ++ later) after := by
  induction tells with
  | rests worker => exact tells'
  | goesOn next _ ih =>
    rw [List.append_assoc]
    exact .goesOn next (ih tells')
  | signalled isOpen _ ih => exact .signalled isOpen (ih tells')

theorem Tells.goes {report? : Option Report} (goes : worker.Goes movement after report?) :
    worker.Tells movement run (report?.map (worker.event run)).toList after := by
  rw [← List.append_nil (report?.map _).toList]
  exact .goesOn (next?_eq_some_iff.mpr goes) (.rests after)

/-- A worker that has ended a step settles by itself. -/
theorem exists_tells_of_reporting {report : Report} (reporting : worker.phase = .reporting report)
    (empty : worker.queue = []) :
    ∃ heard after, worker.Tells movement run heard after ∧ after.IsSettled := by
  have reports : worker.Tells movement run _ _ := .goes (.reports reporting)
  cases report with
  | stepFinished => exact ⟨_, _, reports, .inl ⟨rfl, empty⟩⟩
  | runFinished outcome => exact ⟨_, _, reports.append (.goes (.exits rfl)), .inr rfl⟩

theorem exists_tells_of_stop (idle : worker.phase = .idle) (asked : worker.queue = [.stop]) :
    ∃ heard after, worker.Tells movement run heard after ∧ after.IsSettled := by
  let finishing := { worker with queue := [], phase := .reporting (.runFinished .stopped) }
  have stops : worker.Tells movement run _ finishing := .goes (.stops idle asked)
  have tells : ∃ heard after, finishing.Tells movement run heard after ∧ after.IsSettled :=
    exists_tells_of_reporting rfl rfl
  obtain ⟨heard, after, tells, settled⟩ := tells
  exact ⟨_, after, stops.append tells, settled⟩

/-- The updates of a step can be made one after another, with the signals between them. -/
theorem tells_of_underway {target : Option Double} {signals : List Bool} {course : Course μ}
    (stepping : worker.phase = .stepping target)
    (underway : worker.course.Underway movement worker.scenario target signals course) :
    worker.Tells movement run [] { worker with course } := by
  induction underway with
  | begins => exact .rests worker
  | hears isOpen underway ih => exact ih.append (.signalled isOpen (.rests _))
  | @goesOn signals course after underway makes early ahead ih =>
    obtain ⟨ready, updated⟩ := Course.makes_iff.mp makes
    have same : Worker.update movement target { worker with course } =
        { worker with course := after } := by
      simp only [update, updated, Course.not_isLate_iff.mp early, Course.hasAhead_iff.mp ahead,
        if_true, Bool.false_eq_true, if_false]
    have updates : Goes movement { worker with course } _ none := .updates stepping ready
    rw [same] at updates
    exact ih.append (.goes updates)

/-- A worker that is asked for a step that can be made in full settles. -/
theorem exists_tells_of_performs {target : Option Double} {signals : List Bool}
    {course : Course μ} (idle : worker.phase = .idle) (asked : worker.queue = [.step target])
    (performs : worker.course.Performs movement worker.scenario target signals course outcome?) :
    ∃ heard after, worker.Tells movement run heard after ∧ after.IsSettled := by
  have begins : worker.Tells movement run _ _ := .goes (.begins idle asked)
  suffices updates : ∀ {course after : Course μ} {failed? : Option String},
      worker.course.Underway movement worker.scenario target signals course →
      course.Makes movement worker.scenario.stepLength after failed? →
      (failed? = none → Course.IsLate worker.scenario after.world ∨
        ¬Course.HasAhead target after.world) →
      ∃ heard after, worker.Tells movement run heard after ∧ after.IsSettled by
    cases performs with
    | fails underway makes => exact updates underway makes nofun
    | completes underway makes late => exact updates underway makes fun _ => .inl late
    | pauses underway makes early reached => exact updates underway makes fun _ => .inr reached
  intro course after failed? underway makes ends
  obtain ⟨ready, updated⟩ := Course.makes_iff.mp makes
  have stepping : worker.Tells movement run _
      { worker with course, queue := [], phase := .stepping target } :=
    begins.append (tells_of_underway rfl underway)
  have last := stepping.append (.goes (.updates rfl ready))
  have reporting : ∃ report, (Worker.update movement target
      { worker with course, queue := [], phase := .stepping target }).phase =
        .reporting report := by
    unfold update
    simp only [updated]
    cases failed? with
    | some reason => exact ⟨_, rfl⟩
    | none =>
      simp only
      split
      · exact ⟨_, rfl⟩
      · next early =>
        split
        · next ahead =>
          rcases ends rfl with late | reached
          · exact absurd late early
          · exact absurd (Course.hasAhead_iff.mpr ahead) reached
        · exact ⟨_, rfl⟩
  obtain ⟨report, reporting⟩ := reporting
  obtain ⟨heard, settledWorker, tells, settled⟩ :=
    exists_tells_of_reporting reporting (queue_update ..)
  exact ⟨_, settledWorker, last.append tells, settled⟩

end Worker

namespace Course

variable {movement : Movement μ} {scenario : Scenario} {target : Option Double}

/-- Where the movement never waits, the steps of a request can be made just as they are. -/
theorem exists_performs_of_takes (ready : ∀ memory, movement.ready memory = true)
    {begun course last : Course μ} {count : Nat} {ending : StepEnd}
    (underway : begun.Underway movement scenario target [] course)
    (takes : course.Takes movement scenario target count last ending) :
    ∃ outcome?, begun.Performs movement scenario target [] last outcome? := by
  induction takes with
  | fails updated => exact ⟨_, .fails underway (makes_iff.mpr ⟨ready _, updated⟩)⟩
  | completes updated complete =>
    exact ⟨_, .completes underway (makes_iff.mpr ⟨ready _, updated⟩) complete⟩
  | pauses updated incomplete reached =>
    exact ⟨_, .pauses underway (makes_iff.mpr ⟨ready _, updated⟩) (not_isLate_iff.mpr incomplete)
      (not_hasAhead_iff.mpr reached)⟩
  | goesOn updated incomplete ahead later ih =>
    exact ih (.goesOn underway (makes_iff.mpr ⟨ready _, updated⟩)
      (not_isLate_iff.mpr incomplete) (hasAhead_iff.mpr ahead))

end Course

end RemoteCrowd
