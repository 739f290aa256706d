import RemoteCrowd.Proofs.Session.Serial
import RemoteCrowd.Proofs.Session.Showing

/-!
Calls that have the lock to themselves. Nobody but the caller and the worker of the present run has
to act for a call to be answered, except for a look that waits for the end of a step. The answer is
a move of the machine, and a refused call leaves no trace.
-/

namespace RemoteCrowd

namespace SharedSession

variable {μ : Type} {movement : Movement μ} {session after : SharedSession μ} {broken : Prop}
  {reader : Scenario.Reader}

theorem goTo_free (free : session.holder = none) (stage : Stage) :
    { session.goTo stage with holder := none } = session := by
  obtain ⟨slot, current, workers, holder⟩ := session
  obtain rfl : holder = none := free
  rfl

theorem isLoading_of_free (free : session.holder = none) : session.isLoading = false := by
  rw [isLoading, free]
  rfl

/-- Whoever finds the lock free sees the state of the machine. -/
theorem exists_view?_of_free (free : session.holder = none) :
    ∃ state, session.view? = some state := by
  obtain empty | ⟨run, present⟩ := Option.eq_none_or_eq_some session.current
  · exact ⟨_, view?_of_empty (isLoading_of_free free) empty⟩
  · exact ⟨_, view?_of_present (isLoading_of_free free) present⟩

/-- A call of somebody who has the lock to itself is answered, and the answer is a move of the
machine. A refusal leaves the session as it was. -/
structure Answered (reader : Scenario.Reader) (movement : Movement μ) (session : SharedSession μ)
    (call : Call) (actions : List Action) (after : SharedSession μ) (answer : Answer) : Prop where
  ran : run? movement (.enter call :: actions) session = some (after, [answer])
  own : ∀ action ∈ actions, action = .proceed ∨
    ∃ run, session.current = some run ∧ action = .work run
  moves : ∃ before behind, session.view? = some before ∧
    Moves reader before (.answered call answer) behind ∧ after.view? = some behind
  refused : ∀ cause, answer = .refused cause → after = session

theorem acts_leaving (free : session.holder = none) (answer : Answer) :
    Acts movement (session.goTo (.leaving answer)) .proceed session (some answer) := by
  have left : Acts movement (session.goTo (.leaving answer)) .proceed
      { session.goTo (.leaving answer) with holder := none } (some answer) :=
    .proceeds rfl .leaves
  rwa [goTo_free free] at left

/-- A call that is settled without a change of the session is answered, and leaves it as it was. -/
theorem answered_of_unchanged (actions : List Action) {call : Call} {answer : Answer}
    {state : Lifecycle} (free : session.holder = none) (seen : session.view? = some state)
    (moves : Moves reader state (.answered call answer) state)
    (proceeds : ∀ action ∈ actions, action = .proceed)
    (settles : run? movement actions (session.goTo (.entered call)) =
      some (session.goTo (.leaving answer), [])) :
    ∃ actions after answer, session.Answered reader movement call actions after answer := by
  have leaves : run? movement [.proceed] (session.goTo (.leaving answer)) =
      some (session, [answer]) := run?_cons_of_acts (acts_leaving free answer) rfl
  refine ⟨actions ++ [.proceed], session, answer, ?_, fun action member => .inl ?_, ?_,
    fun _ _ => rfl⟩
  · exact run?_cons_of_acts (.enters free) (run?_append settles leaves)
  · rcases List.mem_append.mp member with settling | last
    · exact proceeds action settling
    · exact List.mem_singleton.mp last
  · exact ⟨state, state, seen, moves, seen⟩

/-- A call whose first action settles its answer is answered. -/
theorem answered_of_settled {call : Call} {answer : Answer} {state : Lifecycle}
    (free : session.holder = none) (seen : session.view? = some state)
    (moves : Moves reader state (.answered call answer) state)
    (settles : Proceeds movement (session.goTo (.entered call)) (.entered call)
      (session.goTo (.leaving answer)) none) :
    ∃ actions after answer, session.Answered reader movement call actions after answer :=
  answered_of_unchanged [.proceed] free seen moves
    (fun _ member => List.mem_singleton.mp member)
    (run?_cons_of_acts (.proceeds rfl settles) rfl)

theorem answered_step (free : session.holder = none) (agrees : session.Agrees broken)
    (target : Option Double) :
    ∃ actions after answer,
      session.Answered reader movement (.step target) actions after answer := by
  have quiet := isLoading_of_free free
  cases present : session.current with
  | none =>
    exact answered_of_settled free (view?_of_empty quiet present) (.refusesStep _ .noScenario)
      (.stepsNowhere present)
  | some run =>
    have seen := view?_of_present quiet present
    obtain ⟨own, worker, found, fits⟩ := (agrees_iff_of_eq_some present).mp agrees
    cases begun : session.slot.beginStep run with
    | error cause =>
      exact answered_of_settled free seen (Slot.moves_of_beginStep own begun target)
        (.stepRefused present begun)
    | ok slot =>
      obtain ⟨idle, rfl⟩ := Slot.beginStep_eq_ok own begun
      rw [idle] at fits
      have begins : Acts movement (session.goTo (.entered (.step target))) .proceed
          (({ session with slot := ⟨run, .stepping⟩ }).goTo (.requesting run target)) none :=
        .proceeds rfl (.stepBegins present begun)
      have requests : Acts movement
          (({ session with slot := ⟨run, .stepping⟩ }).goTo (.requesting run target)) .proceed
          ((SharedSession.setWorker { session with slot := ⟨run, .stepping⟩ } run
            { worker.send (.step target) with waiting := false }).goTo (.leaving .done)) none :=
        .proceeds rfl (requestStep_eq fits ▸ .requests found)
      have ran : run? movement [.enter (.step target), .proceed, .proceed, .proceed] session =
          some (_, [.done]) :=
        run?_cons_of_acts (.enters free) (run?_cons_of_acts begins
          (run?_cons_of_acts requests (run?_cons_of_acts (.proceeds rfl .leaves) rfl)))
      refine ⟨_, _, _, ran, ?_, ?_, nofun⟩
      · simp
      · rw [idle] at seen
        exact ⟨_, _, seen, .steps target, view?_of_present rfl present⟩

theorem answered_access (free : session.holder = none) (agrees : session.Agrees broken)
    (rests : session.view? ≠ some .stepping) (change : World → World) :
    ∃ actions after answer,
      session.Answered reader movement (.access change) actions after answer := by
  have quiet := isLoading_of_free free
  cases present : session.current with
  | none =>
    exact answered_of_settled free (view?_of_empty quiet present) (.refusesAccess _ .noScenario)
      (.looksNowhere present)
  | some run =>
    have seen := view?_of_present quiet present
    obtain ⟨own, worker, found, fits⟩ := (agrees_iff_of_eq_some present).mp agrees
    have rested : session.slot.lifecycle ≠ .stepping := fun stepping => rests (stepping ▸ seen)
    have ended : session.slot.stepEnd? run = some session.slot.lifecycle.checkUsable := by
      rw [Slot.stepEnd?, if_pos own, if_neg rested]
    have looks : Acts movement (session.goTo (.entered (.access change))) .proceed
        (session.goTo (.checking run change)) none := .proceeds rfl (.looks present)
    cases usable : session.slot.lifecycle.checkUsable with
    | error cause =>
      rw [usable] at ended
      have refuses : Acts movement (session.goTo (.checking run change)) .proceed
          (session.goTo (.leaving (.refused cause))) none := .proceeds rfl (.lookRefused ended)
      exact answered_of_unchanged [.proceed, .proceed] free seen
        (.refusesAccess change (Slot.refuses_of_stepEnd? own ended)) (by simp)
        (run?_cons_of_acts looks (run?_cons_of_acts refuses rfl))
    | ok _ =>
      rw [usable] at ended
      have idle := Slot.stepEnd?_eq_ok own ended
      have idle' : session.slot.lifecycle = .loadedIdle := by rw [idle]
      have begins : Acts movement (session.goTo (.checking run change)) .proceed
          (session.goTo (.handling run change)) none := .proceeds rfl (.lookBegins ended)
      have handles : Acts movement (session.goTo (.handling run change)) .proceed
          ((session.setWorker run { worker with course := worker.course.change change }).goTo
            (.leaving (.seen worker.course.world))) none := .proceeds rfl (.handles found)
      have ran : run? movement [.enter (.access change), .proceed, .proceed, .proceed, .proceed]
          session = some (_, [.seen worker.course.world]) :=
        run?_cons_of_acts (.enters free) (run?_cons_of_acts looks (run?_cons_of_acts begins
          (run?_cons_of_acts handles (run?_cons_of_acts (.proceeds rfl .leaves) rfl))))
      refine ⟨_, _, _, ran, ?_, ?_, ?_⟩
      · simp
      · rw [idle'] at seen
        refine ⟨_, _, seen, .shows change worker.course.world, ?_⟩
        rw [← idle']
        exact view?_of_present rfl present
      · intro cause refused
        cases refused

end SharedSession

/-- How many things a worker that is ending still does before it has exited. -/
def Phase.remaining : Phase → Nat
  | .reporting .stepFinished => 4
  | .idle => 3
  | .reporting (.runFinished _) => 2
  | .leaving => 1
  | .stepping _ | .exited => 0

namespace Worker

variable {μ : Type} {movement : Movement μ} {worker after : Worker μ}

/-- The worker has no step to make any more, and will exit. -/
structure IsEnding (worker : Worker μ) : Prop where
  rest : ∀ request ∈ worker.queue, request = .stop
  ending : worker.phase.isOver = true ∨ worker.phase.isCalm = true ∧ worker.queue ≠ []

theorem IsEnding.goes {report? : Option Report} (ending : worker.IsEnding)
    (goes : worker.Goes movement after report?) : after.IsEnding := by
  obtain ⟨rest, ending⟩ := ending
  cases goes with
  | begins idle asked => cases rest _ (asked ▸ List.mem_cons_self)
  | stops idle asked =>
    exact ⟨fun request member => rest request (asked ▸ List.mem_cons_of_mem _ member), .inl rfl⟩
  | updates stepping ready =>
    rcases ending with gone | ⟨calm, -⟩
    · simp [stepping, Phase.isOver] at gone
    · simp [stepping, Phase.isCalm] at calm
  | @reports report reporting =>
    cases report with
    | stepFinished =>
      rcases ending with gone | ⟨-, asked⟩
      · simp [reporting, Phase.isOver] at gone
      · exact ⟨rest, .inr ⟨rfl, asked⟩⟩
    | runFinished outcome => exact ⟨rest, .inl rfl⟩
  | exits leaving => exact ⟨rest, .inl rfl⟩

theorem IsEnding.exited (ending : worker.IsEnding) (stuck : worker.next? movement = none) :
    worker.phase = .exited := by
  obtain ⟨rest, ending⟩ := ending
  unfold next? at stuck
  split at stuck
  · next idle =>
    split at stuck
    · next asked =>
      rcases ending with gone | ⟨-, unasked⟩
      · simp [idle, Phase.isOver] at gone
      · exact absurd asked unasked
    · cases stuck
    · cases stuck
  · next stepping =>
    rcases ending with gone | ⟨calm, -⟩
    · simp [stepping, Phase.isOver] at gone
    · simp [stepping, Phase.isCalm] at calm
  · cases stuck
  · cases stuck
  · assumption

theorem IsEnding.remaining_lt {report? : Option Report} (ending : worker.IsEnding)
    (goes : worker.Goes movement after report?) :
    after.phase.remaining < worker.phase.remaining := by
  obtain ⟨rest, ending⟩ := ending
  cases goes with
  | begins idle asked => cases rest _ (asked ▸ List.mem_cons_self)
  | stops idle asked => simp [idle, Phase.remaining]
  | updates stepping ready =>
    rcases ending with gone | ⟨calm, -⟩
    · simp [stepping, Phase.isOver] at gone
    · simp [stepping, Phase.isCalm] at calm
  | @reports report reporting =>
    cases report <;> simp [reporting, reported, Phase.remaining]
  | exits leaving => simp [leaving, Phase.remaining]

/-- A worker that is waited for has no step to make, and has been told to stop. -/
theorem Follows.isEnding {log : List Entry} {signals : List Bool}
    (follows : worker.Follows movement log signals)
    (idle : (worker.waiting || worker.phase = .exited) = true) : (worker.send .stop).IsEnding := by
  have told := follows.stop
  cases told with
  | waits calm rest reaches => exact ⟨rest, .inr ⟨calm, List.append_ne_nil_of_right_ne_nil _ nofun⟩⟩
  | asked idle' asked rest busy reaches =>
    have busy' : worker.waiting = false := busy
    have phase : worker.phase = .idle := idle'
    simp [busy', phase] at idle
  | makes stepping rest busy reaches underway =>
    have busy' : worker.waiting = false := busy
    have phase : worker.phase = .stepping _ := stepping
    simp [busy', phase] at idle
  | ended gone rest busy reaches => exact ⟨rest, .inl gone⟩

end Worker

namespace SharedSession

variable {μ : Type} {movement : Movement μ} {session after : SharedSession μ} {broken : Prop}
  {reader : Scenario.Reader}

/-- An old worker exits without help. -/
theorem exists_exit (stage : Stage) {run : Nat} {worker : Worker μ}
    (holding : session.holder = some stage) (awake : ∀ own change, stage ≠ .asleep own change)
    (found : session.worker? run = some worker) (ending : worker.IsEnding) :
    ∃ steps after worker', run? movement (List.replicate steps (.work run)) session =
        some (after, []) ∧ after.holder = some stage ∧ after.current = session.current ∧
      after.worker? run = some worker' ∧ worker'.phase = .exited := by
  generalize bound : worker.phase.remaining = remaining
  induction remaining using Nat.strongRecOn generalizing session worker with
  | ind remaining ih =>
    cases next : worker.next? movement with
    | none => exact ⟨0, session, worker, rfl, holding, rfl, found, ending.exited next⟩
    | some moved =>
      obtain ⟨worker', report?⟩ := moved
      have goes := Worker.next?_eq_some_iff.mp next
      have found' : (session.worked run worker' report?).worker? run = some worker' := by
        rw [worker?_worked]
        exact worker?_setWorker_self found worker'
      have holding' : (session.worked run worker' report?).holder = some stage := by
        rw [holder_worked, holding, Option.map_some, wokenBy_of_awake awake]
      obtain ⟨steps, after, last, ran, holder, current, foundLast, exited⟩ :=
        ih worker'.phase.remaining (bound ▸ ending.remaining_lt goes) holding' found'
          (ending.goes goes) rfl
      exact ⟨steps + 1, after, last, run?_cons_of_acts (.works found goes) ran, holder,
        current.trans (current_worked ..), foundLast, exited⟩

/-- The holder of the lock parts from an old run, with no help but that of the old worker. -/
theorem exists_parted {run : Nat} {scenario? : Option Scenario} {worker : Worker μ}
    {log : List Entry} {signals : List Bool}
    (holding : session.holder = some (.stopping run scenario?))
    (found : session.worker? run = some worker) (follows : worker.Follows movement log signals) :
    ∃ actions after, run? movement actions session = some (after, []) ∧
      (∀ action ∈ actions, action = .proceed ∨ action = .work run) ∧
      after.holder = some (afterParting scenario?) ∧ after.current = session.current := by
  let told := session.setWorker run (worker.send .stop)
  have tells : Acts movement session .proceed (told.goTo (.parting run scenario?)) none :=
    .proceeds holding (.tells found)
  have known : (told.goTo (.parting run scenario?)).worker? run = some (worker.send .stop) :=
    worker?_setWorker_self found _
  cases idle : (worker.waiting || worker.phase = .exited : Bool) with
  | false =>
    have detaches : Acts movement (told.goTo (.parting run scenario?)) .proceed
        (told.goTo (afterParting scenario?)) none := .proceeds rfl (.detaches known idle)
    refine ⟨[.proceed, .proceed], _, run?_cons_of_acts tells (run?_cons_of_acts detaches rfl), ?_,
      rfl, rfl⟩
    simp
  | true =>
    have awaits : Acts movement (told.goTo (.parting run scenario?)) .proceed
        (told.goTo (.joining run scenario?)) none := .proceeds rfl (.awaits known idle)
    have waited : (told.goTo (.joining run scenario?)).worker? run = some (worker.send .stop) :=
      worker?_setWorker_self found _
    obtain ⟨steps, between, last, ran, holder, current, foundLast, exited⟩ :=
      exists_exit (.joining run scenario?) rfl nofun waited (follows.isEnding idle)
    have joins : Acts movement between .proceed (between.goTo (afterParting scenario?)) none :=
      .proceeds holder (.joins foundLast exited)
    refine ⟨.proceed :: .proceed :: (List.replicate steps (.work run) ++ [.proceed]),
      between.goTo (afterParting scenario?), ?_, ?_, rfl, current⟩
    · exact run?_cons_of_acts tells (run?_cons_of_acts awaits
        (run?_append ran (run?_cons_of_acts joins rfl)))
    · intro action member
      simp only [List.mem_cons, List.mem_append, List.mem_replicate, List.not_mem_nil,
        or_false] at member
      rcases member with rfl | rfl | ⟨-, rfl⟩ | rfl
      · exact .inl rfl
      · exact .inl rfl
      · exact .inr rfl
      · exact .inl rfl

theorem exists_loaded {scenario : Scenario}
    (holding : session.holder = some (.announcing scenario)) :
    ∃ after, run? movement [.proceed, .proceed, .proceed] session = some (after, [.done]) ∧
      after.view? = some .loadedIdle := by
  have announces : Acts movement session .proceed
      (({ session with slot := ⟨session.nextId, .loadedIdle⟩ }).goTo
        (.starting session.nextId scenario)) none := .proceeds holding .announces
  have ran : run? movement [.proceed, .proceed, .proceed] session = some (_, [.done]) :=
    run?_cons_of_acts announces (run?_cons_of_acts (.proceeds rfl .starts)
      (run?_cons_of_acts (.proceeds rfl .leaves) rfl))
  exact ⟨_, ran, rfl⟩

/-- Nobody but the holder of the lock and the worker of the present run acts. -/
theorem own_of_parted {run : Nat} {parting rest : List Action}
    (present : session.current = some run)
    (parts : ∀ action ∈ parting, action = .proceed ∨ action = .work run)
    (proceeds : ∀ action ∈ rest, action = .proceed) :
    ∀ action ∈ .proceed :: (parting ++ rest), action = .proceed ∨
      ∃ run, session.current = some run ∧ action = .work run := by
  intro action member
  rcases List.mem_cons.mp member with rfl | member
  · exact .inl rfl
  · rcases List.mem_append.mp member with member | member
    · rcases parts action member with rfl | rfl
      · exact .inl rfl
      · exact .inr ⟨run, present, rfl⟩
    · exact .inl (proceeds action member)

theorem answered_load (free : session.holder = none) (agrees : session.Agrees broken)
    {ledger : Ledger} {past : List Action} (covers : ledger.Covers movement past session)
    (scenario : Scenario) :
    ∃ actions after answer,
      session.Answered reader movement (.load scenario) actions after answer := by
  obtain ⟨state, seen⟩ := exists_view?_of_free free
  cases present : session.current with
  | none =>
    have begins : Acts movement (session.goTo (.entered (.load scenario))) .proceed
        (session.goTo (.announcing scenario)) none := .proceeds rfl (.loadsFirst present)
    obtain ⟨after, ran, view⟩ : ∃ after, run? movement [.proceed, .proceed, .proceed]
        (session.goTo (.announcing scenario)) = some (after, [.done]) ∧
          after.view? = some .loadedIdle := exists_loaded rfl
    have entered := run?_cons_of_acts (.enters free) (run?_cons_of_acts begins ran)
    refine ⟨_, after, .done, entered, ?_, ?_, nofun⟩
    · simp
    · exact ⟨_, _, seen, .loads _ _, view⟩
  | some run =>
    obtain ⟨own, worker, found, -⟩ := (agrees_iff_of_eq_some present).mp agrees
    obtain ⟨record, -, -, follows⟩ := covers.follows run worker found
    have begins : Acts movement (session.goTo (.entered (.load scenario))) .proceed
        (({ session with current := none }).goTo (.stopping run (some scenario))) none :=
      .proceeds rfl (.loadsNext present)
    have found' : (({ session with current := none }).goTo
        (.stopping run (some scenario))).worker? run = some worker := found
    obtain ⟨actions, parted, ranParted, own', holding, -⟩ := exists_parted rfl found' follows
    obtain ⟨after, ran, view⟩ : ∃ after, run? movement [.proceed, .proceed, .proceed] parted =
        some (after, [.done]) ∧ after.view? = some .loadedIdle := exists_loaded holding
    refine ⟨_, after, .done, run?_cons_of_acts (.enters free) (run?_cons_of_acts begins
      (run?_append ranParted ran)), ?_, ?_, nofun⟩
    · exact own_of_parted present own' (by simp)
    · exact ⟨_, _, seen, .loads _ _, view⟩

theorem answered_close (free : session.holder = none) (agrees : session.Agrees broken)
    {ledger : Ledger} {past : List Action} (covers : ledger.Covers movement past session) :
    ∃ actions after answer, session.Answered reader movement .close actions after answer := by
  obtain ⟨state, seen⟩ := exists_view?_of_free free
  cases present : session.current with
  | none =>
    have empty := view?_of_empty (isLoading_of_free free) present
    exact answered_of_settled free empty (.closes _) (.closesNothing present)
  | some run =>
    obtain ⟨own, worker, found, -⟩ := (agrees_iff_of_eq_some present).mp agrees
    obtain ⟨record, -, -, follows⟩ := covers.follows run worker found
    have begins : Acts movement (session.goTo (.entered .close)) .proceed
        (({ session with current := none, slot := {} }).goTo (.stopping run none)) none :=
      .proceeds rfl (.closes present)
    have found' : (({ session with current := none, slot := {} }).goTo
        (.stopping run none)).worker? run = some worker := found
    obtain ⟨actions, parted, ranParted, own', holding, empty⟩ := exists_parted rfl found' follows
    have leaves : Acts movement parted .proceed { parted with holder := none } (some .done) :=
      .proceeds holding .leaves
    have ran : run? movement (.enter .close :: .proceed :: (actions ++ [.proceed])) session =
        some (_, [.done]) :=
      run?_cons_of_acts (.enters free) (run?_cons_of_acts begins
        (run?_append ranParted (run?_cons_of_acts leaves rfl)))
    refine ⟨_, _, _, ran, ?_, ?_, nofun⟩
    · exact own_of_parted present own' (by simp)
    · exact ⟨_, _, seen, .closes _, view?_of_empty rfl empty⟩

/-- Every call is answered when nobody else does anything, except for a look while a step is in
progress. -/
theorem exists_answered (reader : Scenario.Reader) (free : session.holder = none)
    (agrees : session.Agrees broken) {ledger : Ledger} {past : List Action}
    (covers : ledger.Covers movement past session) (call : Call)
    (unhindered : ∀ change, call = .access change → session.view? ≠ some .stepping) :
    ∃ actions after answer, session.Answered reader movement call actions after answer := by
  cases call with
  | load scenario => exact answered_load free agrees covers scenario
  | step target => exact answered_step free agrees target
  | access change => exact answered_access free agrees (unhindered change rfl) change
  | close => exact answered_close free agrees covers

end SharedSession

end RemoteCrowd
