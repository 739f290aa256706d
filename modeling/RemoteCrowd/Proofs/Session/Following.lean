import RemoteCrowd.Proofs.Session.Coherence
import RemoteCrowd.Proofs.Simulation.Run
import RemoteCrowd.Session.Ledger

/-!
Workers follow the log of their run. A worker takes its requests from the queue, makes the
updates of a step one by one, and may get signals between any two of them. Whatever it does,
it has done all that is in the log, each entry once and in its order, up to a last step that
is still in the queue or under way.
-/

namespace RemoteCrowd

namespace Movement.Ignores

variable {μ : Type} {movement : Movement μ} {before after : List Bool}

theorem left (ignores : movement.Ignores (before ++ after)) : movement.Ignores before :=
  fun isOpen given => ignores isOpen (List.mem_append_left after given)

theorem right (ignores : movement.Ignores (before ++ after)) : movement.Ignores after :=
  fun isOpen given => ignores isOpen (List.mem_append_right before given)

theorem signal_eq {isOpen : Bool} (ignores : movement.Ignores [isOpen]) (course : Course μ) :
    course.signal movement isOpen = course := by
  unfold Course.signal
  rw [ignores isOpen (List.mem_singleton_self isOpen)]

end Movement.Ignores

namespace Course

variable {μ : Type} {movement : Movement μ} {scenario : Scenario} {target : Option Double}

/-- What the worker does for an update is to make it, unless the movement waits. -/
theorem makes_iff {stepLength : Double} {course after : Course μ} {reason? : Option String} :
    course.Makes movement stepLength after reason? ↔
      movement.ready course.memory = true ∧
        course.update movement stepLength = (after, reason?) := by
  unfold update
  constructor
  · intro makes
    cases makes with
    | moves ready moved | fails ready moved =>
      rw [moved]
      exact ⟨ready, rfl⟩
  · rintro ⟨ready, updated⟩
    generalize moved : movement.update course.memory course.world stepLength = result at updated
    obtain ⟨memory, world, _ | fault⟩ := result
    · obtain ⟨rfl, rfl⟩ := Prod.mk.inj updated
      exact .moves ready moved
    · obtain ⟨rfl, rfl⟩ := Prod.mk.inj updated
      exact .fails ready moved

theorem isLate_iff {world : World} :
    IsLate scenario world ↔ isComplete scenario.finishTime world = true := Iff.rfl

theorem not_isLate_iff {world : World} :
    ¬IsLate scenario world ↔ isComplete scenario.finishTime world = false := by
  rw [isLate_iff, Bool.not_eq_true]

theorem hasAhead_iff {world : World} : HasAhead target world ↔ isAhead target world = true := by
  cases target with
  | none => exact iff_of_false nofun nofun
  | some time => exact ⟨fun ⟨_, same, before⟩ => Option.some.inj same ▸ before, fun before =>
      ⟨time, rfl, before⟩⟩

theorem not_hasAhead_iff {world : World} :
    ¬HasAhead target world ↔ isAhead target world = false := by
  rw [hasAhead_iff, Bool.not_eq_true]

theorem Underway.advance_eq {begun course : Course μ} {signals : List Bool}
    (underway : Underway movement scenario target begun signals course)
    (ignores : movement.Ignores signals) :
    begun.advance movement scenario target = course.advance movement scenario target := by
  induction underway with
  | begins => rfl
  | @hears signals course isOpen underway ih =>
    rw [ih ignores.left]
    exact congrArg _ (ignores.right.signal_eq course).symm
  | goesOn underway makes early ahead ih =>
    rw [ih ignores, advance_of_updated (makes_iff.mp makes).2, not_isLate_iff.mp early,
      hasAhead_iff.mp ahead]
    rfl

theorem Performs.advance_eq {begun after : Course μ} {signals : List Bool}
    {outcome? : Option RunOutcome}
    (performs : Performs movement scenario target begun signals after outcome?)
    (ignores : movement.Ignores signals) :
    (begun.advance movement scenario target).map Prod.fst = some after := by
  cases performs with
  | fails underway makes =>
    rw [underway.advance_eq ignores, advance_of_failed (makes_iff.mp makes).2]
    rfl
  | completes underway makes late =>
    rw [underway.advance_eq ignores, advance_of_updated (makes_iff.mp makes).2,
      isLate_iff.mp late]
    rfl
  | pauses underway makes early reached =>
    rw [underway.advance_eq ignores, advance_of_updated (makes_iff.mp makes).2,
      not_isLate_iff.mp early, not_hasAhead_iff.mp reached]
    rfl

/-- Where no signal is heeded, it is the log alone that says what a run has come to. -/
theorem Reaches.foldlM_follow_eq {log : List Entry} {signals : List Bool} {course : Course μ}
    {outcome? : Option RunOutcome}
    (reaches : Reaches movement scenario log signals course outcome?)
    (ignores : movement.Ignores signals) :
    log.foldlM (follow movement scenario) (Course.start movement scenario) = some course := by
  induction reaches with
  | start => rfl
  | @hears log signals course outcome? isOpen reaches ih =>
    rw [ih ignores.left]
    exact congrArg some (ignores.right.signal_eq course).symm
  | step reaches performs ih =>
    rw [List.foldlM_append, ih ignores.left]
    simp only [Option.bind_eq_bind, Option.bind_some, List.foldlM_cons, List.foldlM_nil, follow,
      performs.advance_eq ignores.right]
    rfl
  | access reaches ih =>
    rw [List.foldlM_append, ih ignores]
    rfl

theorem Reaches.shows {record : Record} {signals sent : List Bool} {course : Course μ}
    (reaches : Reaches movement record.scenario record.log signals course none)
    (part : signals <+: sent) : record.Shows movement sent course.world := by
  constructor
  · exact ⟨signals, course, part, reaches, rfl⟩
  · intro ignores
    have ignores' : movement.Ignores signals :=
      fun isOpen given => ignores isOpen (part.subset given)
    rw [Record.replay, reaches.foldlM_follow_eq ignores']
    rfl

end Course

/-- More signals can be sent. -/
theorem Record.Shows.mono {μ : Type} {movement : Movement μ} {record : Record}
    {sent : List Bool} {world : World} (shows : record.Shows movement sent world)
    (more : List Bool) : record.Shows movement (sent ++ more) world := by
  obtain ⟨signals, course, part, reaches, rfl⟩ := shows.reached
  exact reaches.shows (part.trans (List.prefix_append sent more))

namespace Worker

variable {μ : Type} {movement : Movement μ} {worker : Worker μ} {log : List Entry}
  {signals : List Bool}

theorem follows_start (movement : Movement μ) (scenario : Scenario) :
    (start movement scenario).Follows movement [] [] := by
  apply Follows.waits
  · rfl
  · exact fun _ member => nomatch member
  · exact .start

@[simp] theorem scenario_update (movement : Movement μ) (target : Option Double)
    (worker : Worker μ) : (worker.update movement target).scenario = worker.scenario := by
  unfold update
  split
  · rfl
  · split
    · rfl
    · split <;> rfl

@[simp] theorem scenario_reported (worker : Worker μ) (report : Report) :
    (worker.reported report).scenario = worker.scenario := by
  cases report <;> rfl

theorem Goes.scenario_eq {after : Worker μ} {report? : Option Report}
    (goes : worker.Goes movement after report?) : after.scenario = worker.scenario := by
  cases goes with
  | updates stepping ready => exact scenario_update movement _ worker
  | reports reporting => exact scenario_reported worker _
  | begins idle asked | stops idle asked | exits leaving => rfl

/-- One update of a step goes on with it, or ends it. -/
theorem follows_update {before during : List Bool} {target : Option Double} {begun : Course μ}
    (stepping : worker.phase = .stepping target)
    (ready : movement.ready worker.course.memory = true)
    (rest : ∀ request ∈ worker.queue, request = .stop) (busy : worker.waiting = false)
    (reaches : Course.Reaches movement worker.scenario log before begun none)
    (underway : Course.Underway movement worker.scenario target begun during worker.course) :
    (worker.update movement target).Follows movement (log ++ [.step target])
      (before ++ during) := by
  unfold update
  split
  · next course reason updated =>
    apply Follows.ended
    · rfl
    · exact rest
    · exact fun _ => busy
    · exact .step reaches (.fails underway (Course.makes_iff.mpr ⟨ready, updated⟩))
  · next course updated =>
    have makes := Course.makes_iff.mpr ⟨ready, updated⟩
    split
    · next late =>
      apply Follows.ended
      · rfl
      · exact rest
      · exact fun _ => busy
      · exact .step reaches (.completes underway makes late)
    · next early =>
      split
      · next ahead =>
        exact .makes stepping rest busy reaches
          (.goesOn underway makes early (Course.hasAhead_iff.mpr ahead))
      · next reached =>
        apply Follows.waits
        · rfl
        · exact rest
        · exact .step reaches
            (.pauses underway makes early (fun ahead => reached (Course.hasAhead_iff.mp ahead)))

/-- Whatever the worker does, it does what is in the log. -/
theorem Follows.goes {after : Worker μ} {report? : Option Report}
    (follows : worker.Follows movement log signals) (goes : worker.Goes movement after report?) :
    after.Follows movement log signals := by
  cases goes with
  | begins idle asked =>
    cases follows with
    | waits calm rest reaches =>
      have stop := rest _ (asked ▸ List.mem_cons_self)
      cases stop
    | asked idle asked' rest busy reaches =>
      obtain ⟨same, rfl⟩ := List.cons.inj (asked.symm.trans asked')
      obtain rfl := Request.step.inj same
      rw [← List.append_nil signals]
      exact .makes rfl rest busy reaches .begins
    | makes stepping rest busy reaches underway => cases idle.symm.trans stepping
    | ended gone rest busy reaches =>
      have stop := rest _ (asked ▸ List.mem_cons_self)
      cases stop
  | stops idle asked =>
    cases follows with
    | waits calm rest reaches =>
      have rest' := fun request member => rest request (asked ▸ List.mem_cons_of_mem _ member)
      exact .ended rfl rest' nofun reaches
    | asked idle asked' rest busy reaches => cases asked.symm.trans asked'
    | makes stepping rest busy reaches underway => cases idle.symm.trans stepping
    | ended gone rest busy reaches =>
      rw [idle] at gone
      cases gone
  | updates stepping ready =>
    cases follows with
    | waits calm rest reaches =>
      rw [stepping] at calm
      cases calm
    | asked idle asked rest busy reaches => cases stepping.symm.trans idle
    | makes stepping' rest busy reaches underway =>
      obtain rfl := Phase.stepping.inj (stepping.symm.trans stepping')
      exact follows_update stepping ready rest busy reaches underway
    | ended gone rest busy reaches =>
      rw [stepping] at gone
      cases gone
  | @reports report reporting =>
    cases follows with
    | waits calm rest reaches =>
      rw [reporting] at calm
      cases report with
      | stepFinished => exact .waits rfl rest reaches
      | runFinished outcome => cases calm
    | asked idle asked rest busy reaches => cases reporting.symm.trans idle
    | makes stepping rest busy reaches underway => cases reporting.symm.trans stepping
    | ended gone rest busy reaches =>
      rw [reporting] at gone
      cases report with
      | stepFinished => cases gone
      | runFinished outcome => exact .ended rfl rest nofun reaches
  | exits leaving =>
    cases follows with
    | waits calm rest reaches =>
      rw [leaving] at calm
      cases calm
    | asked idle asked rest busy reaches => cases leaving.symm.trans idle
    | makes stepping rest busy reaches underway => cases leaving.symm.trans stepping
    | ended gone rest busy reaches => exact .ended rfl rest nofun reaches

theorem Follows.signal (follows : worker.Follows movement log signals) (isOpen : Bool) :
    (worker.signal movement isOpen).Follows movement log (signals ++ [isOpen]) := by
  cases follows with
  | waits calm rest reaches => exact .waits calm rest (.hears isOpen reaches)
  | asked idle asked rest busy reaches => exact .asked idle asked rest busy (.hears isOpen reaches)
  | makes stepping rest busy reaches underway =>
    rw [List.append_assoc]
    exact .makes stepping rest busy reaches (.hears isOpen underway)
  | ended gone rest busy reaches => exact .ended gone rest busy (.hears isOpen reaches)

theorem Follows.stop (follows : worker.Follows movement log signals) :
    (worker.send .stop).Follows movement log signals := by
  have onlyStops {queue : List Request} (rest : ∀ request ∈ queue, request = .stop) :
      ∀ request ∈ queue ++ [.stop], request = .stop := by
    intro request member
    rcases List.mem_append.mp member with earlier | last
    · exact rest request earlier
    · exact List.mem_singleton.mp last
  cases follows with
  | waits calm rest reaches => exact .waits calm (onlyStops rest) reaches
  | @asked log signals target queue idle asked rest busy reaches =>
    have asked' : (worker.send .stop).queue = .step target :: (queue ++ [.stop]) := by
      rw [send, asked, List.cons_append]
    exact .asked idle asked' (onlyStops rest) busy reaches
  | makes stepping rest busy reaches underway => exact .makes stepping (onlyStops rest) busy reaches underway
  | ended gone rest busy reaches => exact .ended gone (onlyStops rest) busy reaches

/-- Between two steps a worker has done all that is in the log. -/
theorem Follows.reaches (follows : worker.Follows movement log signals)
    (fits : worker.Matches .loadedIdle) :
    Course.Reaches movement worker.scenario log signals worker.course none := by
  obtain ⟨idle, asked, -⟩ := fits.idle_of_loadedIdle
  cases follows with
  | waits calm rest reaches => exact reaches
  | asked idle' asked' rest busy reaches => cases asked.symm.trans asked'
  | makes stepping rest busy reaches underway => cases idle.symm.trans stepping
  | ended gone rest busy reaches =>
    rw [idle] at gone
    cases gone

theorem Follows.request (follows : worker.Follows movement log signals)
    (fits : worker.Matches .loadedIdle) (target : Option Double) :
    Follows movement { worker.send (.step target) with waiting := false }
      (log ++ [.step target]) signals := by
  obtain ⟨idle, asked, -⟩ := fits.idle_of_loadedIdle
  have asked' : (worker.send (.step target)).queue = [.step target] := by
    rw [send, asked, List.nil_append]
  exact .asked idle asked' (fun _ member => nomatch member) rfl (follows.reaches fits)

theorem Follows.access (follows : worker.Follows movement log signals)
    (fits : worker.Matches .loadedIdle) (change : World → World) :
    Follows movement { worker with course := worker.course.change change }
      (log ++ [.access change]) signals := by
  obtain ⟨idle, asked, -⟩ := fits.idle_of_loadedIdle
  apply Follows.waits
  · exact congrArg Phase.isCalm idle
  · intro request member
    rw [asked] at member
    cases member
  · exact .access (follows.reaches fits)

end Worker

end RemoteCrowd
