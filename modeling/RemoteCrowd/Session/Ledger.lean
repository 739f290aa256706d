import RemoteCrowd.Session.Shared

/-!
The serial account of a shared session. Callers take turns at the lock, and the answers
that they get tell which run is loaded and what it was asked to do. The ledger writes that
down, turn by turn. It knows no workers, no queues and no slot: what a run has come to is
told by making each of its steps in full and each of its changes at once, one after the
other.
-/

namespace RemoteCrowd

/-- Something that a run was asked to do, and agreed to. -/
inductive Entry where
  | step (target : Option Double)
  | access (change : World → World)

/-- A run, and what it was asked to do, oldest first. -/
structure Record where
  scenario : Scenario
  log : List Entry := []

/-- The runs that were to be loaded, oldest first. -/
structure Ledger where
  past : List Record := []
  /-- The run that is loaded now. -/
  present? : Option Record := none

namespace Ledger

/-- All runs. The first has id one. -/
def records (ledger : Ledger) : List Record := ledger.past ++ ledger.present?.toList

/-- The record of a run. -/
def record? (ledger : Ledger) (run : Nat) : Option Record :=
  if run = 0 then none else ledger.records[run - 1]?

/-- Write down what the present run has agreed to. -/
def enter (entry : Entry) (ledger : Ledger) : Ledger :=
  { ledger with
    present? := ledger.present?.map fun record => { record with log := record.log ++ [entry] } }

/-- Write down a call by its answer. A call that was refused leaves no trace, except for a load:
its run has taken the place of the present one and is past at once. -/
def turn (ledger : Ledger) : Call × Answer → Ledger
  | (.load scenario, .done) => ⟨ledger.records, some { scenario }⟩
  | (.load scenario, _) => ⟨ledger.records ++ [{ scenario }], none⟩
  | (.close, .done) => ⟨ledger.records, none⟩
  | (.step target, .done) => ledger.enter (.step target)
  | (.access change, .seen _) => ledger.enter (.access change)
  | _ => ledger

/-- The ledger after a sequence of turns. -/
def ofTurns (turns : List (Call × Answer)) : Ledger := turns.foldl turn {}

end Ledger

/-- The movement does not heed any of the signals. -/
def Movement.Ignores {μ : Type} (movement : Movement μ) (signals : List Bool) : Prop :=
  ∀ isOpen ∈ signals, ∀ memory, movement.signal isOpen memory = memory

namespace Course

variable {μ : Type}

/-- One update. If the movement succeeds, one step more is counted than it has left, and the clock
is set to as many step lengths. If it fails, everything stays as it has left it. -/
inductive Makes (movement : Movement μ) (stepLength : Double) (course : Course μ) :
    Course μ → Option String → Prop where
  | moves {memory : μ} {world : World} (ready : movement.ready course.memory = true)
    (moved : movement.update course.memory course.world stepLength = ⟨memory, world, none⟩) :
    Makes movement stepLength course
      ⟨memory, { world with
        step := world.step + 1, time := .ofNat (world.step + 1).toNat * stepLength }⟩ none
  | fails {memory : μ} {world : World} {fault : MovementFault}
    (ready : movement.ready course.memory = true)
    (moved : movement.update course.memory course.world stepLength = ⟨memory, world, some fault⟩) :
    Makes movement stepLength course ⟨memory, world⟩ (some fault.reason)

/-- The clock shows the finish time, or as good as. -/
def IsLate (scenario : Scenario) (world : World) : Prop :=
  (scenario.finishTime - tolerance).le world.time = true

/-- There is a target, and the clock does not yet show as good as its time. -/
def HasAhead (target : Option Double) (world : World) : Prop :=
  ∃ time, target = some time ∧ world.time.lt (time - tolerance) = true

/-- What a run can be like between the beginning and the end of a step, with the signals
that have come in meanwhile. -/
inductive Underway (movement : Movement μ) (scenario : Scenario) (target : Option Double)
    (begun : Course μ) : List Bool → Course μ → Prop where
  | begins : Underway movement scenario target begun [] begun
  | hears {signals : List Bool} {course : Course μ} (isOpen : Bool)
    (underway : Underway movement scenario target begun signals course) :
    Underway movement scenario target begun (signals ++ [isOpen])
      { course with memory := movement.signal isOpen course.memory }
  | goesOn {signals : List Bool} {course after : Course μ}
    (underway : Underway movement scenario target begun signals course)
    (makes : course.Makes movement scenario.stepLength after none)
    (early : ¬IsLate scenario after.world) (ahead : HasAhead target after.world) :
    Underway movement scenario target begun signals after

/-- A step in full: all its updates, up to the one that ends it. -/
inductive Performs (movement : Movement μ) (scenario : Scenario) (target : Option Double)
    (begun : Course μ) : List Bool → Course μ → Option RunOutcome → Prop where
  | fails {signals : List Bool} {course after : Course μ} {reason : String}
    (underway : Underway movement scenario target begun signals course)
    (makes : course.Makes movement scenario.stepLength after (some reason)) :
    Performs movement scenario target begun signals after (some (.failed reason))
  | completes {signals : List Bool} {course after : Course μ}
    (underway : Underway movement scenario target begun signals course)
    (makes : course.Makes movement scenario.stepLength after none)
    (late : IsLate scenario after.world) :
    Performs movement scenario target begun signals after (some .completed)
  | pauses {signals : List Bool} {course after : Course μ}
    (underway : Underway movement scenario target begun signals course)
    (makes : course.Makes movement scenario.stepLength after none)
    (early : ¬IsLate scenario after.world) (reached : ¬HasAhead target after.world) :
    Performs movement scenario target begun signals after none

/-- What a run comes to when it does all that is in its log, one entry after the other, and
how it has ended if it has. Signals may come in at any time. -/
inductive Reaches (movement : Movement μ) (scenario : Scenario) :
    List Entry → List Bool → Course μ → Option RunOutcome → Prop where
  | start :
    Reaches movement scenario [] [] ⟨movement.start scenario, .ofScenario scenario⟩ none
  | hears {log : List Entry} {signals : List Bool} {course : Course μ}
    {outcome? : Option RunOutcome} (isOpen : Bool)
    (reaches : Reaches movement scenario log signals course outcome?) :
    Reaches movement scenario log (signals ++ [isOpen])
      { course with memory := movement.signal isOpen course.memory } outcome?
  | step {log : List Entry} {signals later : List Bool} {course after : Course μ}
    {target : Option Double} {outcome? : Option RunOutcome}
    (reaches : Reaches movement scenario log signals course none)
    (performs : Performs movement scenario target course later after outcome?) :
    Reaches movement scenario (log ++ [.step target]) (signals ++ later) after outcome?
  | access {log : List Entry} {signals : List Bool} {course : Course μ}
    {change : World → World} (reaches : Reaches movement scenario log signals course none) :
    Reaches movement scenario (log ++ [.access change]) signals
      { course with world := change course.world } none

/-- Do one thing, without signals. -/
def follow (movement : Movement μ) (scenario : Scenario) (course : Course μ) :
    Entry → Option (Course μ)
  | .step target => (course.advance movement scenario target).map Prod.fst
  | .access change => some (course.change change)

end Course

namespace Record

variable {μ : Type}

/-- What a run comes to without signals. -/
def replay (movement : Movement μ) (record : Record) : Option (Course μ) :=
  record.log.foldlM (Course.follow movement record.scenario) (.start movement record.scenario)

/-- A world is the one that the run comes to, when it has done all that is in its log, with
a part of the signals that were sent to it. If the movement does not heed them, it is the
one that the run comes to without signals. -/
structure Shows (movement : Movement μ) (record : Record) (sent : List Bool) (world : World) :
    Prop where
  reached : ∃ signals course, signals <+: sent ∧
    Course.Reaches movement record.scenario record.log signals course none ∧ course.world = world
  replayed : movement.Ignores sent → (record.replay movement).map Course.world = some world

end Record

/-- A worker has done all that is in the log of its run, each entry once and in its order,
except for the last one: that may be a step which is still in the queue, or under way. Then
the worker does not say of itself that it waits. -/
inductive Worker.Follows {μ : Type} (movement : Movement μ) (worker : Worker μ) :
    List Entry → List Bool → Prop where
  | waits {log : List Entry} {signals : List Bool}
    (calm : worker.phase.isCalm = true)
    (rest : ∀ request ∈ worker.queue, request = .stop)
    (reaches : Course.Reaches movement worker.scenario log signals worker.course none) :
    Follows movement worker log signals
  | asked {log : List Entry} {signals : List Bool} {target : Option Double}
    {rest : List Request} (idle : worker.phase = .idle)
    (asked : worker.queue = .step target :: rest) (rest : ∀ request ∈ rest, request = .stop)
    (busy : worker.waiting = false)
    (reaches : Course.Reaches movement worker.scenario log signals worker.course none) :
    Follows movement worker (log ++ [.step target]) signals
  | makes {log : List Entry} {before during : List Bool} {target : Option Double}
    {begun : Course μ} (stepping : worker.phase = .stepping target)
    (rest : ∀ request ∈ worker.queue, request = .stop) (busy : worker.waiting = false)
    (reaches : Course.Reaches movement worker.scenario log before begun none)
    (underway : Course.Underway movement worker.scenario target begun during worker.course) :
    Follows movement worker (log ++ [.step target]) (before ++ during)
  | ended {log : List Entry} {signals : List Bool} {outcome? : Option RunOutcome}
    (gone : worker.phase.isOver = true)
    (rest : ∀ request ∈ worker.queue, request = .stop)
    (busy : worker.phase.isInStep = true → worker.waiting = false)
    (reaches : Course.Reaches movement worker.scenario log signals worker.course outcome?) :
    Follows movement worker log signals

/-- The call that an action takes the lock for. -/
def Action.call? : Action → Option Call
  | .enter call => some call
  | _ => none

/-- The signal that an action gives to the movement of a run. -/
def Action.signalTo? (run : Nat) : Action → Option Bool
  | .signal other isOpen => if other = run then some isOpen else none
  | _ => none

/-- The calls among the actions, in the order in which they took the lock. -/
def callsOf (actions : List Action) : List Call := actions.filterMap Action.call?

/-- The signals that a run was given. -/
def signalsTo (run : Nat) (actions : List Action) : List Bool :=
  actions.filterMap (Action.signalTo? run)

namespace SharedSession

variable {μ : Type}

/-- The answer that the holder of the lock is about to give. -/
def pending (session : SharedSession μ) : List Answer :=
  match session.holder with
  | some (.leaving answer) => [answer]
  | _ => []

/-- The calls whose answer is settled, with their answers, in the order in which they took
the lock. -/
def turns (session : SharedSession μ) (actions : List Action) (answers : List Answer) :
    List (Call × Answer) :=
  (callsOf actions).zip (answers ++ session.pending)

/-- Nothing disturbs whoever sees the state of a run: the worker of the run has nothing to
do, and whatever else happens leaves the state and the holder of the lock alone. -/
structure Undisturbed (movement : Movement μ) (session : SharedSession μ) (run : Nat)
    (worker : Worker μ) : Prop where
  found : session.worker? run = some worker
  rests : worker.phase = .idle ∧ worker.queue = []
  alone : ∀ action after answer?, session.act? movement action = some (after, answer?) →
    action = .proceed ∨ (after.holder = session.holder ∧ answer? = none ∧
      ∃ worker', after.worker? run = some worker' ∧ worker'.course.world = worker.course.world)

end SharedSession

end RemoteCrowd
