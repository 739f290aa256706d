import RemoteCrowd.Session.Shared

/-!
The session as its callers may think of it: a machine with five states. Calls and the ends of
steps move it from state to state, at once and one after the other. A shared session shows as
such a machine. A call shows when what it is to be answered is settled, and a step ends when
the worker of the present run reports its end. Amid a load the machine is where it was in front
of it: the load moves it when the new run has started, or cannot be started.
-/

namespace RemoteCrowd

/-- What a caller comes with. A scenario to load is still a text, or in a file. -/
inductive Wish where
  | loadText (text : String)
  | loadFile (path : String)
  | step (target : Option Double)
  | access (change : World → World)
  | close

/-- The call that the caller makes, unless the text or the file is rejected. -/
def Wish.call (reader : Scenario.Reader) (files : Files) : Wish → Except Error Call
  | .loadText text => return .load (← Scenario.ofText reader text)
  | .loadFile path => return .load (← Scenario.ofFile reader files path)
  | .step target => return .step target
  | .access change => return .access change
  | .close => return .close

/-- What can happen to a session. -/
inductive Event where
  /-- A caller comes, while the files are these. -/
  | ask (files : Files) (wish : Wish)
  | proceed
  | fail (reason : String)
  | breakOff
  | work (run : Nat)
  | signal (run : Nat) (isOpen : Bool)

/-- The action of an event. A caller with a text or a file that is rejected does not even take
the lock. -/
def Event.action? (reader : Scenario.Reader) : Event → Option Action
  | .ask files wish =>
    match wish.call reader files with
    | .ok call => some (.enter call)
    | .error _ => none
  | .proceed => some .proceed
  | .fail reason => some (.fail reason)
  | .breakOff => some .breakOff
  | .work run => some (.work run)
  | .signal run isOpen => some (.signal run isOpen)

/-- How an event shows to callers. -/
inductive Label where
  | rejected (wish : Wish) (cause : Error)
  | answered (call : Call) (answer : Answer)
  /-- A step has ended, and may have ended the run. -/
  | ended (outcome? : Option RunOutcome)

/-- The label of a caller who is turned away. -/
def Event.rejection? (reader : Scenario.Reader) : Event → Option Label
  | .ask files wish =>
    match wish.call reader files with
    | .ok _ => none
    | .error cause => some (.rejected wish cause)
  | _ => none

/-- The cause for which a state without a usable run refuses steps and looks. -/
inductive Lifecycle.Refuses : Lifecycle → Error → Prop where
  | noScenario : Refuses .noScenario (.access .noScenario)
  | finished : Refuses .finished (.access .finished)
  | failed (reason : String) : Refuses (.failed reason) (.simulationFailed reason)

/-- The moves of the machine. No look has an answer while a step is in progress. -/
inductive Moves (reader : Scenario.Reader) : Lifecycle → Label → Lifecycle → Prop where
  | rejects (state : Lifecycle) {files : Files} {wish : Wish} {cause : Error}
    (rejected : wish.call reader files = .error cause) :
    Moves reader state (.rejected wish cause) state
  | loads (state : Lifecycle) (scenario : Scenario) :
    Moves reader state (.answered (.load scenario) .done) .loadedIdle
  | closes (state : Lifecycle) : Moves reader state (.answered .close .done) .noScenario
  | steps (target : Option Double) : Moves reader .loadedIdle (.answered (.step target) .done) .stepping
  | isStepping (target : Option Double) :
    Moves reader .stepping (.answered (.step target) (.refused (.access .stepInProgress))) .stepping
  | refusesStep {state : Lifecycle} {cause : Error} (target : Option Double)
    (refuses : state.Refuses cause) : Moves reader state (.answered (.step target) (.refused cause)) state
  | shows (change : World → World) (world : World) :
    Moves reader .loadedIdle (.answered (.access change) (.seen world)) .loadedIdle
  | refusesAccess {state : Lifecycle} {cause : Error} (change : World → World)
    (refuses : state.Refuses cause) :
    Moves reader state (.answered (.access change) (.refused cause)) state
  | pauses : Moves reader .stepping (.ended none) .loadedIdle
  | completes : Moves reader .stepping (.ended (some .completed)) .finished
  | fails (reason : String) : Moves reader .stepping (.ended (some (.failed reason))) (.failed reason)

/-- What becomes of the machine if the run of a load does not start: it is left without any. -/
inductive Loses : Lifecycle → Label → Lifecycle → Prop where
  | startFails (state : Lifecycle) (scenario : Scenario) (reason : String) :
    Loses state (.answered (.load scenario) (.refused (threadError reason))) .noScenario
  | breaksOff (state : Lifecycle) (scenario : Scenario) :
    Loses state (.answered (.load scenario) .brokenOff) .noScenario

/-- Whether a run does not start with this event. -/
def Event.isLoss : Event → Bool
  | .fail _ | .breakOff => true
  | _ => false

/-- A move of the machine, also one in which a run does not start. -/
def MovesOrLoses (reader : Scenario.Reader) (before : Lifecycle) (label : Label)
    (after : Lifecycle) : Prop := Moves reader before label after ∨ Loses before label after

/-- Moves one after another. -/
inductive Path (Move : Lifecycle → Label → Lifecycle → Prop) :
    Lifecycle → List Label → Lifecycle → Prop where
  | stays (state : Lifecycle) : Path Move state [] state
  | goesOn {before between after : Lifecycle} {label : Label} {labels : List Label}
    (move : Move before label between) (path : Path Move between labels after) :
    Path Move before (label :: labels) after

/-- The scenario that the holder of the lock is amid the load of. -/
def Stage.scenario? : Stage → Option Scenario
  | .stopping _ scenario? | .parting _ scenario? | .joining _ scenario? => scenario?
  | .announcing scenario | .starting _ scenario => some scenario
  | _ => none

/-- The call that the holder of the lock is at, as long as its answer is open. -/
def Stage.call? : Stage → Option Call
  | .entered call => some call
  | .checking _ change | .asleep _ change | .handling _ change => some (.access change)
  | stage => stage.scenario?.map .load

/-- What the holder of the lock will answer, once that is settled. -/
def Stage.answer? : Stage → Option Answer
  | .aborting _ cause => some (.refused cause)
  | .leaving answer => some answer
  | stage => if stage.call?.isNone then some .done else none

/-- How a reported end of a step shows. -/
def Report.outcome? : Report → Option RunOutcome
  | .stepFinished => none
  | .runFinished outcome => some outcome

/-- Whether a caller was turned away. -/
def Label.isRejected : Label → Bool
  | .rejected .. => true
  | _ => false

/-- The turn that a label speaks of. -/
def Label.turn? : Label → Option (Call × Answer)
  | .answered call answer => some (call, answer)
  | _ => none

namespace SharedSession

variable {μ : Type}

/-- Whether the holder of the lock is amid a load. -/
def isLoading (session : SharedSession μ) : Bool :=
  (session.holder.bind Stage.scenario?).isSome

/-- The state of the machine. Without a run it is that of no scenario, whatever the slot says. Amid a
load it does not show. -/
def view? (session : SharedSession μ) : Option Lifecycle :=
  if session.isLoading then none
  else if session.current.isNone then some .noScenario
  else some session.slot.lifecycle

/-- The call of the holder of the lock, as long as its answer is open. -/
def openCall? (session : SharedSession μ) : Option Call := session.holder.bind Stage.call?

/-- The answer that the holder of the lock is bound to give. -/
def settledAnswer? (session : SharedSession μ) : Option Answer :=
  session.holder.bind Stage.answer?

/-- How an action shows that leads from one session to another. -/
def label? (movement : Movement μ) (session after : SharedSession μ) : Action → Option Label
  | .proceed | .fail _ | .breakOff =>
    session.openCall?.bind fun call => after.settledAnswer?.map (.answered call)
  | .work run =>
    if session.current = some run then do
      let (_, report?) ← (← session.worker? run).next? movement
      report?.map fun report => .ended report.outcome?
    else none
  | _ => none

/-- How events show, one after another. -/
def trace (reader : Scenario.Reader) (movement : Movement μ) :
    List Event → SharedSession μ → List Label
  | [], _ => []
  | event :: rest, session =>
    match event.action? reader with
    | none => (event.rejection? reader).toList ++ trace reader movement rest session
    | some action =>
      match session.act? movement action with
      | none => []
      | some (after, _) =>
        (session.label? movement after action).toList ++ trace reader movement rest after

end SharedSession

end RemoteCrowd
