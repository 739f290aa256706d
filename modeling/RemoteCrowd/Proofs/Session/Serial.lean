import RemoteCrowd.Proofs.Session.Following

/-!
Every interleaving has a serial account. Workers make the updates of a step one by one, and
others may act between any two of them. But whoever sees the state of a run sees it as if
all that the run had agreed to before had been done in full, one thing after the other, in
the order in which the callers took the lock; and nothing that a run has agreed to is lost
or done twice.
-/

namespace RemoteCrowd

namespace Ledger

variable {ledger : Ledger} {record : Record} {run : Nat}

/-- The id of the present run. -/
def presentRun? (ledger : Ledger) : Option Nat :=
  ledger.present?.map fun _ => ledger.records.length

theorem exists_of_presentRun? (present : ledger.presentRun? = some run) :
    ∃ record, ledger.present? = some record ∧ run = ledger.records.length := by
  obtain ⟨record, found, rfl⟩ := Option.map_eq_some_iff.mp present
  exact ⟨record, found, rfl⟩

theorem record?_eq_some_iff :
    ledger.record? run = some record ↔ run ≠ 0 ∧ ledger.records[run - 1]? = some record := by
  unfold record?
  split <;> simp_all

theorem records_of_present (present : ledger.present? = some record) :
    ledger.records = ledger.past ++ [record] := by
  rw [records, present]
  rfl

theorem record?_present (present : ledger.present? = some record) :
    ledger.record? ledger.records.length = some record := by
  refine record?_eq_some_iff.mpr ⟨?_, ?_⟩
  · simp [records_of_present present]
  · simp [records_of_present present]

theorem records_enter (present : ledger.present? = some record) (entry : Entry) :
    (ledger.enter entry).records =
      ledger.past ++ [{ record with log := record.log ++ [entry] }] := by
  rw [records, enter, present]
  rfl

@[simp] theorem length_records_enter (ledger : Ledger) (entry : Entry) :
    (ledger.enter entry).records.length = ledger.records.length := by
  cases present : ledger.present? with
  | none => simp [records, enter, present]
  | some record => simp [records_enter present, records_of_present present]

@[simp] theorem presentRun?_enter (ledger : Ledger) (entry : Entry) :
    (ledger.enter entry).presentRun? = ledger.presentRun? := by
  unfold presentRun?
  rw [length_records_enter, enter, Option.map_map]
  rfl

theorem record?_enter_self (present : ledger.present? = some record) (entry : Entry) :
    (ledger.enter entry).record? ledger.records.length =
      some { record with log := record.log ++ [entry] } := by
  rw [← length_records_enter ledger entry]
  apply record?_present
  rw [enter, present]
  rfl

theorem record?_enter_of_ne (present : ledger.present? = some record) (entry : Entry)
    (other : run ≠ ledger.records.length) :
    (ledger.enter entry).record? run = ledger.record? run := by
  unfold record?
  split
  · rfl
  · rw [records_enter present, records_of_present present]
    rw [records_of_present present, List.length_append, List.length_singleton] at other
    have different : run - 1 ≠ ledger.past.length := by omega
    rcases Nat.lt_or_gt_of_ne different with earlier | later
    · rw [List.getElem?_append_left earlier, List.getElem?_append_left earlier]
    · have beyond : ledger.past.length + 1 ≤ run - 1 := later
      rw [List.getElem?_eq_none (by simpa using beyond), List.getElem?_eq_none (by simpa using beyond)]

theorem records_load (ledger : Ledger) (scenario : Scenario) (answer : Answer) :
    (ledger.turn (.load scenario, answer)).records = ledger.records ++ [⟨scenario, []⟩] := by
  cases answer with
  | done => rfl
  | seen | refused | brokenOff => exact List.append_nil _

theorem records_close (ledger : Ledger) :
    (ledger.turn (.close, .done)).records = ledger.records := List.append_nil _

/-- Records are kept when another run is loaded. -/
theorem record?_load (found : ledger.record? run = some record) (scenario : Scenario)
    (answer : Answer) : (ledger.turn (.load scenario, answer)).record? run = some record := by
  obtain ⟨positive, found⟩ := record?_eq_some_iff.mp found
  have short := (List.getElem?_eq_some_iff.mp found).1
  refine record?_eq_some_iff.mpr ⟨positive, ?_⟩
  rw [records_load, List.getElem?_append_left short]
  exact found

/-- The run that is to be loaded gets an empty record. -/
theorem record?_load_self (ledger : Ledger) (scenario : Scenario) (answer : Answer) :
    (ledger.turn (.load scenario, answer)).record? (ledger.records.length + 1) =
      some ⟨scenario, []⟩ := by
  refine record?_eq_some_iff.mpr ⟨Nat.succ_ne_zero _, ?_⟩
  rw [records_load]
  exact List.getElem?_concat_length

theorem record?_close (ledger : Ledger) (run : Nat) :
    (ledger.turn (.close, .done)).record? run = ledger.record? run := by
  unfold record?
  rw [records_close]

theorem ofTurns_append (turns : List (Call × Answer)) (call : Call) (answer : Answer) :
    ofTurns (turns ++ [(call, answer)]) = (ofTurns turns).turn (call, answer) :=
  List.foldl_append

end Ledger

@[simp] theorem signalsTo_append (run : Nat) (actions : List Action) (action : Action) :
    signalsTo run (actions ++ [action]) = signalsTo run actions ++ (action.signalTo? run).toList := by
  unfold signalsTo
  rw [List.filterMap_append]
  cases given : action.signalTo? run <;> simp [given]

@[simp] theorem callsOf_append (actions : List Action) (action : Action) :
    callsOf (actions ++ [action]) = callsOf actions ++ action.call?.toList := by
  unfold callsOf
  rw [List.filterMap_append]
  cases given : action.call? <;> simp [given]

/-- The worker of each run follows the log that the ledger keeps for the run, and runs that
have not started get no signals. -/
structure Ledger.Covers {μ : Type} (movement : Movement μ) (actions : List Action)
    (ledger : Ledger) (session : SharedSession μ) : Prop where
  length_eq : ledger.records.length = session.workers.length
  follows : ∀ run worker, session.worker? run = some worker → ∃ record,
    ledger.record? run = some record ∧ record.scenario = worker.scenario ∧
      worker.Follows movement record.log (signalsTo run actions)
  unheard : ∀ run, session.nextId ≤ run → signalsTo run actions = []

namespace Ledger.Covers

variable {μ : Type} {movement : Movement μ} {actions : List Action} {ledger : Ledger}
  {session : SharedSession μ} {run : Nat} {worker worker' : Worker μ}

/-- Actions other than signals add nothing to the signals. -/
theorem later (covers : ledger.Covers movement actions session) {action : Action}
    (silent : ∀ run, action.signalTo? run = none) :
    ledger.Covers movement (actions ++ [action]) session := by
  have same (run : Nat) : signalsTo run (actions ++ [action]) = signalsTo run actions := by
    rw [signalsTo_append, silent run, Option.toList_none, List.append_nil]
  refine ⟨covers.length_eq, ?_, ?_⟩
  · intro run worker found
    rw [same]
    exact covers.follows run worker found
  · intro run unstarted
    rw [same]
    exact covers.unheard run unstarted

/-- Only the workers matter. -/
theorem congr (covers : ledger.Covers movement actions session) {after : SharedSession μ}
    (same : after.workers = session.workers) : ledger.Covers movement actions after := by
  obtain ⟨length_eq, follows, unheard⟩ := covers
  refine ⟨?_, ?_, ?_⟩
  · rw [same]
    exact length_eq
  · unfold SharedSession.worker? at follows ⊢
    rw [same]
    exact follows
  · unfold SharedSession.nextId at unheard ⊢
    rw [same]
    exact unheard

/-- One worker has gone on, and still follows its log. -/
theorem replace (covers : ledger.Covers movement actions session)
    (found : session.worker? run = some worker) (same : worker'.scenario = worker.scenario)
    (keeps : ∀ log, worker.Follows movement log (signalsTo run actions) →
      worker'.Follows movement log (signalsTo run actions)) :
    ledger.Covers movement actions (session.setWorker run worker') := by
  refine ⟨?_, ?_, ?_⟩
  · rw [covers.length_eq, SharedSession.setWorker, List.length_set]
  · intro other known foundOther
    by_cases own : other = run
    · subst own
      obtain ⟨record, listed, scenario, follows⟩ := covers.follows other worker found
      rw [SharedSession.worker?_setWorker_self found] at foundOther
      obtain rfl := Option.some.inj foundOther
      exact ⟨record, listed, scenario.trans same.symm, keeps record.log follows⟩
    · rw [SharedSession.worker?_setWorker_of_ne (SharedSession.pos_of_worker? found) own]
        at foundOther
      exact covers.follows other known foundOther
  · rw [SharedSession.nextId_setWorker]
    exact covers.unheard

/-- The movement of one run gets a signal. -/
theorem signal (covers : ledger.Covers movement actions session)
    (found : session.worker? run = some worker) (isOpen : Bool) :
    ledger.Covers movement (actions ++ [.signal run isOpen])
      (session.setWorker run (worker.signal movement isOpen)) := by
  refine ⟨?_, ?_, ?_⟩
  · rw [covers.length_eq, SharedSession.setWorker, List.length_set]
  · intro other known foundOther
    by_cases own : other = run
    · subst own
      obtain ⟨record, listed, scenario, follows⟩ := covers.follows other worker found
      rw [SharedSession.worker?_setWorker_self found] at foundOther
      obtain rfl := Option.some.inj foundOther
      refine ⟨record, listed, scenario, ?_⟩
      rw [signalsTo_append, Action.signalTo?, if_pos rfl]
      exact follows.signal isOpen
    · rw [SharedSession.worker?_setWorker_of_ne (SharedSession.pos_of_worker? found) own]
        at foundOther
      obtain ⟨record, listed, scenario, follows⟩ := covers.follows other known foundOther
      refine ⟨record, listed, scenario, ?_⟩
      rw [signalsTo_append, Action.signalTo?, if_neg (Ne.symm own)]
      simpa using follows
  · intro other unstarted
    rw [SharedSession.nextId_setWorker] at unstarted
    have started := SharedSession.lt_nextId_of_worker? found
    have apart : run ≠ other := by omega
    rw [signalsTo_append, Action.signalTo?, if_neg apart]
    simpa using covers.unheard other unstarted

/-- The present run has agreed to something, and it is written down. -/
theorem enter (covers : ledger.Covers movement actions session) {entry : Entry}
    (present : ledger.presentRun? = some run) (found : session.worker? run = some worker)
    (same : worker'.scenario = worker.scenario)
    (agreed : ∀ log, worker.Follows movement log (signalsTo run actions) →
      worker'.Follows movement (log ++ [entry]) (signalsTo run actions)) :
    (ledger.enter entry).Covers movement actions (session.setWorker run worker') := by
  obtain ⟨record, open?, rfl⟩ := exists_of_presentRun? present
  refine ⟨?_, ?_, ?_⟩
  · rw [length_records_enter, covers.length_eq, SharedSession.setWorker, List.length_set]
  · intro other known foundOther
    by_cases own : other = ledger.records.length
    · subst own
      obtain ⟨record', listed, scenario, follows⟩ := covers.follows _ worker found
      obtain rfl := Option.some.inj ((record?_present open?).symm.trans listed)
      rw [SharedSession.worker?_setWorker_self found] at foundOther
      obtain rfl := Option.some.inj foundOther
      exact ⟨_, record?_enter_self open? entry, scenario.trans same.symm, agreed record.log follows⟩
    · rw [SharedSession.worker?_setWorker_of_ne (SharedSession.pos_of_worker? found) own]
        at foundOther
      rw [record?_enter_of_ne open? entry own]
      exact covers.follows other known foundOther
  · rw [SharedSession.nextId_setWorker]
    exact covers.unheard

theorem close (covers : ledger.Covers movement actions session) :
    (ledger.turn (.close, .done)).Covers movement actions session := by
  refine ⟨?_, ?_, covers.unheard⟩
  · rw [records_close]
    exact covers.length_eq
  · intro run worker found
    rw [record?_close]
    exact covers.follows run worker found

/-- A run starts with an empty log, before any signal, if it starts. -/
theorem load (covers : ledger.Covers movement actions session) (scenario : Scenario)
    (answer : Answer) (worker? : Option (Worker μ))
    (new : ∀ worker, worker? = some worker → worker = .start movement scenario) :
    (ledger.turn (.load scenario, answer)).Covers movement actions (session.addWorker worker?) := by
  refine ⟨?_, ?_, ?_⟩
  · rw [records_load, SharedSession.addWorker, List.length_append, List.length_append,
      covers.length_eq]
    rfl
  · intro run worker found
    by_cases last : run = session.nextId
    · subst last
      rw [SharedSession.worker?_addWorker_self] at found
      obtain rfl := new worker found
      have listed := ledger.record?_load_self scenario answer
      rw [covers.length_eq] at listed
      refine ⟨_, listed, rfl, ?_⟩
      rw [covers.unheard session.nextId (Nat.le_refl _)]
      exact Worker.follows_start movement scenario
    · rw [SharedSession.worker?_addWorker_of_ne last] at found
      obtain ⟨record, listed, same, follows⟩ := covers.follows run worker found
      exact ⟨record, record?_load listed scenario answer, same, follows⟩
  · intro run unstarted
    rw [SharedSession.nextId_addWorker] at unstarted
    exact covers.unheard run (Nat.le_of_succ_le unstarted)

end Ledger.Covers

/-- The call of which a run is taken away. -/
def partingCall : Option Scenario → Call
  | some scenario => .load scenario
  | none => .close

/-- The stage is one that the call comes to before its answer is settled. -/
def Stage.Serves (call : Call) : Stage → Prop
  | .entered taken => call = taken
  | .stopping _ scenario? | .parting _ scenario? | .joining _ scenario? =>
    call = partingCall scenario?
  | .announcing scenario | .starting _ scenario => call = .load scenario
  | .requesting _ target => call = .step target
  | .checking _ change | .asleep _ change | .handling _ change => call = .access change
  | .aborting .. | .leaving _ => False

/-- How the calls and the answers stand to the turns, by the stage of the holder of the lock:
each turn has its call and its answer, and at most one call is without a turn. -/
inductive Stands (calls : List Call) (answers : List Answer) (turns : List (Call × Answer)) :
    Option Stage → Prop where
  | free (called : calls = turns.map Prod.fst) (answered : answers = turns.map Prod.snd) :
    Stands calls answers turns none
  | settled {answer : Answer} (called : calls = turns.map Prod.fst)
    (answered : answers ++ [answer] = turns.map Prod.snd) :
    Stands calls answers turns (some (.leaving answer))
  | held {call : Call} {stage : Stage} (called : calls = turns.map Prod.fst ++ [call])
    (answered : answers = turns.map Prod.snd) (serves : stage.Serves call) :
    Stands calls answers turns (some stage)

namespace Stands

variable {calls : List Call} {answers : List Answer} {turns : List (Call × Answer)}
  {stage stage' : Stage}

theorem goesOn (stands : Stands calls answers turns (some stage))
    (unsettled : ∀ answer, stage ≠ .leaving answer)
    (serves : ∀ call, stage.Serves call → stage'.Serves call) :
    Stands calls answers turns (some stage') := by
  cases stands with
  | settled called answered => exact absurd rfl (unsettled _)
  | held called answered served => exact .held called answered (serves _ served)

theorem settle {call : Call} (stands : Stands calls answers turns (some stage))
    (unsettled : ∀ answer, stage ≠ .leaving answer)
    (serves : ∀ call', stage.Serves call' → call' = call) (answer : Answer) :
    Stands calls answers (turns ++ [(call, answer)]) (some (.leaving answer)) := by
  cases stands with
  | settled called answered => exact absurd rfl (unsettled _)
  | held called answered served =>
    obtain rfl := serves _ served
    refine .settled ?_ ?_
    · rw [called, List.map_append]
      rfl
    · rw [answered, List.map_append]
      rfl

/-- Whoever is woken is at the same call. -/
theorem woken {μ : Type} (stands : Stands calls answers turns (some stage))
    (session : SharedSession μ) (run : Nat) (report? : Option Report) :
    Stands calls answers turns (some (session.wokenBy run report? stage)) := by
  obtain same | ⟨own, change, rfl, -, -, wakes⟩ := session.wokenBy_cases run report? stage
  · rw [same]
    exact stands
  · rw [wakes]
    exact stands.goesOn nofun fun _ same => same

theorem worked {μ : Type} {session : SharedSession μ}
    (stands : Stands calls answers turns session.holder) (run : Nat) (worker : Worker μ)
    (report? : Option Report) :
    Stands calls answers turns (session.worked run worker report?).holder := by
  rw [SharedSession.holder_worked]
  cases holding : session.holder with
  | none =>
    rw [holding] at stands
    exact stands
  | some stage =>
    rw [holding] at stands
    exact stands.woken session run report?

theorem enters (stands : Stands calls answers turns none) (call : Call) :
    Stands (calls ++ [call]) answers turns (some (.entered call)) := by
  cases stands with
  | free called answered =>
    have serves : (Stage.entered call).Serves call := rfl
    exact .held (congrArg (· ++ [call]) called) answered serves

theorem leaves {answer : Answer} (stands : Stands calls answers turns (some (.leaving answer))) :
    Stands calls (answers ++ [answer]) turns none := by
  cases stands with
  | settled called answered => exact .free called answered
  | held called answered serves => exact serves.elim

end Stands

/-- Every handler has been shown what the ledger says of the turns before its own. -/
def Told {μ : Type} (movement : Movement μ) (actions : List Action)
    (turns : List (Call × Answer)) : Prop :=
  ∀ earlier change world later, turns = earlier ++ (.access change, .seen world) :: later →
    ∃ record, (Ledger.ofTurns earlier).present? = some record ∧
      record.Shows movement (signalsTo (Ledger.ofTurns earlier).records.length actions) world

namespace Told

variable {μ : Type} {movement : Movement μ} {actions : List Action}
  {turns : List (Call × Answer)}

theorem later (told : Told movement actions turns) (action : Action) :
    Told movement (actions ++ [action]) turns := by
  intro earlier change world rest same
  obtain ⟨record, present, shows⟩ := told earlier change world rest same
  refine ⟨record, present, ?_⟩
  rw [signalsTo_append]
  exact shows.mono _

theorem append (told : Told movement actions turns) {turn : Call × Answer}
    (last : ∀ change world, turn = (.access change, .seen world) →
      ∃ record, (Ledger.ofTurns turns).present? = some record ∧
        record.Shows movement (signalsTo (Ledger.ofTurns turns).records.length actions) world) :
    Told movement actions (turns ++ [turn]) := by
  intro earlier change world rest same
  rcases List.eq_nil_or_concat rest with rfl | ⟨between, final, rfl⟩
  · obtain ⟨rfl, same'⟩ := List.append_inj' same rfl
    exact last change world (List.singleton_inj.mp same')
  · have same' : turns ++ [turn] =
        (earlier ++ (.access change, .seen world) :: between) ++ [final] := by
      rw [same, List.append_assoc, List.cons_append, List.concat_eq_append]
    obtain ⟨rfl, -⟩ := List.append_inj' same' rfl
    exact told earlier change world between rfl

end Told

namespace SharedSession

variable {μ : Type} {movement : Movement μ} {actions : List Action} {answers : List Answer}
  {turns : List (Call × Answer)} {session : SharedSession μ} {broken : Prop}

/-- The ledger names the present run, except in the middle of a load or a close. -/
def IsNamedBy (session : SharedSession μ) (ledger : Ledger) : Prop :=
  match session.holder with
  | some (.stopping ..) | some (.parting ..) | some (.joining ..) | some (.announcing _)
  | some (.starting ..) => True
  | _ => session.current = ledger.presentRun?

/-- The turns so far account for the session. -/
structure Account (movement : Movement μ) (actions : List Action) (answers : List Answer)
    (turns : List (Call × Answer)) (session : SharedSession μ) : Prop where
  stands : Stands (callsOf actions) answers turns session.holder
  named : session.IsNamedBy (Ledger.ofTurns turns)
  covers : (Ledger.ofTurns turns).Covers movement actions session
  told : Told movement actions turns

/-- The answer of a call that saw no state is settled. -/
theorem Account.settle {stage : Stage} {call : Call} {answer : Answer} {after : SharedSession μ}
    (stands : Stands (callsOf actions) answers turns (some stage))
    (told : Told movement actions turns) (unsettled : ∀ answer, stage ≠ .leaving answer)
    (serves : ∀ call', stage.Serves call' → call' = call)
    (unseen : ∀ change world, (call, answer) ≠ (.access change, .seen world))
    (named : after.current = ((Ledger.ofTurns turns).turn (call, answer)).presentRun?)
    (covers : ((Ledger.ofTurns turns).turn (call, answer)).Covers movement actions after) :
    (after.goTo (.leaving answer)).Account movement actions answers
      (turns ++ [(call, answer)]) := by
  rw [← Ledger.ofTurns_append] at named covers
  refine ⟨stands.settle unsettled serves answer, named, covers.congr rfl, ?_⟩
  exact told.append fun change world same => absurd same (unseen change world)

/-- The holder of the lock goes on. -/
theorem Account.goesOn {stage : Stage} {after : SharedSession μ}
    (account : session.Account movement actions answers turns)
    (holding : session.holder = some stage) (agrees : session.AgreesAt broken stage)
    (proceeds : Proceeds movement session stage after none) :
    ∃ turns, after.Account movement (actions ++ [.proceed]) answers turns := by
  obtain ⟨stands, named, covers, told⟩ := account
  unfold IsNamedBy at named
  rw [holding] at stands named
  have stands' : Stands (callsOf (actions ++ [.proceed])) answers turns (some stage) := by
    simpa [Action.call?] using stands
  have told' := told.later .proceed
  have covers' : (Ledger.ofTurns turns).Covers movement (actions ++ [.proceed]) session :=
    covers.later fun _ => rfl
  cases proceeds with
  | loadsFirst empty | loadsNext present | closes present | awaits found idle | announces =>
    exact ⟨turns, stands'.goesOn nofun fun _ same => same, trivial, covers'.congr rfl, told'⟩
  | stepBegins present begun | looks present | fallsAsleep busy | lookBegins ended =>
    exact ⟨turns, stands'.goesOn nofun fun _ same => same, named, covers'.congr rfl, told'⟩
  | stepsNowhere empty | stepRefused present refused | looksNowhere empty | lookRefused ended =>
    exact ⟨_, .settle stands' told' nofun (fun _ same => same) nofun named covers'⟩
  | closesNothing empty =>
    exact ⟨_, .settle stands' told' nofun (fun _ same => same) nofun empty covers'.close⟩
  | @tells run scenario? worker found =>
    refine ⟨turns, stands'.goesOn nofun fun _ same => same, trivial, ?_, told'⟩
    have same : (worker.send .stop).scenario = worker.scenario := rfl
    exact (covers'.replace found same fun _ follows => follows.stop).congr rfl
  | @detaches run scenario? worker found busy | @joins run scenario? worker found exited =>
    cases scenario? with
    | some scenario =>
      exact ⟨turns, stands'.goesOn nofun fun _ same => same, trivial, covers'.congr rfl, told'⟩
    | none =>
      exact ⟨_, .settle stands' told' nofun (fun _ same => same) nofun agrees.1 covers'.close⟩
  | @starts run scenario =>
    obtain ⟨-, rfl, -⟩ := agrees
    have named' : some session.nextId =
        ((Ledger.ofTurns turns).turn (.load scenario, .done)).presentRun? := by
      rw [Ledger.presentRun?, Ledger.records_load, List.length_append, covers.length_eq]
      rfl
    have covers'' := covers'.load scenario .done (some (.start movement scenario))
      fun _ same => (Option.some.inj same).symm
    exact ⟨_, .settle stands' told' nofun (fun _ same => same) nofun named' (covers''.congr rfl)⟩
  | @requests run target worker found =>
    obtain ⟨present, -, known, foundKnown, fits⟩ := agrees
    obtain rfl := Option.some.inj (found.symm.trans foundKnown)
    have loaded : (Ledger.ofTurns turns).presentRun? = some run := named.symm.trans present
    have named' : session.current = ((Ledger.ofTurns turns).turn (.step target, .done)).presentRun? :=
      named.trans (Ledger.presentRun?_enter _ _).symm
    rw [requestStep_eq fits]
    exact ⟨_, .settle stands' told' nofun (fun _ same => same) nofun named'
      (covers'.enter loaded found rfl fun _ follows => follows.request fits target)⟩
  | aborts => exact agrees.elim
  | @handles run change worker found =>
    obtain ⟨present, -, known, foundKnown, fits⟩ := agrees
    obtain rfl := Option.some.inj (found.symm.trans foundKnown)
    have loaded : (Ledger.ofTurns turns).presentRun? = some run := named.symm.trans present
    have covers'' : ((Ledger.ofTurns turns).turn (.access change, .seen worker.course.world)).Covers
        movement _ (session.setWorker run { worker with course := worker.course.change change }) :=
      covers'.enter loaded found rfl fun _ follows => follows.access fits change
    have named' : session.current =
        ((Ledger.ofTurns turns).turn (.access change, .seen worker.course.world)).presentRun? :=
      named.trans (Ledger.presentRun?_enter _ _).symm
    rw [← Ledger.ofTurns_append] at covers'' named'
    refine ⟨_, stands'.settle nofun (fun _ same => same) _, named', covers''.congr rfl, ?_⟩
    apply told'.append
    intro change' world same
    obtain ⟨-, same⟩ := Prod.mk.inj same
    obtain rfl := Answer.seen.inj same
    obtain ⟨record, open?, rfl⟩ := Ledger.exists_of_presentRun? loaded
    obtain ⟨record', listed, scenario, follows⟩ := covers'.follows _ worker found
    obtain rfl := Option.some.inj ((Ledger.record?_present open?).symm.trans listed)
    refine ⟨record, open?, ?_⟩
    have reaches := follows.reaches fits
    rw [← scenario] at reaches
    exact reaches.shows (List.prefix_refl _)

/-- The run that was to be loaded does not start, and the call is answered. -/
theorem Account.loses {run : Nat} {scenario : Scenario} {action : Action} {answer : Answer}
    (slot : Slot) (account : session.Account movement actions answers turns)
    (starting : session.holder = some (.starting run scenario)) (empty : session.current = none)
    (silent : ∀ run, action.signalTo? run = none) (uncalled : action.call? = none)
    (unstarted : answer ≠ .done) :
    ∃ turns, (({ session.addWorker none with slot }).goTo (.leaving answer)).Account movement
      (actions ++ [action]) answers turns := by
  obtain ⟨stands, -, covers, told⟩ := account
  rw [starting] at stands
  have stands' : Stands (callsOf (actions ++ [action])) answers turns
      (some (.starting run scenario)) := by
    simpa [uncalled] using stands
  have covers' := (covers.later silent).load scenario answer none nofun
  have named : none = ((Ledger.ofTurns turns).turn (.load scenario, answer)).presentRun? := by
    cases answer with
    | done => exact absurd rfl unstarted
    | seen | refused | brokenOff => rfl
  exact ⟨_, .settle stands' (told.later action) nofun (fun _ same => same) nofun
    (empty.trans named) (covers'.congr rfl)⟩

/-- Whoever acts, the session is accounted for. -/
theorem Account.acts {action : Action} {after : SharedSession μ} {answer? : Option Answer}
    (account : session.Account movement actions answers turns) (coherent : session.Coherent broken)
    (acts : Acts movement session action after answer?) :
    ∃ turns, after.Account movement (actions ++ [action]) (answers ++ answer?.toList) turns := by
  obtain ⟨stands, named, covers, told⟩ := id account
  cases acts with
  | @enters call free =>
    rw [free] at stands
    refine ⟨turns, ?_, ?_, (covers.later fun _ => rfl).congr rfl, told.later _⟩
    · simpa [Action.call?] using stands.enters call
    · unfold IsNamedBy at named ⊢
      rw [free] at named
      exact named
  | @proceeds stage after answer? holding proceeds =>
    unfold Coherent at coherent
    rw [holding] at coherent
    cases answer? with
    | none => simpa using account.goesOn holding coherent proceeds
    | some answer =>
      cases proceeds with
      | leaves =>
        unfold IsNamedBy at named
        rw [holding] at stands named
        refine ⟨turns, ?_, named, (covers.later fun _ => rfl).congr rfl, told.later _⟩
        simpa [Action.call?] using stands.leaves
  | @fails run scenario reason starting =>
    simp only [Coherent, starting] at coherent
    have refused : Answer.refused (threadError reason) ≠ .done := fun same => by cases same
    have uncalled : (Action.fail reason).call? = none := rfl
    have lost := account.loses {} starting coherent.1 (fun _ => rfl) uncalled refused
    simpa using lost
  | breaksOff starting =>
    simp only [Coherent, starting] at coherent
    have unstarted : Answer.brokenOff ≠ .done := fun same => by cases same
    have lost : ∃ turns, ((session.addWorker none).goTo (.leaving .brokenOff)).Account movement
        (actions ++ [.breakOff]) answers turns :=
      account.loses session.slot starting coherent.1 (fun _ => rfl) rfl unstarted
    simpa using lost
  | @works run worker worker' report? found goes =>
    have covers' : (Ledger.ofTurns turns).Covers movement (actions ++ [.work run]) session :=
      covers.later fun _ => rfl
    have covers'' := covers'.replace found goes.scenario_eq fun _ follows => follows.goes goes
    refine ⟨turns, ?_, ?_, covers''.congr (workers_worked ..), told.later _⟩
    · simpa [Action.call?] using stands.worked run worker' report?
    · unfold IsNamedBy at named ⊢
      rw [holder_worked, current_worked]
      cases holding : session.holder with
      | none =>
        rw [holding] at named
        exact named
      | some stage =>
        rw [holding] at named
        rw [Option.map_some]
        obtain same | ⟨own, change, rfl, -, -, wakes⟩ := session.wokenBy_cases run report? stage
        · rw [same]
          exact named
        · rw [wakes]
          exact named
  | @signals run isOpen worker found =>
    refine ⟨turns, ?_, named, covers.signal found isOpen, told.later _⟩
    simpa [Action.call?] using stands

theorem account_of_run? (ran : run? movement actions {} = some (session, answers)) :
    session.Coherent (.breakOff ∈ actions) ∧
      ∃ turns, session.Account movement actions answers turns := by
  refine run?_history
    (fun actions answers session => session.Coherent (.breakOff ∈ actions) ∧
      ∃ turns, session.Account movement actions answers turns) ?_ ?_ ran
  · refine ⟨coherent_start, [], .free rfl rfl, rfl, ⟨rfl, ?_, fun _ _ => rfl⟩, ?_⟩
    · intro run worker found
      exact absurd (worker?_eq_some_iff.mp found).2 nofun
    · intro earlier change world later same
      simp at same
  · intro actions answers session action after answer? kept acts
    obtain ⟨coherent, turns, account⟩ := kept
    exact ⟨(coherent.actsBehind acts).1, account.acts coherent acts⟩

/-- A call that is without a turn is the last one, and it is without an answer. -/
theorem turns_eq_of_stands (stands : Stands (callsOf actions) answers turns session.holder) :
    session.turns actions answers = turns := by
  unfold SharedSession.turns
  cases holding : session.holder with
  | none =>
    have none_pending : session.pending = [] := by rw [pending, holding]
    rw [holding] at stands
    rw [none_pending, List.append_nil]
    cases stands with
    | free called answered => exact (List.zip_of_prod called.symm answered.symm).symm
  | some stage =>
    rw [holding] at stands
    cases stands with
    | @settled answer called answered =>
      have one_pending : session.pending = [answer] := by rw [pending, holding]
      rw [one_pending]
      exact (List.zip_of_prod called.symm answered.symm).symm
    | @held call stage called answered serves =>
      have none_pending : session.pending = [] := by
        rw [pending, holding]
        cases stage with
        | leaving answer => exact serves.elim
        | _ => rfl
      have even : (turns.map Prod.fst).length = answers.length := by
        rw [answered, List.length_map, List.length_map]
      rw [none_pending, called, List.zip_append even, List.zip_nil_right, List.append_nil]
      exact (List.zip_of_prod rfl answered.symm).symm

theorem Account.turns_eq (account : session.Account movement actions answers turns) :
    session.turns actions answers = turns := turns_eq_of_stands account.stands

/-- Nothing else happens to a run while its state is seen. -/
theorem Rests.undisturbed {run : Nat} {change : World → World}
    (holding : session.holder = some (.handling run change))
    (rests : session.Rests run .loadedIdle) :
    ∃ worker, session.Undisturbed movement run worker := by
  obtain ⟨present, speaks, worker, found, fits⟩ := id rests
  obtain ⟨idle, asked, -⟩ := fits.idle_of_loadedIdle
  refine ⟨worker, found, ⟨idle, asked⟩, ?_⟩
  intro action after answer? acted
  cases acts_of_act? acted with
  | enters free => cases free.symm.trans holding
  | proceeds holding proceeds => exact .inl rfl
  | fails starting | breaksOff starting => cases starting.symm.trans holding
  | @works run' worker₁ worker' report? found' goes =>
    obtain ⟨other, -⟩ := rests.works found' goes
    refine .inr ⟨?_, rfl, worker, ?_, rfl⟩
    · have awake : ∀ own change', Stage.handling run change ≠ .asleep own change' := nofun
      rw [holder_worked, holding, Option.map_some, wokenBy_of_awake awake]
    · rw [worker?_worked, worker?_setWorker_of_ne (pos_of_worker? found') other]
      exact found
  | @signals run' isOpen worker' found' =>
    by_cases own : run = run'
    · subst own
      obtain rfl := Option.some.inj (found.symm.trans found')
      exact .inr ⟨rfl, rfl, _, worker?_setWorker_self found _, rfl⟩
    · refine .inr ⟨rfl, rfl, worker, ?_, rfl⟩
      exact (worker?_setWorker_of_ne (pos_of_worker? found') own _).trans found

/-- In every interleaving, whoever sees the state of a run sees it as the turns before its own
say it is: the run has done in full all that it had agreed to, in the order of the turns, and
nothing else. While the state is seen, nothing else happens to the run. And the worker of
every run follows the log of the run, so that nothing is lost or done twice. -/
theorem serial_of_run? (movement : Movement μ) (actions : List Action)
    (session : SharedSession μ) (answers : List Answer)
    (ran : run? movement actions {} = some (session, answers)) :
    (∀ earlier change world later,
      session.turns actions answers = earlier ++ (.access change, .seen world) :: later →
      ∃ record, (Ledger.ofTurns earlier).present? = some record ∧
        record.Shows movement (signalsTo (Ledger.ofTurns earlier).records.length actions) world) ∧
      (∀ run change, session.holder = some (.handling run change) →
        ∃ worker, session.Undisturbed movement run worker) ∧
      ∀ run worker, session.worker? run = some worker →
        ∃ record, (Ledger.ofTurns (session.turns actions answers)).record? run = some record ∧
          record.scenario = worker.scenario ∧
          worker.Follows movement record.log (signalsTo run actions) := by
  obtain ⟨coherent, turns, account⟩ := account_of_run? ran
  rw [account.turns_eq]
  refine ⟨account.told, ?_, account.covers.follows⟩
  intro run change holding
  unfold Coherent at coherent
  rw [holding] at coherent
  exact Rests.undisturbed holding coherent

private def walkScenario : Scenario where
  name := "walk"
  stepLength := .ofNat 1
  pedestrians := [⟨7, ⟨.ofNat 1, .ofNat 1⟩, ⟨.ofNat 2, .ofNat 1⟩⟩]

private def aside : World → World := World.modifyPerson 7 (.setPosition ⟨.ofNat 3, .ofNat 1⟩)

private def turnRound : World → World :=
  World.modifyPerson 7 fun pedestrian => { pedestrian with velocity := ⟨.zero, .ofNat 2⟩ }

/-- Three visitors. The second one comes amid two steps, and sleeps until they are made. -/
private def visitActions : List Action :=
  [.enter (.load walkScenario), .proceed, .proceed, .proceed, .proceed,
    .enter (.access aside), .proceed, .proceed, .proceed, .proceed,
    .enter (.step (some (.ofNat 2))), .proceed, .proceed, .proceed, .work 1, .work 1,
    .enter (.access turnRound), .proceed, .proceed, .work 1, .work 1, .proceed, .proceed, .proceed,
    .enter (.access id), .proceed, .proceed]

/-- The world of the walk with its only pedestrian somewhere, behind so many steps of a second. -/
private def walkWorld (step : Nat) (position velocity : Point) : World :=
  { World.ofScenario walkScenario with
    crowd := .ofList [⟨7, position, velocity⟩], step := .ofNat step, time := .ofNat step }

private def started : World := walkWorld 0 ⟨.ofNat 1, .ofNat 1⟩ ⟨.ofNat 2, .ofNat 1⟩

private def walked : World := walkWorld 2 ⟨.ofNat 7, .ofNat 3⟩ ⟨.ofNat 2, .ofNat 1⟩

private def turned : World := walkWorld 2 ⟨.ofNat 7, .ofNat 3⟩ ⟨.zero, .ofNat 2⟩

/-- What was answered, which run is seen by the holder of the lock, and the world of the first
run. -/
private def outline (ended : SharedSession Unit × List Answer) :
    List Answer × Option Nat × Option World :=
  (ended.2,
    ended.1.holder.bind fun stage => match stage with | .handling run _ => some run | _ => none,
    (ended.1.worker? 1).map fun worker => worker.course.world)

/-- The second visitor sees what the first has made of the world and what the steps have made of
that, and a third is about to see what the second has made of it. -/
theorem serial_of_run?_visits :
    ∃ session worker, run? .constantVelocity visitActions {} =
        some (session, [.done, .seen started, .done, .seen walked]) ∧
      (Record.mk walkScenario []).Shows .constantVelocity [] started ∧
      (Record.mk walkScenario [.access aside, .step (some (.ofNat 2))]).Shows .constantVelocity []
        walked ∧
      session.Undisturbed .constantVelocity 1 worker ∧ worker.course.world = turned ∧
      worker.Follows .constantVelocity
        [.access aside, .step (some (.ofNat 2)), .access turnRound] [] := by
  have outlined : (run? .constantVelocity visitActions {}).map outline =
      some ([.done, .seen started, .done, .seen walked], some 1, some turned) := by
    decide +kernel
  obtain ⟨⟨session, answers⟩, ran, outlined⟩ := Option.map_eq_some_iff.mp outlined
  obtain ⟨rfl, seen⟩ := Prod.mk.inj outlined
  obtain ⟨seen, left⟩ := Prod.mk.inj seen
  obtain ⟨worker, found, world⟩ := Option.map_eq_some_iff.mp left
  obtain ⟨change, handling⟩ : ∃ change, session.holder = some (.handling 1 change) := by
    obtain ⟨stage, holding, own⟩ := Option.bind_eq_some_iff.mp seen
    split at own
    · obtain rfl := Option.some.inj own
      exact ⟨_, holding⟩
    · cases own
  obtain ⟨told, undisturbed, follows⟩ := serial_of_run? .constantVelocity _ _ _ ran
  have turns : session.turns visitActions [.done, .seen started, .done, .seen walked] =
      [(.load walkScenario, .done), (.access aside, .seen started),
        (.step (some (.ofNat 2)), .done), (.access turnRound, .seen walked)] := by
    rw [SharedSession.turns, pending, handling]
    rfl
  rw [turns] at told follows
  obtain ⟨record, present, before⟩ := told [(.load walkScenario, .done)] aside started _ rfl
  obtain rfl := Option.some.inj present
  obtain ⟨record, present, between⟩ := told [(.load walkScenario, .done),
    (.access aside, .seen started), (.step (some (.ofNat 2)), .done)] turnRound walked [] rfl
  obtain rfl := Option.some.inj present
  obtain ⟨worker', undisturbed⟩ := undisturbed 1 change handling
  obtain rfl := Option.some.inj (found.symm.trans undisturbed.found)
  obtain ⟨record, listed, -, followed⟩ := follows 1 worker found
  obtain rfl := Option.some.inj listed
  exact ⟨session, worker, ran, before, between, undisturbed, world, followed⟩

end SharedSession

end RemoteCrowd
