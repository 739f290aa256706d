import RemoteCrowd.Proofs.Session.Coherence
import RemoteCrowd.Session.Automaton
import RemoteCrowd.Session.Ledger

/-!
How a shared session shows as the machine with five states. Every action of a caller or a worker is
a move of the machine, or leaves its state. Every call settles one turn, and its answer is given
later. Callers who are turned away show where they came.
-/

namespace RemoteCrowd

variable {reader : Scenario.Reader}

/-- A label is a move of the machine, and without a label the state stays. -/
def Shown (Move : Lifecycle → Label → Lifecycle → Prop) (before : Lifecycle)
    (label? : Option Label) (after : Lifecycle) : Prop :=
  match label? with
  | none => after = before
  | some label => Move before label after

section Path

variable {Move Move' : Lifecycle → Label → Lifecycle → Prop} {before between after : Lifecycle}

theorem Shown.mono {label? : Option Label} (shown : Shown Move before label? after)
    (weaker : ∀ before label after, Move before label after → Move' before label after) :
    Shown Move' before label? after := by
  cases label? with
  | none => exact shown
  | some label => exact weaker _ _ _ shown

theorem Path.append {labels later : List Label} (path : Path Move before labels between)
    (path' : Path Move between later after) : Path Move before (labels ++ later) after := by
  induction path with
  | stays => exact path'
  | goesOn move _ ih => exact .goesOn move (ih path')

theorem Shown.path {label? : Option Label} (shown : Shown Move before label? after) :
    Path Move before label?.toList after := by
  cases label? with
  | none =>
    obtain rfl := shown
    exact .stays _
  | some label => exact .goesOn shown (.stays _)

end Path

theorem Lifecycle.refuses_of_checkUsable {lifecycle : Lifecycle} {cause : Error}
    (refused : lifecycle.checkUsable = .error cause) : lifecycle.Refuses cause := by
  cases lifecycle with
  | loadedIdle | stepping => cases refused
  | noScenario =>
    obtain rfl := Except.error.inj refused
    exact .noScenario
  | finished =>
    obtain rfl := Except.error.inj refused
    exact .finished
  | failed reason =>
    obtain rfl := Except.error.inj refused
    exact .failed reason

theorem Slot.refuses_of_stepEnd? {slot : Slot} {run : Nat} {cause : Error}
    (own : slot.runId = run) (ended : slot.stepEnd? run = some (.error cause)) :
    slot.lifecycle.Refuses cause := by
  rw [stepEnd?, if_pos own] at ended
  split at ended
  · cases ended
  · exact Lifecycle.refuses_of_checkUsable (Option.some.inj ended)

theorem Slot.moves_of_beginStep {slot : Slot} {run : Nat} {cause : Error}
    (own : slot.runId = run) (refused : slot.beginStep run = .error cause)
    (target : Option Double) :
    Moves reader slot.lifecycle (.answered (.step target) (.refused cause)) slot.lifecycle := by
  rw [beginStep, checkUsable_own own] at refused
  cases usable : slot.lifecycle.checkUsable with
  | error cause' =>
    rw [usable] at refused
    obtain rfl := Except.error.inj refused
    exact .refusesStep target (Lifecycle.refuses_of_checkUsable usable)
  | ok _ =>
    rw [usable] at refused
    by_cases stepping : slot.lifecycle = .stepping
    · simp only [stepping, if_true] at refused
      obtain rfl := Except.error.inj refused
      rw [stepping]
      exact .isStepping target
    · simp only [stepping, if_false] at refused
      cases refused

/-- Whether a run does not start with this action. -/
def Action.isLoss : Action → Bool
  | .fail _ | .breakOff => true
  | _ => false

theorem isLoss_of_action? {event : Event} {action : Action}
    (acts : event.action? reader = some action) : action.isLoss = event.isLoss := by
  cases event with
  | ask files wish =>
    unfold Event.action? at acts
    simp only at acts
    split at acts
    · obtain rfl := Option.some.inj acts
      rfl
    · cases acts
  | proceed | fail reason | breakOff | work run | signal run isOpen =>
    obtain rfl := Option.some.inj acts
    rfl

namespace SharedSession

variable {μ : Type} {movement : Movement μ} {session after : SharedSession μ}
  {answer? : Option Answer} {broken : Prop} {state : Lifecycle}

/-- The machine is in this state, as far as the session shows it. -/
def IsAt (session : SharedSession μ) (state : Lifecycle) : Prop :=
  ∀ view, session.view? = some view → view = state

theorem isAt_of_loading (loading : session.isLoading = true) : session.IsAt state := by
  intro view seen
  rw [view?, if_pos loading] at seen
  cases seen

theorem isAt_of_empty (empty : session.current = none) : session.IsAt .noScenario := by
  intro view seen
  unfold view? at seen
  rw [empty] at seen
  split at seen
  · cases seen
  · exact (Option.some.inj seen).symm

theorem isAt_of_present {run : Nat} (present : session.current = some run) :
    session.IsAt session.slot.lifecycle := by
  intro view seen
  unfold view? at seen
  rw [present] at seen
  split at seen
  · cases seen
  · exact (Option.some.inj seen).symm

theorem view?_of_empty (quiet : session.isLoading = false) (empty : session.current = none) :
    session.view? = some .noScenario := by
  rw [view?, quiet, empty]
  rfl

theorem view?_of_present (quiet : session.isLoading = false) {run : Nat}
    (present : session.current = some run) : session.view? = some session.slot.lifecycle := by
  rw [view?, quiet, present]
  rfl

theorem IsAt.eq_of_empty (stands : session.IsAt state) (quiet : session.isLoading = false)
    (empty : session.current = none) : state = .noScenario :=
  (stands _ (view?_of_empty quiet empty)).symm

theorem IsAt.eq_of_present (stands : session.IsAt state) (quiet : session.isLoading = false)
    {run : Nat} (present : session.current = some run) : state = session.slot.lifecycle :=
  (stands _ (view?_of_present quiet present)).symm

theorem isLoading_of_holder {stage : Stage} (holding : session.holder = some stage) :
    session.isLoading = stage.scenario?.isSome := by
  rw [isLoading, holding]
  rfl

/-- An action that does not show leaves the machine where it is. -/
theorem shown_unseen {Move : Lifecycle → Label → Lifecycle → Prop} (stands : after.IsAt state) :
    ∃ state', Shown Move state none state' ∧ after.IsAt state' := ⟨state, rfl, stands⟩

theorem shown_proceeds {stage : Stage} (stands : session.IsAt state)
    (holding : session.holder = some stage) (agrees : session.AgreesAt broken stage)
    (proceeds : Proceeds movement session stage after answer?) :
    ∃ state', Shown (Moves reader) state (session.label? movement after .proceed) state' ∧
      after.IsAt state' := by
  have loading := isLoading_of_holder holding
  unfold label? openCall?
  rw [holding]
  cases proceeds with
  | loadsFirst empty => exact shown_unseen (isAt_of_loading rfl)
  | loadsNext present => exact shown_unseen (isAt_of_loading rfl)
  | stepsNowhere empty =>
    obtain rfl := stands.eq_of_empty loading empty
    exact ⟨_, Moves.refusesStep _ .noScenario, isAt_of_empty empty⟩
  | stepRefused present refused =>
    obtain ⟨own, -⟩ := (agrees_iff_of_eq_some present).mp agrees
    obtain rfl := stands.eq_of_present loading present
    exact ⟨_, Slot.moves_of_beginStep own refused _, isAt_of_present present⟩
  | @stepBegins target run slot present begun =>
    obtain ⟨own, -⟩ := (agrees_iff_of_eq_some present).mp agrees
    obtain ⟨idle, rfl⟩ := Slot.beginStep_eq_ok own begun
    obtain rfl := stands.eq_of_present loading present
    rw [idle]
    exact ⟨_, Moves.steps target, isAt_of_present present⟩
  | looksNowhere empty =>
    obtain rfl := stands.eq_of_empty loading empty
    exact ⟨_, Moves.refusesAccess _ .noScenario, isAt_of_empty empty⟩
  | looks present =>
    obtain rfl := stands.eq_of_present loading present
    exact shown_unseen (isAt_of_present present)
  | fallsAsleep busy =>
    obtain rfl := stands.eq_of_present loading agrees.2
    exact shown_unseen (isAt_of_present agrees.2)
  | lookRefused ended =>
    obtain ⟨agrees, present⟩ := agrees
    obtain ⟨own, -⟩ := (agrees_iff_of_eq_some present).mp agrees
    obtain rfl := stands.eq_of_present loading present
    exact ⟨_, Moves.refusesAccess _ (Slot.refuses_of_stepEnd? own ended), isAt_of_present present⟩
  | lookBegins ended =>
    obtain rfl := stands.eq_of_present loading agrees.2
    exact shown_unseen (isAt_of_present agrees.2)
  | closesNothing empty => exact ⟨_, Moves.closes _, isAt_of_empty empty⟩
  | closes present => exact ⟨_, Moves.closes _, isAt_of_empty rfl⟩
  | @tells run scenario? worker found | @awaits run scenario? worker found
  | @detaches run scenario? worker found | @joins run scenario? worker found =>
    cases scenario? with
    | some scenario => exact shown_unseen (isAt_of_loading rfl)
    | none =>
      obtain rfl := stands.eq_of_empty loading agrees.1
      exact shown_unseen (isAt_of_empty agrees.1)
  | announces => exact shown_unseen (isAt_of_loading rfl)
  | @starts run scenario =>
    obtain ⟨-, -, announced⟩ := agrees
    have idle : session.slot.lifecycle = .loadedIdle := by rw [announced]
    refine ⟨_, Moves.loads _ scenario, ?_⟩
    rw [← idle]
    exact isAt_of_present rfl
  | @requests run target worker found =>
    obtain ⟨present, -, known, foundKnown, fits⟩ := agrees
    obtain rfl := Option.some.inj (found.symm.trans foundKnown)
    obtain rfl := stands.eq_of_present loading present
    rw [requestStep_eq fits]
    exact shown_unseen (isAt_of_present present)
  | aborts => exact agrees.elim
  | @handles run change worker found =>
    obtain ⟨present, speaks, -⟩ := agrees
    obtain rfl := stands.eq_of_present loading present
    have idle : session.slot.lifecycle = .loadedIdle := by rw [speaks]
    have move : Moves reader session.slot.lifecycle
        (.answered (.access change) (.seen worker.course.world)) session.slot.lifecycle := by
      rw [idle]
      exact .shows change worker.course.world
    exact ⟨_, move, isAt_of_present present⟩
  | @leaves answer =>
    obtain empty | ⟨run, present⟩ := Option.eq_none_or_eq_some session.current
    · obtain rfl := stands.eq_of_empty loading empty
      exact shown_unseen (isAt_of_empty empty)
    · obtain rfl := stands.eq_of_present loading present
      exact shown_unseen (isAt_of_present present)

/-- The end of a step of the present run moves the machine on. -/
theorem moves_of_reports {worker worker' : Worker μ} {report : Report} {slot : Slot} {run : Nat}
    (own : slot.runId = run) (fits : worker.Matches slot.lifecycle)
    (goes : worker.Goes movement worker' (some report)) :
    Moves reader slot.lifecycle (.ended report.outcome?) (slot.note run report).lifecycle := by
  cases goes with
  | reports reporting =>
    generalize lifecycle : slot.lifecycle = lifecycle' at fits
    unfold Slot.note
    rw [if_pos own]
    cases fits with
    | pauses reporting' asked sound =>
      obtain rfl := Phase.reporting.inj (reporting.symm.trans reporting')
      simp only [lifecycle, if_true]
      exact .pauses
    | @ends outcome reporting' unforced asked =>
      obtain rfl := Phase.reporting.inj (reporting.symm.trans reporting')
      cases outcome with
      | stopped => exact absurd rfl unforced
      | completed => exact .completes
      | failed reason => exact .fails reason
    | finished unforced gone asked => simp [Worker.isServing, reporting] at gone
    | _ => simp_all

theorem label?_work {run : Nat} {worker worker' : Worker μ} {report? : Option Report}
    (found : session.worker? run = some worker) (goes : worker.Goes movement worker' report?)
    (after : SharedSession μ) :
    session.label? movement after (.work run) =
      if session.current = some run then report?.map fun report => .ended report.outcome?
      else none := by
  have next := Worker.next?_eq_some_iff.mpr goes
  simp only [label?, found, Option.bind_eq_bind, Option.bind_some, next]

/-- The worker of the present run moves the machine, whoever holds the lock. -/
theorem Agrees.shown_works (agrees : session.Agrees broken) {own run : Nat}
    (present : session.current = some own) {worker worker' : Worker μ} {report? : Option Report}
    (found : session.worker? run = some worker) (goes : worker.Goes movement worker' report?) :
    Shown (Moves reader) session.slot.lifecycle
      (if session.current = some run then report?.map fun report => .ended report.outcome?
        else none)
      (session.slot.heard run report?).lifecycle := by
  obtain ⟨speaks, known, foundKnown, fits⟩ := (agrees_iff_of_eq_some present).mp agrees
  rw [present]
  by_cases same : own = run
  · subst same
    obtain rfl := Option.some.inj (found.symm.trans foundKnown)
    rw [if_pos rfl]
    cases report? with
    | none => rfl
    | some report => exact moves_of_reports speaks fits goes
  · have other : some own ≠ some run := fun equal => same (Option.some.inj equal)
    rw [if_neg other, Slot.heard_of_ne (speaks ▸ same)]
    rfl

/-- A worker that goes on is not the one that waits for a request. -/
theorem Rests.shown_works {own : Nat} {lifecycle : Lifecycle} (rests : session.Rests own lifecycle)
    {run : Nat} {worker worker' : Worker μ} {report? : Option Report}
    (found : session.worker? run = some worker) (goes : worker.Goes movement worker' report?) :
    Shown (Moves reader) session.slot.lifecycle
      (if session.current = some run then report?.map fun report => .ended report.outcome?
        else none)
      (session.slot.heard run report?).lifecycle := by
  obtain ⟨other, -⟩ := rests.works found goes
  obtain ⟨present, speaks, -⟩ := rests
  have elsewhere : session.current ≠ some run := by
    rw [present]
    exact fun equal => other (Option.some.inj equal)
  have apart : session.slot.runId ≠ run := by
    rw [speaks]
    exact other
  rw [if_neg elsewhere, Slot.heard_of_ne apart]
  rfl

/-- Callers see nothing of who is woken. -/
@[simp] theorem scenario?_wokenBy (session : SharedSession μ) (run : Nat)
    (report? : Option Report) (stage : Stage) :
    (session.wokenBy run report? stage).scenario? = stage.scenario? := by
  obtain same | ⟨own, change, rfl, -, -, wakes⟩ := session.wokenBy_cases run report? stage
  · rw [same]
  · rw [wakes]
    rfl

theorem isLoading_worked (session : SharedSession μ) (run : Nat) (worker : Worker μ)
    (report? : Option Report) :
    (session.worked run worker report?).isLoading = session.isLoading := by
  rw [isLoading, isLoading, holder_worked]
  cases session.holder with
  | none => rfl
  | some stage =>
    simp only [Option.map_some, Option.bind_some, scenario?_wokenBy]

/-- Only the worker of the present run moves the machine. -/
theorem shown_works (stands : session.IsAt state) (coherent : session.Coherent broken) {run : Nat}
    {worker worker' : Worker μ} {report? : Option Report}
    (found : session.worker? run = some worker) (goes : worker.Goes movement worker' report?) :
    ∃ state', Shown (Moves reader) state
        (session.label? movement (session.worked run worker' report?) (.work run)) state' ∧
      (session.worked run worker' report?).IsAt state' := by
  rw [label?_work found goes]
  have loading' := isLoading_worked session run worker' report?
  cases present : session.current with
  | none =>
    rw [if_neg nofun]
    have empty := (current_worked session run worker' report?).trans present
    cases loading : session.isLoading with
    | true => exact shown_unseen (isAt_of_loading (loading'.trans loading))
    | false =>
      obtain rfl := stands.eq_of_empty loading present
      exact shown_unseen (isAt_of_empty empty)
  | some own =>
    have present' := (current_worked session run worker' report?).trans present
    have shown : Shown (Moves reader) session.slot.lifecycle
        (if session.current = some run then report?.map fun report => .ended report.outcome?
          else none)
        (session.slot.heard run report?).lifecycle ∧ session.isLoading = false := by
      unfold Coherent at coherent
      cases holding : session.holder with
      | none =>
        rw [holding] at coherent
        exact ⟨Agrees.shown_works coherent present found goes, by rw [isLoading, holding]; rfl⟩
      | some stage =>
        rw [holding] at coherent
        rw [isLoading_of_holder holding]
        cases stage with
        | entered call => exact ⟨Agrees.shown_works coherent present found goes, rfl⟩
        | leaving answer => exact ⟨Agrees.shown_works coherent.1 present found goes, rfl⟩
        | checking own change => exact ⟨Agrees.shown_works coherent.1 present found goes, rfl⟩
        | asleep own change => exact ⟨Agrees.shown_works coherent.1 present found goes, rfl⟩
        | requesting own target => exact ⟨Rests.shown_works coherent found goes, rfl⟩
        | handling own change => exact ⟨Rests.shown_works coherent found goes, rfl⟩
        | stopping | parting | joining | starting => cases present.symm.trans coherent.1
        | announcing => cases present.symm.trans coherent
        | aborting => exact coherent.elim
    obtain ⟨shown, quiet⟩ := shown
    obtain rfl := stands.eq_of_present quiet present
    rw [← present]
    refine ⟨_, shown, ?_⟩
    rw [← slot_worked session run worker' report?]
    exact isAt_of_present present'

/-- Every action shows as a move of the machine, or leaves its state. -/
theorem shown_acts {action : Action} (stands : session.IsAt state)
    (coherent : session.Coherent broken) (acts : Acts movement session action after answer?)
    (starts : action.isLoss = false) :
    ∃ state', Shown (Moves reader) state (session.label? movement after action) state' ∧
      after.IsAt state' := by
  cases acts with
  | enters free =>
    refine shown_unseen fun view seen => stands view ?_
    rw [← seen, view?, view?, isLoading, isLoading, free]
    rfl
  | proceeds holding proceeds =>
    unfold Coherent at coherent
    rw [holding] at coherent
    exact shown_proceeds stands holding coherent proceeds
  | fails | breaksOff => cases starts
  | works found goes => exact shown_works stands coherent found goes
  | signals found => exact shown_unseen stands

/-- A run that does not start shows as one that is lost. -/
theorem loses_of_isLoss {action : Action} (coherent : session.Coherent broken)
    (acts : Acts movement session action after answer?) (lost : action.isLoss = true) :
    ∃ state', Shown Loses state (session.label? movement after action) state' ∧
      after.IsAt state' := by
  cases acts with
  | @fails run scenario reason starting =>
    unfold label? openCall?
    simp only [Coherent, starting] at coherent ⊢
    exact ⟨_, Loses.startFails _ scenario reason, isAt_of_empty coherent.1⟩
  | @breaksOff run scenario starting =>
    unfold label? openCall?
    simp only [Coherent, starting] at coherent ⊢
    exact ⟨_, Loses.breaksOff _ scenario, isAt_of_empty coherent.1⟩
  | enters | proceeds | works | signals => cases lost

/-- Every run of events shows as a path of the machine, on which runs are lost only if they do not
start. -/
theorem path_of_run? {Move : Lifecycle → Label → Lifecycle → Prop} {events : List Event}
    {last : SharedSession μ} {answers : List Answer}
    (plain : ∀ before label after, Moves reader before label after → Move before label after)
    (lossy : ∀ event ∈ events, event.isLoss = true →
      ∀ before label after, Loses before label after → Move before label after)
    (stands : session.IsAt state) (coherent : session.Coherent True)
    (ran : run? movement (events.filterMap (Event.action? reader)) session =
      some (last, answers)) :
    ∃ state', Path Move state (trace reader movement events session) state' ∧
      last.IsAt state' := by
  induction events generalizing session state answers with
  | nil =>
    obtain ⟨rfl, -⟩ := Prod.mk.inj (Option.some.inj ran)
    exact ⟨state, .stays _, stands⟩
  | cons event rest ih =>
    have later : ∀ event ∈ rest, event.isLoss = true →
        ∀ before label after, Loses before label after → Move before label after :=
      fun other member => lossy other (List.mem_cons_of_mem _ member)
    cases acts : event.action? reader with
    | none =>
      rw [List.filterMap_cons_none acts] at ran
      simp only [trace, acts]
      have shown : Shown Move state (event.rejection? reader) state := by
        cases event with
        | ask files wish =>
          cases called : wish.call reader files with
          | ok call => simp [Event.action?, called] at acts
          | error cause =>
            simp only [Event.rejection?, called]
            exact plain _ _ _ (.rejects _ called)
        | proceed | fail reason | breakOff | work run | signal run isOpen => cases acts
      obtain ⟨state', path, stands'⟩ := ih later stands coherent ran
      exact ⟨state', shown.path.append path, stands'⟩
    | some action =>
      rw [List.filterMap_cons_some acts] at ran
      obtain ⟨after, answer?, given, acted, ranRest, -⟩ := run?_cons_eq_some_iff.mp ran
      have acted' := acts_of_act? acted
      simp only [trace, acts, acted]
      have same : action.isLoss = event.isLoss := isLoss_of_action? acts
      obtain ⟨between, shown, stands'⟩ : ∃ between,
          Shown Move state (session.label? movement after action) between ∧
            after.IsAt between := by
        cases lost : action.isLoss with
        | false =>
          obtain ⟨between, shown, stands'⟩ := shown_acts stands coherent acted' lost
          exact ⟨between, shown.mono plain, stands'⟩
        | true =>
          obtain ⟨between, shown, stands'⟩ := loses_of_isLoss coherent acted' lost
          exact ⟨between, shown.mono (lossy event List.mem_cons_self (same ▸ lost)), stands'⟩
      have coherent' := (coherent.acts acted' fun _ => trivial).1
      obtain ⟨state', path, standsLast⟩ := ih later stands' coherent' ranRest
      exact ⟨state', shown.path.append path, standsLast⟩

/-- The turn that an action settles, if it settles one. -/
def turn? (movement : Movement μ) (session after : SharedSession μ) (action : Action) :
    Option (Call × Answer) := (session.label? movement after action).bind Label.turn?

/-- Calls are open until their turn is settled, and a settled answer is given later. -/
structure TurnKept (movement : Movement μ) (session after : SharedSession μ) (action : Action)
    (answer? : Option Answer) : Prop where
  calls : session.openCall?.toList ++ action.call?.toList =
    (session.turn? movement after action).toList.map Prod.fst ++ after.openCall?.toList
  answers : answer?.toList ++ after.settledAnswer?.toList =
    session.settledAnswer?.toList ++ (session.turn? movement after action).toList.map Prod.snd

/-- The turn of a call whose answer is settled. -/
def turnOf (call? : Option Call) (answer? : Option Answer) : Option (Call × Answer) :=
  call?.bind fun call => answer?.map fun answer => (call, answer)

/-- What the holder of the lock does settles its call or leaves it open. -/
theorem turnKept_of_holder {stage : Stage} {action : Action}
    (holding : session.holder = some stage) (uncalled : action.call? = none)
    (labelled : session.label? movement after action =
      stage.call?.bind fun call => after.settledAnswer?.map (.answered call))
    (kept : stage.call?.toList =
        (turnOf stage.call? after.settledAnswer?).toList.map Prod.fst ++ after.openCall?.toList ∧
      answer?.toList ++ after.settledAnswer?.toList =
        stage.answer?.toList ++ (turnOf stage.call? after.settledAnswer?).toList.map Prod.snd) :
    session.TurnKept movement after action answer? := by
  have isOpen : session.openCall? = stage.call? := by rw [openCall?, holding]; rfl
  have settled : session.settledAnswer? = stage.answer? := by rw [settledAnswer?, holding]; rfl
  have turn : session.turn? movement after action = turnOf stage.call? after.settledAnswer? := by
    rw [turn?, labelled]
    cases stage.call? with
    | none => rfl
    | some call => cases after.settledAnswer? <;> rfl
  obtain ⟨calls, answers⟩ := kept
  rw [← turn] at calls answers
  rw [← isOpen] at calls
  rw [← settled] at answers
  refine ⟨?_, answers⟩
  rw [uncalled]
  exact (List.append_nil _).trans calls

theorem turnKept_proceeds {stage : Stage} (holding : session.holder = some stage)
    (agrees : session.AgreesAt broken stage)
    (proceeds : Proceeds movement session stage after answer?) :
    session.TurnKept movement after .proceed answer? := by
  have labelled : session.label? movement after .proceed =
      stage.call?.bind fun call => after.settledAnswer?.map (.answered call) := by
    rw [label?, openCall?, holding]
    rfl
  refine turnKept_of_holder holding rfl labelled ?_
  cases proceeds with
  | @tells run scenario? worker found | @awaits run scenario? worker found
  | @detaches run scenario? worker found | @joins run scenario? worker found =>
    cases scenario? <;> exact ⟨rfl, rfl⟩
  | requests found =>
    obtain ⟨-, -, known, foundKnown, fits⟩ := agrees
    obtain rfl := Option.some.inj (found.symm.trans foundKnown)
    rw [requestStep_eq fits]
    exact ⟨rfl, rfl⟩
  | aborts => exact agrees.elim
  | _ => exact ⟨rfl, rfl⟩

@[simp] theorem call?_wokenBy (session : SharedSession μ) (run : Nat) (report? : Option Report)
    (stage : Stage) : (session.wokenBy run report? stage).call? = stage.call? := by
  obtain same | ⟨own, change, rfl, -, -, wakes⟩ := session.wokenBy_cases run report? stage
  · rw [same]
  · rw [wakes]
    rfl

@[simp] theorem answer?_wokenBy (session : SharedSession μ) (run : Nat) (report? : Option Report)
    (stage : Stage) : (session.wokenBy run report? stage).answer? = stage.answer? := by
  obtain same | ⟨own, change, rfl, -, -, wakes⟩ := session.wokenBy_cases run report? stage
  · rw [same]
  · rw [wakes]
    rfl

theorem turnKept_works {run : Nat} {worker worker' : Worker μ} {report? : Option Report}
    (found : session.worker? run = some worker) (goes : worker.Goes movement worker' report?) :
    session.TurnKept movement (session.worked run worker' report?) (.work run) none := by
  have silent :
      session.turn? movement (session.worked run worker' report?) (.work run) = none := by
    rw [turn?, label?_work found goes]
    split
    · cases report? <;> rfl
    · rfl
  have isOpen : (session.worked run worker' report?).openCall? = session.openCall? := by
    rw [openCall?, openCall?, holder_worked]
    cases session.holder <;> simp
  have settled : (session.worked run worker' report?).settledAnswer? = session.settledAnswer? := by
    rw [settledAnswer?, settledAnswer?, holder_worked]
    cases session.holder <;> simp
  refine ⟨?_, ?_⟩
  · rw [silent, isOpen]
    exact List.append_nil _
  · rw [silent, settled]
    exact (List.append_nil _).symm

theorem turnKept_acts {action : Action} (coherent : session.Coherent broken)
    (acts : Acts movement session action after answer?) :
    session.TurnKept movement after action answer? := by
  cases acts with
  | enters free =>
    refine ⟨?_, ?_⟩
    · rw [openCall?, free]
      rfl
    · rw [settledAnswer?, settledAnswer?, free]
      rfl
  | proceeds holding proceeds =>
    unfold Coherent at coherent
    rw [holding] at coherent
    exact turnKept_proceeds holding coherent proceeds
  | fails starting | breaksOff starting =>
    refine turnKept_of_holder starting rfl ?_ ⟨rfl, rfl⟩
    rw [label?, openCall?, starting]
    rfl
  | works found goes => exact turnKept_works found goes
  | signals found =>
    refine ⟨List.append_nil _, ?_⟩
    exact (List.append_nil _).symm

/-- Over a run of events, the calls are those of the turns and the open one, and the answers
are those of the turns, of which the last may not have been given yet. -/
theorem turns_of_run? {events : List Event} {last : SharedSession μ} {answers : List Answer}
    (coherent : session.Coherent True)
    (ran : run? movement (events.filterMap (Event.action? reader)) session = some (last, answers)) :
    session.openCall?.toList ++ callsOf (events.filterMap (Event.action? reader)) =
        ((trace reader movement events session).filterMap Label.turn?).map Prod.fst ++
          last.openCall?.toList ∧
      answers ++ last.settledAnswer?.toList = session.settledAnswer?.toList ++
        ((trace reader movement events session).filterMap Label.turn?).map Prod.snd := by
  induction events generalizing session answers with
  | nil =>
    obtain ⟨rfl, rfl⟩ := Prod.mk.inj (Option.some.inj ran)
    exact ⟨List.append_nil _, (List.append_nil _).symm⟩
  | cons event rest ih =>
    cases acts : event.action? reader with
    | none =>
      rw [List.filterMap_cons_none acts] at ran ⊢
      have silent : (event.rejection? reader).toList.filterMap Label.turn? = [] := by
        cases event with
        | ask files wish =>
          unfold Event.rejection?
          simp only
          split <;> rfl
        | proceed | fail reason | breakOff | work run | signal run isOpen => rfl
      simp only [trace, acts, List.filterMap_append, silent, List.nil_append]
      exact ih coherent ran
    | some action =>
      rw [List.filterMap_cons_some acts] at ran ⊢
      obtain ⟨after, answer?, later, acted, ranRest, rfl⟩ := run?_cons_eq_some_iff.mp ran
      have kept := turnKept_acts coherent (acts_of_act? acted)
      obtain ⟨calls, answers⟩ := ih (coherent.acts (acts_of_act? acted) fun _ => trivial).1 ranRest
      have turn : (session.label? movement after action).toList.filterMap Label.turn? =
          (session.turn? movement after action).toList := by
        unfold turn?
        cases session.label? movement after action with
        | none => rfl
        | some label => cases label <;> rfl
      have first : callsOf (action :: rest.filterMap (Event.action? reader)) =
          action.call?.toList ++ callsOf (rest.filterMap (Event.action? reader)) := by
        cases action <;> rfl
      simp only [trace, acts, acted, List.filterMap_append, turn, List.map_append]
      constructor
      · rw [first, ← List.append_assoc, kept.calls, List.append_assoc, calls, List.append_assoc]
      · rw [List.append_assoc, answers, ← List.append_assoc, kept.answers, List.append_assoc]

/-- A session that starts empty settles its calls in order, and each with the answer that its
caller is given. -/
theorem turns_eq_zip {events : List Event} {last : SharedSession μ} {answers : List Answer}
    (ran : run? movement (events.filterMap (Event.action? reader)) {} = some (last, answers)) :
    (trace reader movement events {}).filterMap Label.turn? =
      (callsOf (events.filterMap (Event.action? reader))).zip (answers ++ last.settledAnswer?.toList) := by
  obtain ⟨calls, given⟩ := turns_of_run? coherent_start ran
  generalize (trace reader movement events ({} : SharedSession μ)).filterMap Label.turn? = settled
    at calls given
  have calls' : callsOf (events.filterMap (Event.action? reader)) =
      settled.map Prod.fst ++ last.openCall?.toList := calls
  have given' : answers ++ last.settledAnswer?.toList = settled.map Prod.snd ++ [] :=
    given.trans (List.append_nil _).symm
  have even : (settled.map Prod.fst).length = (settled.map Prod.snd).length := by simp
  rw [calls', given', List.zip_append even, List.zip_nil_right, List.append_nil]
  exact List.zip_of_prod rfl rfl

theorem isRejected_of_label? {action : Action} {label : Label}
    (shown : session.label? movement after action = some label) : label.isRejected = false := by
  cases action with
  | enter call | signal run isOpen => cases shown
  | proceed | fail reason | breakOff =>
    obtain ⟨call, -, shown⟩ := Option.bind_eq_some_iff.mp shown
    obtain ⟨answer, -, rfl⟩ := Option.map_eq_some_iff.mp shown
    rfl
  | work run =>
    simp only [label?] at shown
    split at shown
    · obtain ⟨worker, -, shown⟩ := Option.bind_eq_some_iff.mp shown
      obtain ⟨moved, -, shown⟩ := Option.bind_eq_some_iff.mp shown
      obtain ⟨report, -, rfl⟩ := Option.map_eq_some_iff.mp shown
      rfl
    · cases shown

/-- Callers who are turned away show as such, and nobody else does. -/
theorem rejected_of_run? {events : List Event} {last : SharedSession μ} {answers : List Answer}
    (ran : run? movement (events.filterMap (Event.action? reader)) session = some (last, answers)) :
    (trace reader movement events session).filter Label.isRejected =
      events.filterMap (Event.rejection? reader) := by
  induction events generalizing session answers with
  | nil => rfl
  | cons event rest ih =>
    cases acts : event.action? reader with
    | none =>
      rw [List.filterMap_cons_none acts] at ran
      have shown : (event.rejection? reader).toList.filter Label.isRejected = (event.rejection? reader).toList := by
        cases event with
        | ask files wish =>
          unfold Event.rejection?
          simp only
          split <;> rfl
        | proceed | fail reason | breakOff | work run | signal run isOpen => rfl
      simp only [trace, acts, List.filter_append, shown, ih ran]
      cases rejected : event.rejection? reader <;> simp [rejected]
    | some action =>
      rw [List.filterMap_cons_some acts] at ran
      obtain ⟨after, answer?, later, acted, ranRest, rfl⟩ := run?_cons_eq_some_iff.mp ran
      have silent : event.rejection? reader = none := by
        cases event with
        | ask files wish =>
          unfold Event.rejection?
          simp only
          split
          · rfl
          · next rejected => simp [Event.action?, rejected] at acts
        | proceed | fail reason | breakOff | work run | signal run isOpen => rfl
      have heard : (session.label? movement after action).toList.filter Label.isRejected = [] := by
        cases shown : session.label? movement after action with
        | none => rfl
        | some label => simp [isRejected_of_label? shown]
      simp only [trace, acts, acted, List.filter_append, heard, List.nil_append, ih ranRest]
      rw [List.filterMap_cons_none silent]

end SharedSession

end RemoteCrowd
