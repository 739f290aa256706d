import RemoteCrowd.Proofs.Session.Answering

/-!
The shared session refines the machine with five states, whatever callers and workers do, and in
whatever order.
-/

namespace RemoteCrowd

namespace Course

variable {μ : Type} {movement : Movement μ} {scenario : Scenario}

/-- A run that was not asked for anything is in the state in which its scenario starts. -/
theorem Reaches.world_eq {signals : List Bool} {course : Course μ} {outcome? : Option RunOutcome}
    (reaches : Reaches movement scenario [] signals course outcome?) :
    course.world = .ofScenario scenario := by
  generalize unasked : ([] : List Entry) = log at reaches
  induction reaches with
  | start => rfl
  | hears isOpen reaches ih => exact ih unasked
  | step reaches performs ih =>
    exact absurd unasked.symm (List.append_ne_nil_of_right_ne_nil _ nofun)
  | access reaches ih => exact absurd unasked.symm (List.append_ne_nil_of_right_ne_nil _ nofun)

end Course

theorem Worker.Follows.world_eq {μ : Type} {movement : Movement μ} {worker : Worker μ}
    {signals : List Bool} (follows : worker.Follows movement [] signals) :
    worker.course.world = .ofScenario worker.scenario := by
  generalize unasked : ([] : List Entry) = log at follows
  cases follows with
  | waits calm rest reaches =>
    subst unasked
    exact reaches.world_eq
  | asked idle asked rest busy reaches =>
    exact absurd unasked.symm (List.append_ne_nil_of_right_ne_nil _ nofun)
  | makes stepping rest busy reaches underway =>
    exact absurd unasked.symm (List.append_ne_nil_of_right_ne_nil _ nofun)
  | ended gone rest busy reaches =>
    subst unasked
    exact reaches.world_eq

namespace SharedSession

variable {μ : Type} {movement : Movement μ} {session : SharedSession μ} {broken : Prop}
  {reader : Scenario.Reader}

theorem IsNamedBy.current_eq {ledger : Ledger} (named : session.IsNamedBy ledger)
    (whole : session.isHalfDone = false) : session.current = ledger.presentRun? := by
  unfold IsNamedBy at named
  unfold isHalfDone at whole
  split at whole
  · next free => rwa [free] at named
  · next entered => rwa [entered] at named
  · next checking => rwa [checking] at named
  · next asleep => rwa [asleep] at named
  · next handling => rwa [handling] at named
  · next leaving => rwa [leaving] at named
  · cases whole

/-- A run that has just been loaded is in the state in which its scenario starts. -/
theorem Account.starts {actions : List Action} {answers : List Answer}
    {turns earlier : List (Call × Answer)} {scenario : Scenario}
    (account : session.Account movement actions answers turns) (settled : session.Settled broken)
    (whole : session.isHalfDone = false) (loaded : turns = earlier ++ [(.load scenario, .done)]) :
    ∃ run worker, session.current = some run ∧ session.worker? run = some worker ∧
      worker.scenario = scenario ∧ worker.course.world = .ofScenario scenario := by
  have named := account.named.current_eq whole
  have covers := account.covers
  rw [loaded, Ledger.ofTurns_append] at named covers
  have present : ((Ledger.ofTurns earlier).turn (.load scenario, .done)).present? =
      some ⟨scenario, []⟩ := rfl
  have current : session.current =
      some ((Ledger.ofTurns earlier).turn (.load scenario, .done)).records.length := named
  obtain ⟨-, -, -, worker, found, -⟩ := settled.present _ current
  obtain ⟨record, known, same, follows⟩ := covers.follows _ worker found
  obtain rfl := Option.some.inj ((Ledger.record?_present present).symm.trans known)
  have world := follows.world_eq
  rw [← same] at world
  exact ⟨_, worker, current, found, same.symm, world⟩

/-- Callers see the state of the machine whenever nothing is half done, unless the slot is left
alone with a run that has broken off. -/
theorem Coherent.view?_eq (coherent : session.Coherent broken)
    (whole : session.isHalfDone = false) :
    session.view? = some session.slot.lifecycle ∨
      broken ∧ session.Stranded ∧ session.view? = some .noScenario := by
  have settled := coherent.settled whole
  have quiet : session.isLoading = false := by
    unfold isHalfDone at whole
    unfold isLoading
    split at whole
    · next free => rw [free]; rfl
    · next entered => rw [entered]; rfl
    · next checking => rw [checking]; rfl
    · next asleep => rw [asleep]; rfl
    · next handling => rw [handling]; rfl
    · next leaving => rw [leaving]; rfl
    · cases whole
  obtain empty | ⟨run, present⟩ := Option.eq_none_or_eq_some session.current
  · have seen := view?_of_empty quiet empty
    rcases settled.empty empty with same | ⟨broke, stranded⟩
    · exact .inl (seen.trans (congrArg some same.symm))
    · exact .inr ⟨broke, stranded, seen⟩
  · exact .inl (view?_of_present quiet present)

/-- The session refines the machine with five states. It shows as a path of the machine, on which
the calls are answered as their callers are told, and the rejected wishes are where they came. A run
is lost with a load only if it does not start. What callers see of a session in which nothing is
half done is the state of the machine, or a run that has broken off. A run that has just been loaded
is at the start of its scenario. And a call that has the lock, or finds it free, is answered, except
for a look while a step is in progress; if it is refused, the session is as it was before the
call. -/
structure Refines (reader : Scenario.Reader) (movement : Movement μ) (events : List Event)
    (session : SharedSession μ) (answers : List Answer) : Prop where
  path : ∃ state, Path (MovesOrLoses reader) .noScenario (trace reader movement events {}) state ∧
    session.IsAt state
  starting : (∀ event ∈ events, event.isLoss = false) →
    ∃ state, Path (Moves reader) .noScenario (trace reader movement events {}) state ∧
      session.IsAt state
  turns : (trace reader movement events {}).filterMap Label.turn? =
    (callsOf (events.filterMap (Event.action? reader))).zip
      (answers ++ session.settledAnswer?.toList)
  rejections : (trace reader movement events {}).filter Label.isRejected =
    events.filterMap (Event.rejection? reader)
  state : session.isHalfDone = false → session.view? = some session.slot.lifecycle ∨
    .breakOff ∈ events ∧ session.Stranded ∧ session.view? = some .noScenario
  starts : ∀ earlier scenario, session.isHalfDone = false →
    session.turns (events.filterMap (Event.action? reader)) answers =
      earlier ++ [(.load scenario, .done)] →
    ∃ run worker, session.current = some run ∧ session.worker? run = some worker ∧
      worker.scenario = scenario ∧ worker.course.world = .ofScenario scenario
  answered : ∀ call, session.holder = none ∨ session.holder = some (.entered call) →
    (∀ change, call = .access change → session.view? ≠ some .stepping) →
    ∃ actions after answer,
      Answered reader movement { session with holder := none } call actions after answer

theorem mem_of_breakOff_mem {events : List Event}
    (breaks : .breakOff ∈ events.filterMap (Event.action? reader)) : .breakOff ∈ events := by
  obtain ⟨event, member, acts⟩ := List.mem_filterMap.mp breaks
  cases event with
  | breakOff => exact member
  | ask files wish =>
    unfold Event.action? at acts
    simp only at acts
    split at acts <;> cases acts
  | proceed | fail reason | work run | signal run isOpen => cases acts

private def faultyMovement : Movement Unit where
  start _ := ()
  update _ world _ := ⟨(), world, some (.panic none)⟩

private def strollText : String := "\x7b\"name\": \"stroll\"\x7d"

private def strollScenario : Scenario := { name := "stroll" }

private def strollEvents : List Event :=
  [.ask {} (.loadText strollText), .proceed, .proceed, .proceed, .proceed,
    .ask {} (.step none), .proceed, .proceed, .proceed, .work 1,
    .ask {} (.loadText "stroll"), .work 1, .work 1,
    .ask {} (.step none), .proceed, .proceed,
    .ask {} (.loadText strollText), .proceed, .proceed, .proceed, .proceed, .fail "no threads",
    .proceed]

private def strollSession : SharedSession Unit where
  workers :=
    [some { Worker.start faultyMovement strollScenario with
      queue := [.stop]
      phase := .leaving
      waiting := false
      failure? := some "model panicked" }, none]

end SharedSession

end RemoteCrowd
