import RemoteCrowd.Session.Shared

/-!
The eager schedule: whenever a worker can go on it does so before any caller, and a call
goes on until it is answered or has to wait. It is one of the interleavings, and the one in
which every effect of a call has settled before the next call. With a step that never ends
nothing ever settles.
-/

namespace RemoteCrowd

/-- Let a worker go on until it has to wait, and collect what it reports. -/
def Worker.settle {μ : Type} (movement : Movement μ) (worker : Worker μ) :
    Option (Worker μ × List Report) :=
  match worker.next? movement with
  | none => some (worker, [])
  | some (after, report?) => do
    let (last, reports) ← after |>.settle movement
    return (last, report?.toList ++ reports)
partial_fixpoint

namespace SharedSession

variable {μ : Type}

/-- Let the worker of a run go on until it has to wait. -/
def settleRun (movement : Movement μ) (session : SharedSession μ) (run : Nat) :
    Option (SharedSession μ) :=
  match session.worker? run with
  | none => some session
  | some worker => do
    let (after, reports) ← worker.settle movement
    return reports.foldl (fun session report => session.hear run (some report))
      (session.setWorker run after)

/-- Let all workers go on until they have to wait. -/
def settle (movement : Movement μ) (session : SharedSession μ) : Option (SharedSession μ) :=
  (List.range' 1 session.workers.length).foldlM (settleRun movement) session

/-- Let the holder of the lock go on, with all workers in front of it, until its call is
answered or has to wait. -/
def proceedAll (movement : Movement μ) (session : SharedSession μ) :
    Option (SharedSession μ × Option Answer) := do
  let settled ← session.settle movement
  match settled.proceed? movement with
  | none => return (settled, none)
  | some (after, some answer) => return (← after.settle movement, some answer)
  | some (after, none) => after |>.proceedAll movement
partial_fixpoint

/-- Make a call, if no other call holds the lock. Without an answer it still waits. -/
def call? (movement : Movement μ) (call : Call) (session : SharedSession μ) :
    Option (SharedSession μ × Option Answer) := do
  let (entered, _) ← session.act? movement (.enter call)
  entered.proceedAll movement

/-- Give a signal to the run loaded last, and let go on what waited for it. -/
def signalLast (movement : Movement μ) (isOpen : Bool) (session : SharedSession μ) :
    Option (SharedSession μ × Option Answer) :=
  match session.signal? movement session.workers.length isOpen with
  | some signalled => signalled.proceedAll movement
  | none => some (session, none)

end SharedSession

end RemoteCrowd
