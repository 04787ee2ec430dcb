import ShadNet.Audits
import ShadNet.WebApi2.Balance

/-!
# When all calls of the second web API have returned

Any number of threads call the library at once, each stopped and resumed between any
two of its steps. What a call still owes when it returns is known, so the user counts
of the objects that are not deleted come back to where they were.
-/

namespace NpWebApi2.Internal

open LockProgram Prog Books
open NpWebApi (ContextPtr UserContextPtr RequestPtr HandlePtr Object)

/-- The thread of a call. -/
def calling (op : Op) : Call Unit := do
  let _ ← program op
  pure ()

abbrev CallMachine := Machine State Mutex Access

abbrev CallMachine.step (action : LockProgram.Action Op) (machine : CallMachine) : CallMachine :=
  Machine.step ready calling action machine

/-- The object is not deleted, and none of the exits is taken that leave something behind. -/
def CallMachine.Sound (o : Object) (action : LockProgram.Action Op) (machine : CallMachine) : Prop :=
  Machine.Permitted (fun _ access s => ¬access.deletes s o ∧ access.sound s = true) action machine

instance (o : Object) (action : LockProgram.Action Op) (machine : CallMachine) :
    Decidable (CallMachine.Sound o action machine) :=
  inferInstanceAs (Decidable (Machine.Permitted _ action machine))

theorem calling_ends (op : Op) :
    books.Ends (calling op) { notes := true }
      (fun _ later => later.Balanced ↔ later.notes = true) :=
  ends_then (accounted_program op)

/-- As long as no call takes one of the exits, all marks that were made on an object that nobody
deletes are made good by the time that every call has returned. -/
theorem users_return (initial : State) (actions : List (LockProgram.Action Op)) (o : Object)
    (sound : Runs.Admitted CallMachine.step (CallMachine.Sound o) actions ⟨initial, []⟩)
    (finished : ∀ t ∈ (Runs.run CallMachine.step actions ⟨initial, []⟩).threads,
      t.code = .done ()) :
    State.userCount o (Runs.run CallMachine.step actions ⟨initial, []⟩).state =
      State.userCount o initial := by
  have start : books.Auditable o (fun notes => notes = true)
      (fun later => later.Balanced ↔ later.notes = true) true initial
      (⟨initial, []⟩ : CallMachine) := ⟨_, audited_start rfl⟩
  have clean : ∀ (held : List Mutex) access s, ¬access.deletes s o ∧ access.sound s = true →
      ¬books.settles access s o ∧
        ∀ t notes, notes = true → books.judge access s t notes = true := by
    rintro held access s ⟨spares, sound⟩
    refine ⟨spares, fun t notes noted => ?_⟩
    simp [books, sound, noted]
  obtain ⟨ledgers, audited⟩ := start.run clean calling_ends sound
  exact audited.returned (fun _ account noted => account.mpr noted) finished

/-- A call that takes one of the exits leaves something behind, whatever the other threads do. -/
theorem exits_leave_something (op : Op) :
    books.Ends (calling op) { notes := true }
      (fun _ later => later.notes = false → ¬later.Balanced) :=
  (calling_ends op).mono (fun _ _ account noted balanced =>
    Bool.false_ne_true (noted.symm.trans (account.mp balanced)))

/-- A library context is made, and two threads look at its memory pool at the same time. -/
def sharedRun : List (LockProgram.Action Op) :=
  .spawn (.createLibraryContext .normal 0) :: List.replicate 5 (.take 0) ++
    .spawn (.getMemoryPoolStats 1) :: .spawn (.getMemoryPoolStats 1) ::
      List.replicate 7 (.take 1) ++ List.replicate 7 (.take 2) ++ List.replicate 4 (.take 1) ++
        List.replicate 4 (.take 2)

theorem users_return_shared : State.userCount (.context ⟨1, 0⟩)
    (Runs.run CallMachine.step sharedRun ⟨{}, []⟩).state = 0 := by
  have codes : (Runs.run CallMachine.step sharedRun ⟨{}, []⟩).threads.map Thread.code =
      [.done (), .done (), .done ()] := rfl
  refine users_return {} sharedRun _ (by decide) ?_
  intro t member
  have code := List.mem_map_of_mem (f := Thread.code) member
  rw [codes] at code
  simpa using code

end NpWebApi2.Internal
