import Mathlib.Data.Finset.Card
import Mathlib.Data.Finset.Dedup
import ShadNet.WebApi.Exits

/-!
# What a termination removes

The termination of a library context deletes the user contexts of the context one
by one and then takes the context out of the map. It is followed with notes of what
it removes, so that its result can be compared with them.
-/

namespace NpWebApi

open LockProgram Prog Books KeyedTable

/-! ## How many contexts are counted as active -/

def State.registeredIds (s : State) : Finset Int :=
  (s.libraryContexts.map ContextPtr.libCtxId).toFinset

/-- By how much `g_active_library_contexts` exceeds the number of registered contexts. -/
def State.surplus (s : State) : Int := s.activeLibraryContexts - s.registeredIds.card

theorem State.surplus_of_watched {s t : State}
    (watched : (t.libraryContexts, t.activeLibraryContexts) =
      (s.libraryContexts, s.activeLibraryContexts)) : t.surplus = s.surplus := by
  obtain ⟨contexts, active⟩ := Prod.mk.inj watched
  rw [State.surplus, State.surplus, State.registeredIds, State.registeredIds, contexts, active]

theorem registeredIds_remove (libCtxId : Int) (table : List ContextPtr) :
    ((remove ContextPtr.libCtxId libCtxId table).map ContextPtr.libCtxId).toFinset =
      (table.map ContextPtr.libCtxId).toFinset.erase libCtxId := by
  ext id
  simp only [List.mem_toFinset, List.mem_map, mem_remove, Finset.mem_erase]
  constructor
  · rintro ⟨c, ⟨member, other⟩, rfl⟩
    exact ⟨other, c, member, rfl⟩
  · rintro ⟨other, c, member, rfl⟩
    exact ⟨c, ⟨member, other⟩, rfl⟩

namespace State

variable {libCtxId : Int} {s : State}

theorem deleteContext_missing
    (missing : lookup ContextPtr.libCtxId libCtxId s.libraryContexts = none) :
    State.deleteContext libCtxId s = (libContextNotFound, s) := by
  rw [State.deleteContext, missing]

theorem surplus_deleteContext {c : ContextPtr}
    (found : lookup ContextPtr.libCtxId libCtxId s.libraryContexts = some c) :
    (State.deleteContext libCtxId s).2.surplus = s.surplus + 1 := by
  obtain ⟨member, rfl⟩ := lookup_some found
  have there : c.libCtxId ∈ (s.libraryContexts.map ContextPtr.libCtxId).toFinset :=
    List.mem_toFinset.mpr (List.mem_map_of_mem member)
  have card := Finset.card_erase_add_one there
  simp only [State.deleteContext, found, surplus, registeredIds, modifyContext]
  rw [registeredIds_remove]
  omega

theorem deleteContext_found {c : ContextPtr}
    (found : lookup ContextPtr.libCtxId libCtxId s.libraryContexts = some c) :
    (State.deleteContext libCtxId s).1 = orbisOk ∧
      (State.deleteContext libCtxId s).2.contexts c =
        { s.contexts c with handles := [], timerHandles := [], filters := fun _ => [] } := by
  simp [State.deleteContext, found, modifyContext]

end State

/-- Nothing is left in the library context. -/
structure Context.Emptied (x : Context) : Prop where
  userContexts : x.userContexts = []
  handles : x.handles = []
  timerHandles : x.timerHandles = []
  filters : ∀ kind, x.filters kind = []

/-! ## Notes of a termination -/

/-- `removed` are the contexts that were taken out of the map, with what was left in them;
`surplus` is the change of `State.surplus`. -/
structure Termination where
  closes : Bool := true
  removes : Bool := true
  found : Option ContextPtr := none
  marked : List ContextPtr := []
  removed : List (ContextPtr × Context) := []
  surplus : Int := 0

namespace Termination

/-- A user context in the way ends the termination early: before FW 4.00 any, later one whose
deletion comes out other than that it is gone. -/
def Closes (sdk : Nat) : Access → State → Bool
  | .listUserContexts c, s => decide (fw400 ≤ sdk) || (s.contexts c).userContexts.isEmpty
  | .inside (.findContext libCtxId), s => (s.registered libCtxId).isSome
  | .inside (.terminated c), s => !(s.contexts c).terminated
  | .inside (.userContextDeleted u), s => (s.userContexts u).deleted
  | _, _ => true

/-- The context that is taken out is the one that was looked up, and has no user contexts; if it
is not there any more, it has not been marked. -/
def Removes (sdk : Nat) (found : Option ContextPtr) : Access → State → Bool
  | .deleteContext libCtxId, s =>
    match lookup ContextPtr.libCtxId libCtxId s.libraryContexts with
    | none => decide (sdk < fw400)
    | some c => decide (found = some c) && (s.contexts c).userContexts.isEmpty
  | _, _ => true

def removal (access : Access) (s t : State) : List (ContextPtr × Context) :=
  match access with
  | .deleteContext libCtxId =>
    match lookup ContextPtr.libCtxId libCtxId s.libraryContexts with
    | none => []
    | some c => [(c, t.contexts c)]
  | _ => []

def enter (sdk : Nat) (access : Access) (s t : State) (notes : Termination) : Termination where
  closes := notes.closes && Closes sdk access s
  removes := notes.removes && Removes sdk notes.found access s
  found := match access with
    | .listUserContexts c => some c
    | _ => notes.found
  marked := match access with
    | .markTerminated c => notes.marked ++ [c]
    | _ => notes.marked
  removed := notes.removed ++ removal access s t
  surplus := notes.surplus + (t.surplus - s.surplus)

def fail (notes : Termination) : Termination := { notes with closes := false }

/-- The accesses that are only watched for what they do to the registry. -/
def unnoted : Access → Bool
  | .listUserContexts _ | .markTerminated _ | .deleteContext _ | .inside (.findContext _)
  | .inside (.terminated _) | .inside (.userContextDeleted _) => false
  | _ => true

theorem silent_enter {sdk : Nat} {access : Access} (plain : unnoted access) :
    (books (enter sdk)).Silent access := by
  intro s t notes watched
  have surplus : notes.surplus + (t.surplus - s.surplus) = notes.surplus := by
    rw [State.surplus_of_watched watched, Int.sub_self, Int.add_zero]
  obtain ⟨closes, removes, found, marked, removed, _⟩ := notes
  simp only [books_judge, enter, surplus]
  cases access with
  | listUserContexts | markTerminated | deleteContext => exact absurd plain Bool.false_ne_true
  | inside access =>
    cases access with
    | findContext | terminated | userContextDeleted => exact absurd plain Bool.false_ne_true
    | _ => simp [Closes, Removes, removal]
  | _ => simp [Closes, Removes, removal]

theorem quiet_enter {sdk : Nat} (access : Access) (ordinary : access.ordinary) :
    (books (enter sdk)).Silent access := by
  apply silent_enter
  cases access <;> first | rfl | exact absurd ordinary Bool.false_ne_true

/-! ## The deletion of the user contexts -/

/-- One of the deletions that the termination makes. -/
theorem ends_nestedDeletion {sdk : Nat} (userCtxId : Int) (ledger : CallLedger Termination) :
    (books (enter sdk)).Ends ((deleteUserContext sdk userCtxId).rename .inside) ledger
      (DeletionEnds fail sdk ledger) := by
  rw [Books.ends_rename]
  let nested (access : Access) := enter sdk (.inside access)
  have silent : ∀ access : Access, unnoted (.inside access) → (books nested).Silent access :=
    fun access plain => silent_enter plain
  have ends : (books nested).Ends (deleteUserContext sdk userCtxId) ledger
      (DeletionEnds fail sdk ledger) := by
    refine ends_deleteUserContext ?_ (fun _ _ => silent _ rfl) ?_ ?_ ?_ userCtxId ledger
    · intro access ordinary
      apply silent
      cases access <;> first | rfl | exact absurd ordinary Bool.false_ne_true
    · intro id s notes
      cases found : (State.registered id s).isSome <;>
        simp [nested, enter, fail, Closes, Removes, removal, found]
    · intro c s notes
      cases found : (s.contexts c).terminated <;>
        simp [nested, enter, fail, Closes, Removes, removal, found]
    · intro u s notes
      cases found : (s.userContexts u).deleted <;>
        simp [nested, enter, fail, Closes, Removes, removal, found]
  exact ends

/-- What the deletions leave in the ledger: they are given up with a result, and with a note of
it, or all user contexts were gone. -/
structure DeletionsEnd (sdk : Nat) (ids : List Int) (ledger : CallLedger Termination)
    (stop : Option Int) (later : CallLedger Termination) : Prop where
  same : (ledger.note later.notes).Same later
  contexts : ∀ c, later.own (.context c) → ledger.own (.context c)
  gone : stop = none → later.notes = ledger.notes
  stopped : stop.isSome → ids ≠ [] ∧
    (later.notes = fail ledger.notes ∨ (sdk < fw400 ∧ later.notes = ledger.notes))
  old : sdk < fw400 → stop = none → ids = []

theorem ends_deleteUserContexts {sdk : Nat} (ids : List Int) (ledger : CallLedger Termination) :
    (books (enter sdk)).Ends (deleteUserContexts sdk ids) ledger
      (DeletionsEnd sdk ids ledger) := by
  induction ids generalizing ledger with
  | nil =>
    refine ⟨Ledger.Same.refl _, fun _ own => own, fun _ => rfl, ?_, fun _ _ => rfl⟩
    exact fun stopped => absurd stopped Bool.false_ne_true
  | cons userCtxId rest ih =>
    rw [deleteUserContexts, Books.Ends, ends_bind]
    refine (ends_nestedDeletion userCtxId ledger).mono ?_
    intro result later deletion
    rw [ends_ite]
    constructor
    · intro ends
      refine ⟨deletion.same, deletion.contexts, ?_, fun _ => ⟨List.cons_ne_nil _ _, ?_⟩, ?_⟩
      · exact fun continues => absurd continues (Option.some_ne_none result)
      · rcases Nat.lt_or_ge sdk fw400 with old | new
        · rcases deletion.noted with same | failed
          · exact Or.inr ⟨old, same⟩
          · exact Or.inl failed
        · have other := ends.resolve_right (Nat.not_lt.mpr new)
          rw [deletion.outcome new, if_neg other]
          exact Or.inl rfl
      · exact fun _ continues => absurd continues (Option.some_ne_none result)
    · intro goes
      obtain ⟨gone, new⟩ := not_or.mp goes
      have notes : later.notes = ledger.notes := by
        rw [deletion.outcome (Nat.not_lt.mp new), if_pos (not_not.mp gone)]
      have same := deletion.same
      rw [notes, Ledger.note_self] at same
      refine (ih later).mono ?_
      rintro stop last ⟨restSame, restContexts, restGone, restStopped, -⟩
      refine ⟨?_, ?_, ?_, ?_, ?_⟩
      · exact (same.trans_noted restSame)
      · exact fun c own => deletion.contexts c (restContexts c own)
      · exact fun continues => (restGone continues).trans notes
      · rw [← notes]
        exact fun stops => ⟨List.cons_ne_nil _ _, (restStopped stops).2⟩
      · exact fun old => absurd old new

/-! ## The results of a termination -/

/-- The result tells what happened: on success the context that was looked up was taken out of the
map, once and with nothing left in it; on an error none was taken out or marked, and the call is
balanced. -/
structure Complete (result : Int) (later : CallLedger Termination) : Prop where
  success : result = orbisOk → ∃ c x, later.notes.found = some c ∧
    later.notes.removed = [(c, x)] ∧ x.Emptied
  error : result ≠ orbisOk → later.notes.removed = [] ∧ later.notes.marked = [] ∧ later.Balanced

theorem complete_ok {later : CallLedger Termination} : Complete orbisOk later ↔
    ∃ c x, later.notes.found = some c ∧ later.notes.removed = [(c, x)] ∧ x.Emptied :=
  ⟨fun complete => complete.success rfl, fun removed => ⟨fun _ => removed, fun failed =>
    absurd rfl failed⟩⟩

/-- What a termination leaves in the ledger. -/
structure TerminationEnds (result : Int) (later : CallLedger Termination) : Prop where
  balanced : later.Balanced ↔ later.notes.closes = true
  complete : Complete result later ↔ later.notes.closes = true ∧ later.notes.removes = true
  surplus : later.notes.surplus = later.notes.removed.length

/-- An error before anything is done. -/
theorem TerminationEnds.refused {result : Int} {found : Option ContextPtr}
    {later : CallLedger Termination} (code : result ≠ orbisOk)
    (same : (opened { found }).Same later) : TerminationEnds result later := by
  have balanced := same.balanced (Ledger.balanced_start _)
  have notes : later.notes = { found } := same.notes
  refine ⟨?_, ?_, ?_⟩
  · simp [balanced, notes]
  · rw [notes]
    refine iff_of_true ⟨fun ok => absurd ok code, fun _ => ?_⟩ ⟨rfl, rfl⟩
    rw [notes]
    exact ⟨rfl, rfl, balanced⟩
  · rw [notes]
    rfl

/-- A user context ended the termination early: the context is still marked. -/
theorem TerminationEnds.given_up {result : Int} {c : ContextPtr} {later : CallLedger Termination}
    (notes : later.notes = { closes := false, found := some c })
    (same : ((opened later.notes).mark (.context c) 1).Same later)
    (foreign : ¬later.own (.context c)) : TerminationEnds result later := by
  have unbalanced : ¬later.Balanced := not_balanced_of_mark same Int.one_ne_zero foreign
  refine ⟨?_, ?_, ?_⟩
  · simp [unbalanced, notes]
  · refine iff_of_false ?_ ?_
    · rintro ⟨success, error⟩
      by_cases ok : result = orbisOk
      · obtain ⟨d, x, -, removed, -⟩ := success ok
        simp [notes] at removed
      · exact unbalanced (error ok).2.2
    · simp [notes]
  · rw [notes]
    rfl

/-- Another call had taken the context out of the map. -/
theorem missed {sdk : Nat} {c : ContextPtr} {marked : List ContextPtr}
    {later : CallLedger Termination} (tells : marked = [] ↔ sdk < fw400)
    (notes : later.notes = { removes := decide (sdk < fw400), found := some c, marked })
    (balanced : later.Balanced) : TerminationEnds libContextNotFound later := by
  have code : libContextNotFound ≠ orbisOk := by decide
  refine ⟨?_, ?_, ?_⟩
  · simp [balanced, notes]
  · constructor
    · rintro ⟨-, error⟩
      have unmarked := (error code).2.1
      rw [notes] at unmarked ⊢
      exact ⟨rfl, decide_eq_true (tells.mp unmarked)⟩
    · rintro ⟨-, removes⟩
      rw [notes] at removes
      refine ⟨fun ok => absurd ok code, fun _ => ?_⟩
      rw [notes]
      exact ⟨rfl, tells.mpr (of_decide_eq_true removes), balanced⟩
  · rw [notes]
    rfl

/-- A context was taken out of the map. -/
theorem erased {c d : ContextPtr} {x : Context} {marked : List ContextPtr}
    {later : CallLedger Termination}
    (notes : later.notes = {
      removes := decide (some c = some d) && x.userContexts.isEmpty
      found := some c
      marked := marked
      removed := [(d, { x with handles := [], timerHandles := [], filters := fun _ => [] })]
      surplus := 1 }) (balanced : later.Balanced) : TerminationEnds orbisOk later := by
  refine ⟨?_, ?_, ?_⟩
  · simp [balanced, notes]
  · constructor
    · rintro ⟨success, -⟩
      obtain ⟨e, y, found, removed, emptied⟩ := success rfl
      rw [notes] at found removed ⊢
      simp only [Option.some.injEq, List.cons.injEq, Prod.mk.injEq, and_true] at found removed
      obtain ⟨rfl, rfl⟩ := removed
      have empty := emptied.userContexts
      simp_all
    · rintro ⟨-, removes⟩
      rw [notes] at removes
      simp only [Option.some.injEq, Bool.and_eq_true, decide_eq_true_eq,
        List.isEmpty_iff] at removes
      obtain ⟨rfl, empty⟩ := removes
      refine ⟨fun _ => ?_, fun failed => absurd rfl failed⟩
      rw [notes]
      exact ⟨c, _, rfl, rfl, ⟨empty, rfl, rfl, fun _ => rfl⟩⟩
  · rw [notes]
    rfl

theorem ends_finishTerminate {sdk : Nat} {c : ContextPtr} {libCtxId : Int} {marked : List ContextPtr}
    {ledger : CallLedger Termination} (tells : marked = [] ↔ sdk < fw400)
    (held : (((opened { found := some c, marked }).mark (.context c) 1).hold
      (.contextLock c) 1).Same ledger) :
    (books (enter sdk)).Ends (finishTerminate c libCtxId) ledger TerminationEnds := by
  rw [finishTerminate, Books.Ends, ends_bind]
  apply ends_unlock
  rw [ends_bind]
  apply ends_release quiet_enter
  have back := held.unlocked.released
  apply ends_guarded
  refine ends_access_same (fun s o _ => userCount_deleteContext libCtxId s o) ?_
  intro s later same _
  rw [Ledger.note_hold] at same
  have ends := (back.note _).trans same.unlocked
  have balanced : (later.hold .globalMutex (-1)).Balanced :=
    ends.balanced (Ledger.balanced_start _)
  have notes : later.notes = enter sdk (.deleteContext libCtxId) s
      (State.deleteContext libCtxId s).2 { found := some c, marked } := by
    have before : ledger.notes = { found := some c, marked } := back.notes
    have read : later.notes = enter sdk (.deleteContext libCtxId) s
      (State.deleteContext libCtxId s).2 ledger.notes := same.notes
    rw [read, before]
  cases found : lookup ContextPtr.libCtxId libCtxId s.libraryContexts with
  | none =>
    rw [State.deleteContext_missing found] at notes ⊢
    simp only [enter, Closes, Removes, removal, found, Bool.true_and, List.append_nil,
      Int.sub_self, Int.add_zero] at notes
    exact missed tells notes balanced
  | some d =>
    obtain ⟨code, left⟩ := State.deleteContext_found found
    simp only [enter, Closes, Removes, removal, found, left, State.surplus_deleteContext found,
      Bool.true_and, List.nil_append] at notes
    rw [code]
    have counted : 0 + (s.surplus + 1 - s.surplus) = 1 := by omega
    rw [counted] at notes
    exact erased notes balanced

theorem ends_closeContext {sdk : Nat} {c : ContextPtr} {libCtxId : Int}
    {ledger : CallLedger Termination}
    (held : ((opened { found := some c }).mark (.context c) 1).Same ledger) :
    (books (enter sdk)).Ends (closeContext sdk c libCtxId) ledger TerminationEnds := by
  rw [closeContext, Books.Ends, ends_bind]
  apply ends_lock
  have locked := held.hold (.contextLock c) 1
  rw [ends_ite]
  constructor
  · intro new
    rw [ends_bind]
    refine ends_reading_silent (Access.not_settles rfl) (quiet_enter _ rfl) ?_
    intro s
    refine (keeps_forEach (fun handle => ?_)).andThen ?_
    · refine Keeps.bind ?_ (fun _ => keeps_pure ())
      exact keeps_abortHandle_noted quiet_enter (silent_enter rfl) (fun _ => silent_enter rfl) _
    intro _ aborted same
    rw [Books.Ends, ends_bind]
    apply ends_guarded
    refine ends_reading_silent (Access.not_settles rfl) (silent_enter rfl) ?_
    intro t
    rw [Ledger.hold_hold, ends_ite]
    constructor
    · intro _
      rw [ends_bind]
      apply ends_unlock
      rw [ends_bind]
      apply ends_release quiet_enter
      exact TerminationEnds.refused (by decide) (locked.trans same).unlocked.released
    · intro _
      rw [ends_bind]
      apply ends_guarded
      refine ends_access_same (fun u o _ => userCount_modifyContext
        (f := fun x => { x with terminated := true }) (fun _ _ => rfl)) ?_
      intro u marked marks _
      have before : aborted.notes = { found := some c } := (locked.trans same).notes
      have noted : enter sdk (.markTerminated c) u
          (State.modifyContext c (fun x => { x with terminated := true }) u) aborted.notes =
            { found := some c, marked := [c] } := by
        have surplus : (State.modifyContext c (fun x => { x with terminated := true }) u).surplus =
            u.surplus := rfl
        simp [enter, Closes, Removes, removal, before, surplus]
      rw [Ledger.note_hold] at marks
      have closed := ((locked.trans same).note _).trans marks.unlocked
      have held : (((opened { found := some c, marked := [c] }).mark (.context c) 1).hold
          (.contextLock c) 1).Same (marked.hold (.contextLock c) (-1)) := by
        rw [← noted]
        exact closed
      refine (still_isContextInUse quiet_enter).andThen ?_
      intro busy
      refine still_waitWhile.andThen ?_
      intro _
      refine ends_finishTerminate ?_ held
      exact iff_of_false (List.cons_ne_nil c []) (Nat.not_lt.mpr new)
  · intro old
    refine ends_finishTerminate ?_ locked
    exact iff_of_true rfl (Nat.not_le.mp old)

theorem ends_terminateContext (sdk : Nat) (libCtxId : Int) :
    (books (enter sdk)).Ends (terminateContext sdk libCtxId) (opened {}) TerminationEnds := by
  rw [terminateContext, Books.Ends, ends_bind]
  refine ends_findAndValidateContext quiet_enter (silent_enter rfl) (fun _ => silent_enter rfl) ?_ ?_
  · exact TerminationEnds.refused (by decide) (Ledger.Same.refl _)
  intro c
  have asked : (books (enter sdk)).Still
      (if sdk < fw400 then isContextBusy c else pure false) :=
    still_ite (still_isContextBusy quiet_enter) (still_pure false)
  refine asked.andThen ?_
  intro refused
  rw [Books.Ends, ends_ite]
  constructor
  · intro _
    rw [ends_bind]
    apply ends_release quiet_enter
    exact TerminationEnds.refused (by decide) (Ledger.Same.refl _).released
  intro _
  rw [ends_bind]
  refine ends_reading (Access.not_settles rfl) ?_
  intro s
  have listed : enter sdk (.listUserContexts c) s s {} = {
      closes := decide (fw400 ≤ sdk) || (s.contexts c).userContexts.isEmpty
      found := some c } := by
    simp [enter, Closes, Removes, removal]
  rw [ends_bind]
  refine (ends_deleteUserContexts _ _).mono ?_
  intro stop later ends
  have marked := ends.same
  rw [Ledger.note_mark] at marked
  cases stop with
  | some result =>
    have foreign : ¬later.own (.context c) := fun own => ends.contexts c own
    obtain ⟨listsSome, noted⟩ := ends.stopped rfl
    have some_ : (s.contexts c).userContexts.isEmpty = false := by
      cases empty : (s.contexts c).userContexts with
      | nil => exact absurd (congrArg (List.map UserContextPtr.userCtxId) empty) listsSome
      | cons => rfl
    refine TerminationEnds.given_up ?_ marked foreign
    rcases noted with failed | ⟨old, kept⟩
    · rw [failed]
      exact congrArg fail listed
    · have early : decide (fw400 ≤ sdk) = false := decide_eq_false (Nat.not_le.mpr old)
      rw [kept]
      refine Eq.trans listed ?_
      rw [early, some_]
      rfl
  | none =>
    have notes : later.notes = { found := some c } := by
      refine (ends.gone rfl).trans (Eq.trans listed ?_)
      rcases Nat.lt_or_ge sdk fw400 with old | new
      · have empty : (s.contexts c).userContexts = [] := List.map_eq_nil_iff.mp (ends.old old rfl)
        simp [empty]
      · simp [new]
    rw [notes] at marked
    exact ends_closeContext marked

theorem ends_sceNpWebApiTerminate (sdk : Nat) (libCtxId : Int) :
    (books (enter sdk)).Ends (sceNpWebApiTerminate sdk libCtxId) (opened {}) (fun result later =>
      (later.Balanced ↔ later.notes.closes = true) ∧
      (Complete result later ∧ later.notes.surplus = 0 ↔
        later.notes.closes = true ∧ later.notes.removes = true)) := by
  rw [sceNpWebApiTerminate, Books.Ends, ends_bind]
  refine (ends_terminateContext sdk libCtxId).mono ?_
  rintro result later ⟨balanced, complete, surplus⟩
  rw [ends_ite]
  constructor
  · intro failed
    refine ⟨balanced, ?_⟩
    rw [← complete]
    refine ⟨And.left, fun whole => ⟨whole, ?_⟩⟩
    rw [surplus, (whole.error failed).1]
    rfl
  · intro ok
    obtain rfl : result = orbisOk := not_not.mp ok
    rw [ends_bind]
    refine ends_access_same (fun s o _ => userCount_of_maps rfl rfl rfl rfl) ?_
    intro s last same owns
    have notes : last.notes = { later.notes with surplus := later.notes.surplus - 1 } := by
      refine Eq.trans same.notes ?_
      have counted : ∀ t : State, t.libraryContexts = s.libraryContexts →
          t.activeLibraryContexts = s.activeLibraryContexts - 1 → t.surplus - s.surplus = -1 := by
        intro t contexts active
        rw [State.surplus, State.surplus, State.registeredIds, State.registeredIds, contexts, active]
        omega
      simp [enter, Closes, Removes, removal, books_judge, counted]
      rfl
    have settled : last.Balanced ↔ later.Balanced :=
      (same.balanced_iff (fun o own => ((owns o).mp own).elim id False.elim)).trans
        Ledger.balanced_note
    rw [ends_pure, settled]
    have kept : Complete orbisOk last ↔ Complete orbisOk later := by
      rw [complete_ok, complete_ok, notes]
    rw [kept, complete, notes]
    refine ⟨balanced, And.left, fun sound => ⟨sound, ?_⟩⟩
    obtain ⟨c, x, -, removed, -⟩ := complete_ok.mp (complete.mpr sound)
    rw [removed] at surplus
    simp only [surplus, List.length_singleton]
    rfl

end Termination

end NpWebApi
