import ShadNet.IdSearch
import ShadNet.WebApi.State
import Mathlib.Tactic.SplitIfs

/-!
# Ids of library contexts and user contexts

The first library searches downwards from its counter. The second moves its counter on, starting
again at 1, until it is at an id that is not in use, unless its tables are full.
-/

namespace NpWebApi.State

open IdSearch

theorem freeBelow_eq_searchDown (used : List Int) (rounds : Nat) (id : Int) :
    freeBelow used rounds id = searchDown used rounds id := by
  induction rounds generalizing id with
  | zero => rfl
  | succ rounds ih => rw [freeBelow, searchDown, ih]

theorem advance_lt {limit : Int} (room : 2 ≤ limit) (count : Int) :
    advance limit count < limit := by
  rw [advance]
  split
  · omega
  · omega

/-! ## What the operations return -/

def libCtxIds (s : State) : List Int := s.libraryContexts.map ContextPtr.libCtxId

def userCtxIds (c : ContextPtr) (s : State) : List Int :=
  (s.contexts c).userContexts.map UserContextPtr.userCtxId

/-- Where the search for the next library context starts. -/
def nextLibCount (s : State) : Int := advance 0x8000 s.libraryContextCount

def nextUserCount (s : State) : Int := advance 0x10000 s.userContextCount

theorem createLibraryContext_fst (s : State) :
    s.createLibraryContext.1 =
      if searchDown s.libCtxIds s.libCtxIds.length s.nextLibCount ≤ 0 then libContextMax
      else searchDown s.libCtxIds s.libCtxIds.length s.nextLibCount := by
  rw [← freeBelow_eq_searchDown]
  by_cases full : freeBelow s.libCtxIds s.libCtxIds.length s.nextLibCount ≤ 0
  · rw [if_pos full]
    exact congrArg Prod.fst (if_pos full)
  · rw [if_neg full]
    exact congrArg Prod.fst (if_neg full)

/-- `createUserContext` answers `none` where the source returns the error. -/
def createUserContextResult (c : ContextPtr) (userId : Int) (s : State) : Int :=
  (s.createUserContext c c.libCtxId userId).1.getD userContextMax

/-- The id before the first one of the user contexts of the library context. -/
def beforeUsers (c : ContextPtr) : Int := c.libCtxId.shiftLeft 0x10

theorem createUserContextResult_eq (c : ContextPtr) (userId : Int) (s : State) :
    s.createUserContextResult c userId =
      if searchDown (s.userCtxIds c) (s.userCtxIds c).length (beforeUsers c + s.nextUserCount)
        ≤ beforeUsers c then userContextMax
      else searchDown (s.userCtxIds c) (s.userCtxIds c).length
        (beforeUsers c + s.nextUserCount) := by
  rw [← freeBelow_eq_searchDown]
  by_cases full : freeBelow (s.userCtxIds c) (s.userCtxIds c).length
      (beforeUsers c + s.nextUserCount) ≤ beforeUsers c
  · rw [if_pos full]
    exact congrArg (fun answer : Option Int × State => answer.1.getD userContextMax) (if_pos full)
  · rw [if_neg full]
    exact congrArg (fun answer : Option Int × State => answer.1.getD userContextMax) (if_neg full)

end NpWebApi.State

namespace NpWebApi2.ContextIds

open IdSearch

def libContextMax : Int := NpHandler.orbisError 0x80553418
def userContextMax : Int := NpHandler.orbisError 0x80553419

/-! ## Library contexts of the second library -/

/-- The ids in `g_lib_contexts`, and `g_current_lib_context_id`. -/
structure LibraryContexts where
  ids : List Nat := []
  current : Nat := 0
  distinct : ids.Nodup := by decide
  inRange : ∀ id ∈ ids, 1 ≤ id ∧ id < 0x8000 := by decide
  current_lt : current < 0x8000 := by decide

def LibraryContexts.has (s : LibraryContexts) (id : Nat) : Bool := s.ids.contains id

theorem LibraryContexts.has_iff {s : LibraryContexts} {id : Nat} :
    s.has id = true ↔ id ∈ s.ids := by
  simp [LibraryContexts.has]

/-- With a table of valid ids the test for too many is never met. -/
theorem LibraryContexts.length_lt (s : LibraryContexts) : s.ids.length < 0x8000 := by
  have few := length_le_of_range s.distinct s.inRange
  omega

def LibraryContexts.insert (s : LibraryContexts) (id : Nat)
    (new : s.has id = false ∧ 1 ≤ id ∧ id < 0x8000) : LibraryContexts where
  ids := id :: s.ids
  current := id
  distinct := List.nodup_cons.mpr
    ⟨fun used => Bool.false_ne_true (new.1.symm.trans (has_iff.mpr used)), s.distinct⟩
  inRange := List.forall_mem_cons.mpr ⟨new.2, s.inRange⟩
  current_lt := new.2.2

/-- `none` while the loop has not ended. -/
def createLibraryContext (rounds : Nat) (s : LibraryContexts) : Option (Int × LibraryContexts) :=
  if 0x8000 ≤ s.ids.length then some (libContextMax, s)
  else
    match found : searchUp s.has 0x8000 rounds s.current with
    | none => none
    | some id => some (id, s.insert id (searchUp_some (by decide) found))

theorem createLibraryContext_fst (rounds : Nat) (s : LibraryContexts) :
    (createLibraryContext rounds s).map Prod.fst =
      (searchUp s.has 0x8000 rounds s.current).map (fun id : Nat => 0 + (id : Int)) := by
  have room := s.length_lt
  rw [createLibraryContext, if_neg (by omega)]
  split
  · next searching => rw [searching]; rfl
  · next id found =>
    have searched := congrArg (Option.map (fun id : Nat => 0 + (id : Int))) found
    rw [searched, Option.map_some, Option.map_some, Int.zero_add]

/-! ## User contexts of the second library -/

/-- A library context: its id, the ids of its user contexts, and `g_current_user_context_id`,
which all library contexts share. -/
structure UserContexts where
  id : Nat
  ids : List Nat := []
  current : Nat := 0
  id_lt : 1 ≤ id ∧ id < 0x8000 := by decide
  distinct : ids.Nodup := by decide
  inRange : ∀ userCtxId ∈ ids, id * 0x10000 + 1 ≤ userCtxId ∧ userCtxId < id * 0x10000 + 0x10000 :=
    by decide
  current_lt : current < 0x10000 := by decide

/-- The counter is put beside the id of the library context. -/
def UserContexts.actualUserCtxId (s : UserContexts) (counter : Nat) : Nat :=
  s.id <<< 0x10 ||| counter

theorem UserContexts.actualUserCtxId_eq (s : UserContexts) {counter : Nat}
    (small : counter < 0x10000) : s.actualUserCtxId counter = s.id * 0x10000 + counter := by
  have joined : s.id <<< 0x10 + counter = s.id <<< 0x10 ||| counter :=
    Nat.shiftLeft_add_eq_or_of_lt (by omega) s.id
  have shifted : s.id <<< 0x10 = s.id * 0x10000 := Nat.shiftLeft_eq s.id 0x10
  rw [actualUserCtxId, ← joined, shifted]

def UserContexts.has (s : UserContexts) (counter : Nat) : Bool :=
  s.ids.contains (s.actualUserCtxId counter)

theorem UserContexts.has_iff {s : UserContexts} {counter : Nat} :
    s.has counter = true ↔ s.actualUserCtxId counter ∈ s.ids := by
  simp [UserContexts.has]

theorem UserContexts.length_lt (s : UserContexts) : s.ids.length < 0x10000 := by
  have few := length_le_of_range s.distinct s.inRange
  omega

def UserContexts.insert (s : UserContexts) (counter : Nat)
    (new : s.has counter = false ∧ 1 ≤ counter ∧ counter < 0x10000) : UserContexts where
  id := s.id
  ids := s.actualUserCtxId counter :: s.ids
  current := counter
  id_lt := s.id_lt
  distinct := List.nodup_cons.mpr
    ⟨fun used => Bool.false_ne_true (new.1.symm.trans (has_iff.mpr used)), s.distinct⟩
  inRange := by
    refine List.forall_mem_cons.mpr ⟨?_, s.inRange⟩
    have here := s.actualUserCtxId_eq new.2.2
    omega
  current_lt := new.2.2

def createUserContext (rounds : Nat) (s : UserContexts) : Option (Int × UserContexts) :=
  if 0x10000 ≤ s.ids.length then some (userContextMax, s)
  else
    match found : searchUp s.has 0x10000 rounds s.current with
    | none => none
    | some counter =>
      some (s.actualUserCtxId counter, s.insert counter (searchUp_some (by decide) found))

theorem createUserContext_fst (rounds : Nat) (s : UserContexts) :
    (createUserContext rounds s).map Prod.fst =
      (searchUp s.has 0x10000 rounds s.current).map
        (fun counter : Nat => (s.id : Int) * 0x10000 + (counter : Int)) := by
  have room := s.length_lt
  rw [createUserContext, if_neg (by omega)]
  split
  · next searching => rw [searching]; rfl
  · next counter found =>
    have good := searchUp_some (by decide) found
    have searched := congrArg
      (Option.map (fun counter : Nat => (s.id : Int) * 0x10000 + (counter : Int))) found
    rw [searched, Option.map_some, Option.map_some, s.actualUserCtxId_eq good.2.2]
    simp

/-! ## Both libraries -/

/-- The ids of user contexts are searched for above the shifted id of their library context, and
lead back to it. -/
structure AllocatesUnder (parent : Int) (used : Int → Prop) (full : Int)
    (operation : Nat → Option Int) : Prop where
  allocates : Allocates used (parent.shiftLeft 0x10) (parent.shiftLeft 0x10 + 0xffff) full operation
  decodes : ∀ id, Ends operation id → id = full ∨ id.shiftRight 0x10 = parent

theorem shiftRight_of_range {parent id : Int} (above : parent.shiftLeft 0x10 < id)
    (below : id ≤ parent.shiftLeft 0x10 + 0xffff) : id.shiftRight 0x10 = parent := by
  have left : parent.shiftLeft 0x10 = parent * 0x10000 := Int.shiftLeft_eq parent 0x10
  have right : id.shiftRight 0x10 = id / 0x10000 := Int.shiftRight_eq_div_pow id 0x10
  omega

/-- What a bounded search downwards returns is the error or from above its end. -/
theorem decodes_of_downwards {used : List Int} {parent start full : Int}
    (below : start ≤ parent.shiftLeft 0x10 + 0xffff) {id : Int}
    (ends : Ends (fun _ => some
      (if searchDown used used.length start ≤ parent.shiftLeft 0x10 then full
       else searchDown used used.length start)) id) :
    id = full ∨ id.shiftRight 0x10 = parent := by
  have under := searchDown_le used used.length start
  rw [ends_const] at ends
  split at ends
  · exact Or.inl ends.symm
  · right
    exact shiftRight_of_range (by omega) (by omega)

theorem nextLibCount_le (s : NpWebApi.State) : s.nextLibCount ≤ 0x7fff := by
  have below : s.nextLibCount < 0x8000 := NpWebApi.State.advance_lt (by decide) _
  omega

theorem nextUserCount_le (s : NpWebApi.State) : s.nextUserCount ≤ 0xffff := by
  have below : s.nextUserCount < 0x10000 := NpWebApi.State.advance_lt (by decide) _
  omega

theorem firstLibrary_libraryContexts_iff (s : NpWebApi.State) :
    Allocates (· ∈ s.libCtxIds) 0 0x7fff NpWebApi.libContextMax
        (fun _ => some s.createLibraryContext.1) ↔
      (HasFree (· ∈ s.libCtxIds) 0 0x7fff → HasFree (· ∈ s.libCtxIds) 0 s.nextLibCount) := by
  rw [s.createLibraryContext_fst]
  exact allocates_searchDown_iff (nextLibCount_le s) (by decide)

theorem firstLibrary_userContexts_iff (c : NpWebApi.ContextPtr) (userId : Int)
    (s : NpWebApi.State) (valid : 1 ≤ c.libCtxId) :
    AllocatesUnder c.libCtxId (· ∈ s.userCtxIds c) NpWebApi.userContextMax
        (fun _ => some (s.createUserContextResult c userId)) ↔
      (HasFree (· ∈ s.userCtxIds c) (c.libCtxId.shiftLeft 0x10)
          (c.libCtxId.shiftLeft 0x10 + 0xffff) →
        HasFree (· ∈ s.userCtxIds c) (c.libCtxId.shiftLeft 0x10)
          (c.libCtxId.shiftLeft 0x10 + s.nextUserCount)) := by
  have small := nextUserCount_le s
  have shifted : c.libCtxId.shiftLeft 0x10 = c.libCtxId * 0x10000 := Int.shiftLeft_eq _ 0x10
  have error : NpWebApi.userContextMax ≤ c.libCtxId.shiftLeft 0x10 := by
    have negative : NpWebApi.userContextMax < 0 := by decide
    omega
  have inRange : c.libCtxId.shiftLeft 0x10 + s.nextUserCount ≤
      c.libCtxId.shiftLeft 0x10 + 0xffff := by
    omega
  rw [s.createUserContextResult_eq c userId]
  constructor
  · intro allocates
    exact (allocates_searchDown_iff inRange error).mp allocates.allocates
  · intro enough
    constructor
    · exact (allocates_searchDown_iff inRange error).mpr enough
    · intro id ends
      exact decodes_of_downwards inRange ends

/-- The ids that the second library has in use, as its callers see them. -/
def Used (ids : List Nat) (id : Int) : Prop := ∃ n ∈ ids, (n : Int) = id

theorem secondLibrary_libraryContexts_iff (s : LibraryContexts) :
    Allocates (Used s.ids) 0 0x7fff libContextMax
        (fun rounds => (createLibraryContext rounds s).map Prod.fst) ↔
      HasFree (Used s.ids) 0 0x7fff := by
  have same : ∀ n : Nat, 1 ≤ n → n < 0x8000 → (Used s.ids (0 + n) ↔ s.has n = true) := by
    intro n _ _
    rw [LibraryContexts.has_iff, Used, Int.zero_add]
    constructor
    · rintro ⟨m, member, equal⟩
      rwa [← Int.ofNat_inj.mp equal]
    · intro member
      exact ⟨n, member, rfl⟩
  simp only [createLibraryContext_fst]
  exact allocates_searchUp_iff (by decide) (by decide) same s.current

theorem secondLibrary_userContexts_iff (s : UserContexts) :
    AllocatesUnder s.id (Used s.ids) userContextMax
        (fun rounds => (createUserContext rounds s).map Prod.fst) ↔
      HasFree (Used s.ids) ((s.id : Int).shiftLeft 0x10) ((s.id : Int).shiftLeft 0x10 + 0xffff) := by
  have shifted : (s.id : Int).shiftLeft 0x10 = (s.id : Int) * 0x10000 := Int.shiftLeft_eq _ 0x10
  have same : ∀ n : Nat, 1 ≤ n → n < 0x10000 →
      (Used s.ids ((s.id : Int) * 0x10000 + n) ↔ s.has n = true) := by
    intro n _ small
    rw [UserContexts.has_iff, Used, s.actualUserCtxId_eq small]
    constructor
    · rintro ⟨m, member, equal⟩
      have here : m = s.id * 0x10000 + n := by omega
      rwa [← here]
    · intro member
      exact ⟨_, member, by simp⟩
  have search : Allocates (Used s.ids) ((s.id : Int).shiftLeft 0x10)
      ((s.id : Int).shiftLeft 0x10 + 0xffff) userContextMax
      (fun rounds => (createUserContext rounds s).map Prod.fst) ↔
      HasFree (Used s.ids) ((s.id : Int).shiftLeft 0x10)
        ((s.id : Int).shiftLeft 0x10 + 0xffff) := by
    simp only [createUserContext_fst, shifted]
    exact allocates_searchUp_iff (by decide) (by omega) same s.current
  constructor
  · intro allocates
    exact search.mp allocates.allocates
  · intro free
    refine ⟨search.mpr free, ?_⟩
    rintro id ⟨enough, ends⟩
    right
    have found := ends enough (Nat.le_refl enough)
    simp only [createUserContext_fst] at found
    obtain ⟨counter, searched, rfl⟩ := Option.map_eq_some_iff.mp found
    have good := searchUp_some (by decide) searched
    exact shiftRight_of_range (by omega) (by omega)

/-- The first library finds an id unless the only free ones are above its counter, the second
one unless there is none: then it searches on without end. -/
theorem ids_allocated_iff (s : NpWebApi.State) (c : NpWebApi.ContextPtr) (userId : Int)
    (valid : 1 ≤ c.libCtxId) (libraries : LibraryContexts) (users : UserContexts) :
    (Allocates (· ∈ s.libCtxIds) 0 0x7fff NpWebApi.libContextMax
        (fun _ => some s.createLibraryContext.1) ↔
      (HasFree (· ∈ s.libCtxIds) 0 0x7fff → HasFree (· ∈ s.libCtxIds) 0 s.nextLibCount)) ∧
    (AllocatesUnder c.libCtxId (· ∈ s.userCtxIds c) NpWebApi.userContextMax
        (fun _ => some (s.createUserContextResult c userId)) ↔
      (HasFree (· ∈ s.userCtxIds c) (c.libCtxId.shiftLeft 0x10)
          (c.libCtxId.shiftLeft 0x10 + 0xffff) →
        HasFree (· ∈ s.userCtxIds c) (c.libCtxId.shiftLeft 0x10)
          (c.libCtxId.shiftLeft 0x10 + s.nextUserCount))) ∧
    (Allocates (Used libraries.ids) 0 0x7fff libContextMax
        (fun rounds => (createLibraryContext rounds libraries).map Prod.fst) ↔
      HasFree (Used libraries.ids) 0 0x7fff) ∧
    (AllocatesUnder users.id (Used users.ids) userContextMax
        (fun rounds => (createUserContext rounds users).map Prod.fst) ↔
      HasFree (Used users.ids) ((users.id : Int).shiftLeft 0x10)
        ((users.id : Int).shiftLeft 0x10 + 0xffff)) :=
  ⟨firstLibrary_libraryContexts_iff s, firstLibrary_userContexts_iff c userId s valid,
    secondLibrary_libraryContexts_iff libraries, secondLibrary_userContexts_iff users⟩

theorem ids_allocated_in_empty_tables :
    Allocates (· ∈ ({} : NpWebApi.State).libCtxIds) 0 0x7fff NpWebApi.libContextMax
        (fun _ => some ({} : NpWebApi.State).createLibraryContext.1) ∧
    AllocatesUnder 1 (Used []) userContextMax
        (fun rounds => (createUserContext rounds { id := 1 }).map Prod.fst) := by
  have all := ids_allocated_iff {} ⟨1, 0⟩ 1 (by decide) {} { id := 1 }
  constructor
  · exact all.1.mpr (fun _ => ⟨1, by decide, by decide, by decide⟩)
  · refine all.2.2.2.mpr ⟨0x10001, by decide, by decide, ?_⟩
    rintro ⟨n, member, -⟩
    cases member

/-- All ids of library contexts are in use. -/
def allLibraryContexts : LibraryContexts where
  ids := List.range' 1 0x7fff
  distinct := List.nodup_range'
  inRange := by
    intro id member
    have bounds := List.mem_range'_1.mp member
    omega

/-- A context that is kept while the counter goes round once stands alone in the way of the next
one; with all ids in use, the second library does not give up. -/
theorem ids_run_out :
    (¬Allocates (· ∈ ({ libraryContexts := [⟨1, 0⟩], libraryContextCount := 0x7fff } :
          NpWebApi.State).libCtxIds) 0 0x7fff NpWebApi.libContextMax
        (fun _ => some ({ libraryContexts := [⟨1, 0⟩], libraryContextCount := 0x7fff } :
          NpWebApi.State).createLibraryContext.1)) ∧
    ¬Allocates (Used allLibraryContexts.ids) 0 0x7fff libContextMax
        (fun rounds => (createLibraryContext rounds allLibraryContexts).map Prod.fst) := by
  constructor
  · intro allocates
    obtain ⟨id, ends, above, -, -⟩ := allocates.allocated ⟨2, by decide, by decide, by decide⟩
    rw [ends_const] at ends
    rw [← ends] at above
    revert above
    decide
  · intro allocates
    obtain ⟨id, above, below, unused⟩ := (secondLibrary_libraryContexts_iff _).mp allocates
    refine unused ⟨id.toNat, ?_, by omega⟩
    exact List.mem_range'_1.mpr (by omega)

end NpWebApi2.ContextIds
