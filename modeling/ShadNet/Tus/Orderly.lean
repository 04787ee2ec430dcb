import Mathlib.Data.List.Nodup
import ShadNet.Tus.Requests

/-!
# Operations that keep their records

What an operation relies on is lost by the steps of the others only, and an operation that has
lost it never ends well: nothing puts its record or its context back. So the steps that lose
nothing are exactly the ones a run may take.
-/

namespace TusRequests

open NpHandler Runs

/-! ## What the threads rely on -/

def ctxOf (reqId : Nat) (rows : List Row) : Option Nat :=
  (KeyedTable.lookup Row.reqId reqId rows).bind (·.ctx)

def Met (rows : List Row) : Need → Prop
  | .record reqId => KeyedTable.lookup Row.reqId reqId rows ≠ none
  | .context reqId own => ctxOf reqId rows = some own

/-- A synchronous operation waits for its own context. -/
def Thread.WaitsRight : Thread → Prop
  | .waits _ (some own) ref => ref = own
  | _ => True

structure Steady (rows : List Row) (thread : Thread) : Prop where
  met : ∀ need ∈ thread.need, Met rows need
  right : thread.WaitsRight

/-- Nothing has been lost so far. -/
structure Clean (s : State) : Prop where
  inside : s.strayed = []
  told : s.missed = []
  own : ∀ sync ∈ s.returned, sync.source = some sync.own

def Good (s : State) : Prop := (∀ thread ∈ s.threads, Steady s.rows thread) ∧ Clean s

theorem steady_of_none {rows : List Row} {thread : Thread} (nothing : thread.need = none)
    (right : thread.WaitsRight) : Steady rows thread where
  met := fun need member => by rw [nothing] at member; cases member
  right := right

theorem steady_idle (rows : List Row) (ret : Int) : Steady rows (.idle ret) :=
  steady_of_none rfl trivial

theorem steady_iff {rows : List Row} {thread : Thread} {need : Need}
    (needs : thread.need = some need) (right : thread.WaitsRight) :
    Steady rows thread ↔ Met rows need := by
  constructor
  · exact fun steady => steady.met need needs
  · intro met
    refine ⟨fun other member => ?_, right⟩
    rw [needs] at member
    exact Option.some.inj member ▸ met

/-- A thread that goes on with what it needs, and does not wait, is as steady as it was. -/
theorem steady_congr {rows : List Row} {old new : Thread} (needs : new.need = old.need)
    (right : new.WaitsRight) (right' : old.WaitsRight) :
    Steady rows new ↔ Steady rows old := by
  constructor
  · exact fun steady => ⟨needs ▸ steady.met, right'⟩
  · exact fun steady => ⟨needs.symm ▸ steady.met, right⟩

/-- Every row and every thread names ids and contexts there have been, and what synchronous
operations returned was the result of the context they had found. -/
structure Formed (s : State) : Prop where
  distinct : KeyedTable.Distinct Row.reqId s.rows
  rowIds : ∀ row ∈ s.rows, row.reqId < s.nextReqId
  needIds : ∀ thread ∈ s.threads, ∀ need ∈ thread.need, need.reqId < s.nextReqId
  needRefs : ∀ thread ∈ s.threads, ∀ reqId own, thread.need = some (.context reqId own) →
    own < s.ctxs.length
  recorded : ∀ sync ∈ s.returned, ∀ ref, sync.source = some ref →
    s.result? ref = some sync.result

/-! ### Changes of the rows -/

section Rows

variable {rows : List Row} {thread : Thread}

theorem lookup_setCtx (reqId ref id : Nat) : KeyedTable.lookup Row.reqId id
    (KeyedTable.adjust Row.reqId reqId (fun row => { row with ctx := some ref }) rows) =
      (KeyedTable.lookup Row.reqId id rows).map
        (fun row => if row.reqId = reqId then { row with ctx := some ref } else row) := by
  have same : ∀ row : Row, { row with ctx := some ref }.reqId = row.reqId := fun _ => rfl
  exact KeyedTable.lookup_adjust same rows

theorem ctxOf_setCtx {reqId ref : Nat} (present : KeyedTable.lookup Row.reqId reqId rows ≠ none)
    (id : Nat) : ctxOf id
      (KeyedTable.adjust Row.reqId reqId (fun row => { row with ctx := some ref }) rows) =
        if id = reqId then some ref else ctxOf id rows := by
  rw [ctxOf, lookup_setCtx]
  cases known : KeyedTable.lookup Row.reqId id rows with
  | none =>
    have other : id ≠ reqId := fun same => present (same ▸ known)
    rw [if_neg other, ctxOf, known]
    rfl
  | some row =>
    have named := (KeyedTable.lookup_some known).2
    rw [Option.map_some, Option.bind_some, ctxOf, known, Option.bind_some, named]
    by_cases same : id = reqId
    · rw [if_pos same, if_pos same]
    · rw [if_neg same, if_neg same]

/-- A new context takes the place of those that are claimed. -/
theorem steady_setCtx {reqId ref : Nat} (present : KeyedTable.lookup Row.reqId reqId rows ≠ none)
    (fresh : ∀ id own, thread.need = some (.context id own) → own < ref) :
    Steady (KeyedTable.adjust Row.reqId reqId (fun row => { row with ctx := some ref }) rows)
        thread ↔
      Steady rows thread ∧ ∀ own, thread.need ≠ some (.context reqId own) := by
  have met : ∀ need, thread.need = some need →
      (Met (KeyedTable.adjust Row.reqId reqId (fun row => { row with ctx := some ref }) rows)
          need ↔ Met rows need ∧ ∀ own, need ≠ .context reqId own) := by
    intro need needs
    cases need with
    | record id =>
      rw [Met, Met, lookup_setCtx, ne_eq, Option.map_eq_none_iff]
      exact ⟨fun there => ⟨there, fun own same => by cases same⟩, And.left⟩
    | context id own =>
      rw [Met, Met, ctxOf_setCtx present]
      by_cases same : id = reqId
      · rw [if_pos same, same]
        have below := fresh id own needs
        constructor
        · intro taken
          exact absurd (Option.some.inj taken) (Nat.ne_of_gt below)
        · exact fun h => absurd rfl (h.2 own)
      · rw [if_neg same]
        refine ⟨fun held => ⟨held, fun other equal => ?_⟩, And.left⟩
        exact same (Need.context.inj equal).1
  constructor
  · intro steady
    refine ⟨⟨fun need needs => ((met need needs).mp (steady.met need needs)).1, steady.right⟩, ?_⟩
    exact fun own needs => ((met _ needs).mp (steady.met _ needs)).2 own rfl
  · rintro ⟨steady, unclaimed⟩
    refine ⟨fun need needs => (met need needs).mpr ⟨steady.met need needs, ?_⟩, steady.right⟩
    exact fun own same => unclaimed own (same ▸ needs)

/-- Rows that end take their needs with them. -/
theorem steady_filter (distinct : KeyedTable.Distinct Row.reqId rows) (keep : Row → Bool) :
    Steady (rows.filter keep) thread ↔ Steady rows thread ∧
      ∀ row ∈ rows, keep row = false → ∀ need ∈ thread.need, need.reqId ≠ row.reqId := by
  have met : ∀ need, Met (rows.filter keep) need ↔
      Met rows need ∧ ∀ row ∈ rows, keep row = false → need.reqId ≠ row.reqId := by
    intro need
    have found := distinct.lookup_filter keep need.reqId
    cases known : KeyedTable.lookup Row.reqId need.reqId rows with
    | none =>
      rw [known, Option.filter_none] at found
      cases need with
      | record id => exact iff_of_false (fun there => there found) (fun h => h.1 known)
      | context id own =>
        simp only [Need.reqId] at found known
        rw [Met, Met, ctxOf, ctxOf, found, known]
        exact iff_of_false (fun there => by cases there) (fun h => by cases h.1)
    | some row =>
      obtain ⟨member, named⟩ := KeyedTable.lookup_some known
      cases kept : keep row with
      | true =>
        rw [known, Option.filter_some_pos kept] at found
        have stays : ∀ other ∈ rows, keep other = false → need.reqId ≠ other.reqId := by
          intro other there gone same
          rw [distinct.eq_of_key there member (same.symm.trans named.symm), kept] at gone
          cases gone
        rw [and_iff_left stays]
        cases need with
        | record id =>
          simp only [Need.reqId] at found known
          rw [Met, Met, found, known]
        | context id own =>
          simp only [Need.reqId] at found known
          rw [Met, Met, ctxOf, ctxOf, found, known]
      | false =>
        rw [known, Option.filter_some_neg (by simp [kept])] at found
        refine iff_of_false ?_ (fun h => h.2 row member kept named.symm)
        cases need with
        | record id => exact fun there => there found
        | context id own =>
          simp only [Need.reqId] at found
          rw [Met, ctxOf, found]
          exact fun there => by cases there
  constructor
  · intro steady
    refine ⟨⟨fun need needs => ((met need).mp (steady.met need needs)).1, steady.right⟩, ?_⟩
    exact fun row member gone need needs =>
      ((met need).mp (steady.met need needs)).2 row member gone
  · rintro ⟨steady, unneeded⟩
    refine ⟨fun need needs => (met need).mpr ⟨steady.met need needs, ?_⟩, steady.right⟩
    exact fun row member gone => unneeded row member gone need needs

theorem steady_append {row : Row}
    (older : ∀ need ∈ thread.need, need.reqId < row.reqId) :
    Steady (rows ++ [row]) thread ↔ Steady rows thread := by
  have same : ∀ need, thread.need = some need → KeyedTable.lookup Row.reqId need.reqId
      (rows ++ [row]) = KeyedTable.lookup Row.reqId need.reqId rows := by
    intro need needs
    have other : KeyedTable.lookup Row.reqId need.reqId [row] = none := by
      rw [KeyedTable.lookup_none]
      intro only member
      rw [List.mem_singleton.mp member]
      exact Nat.ne_of_gt (older need needs)
    rw [KeyedTable.lookup_append, other, Option.or_none]
  have met : ∀ need, thread.need = some need → (Met (rows ++ [row]) need ↔ Met rows need) := by
    intro need needs
    have equal := same need needs
    cases need with
    | record id => rw [Met, Met]; exact equal ▸ Iff.rfl
    | context id own => rw [Met, Met, ctxOf, ctxOf]; exact equal ▸ Iff.rfl
  constructor
  · exact fun steady =>
      ⟨fun need needs => (met need needs).mp (steady.met need needs), steady.right⟩
  · exact fun steady =>
      ⟨fun need needs => (met need needs).mpr (steady.met need needs), steady.right⟩

end Rows

/-! ## Results -/

/-- Only contexts have got results. -/
structure Aged (s s' : State) : Prop where
  same : s' = { s with ctxs := s'.ctxs }
  length : s'.ctxs.length = s.ctxs.length
  result : ∀ ref r, s.result? ref = some r → s'.result? ref = some r

theorem Aged.nextReqId {s s' : State} (aged : Aged s s') : s'.nextReqId = s.nextReqId :=
  (congrArg State.nextReqId aged.same : _)

theorem Aged.returned {s s' : State} (aged : Aged s s') : s'.returned = s.returned :=
  (congrArg State.returned aged.same : _)

theorem Aged.strayed {s s' : State} (aged : Aged s s') : s'.strayed = s.strayed :=
  (congrArg State.strayed aged.same : _)

theorem Aged.rows {s s' : State} (aged : Aged s s') : s'.rows = s.rows :=
  (congrArg State.rows aged.same : _)

theorem Aged.missed {s s' : State} (aged : Aged s s') : s'.missed = s.missed :=
  (congrArg State.missed aged.same : _)

theorem Aged.threads {s s' : State} (aged : Aged s s') : s'.threads = s.threads :=
  (congrArg State.threads aged.same : _)

theorem Aged.refl (s : State) : Aged s s := ⟨rfl, rfl, fun _ _ known => known⟩

theorem Aged.trans {s s' s'' : State} (first : Aged s s') (second : Aged s' s'') : Aged s s'' where
  same := by rw [second.same, first.same]
  length := second.length.trans first.length
  result := fun ref r known => second.result ref r (first.result ref r known)

theorem aged_setResult (s : State) (ref : Nat) (r : Int) : Aged s (s.setResult ref r) where
  same := rfl
  length := List.length_modify ..
  result := by
    intro other q known
    have found := Option.join_eq_some_iff.mp known
    have changed : (s.setResult ref r).ctxs[other]? =
        (s.ctxs[other]?).map (fun result => if ref = other then result.or (some r) else result) :=
      List.getElem?_modify ..
    rw [State.result?, changed, found, Option.map_some, Option.join_some]
    split
    · rw [Option.some_or]
    · rfl

theorem aged_abortRow (s : State) (row : Row) : Aged s (abortRow row s) := by
  rw [abortRow]
  cases row.ctx with
  | none => exact Aged.refl s
  | some ref => exact aged_setResult s ref communityAborted

theorem aged_abortRows (rows : List Row) (s : State) :
    Aged s (rows.foldl (fun s row => abortRow row s) s) := by
  induction rows generalizing s with
  | nil => exact Aged.refl s
  | cons row rows ih => exact (aged_abortRow s row).trans (ih (abortRow row s))

/-! ## One step of a thread -/

/-- What a step leaves for the invariant of the ids: `new` is the thread after it. -/
structure Grown (s s' : State) (new : Thread) : Prop where
  nextReqId : s.nextReqId ≤ s'.nextReqId
  length : s.ctxs.length ≤ s'.ctxs.length
  result : ∀ ref r, s.result? ref = some r → s'.result? ref = some r
  distinct : KeyedTable.Distinct Row.reqId s'.rows
  rowIds : ∀ row ∈ s'.rows, row.reqId < s'.nextReqId
  needIds : ∀ need ∈ new.need, need.reqId < s'.nextReqId
  needRefs : ∀ reqId own, new.need = some (.context reqId own) → own < s'.ctxs.length
  recorded : ∀ sync ∈ s'.returned, sync ∈ s.returned ∨
    ∀ ref, sync.source = some ref → s'.result? ref = some sync.result

theorem Formed.next {s s' : State} {t : Nat} {old new : Thread} (formed : Formed s)
    (current : s.threads[t]? = some old) (grown : Grown s s' new) :
    Formed { s' with threads := s.threads.set t new } where
  distinct := grown.distinct
  rowIds := grown.rowIds
  needIds := by
    refine (Slots.forall_set current).mpr ⟨grown.needIds, fun x member need needs => ?_⟩
    have known := formed.needIds x (List.mem_of_mem_eraseIdx member) need needs
    exact Nat.lt_of_lt_of_le known grown.nextReqId
  needRefs := by
    refine (Slots.forall_set current).mpr ⟨grown.needRefs, fun x member reqId own needs => ?_⟩
    have known := formed.needRefs x (List.mem_of_mem_eraseIdx member) reqId own needs
    exact Nat.lt_of_lt_of_le known grown.length
  recorded := by
    intro sync member ref source
    rcases grown.recorded sync member with old | new
    · exact grown.result ref sync.result (formed.recorded sync old ref source)
    · exact new ref source

/-- The state stays good where the thread keeps what it has and the others lose nothing. -/
theorem good_next {s s' : State} {t : Nat} {old new : Thread} {k : Prop} {c : Thread → Prop}
    (current : s.threads[t]? = some old)
    (others : ∀ x ∈ s.threads, Steady s'.rows x ↔ Steady s.rows x ∧ c x) (unharmed : c old)
    (own : Steady s'.rows new ∧ Clean s' ↔ Steady s.rows old ∧ Clean s ∧ k) :
    Good { s' with threads := s.threads.set t new } ↔
      Good s ∧ k ∧ ∀ x ∈ s.threads, c x := by
  have clean : Clean { s' with threads := s.threads.set t new } ↔ Clean s' :=
    ⟨fun h => ⟨h.inside, h.told, h.own⟩, fun h => ⟨h.inside, h.told, h.own⟩⟩
  rw [Good, Good, clean, Slots.forall_set current, Slots.forall_slot current,
    Slots.forall_slot current, and_iff_right unharmed]
  have rest : (∀ x ∈ s.threads.eraseIdx t, Steady s'.rows x) ↔
      (∀ x ∈ s.threads.eraseIdx t, Steady s.rows x) ∧ ∀ x ∈ s.threads.eraseIdx t, c x := by
    rw [← forall₂_and]
    exact forall₂_congr fun x member => others x (List.mem_of_mem_eraseIdx member)
  rw [rest]
  constructor
  · rintro ⟨⟨mine, theirs, safe⟩, clean⟩
    obtain ⟨steady, was, holds⟩ := own.mp ⟨mine, clean⟩
    exact ⟨⟨⟨steady, theirs⟩, was⟩, holds, safe⟩
  · rintro ⟨⟨⟨steady, theirs⟩, was⟩, holds, safe⟩
    obtain ⟨mine, clean⟩ := own.mpr ⟨steady, was, holds⟩
    exact ⟨⟨mine, theirs, safe⟩, clean⟩

/-- Where the rows stay, the other threads are as steady as they were. -/
theorem good_next_same {s s' : State} {t : Nat} {old new : Thread} {k : Prop}
    (current : s.threads[t]? = some old) (rows : s'.rows = s.rows)
    (own : Steady s.rows new ∧ Clean s' ↔ Steady s.rows old ∧ Clean s ∧ k) :
    Good { s' with threads := s.threads.set t new } ↔ Good s ∧ k := by
  have others : ∀ x ∈ s.threads, Steady s'.rows x ↔ Steady s.rows x ∧ True :=
    fun x _ => by rw [rows, and_true]
  have mine : Steady s'.rows new ∧ Clean s' ↔ Steady s.rows old ∧ Clean s ∧ k := by
    rw [rows]
    exact own
  rw [good_next current others trivial mine]
  exact and_congr_right fun _ => and_iff_left fun _ _ => trivial

section Phases

variable {s : State}

/-- The tables stay; results may come, and what is left of the history is not looked at. -/
theorem grown_of_aged {s' : State} {new : Thread} (formed : Formed s)
    (rows : s'.rows = s.rows) (nextReqId : s'.nextReqId = s.nextReqId)
    (length : s'.ctxs.length = s.ctxs.length) (returned : s'.returned = s.returned)
    (result : ∀ ref r, s.result? ref = some r → s'.result? ref = some r)
    (needIds : ∀ need ∈ new.need, need.reqId < s.nextReqId)
    (needRefs : ∀ reqId own, new.need = some (.context reqId own) → own < s.ctxs.length) :
    Grown s s' new where
  nextReqId := Nat.le_of_eq nextReqId.symm
  length := Nat.le_of_eq length.symm
  result := result
  distinct := rows ▸ formed.distinct
  rowIds := by rw [rows, nextReqId]; exact formed.rowIds
  needIds := nextReqId ▸ needIds
  needRefs := length ▸ needRefs
  recorded := fun sync member => .inl (returned ▸ member)

/-- The same where the thread has no more needs. -/
theorem grown_done {s' : State} {new : Thread} (formed : Formed s) (nothing : new.need = none)
    (rows : s'.rows = s.rows) (nextReqId : s'.nextReqId = s.nextReqId)
    (length : s'.ctxs.length = s.ctxs.length) (returned : s'.returned = s.returned)
    (result : ∀ ref r, s.result? ref = some r → s'.result? ref = some r) : Grown s s' new := by
  refine grown_of_aged formed rows nextReqId length returned result ?_ ?_
  · intro need needs
    rw [nothing] at needs
    cases needs
  · intro reqId own needs
    rw [nothing] at needs
    cases needs

theorem grown_still {new : Thread} (formed : Formed s) (nothing : new.need = none) :
    Grown s s new := grown_done formed nothing rfl rfl rfl rfl fun _ _ known => known

theorem access_cases (reqId : Nat) :
    (s.row? reqId ≠ none ∧ s.access reqId = s) ∨
      (s.row? reqId = none ∧ s.access reqId = { s with strayed := s.strayed ++ [reqId] }) := by
  rw [State.access]
  cases known : s.row? reqId with
  | none => exact .inr ⟨rfl, rfl⟩
  | some row => exact .inl ⟨Option.some_ne_none row, rfl⟩

theorem row?_reqId {reqId : Nat} {row : Row} (known : s.row? reqId = some row) :
    row ∈ s.rows ∧ row.reqId = reqId := KeyedTable.lookup_some known

/-- The rows after a context was put into one of them. -/
theorem setCtx_rows (formed : Formed s) (reqId ref : Nat) :
    KeyedTable.Distinct Row.reqId (s.setCtx reqId ref).rows ∧
      ∀ row ∈ (s.setCtx reqId ref).rows, row.reqId < s.nextReqId := by
  have same : ∀ row : Row, { row with ctx := some ref }.reqId = row.reqId := fun _ => rfl
  refine ⟨formed.distinct.adjust same, ?_⟩
  intro row member
  obtain ⟨old, there, rfl⟩ := KeyedTable.mem_adjust.mp member
  split
  · exact formed.rowIds old there
  · exact formed.rowIds old there

theorem result_append {ref : Nat} {r : Int} {new : Option Int} (known : s.result? ref = some r) :
    { s with ctxs := s.ctxs ++ [new] }.result? ref = some r := by
  have found := Option.join_eq_some_iff.mp known
  obtain ⟨inside, -⟩ := List.getElem?_eq_some_iff.mp found
  rw [State.result?, List.getElem?_append_left inside, found]
  rfl

theorem needs_proceeds {o : Operation} {own : Nat} (succeeds : o.outcome.isFailure = false) :
    (o.proceeds own).need = (Thread.submits o own).need := by
  rw [Operation.proceeds]
  by_cases sync : o.isSync = true
  · simp [Thread.need, sync, succeeds]
  · simp [Thread.need, sync]

theorem waitsRight_proceeds {o : Operation} {own : Nat} : (o.proceeds own).WaitsRight := by
  rw [Operation.proceeds]
  split <;> trivial

/-- A new context is put into a record, and the thread that made it needs it from now on. -/
theorem grown_setCtx {reqId : Nat} {new : Thread} {first : Option Int} {s' : State}
    (formed : Formed s) (made : s' = { s.setCtx reqId s.ctxs.length with
      ctxs := s.ctxs ++ [first], strayed := s'.strayed })
    (needIds : ∀ need ∈ new.need, need.reqId < s.nextReqId)
    (needRefs : ∀ id own, new.need = some (.context id own) → own < s.ctxs.length + 1) :
    Grown s s' new := by
  obtain ⟨distinct, rowIds⟩ := setCtx_rows formed reqId s.ctxs.length
  have length : s'.ctxs.length = s.ctxs.length + 1 := by
    rw [made, List.length_append, List.length_singleton]
  exact
    { nextReqId := by rw [made]; exact Nat.le_refl _
      length := by rw [length]; exact Nat.le_succ _
      result := fun ref r known => by rw [made]; exact result_append known
      distinct := by rw [made]; exact distinct
      rowIds := by rw [made]; exact rowIds
      needIds := by rw [made]; exact needIds
      needRefs := length ▸ needRefs
      recorded := fun sync member => .inl (by rw [made] at member; exact member) }

theorem grown_filter {new : Thread} {s' : State} (formed : Formed s) (keep : Row → Bool)
    (nothing : new.need = none) (rows : s'.rows = s.rows.filter keep)
    (nextReqId : s'.nextReqId = s.nextReqId) (returned : s'.returned = s.returned)
    (length : s'.ctxs.length = s.ctxs.length)
    (result : ∀ ref r, s.result? ref = some r → s'.result? ref = some r) : Grown s s' new where
  nextReqId := Nat.le_of_eq nextReqId.symm
  length := Nat.le_of_eq length.symm
  result := result
  distinct := by
    rw [rows]
    exact List.Nodup.sublist (List.Sublist.map Row.reqId List.filter_sublist) formed.distinct
  rowIds := by
    rw [rows, nextReqId]
    exact fun row member => formed.rowIds row (List.mem_of_mem_filter member)
  needIds := fun need needs => by rw [nothing] at needs; cases needs
  needRefs := fun _ _ needs => by rw [nothing] at needs; cases needs
  recorded := fun sync member => .inl (returned ▸ member)

theorem grown_return {new : Thread} {own source : Option Nat} {result : Int} (formed : Formed s)
    (nothing : new.need = none) (found : ∀ ref, source = some ref → s.result? ref = some result) :
    Grown s (recordReturn own source result s) new := by
  cases own with
  | none => exact grown_still formed nothing
  | some own =>
    exact
      { nextReqId := Nat.le_refl _
        length := Nat.le_refl _
        result := fun _ _ known => known
        distinct := formed.distinct
        rowIds := formed.rowIds
        needIds := fun need needs => by rw [nothing] at needs; cases needs
        needRefs := fun _ _ needs => by rw [nothing] at needs; cases needs
        recorded := by
          intro sync member
          rcases List.mem_append.mp member with old | new
          · exact .inl old
          · rw [List.mem_singleton.mp new]
            exact .inr found }

theorem grown_advance {t : Nat} {thread : Thread} (formed : Formed s)
    (current : s.threads[t]? = some thread) :
    Grown s (advance thread s).2 (advance thread s).1 := by
  have mine := List.mem_of_getElem? current
  have ids := formed.needIds thread mine
  have refs := formed.needRefs thread mine
  cases thread with
  | idle ret => exact grown_still formed rfl
  | createsTitle =>
    rw [advance, createNpTitleCtx]
    split
    · exact grown_still formed rfl
    · exact grown_done formed rfl rfl rfl rfl rfl fun _ _ known => known
  | creates titleCtxId =>
    rw [advance, createRequest]
    split
    · exact grown_still formed rfl
    · split
      · exact grown_still formed rfl
      · exact
          { nextReqId := Nat.le_succ _
            length := Nat.le_refl _
            result := fun _ _ known => known
            distinct := by
              rw [KeyedTable.Distinct, List.map_append, List.nodup_append]
              refine ⟨formed.distinct, List.nodup_singleton _, ?_⟩
              rintro id old _ new rfl
              obtain ⟨row, member, rfl⟩ := List.mem_map.mp old
              have named := List.mem_singleton.mp new
              exact absurd named (Nat.ne_of_lt (formed.rowIds row member))
            rowIds := by
              intro row member
              rcases List.mem_append.mp member with old | new
              · exact Nat.lt_succ_of_lt (formed.rowIds row old)
              · rw [List.mem_singleton.mp new]
                exact Nat.lt_succ_self _
            needIds := fun need needs => by cases needs
            needRefs := fun _ _ needs => by cases needs
            recorded := fun sync member => .inl member }
  | resolves o =>
    rw [advance]
    cases known : s.row? o.reqId with
    | none => exact grown_still formed rfl
    | some row =>
      obtain ⟨member, named⟩ := row?_reqId known
      have below : o.reqId < s.nextReqId := named ▸ formed.rowIds row member
      dsimp only
      split
      · refine grown_of_aged formed rfl rfl rfl rfl (fun _ _ known => known) ?_ ?_
        · intro need needs
          split at needs
          · cases needs
            exact below
          · cases needs
            exact below
        · intro reqId own needs
          split at needs
          · cases needs
          · cases needs
      · exact grown_still formed rfl
  | transfers o =>
    rw [advance]
    rcases access_cases (s := s) o.reqId with ⟨-, same⟩ | ⟨-, same⟩
    · rw [same]
      exact grown_of_aged formed rfl rfl rfl rfl (fun _ _ known => known) ids refs
    · rw [same]
      exact grown_of_aged formed rfl rfl rfl rfl (fun _ _ known => known) ids refs
  | stores o =>
    have below : o.reqId < s.nextReqId := ids _ rfl
    rw [advance]
    have made : storeCtx o.reqId s = { s.setCtx o.reqId s.ctxs.length with
        ctxs := s.ctxs ++ [none], strayed := (storeCtx o.reqId s).strayed } := by
      rw [storeCtx]
      rcases access_cases (s := s) o.reqId with ⟨-, same⟩ | ⟨-, same⟩
      · rw [same]
      · rw [same]
        rfl
    have needs_ : ∀ need ∈ (Thread.submits o s.ctxs.length).need,
        need = .context o.reqId s.ctxs.length := by
      intro need needs
      rw [Thread.need] at needs
      split at needs
      · cases needs
        rfl
      · cases needs
    refine grown_setCtx formed made ?_ ?_
    · exact fun need needs => needs_ need needs ▸ below
    · intro id own needs
      obtain ⟨-, same⟩ := Need.context.inj (needs_ _ needs)
      exact same ▸ Nat.lt_succ_self _
  | submits o own =>
    rw [advance]
    cases outcome : o.outcome with
    | fails error => exact grown_still formed rfl
    | kept =>
      have succeeds : o.outcome.isFailure = false := by rw [outcome]; rfl
      have same := @needs_proceeds o own succeeds
      have aged := aged_setResult s own orbisOk
      exact grown_of_aged formed rfl rfl aged.length rfl aged.result (same ▸ ids) (same ▸ refs)
    | submitted =>
      have succeeds : o.outcome.isFailure = false := by rw [outcome]; rfl
      have same := @needs_proceeds o own succeeds
      exact grown_of_aged formed rfl rfl rfl rfl (fun _ _ known => known) (same ▸ ids) (same ▸ refs)
  | looksUp reqId own =>
    rw [advance]
    cases s.row? reqId with
    | none => exact grown_return formed rfl fun _ same => by cases same
    | some row =>
      dsimp only
      cases row.ctx with
      | none => exact grown_return formed rfl fun _ same => by cases same
      | some ref => exact grown_still formed rfl
  | waits reqId own ref =>
    rw [advance]
    cases known : s.result? ref with
    | none => exact grown_still formed rfl
    | some r =>
      refine grown_return formed rfl fun source same => ?_
      exact Option.some.inj same ▸ known
  | polls reqId =>
    rw [advance]
    split
    · exact grown_still formed rfl
    · split
      · exact grown_still formed rfl
      · exact grown_still formed rfl
  | pollsCtx ref => exact grown_still formed rfl
  | fakes reqId =>
    rw [advance, fakeAsyncComplete]
    split
    · exact grown_still formed rfl
    · exact grown_setCtx formed rfl (fun need needs => by cases needs)
        (fun _ _ needs => by cases needs)
  | aborts reqId =>
    rw [advance]
    split
    · exact grown_still formed rfl
    · refine grown_done formed ?_ rfl rfl rfl rfl fun _ _ known => known
      dsimp only
      split
      · rfl
      · rfl
  | abortsCtx ref =>
    have aged := aged_setResult s ref communityAborted
    exact grown_done formed rfl rfl rfl aged.length rfl aged.result
  | deletes reqId =>
    rw [advance, deleteRequest]
    split
    · exact grown_still formed rfl
    · next row known =>
      have aged := aged_abortRow s row
      exact grown_filter formed (fun row => decide (row.reqId ≠ reqId)) rfl rfl aged.nextReqId
        aged.returned aged.length aged.result
  | deletesTitle titleCtxId =>
    rw [advance, deleteNpTitleCtx]
    split
    · exact grown_still formed rfl
    · have aged := aged_abortRows (s.rows.filter (·.titleCtxId = titleCtxId)) s
      exact grown_filter formed (·.titleCtxId ≠ titleCtxId) rfl rfl aged.nextReqId aged.returned
        aged.length aged.result

/-- Neither the rows nor what is promised changes, and the thread needs what it needed. -/
theorem good_same {s' : State} {t : Nat} {old new : Thread} (current : s.threads[t]? = some old)
    (rows : s'.rows = s.rows) (clean : Clean s' ↔ Clean s) (needs : new.need = old.need)
    (right : new.WaitsRight) (right' : old.WaitsRight) :
    Good { s' with threads := s.threads.set t new } ↔ Good s := by
  have own : Steady s.rows new ∧ Clean s' ↔ Steady s.rows old ∧ Clean s ∧ True := by
    rw [steady_congr needs right right', clean, and_true]
  rw [good_next_same current rows own, and_true]

theorem clean_congr {s' : State} (strayed : s'.strayed = s.strayed) (missed : s'.missed = s.missed)
    (returned : s'.returned = s.returned) : Clean s' ↔ Clean s := by
  constructor
  · exact fun h => ⟨strayed ▸ h.inside, missed ▸ h.told, returned ▸ h.own⟩
  · exact fun h => ⟨strayed.symm ▸ h.inside, missed.symm ▸ h.told, returned.symm ▸ h.own⟩

theorem Aged.clean {s s' : State} (aged : Aged s s') : Clean s' ↔ Clean s :=
  clean_congr aged.strayed aged.missed aged.returned

theorem clean_return {own : Nat} {source : Option Nat} {result : Int} :
    Clean (recordReturn (some own) source result s) ↔ source = some own ∧ Clean s := by
  constructor
  · intro clean
    have last : ⟨own, source, result⟩ ∈ s.returned ++ [⟨own, source, result⟩] :=
      List.mem_append_right _ (List.mem_singleton.mpr rfl)
    refine ⟨clean.own _ last, clean.inside, clean.told, fun sync member => ?_⟩
    exact clean.own sync (List.mem_append_left _ member)
  · rintro ⟨same, clean⟩
    refine ⟨clean.inside, clean.told, fun sync member => ?_⟩
    rcases List.mem_append.mp member with old | new
    · exact clean.own sync old
    · rw [List.mem_singleton.mp new]
      exact same

theorem clean_missed {more : List Nat} :
    Clean { s with missed := s.missed ++ more } ↔ Clean s ∧ more = [] := by
  constructor
  · intro clean
    obtain ⟨before, none_⟩ := List.append_eq_nil_iff.mp clean.told
    exact ⟨⟨clean.inside, before, clean.own⟩, none_⟩
  · rintro ⟨clean, rfl⟩
    exact ⟨clean.inside, by rw [List.append_nil]; exact clean.told, clean.own⟩

theorem not_clean_strayed {reqId : Nat} {s' : State}
    (strayed : s'.strayed = s.strayed ++ [reqId]) : ¬Clean s' := fun clean =>
  List.cons_ne_nil _ _ (List.append_eq_nil_iff.mp (strayed.symm.trans clean.inside)).2

section Thread

variable {t : Nat}

theorem good_transfers {o : Operation} (current : s.threads[t]? = some (.transfers o)) :
    Good { s.access o.reqId with threads := s.threads.set t (.stores o) } ↔ Good s := by
  rcases access_cases (s := s) o.reqId with ⟨-, same⟩ | ⟨absent, same⟩
  · rw [same]
    exact good_same current rfl Iff.rfl rfl trivial trivial
  · have lost : ¬Steady s.rows (.transfers o) :=
      fun steady => steady.met (.record o.reqId) rfl absent
    have own : Steady s.rows (.stores o) ∧ Clean (s.access o.reqId) ↔
        Steady s.rows (.transfers o) ∧ Clean s ∧ True := by
      exact iff_of_false (fun h => not_clean_strayed (congrArg State.strayed same) h.2)
        (fun h => lost h.1)
    rw [good_next_same current (by rw [same]) own, and_true]

/-- A new context in a record that is there. -/
theorem good_setCtx {reqId : Nat} {old new : Thread} {s' : State} (formed : Formed s)
    (current : s.threads[t]? = some old) (present : s.row? reqId ≠ none)
    (rows : s'.rows = (s.setCtx reqId s.ctxs.length).rows) (clean : Clean s' ↔ Clean s)
    (before : Steady s.rows old) (after : Steady s'.rows new)
    (unclaimed : ∀ own, old.need ≠ some (.context reqId own)) :
    Good { s' with threads := s.threads.set t new } ↔ Good s ∧ Unclaimed reqId s := by
  have others : ∀ x ∈ s.threads, Steady s'.rows x ↔
      Steady s.rows x ∧ ∀ own, x.need ≠ some (.context reqId own) := by
    intro x member
    rw [rows]
    exact steady_setCtx present (formed.needRefs x member)
  have own : Steady s'.rows new ∧ Clean s' ↔ Steady s.rows old ∧ Clean s ∧ True := by
    rw [clean, and_iff_right after, and_iff_right before, and_true]
  rw [good_next current others unclaimed own, true_and]
  rfl

theorem good_stores {o : Operation} (formed : Formed s)
    (current : s.threads[t]? = some (.stores o)) :
    Good { storeCtx o.reqId s with
      threads := s.threads.set t (.submits o s.ctxs.length) } ↔
      Good s ∧ Unclaimed o.reqId s := by
  rcases access_cases (s := s) o.reqId with ⟨present, same⟩ | ⟨absent, same⟩
  · have made : storeCtx o.reqId s = { s.setCtx o.reqId s.ctxs.length with
        ctxs := s.ctxs ++ [none] } := by
      rw [storeCtx, same]
    have after : Steady (storeCtx o.reqId s).rows (.submits o s.ctxs.length) := by
      refine ⟨fun need needs => ?_, trivial⟩
      rw [Thread.need] at needs
      split at needs
      · cases needs
        rw [made, Met]
        exact (ctxOf_setCtx present o.reqId).trans (if_pos rfl)
      · cases needs
    refine good_setCtx formed current present (by rw [made]) ?_ ?_ after ?_
    · rw [made]
      exact clean_congr rfl rfl rfl
    · have needs : (Thread.stores o).need = some (.record o.reqId) := rfl
      exact (steady_iff needs trivial).mpr present
    · exact fun own needs => by cases needs
  · refine iff_of_false (fun good => ?_) (fun h => ?_)
    · have strayed : (storeCtx o.reqId s).strayed = s.strayed ++ [o.reqId] := by
        rw [storeCtx, same]
        rfl
      exact not_clean_strayed strayed ⟨good.2.inside, good.2.told, good.2.own⟩
    · have steady := h.1.1 _ (List.mem_of_getElem? current)
      exact steady.met (.record o.reqId) rfl absent

theorem good_submits {o : Operation} {own : Nat}
    (current : s.threads[t]? = some (.submits o own)) :
    Good { (advance (.submits o own) s).2 with
      threads := s.threads.set t (advance (.submits o own) s).1 } ↔ Good s := by
  rw [advance]
  cases outcome : o.outcome with
  | fails error =>
    have nothing : (Thread.submits o own).need = none := by
      rw [Thread.need, outcome]
      exact if_neg fun h => Bool.noConfusion h.2
    exact good_same current rfl Iff.rfl nothing.symm trivial trivial
  | kept =>
    have succeeds : o.outcome.isFailure = false := by rw [outcome]; rfl
    have aged := aged_setResult s own orbisOk
    exact good_same current rfl aged.clean (needs_proceeds succeeds) waitsRight_proceeds trivial
  | submitted =>
    have succeeds : o.outcome.isFailure = false := by rw [outcome]; rfl
    exact good_same current rfl (clean_congr rfl rfl rfl) (needs_proceeds succeeds)
      waitsRight_proceeds trivial

/-- A call that returns from its wait was steady where it had found its own context. -/
theorem good_return {old : Thread} {own source : Option Nat} {result ret : Int}
    (current : s.threads[t]? = some old)
    (steady : Steady s.rows old ↔ ∀ mine, own = some mine → source = some mine) :
    Good { recordReturn own source result s with threads := s.threads.set t (.idle ret) } ↔
      Good s := by
  have mine : Steady s.rows (.idle ret) ∧ Clean (recordReturn own source result s) ↔
      Steady s.rows old ∧ Clean s ∧ True := by
    rw [and_iff_right (steady_idle _ _), steady, and_true]
    cases own with
    | none =>
      refine ⟨fun clean => ⟨fun _ same => (by cases same), clean⟩, And.right⟩
    | some own =>
      rw [clean_return]
      refine and_congr_left' ⟨fun same other equal => ?_, fun all => all own rfl⟩
      exact Option.some.inj equal ▸ same
  have rows : (recordReturn own source result s).rows = s.rows := by cases own <;> rfl
  rw [good_next_same current rows mine, and_true]

theorem good_looksUp {reqId : Nat} {own : Option Nat}
    (current : s.threads[t]? = some (.looksUp reqId own)) :
    Good { (advance (.looksUp reqId own) s).2 with
      threads := s.threads.set t (advance (.looksUp reqId own) s).1 } ↔ Good s := by
  have steady : Steady s.rows (.looksUp reqId own) ↔
      ∀ mine, own = some mine → ctxOf reqId s.rows = some mine := by
    cases own with
    | none =>
      exact iff_of_true (steady_of_none rfl trivial) fun _ same => by cases same
    | some own =>
      have needs : (Thread.looksUp reqId (some own)).need = some (.context reqId own) := rfl
      rw [steady_iff needs trivial, Met]
      exact ⟨fun met mine same => Option.some.inj same ▸ met, fun all => all own rfl⟩
  rw [advance]
  cases known : s.row? reqId with
  | none =>
    have none_ : ctxOf reqId s.rows = none := by
      rw [State.row?] at known
      rw [ctxOf, known]
      rfl
    exact good_return current (none_ ▸ steady)
  | some row =>
    have found : ctxOf reqId s.rows = row.ctx := by
      rw [State.row?] at known
      rw [ctxOf, known]
      rfl
    dsimp only
    cases ctx : row.ctx with
    | none => exact good_return current (found.trans ctx ▸ steady)
    | some ref =>
      have waiting : Steady s.rows (.waits reqId own ref) ↔
          ∀ mine, own = some mine → ref = mine := by
        cases own with
        | none =>
          exact iff_of_true (steady_of_none rfl trivial) fun _ same => by cases same
        | some own =>
          constructor
          · exact fun steady mine same => Option.some.inj same ▸ steady.right
          · exact fun all => steady_of_none rfl (all own rfl)
      have mine : Steady s.rows (.waits reqId own ref) ∧ Clean s ↔
          Steady s.rows (.looksUp reqId own) ∧ Clean s ∧ True := by
        rw [waiting, steady, found, ctx, and_true]
        simp only [Option.some.injEq]
      dsimp only
      exact (good_next_same current rfl mine).trans (and_iff_left trivial)

theorem good_waits {reqId ref : Nat} {own : Option Nat}
    (current : s.threads[t]? = some (.waits reqId own ref)) :
    Good { (advance (.waits reqId own ref) s).2 with
      threads := s.threads.set t (advance (.waits reqId own ref) s).1 } ↔ Good s := by
  rw [advance]
  cases s.result? ref with
  | none => exact (good_next_same current rfl (by rw [and_true])).trans (and_iff_left trivial)
  | some r =>
    refine good_return current ?_
    cases own with
    | none => exact iff_of_true (steady_of_none rfl trivial) fun _ same => by cases same
    | some own =>
      constructor
      · exact fun steady mine same => Option.some.inj same ▸ congrArg some steady.right
      · exact fun all => steady_of_none rfl (Option.some.inj (all own rfl))

theorem good_fakes {reqId : Nat} (formed : Formed s)
    (current : s.threads[t]? = some (.fakes reqId)) :
    Good { (advance (.fakes reqId) s).2 with
      threads := s.threads.set t (advance (.fakes reqId) s).1 } ↔
      Good s ∧ ∀ row ∈ s.row? reqId, Unclaimed row.reqId s := by
  rw [advance, fakeAsyncComplete]
  cases known : s.row? reqId with
  | none =>
    rw [and_iff_left (fun _ same => by cases same)]
    exact good_same current rfl Iff.rfl rfl trivial trivial
  | some row =>
    have present : s.row? reqId ≠ none := by rw [known]; exact Option.some_ne_none row
    have named : ∀ row' ∈ some row, row'.reqId = reqId :=
      fun row' same => Option.some.inj same ▸ (row?_reqId known).2
    have before : Steady s.rows (.fakes reqId) := steady_of_none rfl trivial
    let s' : State := { s.setCtx reqId s.ctxs.length with ctxs := s.ctxs ++ [some orbisOk] }
    have put : Good { s' with threads := s.threads.set t (.idle orbisOk) } ↔
        Good s ∧ Unclaimed reqId s :=
      good_setCtx formed current present rfl (clean_congr rfl rfl rfl) before (steady_idle _ _)
        fun own needs => by cases needs
    refine put.trans (and_congr_right fun _ => ?_)
    constructor
    · exact fun unclaimed row' member => (named row' member).symm ▸ unclaimed
    · exact fun all => named row rfl ▸ all row rfl

/-- Only the list of those who were not told is longer. -/
theorem good_missed {old new : Thread} {more : List Nat} (current : s.threads[t]? = some old)
    (nothing : new.need = none) (right : new.WaitsRight) (nothing' : old.need = none)
    (right' : old.WaitsRight) :
    Good { s with threads := s.threads.set t new, missed := s.missed ++ more } ↔
      Good s ∧ more = [] := by
  have own : Steady s.rows new ∧ Clean { s with missed := s.missed ++ more } ↔
      Steady s.rows old ∧ Clean s ∧ more = [] := by
    rw [clean_missed, and_iff_right (steady_of_none nothing right),
      and_iff_right (steady_of_none nothing' right')]
  exact @good_next_same s { s with missed := s.missed ++ more } t old new _ current rfl own

theorem good_aborts {reqId : Nat} (current : s.threads[t]? = some (.aborts reqId)) :
    Good { (advance (.aborts reqId) s).2 with
      threads := s.threads.set t (advance (.aborts reqId) s).1 } ↔
      Good s ∧ ∀ row ∈ s.row? reqId, Reaches row s := by
  rw [advance]
  cases known : s.row? reqId with
  | none =>
    rw [and_iff_left (fun _ same => by cases same)]
    exact good_same current rfl Iff.rfl rfl trivial trivial
  | some row =>
    have named := (row?_reqId known).2
    have told : (∀ row' ∈ some row, Reaches row' s) ↔ s.notTold reqId row.ctx = [] := by
      rw [← named]
      exact ⟨fun all => all row rfl, fun reaches row' same => Option.some.inj same ▸ reaches⟩
    dsimp only
    rw [told]
    cases row.ctx with
    | none => exact good_missed current rfl trivial rfl trivial
    | some ref => exact good_missed current rfl trivial rfl trivial

/-- Rows end, and those who wait for them are told or are not. -/
theorem good_filter {old : Thread} {s' : State} {ret : Int} {told : List Nat} (formed : Formed s)
    (current : s.threads[t]? = some old) (keep : Row → Bool)
    (rows : s'.rows = s.rows.filter keep) (nothing : old.need = none) (right : old.WaitsRight)
    (clean : Clean s' ↔ Clean s ∧ told = []) :
    Good { s' with threads := s.threads.set t (.idle ret) } ↔
      Good s ∧ told = [] ∧ ∀ row ∈ s.rows, keep row = false → Unneeded row.reqId s := by
  have others : ∀ x ∈ s.threads, Steady s'.rows x ↔ Steady s.rows x ∧
      ∀ row ∈ s.rows, keep row = false → ∀ need ∈ x.need, need.reqId ≠ row.reqId := by
    intro x _
    rw [rows]
    exact steady_filter formed.distinct keep
  have unharmed : ∀ row ∈ s.rows, keep row = false → ∀ need ∈ old.need, need.reqId ≠ row.reqId := by
    intro row _ _ need needs
    rw [nothing] at needs
    cases needs
  have own : Steady s'.rows (.idle ret) ∧ Clean s' ↔ Steady s.rows old ∧ Clean s ∧ told = [] := by
    rw [and_iff_right (steady_idle _ _), and_iff_right (steady_of_none nothing right), clean]
  rw [good_next current others unharmed own]
  refine and_congr_right fun _ => and_congr_right fun _ => ?_
  constructor
  · exact fun all row member gone x there need needs => all x there row member gone need needs
  · exact fun all x there row member gone need needs => all row member gone x there need needs

theorem good_deletes {reqId : Nat} (formed : Formed s)
    (current : s.threads[t]? = some (.deletes reqId)) :
    Good { (advance (.deletes reqId) s).2 with
      threads := s.threads.set t (advance (.deletes reqId) s).1 } ↔
      Good s ∧ ∀ row ∈ s.row? reqId, Unneeded row.reqId s ∧ Reaches row s := by
  rw [advance, deleteRequest]
  cases known : s.row? reqId with
  | none =>
    rw [and_iff_left (fun _ same => by cases same)]
    exact good_same current rfl Iff.rfl rfl trivial trivial
  | some row =>
    obtain ⟨there, named⟩ := row?_reqId known
    have aged := aged_abortRow s row
    let s' : State := { abortRow row s with
      rows := KeyedTable.remove Row.reqId reqId s.rows
      missed := s.missed ++ s.notTold reqId row.ctx }
    have middle : Clean s' ↔ Clean { s with missed := s.missed ++ s.notTold reqId row.ctx } :=
      clean_congr aged.strayed rfl aged.returned
    have clean : Clean s' ↔ Clean s ∧ s.notTold reqId row.ctx = [] := middle.trans clean_missed
    have ended : Good { s' with threads := s.threads.set t (.idle orbisOk) } ↔
        Good s ∧ s.notTold reqId row.ctx = [] ∧
          ∀ row ∈ s.rows, decide (row.reqId ≠ reqId) = false → Unneeded row.reqId s :=
      good_filter formed current (fun row => decide (row.reqId ≠ reqId)) rfl rfl trivial clean
    refine ended.trans (and_congr_right fun _ => ?_)
    constructor
    · rintro ⟨reaches, unneeded⟩ other same
      rw [← Option.some.inj same]
      exact ⟨unneeded row there (by simp [named]), by rw [Reaches, named]; exact reaches⟩
    · intro all
      obtain ⟨unneeded, reaches⟩ := all row rfl
      rw [Reaches, named] at reaches
      refine ⟨reaches, fun other member gone => ?_⟩
      have same : other.reqId = reqId := by simpa using gone
      rw [same, ← named]
      exact unneeded

theorem good_deletesTitle {titleCtxId : Nat} (formed : Formed s)
    (current : s.threads[t]? = some (.deletesTitle titleCtxId)) :
    Good { (advance (.deletesTitle titleCtxId) s).2 with
      threads := s.threads.set t (advance (.deletesTitle titleCtxId) s).1 } ↔
      Good s ∧ (titleCtxId ∈ s.titles → ∀ row ∈ s.rows, row.titleCtxId = titleCtxId →
        Unneeded row.reqId s ∧ Reaches row s) := by
  rw [advance, deleteNpTitleCtx]
  by_cases known : titleCtxId ∈ s.titles
  · rw [if_neg (not_not.mpr known)]
    let ended := s.rows.filter (·.titleCtxId = titleCtxId)
    have aged := aged_abortRows ended s
    let told := ended.flatMap (fun row => s.notTold row.reqId row.ctx)
    let s' : State := { ended.foldl (fun s row => abortRow row s) s with
      rows := s.rows.filter (·.titleCtxId ≠ titleCtxId)
      titles := s.titles.filter (· ≠ titleCtxId)
      missed := s.missed ++ told }
    have middle : Clean s' ↔ Clean { s with missed := s.missed ++ told } :=
      clean_congr aged.strayed rfl aged.returned
    have clean : Clean s' ↔ Clean s ∧ told = [] := middle.trans clean_missed
    have gone : Good { s' with threads := s.threads.set t (.idle orbisOk) } ↔
        Good s ∧ told = [] ∧ ∀ row ∈ s.rows, decide (row.titleCtxId ≠ titleCtxId) = false →
          Unneeded row.reqId s :=
      good_filter formed current (fun row => decide (row.titleCtxId ≠ titleCtxId)) rfl rfl trivial
        clean
    refine gone.trans (and_congr_right fun _ => ?_)
    have reached : told = [] ↔ ∀ row ∈ s.rows, row.titleCtxId = titleCtxId → Reaches row s := by
      rw [List.flatMap_eq_nil_iff]
      constructor
      · exact fun all row member same => all row (List.mem_filter.mpr ⟨member, by simpa using same⟩)
      · intro all row member
        obtain ⟨there, same⟩ := List.mem_filter.mp member
        exact all row there (by simpa using same)
    rw [reached]
    constructor
    · rintro ⟨reaches, unneeded⟩ - row member same
      exact ⟨unneeded row member (by simp [same]), reaches row member same⟩
    · intro all
      refine ⟨fun row member same => (all known row member same).2, fun row member gone => ?_⟩
      exact (all known row member (by simpa using gone)).1
  · rw [if_pos known, and_iff_left (fun there => absurd there known)]
    exact good_same current rfl Iff.rfl rfl trivial trivial

theorem good_creates {titleCtxId : Nat} (formed : Formed s)
    (current : s.threads[t]? = some (.creates titleCtxId)) :
    Good { (advance (.creates titleCtxId) s).2 with
      threads := s.threads.set t (advance (.creates titleCtxId) s).1 } ↔ Good s := by
  rw [advance, createRequest]
  split
  · exact good_same current rfl Iff.rfl rfl trivial trivial
  · split
    · exact good_same current rfl Iff.rfl rfl trivial trivial
    · let s' : State := { s with
        nextReqId := s.nextReqId + 1
        rows := s.rows ++ [{ reqId := s.nextReqId, titleCtxId }] }
      have others : ∀ x ∈ s.threads, Steady s'.rows x ↔ Steady s.rows x ∧ True := by
        intro x member
        rw [and_true]
        exact steady_append (formed.needIds x member)
      have before : Steady s.rows (.creates titleCtxId) := steady_of_none rfl trivial
      have own : Steady s'.rows (.idle s.nextReqId) ∧ Clean s' ↔
          Steady s.rows (.creates titleCtxId) ∧ Clean s ∧ True := by
        rw [and_iff_right (steady_idle _ _), and_iff_right before, and_true]
        exact clean_congr rfl rfl rfl
      refine (good_next current others trivial own).trans (and_iff_left ?_)
      exact ⟨trivial, fun _ _ => trivial⟩

theorem good_createsTitle (current : s.threads[t]? = some .createsTitle) :
    Good { (advance .createsTitle s).2 with
      threads := s.threads.set t (advance .createsTitle s).1 } ↔ Good s := by
  rw [advance, createNpTitleCtx]
  split
  · exact good_same current rfl Iff.rfl rfl trivial trivial
  · exact good_same current rfl (clean_congr rfl rfl rfl) rfl trivial trivial

/-- The record that was looked up is there. -/
theorem good_resolves {o : Operation} (current : s.threads[t]? = some (.resolves o)) :
    Good { (advance (.resolves o) s).2 with
      threads := s.threads.set t (advance (.resolves o) s).1 } ↔ Good s := by
  have before : Steady s.rows (.resolves o) := steady_of_none rfl trivial
  rw [advance]
  cases known : s.row? o.reqId with
  | none => exact good_same current rfl Iff.rfl rfl trivial trivial
  | some row =>
    have met : Met s.rows (.record o.reqId) := by
      have found : KeyedTable.lookup Row.reqId o.reqId s.rows = some row := known
      rw [Met, found]
      exact Option.some_ne_none row
    have goes : ∀ new : Thread, new.need = some (.record o.reqId) → new.WaitsRight →
        (Good { s with threads := s.threads.set t new } ↔ Good s) := by
      intro new needs right
      have own : Steady s.rows new ∧ Clean s ↔ Steady s.rows (.resolves o) ∧ Clean s ∧ True := by
        rw [and_iff_right ((steady_iff needs right).mpr met), and_iff_right before, and_true]
      exact (good_next_same current rfl own).trans (and_iff_left trivial)
    dsimp only
    split
    · split
      · exact goes (.transfers o) rfl trivial
      · exact goes (.stores o) rfl trivial
    · exact good_same current rfl Iff.rfl rfl trivial trivial

theorem good_polls {reqId : Nat} (current : s.threads[t]? = some (.polls reqId)) :
    Good { (advance (.polls reqId) s).2 with
      threads := s.threads.set t (advance (.polls reqId) s).1 } ↔ Good s := by
  rw [advance]
  split
  · exact good_same current rfl Iff.rfl rfl trivial trivial
  · split
    · exact good_same current rfl Iff.rfl rfl trivial trivial
    · exact good_same current rfl Iff.rfl rfl trivial trivial

/-- A step of a thread loses nothing exactly where it is admitted. -/
theorem good_advance {thread : Thread} (formed : Formed s)
    (current : s.threads[t]? = some thread) :
    Good { (advance thread s).2 with threads := s.threads.set t (advance thread s).1 } ↔
      Good s ∧ Ok (.next t) s := by
  cases thread with
  | stores o =>
    have ok : Ok (.next t) s ↔ Unclaimed o.reqId s := by simp only [Ok, current]
    rw [ok]
    exact good_stores formed current
  | fakes reqId =>
    have ok : Ok (.next t) s ↔ ∀ row ∈ s.row? reqId, Unclaimed row.reqId s := by
      simp only [Ok, current]
    rw [ok]
    exact good_fakes formed current
  | aborts reqId =>
    have ok : Ok (.next t) s ↔ ∀ row ∈ s.row? reqId, Reaches row s := by simp only [Ok, current]
    rw [ok]
    exact good_aborts current
  | deletes reqId =>
    have ok : Ok (.next t) s ↔
        ∀ row ∈ s.row? reqId, Unneeded row.reqId s ∧ Reaches row s := by
      simp only [Ok, current]
    rw [ok]
    exact good_deletes formed current
  | deletesTitle titleCtxId =>
    have ok : Ok (.next t) s ↔ (titleCtxId ∈ s.titles → ∀ row ∈ s.rows,
        row.titleCtxId = titleCtxId → Unneeded row.reqId s ∧ Reaches row s) := by
      simp only [Ok, current]
    rw [ok]
    exact good_deletesTitle formed current
  | idle ret =>
    have ok : Ok (.next t) s := by simp only [Ok, current]
    exact (good_same current rfl Iff.rfl rfl trivial trivial).trans (and_iff_left ok).symm
  | createsTitle =>
    have ok : Ok (.next t) s := by simp only [Ok, current]
    exact (good_createsTitle current).trans (and_iff_left ok).symm
  | creates titleCtxId =>
    have ok : Ok (.next t) s := by simp only [Ok, current]
    exact (good_creates formed current).trans (and_iff_left ok).symm
  | resolves o =>
    have ok : Ok (.next t) s := by simp only [Ok, current]
    exact (good_resolves current).trans (and_iff_left ok).symm
  | transfers o =>
    have ok : Ok (.next t) s := by simp only [Ok, current]
    exact (good_transfers current).trans (and_iff_left ok).symm
  | submits o own =>
    have ok : Ok (.next t) s := by simp only [Ok, current]
    exact (good_submits current).trans (and_iff_left ok).symm
  | looksUp reqId own =>
    have ok : Ok (.next t) s := by simp only [Ok, current]
    exact (good_looksUp current).trans (and_iff_left ok).symm
  | waits reqId own ref =>
    have ok : Ok (.next t) s := by simp only [Ok, current]
    exact (good_waits current).trans (and_iff_left ok).symm
  | polls reqId =>
    have ok : Ok (.next t) s := by simp only [Ok, current]
    exact (good_polls current).trans (and_iff_left ok).symm
  | pollsCtx ref =>
    have ok : Ok (.next t) s := by simp only [Ok, current]
    have kept : Good { s with
        threads := s.threads.set t (.idle (if (s.result? ref).isSome then 0 else 1)) } ↔ Good s :=
      good_same current rfl Iff.rfl rfl trivial trivial
    exact kept.trans (and_iff_left ok).symm
  | abortsCtx ref =>
    have ok : Ok (.next t) s := by simp only [Ok, current]
    have aged := aged_setResult s ref communityAborted
    have kept : Good { s.setResult ref communityAborted with
        threads := s.threads.set t (.idle orbisOk) } ↔ Good s :=
      good_same current rfl aged.clean rfl trivial trivial
    exact kept.trans (and_iff_left ok).symm

end Thread

end Phases

/-! ## Every step -/

theorem formed_start (threads : Nat) : Formed (start threads) where
  distinct := List.nodup_nil
  rowIds := fun row member => by cases member
  needIds := by
    intro thread member need needs
    rw [List.eq_of_mem_replicate member] at needs
    cases needs
  needRefs := by
    intro thread member reqId own needs
    rw [List.eq_of_mem_replicate member] at needs
    cases needs
  recorded := fun sync member => by cases member

theorem good_start (threads : Nat) : Good (start threads) := by
  refine ⟨fun thread member => ?_, rfl, rfl, fun sync member => by cases member⟩
  rw [List.eq_of_mem_replicate member]
  exact steady_idle _ _

theorem Aged.formed {s s' : State} (aged : Aged s s') (formed : Formed s) : Formed s' where
  distinct := by rw [aged.rows]; exact formed.distinct
  rowIds := by rw [aged.rows, aged.nextReqId]; exact formed.rowIds
  needIds := by rw [aged.threads, aged.nextReqId]; exact formed.needIds
  needRefs := by rw [aged.threads, aged.length]; exact formed.needRefs
  recorded := by
    rw [aged.returned]
    exact fun sync member ref source => aged.result ref _ (formed.recorded sync member ref source)

theorem Aged.good {s s' : State} (aged : Aged s s') : Good s' ↔ Good s := by
  rw [Good, Good, aged.threads, aged.rows, aged.clean]

/-- A call begins with nothing that it relies on. -/
theorem need_begin (call : Call) : call.begin.need = none := by cases call <;> rfl

theorem waitsRight_begin (call : Call) : call.begin.WaitsRight := by cases call <;> trivial

theorem need_of_isIdle {thread : Thread} (idle : thread.isIdle = true) :
    thread.need = none ∧ thread.WaitsRight := by
  cases thread with
  | idle ret => exact ⟨rfl, trivial⟩
  | _ => cases idle

theorem formed_step (op : Op) {s : State} (formed : Formed s) : Formed (step op s) := by
  cases op with
  | reply ref r =>
    rw [step]
    split
    · exact (aged_setResult s ref r).formed formed
    · exact formed
  | begin t call =>
    rw [step]
    cases current : s.threads[t]? with
    | none => exact formed
    | some thread =>
      dsimp only
      split
      · exact formed.next current (grown_still formed (need_begin call))
      · exact formed
  | next t =>
    rw [step]
    cases current : s.threads[t]? with
    | none => exact formed
    | some thread => exact formed.next current (grown_advance formed current)

/-- Every step loses nothing exactly where it is admitted. -/
theorem good_step (op : Op) {s : State} (formed : Formed s) :
    Good (step op s) ↔ Good s ∧ Ok op s := by
  cases op with
  | reply ref r =>
    have kept : Good (step (.reply ref r) s) ↔ Good s := by
      rw [step]
      split
      · exact (aged_setResult s ref r).good
      · exact Iff.rfl
    exact kept.trans (and_iff_left trivial).symm
  | begin t call =>
    have kept : Good (step (.begin t call) s) ↔ Good s := by
      rw [step]
      cases current : s.threads[t]? with
      | none => exact Iff.rfl
      | some thread =>
        dsimp only
        split
        · next idle =>
          obtain ⟨nothing, right⟩ := need_of_isIdle idle
          exact good_same current rfl Iff.rfl ((need_begin call).trans nothing.symm)
            (waitsRight_begin call) right
        · exact Iff.rfl
    exact kept.trans (and_iff_left trivial).symm
  | next t =>
    cases current : s.threads[t]? with
    | none =>
      have still : step (.next t) s = s := by simp only [step, current]
      have ok : Ok (.next t) s := by simp only [Ok, current]
      rw [still]
      exact (and_iff_left ok).symm
    | some thread =>
      have moved : step (.next t) s = { (advance thread s).2 with
          threads := s.threads.set t (advance thread s).1 } := by
        simp only [step, current]
      rw [moved]
      exact good_advance formed current

theorem orderly_of_good {s : State} (formed : Formed s) (good : Good s) : Orderly s where
  inside := good.2.inside
  told := good.2.told
  own := fun sync member =>
    ⟨good.2.own sync member, formed.recorded sync member _ (good.2.own sync member)⟩

/-- Once every call has returned, nothing is left that could be lost. -/
theorem good_of_orderly {s : State} (quiet : Quiet s) (orderly : Orderly s) : Good s := by
  refine ⟨fun thread member => ?_, orderly.inside, orderly.told, ?_⟩
  · obtain ⟨nothing, right⟩ := need_of_isIdle (quiet thread member)
    exact steady_of_none nothing right
  · exact fun sync member => (orderly.own sync member).1

/-- In every run whose steps are admitted, operations keep to their records and to their own
results; a run after which every call has returned is such a run only where each of its steps was
admitted. -/
theorem operations_orderly_iff (threads : Nat) (ops : List Op) :
    (Admitted step Ok ops (start threads) →
      Throughout step Orderly (fun _ _ _ => True) ops (start threads)) ∧
    (Quiet (run step ops (start threads)) →
      (Orderly (run step ops (start threads)) ↔ Admitted step Ok ops (start threads))) := by
  have formed := formed_start threads
  have good := good_start threads
  constructor
  · have both : Formed (start threads) ∧ Good (start threads) := ⟨formed, good⟩
    refine throughout_of_admitted
      (fun s (kept : Formed s ∧ Good s) => orderly_of_good kept.1 kept.2) ?_ both
    intro op s kept admitted
    exact ⟨⟨formed_step op kept.1, (good_step op kept.1).mpr ⟨kept.2, admitted⟩⟩, trivial⟩
  · intro quiet
    have last : Formed (run step ops (start threads)) :=
      invariant_of_run (fun op _ formed _ => formed_step op formed) formed
        (admitted_always (fun _ _ => trivial) ops _)
    have exactly : Good (run step ops (start threads)) ↔
        Good (start threads) ∧ Admitted step Ok ops (start threads) :=
      run_iff_admitted (fun op _ => formed_step op) (fun op _ => good_step op) formed
    constructor
    · intro orderly
      exact (exactly.mp (good_of_orderly quiet orderly)).2
    · intro admitted
      exact orderly_of_good last (exactly.mpr ⟨good, admitted⟩)

/-- Two threads call the synchronous form on one request; the second has put its context into the
record before the first looks it up again. -/
def secondBeforeWait : List Op :=
  let o : Operation := ⟨1, false, true, .submitted⟩
  [.begin 0 .createNpTitleCtx, .next 0, .begin 0 (.createRequest 1), .next 0,
    .begin 0 (.operation o), .begin 1 (.operation o),
    .next 0, .next 0, .next 0, .next 1, .next 1, .next 1,
    .next 0, .reply 0 3, .reply 1 5, .next 0, .next 1, .next 1]

theorem second_before_wait_not_orderly :
    ¬∀ ops : List Op, Orderly (run step ops (start 2)) := by
  intro always
  have sync := (always secondBeforeWait).own ⟨0, some 1, 5⟩ (by decide +kernel)
  exact absurd sync.1 (by decide)

end TusRequests
