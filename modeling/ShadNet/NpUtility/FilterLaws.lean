import ShadNet.NpUtility.WordFilter

/-!
# What the word filter keeps to

A request gets its result once, and whoever stores it wakes those that wait; this needs nothing of
the order of the steps. Three things do: a comment is copied without a look at the request, a
synchronous operation returns its own result where another is recorded, and ids are given out
without a look at the tables.
-/

namespace WordFilter

open NpHandler Runs

/-! ## One request -/

structure Sound (req : LookupRequestCtx) : Prop where
  operations : req.operations = if req.used then 1 else 0
  results : req.results = req.result.toList
  told : ∀ r ∈ req.told, req.result = some r
  deleted : req.deleted = true → req.result ≠ none

/-- What becomes of a request: its context stays, and so does a result. -/
structure Becomes (req req' : LookupRequestCtx) : Prop where
  titleCtxId : req'.titleCtxId = req.titleCtxId
  result : req.result ≠ none → req'.result = req.result
  sound : Sound req → Sound req'

section Requests

variable {req : LookupRequestCtx} {r : Int}

theorem becomes_self (req : LookupRequestCtx) : Becomes req req := ⟨rfl, fun _ => rfl, id⟩

theorem becomes_start (unused : req.used = false) : Becomes req req.start := by
  refine ⟨rfl, fun _ => rfl, fun sound => ⟨?_, sound.results, sound.told, sound.deleted⟩⟩
  have none_ := sound.operations
  rw [unused] at none_
  simp [LookupRequestCtx.start, none_]

theorem becomes_abort (req : LookupRequestCtx) : Becomes req req.abort :=
  ⟨rfl, fun _ => rfl, fun sound =>
    ⟨sound.operations, sound.results, sound.told, sound.deleted⟩⟩

theorem becomes_setTimeouts (timeouts : LookupTimeouts) (req : LookupRequestCtx) :
    Becomes req (req.setTimeouts timeouts) :=
  ⟨rfl, fun _ => rfl, fun sound =>
    ⟨sound.operations, sound.results, sound.told, sound.deleted⟩⟩

theorem becomes_close (req : LookupRequestCtx) : Becomes req req.close :=
  ⟨rfl, fun _ => rfl, fun sound =>
    ⟨sound.operations, sound.results, sound.told, sound.deleted⟩⟩

theorem becomes_delete (known : req.result ≠ none) : Becomes req req.delete :=
  ⟨rfl, fun _ => rfl, fun sound =>
    ⟨sound.operations, sound.results, sound.told, fun _ => known⟩⟩

theorem becomes_tell (known : req.result = some r) : Becomes req (req.tell r) := by
  refine ⟨rfl, fun _ => rfl, fun sound => ⟨sound.operations, sound.results, ?_, sound.deleted⟩⟩
  intro q member
  rcases List.mem_append.mp member with old | new
  · exact sound.told q old
  · rw [List.mem_singleton.mp new]
    exact known

/-- The first result is stored, and an operation that stores it may give it out as well. -/
theorem becomes_store (missing : req.result = none) : Becomes req (req.store r) := by
  refine ⟨rfl, fun known => absurd missing known, fun sound => ⟨sound.operations, ?_, ?_, ?_⟩⟩
  · have none_ := sound.results
    rw [missing] at none_
    simp [LookupRequestCtx.store, none_]
  · intro q member
    have known := sound.told q member
    rw [missing] at known
    cases known
  · exact fun _ => Option.some_ne_none r

theorem returns_result (r : Int) (req : LookupRequestCtx) :
    (req.returns r).result = req.result := by
  unfold LookupRequestCtx.returns
  split <;> rfl

theorem becomes_returns (agrees : req.isAsync = false → req.result = some r) :
    Becomes req (req.returns r) := by
  unfold LookupRequestCtx.returns
  cases sync : req.isAsync with
  | true => exact becomes_self req
  | false => exact becomes_tell (agrees sync)

theorem becomes_returns_store (missing : req.result = none) :
    Becomes req ((req.returns r).store r) := by
  refine ⟨?_, fun known => absurd missing known, fun sound => ?_⟩
  · unfold LookupRequestCtx.returns
    split <;> rfl
  have stored := (becomes_store (r := r) missing).sound sound
  unfold LookupRequestCtx.returns
  cases req.isAsync with
  | true => exact stored
  | false =>
    have tells : Becomes (req.store r) ((req.store r).tell r) := becomes_tell rfl
    exact tells.sound stored

end Requests

/-! ## The requests of a state -/

namespace State

variable {s : State}

theorem adjust_get (ref : Nat) (f : LookupRequestCtx → LookupRequestCtx) (s : State) (i : Nat) :
    (s.adjust ref f).requestCtxs[i]? =
      (s.requestCtxs[i]?).map (fun req => if ref = i then f req else req) :=
  List.getElem?_modify ..

/-- The request has its result. -/
def HasResult (ref : Nat) (s : State) : Prop := ∃ req ∈ s.requestCtxs[ref]?, req.result ≠ none

end State

/-- Requests are only added, and become what they may. -/
def Grows (s s' : State) : Prop :=
  ∀ ref : Nat, ∀ req ∈ s.requestCtxs[ref]?, ∃ req' ∈ s'.requestCtxs[ref]?, Becomes req req'

/-- The requests that were added are as good as new. -/
def Fresh (s s' : State) : Prop :=
  ∀ ref : Nat, s.requestCtxs[ref]? = none → ∀ req ∈ s'.requestCtxs[ref]?,
    req.result = none ∧ Sound req

section Grows

variable {s s' s'' : State}

theorem grows_same (same : s'.requestCtxs = s.requestCtxs) : Grows s s' := by
  intro ref req there
  rw [same]
  exact ⟨req, there, becomes_self req⟩

theorem fresh_same (same : s'.requestCtxs = s.requestCtxs) : Fresh s s' := by
  intro ref missing req there
  rw [same, missing] at there
  cases there

/-- There is one request at a place. -/
theorem forall_get {P : LookupRequestCtx → Prop} {ref : Nat} {req : LookupRequestCtx}
    (there : s.requestCtxs[ref]? = some req) (holds : P req) :
    ∀ other ∈ s.requestCtxs[ref]?, P other := by
  intro other same
  obtain rfl : other = req := Option.some.inj (same.symm.trans there)
  exact holds

theorem grows_adjust {ref : Nat} {f : LookupRequestCtx → LookupRequestCtx}
    (becomes : ∀ req ∈ s.requestCtxs[ref]?, Becomes req (f req)) : Grows s (s.adjust ref f) := by
  intro i req there
  refine ⟨if ref = i then f req else req, ?_, ?_⟩
  · rw [Option.mem_def, State.adjust_get, Option.mem_def.mp there, Option.map_some]
  · split
    · next same => exact becomes req (same ▸ there)
    · exact becomes_self req

theorem fresh_adjust {ref : Nat} {f : LookupRequestCtx → LookupRequestCtx} :
    Fresh s (s.adjust ref f) := by
  intro i missing req there
  rw [Option.mem_def, State.adjust_get, missing] at there
  cases there

theorem Grows.hasResult (grows : Grows s s') {ref : Nat} (has : s.HasResult ref) :
    s'.HasResult ref := by
  obtain ⟨req, there, known⟩ := has
  obtain ⟨req', there', becomes⟩ := grows ref req there
  refine ⟨req', there', ?_⟩
  rw [becomes.result known]
  exact known

theorem Grows.length (grows : Grows s s') {ref : Nat} (below : ref < s.requestCtxs.length) :
    ref < s'.requestCtxs.length := by
  obtain ⟨req', there', -⟩ := grows ref s.requestCtxs[ref] (List.getElem?_eq_getElem below)
  exact (List.getElem?_eq_some_iff.mp there').1

theorem Grows.titleCtxOf (grows : Grows s s') {entry : Entry} {titleCtxId : Int32}
    (owner : s.titleCtxOf entry = some titleCtxId) : s'.titleCtxOf entry = some titleCtxId := by
  obtain ⟨req, there, same⟩ := Option.map_eq_some_iff.mp owner
  obtain ⟨req', there', becomes⟩ := grows entry.ref req there
  rw [State.titleCtxOf, Option.mem_def.mp there', Option.map_some, becomes.titleCtxId, same]

end Grows

/-! ## The tables -/

/-- What does not depend on the threads. -/
structure Tables (s : State) : Prop where
  sound : ∀ ref : Nat, ∀ req ∈ s.requestCtxs[ref]?, Sound req
  titles : ∀ entry ∈ s.titles, entry.ref < s.titleCtxs.length
  owned : ∀ entry ∈ s.requests, ∃ titleCtxId ∈ s.titleCtxOf entry, ∃ ctx ∈ s.titles,
    ctx.id = titleCtxId
  rightful : Rightful s
  onTime : ∀ copy ∈ s.copied, copy.late = false

section Tables

variable {s s' : State}

theorem tables_start (threads : Nat) : Tables (start threads) := by
  constructor <;> simp [start, Rightful]

theorem Tables.sound_grows (tables : Tables s) (grows : Grows s s') (fresh : Fresh s s')
    {ref : Nat} {req' : LookupRequestCtx} (there' : req' ∈ s'.requestCtxs[ref]?) : Sound req' := by
  cases known : s.requestCtxs[ref]? with
  | none => exact (fresh ref known req' there').2
  | some req =>
    obtain ⟨later, there, becomes⟩ := grows ref req known
    obtain rfl : later = req' := Option.some.inj (there.symm.trans there')
    exact becomes.sound (tables.sound ref req known)

/-- Requests that go take nothing with them that another needs. -/
theorem Tables.grows (tables : Tables s) (grows : Grows s s') (fresh : Fresh s s')
    (titles : s'.titles = s.titles) (titleCtxs : s'.titleCtxs.length = s.titleCtxs.length)
    (requests : ∀ entry ∈ s'.requests, entry ∈ s.requests) (issued : s'.issued = s.issued)
    (copied : s'.copied = s.copied) : Tables s' where
  sound := fun _ _ there => tables.sound_grows grows fresh there
  titles := by
    rw [titles, titleCtxs]
    exact tables.titles
  owned := by
    intro entry member
    obtain ⟨titleCtxId, owner, ctx⟩ := tables.owned entry (requests entry member)
    rw [titles]
    exact ⟨titleCtxId, grows.titleCtxOf owner, ctx⟩
  rightful := by
    have same : ∀ id, s'.issuedFor id = s.issuedFor id := by
      intro id
      rw [State.issuedFor, issued, State.issuedFor]
    constructor
    · intro entry member
      rw [titles] at member
      rw [same]
      exact tables.rightful.1 entry member
    · intro entry member
      rw [same]
      exact tables.rightful.2 entry (requests entry member)
  onTime := by
    rw [copied]
    exact tables.onTime

theorem Tables.adjust (tables : Tables s) {ref : Nat} {f : LookupRequestCtx → LookupRequestCtx}
    (becomes : ∀ req ∈ s.requestCtxs[ref]?, Becomes req (f req)) : Tables (s.adjust ref f) :=
  tables.grows (grows_adjust becomes) fresh_adjust rfl rfl (fun _ member => member) rfl rfl

theorem mem_emplace {entry other : Entry} {table : List Entry}
    (member : other ∈ emplace entry table) : other = entry ∨ other ∈ table := by
  unfold emplace at member
  split at member
  · exact Or.inr member
  · exact KeyedTable.mem_of_mem_enter member

/-- An id that is there keeps its object. -/
theorem emplace_taken {entry other : Entry} {table : List Entry} (member : other ∈ table)
    (taken : other.id = entry.id) : emplace entry table = table := by
  unfold emplace
  rw [if_pos]
  rw [Option.isSome_iff_ne_none]
  intro missing
  exact KeyedTable.lookup_none.mp missing other member taken

theorem mem_emplace_old {entry other : Entry} {table : List Entry} (member : other ∈ table) :
    other ∈ emplace entry table := by
  by_cases taken : other.id = entry.id
  · rw [emplace_taken member taken]
    exact member
  · unfold emplace
    split
    · exact member
    · exact KeyedTable.mem_enter_of_ne member taken

theorem issuedFor_cons {issue : Issue} (issued : s'.issued = issue :: s.issued) (id : Int32) :
    s'.issuedFor id = if issue.id = id then some issue.object else s.issuedFor id := by
  rw [State.issuedFor, issued, KeyedTable.lookup, List.find?_cons]
  by_cases same : issue.id = id
  · simp [same]
  · simp [same, State.issuedFor, KeyedTable.lookup]

/-- An id that is not in use is given out. -/
theorem Rightful.issue (rightful : Rightful s) {issue : Issue} (unused : Unused issue.id s)
    (issued : s'.issued = issue :: s.issued)
    (titles : ∀ entry ∈ s'.titles,
      entry ∈ s.titles ∨ entry.id = issue.id ∧ issue.object = .titleCtx entry.ref)
    (requests : ∀ entry ∈ s'.requests,
      entry ∈ s.requests ∨ entry.id = issue.id ∧ issue.object = .request entry.ref) :
    Rightful s' := by
  constructor
  · intro entry member
    rw [issuedFor_cons issued]
    rcases titles entry member with old | ⟨same, object⟩
    · rw [if_neg (unused.1 entry old).symm]
      exact rightful.1 entry old
    · rw [if_pos same.symm, object]
  · intro entry member
    rw [issuedFor_cons issued]
    rcases requests entry member with old | ⟨same, object⟩
    · rw [if_neg (unused.2 entry old).symm]
      exact rightful.2 entry old
    · rw [if_pos same.symm, object]

theorem Tables.createTitle (tables : Tables s)
    (unused : s.titles.length < maxCtxNum → Unused s.nextCtxId s) :
    Tables (createWordFilterTitleCtx s).2 := by
  unfold createWordFilterTitleCtx
  split
  · exact tables
  · next room =>
    refine ⟨tables.sound, ?_, ?_, ?_, tables.onTime⟩
    · intro entry member
      have longer : entry.ref < s.titleCtxs.length + 1 := by
        rcases mem_emplace member with rfl | old
        · exact Nat.lt_succ_self _
        · exact Nat.lt_succ_of_lt (tables.titles entry old)
      simpa using longer
    · intro entry member
      obtain ⟨titleCtxId, owner, ctx, there, same⟩ := tables.owned entry member
      exact ⟨titleCtxId, owner, ctx, mem_emplace_old there, same⟩
    · refine tables.rightful.issue (unused (by omega)) rfl ?_ (fun entry member => Or.inl member)
      intro entry member
      rcases mem_emplace member with rfl | old
      · exact Or.inr ⟨rfl, rfl⟩
      · exact Or.inl old

theorem grows_append {req : LookupRequestCtx}
    (appended : s'.requestCtxs = s.requestCtxs ++ [req]) : Grows s s' := by
  intro ref old there
  have below := (List.getElem?_eq_some_iff.mp there).1
  refine ⟨old, ?_, becomes_self old⟩
  rw [Option.mem_def, appended, List.getElem?_append_left below]
  exact there

theorem fresh_append {req : LookupRequestCtx} (missing : req.result = none) (sound : Sound req)
    (appended : s'.requestCtxs = s.requestCtxs ++ [req]) : Fresh s s' := by
  intro ref none_ other there
  have above := List.getElem?_eq_none_iff.mp none_
  rw [Option.mem_def, appended, List.getElem?_append_right above] at there
  have only := List.mem_of_getElem? there
  rw [List.mem_singleton.mp only]
  exact ⟨missing, sound⟩

theorem owner_some {titleCtxId : Int32} {ctx : WordFilterTitleCtx}
    (owner : s.owner? titleCtxId = some ctx) : ∃ entry ∈ s.titles, entry.id = titleCtxId := by
  obtain ⟨entry, found, -⟩ := Option.bind_eq_some_iff.mp owner
  have known := KeyedTable.lookup_some found
  exact ⟨entry, known.1, known.2⟩

theorem sound_new (titleCtxId : Int32) (isAsync : Bool) (timeouts : Option LookupTimeouts) :
    Sound { titleCtxId, isAsync, timeouts } := by
  constructor <;> simp

/-- What a creation does to the requests, whether or not it makes one. -/
theorem createRequest_grows (titleCtxId : Int32) (isAsync : Bool) (s : State) :
    Grows s (createWordFilterRequest titleCtxId isAsync s).2 ∧
      Fresh s (createWordFilterRequest titleCtxId isAsync s).2 := by
  unfold createWordFilterRequest
  split
  · exact ⟨grows_same rfl, fresh_same rfl⟩
  · split
    · exact ⟨grows_same rfl, fresh_same rfl⟩
    · exact ⟨grows_append rfl, fresh_append rfl (sound_new ..) rfl⟩

theorem Tables.createRequest (tables : Tables s) {titleCtxId : Int32} {isAsync : Bool}
    (unused : (s.owner? titleCtxId).isSome → s.requests.length < maxRequestNum →
      Unused s.nextReqId s) :
    Tables (createWordFilterRequest titleCtxId isAsync s).2 := by
  obtain ⟨grows, fresh⟩ := createRequest_grows titleCtxId isAsync s
  revert grows fresh
  unfold createWordFilterRequest
  split
  · exact fun _ _ => tables
  · next ctx owner =>
    split
    · exact fun _ _ => tables
    · next room =>
      intro grows fresh
      refine ⟨fun _ _ there => tables.sound_grows grows fresh there, tables.titles, ?_, ?_,
        tables.onTime⟩
      · intro entry member
        rcases mem_emplace member with rfl | old
        · obtain ⟨title, there, same⟩ := owner_some owner
          exact ⟨titleCtxId, by simp [State.titleCtxOf], title, there, same⟩
        · obtain ⟨id, known, title⟩ := tables.owned entry old
          exact ⟨id, grows.titleCtxOf known, title⟩
      · have free := unused (by simp [owner]) (by omega)
        refine tables.rightful.issue free rfl (fun entry member => Or.inl member) ?_
        intro entry member
        rcases mem_emplace member with rfl | old
        · exact Or.inr ⟨rfl, rfl⟩
        · exact Or.inl old

/-- A context goes when it has no request left. -/
theorem Tables.removeTitle (tables : Tables s) {titleCtxId : Int32}
    (none_ : ∀ entry ∈ s.requests, s.titleCtxOf entry ≠ some titleCtxId) :
    Tables { s with titles := KeyedTable.remove Entry.id titleCtxId s.titles } where
  sound := tables.sound
  titles := fun entry member => tables.titles entry (KeyedTable.mem_remove.mp member).1
  owned := by
    intro entry member
    obtain ⟨id, owner, ctx, there, same⟩ := tables.owned entry member
    refine ⟨id, owner, ctx, KeyedTable.mem_remove.mpr ⟨there, ?_⟩, same⟩
    rintro rfl
    exact none_ entry member (same ▸ owner)
  rightful := ⟨fun entry member =>
    tables.rightful.1 entry (KeyedTable.mem_remove.mp member).1, tables.rightful.2⟩
  onTime := tables.onTime

theorem Tables.below (tables : Tables s) {entry : Entry} (member : entry ∈ s.requests) :
    entry.ref < s.requestCtxs.length := by
  obtain ⟨titleCtxId, owner, -⟩ := tables.owned entry member
  obtain ⟨req, there, -⟩ := Option.map_eq_some_iff.mp owner
  exact (List.getElem?_eq_some_iff.mp there).1

end Tables

/-! ## The threads -/

/-- A thread has pointers to requests, and who notifies has a result to tell of. -/
def Thread.Placed (s : State) : Thread → Prop
  | .starts _ ref | .copies _ _ ref | .completes ref | .marks ref _ | .records ref _
  | .polls ref | .waits ref | .sleeps ref => ref < s.requestCtxs.length
  | .notifies ref _ => s.HasResult ref
  | _ => True

/-- What a section does for the thread that runs it. -/
structure Leads (s s' : State) (new : Thread) : Prop where
  tables : Tables s'
  grows : Grows s s'
  threads : s'.threads = s.threads
  placed : new.Placed s'
  rouses : ∀ ref, s'.HasResult ref → s.HasResult ref ∨ ∃ caller, new = .notifies ref caller
  awake : ∀ ref, new = .sleeps ref → ¬s'.HasResult ref

structure Inv (s : State) : Prop where
  tables : Tables s
  placed : ∀ thread ∈ s.threads, thread.Placed s
  roused : ∀ ref, .sleeps ref ∈ s.threads → s.HasResult ref →
    ∃ caller, .notifies ref caller ∈ s.threads

section Threads

variable {s s' : State} {t : Nat} {old new : Thread} {ref : Nat}

theorem Grows.placed (grows : Grows s s') {thread : Thread} (placed : thread.Placed s) :
    thread.Placed s' := by
  cases thread with
  | notifies ref caller => exact grows.hasResult placed
  | starts work ref => exact grows.length placed
  | copies bytes buffer ref => exact grows.length placed
  | completes ref => exact grows.length placed
  | marks ref caller => exact grows.length placed
  | records ref caller => exact grows.length placed
  | polls ref => exact grows.length placed
  | waits ref => exact grows.length placed
  | sleeps ref => exact grows.length placed
  | idle ret => trivial
  | createsTitle => trivial
  | creates titleCtxId isAsync => trivial
  | finds reqId purpose => trivial
  | setsTimeout id timeouts => trivial
  | deletes reqId => trivial
  | deletesTitle titleCtxId => trivial
  | sweeps titleCtxId => trivial

theorem Tables.with_threads (tables : Tables s) (threads : List Thread) :
    Tables { s with threads } :=
  ⟨tables.sound, tables.titles, tables.owned, tables.rightful, tables.onTime⟩

theorem Inv.next (inv : Inv s) (current : s.threads[t]? = some old)
    (quiet : ∀ ref caller, old ≠ .notifies ref caller) (leads : Leads s s' new) :
    Inv { s' with threads := s'.threads.set t new } := by
  have inside := (List.getElem?_eq_some_iff.mp current).1
  rw [leads.threads]
  refine ⟨leads.tables.with_threads _, ?_, ?_⟩
  · intro thread member
    rcases List.mem_or_eq_of_mem_set member with before | rfl
    · exact leads.grows.placed (inv.placed thread before)
    · exact leads.placed
  · intro ref asleep has
    rcases List.mem_or_eq_of_mem_set asleep with before | itself
    · rcases leads.rouses ref has with known | ⟨caller, rfl⟩
      · obtain ⟨caller, notifier⟩ := inv.roused ref before known
        exact ⟨caller, Slots.mem_set_of_ne current notifier (quiet ref caller).symm⟩
      · exact ⟨caller, List.mem_set inside _⟩
    · exact absurd has (leads.awake ref itself.symm)

theorem wake_eq_sleeps {thread : Thread} {other : Nat}
    (asleep : thread.wake ref = .sleeps other) : thread = .sleeps other ∧ other ≠ ref := by
  cases thread with
  | sleeps own =>
    rw [Thread.wake] at asleep
    split at asleep
    · cases asleep
    · next different =>
      cases asleep
      exact ⟨rfl, different⟩
  | _ => cases asleep

theorem wake_placed {thread : Thread} (placed : thread.Placed s) :
    (thread.wake ref).Placed s := by
  cases thread with
  | sleeps own =>
    rw [Thread.wake]
    split
    · next same => exact same ▸ placed
    · exact placed
  | _ => exact placed

/-- After the notification nobody sleeps on the request. -/
theorem Inv.notify (inv : Inv s) {caller : Caller}
    (current : s.threads[t]? = some (.notifies ref caller))
    (leads : Leads { s with threads := s.threads.map (Thread.wake ref) } s' new) :
    Inv { s' with threads := s'.threads.set t new } := by
  have woken : (s.threads.map (Thread.wake ref))[t]? = some (.notifies ref caller) := by
    rw [List.getElem?_map, current]
    rfl
  have inside := (List.getElem?_eq_some_iff.mp woken).1
  rw [leads.threads]
  refine ⟨leads.tables.with_threads _, ?_, ?_⟩
  · intro thread member
    rcases List.mem_or_eq_of_mem_set member with before | rfl
    · obtain ⟨own, there, rfl⟩ := List.mem_map.mp before
      exact leads.grows.placed (wake_placed (inv.placed own there))
    · exact leads.placed
  · intro other asleep has
    rcases List.mem_or_eq_of_mem_set asleep with before | itself
    · obtain ⟨own, there, same⟩ := List.mem_map.mp before
      obtain ⟨rfl, different⟩ := wake_eq_sleeps same
      rcases leads.rouses other has with known | ⟨caller', rfl⟩
      · obtain ⟨caller', notifier⟩ := inv.roused other there known
        refine ⟨caller', Slots.mem_set_of_ne woken (List.mem_map.mpr ⟨_, notifier, rfl⟩) ?_⟩
        intro equal
        exact different (Thread.notifies.inj equal).1
      · exact ⟨caller', List.mem_set inside _⟩
    · exact absurd has (leads.awake other itself.symm)

end Threads

/-! ## The sections -/

section Sections

variable {s s' : State} {new : Thread} {ref : Nat} {caller : Caller}

theorem leads_same (tables : Tables s) (placed : new.Placed s)
    (awake : ∀ ref, new = .sleeps ref → ¬s.HasResult ref) : Leads s s new where
  tables := tables
  grows := grows_same rfl
  threads := rfl
  placed := placed
  rouses := fun _ has => Or.inl has
  awake := awake

theorem leads_idle (tables : Tables s) (ret : Int) : Leads s s (.idle ret) :=
  leads_same tables trivial (fun _ same => by cases same)

/-- The requests stay, whatever is done to the tables. -/
theorem leads_tables (tables : Tables s') (requestCtxs : s'.requestCtxs = s.requestCtxs)
    (threads : s'.threads = s.threads) (placed : new.Placed s')
    (awake : ∀ ref, new ≠ .sleeps ref) : Leads s s' new where
  tables := tables
  grows := grows_same requestCtxs
  threads := threads
  placed := placed
  rouses := by
    intro ref has
    rw [State.HasResult, requestCtxs] at has
    exact Or.inl has
  awake := fun ref same => absurd same (awake ref)

theorem hasResult_adjust {f : LookupRequestCtx → LookupRequestCtx}
    (keeps : ∀ req, (f req).result = req.result) {i : Nat}
    (has : (s.adjust ref f).HasResult i) : s.HasResult i := by
  obtain ⟨req', there, known⟩ := has
  rw [Option.mem_def, State.adjust_get] at there
  obtain ⟨req, old, rfl⟩ := Option.map_eq_some_iff.mp there
  refine ⟨req, old, ?_⟩
  split at known
  · rw [keeps] at known
    exact known
  · exact known

theorem leads_adjust {f : LookupRequestCtx → LookupRequestCtx} (tables : Tables s)
    (becomes : ∀ req ∈ s.requestCtxs[ref]?, Becomes req (f req))
    (keeps : ∀ req, (f req).result = req.result) (placed : new.Placed (s.adjust ref f))
    (awake : ∀ ref, new ≠ .sleeps ref) : Leads s (s.adjust ref f) new where
  tables := tables.adjust becomes
  grows := grows_adjust becomes
  threads := rfl
  placed := placed
  rouses := fun _ has => Or.inl (hasResult_adjust keeps has)
  awake := fun ref same => absurd same (awake ref)

theorem length_adjust (ref : Nat) (f : LookupRequestCtx → LookupRequestCtx) (s : State) :
    (s.adjust ref f).requestCtxs.length = s.requestCtxs.length := List.length_modify ..

theorem leads_afterResult (tables : Tables s) (has : s.HasResult ref) :
    Leads s (afterResult ref caller s).2 (afterResult ref caller s).1 := by
  have known : ∀ req ∈ s.requestCtxs[ref]?, req.result ≠ none := by
    obtain ⟨req, there, known⟩ := has
    exact forall_get there known
  unfold afterResult
  cases caller with
  | operation => exact leads_idle tables _
  | abort =>
    exact leads_adjust tables (fun req _ => becomes_close req) (fun _ => rfl) trivial
      (fun _ same => by cases same)
  | delete =>
    refine leads_adjust tables (fun req there => ?_) (fun _ => rfl) trivial
      (fun _ same => by cases same)
    have closes := becomes_close req
    have deletes : Becomes req.close req.close.delete := becomes_delete (known req there)
    exact ⟨rfl, fun _ => rfl, fun sound => deletes.sound (closes.sound sound)⟩
  | sweep titleCtxId reqId =>
    have deletes : ∀ req ∈ s.requestCtxs[ref]?, Becomes req req.delete :=
      fun req there => becomes_delete (known req there)
    have grows := grows_adjust deletes
    refine ⟨?_, grows, rfl, trivial, ?_, fun _ same => by cases same⟩
    · refine tables.grows grows fresh_adjust rfl rfl (fun entry member => ?_) rfl rfl
      exact (KeyedTable.mem_remove.mp member).1
    · intro i has'
      exact Or.inl (hasResult_adjust (f := .delete) (fun _ => rfl) has')

theorem adjust_self {req : LookupRequestCtx} {f : LookupRequestCtx → LookupRequestCtx}
    (there : s.requestCtxs[ref]? = some req) :
    (s.adjust ref f).requestCtxs[ref]? = some (f req) := by
  rw [State.adjust_get, there, Option.map_some, if_pos rfl]

theorem leads_store {req : LookupRequestCtx} {f : LookupRequestCtx → LookupRequestCtx}
    (tables : Tables s) (there : s.requestCtxs[ref]? = some req) (becomes : Becomes req (f req))
    (known : (f req).result ≠ none) : Leads s (s.adjust ref f) (.notifies ref caller) := by
  have all : ∀ other ∈ s.requestCtxs[ref]?, Becomes other (f other) := forall_get there becomes
  refine ⟨tables.adjust all, grows_adjust all, rfl, ?_, ?_, fun _ same => by cases same⟩
  · exact ⟨f req, adjust_self there, known⟩
  · rintro i ⟨req', there', known'⟩
    by_cases same : ref = i
    · exact Or.inr ⟨caller, same ▸ rfl⟩
    · rw [Option.mem_def, State.adjust_get] at there'
      obtain ⟨old, before, rfl⟩ := Option.map_eq_some_iff.mp there'
      rw [if_neg same] at known'
      exact Or.inl ⟨old, before, known'⟩

/-- `SetResult`, and what comes right after it if there was a result. -/
theorem leads_setResult (tables : Tables s) (r : Int) :
    Leads s (setResult ref r caller s).2 (setResult ref r caller s).1 := by
  unfold setResult
  split
  · exact leads_idle tables _
  · next req there =>
    cases missing : req.result with
    | some q => exact leads_afterResult tables ⟨req, there, by simp [missing]⟩
    | none => exact leads_store tables there (becomes_store missing) (Option.some_ne_none r)

theorem adjust_adjust (ref : Nat) (f g : LookupRequestCtx → LookupRequestCtx) (s : State) :
    (s.adjust ref f).adjust ref g = s.adjust ref (g ∘ f) := by
  rw [State.adjust, State.adjust, State.adjust, List.modify_modify_eq]

/-- An operation whose request has a result leaves that result, and returns its own. -/
theorem completes_known {req : LookupRequestCtx} {r : Int} (there : s.requestCtxs[ref]? = some req)
    (known : req.result = some r) :
    advance (.completes ref) s = (.idle orbisOk, s.adjust ref (.returns orbisOk)) := by
  have after := adjust_self (f := .returns orbisOk) there
  have isSome : (req.returns orbisOk).result.isSome = true := by
    rw [returns_result, known]
    rfl
  rw [advance, setResult, after]
  dsimp only
  rw [if_pos isSome, afterResult]

theorem completes_missing {req : LookupRequestCtx} (there : s.requestCtxs[ref]? = some req)
    (missing : req.result = none) :
    advance (.completes ref) s =
      (.notifies ref .operation, s.adjust ref (.store orbisOk ∘ .returns orbisOk)) := by
  have after := adjust_self (f := .returns orbisOk) there
  have isNone : ¬(req.returns orbisOk).result.isSome = true := by
    rw [returns_result, missing]
    exact Bool.false_ne_true
  rw [advance, setResult, after]
  dsimp only
  rw [if_neg isNone, adjust_adjust]

theorem leads_completes (tables : Tables s) (below : ref < s.requestCtxs.length)
    (permitted : (Thread.completes ref).Permitted s) :
    Leads s (advance (.completes ref) s).2 (advance (.completes ref) s).1 := by
  obtain ⟨req, there⟩ : ∃ req, s.requestCtxs[ref]? = some req :=
    ⟨s.requestCtxs[ref], List.getElem?_eq_getElem below⟩
  cases known : req.result with
  | none =>
    rw [completes_missing there known]
    have stores : Becomes req ((LookupRequestCtx.store orbisOk ∘ .returns orbisOk) req) :=
      becomes_returns_store known
    exact leads_store tables there stores (Option.some_ne_none orbisOk)
  | some r =>
    rw [completes_known there known]
    have returns : Becomes req (req.returns orbisOk) := by
      refine becomes_returns fun sync => ?_
      rw [known, permitted req there sync r known]
    exact leads_adjust tables (forall_get there returns) (returns_result orbisOk) trivial
      (fun _ same => by cases same)

/-- The result is given out to a thread that asks for it. -/
theorem leads_tell (tables : Tables s) {r : Int} (ret : Int)
    (known : (s.requestCtxs[ref]?).bind LookupRequestCtx.result = some r) :
    Leads s (s.adjust ref (.tell r)) (.idle ret) := by
  refine leads_adjust tables ?_ (fun _ => rfl) trivial (fun _ same => by cases same)
  intro req there
  exact becomes_tell (by simpa [Option.mem_def.mp there] using known)

theorem leads_wait (tables : Tables s) (below : ref < s.requestCtxs.length) :
    Leads s (wait ref s).2 (wait ref s).1 := by
  unfold wait
  split
  · next missing =>
    refine leads_same tables below ?_
    rintro other same ⟨req, there, known⟩
    obtain rfl := Thread.sleeps.inj same
    exact known (by simpa [Option.mem_def.mp there] using missing)
  · next r known => exact leads_tell tables orbisOk known

theorem leads_poll (tables : Tables s) : Leads s (pollAsync ref s).2 (pollAsync ref s).1 := by
  unfold pollAsync
  split
  · exact leads_idle tables _
  · next r known => exact leads_tell tables pollAsyncFinished known

theorem leads_start (tables : Tables s) (work : Work) (below : ref < s.requestCtxs.length) :
    Leads s (startWordFilterRequest work ref s).2 (startWordFilterRequest work ref s).1 := by
  unfold startWordFilterRequest
  split
  · exact leads_idle tables _
  · next req there =>
    split
    · exact leads_idle tables _
    · split
      · exact leads_idle tables _
      · next unused =>
        have starts : ∀ other ∈ s.requestCtxs[ref]?, Becomes other other.start :=
          forall_get there (becomes_start (by simpa using unused))
        have later : ref < (s.adjust ref .start).requestCtxs.length := by
          rw [length_adjust]
          exact below
        cases work.buffer with
        | none =>
          exact leads_adjust tables starts (fun _ => rfl) later (fun _ same => by cases same)
        | some buffer =>
          exact leads_adjust tables starts (fun _ => rfl) later (fun _ same => by cases same)

theorem get_placed (tables : Tables s) (reqId : Int32) (purpose : Purpose) :
    (getWordFilterRequest reqId purpose s).Placed s ∧
      ∀ ref, getWordFilterRequest reqId purpose s ≠ .sleeps ref := by
  unfold getWordFilterRequest
  split
  · exact ⟨trivial, fun _ same => by cases same⟩
  · next entry found =>
    have below := tables.below (KeyedTable.lookup_some found).1
    cases purpose with
    | operation work => exact ⟨below, fun _ same => by cases same⟩
    | abort => exact ⟨below, fun _ same => by cases same⟩
    | poll =>
      dsimp only
      split
      · exact ⟨below, fun _ same => by cases same⟩
      · exact ⟨trivial, fun _ same => by cases same⟩
    | wait =>
      dsimp only
      split
      · exact ⟨below, fun _ same => by cases same⟩
      · exact ⟨trivial, fun _ same => by cases same⟩

theorem leads_marks (tables : Tables s) (below : ref < s.requestCtxs.length) :
    Leads s (s.adjust ref .abort) (.records ref caller) := by
  refine leads_adjust tables (fun req _ => becomes_abort req) (fun _ => rfl) ?_
    (fun _ same => by cases same)
  rw [Thread.Placed, length_adjust]
  exact below

theorem leads_setTimeout (tables : Tables s) (id : Int32) (timeouts : LookupTimeouts) (ret : Int) :
    Leads s (setTimeout id timeouts s).2 (.idle ret) := by
  unfold setTimeout
  split
  · refine leads_tables ?_ rfl rfl trivial (fun _ same => by cases same)
    refine tables.grows (grows_same rfl) (fresh_same rfl) rfl ?_ (fun _ member => member) rfl rfl
    exact List.length_modify ..
  · split
    · exact leads_adjust tables (fun req _ => becomes_setTimeouts timeouts req) (fun _ => rfl)
        trivial (fun _ same => by cases same)
    · exact leads_idle tables _

theorem leads_deleteRequest (tables : Tables s) (reqId : Int32) :
    Leads s (deleteRequest reqId s).2 (deleteRequest reqId s).1 := by
  unfold deleteRequest
  split
  · exact leads_idle tables _
  · next entry found =>
    have below := tables.below (KeyedTable.lookup_some found).1
    refine leads_tables ?_ rfl rfl below (fun _ same => by cases same)
    refine tables.grows (grows_same rfl) (fresh_same rfl) rfl rfl (fun other member => ?_) rfl rfl
    exact (KeyedTable.mem_remove.mp member).1

theorem leads_sweep (tables : Tables s) (titleCtxId : Int32) :
    Leads s (sweep titleCtxId s).2 (sweep titleCtxId s).1 := by
  unfold sweep
  split
  · next entry found =>
    exact leads_marks tables (tables.below (List.mem_of_find?_eq_some found))
  · next none_ =>
    refine leads_tables (tables.removeTitle ?_) rfl rfl trivial (fun _ same => by cases same)
    intro entry member
    simpa using List.find?_eq_none.mp none_ entry member

theorem hasResult_append {req : LookupRequestCtx} (missing : req.result = none)
    (appended : s'.requestCtxs = s.requestCtxs ++ [req]) {i : Nat} (has : s'.HasResult i) :
    s.HasResult i := by
  obtain ⟨req', there, known⟩ := has
  rw [Option.mem_def, appended, List.getElem?_append] at there
  split at there
  · exact ⟨req', there, known⟩
  · obtain rfl := List.mem_singleton.mp (List.mem_of_getElem? there)
    exact absurd missing known

theorem leads_createRequest (tables : Tables s) {titleCtxId : Int32} {isAsync : Bool}
    (permitted : (Thread.creates titleCtxId isAsync).Permitted s) (ret : Int) :
    Leads s (createWordFilterRequest titleCtxId isAsync s).2 (.idle ret) := by
  refine ⟨tables.createRequest permitted, (createRequest_grows ..).1, ?_, trivial, ?_,
    fun _ same => by cases same⟩
  · unfold createWordFilterRequest
    split
    · rfl
    · split <;> rfl
  · intro i
    unfold createWordFilterRequest
    split
    · exact Or.inl
    · split
      · exact Or.inl
      · exact fun has => Or.inl (hasResult_append rfl rfl has)

theorem leads_createTitle (tables : Tables s) (permitted : Thread.createsTitle.Permitted s)
    (ret : Int) : Leads s (createWordFilterTitleCtx s).2 (.idle ret) := by
  refine leads_tables (tables.createTitle permitted) ?_ ?_ trivial (fun _ same => by cases same)
  · unfold createWordFilterTitleCtx
    split <;> rfl
  · unfold createWordFilterTitleCtx
    split <;> rfl

theorem leads_copies (tables : Tables s) {bytes : List UInt8} {buffer : Nat}
    (below : ref < s.requestCtxs.length)
    (permitted : (Thread.copies bytes buffer ref).Permitted s) :
    Leads s (advance (.copies bytes buffer ref) s).2 (.completes ref) := by
  refine leads_tables ⟨tables.sound, tables.titles, tables.owned, tables.rightful, ?_⟩ rfl rfl
    below (fun _ same => by cases same)
  intro copy member
  rcases List.mem_append.mp member with old | new
  · exact tables.onTime copy old
  · rw [List.mem_singleton.mp new]
    cases there : s.requestCtxs[ref]? with
    | none => rfl
    | some req => exact permitted req there

/-- Every section that is permitted, but for the notifications and the sleep. -/
theorem leads_advance {thread : Thread} (tables : Tables s) (placed : thread.Placed s)
    (quiet : ∀ ref caller, thread ≠ .notifies ref caller)
    (awake : ∀ ref, thread ≠ .sleeps ref) (permitted : thread.Permitted s) :
    Leads s (advance thread s).2 (advance thread s).1 := by
  cases thread with
  | idle ret => exact leads_idle tables ret
  | createsTitle => exact leads_createTitle tables permitted _
  | creates titleCtxId isAsync => exact leads_createRequest tables permitted _
  | finds reqId purpose =>
    obtain ⟨there, up⟩ := get_placed tables reqId purpose
    exact leads_same tables there (fun ref same => absurd same (up ref))
  | starts work ref => exact leads_start tables work placed
  | copies bytes buffer ref => exact leads_copies tables placed permitted
  | completes ref => exact leads_completes tables placed permitted
  | marks ref caller => exact leads_marks tables placed
  | records ref caller => exact leads_setResult tables _
  | notifies ref caller => exact absurd rfl (quiet ref caller)
  | polls ref => exact leads_poll tables
  | waits ref => exact leads_wait tables placed
  | sleeps ref => exact absurd rfl (awake ref)
  | setsTimeout id timeouts => exact leads_setTimeout tables id timeouts _
  | deletes reqId => exact leads_deleteRequest tables reqId
  | deletesTitle titleCtxId =>
    rw [advance]
    cases (s.title? titleCtxId).isSome with
    | true => exact leads_same tables trivial (fun _ same => by cases same)
    | false => exact leads_idle tables _
  | sweeps titleCtxId => exact leads_sweep tables titleCtxId

end Sections

/-! ## Runs -/

section Steps

variable {s : State} {t : Nat} {op : Op}

theorem inv_start (threads : Nat) : Inv (start threads) := by
  refine ⟨tables_start threads, ?_, ?_⟩
  · intro thread member
    rw [List.eq_of_mem_replicate member]
    trivial
  · intro ref asleep
    cases List.eq_of_mem_replicate asleep

theorem begin_placed (call : Call) (s : State) :
    call.begin.Placed s ∧ ∀ ref, call.begin ≠ .sleeps ref := by
  have checks : ∀ reqId work null, (checked reqId work null).Placed s ∧
      ∀ ref, checked reqId work null ≠ .sleeps ref := by
    intro reqId work null
    unfold checked
    split_ifs <;> exact ⟨trivial, fun _ same => by cases same⟩
  cases call with
  | censorComment reqId comment null =>
    cases comment with
    | none => exact ⟨trivial, fun _ same => by cases same⟩
    | some comment => exact checks reqId ⟨comment, none⟩ null
  | sanitizeComment reqId comment sanitized null =>
    cases comment with
    | none => exact ⟨trivial, fun _ same => by cases same⟩
    | some comment =>
      cases sanitized with
      | none => exact ⟨trivial, fun _ same => by cases same⟩
      | some buffer => exact checks reqId ⟨comment, some buffer⟩ null
  | createTitleCtx null => cases null <;> exact ⟨trivial, fun _ same => by cases same⟩
  | createAsyncRequest titleCtxId size =>
    rw [Call.begin]
    split <;> exact ⟨trivial, fun _ same => by cases same⟩
  | pollAsync reqId null => cases null <;> exact ⟨trivial, fun _ same => by cases same⟩
  | waitAsync reqId null => cases null <;> exact ⟨trivial, fun _ same => by cases same⟩
  | setTimeout id timeouts =>
    rw [Call.begin]
    split <;> exact ⟨trivial, fun _ same => by cases same⟩
  | _ => exact ⟨trivial, fun _ same => by cases same⟩

theorem Inv.begin (inv : Inv s) (t : Nat) (call : Call) : Inv (step (.begin t call) s) := by
  rw [step]
  split
  · exact inv
  · next thread current =>
    split
    · next free =>
      obtain ⟨placed, awake⟩ := begin_placed call s
      have leads : Leads s s call.begin :=
        leads_same inv.tables placed (fun ref same => absurd same (awake ref))
      refine inv.next current ?_ leads
      rintro ref caller rfl
      cases free
    · exact inv

theorem Inv.rouses (inv : Inv s) (t : Nat) : Inv (step (.rouses t) s) := by
  rw [step]
  split
  · next ref current =>
    have placed := inv.placed _ (List.mem_of_getElem? current)
    have leads : Leads s s (.waits ref) :=
      leads_same inv.tables placed (fun _ same => by cases same)
    exact inv.next current (fun _ _ same => by cases same) leads
  · exact inv

/-- A sleeping thread that is scheduled goes on sleeping. -/
theorem step_sleeps {ref : Nat} (current : s.threads[t]? = some (.sleeps ref)) :
    step (.next t) s = s := by
  have inside := (List.getElem?_eq_some_iff.mp current).1
  have same : s.threads.set t (.sleeps ref) = s.threads := by
    rw [← Option.some.inj ((List.getElem?_eq_getElem inside).symm.trans current)]
    exact List.set_getElem_self inside
  rw [step]
  rw [current]
  dsimp only
  split
  · rfl
  · rw [advance]
    dsimp only
    rw [same]

theorem Inv.advances (inv : Inv s) (t : Nat) (ok : Ok (.next t) s) : Inv (step (.next t) s) := by
  cases current : s.threads[t]? with
  | none =>
    rw [step]
    rw [current]
    exact inv
  | some thread =>
    by_cases asleep : ∃ ref, thread = .sleeps ref
    · obtain ⟨ref, rfl⟩ := asleep
      rw [step_sleeps current]
      exact inv
    rw [step]
    rw [current]
    dsimp only
    split
    · exact inv
    · next free =>
      have permitted := ok thread current (by simpa using free)
      have placed := inv.placed thread (List.mem_of_getElem? current)
      by_cases notifies : ∃ ref caller, thread = .notifies ref caller
      · obtain ⟨ref, caller, rfl⟩ := notifies
        exact inv.notify current (leads_afterResult (inv.tables.with_threads _) placed)
      · refine inv.next current ?_ (leads_advance inv.tables placed ?_ ?_ permitted)
        · exact fun ref caller same => notifies ⟨ref, caller, same⟩
        · exact fun ref caller same => notifies ⟨ref, caller, same⟩
        · exact fun ref same => asleep ⟨ref, same⟩

theorem Inv.kept (inv : Inv s) (ok : Ok op s) : Inv (step op s) := by
  cases op with
  | begin t call => exact inv.begin t call
  | next t => exact inv.advances t ok
  | rouses t => exact inv.rouses t

theorem Inv.lawful (inv : Inv s) : Lawful s := by
  have sound : ∀ req ∈ s.requestCtxs, Sound req := by
    intro req member
    obtain ⟨ref, there⟩ := List.getElem?_of_mem member
    exact inv.tables.sound ref req there
  refine ⟨?_, ?_, ?_, inv.tables.onTime, fun req member => (sound req member).deleted, ?_,
    inv.tables.owned, ?_, inv.tables.rightful⟩
  · intro req member
    rw [(sound req member).operations]
    split <;> omega
  · intro req member
    rw [(sound req member).results]
    cases req.result <;> simp
  · intro req member r told
    rw [(sound req member).results, (sound req member).told r told]
    rfl
  · intro ref asleep req there known
    exact inv.roused ref asleep ⟨req, there, known⟩
  · intro ctx title entry request same
    have titleCtx := inv.tables.rightful.1 ctx title
    rw [same, inv.tables.rightful.2 entry request] at titleCtx
    cases titleCtx

theorem setsTimeout_of (tables : Tables s) (id : Int32) (timeouts : LookupTimeouts)
    (threads : List Thread) :
    SetsTimeout id timeouts s { (setTimeout id timeouts s).2 with threads } := by
  unfold setTimeout
  cases title : s.title? id with
  | some entry =>
    obtain ⟨there, same⟩ := KeyedTable.lookup_some title
    have below := tables.titles entry there
    have issued := tables.rightful.1 entry there
    rw [same] at issued
    constructor
    · intro object changed
      cases object with
      | request ref => exact absurd rfl changed
      | titleCtx ref =>
        by_cases here : entry.ref = ref
        · exact here ▸ issued
        · exact absurd (by simp [State.timeouts?, List.getElem?_modify_ne _ _ here]) changed
    · intro _
      exact ⟨.titleCtx entry.ref, issued, by simp [State.timeouts?, below]⟩
  | none =>
    cases request : s.request? id with
    | some entry =>
      obtain ⟨there, same⟩ := KeyedTable.lookup_some request
      have below := tables.below there
      have issued := tables.rightful.2 entry there
      rw [same] at issued
      constructor
      · intro object changed
        cases object with
        | titleCtx ref => exact absurd rfl changed
        | request ref =>
          by_cases here : entry.ref = ref
          · exact here ▸ issued
          · refine absurd ?_ changed
            simp [State.timeouts?, State.adjust, List.getElem?_modify_ne _ _ here]
      · intro _
        refine ⟨.request entry.ref, issued, ?_⟩
        simp [State.timeouts?, State.adjust, below, LookupRequestCtx.setTimeouts]
    | none =>
      constructor
      · intro object changed
        cases object with
        | titleCtx ref => exact absurd rfl changed
        | request ref => exact absurd rfl changed
      · intro named
        rw [title, request] at named
        simp at named

theorem Inv.moves (inv : Inv s) (op : Op) : Moves op s (step op s) := by
  rintro t id timeouts rfl current free
  have unblocked : s.blocks (.setsTimeout id timeouts) = false := by
    rw [State.blocks, free, Bool.and_false]
  rw [step, current]
  dsimp only
  rw [unblocked, if_neg Bool.false_ne_true, advance]
  exact setsTimeout_of inv.tables id timeouts _

/-! ### Steps that are not permitted -/

theorem copies_of_lawful {bytes : List UInt8} {buffer ref : Nat} {threads : List Thread}
    (lawful : Lawful { (advance (.copies bytes buffer ref) s).2 with threads }) :
    (Thread.copies bytes buffer ref).Permitted s := by
  intro req there
  have onTime := lawful.onTime
    ⟨buffer, bytes, (s.requestCtxs[ref]?).any LookupRequestCtx.closed⟩ (by simp [advance])
  simpa [Option.mem_def.mp there] using onTime

theorem completes_of_lawful (tables : Tables s) {ref : Nat} {threads : List Thread}
    (lawful : Lawful { (advance (.completes ref) s).2 with threads }) :
    (Thread.completes ref).Permitted s := by
  intro req there sync r known
  rw [completes_known there known] at lawful
  have member : req.returns orbisOk ∈ (s.adjust ref (.returns orbisOk)).requestCtxs := by
    refine List.mem_of_getElem? (i := ref) ?_
    exact adjust_self there
  have told := lawful.told (req.returns orbisOk) member orbisOk
    (by simp [LookupRequestCtx.returns, sync, LookupRequestCtx.tell])
  have results : (req.returns orbisOk).results = [r] := by
    rw [LookupRequestCtx.returns, if_neg (by simp [sync]), LookupRequestCtx.tell,
      (tables.sound ref req there).results, known]
    rfl
  rw [results] at told
  exact (List.cons.inj told).1

/-- An id that is given out again leaves an object it does not name. -/
theorem createsTitle_of_lawful (tables : Tables s) {threads : List Thread}
    (lawful : Lawful { (createWordFilterTitleCtx s).2 with threads }) :
    Thread.createsTitle.Permitted s := by
  intro room
  have rightful := lawful.rightful
  unfold createWordFilterTitleCtx at rightful
  rw [if_neg (by omega)] at rightful
  constructor
  · intro entry there taken
    have issued := rightful.1 entry (mem_emplace_old there)
    rw [issuedFor_cons (s := s) rfl, if_pos taken.symm] at issued
    have below := tables.titles entry there
    have same : s.titleCtxs.length = entry.ref := Object.titleCtx.inj (Option.some.inj issued)
    omega
  · intro entry there taken
    have issued := rightful.2 entry there
    rw [issuedFor_cons (s := s) rfl, if_pos taken.symm] at issued
    cases issued

theorem creates_of_lawful (tables : Tables s) {titleCtxId : Int32} {isAsync : Bool}
    {threads : List Thread}
    (lawful : Lawful { (createWordFilterRequest titleCtxId isAsync s).2 with threads }) :
    (Thread.creates titleCtxId isAsync).Permitted s := by
  intro owner room
  obtain ⟨ctx, owner⟩ := Option.isSome_iff_exists.mp owner
  have rightful := lawful.rightful
  unfold createWordFilterRequest at rightful
  rw [owner] at rightful
  dsimp only at rightful
  rw [if_neg (by omega)] at rightful
  constructor
  · intro entry there taken
    have issued := rightful.1 entry there
    rw [issuedFor_cons (s := s) rfl, if_pos taken.symm] at issued
    cases issued
  · intro entry there taken
    have issued := rightful.2 entry (mem_emplace_old there)
    rw [issuedFor_cons (s := s) rfl, if_pos taken.symm] at issued
    have below := tables.below there
    have same : s.requestCtxs.length = entry.ref := Object.request.inj (Option.some.inj issued)
    omega

theorem Inv.ok_of_lawful (inv : Inv s) (lawful : Lawful (step op s)) : Ok op s := by
  cases op with
  | begin t call => trivial
  | rouses t => trivial
  | next t =>
    intro thread current free
    rw [step, Option.mem_def.mp current] at lawful
    dsimp only at lawful
    rw [free, if_neg Bool.false_ne_true] at lawful
    cases thread with
    | copies bytes buffer ref => exact copies_of_lawful lawful
    | completes ref => exact completes_of_lawful inv.tables lawful
    | createsTitle => exact createsTitle_of_lawful inv.tables lawful
    | creates titleCtxId isAsync => exact creates_of_lawful inv.tables lawful
    | _ => trivial

end Steps

/-- A run is lawful throughout if and only if no comment is copied for a request whose abort or
deletion has returned, no synchronous operation completes a request with another result, and no
id in use is given out. -/
theorem filter_lawful_iff (threads : Nat) (ops : List Op) :
    Throughout step Lawful Moves ops (start threads) ↔ Admitted step Ok ops (start threads) :=
  throughout_iff_admitted_next (fun _ inv => inv.lawful)
    (fun op _ inv ok => ⟨inv.kept ok, inv.moves op⟩)
    (fun _ _ inv _ lawful => inv.ok_of_lawful lawful) (inv_start threads)

/-- A comment is sanitized for a request that is aborted meanwhile. -/
def abortedRun : List Op :=
  [.begin 0 .createTitleCtxA, .next 0, .begin 0 (.createRequest 0x1000001), .next 0,
    .begin 0 (.sanitizeComment 0x2000001 (some [104, 105]) (some 0) true), .next 0, .next 0,
    .begin 1 (.abortRequest 0x2000001), .next 1, .next 1, .next 1, .next 1, .next 0, .next 0]

/-- The comment is copied after the abort has returned, and the operation returns another result
than the one that is recorded. -/
theorem abortedRun_copies_late :
    ¬Throughout step Lawful Moves abortedRun (start 2) ∧
      (run step abortedRun (start 2)).copied = [⟨0, [104, 105, 0], true⟩] ∧
      (run step abortedRun (start 2)).requestCtxs.map (fun req => (req.results, req.told)) =
        [([communityAborted], [orbisOk])] := by
  have copied : (run step abortedRun (start 2)).copied = [⟨0, [104, 105, 0], true⟩] := by decide
  refine ⟨fun lawful => ?_, copied, by decide⟩
  rw [← List.append_nil abortedRun] at lawful
  have member : (⟨0, [104, 105, 0], true⟩ : Copy) ∈ (run step abortedRun (start 2)).copied := by
    rw [copied]
    exact List.mem_singleton_self _
  cases lawful.last.onTime _ member

end WordFilter
