import Mathlib.Data.List.Perm.Subperm
import ShadNet.Auth.Requests

/-!
# Results of authorization requests

The first result of a request stays, whoever sets it, and a code is only written where there is
none. The invariant ties each context to the row it was started for, so that an abort or a
deletion, which looks at the row, reaches the context.
-/

namespace NpAuth

open NpHandler Runs

/-! ## What is promised -/

/-- Polls and waits have reported the result there is, and what was written came with success. -/
structure Consistent (s : Table) : Prop where
  reported : ∀ report ∈ s.reports, s.result? report.1 = some report.2
  written : ∀ w ∈ s.written, s.result? w.ref = some orbisOk

/-- A code may be written while nothing is reported and the request is neither aborted nor
deleted, and it leaves room for the NUL of its buffer. -/
structure Permitted (w : Written) (s : Table) : Prop where
  unfinished : s.result? w.ref = none
  unreported : ∀ report ∈ s.reports, report.1 ≠ w.ref
  alive : ∀ ctx, s.ctxs[w.ref]? = some ctx → ctx.serial ∉ s.dead
  fits : ∃ ctx code, s.ctxs[w.ref]? = some ctx ∧ code.length < 129 ∧
    w.stores = storeAt ctx.outputs.authCode (.bytes code) ++
      storeAt ctx.outputs.issuerId (.number npAuthIssuerId)

/-- A step changes no result, and writes the code of one request at most. -/
structure Lawful (s s' : Table) : Prop where
  final : ∀ ref r, s.result? ref = some r → s'.result? ref = some r
  writes : s'.written = s.written ∨
    ∃ w, s'.written = s.written ++ [w] ∧ s'.reports = s.reports ∧
      s'.result? w.ref = some orbisOk ∧ Permitted w s

/-- The context was started for a request that got the id of the deleted one. -/
def GotIdOf (new old : AuthRequestCtx) (s : Table) : Prop :=
  new.reqId = old.reqId ∧ old.serial < new.serial ∧ old.serial ∈ s.deleted

/-- No reply to a deleted request finds one that got its id. -/
def Unaffected (s : State) : Prop :=
  ∀ found ∈ s.wire.routed, ∀ packet ∈ s.wire.sent, packet.client = found.client →
    packet.pktId = found.pktId → ∀ new old, s.table.ctxs[found.ref]? = some new →
      s.table.ctxs[packet.ref]? = some old → ¬GotIdOf new old s.table

/-- A reply that finds an entry is read on the client that the packet of the entry went out on. -/
def OwnReply : Op → State → Prop
  | .next t, s =>
    match s.threads[t]? with
    | some (.takes client pktId _) =>
      ∀ entry ∈ s.wire.pending? pktId, entry.client = client
    | _ => True
  | _, _ => True

/-! ## Results -/

structure Sound (s : Table) : Prop extends Consistent s where
  apart : ∀ a ∈ s.requests, ∀ b ∈ s.requests, a.serial = b.serial → a = b
  rowSerial : ∀ row ∈ s.requests, row.serial < s.nextSerial
  ctxSerial : ∀ (ref : Nat) ctx, s.ctxs[ref]? = some ctx → ctx.serial < s.nextSerial
  own : ∀ (ref : Nat) ctx, s.ctxs[ref]? = some ctx →
    ∀ row ∈ s.requests, row.serial = ctx.serial → row.ctx = some ref
  dead : ∀ (ref : Nat) ctx, s.ctxs[ref]? = some ctx → ctx.serial ∈ s.dead → ctx.result ≠ none
  marked : ∀ row ∈ s.requests, row.serial ∈ s.dead → row.aborted = true ∨ row.ctx ≠ none
  deadSerial : ∀ n ∈ s.dead, n < s.nextSerial

/-- What may become of a context: its request stays, and so does a result. -/
structure Keeps (f : AuthRequestCtx → AuthRequestCtx) : Prop where
  serial : ∀ ctx, (f ctx).serial = ctx.serial
  result : ∀ ctx r, ctx.result = some r → (f ctx).result = some r

theorem keeps_setResult (r : Int) : Keeps (·.setResult r) where
  serial := fun _ => rfl
  result := fun ctx q found => by rw [AuthRequestCtx.setResult, found, Option.some_or]

theorem setResult_result (r : Int) (ctx : AuthRequestCtx) : (ctx.setResult r).result ≠ none := by
  rw [AuthRequestCtx.setResult]
  cases ctx.result <;> simp

section Results

variable {s : Table} {f : AuthRequestCtx → AuthRequestCtx} {i ref : Nat} {ctx : AuthRequestCtx}

def Table.modify (i : Nat) (f : AuthRequestCtx → AuthRequestCtx) (s : Table) : Table :=
  { s with ctxs := s.ctxs.modify i f }

theorem ctxs_modify : (s.modify i f).ctxs[ref]? =
    (s.ctxs[ref]?).map (fun ctx => if i = ref then f ctx else ctx) := List.getElem?_modify ..

theorem ctx_modify (found : (s.modify i f).ctxs[ref]? = some ctx) :
    ∃ old, s.ctxs[ref]? = some old ∧ (ctx = old ∧ i ≠ ref ∨ ctx = f old ∧ i = ref) := by
  rw [ctxs_modify] at found
  obtain ⟨old, known, made⟩ := Option.map_eq_some_iff.mp found
  refine ⟨old, known, ?_⟩
  by_cases same : i = ref
  · rw [if_pos same] at made
    exact .inr ⟨made.symm, same⟩
  · rw [if_neg same] at made
    exact .inl ⟨made.symm, same⟩

theorem Keeps.final (keeps : Keeps f) {r : Int} (known : s.result? ref = some r) :
    (s.modify i f).result? ref = some r := by
  obtain ⟨ctx, found, result⟩ := Option.bind_eq_some_iff.mp known
  rw [Table.result?, ctxs_modify, found, Option.map_some, Option.bind_some]
  by_cases same : i = ref
  · rw [if_pos same]
    exact keeps.result ctx r result
  · rw [if_neg same]
    exact result

theorem Keeps.lawful (keeps : Keeps f) : Lawful s (s.modify i f) where
  final := fun _ _ known => keeps.final known
  writes := .inl rfl

theorem Sound.modify (sound : Sound s) (keeps : Keeps f) : Sound (s.modify i f) where
  reported := fun report member => keeps.final (sound.reported report member)
  written := fun w member => keeps.final (sound.written w member)
  apart := sound.apart
  rowSerial := sound.rowSerial
  ctxSerial := by
    intro ref ctx found
    obtain ⟨old, known, ⟨rfl, -⟩ | ⟨rfl, -⟩⟩ := ctx_modify found
    · exact sound.ctxSerial ref ctx known
    · exact keeps.serial old ▸ sound.ctxSerial ref old known
  own := by
    intro ref ctx found
    obtain ⟨old, known, ⟨rfl, -⟩ | ⟨rfl, -⟩⟩ := ctx_modify found
    · exact sound.own ref ctx known
    · exact keeps.serial old ▸ sound.own ref old known
  dead := by
    intro ref ctx found
    obtain ⟨old, known, ⟨rfl, -⟩ | ⟨rfl, -⟩⟩ := ctx_modify found
    · exact sound.dead ref ctx known
    · rw [keeps.serial old]
      intro dead
      obtain ⟨r, result⟩ := Option.ne_none_iff_exists'.mp (sound.dead ref old known dead)
      rw [keeps.result old r result]
      exact Option.some_ne_none r
  marked := sound.marked
  deadSerial := sound.deadSerial

end Results

/-! ### The operations on the table -/

section Operations

variable {s : Table} {reqId : Int} {ref : Nat}

theorem Lawful.same {s' : Table} (ctxs : s'.ctxs = s.ctxs) (written : s'.written = s.written) :
    Lawful s s' where
  final := fun ref r known => by rw [Table.result?, ctxs]; exact known
  writes := .inl written

theorem findRequest_ok {request : NpAuthRequest} (found : s.findRequest reqId = .ok request) :
    request ∈ s.requests ∧ request.reqId = reqId := by
  rw [Table.findRequest] at found
  by_cases negative : reqId ≤ 0
  · rw [if_pos negative] at found
    cases found
  · rw [if_neg negative] at found
    cases known : KeyedTable.lookup NpAuthRequest.reqId reqId s.requests with
    | none => rw [known] at found; cases found
    | some row =>
      rw [known] at found
      cases found
      exact KeyedTable.lookup_some known

/-- A row may change all but its serial number. -/
theorem apart_store (sound : Sound s) {row new : NpAuthRequest} (member : row ∈ s.requests)
    (id : new.reqId = row.reqId) (serial : new.serial = row.serial) :
    ∀ a ∈ KeyedTable.store NpAuthRequest.reqId new s.requests,
      ∀ b ∈ KeyedTable.store NpAuthRequest.reqId new s.requests, a.serial = b.serial → a = b := by
  have other : ∀ a ∈ s.requests, a.reqId ≠ new.reqId → a.serial ≠ new.serial := by
    intro a known different same
    have equal := sound.apart a known row member (same.trans serial)
    exact different (equal ▸ id.symm)
  intro a first b second same
  rcases KeyedTable.mem_store.mp first with ⟨mine, mineKey⟩ | rfl
  · rcases KeyedTable.mem_store.mp second with ⟨its, -⟩ | rfl
    · exact sound.apart a mine b its same
    · exact absurd same (other a mine mineKey)
  · rcases KeyedTable.mem_store.mp second with ⟨its, itsKey⟩ | rfl
    · exact absurd same.symm (other b its itsKey)
    · rfl

theorem sound_create (sound : Sound s) (async : Bool) :
    Sound (s.createNpAuthRequest async).2 := by
  rw [Table.createNpAuthRequest]
  by_cases full : s.requests.length = requestLimit
  · rw [if_pos full]
    exact sound
  · rw [if_neg full]
    exact
      { toConsistent := ⟨sound.reported, sound.written⟩
        apart := by
          intro a first b second same
          rcases KeyedTable.mem_store.mp first with ⟨mine, -⟩ | rfl
          · rcases KeyedTable.mem_store.mp second with ⟨its, -⟩ | rfl
            · exact sound.apart a mine b its same
            · exact absurd same (Nat.ne_of_lt (sound.rowSerial a mine))
          · rcases KeyedTable.mem_store.mp second with ⟨its, -⟩ | rfl
            · exact absurd same.symm (Nat.ne_of_lt (sound.rowSerial b its))
            · rfl
        rowSerial := by
          intro row member
          rcases KeyedTable.mem_store.mp member with ⟨member, -⟩ | rfl
          · exact Nat.lt_succ_of_lt (sound.rowSerial row member)
          · exact Nat.lt_succ_self _
        ctxSerial := fun ref ctx found => Nat.lt_succ_of_lt (sound.ctxSerial ref ctx found)
        own := by
          intro ref ctx found row member same
          rcases KeyedTable.mem_store.mp member with ⟨member, -⟩ | rfl
          · exact sound.own ref ctx found row member same
          · exact absurd same.symm (Nat.ne_of_lt (sound.ctxSerial ref ctx found))
        dead := sound.dead
        marked := by
          intro row member dead
          rcases KeyedTable.mem_store.mp member with ⟨member, -⟩ | rfl
          · exact sound.marked row member dead
          · exact absurd (sound.deadSerial _ dead) (Nat.lt_irrefl _)
        deadSerial := fun n dead => Nat.lt_succ_of_lt (sound.deadSerial n dead) }

theorem lawful_create (async : Bool) : Lawful s (s.createNpAuthRequest async).2 := by
  rw [Table.createNpAuthRequest]
  by_cases full : s.requests.length = requestLimit
  · rw [if_pos full]
    exact Lawful.same rfl rfl
  · rw [if_neg full]
    exact Lawful.same rfl rfl

/-- A context that is added leaves those there are where they are. -/
theorem ctxs_append {new ctx : AuthRequestCtx}
    (found : (s.ctxs ++ [new])[ref]? = some ctx) :
    s.ctxs[ref]? = some ctx ∨ ref = s.ctxs.length ∧ ctx = new := by
  by_cases inside : ref < s.ctxs.length
  · rw [List.getElem?_append_left inside] at found
    exact .inl found
  · rw [List.getElem?_append_right (Nat.not_lt.mp inside)] at found
    obtain ⟨position, made⟩ := List.getElem?_eq_some_iff.mp found
    have last : ref = s.ctxs.length := by
      rw [List.length_singleton] at position
      omega
    rw [List.getElem_singleton] at made
    exact .inr ⟨last, made.symm⟩

theorem startRequest_cases : (∃ error, s.startRequest reqId = (.error error, s)) ∨
    ∃ request, s.findRequest reqId = .ok request ∧ request.ctx = none ∧
      request.aborted = false ∧
      s.startRequest reqId = (.ok (request.async, s.ctxs.length),
        { s with
          requests := KeyedTable.store NpAuthRequest.reqId
            { request with ctx := some s.ctxs.length } s.requests
          ctxs := s.ctxs ++ [{ reqId := request.reqId, serial := request.serial }] }) := by
  rw [Table.startRequest]
  cases found : s.findRequest reqId with
  | error error => exact .inl ⟨error, rfl⟩
  | ok request =>
    by_cases started : request.ctx ≠ none
    · exact .inl ⟨authInvalidArgument, by simp only [started, if_true, not_false_eq_true, ne_eq]⟩
    · by_cases aborted : request.aborted = true
      · exact .inl ⟨authAborted, by simp only [started, aborted, if_true, if_false]⟩
      · refine .inr ⟨request, rfl, not_not.mp started, by simpa using aborted, ?_⟩
        simp only [started, aborted, if_false]
        rfl

theorem result_append {new : AuthRequestCtx} {r : Int} (known : s.result? ref = some r) :
    { s with ctxs := s.ctxs ++ [new] }.result? ref = some r := by
  obtain ⟨ctx, found, result⟩ := Option.bind_eq_some_iff.mp known
  obtain ⟨inside, -⟩ := List.getElem?_eq_some_iff.mp found
  rw [Table.result?, List.getElem?_append_left inside, found]
  exact result

theorem lawful_start : Lawful s (s.startRequest reqId).2 := by
  rcases @startRequest_cases s reqId with ⟨error, same⟩ | ⟨request, -, -, -, made⟩
  · rw [same]
    exact Lawful.same rfl rfl
  · rw [made]
    exact ⟨fun ref r known => result_append known, .inl rfl⟩

theorem sound_start (sound : Sound s) : Sound (s.startRequest reqId).2 := by
  rcases @startRequest_cases s reqId with ⟨error, same⟩ | ⟨request, found, fresh, alive, made⟩
  · rw [same]
    exact sound
  · rw [made]
    obtain ⟨member, -⟩ := findRequest_ok found
    have notDead : request.serial ∉ s.dead := by
      intro dead
      rcases sound.marked request member dead with aborted | started
      · exact absurd (alive.symm.trans aborted) Bool.false_ne_true
      · exact started fresh
    exact
      { toConsistent :=
          ⟨fun report member => result_append (sound.reported report member),
            fun w member => result_append (sound.written w member)⟩
        apart := apart_store sound member rfl rfl
        rowSerial := by
          intro row stored
          rcases KeyedTable.mem_store.mp stored with ⟨old, -⟩ | rfl
          · exact sound.rowSerial row old
          · exact sound.rowSerial request member
        ctxSerial := by
          intro ref ctx found
          rcases ctxs_append found with known | ⟨-, rfl⟩
          · exact sound.ctxSerial ref ctx known
          · exact sound.rowSerial request member
        own := by
          intro ref ctx found row stored same
          rcases ctxs_append found with known | ⟨last, rfl⟩
          · rcases KeyedTable.mem_store.mp stored with ⟨old, -⟩ | rfl
            · exact sound.own ref ctx known row old same
            · have started := sound.own ref ctx known request member same
              rw [fresh] at started
              cases started
          · rcases KeyedTable.mem_store.mp stored with ⟨old, different⟩ | rfl
            · exact absurd (sound.apart row old request member same ▸ rfl) different
            · rw [last]
        dead := by
          intro ref ctx found dead
          rcases ctxs_append found with known | ⟨-, rfl⟩
          · exact sound.dead ref ctx known dead
          · exact absurd dead notDead
        marked := by
          intro row stored dead
          rcases KeyedTable.mem_store.mp stored with ⟨old, -⟩ | rfl
          · exact sound.marked row old dead
          · exact .inr (Option.some_ne_none _)
        deadSerial := sound.deadSerial }

/-- A request is dead when its context, if it has one, has a result and no other can start. -/
theorem sound_kill (sound : Sound s) {n : Nat} (deleted : List Nat) (known : n < s.nextSerial)
    (settled : ∀ (ref : Nat) ctx, s.ctxs[ref]? = some ctx → ctx.serial = n → ctx.result ≠ none)
    (refused : ∀ row ∈ s.requests, row.serial = n → row.aborted = true ∨ row.ctx ≠ none) :
    Sound { s with dead := s.dead ++ [n], deleted := deleted } where
  reported := sound.reported
  written := sound.written
  apart := sound.apart
  rowSerial := sound.rowSerial
  ctxSerial := sound.ctxSerial
  own := sound.own
  dead := by
    intro ref ctx found dead
    rcases List.mem_append.mp dead with dead | new
    · exact sound.dead ref ctx found dead
    · exact settled ref ctx found (List.mem_singleton.mp new)
  marked := by
    intro row member dead
    rcases List.mem_append.mp dead with dead | new
    · exact sound.marked row member dead
    · exact refused row member (List.mem_singleton.mp new)
  deadSerial := by
    intro m dead
    rcases List.mem_append.mp dead with dead | new
    · exact sound.deadSerial m dead
    · exact List.mem_singleton.mp new ▸ known

theorem sound_remove (sound : Sound s) (reqId : Int) :
    Sound { s with requests := KeyedTable.remove NpAuthRequest.reqId reqId s.requests } where
  reported := sound.reported
  written := sound.written
  apart := fun a first b second =>
    sound.apart a (KeyedTable.mem_remove.mp first).1 b (KeyedTable.mem_remove.mp second).1
  rowSerial := fun row member => sound.rowSerial row (KeyedTable.mem_remove.mp member).1
  ctxSerial := sound.ctxSerial
  own := fun ref ctx found row member =>
    sound.own ref ctx found row (KeyedTable.mem_remove.mp member).1
  dead := sound.dead
  marked := fun row member => sound.marked row (KeyedTable.mem_remove.mp member).1
  deadSerial := sound.deadSerial

/-- After `SetResult` for the context of a row, the context of its request has a result. -/
theorem over_setResult (sound : Sound s) {request : NpAuthRequest} (member : request ∈ s.requests)
    (started : request.ctx = some ref) (r : Int) (i : Nat) (ctx : AuthRequestCtx)
    (found : (s.setResult ref r).ctxs[i]? = some ctx) (same : ctx.serial = request.serial) :
    ctx.result ≠ none := by
  obtain ⟨old, known, ⟨rfl, different⟩ | ⟨rfl, -⟩⟩ :=
    @ctx_modify s (·.setResult r) ref i ctx found
  · have own := sound.own i ctx known request member same.symm
    rw [started, Option.some.injEq] at own
    exact absurd own different
  · exact setResult_result r old

theorem abortRequest_cases : (∃ error, s.abortRequest reqId = (error, s)) ∨
    ∃ request ∈ s.requests, (∃ ref, request.ctx = some ref ∧
        s.abortRequest reqId =
          (orbisOk, { s.setResult ref authAborted with dead := s.dead ++ [request.serial] })) ∨
      request.ctx = none ∧
        s.abortRequest reqId =
          (orbisOk,
            { s with
              requests := KeyedTable.store NpAuthRequest.reqId { request with aborted := true }
                s.requests
              dead := s.dead ++ [request.serial] }) := by
  rw [Table.abortRequest]
  cases found : s.findRequest reqId with
  | error error => exact .inl ⟨error, rfl⟩
  | ok request =>
    refine .inr ⟨request, (findRequest_ok found).1, ?_⟩
    cases started : request.ctx with
    | some ref => exact .inl ⟨ref, rfl, by simp only [started]⟩
    | none => exact .inr ⟨rfl, by simp only [started]⟩

theorem lawful_abort : Lawful s (s.abortRequest reqId).2 := by
  rcases @abortRequest_cases s reqId with ⟨error, same⟩ | ⟨request, -, ⟨ref, -, made⟩ | ⟨-, made⟩⟩
  · rw [same]
    exact Lawful.same rfl rfl
  · rw [made]
    exact ⟨fun _ _ known => (keeps_setResult authAborted).final known, .inl rfl⟩
  · rw [made]
    exact Lawful.same rfl rfl

theorem sound_abort (sound : Sound s) : Sound (s.abortRequest reqId).2 := by
  rcases @abortRequest_cases s reqId with
    ⟨error, same⟩ | ⟨request, member, ⟨ref, started, made⟩ | ⟨fresh, made⟩⟩
  · rw [same]
    exact sound
  · rw [made]
    refine sound_kill (sound.modify (keeps_setResult authAborted)) s.deleted
      (sound.rowSerial request member) (over_setResult sound member started authAborted) ?_
    intro row old same
    rw [sound.apart row old request member same, started]
    exact .inr (Option.some_ne_none ref)
  · rw [made]
    have marked : Sound { s with
        requests := KeyedTable.store NpAuthRequest.reqId { request with aborted := true }
          s.requests } :=
      { toConsistent := ⟨sound.reported, sound.written⟩
        apart := apart_store sound member rfl rfl
        rowSerial := by
          intro row stored
          rcases KeyedTable.mem_store.mp stored with ⟨old, -⟩ | rfl
          · exact sound.rowSerial row old
          · exact sound.rowSerial request member
        ctxSerial := sound.ctxSerial
        own := by
          intro ref ctx found row stored same
          rcases KeyedTable.mem_store.mp stored with ⟨old, -⟩ | rfl
          · exact sound.own ref ctx found row old same
          · exact sound.own ref ctx found request member same
        dead := sound.dead
        marked := by
          intro row stored dead
          rcases KeyedTable.mem_store.mp stored with ⟨old, -⟩ | rfl
          · exact sound.marked row old dead
          · exact .inl rfl
        deadSerial := sound.deadSerial }
    refine sound_kill marked s.deleted (sound.rowSerial request member) ?_ ?_
    · intro ref ctx found same
      have started := sound.own ref ctx found request member same.symm
      rw [fresh] at started
      cases started
    · intro row stored same
      rcases KeyedTable.mem_store.mp stored with ⟨old, different⟩ | rfl
      · exact absurd (sound.apart row old request member same ▸ rfl) different
      · exact .inl rfl

theorem deleteRequest_cases : (∃ error, s.deleteRequest reqId = (error, s)) ∨
    ∃ request ∈ s.requests, request.reqId = reqId ∧ ∃ s' : Table,
      ((∃ ref, request.ctx = some ref ∧ s' = s.setResult ref authAborted) ∨
        request.ctx = none ∧ s' = s) ∧
      s.deleteRequest reqId =
        (orbisOk,
          { s' with
            requests := KeyedTable.remove NpAuthRequest.reqId reqId s.requests
            dead := s.dead ++ [request.serial]
            deleted := s.deleted ++ [request.serial] }) := by
  rw [Table.deleteRequest]
  cases found : s.findRequest reqId with
  | error error => exact .inl ⟨error, rfl⟩
  | ok request =>
    obtain ⟨member, named⟩ := findRequest_ok found
    refine .inr ⟨request, member, named, ?_⟩
    cases started : request.ctx with
    | some ref => exact ⟨_, .inl ⟨ref, rfl, rfl⟩, by simp only [started]; rfl⟩
    | none => exact ⟨s, .inr ⟨rfl, rfl⟩, by simp only [started]⟩

theorem lawful_delete : Lawful s (s.deleteRequest reqId).2 := by
  rcases @deleteRequest_cases s reqId with
    ⟨error, same⟩ | ⟨request, -, -, s', ⟨ref, -, rfl⟩ | ⟨-, rfl⟩, made⟩
  · rw [same]
    exact Lawful.same rfl rfl
  · rw [made]
    exact ⟨fun _ _ known => (keeps_setResult authAborted).final known, .inl rfl⟩
  · rw [made]
    exact Lawful.same rfl rfl

theorem sound_delete (sound : Sound s) : Sound (s.deleteRequest reqId).2 := by
  rcases @deleteRequest_cases s reqId with
    ⟨error, same⟩ | ⟨request, member, named, s', closed, made⟩
  · rw [same]
    exact sound
  · have gone : ∀ row ∈ KeyedTable.remove NpAuthRequest.reqId reqId s.requests,
        row.serial ≠ request.serial := by
      intro row kept same
      obtain ⟨old, different⟩ := KeyedTable.mem_remove.mp kept
      exact different (sound.apart row old request member same ▸ named)
    rcases closed with ⟨ref, started, rfl⟩ | ⟨fresh, rfl⟩
    · rw [made]
      exact sound_kill (sound_remove (sound.modify (keeps_setResult authAborted)) reqId) _
        (sound.rowSerial request member) (over_setResult sound member started authAborted)
        fun row kept same => absurd same (gone row kept)
    · rw [made]
      refine sound_kill (sound_remove sound reqId) _ (sound.rowSerial request member) ?_
        fun row kept same => absurd same (gone row kept)
      intro ref ctx found same
      have started := sound.own ref ctx found request member same.symm
      rw [fresh] at started
      cases started

theorem setAuthorizationCode_cases {stores : List Store} :
    s.setAuthorizationCode ref stores = s ∨ s.result? ref = none ∧
      s.setAuthorizationCode ref stores =
        { s.setResult ref orbisOk with written := s.written ++ [⟨ref, stores⟩] } := by
  rw [Table.setAuthorizationCode]
  cases known : s.result? ref with
  | some r => exact .inl rfl
  | none => exact .inr ⟨rfl, rfl⟩

theorem result_setResult {r : Int} {ctx : AuthRequestCtx} (found : s.ctxs[ref]? = some ctx)
    (unfinished : s.result? ref = none) : (s.setResult ref r).result? ref = some r := by
  rw [Table.result?, found, Option.bind_some] at unfinished
  have changed : (s.setResult ref r).ctxs[ref]? = some (ctx.setResult r) := by
    refine (@ctxs_modify s (·.setResult r) ref ref).trans ?_
    rw [found, Option.map_some, if_pos rfl]
  rw [Table.result?, changed, Option.bind_some, AuthRequestCtx.setResult, unfinished,
    Option.none_or]

theorem authErrorFromReply_ne (error : ErrorType) : authErrorFromReply error ≠ orbisOk := by
  cases error with
  | other code =>
    have down : authServiceDown ≠ orbisOk := by decide
    exact down
  | _ => decide

/-- A code that is written with success is not empty and leaves room for a NUL. -/
theorem authCompletion_ok {pb : ShadNetProto} {reply : Reply} {outputs : Outputs}
    (ok : (authCompletion pb reply outputs).result = orbisOk) :
    ∃ code : Bytes, code.length < 129 ∧ (authCompletion pb reply outputs).stores =
      storeAt outputs.authCode (.bytes code) ++
        storeAt outputs.issuerId (.number npAuthIssuerId) := by
  rw [authCompletion] at ok ⊢
  by_cases failed : reply.error ≠ .noError
  · rw [if_pos failed] at ok
    exact absurd ok (authErrorFromReply_ne reply.error)
  · rw [if_neg failed] at ok ⊢
    cases parsed : (sizedBody reply.body).bind pb.authorizationCode with
    | none =>
      rw [parsed] at ok
      have refused : authNoTokenReceived ≠ orbisOk := by decide
      exact absurd ok refused
    | some code =>
      rw [parsed] at ok
      dsimp only at ok ⊢
      by_cases unfit : code = [] ∨ code.length ≥ 129
      · rw [if_pos unfit] at ok
        exact absurd ok (by decide)
      · rw [if_neg unfit]
        exact ⟨code, by omega, rfl⟩

theorem complete_kept {pb : ShadNetProto} {reply : Reply} (sound : Sound s) :
    Sound (s.complete pb ref reply) ∧ Lawful s (s.complete pb ref reply) := by
  rw [Table.complete]
  cases found : s.ctxs[ref]? with
  | none => exact ⟨sound, Lawful.same rfl rfl⟩
  | some ctx =>
    dsimp only
    by_cases ok : (authCompletion pb reply ctx.outputs).result = orbisOk
    · rw [if_pos ok]
      rcases @setAuthorizationCode_cases s ref (authCompletion pb reply ctx.outputs).stores with
        same | ⟨unfinished, made⟩
      · rw [same]
        exact ⟨sound, Lawful.same rfl rfl⟩
      · rw [made]
        have kept := sound.modify (f := (·.setResult orbisOk)) (i := ref) (keeps_setResult orbisOk)
        have succeeded := result_setResult (r := orbisOk) found unfinished
        constructor
        · exact
            { toConsistent :=
                ⟨kept.reported, fun w member => by
                  rcases List.mem_append.mp member with old | new
                  · exact kept.written w old
                  · rw [List.mem_singleton.mp new]
                    exact succeeded⟩
              apart := kept.apart
              rowSerial := kept.rowSerial
              ctxSerial := kept.ctxSerial
              own := kept.own
              dead := kept.dead
              marked := kept.marked
              deadSerial := kept.deadSerial }
        · refine ⟨fun _ _ known => (keeps_setResult orbisOk).final known,
            .inr ⟨_, rfl, rfl, succeeded, ?_⟩⟩
          obtain ⟨code, fits, stores⟩ := authCompletion_ok ok
          exact
            { unfinished := unfinished
              unreported := by
                rintro report member rfl
                have known := sound.reported report member
                rw [unfinished] at known
                cases known
              alive := by
                intro ctx known dead
                refine sound.dead ref ctx known dead ?_
                rw [Table.result?, known] at unfinished
                exact unfinished
              fits := ⟨ctx, code, found, fits, stores⟩ }
    · rw [if_neg ok]
      exact ⟨sound.modify (keeps_setResult _),
        fun _ _ known => (keeps_setResult _).final known, .inl rfl⟩

theorem report_kept {r : Int} (sound : Sound s) (known : s.result? ref = some r) :
    Sound (s.report ref r) ∧ Lawful s (s.report ref r) := by
  refine ⟨?_, Lawful.same rfl rfl⟩
  exact
    { toConsistent :=
        ⟨fun report member => by
          rcases List.mem_append.mp member with old | new
          · exact sound.reported report old
          · rw [List.mem_singleton.mp new]
            exact known, sound.written⟩
      apart := sound.apart
      rowSerial := sound.rowSerial
      ctxSerial := sound.ctxSerial
      own := sound.own
      dead := sound.dead
      marked := sound.marked
      deadSerial := sound.deadSerial }

/-- What a sweep of the pending map sets. -/
def setAll (entries : List PendingAuthRequest) (errorCode : Int) (s : Table) : Table :=
  entries.foldl (fun table entry => table.setResult entry.req errorCode) s

theorem sound_setAll {entries : List PendingAuthRequest} {errorCode : Int} (sound : Sound s) :
    Sound (setAll entries errorCode s) := by
  induction entries generalizing s with
  | nil => exact sound
  | cons entry entries ih => exact ih (sound.modify (keeps_setResult errorCode))

theorem lawful_setAll {entries : List PendingAuthRequest} {errorCode : Int} :
    Lawful s (setAll entries errorCode s) := by
  refine ⟨?_, .inl ?_⟩
  · induction entries generalizing s with
    | nil => exact fun _ _ known => known
    | cons entry entries ih =>
      exact fun ref r known => ih ref r ((keeps_setResult errorCode).final known)
  · induction entries generalizing s with
    | nil => rfl
    | cons entry entries ih => exact ih

end Operations

theorem keeps_outputs (outputs : Outputs) :
    Keeps fun ctx : AuthRequestCtx => { ctx with outputs } where
  serial := fun _ => rfl
  result := fun _ _ found => found

/-- Every critical section keeps the table sound and is lawful. -/
theorem advance_kept (pb : ShadNetProto) (enabled : Bool) (thread : Thread) {s : State}
    (sound : Sound s.table) : Sound (advance pb enabled thread s).2.table ∧
      Lawful s.table (advance pb enabled thread s).2.table := by
  have still : Sound s.table ∧ Lawful s.table s.table := ⟨sound, Lawful.same rfl rfl⟩
  have starting : ∀ reqId, Sound (s.table.startRequest reqId).2 ∧
      Lawful s.table (s.table.startRequest reqId).2 := fun _ => ⟨sound_start sound, lawful_start⟩
  cases thread with
  | idle ret => exact still
  | creates async => exact ⟨sound_create sound async, lawful_create async⟩
  | starts reqId userId outputs =>
    have started := starting reqId
    rw [advance]
    rcases made : s.table.startRequest reqId with ⟨error | ⟨async, ref⟩, table⟩
    · exact still
    · rw [made] at started
      exact started
  | startsToken reqId =>
    have started := starting reqId
    rw [advance]
    rcases made : s.table.startRequest reqId with ⟨error | ⟨async, ref⟩, table⟩
    · exact still
    · rw [made] at started
      exact started
  | looksUp ref async userId outputs =>
    have stored : Sound (s.table.modify ref fun ctx => { ctx with outputs }) ∧
        Lawful s.table (s.table.modify ref fun ctx => { ctx with outputs }) :=
      ⟨sound.modify (keeps_outputs outputs), (keeps_outputs outputs).lawful⟩
    rw [advance]
    split
    · exact stored
    · exact stored
  | checks ref async userId client => exact still
  | submits ref async userId client => exact still
  | sets ref async ret =>
    exact ⟨sound.modify (keeps_setResult ret), (keeps_setResult ret).lawful⟩
  | finishes ref async =>
    rw [advance]
    split
    · exact still
    · split
      · next r known => exact report_kept sound known
      · exact still
  | aborts reqId => exact ⟨sound_abort sound, lawful_abort⟩
  | deletes reqId => exact ⟨sound_delete sound, lawful_delete⟩
  | finds reqId waiting =>
    rw [advance]
    split
    · exact still
    · exact still
  | waits ref =>
    rw [advance]
    split
    · next r known => exact report_kept sound known
    · exact still
  | polls ref =>
    rw [advance]
    split
    · next r known => exact report_kept sound known
    · exact still
  | takes client pktId reply => exact still
  | completes ref reply => exact complete_kept sound
  | cuts userId errorCode =>
    rw [advance]
    split
    · exact still
    · exact still
  | sweeps userId errorCode => exact ⟨sound_setAll sound, lawful_setAll⟩

theorem step_kept (pb : ShadNetProto) (enabled : Bool) (op : Op) {s : State}
    (sound : Sound s.table) : Sound (step pb enabled op s).table ∧
      Lawful s.table (step pb enabled op s).table := by
  have still : Sound s.table ∧ Lawful s.table s.table := ⟨sound, Lawful.same rfl rfl⟩
  cases op with
  | connect userId => exact still
  | loseConnection client => exact still
  | otherPacket client => exact still
  | begin t request =>
    rw [step]
    cases s.threads[t]? with
    | none => exact still
    | some thread =>
      simp only
      split
      · exact still
      · exact still
  | next t =>
    rw [step]
    cases s.threads[t]? with
    | none => exact still
    | some thread => exact advance_kept pb enabled thread sound

end NpAuth
