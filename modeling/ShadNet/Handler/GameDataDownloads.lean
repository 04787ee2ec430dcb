import ShadNet.Handler.Threads

/-!
# Game data of scores in slices

The first call for a target asks the server and keeps the whole blob in the request; the calls
after it are served from there. The blob is kept under a key that does not say whose player
character it belongs to. The runs below are sequences of calls on one request; beside the state
they carry what the calls of the transfer under way were given, and whose blob is kept.
-/

namespace NpScore

open NpHandler HandlerState

/-! ## Runs of calls -/

structure DownloadTarget where
  key : GameDataKey
  pcId : Int
  deriving DecidableEq, Repr

/-- A server that answers with the blobs it has stored. -/
structure ScoreServer where
  blob : DownloadTarget → Bytes
  body : DownloadTarget → Bytes
  carries : ∀ target, sizedBody (body target) = some (blob target)

/-- A call for a piece of game data; `replied` tells whether an answer comes if the server has to
be asked, and not a failure. -/
structure DownloadCall where
  key : GameDataKey
  out : GameDataOutputs
  positive : 0 < out.recvSize
  replied : Bool

/-- What a call that succeeded was given, with what the calls before it were given. -/
structure Delivery where
  target : DownloadTarget
  recvSize : Nat
  before : Bytes
  bytes : Bytes
  result : Int
  source : Option DownloadTarget
  deriving DecidableEq, Repr

structure Downloading where
  state : HandlerState
  reading : Option (DownloadTarget × Bytes) := none
  source : Option DownloadTarget := none
  deliveries : List Delivery := []

inductive DownloadOp where
  | setPlayerCharacterId (ctxId : Nat) (pcId : Int)
  | getGameData (call : DownloadCall)

def pcIdOf (ref : Nat) (s : HandlerState) : Int := ((s.request? ref).map (·.pcId)).getD 0

/-- What was given of the transfer that a call for the target goes on with. -/
def soFar (target : DownloadTarget) (d : Downloading) : Bytes :=
  match d.reading with
  | some (other, bytes) => if other = target then bytes else []
  | none => []

/-- A short read ends the transfer. -/
def delivered (target : DownloadTarget) (recvSize : Nat) (bytes : Bytes) (result : Int)
    (source : Option DownloadTarget) (s : HandlerState) (d : Downloading) : Downloading :=
  { state := s
    reading :=
      if bytes.length < recvSize then none else some (target, soFar target d ++ bytes)
    source
    deliveries := d.deliveries ++
      [{ target, recvSize, before := soFar target d, bytes, result, source }] }

section Steps

variable (server : ScoreServer) (ref : Nat)

/-- `GetGameDataImpl` and `GetGameDataByAccountIdImpl`, with the answer of the server. -/
def getGameDataSlice (call : DownloadCall) (d : Downloading) : Downloading :=
  let target : DownloadTarget := ⟨call.key, pcIdOf ref d.state⟩
  match serveGameDataFromCache ref call.key call.out d.state with
  | (some n, s) =>
    delivered target call.out.recvSize (bytesOf (s.stores.drop d.state.stores.length)) n d.source s d
  | (none, s) =>
    if call.replied then
      let c := gameDataCompletion (server.body target)
        { dataOut := call.out.data, recvSize := call.out.recvSize,
          totalSizeOut := call.out.totalSize }
      delivered target call.out.recvSize (bytesOf c.stores) c.result (some target)
        (keepRecv ref c.recv s) d
    else { d with state := s, reading := none }

def downloadStep (op : DownloadOp) (d : Downloading) : Downloading :=
  match op with
  | .setPlayerCharacterId ctxId pcId =>
    { d with state := (setPlayerCharacterId ctxId pcId d.state).2 }
  | .getGameData call => getGameDataSlice server ref call d

end Steps

/-! ## What a call should be given -/

/-- The slices of a transfer make up the blob of its target as far as they go, and all of it when
a slice is short. -/
structure Right (server : ScoreServer) (d : Delivery) : Prop where
  result : d.result = d.bytes.length
  size : d.bytes.length ≤ d.recvSize
  slices : d.before ++ d.bytes <+: server.blob d.target
  end_ : d.bytes.length < d.recvSize → d.before ++ d.bytes = server.blob d.target
  source : d.bytes ≠ [] → d.source = some d.target

/-- The call continues no transfer of another player character, and has a buffer for what is
left. Where there is nothing to give either way, neither matters. -/
structure Fits (server : ScoreServer) (ref : Nat) (call : DownloadCall) (d : Downloading) :
    Prop where
  own : ∀ other bytes, d.reading = some (other, bytes) → other.key = call.key →
    other ≠ ⟨call.key, pcIdOf ref d.state⟩ →
    server.blob ⟨call.key, pcIdOf ref d.state⟩ = [] ∧
      (call.out.data = none ∨ server.blob other = bytes)
  buffer : call.out.data = none →
    call.replied = true ∨ (∃ other bytes, d.reading = some (other, bytes) ∧ other.key = call.key) →
    server.blob ⟨call.key, pcIdOf ref d.state⟩ = soFar ⟨call.key, pcIdOf ref d.state⟩ d

def FitsOp (server : ScoreServer) (ref : Nat) (op : DownloadOp) (d : Downloading) : Prop :=
  match op with
  | .setPlayerCharacterId .. => True
  | .getGameData call => Fits server ref call d

/-! ### One call -/

/-- How many of the bytes that are left a call is given. -/
def given (out : GameDataOutputs) (left : Nat) : Nat :=
  if out.data.isSome then min left out.recvSize else 0

theorem given_le (out : GameDataOutputs) (left : Nat) :
    given out left ≤ left ∧ given out left ≤ out.recvSize := by
  rw [given]
  split
  · omega
  · omega

/-- Without a buffer nothing is given. -/
theorem take_given (out : GameDataOutputs) (left : Nat) (bytes : Bytes) :
    (if out.data.isSome then bytes.take (given out left) else []) =
      bytes.take (given out left) := by
  by_cases buffer : out.data.isSome = true
  · rw [if_pos buffer]
  · rw [if_neg buffer, given, if_neg buffer, List.take_zero]

theorem request?_recv {s : HandlerState} {ref : Nat} {ctx : RequestCtx} {recv : RecvCache}
    (known : s.request? ref = some ctx) :
    (s.withRequest ref (fun ctx => { ctx with recv })).request? ref = some { ctx with recv } := by
  rw [request?_withRequest (f := fun ctx => { ctx with recv }) (fun _ => rfl), known,
    Option.map_some, if_pos (request?_ref known)]

section Call

variable {server : ScoreServer} {ref : Nat} {call : DownloadCall} {d : Downloading}
  {ctx : RequestCtx} (known : d.state.request? ref = some ctx)
include known

theorem pcIdOf_eq : pcIdOf ref d.state = ctx.pcId := by
  rw [pcIdOf, known, Option.map_some, Option.getD_some]

/-- A call that does not go on with what is kept has the server asked. -/
theorem serve_asks (asked : ctx.recv.offset = 0 ∨ ctx.recv.key ≠ some call.key) :
    serveGameDataFromCache ref call.key call.out d.state =
      (none, d.state.withRequest ref (fun ctx => { ctx with recv := { key := some call.key } })) := by
  rw [serveGameDataFromCache, known]
  exact if_pos asked

theorem slice_failed (asked : ctx.recv.offset = 0 ∨ ctx.recv.key ≠ some call.key)
    (fails : call.replied = false) :
    getGameDataSlice server ref call d =
      { d with
        state := d.state.withRequest ref (fun ctx => { ctx with recv := { key := some call.key } })
        reading := none } := by
  rw [getGameDataSlice, serve_asks known asked]
  dsimp only
  rw [if_neg (by simp [fails])]

/-- The call is given what is left of the blob from the offset on, as far as it asks for it, and
the request goes on from there unless it was given less. -/
def Gives (server : ScoreServer) (ref : Nat) (call : DownloadCall) (d : Downloading)
    (ctx : RequestCtx) (blob : Bytes) (offset : Nat) (source : Option DownloadTarget) : Prop :=
  ∃ s, getGameDataSlice server ref call d =
      delivered ⟨call.key, ctx.pcId⟩ call.out.recvSize
        ((blob.drop offset).take (given call.out (blob.length - offset)))
        (given call.out (blob.length - offset) : Nat) source s d ∧
    s.request? ref = some { ctx with
      recv :=
        if given call.out (blob.length - offset) < call.out.recvSize then
          { key := some call.key }
        else
          { offset := offset + given call.out (blob.length - offset)
            cache := blob
            key := some call.key } }

omit known in
theorem request?_keepRecv {s : HandlerState} {key : Option GameDataKey} {offset : Nat}
    {cache : Bytes} (found : s.request? ref = some { ctx with recv := { key } }) :
    (keepRecv ref (some (offset, cache)) s).request? ref =
      some { ctx with recv := { offset, cache, key } } := by
  rw [keepRecv, request?_withRequest (f := fun ctx =>
    { ctx with recv := { ctx.recv with offset, cache } }) (fun _ => rfl), found, Option.map_some,
    if_pos (request?_ref found)]

theorem gives_replied (asked : ctx.recv.offset = 0 ∨ ctx.recv.key ≠ some call.key)
    (replied : call.replied = true) :
    Gives server ref call d ctx (server.blob ⟨call.key, ctx.pcId⟩) 0
      (some ⟨call.key, ctx.pcId⟩) := by
  let n := given call.out (server.blob ⟨call.key, ctx.pcId⟩).length
  refine ⟨keepRecv ref
    (some (if n < call.out.recvSize then (0, []) else (n, server.blob ⟨call.key, ctx.pcId⟩)))
    (d.state.withRequest ref (fun ctx => { ctx with recv := { key := some call.key } })), ?_, ?_⟩
  · rw [getGameDataSlice, serve_asks known asked, pcIdOf_eq known]
    dsimp only
    rw [if_pos replied, gameDataCompletion, server.carries]
    dsimp only
    rw [bytesOf_append, bytesOf_number, bytesOf_copyTo, List.nil_append, ← given, List.drop_zero,
      Nat.sub_zero]
    exact congrArg (fun bytes => delivered _ _ bytes _ _ _ d) (take_given call.out _ _)
  · have kept : (d.state.withRequest ref
        (fun ctx => { ctx with recv := { key := some call.key } })).request? ref = _ :=
      request?_recv known
    rw [Nat.sub_zero, Nat.zero_add]
    by_cases short : n < call.out.recvSize
    · rw [if_pos short, if_pos short]
      exact request?_keepRecv kept
    · rw [if_neg short, if_neg short]
      exact request?_keepRecv kept

theorem serve_goes_on (goesOn : ctx.recv.offset ≠ 0) (key : ctx.recv.key = some call.key)
    (within : ctx.recv.offset ≤ ctx.recv.cache.length) :
    ∃ s, serveGameDataFromCache ref call.key call.out d.state =
        (some (given call.out (ctx.recv.cache.length - ctx.recv.offset)), s) ∧
      s.stores = d.state.stores ++
        (copyTo call.out.data ((ctx.recv.cache.drop ctx.recv.offset).take
          (given call.out (ctx.recv.cache.length - ctx.recv.offset))) ++
        storeAt call.out.totalSize (.number ctx.recv.cache.length)) ∧
      s.request? ref = some { ctx with
        recv :=
          if given call.out (ctx.recv.cache.length - ctx.recv.offset) < call.out.recvSize then
            { key := some call.key }
          else
            { offset := ctx.recv.offset +
                given call.out (ctx.recv.cache.length - ctx.recv.offset)
              cache := ctx.recv.cache
              key := some call.key } } := by
  have start : min ctx.recv.offset ctx.recv.cache.length = ctx.recv.offset := by omega
  have asks : ¬(ctx.recv.offset = 0 ∨ ctx.recv.key ≠ some call.key) := by
    rintro (zero | other)
    · exact goesOn zero
    · exact other key
  rw [serveGameDataFromCache, known]
  dsimp only
  rw [if_neg asks, start, ← given, key]
  refine ⟨_, rfl, List.append_assoc .., ?_⟩
  exact request?_recv (s := { d.state with stores := _ }) known

theorem gives_served (goesOn : ctx.recv.offset ≠ 0) (key : ctx.recv.key = some call.key)
    (within : ctx.recv.offset ≤ ctx.recv.cache.length) :
    Gives server ref call d ctx ctx.recv.cache ctx.recv.offset d.source := by
  obtain ⟨s, served, stores, found⟩ := serve_goes_on known goesOn key within
  refine ⟨s, ?_, found⟩
  rw [getGameDataSlice, served, pcIdOf_eq known]
  dsimp only
  rw [stores, List.drop_left, bytesOf_append, bytesOf_number, bytesOf_copyTo, List.append_nil,
    take_given]

end Call

/-! ### Whole runs -/

/-- What the request keeps is the blob that its transfer is about, and the calls of the transfer
were given all of it up to the offset. -/
structure Linked (server : ScoreServer) (d : Downloading) (ctx : RequestCtx) : Prop where
  idle : ctx.recv.offset = 0 → d.reading = none
  busy : ctx.recv.offset ≠ 0 → ∃ target, d.reading = some (target, ctx.recv.cache.take ctx.recv.offset) ∧
    ctx.recv.key = some target.key ∧ ctx.recv.cache = server.blob target ∧
    ctx.recv.offset ≤ ctx.recv.cache.length ∧ d.source = some target

structure Downloads (server : ScoreServer) (ref : Nat) (d : Downloading) : Prop where
  request : ∃ ctx, d.state.request? ref = some ctx ∧ Linked server d ctx
  right : ∀ delivery ∈ d.deliveries, Right server delivery

/-- A slice is right where it is the target's own, and there is a buffer for what is left. -/
theorem right_slice_iff {server : ScoreServer} {call : DownloadCall}
    {target source : DownloadTarget} {offset : Nat} {before : Bytes}
    (within : offset ≤ (server.blob source).length)
    (own : source = target → before = (server.blob source).take offset)
    (other : source ≠ target → before = []) :
    Right server ⟨target, call.out.recvSize, before,
      ((server.blob source).drop offset).take
        (given call.out ((server.blob source).length - offset)),
      (given call.out ((server.blob source).length - offset) : Nat), some source⟩ ↔
      (source ≠ target → server.blob target = [] ∧
        (call.out.data = none ∨ (server.blob source).length = offset)) ∧
      (call.out.data = none → server.blob target = before) := by
  have positive := call.positive
  obtain ⟨atMost, within_⟩ := given_le call.out ((server.blob source).length - offset)
  have length : (((server.blob source).drop offset).take
      (given call.out ((server.blob source).length - offset))).length =
      given call.out ((server.blob source).length - offset) := by
    rw [List.length_take, List.length_drop]
    omega
  have without : call.out.data = none →
      given call.out ((server.blob source).length - offset) = 0 := by
    intro null
    rw [given, null, Option.isSome_none, if_neg Bool.false_ne_true]
  have buffered : call.out.data ≠ none →
      given call.out ((server.blob source).length - offset) =
        min ((server.blob source).length - offset) call.out.recvSize := by
    intro buffer
    rw [given, if_pos (Option.isSome_iff_ne_none.mpr buffer)]
  constructor
  · intro right
    constructor
    · intro different
      have nothing : ((server.blob source).drop offset).take
          (given call.out ((server.blob source).length - offset)) = [] := by
        by_contra some_
        exact different (Option.some.inj (right.source some_))
      have zero : given call.out ((server.blob source).length - offset) = 0 := by
        rw [← length, nothing, List.length_nil]
      have whole := right.end_ (by rw [nothing]; exact positive)
      refine ⟨?_, ?_⟩
      · rw [← whole, nothing, other different, List.append_nil]
      · by_cases null : call.out.data = none
        · exact .inl null
        · have all := buffered null
          exact .inr (by omega)
    · intro null
      have nothing := List.length_eq_zero_iff.mp (length.trans (without null))
      have whole := right.end_ (by rw [nothing]; exact positive)
      rw [← whole, nothing, List.append_nil]
  · rintro ⟨different, null⟩
    by_cases same : source = target
    · subst same
      by_cases buffer : call.out.data = none
      · have nothing := List.length_eq_zero_iff.mp (length.trans (without buffer))
        have whole : before ++ ((server.blob source).drop offset).take
            (given call.out ((server.blob source).length - offset)) = server.blob source := by
          rw [nothing, List.append_nil, null buffer]
        exact ⟨congrArg _ length.symm, Nat.le_trans (Nat.le_of_eq length) within_, ⟨[], (List.append_nil _).trans whole⟩,
          fun _ => whole, fun _ => rfl⟩
      · have slices : before ++ ((server.blob source).drop offset).take
            (given call.out ((server.blob source).length - offset)) =
            (server.blob source).take
              (offset + given call.out ((server.blob source).length - offset)) := by
          rw [own rfl, List.take_add]
        refine ⟨congrArg _ length.symm, Nat.le_trans (Nat.le_of_eq length) within_, ?_, ?_, fun _ => rfl⟩
        · exact ⟨_, (congrArg (· ++ _) slices).trans (List.take_append_drop _ _)⟩
        · intro short
          have all := buffered buffer
          rw [slices]
          refine List.take_of_length_le ?_
          rw [length] at short
          dsimp only at short
          omega
    · obtain ⟨empty, done⟩ := different same
      have zero : given call.out ((server.blob source).length - offset) = 0 := by
        rcases done with buffer | done
        · exact without buffer
        · omega
      have nothing := List.length_eq_zero_iff.mp (length.trans zero)
      have whole : before ++ ((server.blob source).drop offset).take
          (given call.out ((server.blob source).length - offset)) = server.blob target := by
        rw [nothing, other same, empty, List.append_nil]
      exact ⟨congrArg _ length.symm, Nat.le_trans (Nat.le_of_eq length) within_, ⟨[], (List.append_nil _).trans whole⟩,
        fun _ => whole, fun some_ => absurd nothing some_⟩

/-- What a call that succeeds takes from whose blob, and when it suits it. -/
theorem slice_cases {server : ScoreServer} {ref : Nat} {call : DownloadCall} {d : Downloading}
    {ctx : RequestCtx} (known : d.state.request? ref = some ctx) (linked : Linked server d ctx) :
    (Fits server ref call d ∧
      getGameDataSlice server ref call d =
        { d with
          state := d.state.withRequest ref
            (fun ctx => { ctx with recv := { key := some call.key } })
          reading := none }) ∨
    ∃ source offset, offset ≤ (server.blob source).length ∧ source.key = call.key ∧
      Gives server ref call d ctx (server.blob source) offset (some source) ∧
      (source = ⟨call.key, ctx.pcId⟩ →
        soFar ⟨call.key, ctx.pcId⟩ d = (server.blob source).take offset) ∧
      (source ≠ ⟨call.key, ctx.pcId⟩ → soFar ⟨call.key, ctx.pcId⟩ d = []) ∧
      (Fits server ref call d ↔
        (source ≠ ⟨call.key, ctx.pcId⟩ → server.blob ⟨call.key, ctx.pcId⟩ = [] ∧
          (call.out.data = none ∨ (server.blob source).length = offset)) ∧
        (call.out.data = none →
          server.blob ⟨call.key, ctx.pcId⟩ = soFar ⟨call.key, ctx.pcId⟩ d)) := by
  have pcId := pcIdOf_eq known
  by_cases asked : ctx.recv.offset = 0 ∨ ctx.recv.key ≠ some call.key
  · have elsewhere : ∀ other bytes, d.reading = some (other, bytes) → other.key ≠ call.key := by
      intro other bytes reading
      have goesOn : ctx.recv.offset ≠ 0 := by
        intro zero
        rw [linked.idle zero] at reading
        cases reading
      obtain ⟨target, same, key, -⟩ := linked.busy goesOn
      rw [reading] at same
      cases same
      intro alike
      exact asked.resolve_left goesOn (by rw [key, alike])
    cases replied : call.replied with
    | false =>
      refine .inl ⟨⟨?_, ?_⟩, slice_failed known asked replied⟩
      · exact fun other bytes reading key => absurd key (elsewhere other bytes reading)
      · rintro - (answered | ⟨other, bytes, reading, key⟩)
        · rw [replied] at answered
          cases answered
        · exact absurd key (elsewhere other bytes reading)
    | true =>
      have fresh : soFar ⟨call.key, ctx.pcId⟩ d = [] := by
        rw [soFar]
        cases reading : d.reading with
        | none => rfl
        | some r =>
          have other : r.1 ≠ ⟨call.key, ctx.pcId⟩ := by
            intro same
            exact elsewhere r.1 r.2 reading (congrArg DownloadTarget.key same)
          exact if_neg other
      refine .inr ⟨⟨call.key, ctx.pcId⟩, 0, Nat.zero_le _, rfl, gives_replied known asked replied,
        fun _ => ?_, fun different => absurd rfl different, ?_⟩
      · rw [fresh, List.take_zero]
      · constructor
        · intro fits
          refine ⟨fun different => absurd rfl different, fun null => ?_⟩
          have left := fits.buffer null (.inl replied)
          rw [pcId] at left
          exact left
        · rintro ⟨-, left⟩
          refine ⟨?_, fun null _ => ?_⟩
          · exact fun other bytes reading key => absurd key (elsewhere other bytes reading)
          · rw [pcId]
            exact left null
  · rw [not_or, not_not] at asked
    obtain ⟨source, reading, key, cache, within, from_⟩ := linked.busy asked.1
    have sameKey : source.key = call.key := by
      rw [key] at asked
      exact Option.some.inj asked.2
    refine .inr ⟨source, ctx.recv.offset, cache ▸ within, sameKey, ?_, ?_, ?_, ?_⟩
    · rw [← cache, ← from_]
      exact gives_served known asked.1 asked.2 within
    · intro own
      rw [soFar, reading, ← cache]
      exact if_pos own
    · intro different
      rw [soFar, reading]
      exact if_neg different
    · have all : (server.blob source).length = ctx.recv.offset ↔
          server.blob source = ctx.recv.cache.take ctx.recv.offset := by
        rw [← cache]
        constructor
        · intro done
          rw [List.take_of_length_le (by omega)]
        · intro whole
          have length := congrArg List.length whole
          rw [List.length_take] at length
          omega
      rw [all]
      constructor
      · intro fits
        refine ⟨fun different => ?_, fun null => ?_⟩
        · have suits := fits.own source _ reading sameKey (by rw [pcId]; exact different)
          rw [pcId] at suits
          exact suits
        · have left := fits.buffer null (.inr ⟨source, _, reading, sameKey⟩)
          rw [pcId] at left
          exact left
      · rintro ⟨different, left⟩
        refine ⟨?_, fun null _ => ?_⟩
        · intro other bytes same _ otherThan
          rw [reading] at same
          cases same
          rw [pcId] at otherThan ⊢
          exact different otherThan
        · rw [pcId]
          exact left null

/-- The new slice is right where the call fits. -/
theorem fits_of_right {server : ScoreServer} {ref : Nat} {call : DownloadCall} {d : Downloading}
    (downloads : Downloads server ref d)
    (right : ∀ delivery ∈ (getGameDataSlice server ref call d).deliveries,
      Right server delivery) : Fits server ref call d := by
  obtain ⟨⟨ctx, known, linked⟩, -⟩ := downloads
  rcases @slice_cases server ref call d ctx known linked with
    ⟨fits, -⟩ | ⟨source, offset, within, -, gives, own, other, suits⟩
  · exact fits
  · obtain ⟨s, slice, -⟩ := gives
    rw [slice] at right
    have last := right _ (List.mem_append_right _ (List.mem_singleton.mpr rfl))
    exact suits.mpr ((right_slice_iff within own other).mp last)

theorem downloads_slice {server : ScoreServer} {ref : Nat} {call : DownloadCall}
    {d : Downloading} (downloads : Downloads server ref d) (fits : Fits server ref call d) :
    Downloads server ref (getGameDataSlice server ref call d) := by
  obtain ⟨⟨ctx, known, linked⟩, right⟩ := downloads
  rcases @slice_cases server ref call d ctx known linked with
    ⟨-, slice⟩ | ⟨source, offset, within, key, gives, own, other, suits⟩
  · rw [slice]
    refine ⟨⟨_, request?_recv known, fun _ => rfl, fun goesOn => absurd rfl goesOn⟩, right⟩
  · obtain ⟨s, slice, kept⟩ := gives
    have slices := (right_slice_iff within own other).mpr (suits.mp fits)
    obtain ⟨atMost, -⟩ := given_le call.out ((server.blob source).length - offset)
    have length : (((server.blob source).drop offset).take
        (given call.out ((server.blob source).length - offset))).length =
        given call.out ((server.blob source).length - offset) := by
      rw [List.length_take, List.length_drop]
      omega
    rw [slice]
    refine ⟨⟨_, kept, ?_, ?_⟩, ?_⟩
    · intro zero
      by_cases short :
          given call.out ((server.blob source).length - offset) < call.out.recvSize
      · exact if_pos (by rw [length]; exact short)
      · rw [if_neg short] at zero
        have positive := call.positive
        dsimp only at zero
        omega
    · intro goesOn
      by_cases short :
          given call.out ((server.blob source).length - offset) < call.out.recvSize
      · rw [if_pos short] at goesOn
        exact absurd rfl goesOn
      · rw [if_neg short]
        have positive := call.positive
        -- a slice that is not short has bytes, so it is the target's own
        have some_ : ((server.blob source).drop offset).take
            (given call.out ((server.blob source).length - offset)) ≠ [] := by
          intro nothing
          rw [nothing, List.length_nil] at length
          omega
        have same : source = ⟨call.key, ctx.pcId⟩ := Option.some.inj (slices.source some_)
        refine ⟨⟨call.key, ctx.pcId⟩, ?_, rfl, congrArg _ same, ?_, congrArg _ same⟩
        · refine (if_neg (by rw [length]; exact short)).trans ?_
          rw [own same, ← List.take_add]
        · dsimp only
          omega
    · intro delivery member
      rcases List.mem_append.mp member with member | member
      · exact right delivery member
      · rw [List.mem_singleton.mp member]
        exact slices

/-- The player character of a request is not part of what it keeps. -/
theorem request?_setPlayerCharacterId {ref ctxId : Nat} {pcId : Int} {s : HandlerState}
    {ctx : RequestCtx} (known : s.request? ref = some ctx) :
    ∃ ctx', (setPlayerCharacterId ctxId pcId s).2.request? ref = some ctx' ∧
      ctx'.recv = ctx.recv := by
  rw [setPlayerCharacterId]
  by_cases negative : pcId < 0
  · rw [if_pos negative]
    exact ⟨ctx, known, rfl⟩
  · rw [if_neg negative]
    cases s.scoreTitle? ctxId with
    | some title => exact ⟨ctx, known, rfl⟩
    | none =>
      cases s.current? ⟨.score, ctxId⟩ with
      | none => exact ⟨ctx, known, rfl⟩
      | some other =>
        dsimp only
        rw [request?_withRequest (f := fun ctx => { ctx with pcId }) (fun _ => rfl), known,
          Option.map_some]
        by_cases same : ctx.ref = other
        · exact ⟨_, congrArg some (if_pos same), rfl⟩
        · exact ⟨_, congrArg some (if_neg same), rfl⟩

theorem downloads_step {server : ScoreServer} {ref : Nat} {op : DownloadOp} {d : Downloading}
    (downloads : Downloads server ref d) (fits : FitsOp server ref op d) :
    Downloads server ref (downloadStep server ref op d) := by
  cases op with
  | getGameData call => exact downloads_slice downloads fits
  | setPlayerCharacterId ctxId pcId =>
    obtain ⟨⟨ctx, known, linked⟩, right⟩ := downloads
    obtain ⟨ctx', known', recv⟩ := request?_setPlayerCharacterId known
    refine ⟨⟨ctx', known', ?_, ?_⟩, right⟩
    · rw [recv]
      exact linked.idle
    · rw [recv]
      exact linked.busy

def twoBlobs (target : DownloadTarget) : Bytes := if target.pcId = 0 then [1, 2, 3, 4] else [5]

def twoBodies (target : DownloadTarget) : Bytes :=
  if target.pcId = 0 then [4, 0, 0, 0, 1, 2, 3, 4] else [1, 0, 0, 0, 5]

theorem sizedBody_twoBodies (target : DownloadTarget) :
    sizedBody (twoBodies target) = some (twoBlobs target) := by
  by_cases first : target.pcId = 0
  · rw [twoBodies, twoBlobs, if_pos first, if_pos first]
    rfl
  · rw [twoBodies, twoBlobs, if_neg first, if_neg first]
    rfl

def twoBlobsServer : ScoreServer := ⟨twoBlobs, twoBodies, sizedBody_twoBodies⟩

def openRequest : HandlerState :=
  { requests := [{ ref := 1, request := ⟨.score, 1⟩ }], scoreRequests := [⟨1, 1⟩] }

def twoBytes : DownloadCall := ⟨.npId 1 [65], ⟨none, 2, some 0⟩, by decide, true⟩

end NpScore
