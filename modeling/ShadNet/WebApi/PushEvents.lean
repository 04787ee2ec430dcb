import ShadNet.WebApi.State
import Mathlib.Data.List.Forall2
import Mathlib.Data.List.Nodup

/-!
# The dispatch of push events

The tables carry what their filters were created with. `drainPushEvents` runs over the
filters that the three create functions store for it; who is owed an event is said of the
arguments themselves.
-/

namespace NpWebApiPush

open NpWebApi (PushKind)

/-! ## Filters and callbacks -/

/-- A `char` array of the library: what stands before its NUL, within its size. -/
structure CharArray (size : Nat) where
  val : List UInt8
  fits : val.length < size
  terminated : 0 ∉ val
  deriving DecidableEq

abbrev DataType := CharArray 65
abbrev ExtdDataKey := CharArray 33

/-- What `snprintf` leaves of a string in an array of this size. -/
def snprintf (size : Nat) (text : List UInt8) : List UInt8 :=
  (text.takeWhile (· != 0)).take (size - 1)

structure FilterParameter where
  dataType : DataType
  extdDataKey : List ExtdDataKey := []

/-- The arguments of a create function. -/
structure FilterArgs where
  npServiceName : Option (List UInt8) := none
  npServiceLabel : UInt32 := 0
  filterParams : List FilterParameter

structure Filter where
  internal : Bool := false
  npServiceName : List UInt8 := []
  npServiceLabel : UInt32 := 0
  filterParams : List DataType
  extdDataKeys : List (List (List UInt8)) := []

def anyLabel : UInt32 := 0xffffffff

def createPushEventFilterInternal (args : FilterArgs) : Filter :=
  { filterParams := args.filterParams.map (·.dataType) }

def createServicePushEventFilterInternal (args : FilterArgs) : Filter :=
  { internal := args.npServiceName.isNone
    npServiceName := args.npServiceName.getD []
    npServiceLabel := args.npServiceLabel
    filterParams := args.filterParams.map (·.dataType) }

def createExtendedPushEventFilterInternal (args : FilterArgs) : Filter :=
  { npServiceName := args.npServiceName.getD []
    npServiceLabel := if args.npServiceName.isNone then anyLabel else args.npServiceLabel
    filterParams := args.filterParams.map (·.dataType)
    extdDataKeys := args.filterParams.map (·.extdDataKey.map (·.val)) }

def createFilter : PushKind → FilterArgs → Filter
  | .basic => createPushEventFilterInternal
  | .service => createServicePushEventFilterInternal
  | .extended => createExtendedPushEventFilterInternal

/-- A registered callback; the functions that its kind does not have are null. -/
structure Callback where
  filterId : Int
  cbFunc : Option Nat := none
  cbFuncA : Option Nat := none
  internalCbFunc : Option Nat := none
  internalCbFuncA : Option Nat := none
  userArg : Nat := 0

structure PushUserContext where
  userId : Int
  callbacks : PushKind → List (Int × Callback)

structure PushContext (F : Type) where
  userContexts : List (Int × PushUserContext)
  filters : PushKind → List (Int × F)

/-- The maps of the library, each in the order of its keys. -/
structure Contexts where
  contexts : List (Int × PushContext FilterArgs)
  distinctContexts : (contexts.map Prod.fst).Nodup
  distinctUsers : ∀ c ∈ contexts, (c.2.userContexts.map Prod.fst).Nodup
  distinctCallbacks : ∀ c ∈ contexts, ∀ u ∈ c.2.userContexts, ∀ kind,
    ((u.2.callbacks kind).map Prod.fst).Nodup

/-- The context with the filters that its create calls have stored. -/
def PushContext.stored (context : PushContext FilterArgs) : PushContext Filter :=
  { userContexts := context.userContexts
    filters := fun kind =>
      (context.filters kind).map fun filter => (filter.1, createFilter kind filter.2) }

def Contexts.stored (all : Contexts) : List (Int × PushContext Filter) :=
  all.contexts.map fun c => (c.1, c.2.stored)

/-! ## Calls -/

structure PushEventInput where
  targetUserId : Int := 0
  npServiceName : List UInt8 := []
  npServiceLabel : UInt32 := 0
  dataType : List UInt8 := []
  data : List UInt8 := []
  /-- `none` where `has_from` is not set -/
  fromOnlineId : Option (List UInt8) := none
  /-- `none` where `has_to` is not set -/
  toOnlineId : Option (List UInt8) := none
  fromAccountId : UInt64 := 0
  toAccountId : UInt64 := 0
  extdData : List (List UInt8 × List UInt8) := []

/-- An argument as it is passed; `none` is a null pointer. -/
inductive Value where
  | int (i : Int)
  | text (t : Option (List UInt8))
  | label (l : UInt32)
  | peerAddress (onlineId : List UInt8)
  | peerAddressA (accountId : Option UInt64)
  | onlineId (id : Option (List UInt8))
  | dataType (t : List UInt8)
  | data (bytes : Option (List UInt8))
  | size (n : Nat)
  | extdData (pairs : Option (List (List UInt8 × List UInt8)))
  | userArg (a : Nat)
  deriving DecidableEq

/-- The declared types of the functions that can be called. -/
inductive Signature where
  | basic
  | service
  | extd
  | extdA
  deriving DecidableEq

/-- The place of `data_type` among the parameters; the data follows it. -/
def Signature.dataTypeAt : Signature → Nat
  | .basic => 4
  | .service => 6
  | .extd => 6
  | .extdA => 8

/-- The place of the extended data among the parameters, where there is one. -/
def Signature.extdDataAt : Signature → Option Nat
  | .basic => none
  | .service => none
  | .extd => some 9
  | .extdA => some 11

structure Target where
  libCtxId : Int
  titleUserCtxId : Int
  kind : PushKind
  callbackId : Int
  deriving DecidableEq

structure Call where
  target : Target
  signature : Signature
  function : Nat
  passed : List Value
  deriving DecidableEq

/-- What a callback finds in its parameters. -/
structure Received where
  dataType : List UInt8
  data : List UInt8
  extdData : List (List UInt8 × List UInt8)
  deriving DecidableEq

def Value.dataType? : Value → Option (List UInt8)
  | .dataType type => some type
  | _ => none

def Value.data? : Value → Option (List UInt8)
  | .data bytes => some (bytes.getD [])
  | _ => none

def Value.extdData? : Value → Option (List (List UInt8 × List UInt8))
  | .extdData pairs => some (pairs.getD [])
  | _ => none

/-- `none` where a parameter holds what was passed for another one. -/
def Call.received (call : Call) : Option Received := do
  let type ← (call.passed[call.signature.dataTypeAt]?).bind Value.dataType?
  let data ← (call.passed[call.signature.dataTypeAt + 1]?).bind Value.data?
  match call.signature.extdDataAt with
  | none => some ⟨type, data, []⟩
  | some i =>
    let pairs ← (call.passed[i]?).bind Value.extdData?
    some ⟨type, data, pairs⟩

/-! ## The dispatch -/

def filterMatches (flt : Filter) (evServiceName : List UInt8) (evHasServiceName : Bool)
    (evDataType : List UInt8) : Bool :=
  let catchAll := flt.npServiceName.isEmpty && flt.npServiceLabel == anyLabel
  if catchAll then
    if evHasServiceName then false else flt.filterParams.any fun p => evDataType == p.val
  else if !evHasServiceName || flt.npServiceName != evServiceName then false
  else flt.filterParams.any fun p => evDataType == p.val

def PushEventInput.hasService (ev : PushEventInput) : Bool := !ev.npServiceName.isEmpty

/-- A null pointer for an empty one. -/
def nonempty {α : Type} (l : List α) : Option (List α) := if l.isEmpty then none else some l

/-- The keys of the first parameter with the event's data type. -/
def wantedKeys (flt : Filter) (ev : PushEventInput) : Option (List (List UInt8)) :=
  (flt.filterParams.findIdx? fun p => ev.dataType == p.val).bind fun i => flt.extdDataKeys[i]?

def keyRequested (wanted : Option (List (List UInt8))) (key : List UInt8) : Bool :=
  (wanted.map (·.contains key)).getD false

def exarr (flt : Filter) (ev : PushEventInput) : List (List UInt8 × List UInt8) :=
  (ev.extdData.filter fun pair => keyRequested (wantedKeys flt ev) pair.1).map fun pair =>
    (snprintf 33 pair.1, pair.2)

section Arguments

variable (flt : Filter) (titleUserCtxId : Int) (ev : PushEventInput) (cbId : Int) (cb : Callback)

def extendedArguments : List Value :=
  [.int titleUserCtxId, .int cbId, .text (nonempty flt.npServiceName), .label flt.npServiceLabel,
    .peerAddressA (if ev.toAccountId != 0 then some ev.toAccountId else none),
    .onlineId ev.toOnlineId,
    .peerAddressA (if ev.fromAccountId != 0 then some ev.fromAccountId else none),
    .onlineId ev.fromOnlineId, .dataType (snprintf 65 ev.dataType), .data (nonempty ev.data),
    .size ev.data.length, .extdData (nonempty (exarr flt ev)), .size (exarr flt ev).length,
    .userArg cb.userArg]

def serviceArguments : List Value :=
  [.int titleUserCtxId, .int cbId, .text (nonempty flt.npServiceName), .label flt.npServiceLabel,
    .peerAddress (ev.toOnlineId.getD []), .peerAddress (ev.fromOnlineId.getD []),
    .dataType (snprintf 65 ev.dataType), .data (nonempty ev.data), .size ev.data.length,
    .userArg cb.userArg]

def basicArguments : List Value :=
  [.int titleUserCtxId, .int cbId, .peerAddress (ev.toOnlineId.getD []),
    .peerAddress (ev.fromOnlineId.getD []), .dataType (snprintf 65 ev.dataType),
    .data (nonempty ev.data), .size ev.data.length, .userArg cb.userArg]

end Arguments

section Callbacks

variable (libId : Int) (context : PushContext Filter) (titleUserCtxId : Int)
  (ev : PushEventInput) (cbId : Int) (cb : Callback)

/-- The function of an extended callback: either is called as one of the second kind. -/
def extendedFunction : Option (Signature × Nat) :=
  match cb.cbFuncA with
  | some a => some (.extdA, a)
  | none => cb.cbFunc.map (Signature.extd, ·)

def extendedPush : Option Call := do
  let raw ← extendedFunction cb
  let flt ← (context.filters .extended).lookup cb.filterId
  if filterMatches flt ev.npServiceName ev.hasService ev.dataType then
    some ⟨⟨libId, titleUserCtxId, .extended, cbId⟩, raw.1, raw.2,
      extendedArguments flt titleUserCtxId ev cbId cb⟩
  else none

def servicePush : Option Call := do
  let raw ← cb.cbFunc
  let flt ← (context.filters .service).lookup cb.filterId
  if filterMatches flt ev.npServiceName ev.hasService ev.dataType then
    some ⟨⟨libId, titleUserCtxId, .service, cbId⟩, .service, raw,
      serviceArguments flt titleUserCtxId ev cbId cb⟩
  else none

def basicPush : Option Call := do
  let raw ← cb.cbFunc
  let flt ← (context.filters .basic).lookup cb.filterId
  if flt.filterParams.any (fun p => ev.dataType == p.val) then
    some ⟨⟨libId, titleUserCtxId, .basic, cbId⟩, .basic, raw,
      basicArguments titleUserCtxId ev cbId cb⟩
  else none

end Callbacks

/-- The calls to the callbacks of a user context. -/
def dispatchUser (libId : Int) (context : PushContext Filter) (ev : PushEventInput) (ucKey : Int)
    (uc : PushUserContext) : List Call :=
  if uc.userId ≠ ev.targetUserId then []
  else
    (uc.callbacks .extended).filterMap (fun cb => extendedPush libId context ucKey ev cb.1 cb.2) ++
    (uc.callbacks .service).filterMap (fun cb => servicePush libId context ucKey ev cb.1 cb.2) ++
    if ev.hasService then []
    else (uc.callbacks .basic).filterMap fun cb => basicPush libId context ucKey ev cb.1 cb.2

/-- The calls for one event. -/
def dispatch (contexts : List (Int × PushContext Filter)) (ev : PushEventInput) : List Call :=
  contexts.flatMap fun c =>
    c.2.userContexts.flatMap fun uc => dispatchUser c.1 c.2 ev uc.1 uc.2

def drainPushEvents (contexts : List (Int × PushContext Filter)) (queue : List PushEventInput) :
    List Call :=
  queue.flatMap (dispatch contexts)

/-! ## Who is owed an event -/

/-- The functions that a callback of the kind can be registered with. -/
def Callback.functions (kind : PushKind) (cb : Callback) : List Nat :=
  match kind with
  | .basic => cb.cbFunc.toList
  | .service => cb.cbFunc.toList ++ cb.internalCbFunc.toList ++ cb.internalCbFuncA.toList
  | .extended => cb.cbFunc.toList ++ cb.cbFuncA.toList

/-- The filters of basic callbacks have no service name. -/
def FilterArgs.serviceName (kind : PushKind) (args : FilterArgs) : List UInt8 :=
  if kind = .basic then [] else args.npServiceName.getD []

def Accepts (kind : PushKind) (args : FilterArgs) (ev : PushEventInput) : Prop :=
  args.serviceName kind = ev.npServiceName ∧
    ∃ p ∈ args.filterParams, p.dataType.val = ev.dataType

/-- A key that some parameter of the event's data type names. -/
def Requests (args : FilterArgs) (ev : PushEventInput) (key : List UInt8) : Prop :=
  ∃ p ∈ args.filterParams, p.dataType.val = ev.dataType ∧ ∃ k ∈ p.extdDataKey, k.val = key

instance (args : FilterArgs) (ev : PushEventInput) (key : List UInt8) :
    Decidable (Requests args ev key) :=
  inferInstanceAs (Decidable (∃ p ∈ args.filterParams, _ ∧ _))

/-- A registered callback with the arguments of its filter. -/
structure Registration where
  libCtxId : Int
  context : PushContext FilterArgs
  titleUserCtxId : Int
  user : PushUserContext
  kind : PushKind
  callbackId : Int
  callback : Callback
  args : FilterArgs

def Registration.target (r : Registration) : Target :=
  ⟨r.libCtxId, r.titleUserCtxId, r.kind, r.callbackId⟩

structure Registered (all : Contexts) (r : Registration) : Prop where
  context : (r.libCtxId, r.context) ∈ all.contexts
  user : (r.titleUserCtxId, r.user) ∈ r.context.userContexts
  callback : (r.callbackId, r.callback) ∈ r.user.callbacks r.kind
  filter : (r.context.filters r.kind).lookup r.callback.filterId = some r.args
  function : r.callback.functions r.kind ≠ []

structure Owed (all : Contexts) (ev : PushEventInput) (r : Registration) : Prop where
  registered : Registered all r
  target : r.user.userId = ev.targetUserId
  accepts : Accepts r.kind r.args ev

/-- What the callback has to find in its parameters. -/
def due (r : Registration) (ev : PushEventInput) : Received :=
  { dataType := ev.dataType
    data := ev.data
    extdData :=
      if r.kind = .extended then ev.extdData.filter fun pair => decide (Requests r.args ev pair.1)
      else [] }

/-- Calls that are one event's: to each callback that is owed it, once, and as it is due. -/
structure Exact (all : Contexts) (ev : PushEventInput) (calls : List Call) : Prop where
  once : (calls.map Call.target).Nodup
  owed : ∀ t, t ∈ calls.map Call.target ↔ ∃ r, Owed all ev r ∧ r.target = t
  received : ∀ call ∈ calls, ∀ r, Owed all ev r → r.target = call.target →
    call.received = some (due r ev)

/-- The calls are those of the events of the queue, in its order. -/
def DeliversExactly (all : Contexts) (queue : List PushEventInput) (calls : List Call) : Prop :=
  ∃ blocks : List (List Call), calls = blocks.flatten ∧ List.Forall₂ (Exact all) queue blocks

/-- The keys of the first parameter with the event's data type, as they were given. -/
def firstKeys (args : FilterArgs) (ev : PushEventInput) : List (List UInt8) :=
  ((args.filterParams.find? fun p => ev.dataType == p.dataType.val).map fun p =>
    p.extdDataKey.map (·.val)).getD []

/-- What the dispatch needs of a callback that is owed an event. -/
structure Sound (r : Registration) (ev : PushEventInput) : Prop where
  service : r.kind = .service → r.callback.cbFunc ≠ none
  extended : r.kind = .extended → r.callback.cbFuncA ≠ none
  label : r.kind ≠ .basic → r.args.npServiceName.getD [] = [] →
    r.args.npServiceLabel = anyLabel ∨ (r.kind = .extended ∧ r.args.npServiceName = none)
  keys : r.kind = .extended → ∀ pair ∈ ev.extdData, Requests r.args ev pair.1 →
    pair.1 ∈ firstKeys r.args ev

end NpWebApiPush
