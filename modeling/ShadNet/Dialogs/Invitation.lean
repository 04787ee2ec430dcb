import ShadNet.LockProgram

/-!
# The invitation dialog

The calls of one thread set up, open, close and terminate the dialog; the dialog's own thread
finishes it. What that thread will do is an input of the call that starts it, and it does it step
by step between the calls; a join lets it do the rest. `trail` is a history of the values stored in
the status.
-/

namespace InvitationDialog

/-! ## Parameters and results -/

def errorNotInitialized : UInt32 := 0x80B80003
def errorAlreadyInitialized : UInt32 := 0x80B80004
def errorNotFinished : UInt32 := 0x80B80005
def errorInvalidState : UInt32 := 0x80B80006
def errorParamInvalid : UInt32 := 0x80B8000A
def errorNotRunning : UInt32 := 0x80B8000B
def errorArgNull : UInt32 := 0x80B8000D
def errorBlockedAllPlayers : UInt32 := 0x810A0001

def modeInvalid : Int := 0
def modeSend : Int := 1
def modeRecv : Int := 2

def addressTypeUserdisable : Int := 1
def addressTypeUserenable : Int := 2

def userListMaxSize : Nat := 16

inductive Status where
  | none
  | initialized
  | running
  | finished
  deriving DecidableEq

inductive DialogResult where
  | ok
  | userCanceled
  deriving DecidableEq

/-- No more users than an address list of the dialog holds. -/
abbrev UserList (α : Type) := {users : List α // users.length ≤ userListMaxSize}

def UserList.empty (α : Type) : UserList α := ⟨[], Nat.zero_le _⟩

/-- The address union with all its readings: an array and its count, or a bound. -/
structure SendInfo (α : Type) where
  userMessage : Option (List UInt8)
  sessionId : Option (List UInt8)
  addressType : Int
  ids : Option (Nat → α)
  idsCount : Nat
  maxCount : Nat

structure Param (α : Type) where
  mode : Int
  userId : Int
  callbackArg : Nat
  dataParam : Option (SendInfo α)

/-- What the result getters read. -/
structure Outcome where
  callbackArg : Nat := 0
  errorCode : Int := 0
  result : DialogResult := .ok
  sentOnlineIds : UserList (List UInt8) := UserList.empty _
  sentAccountIds : UserList UInt64 := UserList.empty _
  deriving DecidableEq

structure DialogState extends Outcome where
  mode : Int := modeInvalid
  userEditable : Bool := false
  maxRecipients : Nat := userListMaxSize
  message : List UInt8 := []
  userId : Int := -1
  sessionId : List UInt8 := []
  onlineIds : List (List UInt8) := []
  accountIds : List UInt64 := []
  deriving DecidableEq

/-- What the dialog's thread does to the dialog: it finishes it with a result, or comes to the end
of its function. -/
inductive UiAction where
  | finish (result : DialogResult) (sentOnlineIds : UserList (List UInt8))
      (sentAccountIds : UserList UInt64)
  | endThread

structure Ui where
  attached : Bool := false
  finished : Bool := false
  thread : List UiAction := []

structure Dialog where
  status : Status := .none
  ui : Ui := {}
  state : DialogState := {}
  trail : List Status := []

def setStatus (status : Status) (d : Dialog) : Dialog :=
  { d with status, trail := d.trail ++ [status] }

/-! ## The dialog's thread -/

def finish (result : DialogResult) (sentOnlineIds : UserList (List UInt8))
    (sentAccountIds : UserList UInt64) (d : Dialog) : Dialog :=
  if d.ui.finished = true ∨ d.ui.attached = false then d
  else
    setStatus .finished { d with
      ui := { d.ui with finished := true }
      state := { d.state with result, sentOnlineIds, sentAccountIds } }

def perform (d : Dialog) : UiAction → Dialog
  | .finish result sentOnlineIds sentAccountIds => finish result sentOnlineIds sentAccountIds d
  | .endThread =>
    if d.ui.finished = true then d
    else setStatus .finished { d with ui := { d.ui with finished := true } }

def withThread (thread : List UiAction) (d : Dialog) : Dialog :=
  { d with ui := { d.ui with thread } }

/-- The next action of the thread, if it is still there. -/
def uiStep (d : Dialog) : Dialog :=
  match d.ui.thread with
  | [] => d
  | action :: rest => perform (withThread rest d) action

def join (d : Dialog) : Dialog := d.ui.thread.foldl perform (withThread [] d)

def close (d : Dialog) : Dialog := finish .ok (UserList.empty _) (UserList.empty _) d

def start (plan : List UiAction) (d : Dialog) : Dialog :=
  { join d with ui := { attached := true, finished := false, thread := plan } }

/-! ## The calls -/

def clampRecipients (count : Nat) : Nat :=
  if count = 0 ∨ userListMaxSize < count then userListMaxSize else count

def beginOpen (mode userId : Int) (callbackArg : Nat) (d : Dialog) : UInt32 × Dialog :=
  if d.status ≠ .initialized ∧ d.status ≠ .finished then (errorInvalidState, d)
  else if mode ≠ modeSend ∧ mode ≠ modeRecv then (errorParamInvalid, d)
  else (0, { join d with state := { mode, callbackArg, userId } })

def startDialog (plan : List UiAction) (d : Dialog) : Dialog := start plan (setStatus .running d)

section Open

variable {α : Type} (assign : List α → DialogState → DialogState)

def readSend (send : SendInfo α) (state : DialogState) : DialogState :=
  let state := match send.sessionId with
    | some sessionId => { state with sessionId }
    | none => state
  let state := match send.userMessage with
    | some message => { state with message }
    | none => state
  if send.addressType = addressTypeUserenable then
    { state with userEditable := true, maxRecipients := clampRecipients send.maxCount }
  else if send.addressType = addressTypeUserdisable then
    let count := min send.idsCount userListMaxSize
    match send.ids with
    | some ids => if count ≠ 0 then assign ((List.range count).map ids) state else state
    | none => state
  else state

/-- The two open calls, which differ in the kind of user. -/
def openWith (param : Option (Param α)) (plan : List UiAction) (d : Dialog) : UInt32 × Dialog :=
  match param with
  | none => (errorArgNull, d)
  | some param =>
    let begun := beginOpen param.mode param.userId param.callbackArg d
    if begun.1 ≠ 0 then begun
    else if param.mode = modeSend then
      match param.dataParam with
      | none => (errorParamInvalid, begun.2)
      | some send =>
        (0, startDialog plan { begun.2 with state := readSend assign send begun.2.state })
    else (0, startDialog plan begun.2)

end Open

def sceInvitationDialogOpen : Option (Param (List UInt8)) → List UiAction → Dialog →
    UInt32 × Dialog :=
  openWith fun onlineIds state => { state with onlineIds }

def sceInvitationDialogOpenA : Option (Param UInt64) → List UiAction → Dialog →
    UInt32 × Dialog :=
  openWith fun accountIds state => { state with accountIds }

def sceInvitationDialogInitialize (d : Dialog) : UInt32 × Dialog :=
  if d.status ≠ .none then (errorAlreadyInitialized, d) else (0, setStatus .initialized d)

def sceInvitationDialogClose (d : Dialog) : UInt32 × Dialog :=
  if d.status ≠ .running then (errorNotRunning, d) else (0, close d)

def sceInvitationDialogTerminate (d : Dialog) : UInt32 × Dialog :=
  if d.status = .none then (errorNotInitialized, d)
  else
    let closed := if d.status = .running then (sceInvitationDialogClose d).2 else d
    (0, setStatus .none (join closed))

/-! ## The result getters -/

/-- What stays of a string in a zeroed array. -/
def strncpy (count : Nat) (text : List UInt8) : List UInt8 := (text.takeWhile (· ≠ 0)).take count

structure OnlineIdList where
  count : Nat
  onlineId : Nat → List UInt8

structure OrbisInvitationDialogResult where
  callbackArg : Nat
  errorCode : Int
  result : DialogResult
  sentOnlineIds : Option OnlineIdList

structure User where
  onlineId : List UInt8
  accountId : UInt64

structure OrbisUserList where
  count : Nat
  users : Nat → User

structure OrbisInvitationDialogResultA where
  callbackArg : Nat
  errorCode : Int
  result : DialogResult
  sentUsers : Option OrbisUserList

/-- The checks of both getters in front of the result. -/
def getWith {ρ : Type} (fill : Outcome → ρ → ρ) (d : Dialog) (result : Option ρ) :
    UInt32 × Option ρ :=
  if d.status = .none then (errorNotInitialized, result)
  else if d.status ≠ .finished then (errorNotFinished, result)
  else
    match result with
    | none => (errorArgNull, none)
    | some r =>
      if d.state.errorCode ≠ 0 then (errorBlockedAllPlayers, some r)
      else (0, some (fill d.state.toOutcome r))

def fillOnlineIds (o : Outcome) (list : OnlineIdList) : OnlineIdList :=
  let count := min o.sentOnlineIds.1.length userListMaxSize
  { count := if o.result = .ok then count else 0
    onlineId := fun i =>
      if i < count then strncpy 16 (o.sentOnlineIds.1.getD i []) else list.onlineId i }

def fillUsers (o : Outcome) (list : OrbisUserList) : OrbisUserList :=
  let count := min (max o.sentOnlineIds.1.length o.sentAccountIds.1.length) userListMaxSize
  { count := if o.result = .ok then count else 0
    users := fun i =>
      if i < count then
        { onlineId := strncpy 16 (o.sentOnlineIds.1.getD i [])
          accountId := o.sentAccountIds.1.getD i 0 }
      else list.users i }

def sceInvitationDialogGetResult : Dialog → Option OrbisInvitationDialogResult →
    UInt32 × Option OrbisInvitationDialogResult :=
  getWith fun o r =>
    { callbackArg := o.callbackArg
      errorCode := o.errorCode
      result := o.result
      sentOnlineIds := r.sentOnlineIds.map (fillOnlineIds o) }

def sceInvitationDialogGetResultA : Dialog → Option OrbisInvitationDialogResultA →
    UInt32 × Option OrbisInvitationDialogResultA :=
  getWith fun o r =>
    { callbackArg := o.callbackArg
      errorCode := o.errorCode
      result := o.result
      sentUsers := r.sentUsers.map (fillUsers o) }

/-! ## Runs -/

inductive Op where
  | callInitialize
  | callOpen (param : Option (Param (List UInt8))) (plan : List UiAction)
  | callOpenA (param : Option (Param UInt64)) (plan : List UiAction)
  | callClose
  | callTerminate
  | ui

def step : Op → Dialog → Dialog
  | .callInitialize, d => (sceInvitationDialogInitialize d).2
  | .callOpen param plan, d => (sceInvitationDialogOpen param plan d).2
  | .callOpenA param plan, d => (sceInvitationDialogOpenA param plan d).2
  | .callClose, d => (sceInvitationDialogClose d).2
  | .callTerminate, d => (sceInvitationDialogTerminate d).2
  | .ui, d => uiStep d

/-! ## What is to hold -/

/-- The ways of the status, but for terminating. -/
inductive Forward : Status → Status → Prop where
  | setUp : Forward .none .initialized
  | opened : Forward .initialized .running
  | done : Forward .running .finished
  | reopened : Forward .finished .running

/-- The values a step stores: forward ones, and at the end of a termination the first one. -/
def StatusMoves (op : Op) (d d' : Dialog) : Prop :=
  ∃ moves, d'.trail = d.trail ++ moves ∧ d'.status = moves.getLastD d.status ∧
    (List.IsChain Forward (d.status :: moves) ∨
      (op = .callTerminate ∧ ∃ front, moves = front ++ [.none] ∧
        List.IsChain Forward (d.status :: front)))

/-- Whatever comes later, status and results are those of the other dialog. -/
def Unchanged (d d' : Dialog) : Prop :=
  ∀ later : List Op,
    (Runs.run step later d').status = (Runs.run step later d).status ∧
    (∀ r, sceInvitationDialogGetResult (Runs.run step later d') r =
      sceInvitationDialogGetResult (Runs.run step later d) r) ∧
    (∀ r, sceInvitationDialogGetResultA (Runs.run step later d') r =
      sceInvitationDialogGetResultA (Runs.run step later d) r)

/-- An open call that returns an error changes nothing. -/
def FailsSafely (op : Op) (d d' : Dialog) : Prop :=
  match op with
  | .callOpen param plan => (sceInvitationDialogOpen param plan d).1 ≠ 0 → Unchanged d d'
  | .callOpenA param plan => (sceInvitationDialogOpenA param plan d).1 ≠ 0 → Unchanged d d'
  | _ => True

/-- Sending without its data is not asked of a finished dialog that has a result to lose. -/
def Spares {α : Type} (param : Option (Param α)) (d : Dialog) : Prop :=
  ∀ p, param = some p → p.mode = modeSend → p.dataParam = none → d.status = .finished →
    d.state.toOutcome = { callbackArg := p.callbackArg }

def Harmless (op : Op) (d : Dialog) : Prop :=
  match op with
  | .callOpen param _ => Spares param d
  | .callOpenA param _ => Spares param d
  | _ => True

/-! ## The thread without effect, and with one -/

theorem perform_finished {d : Dialog} (finished : d.ui.finished = true) (action : UiAction) :
    perform d action = d := by
  cases action with
  | finish result sentOnlineIds sentAccountIds => exact if_pos (.inl finished)
  | endThread => exact if_pos finished

/-- A running dialog is finished by whatever its thread does. -/
theorem perform_running {d : Dialog} (going : d.ui.finished = false)
    (attached : d.ui.attached = true) (action : UiAction) :
    ∃ state, perform d action =
      setStatus .finished { d with ui := { d.ui with finished := true }, state } := by
  cases action with
  | finish result sentOnlineIds sentAccountIds =>
    have unfinished : ¬(d.ui.finished = true ∨ d.ui.attached = false) := by
      rw [going, attached]
      decide
    exact ⟨_, if_neg unfinished⟩
  | endThread =>
    have unfinished : ¬d.ui.finished = true := by
      rw [going]
      decide
    exact ⟨d.state, if_neg unfinished⟩

/-- The thread has nothing to do, or nothing it does has an effect. -/
def Quiet (ui : Ui) : Prop := ui.finished = true ∨ ui.thread = []

theorem join_quiet {d : Dialog} (quiet : Quiet d.ui) : join d = withThread [] d := by
  rw [join]
  rcases quiet with finished | gone
  · generalize d.ui.thread = thread
    have stays : ∀ thread : List UiAction, ∀ e : Dialog, e.ui.finished = true →
        thread.foldl perform e = e := by
      intro thread
      induction thread with
      | nil => exact fun _ _ => rfl
      | cons action rest ih =>
        intro e done
        rw [List.foldl_cons, perform_finished done]
        exact ih e done
    exact stays thread _ finished
  · rw [gone]
    rfl

/-! ## The invariant -/

theorem ready_iff {d : Dialog} :
    ¬(d.status ≠ .initialized ∧ d.status ≠ .finished) ↔
      d.status = .initialized ∨ d.status = .finished := by
  rw [not_and_or, not_not, not_not]

theorem settled_of_ready {d : Dialog} (ready : d.status = .initialized ∨ d.status = .finished) :
    d.status ≠ .running := by
  rcases ready with set | finished
  · rw [set]
    decide
  · rw [finished]
    decide

structure Inv (d : Dialog) : Prop where
  quiet : d.status ≠ .running → Quiet d.ui
  busy : d.status = .running → d.ui.finished = false ∧ d.ui.attached = true

theorem inv_start : Inv {} where
  quiet _ := .inr rfl
  busy running := nomatch running

theorem inv_of_finished {d : Dialog} (settled : d.status ≠ .running)
    (finished : d.ui.finished = true) : Inv d where
  quiet _ := .inl finished
  busy running := absurd running settled

/-! ## Opening -/

section Open

variable {α : Type} (assign : List α → DialogState → DialogState)

/-- The state that a successful call opens the dialog with. -/
def openedState (param : Param α) : DialogState :=
  let state : DialogState :=
    { mode := param.mode, callbackArg := param.callbackArg, userId := param.userId }
  match param.dataParam with
  | none => state
  | some send => if param.mode = modeSend then readSend assign send state else state

/-- The dialog that is open with this state. -/
def opened (plan : List UiAction) (state : DialogState) (d : Dialog) : Dialog where
  status := .running
  ui := { attached := true, finished := false, thread := plan }
  state
  trail := d.trail ++ [.running]

theorem startDialog_quiet {d : Dialog} (quiet : Quiet d.ui) (plan : List UiAction)
    (state : DialogState) :
    startDialog plan { join d with state } = opened plan state d := by
  rw [startDialog, start, join_quiet quiet, join_quiet]
  · rfl
  · exact .inr rfl

theorem openWith_state {param : Param α} {plan : List UiAction} {d : Dialog}
    (wrong : d.status ≠ .initialized ∧ d.status ≠ .finished) :
    openWith assign (some param) plan d = (errorInvalidState, d) := by
  rw [openWith]
  dsimp only
  rw [beginOpen, if_pos wrong]
  exact if_pos (show errorInvalidState ≠ 0 by decide)

theorem openWith_mode {param : Param α} {plan : List UiAction} {d : Dialog}
    (ready : ¬(d.status ≠ .initialized ∧ d.status ≠ .finished))
    (wrong : param.mode ≠ modeSend ∧ param.mode ≠ modeRecv) :
    openWith assign (some param) plan d = (errorParamInvalid, d) := by
  rw [openWith]
  dsimp only
  rw [beginOpen, if_neg ready, if_pos wrong]
  exact if_pos (show errorParamInvalid ≠ 0 by decide)

/-- The state is reset before the data is missed. -/
theorem openWith_missing {param : Param α} {plan : List UiAction} {d : Dialog}
    (quiet : Quiet d.ui) (ready : ¬(d.status ≠ .initialized ∧ d.status ≠ .finished))
    (send : param.mode = modeSend) (missing : param.dataParam = none) :
    openWith assign (some param) plan d = (errorParamInvalid,
      { withThread [] d with state :=
        { mode := param.mode, callbackArg := param.callbackArg, userId := param.userId } }) := by
  have known : ¬(param.mode ≠ modeSend ∧ param.mode ≠ modeRecv) := fun wrong => wrong.1 send
  rw [openWith]
  dsimp only
  rw [beginOpen, if_neg ready, if_neg known, join_quiet quiet]
  dsimp only
  rw [if_neg (by decide), if_pos send, missing]

theorem openWith_opens {param : Param α} {plan : List UiAction} {d : Dialog}
    (quiet : Quiet d.ui) (ready : ¬(d.status ≠ .initialized ∧ d.status ≠ .finished))
    (known : ¬(param.mode ≠ modeSend ∧ param.mode ≠ modeRecv))
    (given : ¬(param.mode = modeSend ∧ param.dataParam = none)) :
    openWith assign (some param) plan d = (0, opened plan (openedState assign param) d) := by
  rw [openWith, openedState]
  dsimp only
  rw [beginOpen, if_neg ready, if_neg known]
  dsimp only
  rw [if_neg (by decide)]
  by_cases send : param.mode = modeSend
  · rw [if_pos send]
    cases data : param.dataParam with
    | none => exact absurd ⟨send, data⟩ given
    | some info =>
      dsimp only
      rw [startDialog_quiet quiet, if_pos send]
  · rw [if_neg send]
    have receive := startDialog_quiet quiet plan
      { mode := param.mode, callbackArg := param.callbackArg, userId := param.userId }
    rw [receive]
    cases param.dataParam with
    | none => rfl
    | some info =>
      dsimp only
      rw [if_neg send]

/-- What an open call does: nothing, the reset alone, or all of it. -/
theorem openWith_cases (param : Option (Param α)) (plan : List UiAction) {d : Dialog}
    (inv : Inv d) :
    ((openWith assign param plan d).1 ≠ 0 ∧ (openWith assign param plan d).2 = d) ∨
    (∃ p, param = some p ∧ p.mode = modeSend ∧ p.dataParam = none ∧
      (d.status = .initialized ∨ d.status = .finished) ∧
      openWith assign param plan d = (errorParamInvalid, { withThread [] d with state :=
        { mode := p.mode, callbackArg := p.callbackArg, userId := p.userId } })) ∨
    (∃ p, param = some p ∧ (d.status = .initialized ∨ d.status = .finished) ∧
      openWith assign param plan d = (0, opened plan (openedState assign p) d)) := by
  cases param with
  | none => exact .inl ⟨show errorArgNull ≠ 0 by decide, rfl⟩
  | some param =>
    by_cases wrong : d.status ≠ .initialized ∧ d.status ≠ .finished
    · left
      rw [openWith_state assign wrong]
      exact ⟨show errorInvalidState ≠ 0 by decide, rfl⟩
    · have ready : d.status = .initialized ∨ d.status = .finished := ready_iff.mp wrong
      have settled : d.status ≠ .running := settled_of_ready ready
      by_cases unknown : param.mode ≠ modeSend ∧ param.mode ≠ modeRecv
      · left
        rw [openWith_mode assign wrong unknown]
        exact ⟨show errorParamInvalid ≠ 0 by decide, rfl⟩
      · right
        by_cases missing : param.mode = modeSend ∧ param.dataParam = none
        · left
          exact ⟨param, rfl, missing.1, missing.2, ready,
            openWith_missing assign (inv.quiet settled) wrong missing.1 missing.2⟩
        · right
          exact ⟨param, rfl, ready,
            openWith_opens assign (inv.quiet settled) wrong unknown missing⟩

end Open
/-! ## One step -/

/-- The thread's step: none, an empty one, or the one that finishes the dialog. -/
theorem uiStep_cases {d : Dialog} (inv : Inv d) :
    (d.status ≠ .running ∧ ∃ thread, uiStep d = withThread thread d ∧
      Quiet (withThread thread d).ui) ∨
    (d.status = .running ∧ d.ui.thread = [] ∧ uiStep d = d) ∨
    (d.status = .running ∧ ∃ action rest, d.ui.thread = action :: rest ∧
      uiStep d = perform (withThread rest d) action) := by
  rw [uiStep]
  by_cases running : d.status = .running
  · right
    match pending : d.ui.thread with
    | [] => exact .inl ⟨running, rfl, rfl⟩
    | action :: rest => exact .inr ⟨running, action, rest, rfl, rfl⟩
  · left
    refine ⟨running, ?_⟩
    match pending : d.ui.thread with
    | [] =>
      have same : withThread [] d = d := by
        rw [withThread, ← pending]
      exact ⟨[], same.symm, .inr rfl⟩
    | action :: rest =>
      rcases inv.quiet running with finished | gone
      · have empty : (withThread rest d).ui.finished = true := finished
        exact ⟨rest, perform_finished empty action, .inl finished⟩
      · exact nomatch gone.symm.trans pending

theorem close_running {d : Dialog} (inv : Inv d) (running : d.status = .running) :
    ∃ state, close d =
      setStatus .finished { d with ui := { d.ui with finished := true }, state } := by
  obtain ⟨going, attached⟩ := inv.busy running
  exact perform_running going attached (.finish .ok (UserList.empty _) (UserList.empty _))

/-- Terminating a dialog: closed first, if it runs. -/
theorem terminate_cases {d : Dialog} (inv : Inv d) :
    (d.status = .none ∧ (sceInvitationDialogTerminate d).2 = d) ∨
    (d.status ≠ .none ∧ ∃ closed, (sceInvitationDialogTerminate d).2 =
        setStatus .none (withThread [] closed) ∧
      ((d.status ≠ .running ∧ closed = d) ∨ (d.status = .running ∧ closed = close d))) := by
  rw [sceInvitationDialogTerminate]
  by_cases off : d.status = .none
  · left
    exact ⟨off, by rw [if_pos off]⟩
  · right
    refine ⟨off, ?_⟩
    rw [if_neg off]
    dsimp only
    by_cases running : d.status = .running
    · obtain ⟨state, closed⟩ := close_running inv running
      have quiet : Quiet (close d).ui := by
        rw [closed]
        exact .inl rfl
      refine ⟨close d, ?_, .inr ⟨running, rfl⟩⟩
      rw [if_pos running, sceInvitationDialogClose, if_neg (not_not_intro running),
        join_quiet quiet]
    · refine ⟨d, ?_, .inl ⟨running, rfl⟩⟩
      rw [if_neg running, join_quiet (inv.quiet running)]

/-! ## The status -/

theorem StatusMoves.still {op : Op} {d d' : Dialog} (trail : d'.trail = d.trail)
    (status : d'.status = d.status) : StatusMoves op d d' :=
  ⟨[], by rw [trail, List.append_nil], status, .inl (List.IsChain.singleton _)⟩

theorem StatusMoves.forward {op : Op} {d d' : Dialog} (trail : d'.trail = d.trail ++ [d'.status])
    (moves : Forward d.status d'.status) : StatusMoves op d d' := by
  exact ⟨[d'.status], trail, rfl, .inl (.cons_cons moves (.singleton _))⟩

section Opens

variable {α : Type} {assign : List α → DialogState → DialogState} {param : Option (Param α)}
  {plan : List UiAction} {d : Dialog}

theorem opens_moves (op : Op) (inv : Inv d) :
    StatusMoves op d (openWith assign param plan d).2 := by
  rcases openWith_cases assign param plan inv with ⟨-, same⟩ | ⟨p, -, -, -, -, done⟩ |
      ⟨p, -, ready, done⟩
  · rw [same]
    exact .still rfl rfl
  · rw [done]
    exact .still rfl rfl
  · rw [done]
    refine .forward rfl ?_
    rcases ready with set | finished
    · rw [set]
      exact .opened
    · rw [finished]
      exact .reopened

theorem opens_inv (inv : Inv d) : Inv (openWith assign param plan d).2 := by
  rcases openWith_cases assign param plan inv with ⟨-, same⟩ | ⟨p, -, -, -, ready, done⟩ |
      ⟨p, -, ready, done⟩
  · rw [same]
    exact inv
  · rw [done]
    exact ⟨fun _ => .inr rfl, fun running => absurd running (settled_of_ready ready)⟩
  · rw [done]
    exact ⟨fun stopped => absurd rfl stopped, fun _ => ⟨rfl, rfl⟩⟩

end Opens

theorem step_moves {d : Dialog} (inv : Inv d) (op : Op) : StatusMoves op d (step op d) := by
  cases op with
  | callInitialize =>
    change StatusMoves _ d (sceInvitationDialogInitialize d).2
    rw [sceInvitationDialogInitialize]
    split
    · exact .still rfl rfl
    · next off =>
      refine .forward rfl ?_
      rw [not_not.mp off]
      exact .setUp
  | callOpen param plan => exact opens_moves _ inv
  | callOpenA param plan => exact opens_moves _ inv
  | callClose =>
    change StatusMoves _ d (sceInvitationDialogClose d).2
    rw [sceInvitationDialogClose]
    split
    · exact .still rfl rfl
    · next running =>
      obtain ⟨state, closed⟩ := close_running inv (not_not.mp running)
      rw [closed]
      refine .forward rfl ?_
      rw [not_not.mp running]
      exact .done
  | callTerminate =>
    change StatusMoves _ d (sceInvitationDialogTerminate d).2
    rcases terminate_cases inv with ⟨-, same⟩ | ⟨-, closed, done, ⟨-, rfl⟩ | ⟨running, rfl⟩⟩
    · rw [same]
      exact .still rfl rfl
    · rw [done]
      exact ⟨[.none], rfl, rfl, .inr ⟨rfl, [], rfl, List.IsChain.singleton _⟩⟩
    · obtain ⟨state, shut⟩ := close_running inv running
      rw [done, shut]
      refine ⟨[.finished, .none], ?_, rfl, .inr ⟨rfl, [.finished], rfl, ?_⟩⟩
      · exact List.append_assoc _ _ _
      · rw [running]
        exact .cons_cons .done (.singleton _)
  | ui =>
    change StatusMoves _ d (uiStep d)
    rcases uiStep_cases inv with ⟨-, thread, done, -⟩ | ⟨-, -, done⟩ |
        ⟨running, action, rest, -, done⟩
    · rw [done]
      exact .still rfl rfl
    · rw [done]
      exact .still rfl rfl
    · obtain ⟨going, attached⟩ := inv.busy running
      have busy : (withThread rest d).ui.finished = false := going
      obtain ⟨state, finished⟩ := perform_running busy attached action
      rw [done, finished]
      refine .forward rfl ?_
      rw [running]
      exact .done

theorem Inv.step {d : Dialog} (inv : Inv d) (op : Op) : Inv (step op d) := by
  cases op with
  | callInitialize =>
    change Inv (sceInvitationDialogInitialize d).2
    rw [sceInvitationDialogInitialize]
    split
    · exact inv
    · next off =>
      have settled : d.status ≠ .running := by
        rw [not_not.mp off]
        decide
      exact ⟨fun _ => inv.quiet settled, fun running => nomatch running⟩
  | callOpen param plan => exact opens_inv inv
  | callOpenA param plan => exact opens_inv inv
  | callClose =>
    change Inv (sceInvitationDialogClose d).2
    rw [sceInvitationDialogClose]
    split
    · exact inv
    · next running =>
      obtain ⟨state, closed⟩ := close_running inv (not_not.mp running)
      rw [closed]
      exact inv_of_finished (fun impossible => nomatch impossible) rfl
  | callTerminate =>
    change Inv (sceInvitationDialogTerminate d).2
    rcases terminate_cases inv with ⟨-, same⟩ | ⟨-, closed, done, -⟩
    · rw [same]
      exact inv
    · rw [done]
      exact ⟨fun _ => .inr rfl, fun running => nomatch running⟩
  | ui =>
    change Inv (uiStep d)
    rcases uiStep_cases inv with ⟨settled, thread, done, quiet⟩ | ⟨-, -, done⟩ |
        ⟨running, action, rest, -, done⟩
    · rw [done]
      exact ⟨fun _ => quiet, fun running => absurd running settled⟩
    · rw [done]
      exact inv
    · obtain ⟨going, attached⟩ := inv.busy running
      have busy : (withThread rest d).ui.finished = false := going
      obtain ⟨state, finished⟩ := perform_running busy attached action
      rw [done, finished]
      exact inv_of_finished (fun impossible => nomatch impossible) rfl

/-! ## Dialogs that no call can tell apart -/

/-- The state matters while the dialog runs, what the getters read once it has finished, and
neither before. -/
structure Alike (a b : Dialog) : Prop where
  status : a.status = b.status
  shown : a.status = .finished → a.state.toOutcome = b.state.toOutcome
  running : a.status = .running → a.state = b.state ∧ a.ui = b.ui

theorem Alike.refl (d : Dialog) : Alike d d := ⟨rfl, fun _ => rfl, fun _ => ⟨rfl, rfl⟩⟩

/-- Neither finished nor running. -/
theorem alike_idle {a b : Dialog} (status : a.status = b.status) (unfinished : a.status ≠ .finished)
    (stopped : a.status ≠ .running) : Alike a b :=
  ⟨status, fun finished => absurd finished unfinished, fun running => absurd running stopped⟩

/-- In different positions of their threads, with both at rest. -/
theorem Alike.withThread {a b : Dialog} (alike : Alike a b) (settled : a.status ≠ .running)
    (thread thread' : List UiAction) :
    Alike (withThread thread a) (InvitationDialog.withThread thread' b) :=
  ⟨alike.status, alike.shown, fun running => absurd running settled⟩

/-- What one of them finishes with, the other does. -/
theorem Alike.perform {a b : Dialog} (alike : Alike a b) (running : a.status = .running)
    (action : UiAction) : Alike (perform a action) (InvitationDialog.perform b action) := by
  obtain ⟨state, ui⟩ := alike.running running
  cases action with
  | finish result sentOnlineIds sentAccountIds =>
    rw [InvitationDialog.perform, InvitationDialog.perform, finish, finish, ← ui]
    by_cases idle : a.ui.finished = true ∨ a.ui.attached = false
    · rw [if_pos idle, if_pos idle]
      exact alike
    · rw [if_neg idle, if_neg idle, ← state]
      exact ⟨rfl, fun _ => rfl, fun impossible => nomatch impossible⟩
  | endThread =>
    rw [InvitationDialog.perform, InvitationDialog.perform, ← ui]
    by_cases idle : a.ui.finished = true
    · rw [if_pos idle, if_pos idle]
      exact alike
    · rw [if_neg idle, if_neg idle, ← state]
      exact ⟨rfl, fun _ => rfl, fun impossible => nomatch impossible⟩

section Alikes

variable {a b : Dialog}

theorem Alike.setUp (alike : Alike a b) :
    Alike (sceInvitationDialogInitialize a).2 (sceInvitationDialogInitialize b).2 := by
  rw [sceInvitationDialogInitialize, sceInvitationDialogInitialize, ← alike.status]
  split
  · exact alike
  · exact alike_idle rfl (fun impossible => nomatch impossible) fun impossible => nomatch impossible

theorem Alike.opens {α : Type} {assign : List α → DialogState → DialogState}
    {param : Option (Param α)} {plan : List UiAction} (alike : Alike a b) (inv : Inv a)
    (inv' : Inv b) :
    Alike (openWith assign param plan a).2 (openWith assign param plan b).2 := by
  cases param with
  | none => exact alike
  | some p =>
    by_cases wrong : a.status ≠ .initialized ∧ a.status ≠ .finished
    · rw [openWith_state assign wrong, openWith_state assign (alike.status ▸ wrong)]
      exact alike
    · have wrong' : ¬(b.status ≠ .initialized ∧ b.status ≠ .finished) := alike.status ▸ wrong
      have settled : a.status ≠ .running := settled_of_ready (ready_iff.mp wrong)
      have settled' : b.status ≠ .running := alike.status ▸ settled
      by_cases unknown : p.mode ≠ modeSend ∧ p.mode ≠ modeRecv
      · rw [openWith_mode assign wrong unknown, openWith_mode assign wrong' unknown]
        exact alike
      · by_cases missing : p.mode = modeSend ∧ p.dataParam = none
        · rw [openWith_missing assign (inv.quiet settled) wrong missing.1 missing.2,
            openWith_missing assign (inv'.quiet settled') wrong' missing.1 missing.2]
          exact ⟨alike.status, fun _ => rfl, fun running => absurd running settled⟩
        · rw [openWith_opens assign (inv.quiet settled) wrong unknown missing,
            openWith_opens assign (inv'.quiet settled') wrong' unknown missing]
          exact ⟨rfl, fun _ => rfl, fun _ => ⟨rfl, rfl⟩⟩

theorem Alike.close (alike : Alike a b) (running : a.status = .running) :
    Alike (close a) (InvitationDialog.close b) :=
  alike.perform running (.finish .ok (UserList.empty _) (UserList.empty _))

theorem Alike.terminate (alike : Alike a b) (inv : Inv a) (inv' : Inv b) :
    Alike (sceInvitationDialogTerminate a).2 (sceInvitationDialogTerminate b).2 := by
  rcases terminate_cases inv with ⟨off, same⟩ | ⟨on, closed, done, -⟩
  · rcases terminate_cases inv' with ⟨-, same'⟩ | ⟨on', -⟩
    · rw [same, same']
      exact alike
    · exact absurd (alike.status ▸ off) on'
  · rcases terminate_cases inv' with ⟨off', -⟩ | ⟨-, closed', done', -⟩
    · exact absurd (alike.status.trans off') on
    · rw [done, done']
      exact alike_idle rfl (fun impossible => nomatch impossible)
        fun impossible => nomatch impossible

theorem Alike.ui (alike : Alike a b) (inv : Inv a) (inv' : Inv b) :
    Alike (uiStep a) (uiStep b) := by
  by_cases running : a.status = .running
  · obtain ⟨state, ui⟩ := alike.running running
    rw [uiStep, uiStep, ← ui]
    match a.ui.thread with
    | [] => exact alike
    | action :: rest =>
      have under : Alike (InvitationDialog.withThread rest a)
          (InvitationDialog.withThread rest b) := by
        refine ⟨alike.status, alike.shown, fun _ => ⟨state, ?_⟩⟩
        change ({ a.ui with thread := rest } : Ui) = { b.ui with thread := rest }
        rw [ui]
      exact under.perform running action
  · have running' : b.status ≠ .running := alike.status ▸ running
    rcases uiStep_cases inv with ⟨-, thread, done, -⟩ | ⟨impossible, -⟩ | ⟨impossible, -⟩
    · rcases uiStep_cases inv' with ⟨-, thread', done', -⟩ | ⟨impossible, -⟩ | ⟨impossible, -⟩
      · rw [done, done']
        exact alike.withThread running thread thread'
      · exact absurd impossible running'
      · exact absurd impossible running'
    · exact absurd impossible running
    · exact absurd impossible running

theorem Alike.step (alike : Alike a b) (inv : Inv a) (inv' : Inv b) (op : Op) :
    Alike (step op a) (InvitationDialog.step op b) := by
  cases op with
  | callInitialize => exact alike.setUp
  | callOpen param plan => exact alike.opens inv inv'
  | callOpenA param plan => exact alike.opens inv inv'
  | callClose =>
    change Alike (sceInvitationDialogClose a).2 (sceInvitationDialogClose b).2
    rw [sceInvitationDialogClose, sceInvitationDialogClose, ← alike.status]
    split
    · exact alike
    · next running => exact alike.close (not_not.mp running)
  | callTerminate => exact alike.terminate inv inv'
  | ui => exact alike.ui inv inv'

theorem Alike.run (alike : Alike a b) (inv : Inv a) (inv' : Inv b) (later : List Op) :
    Alike (Runs.run InvitationDialog.step later a) (Runs.run InvitationDialog.step later b) := by
  induction later generalizing a b with
  | nil => exact alike
  | cons op rest ih =>
    rw [Runs.run_cons, Runs.run_cons]
    exact ih (alike.step inv inv' op) (inv.step op) (inv'.step op)

theorem getWith_finished {ρ : Type} {d : Dialog} (finished : d.status = .finished)
    (fill : Outcome → ρ → ρ) (r : ρ) :
    getWith fill d (some r) =
      if d.state.errorCode ≠ 0 then (errorBlockedAllPlayers, some r)
      else (0, some (fill d.state.toOutcome r)) := by
  have on : ¬d.status = .none := by
    rw [finished]
    decide
  rw [getWith, if_neg on, if_neg (not_not_intro finished)]

theorem Alike.getters {ρ : Type} (alike : Alike a b) (fill : Outcome → ρ → ρ)
    (result : Option ρ) : getWith fill a result = getWith fill b result := by
  by_cases finished : a.status = .finished
  · have finished' : b.status = .finished := alike.status ▸ finished
    cases result with
    | none =>
      rw [getWith, getWith, finished, finished']
    | some r =>
      have code : a.state.errorCode = b.state.errorCode :=
        congrArg Outcome.errorCode (alike.shown finished)
      rw [getWith_finished finished, getWith_finished finished', code, alike.shown finished]
  · unfold getWith
    rw [← alike.status]
    by_cases off : a.status = .none
    · rw [if_pos off, if_pos off]
    · rw [if_neg off, if_neg off, if_pos finished, if_pos finished]

theorem Alike.unchanged (alike : Alike a b) (inv : Inv a) (inv' : Inv b) : Unchanged a b := by
  intro later
  have same := alike.run inv inv' later
  exact ⟨same.status.symm, fun r => (same.getters _ r).symm, fun r => (same.getters _ r).symm⟩

/-- A getter's result is the same as that of a dialog that has sent nothing. -/
theorem getters_cleared {ρ : Type} {fill : Outcome → ρ → ρ} {callbackArg : Nat} {r : ρ}
    (finished : a.status = .finished) (finished' : b.status = .finished)
    (cleared : b.state.toOutcome = { callbackArg })
    (same : getWith fill b (some r) = getWith fill a (some r)) :
    a.state.errorCode = 0 ∧ fill a.state.toOutcome r = fill { callbackArg } r := by
  have code : ¬b.state.errorCode ≠ 0 := by
    rw [cleared]
    exact not_not_intro rfl
  rw [getWith_finished finished, getWith_finished finished', if_neg code, cleared] at same
  by_cases blocked : a.state.errorCode ≠ 0
  · rw [if_pos blocked] at same
    exact absurd (Prod.mk.inj same).1 (by decide)
  · rw [if_neg blocked] at same
    exact ⟨not_not.mp blocked, (Option.some.inj (Prod.mk.inj same).2).symm⟩

theorem outcome_cleared {callbackArg : Nat} (unchanged : Unchanged a b)
    (finished : a.status = .finished) (finished' : b.status = .finished)
    (cleared : b.state.toOutcome = { callbackArg }) : a.state.toOutcome = { callbackArg } := by
  obtain ⟨-, online, users⟩ := unchanged []
  obtain ⟨code, first⟩ := getters_cleared finished finished' cleared
    (online (some ⟨0, 0, .ok, some ⟨0, fun _ => []⟩⟩))
  obtain ⟨-, second⟩ := getters_cleared finished finished' cleared
    (users (some ⟨0, 0, .ok, some ⟨0, fun _ => ⟨[], 0⟩⟩⟩))
  injection first with callback _ result list
  injection second with _ _ _ list'
  have count : (if a.state.result = .ok then
      min a.state.sentOnlineIds.1.length userListMaxSize else 0) = 0 :=
    congrArg OnlineIdList.count (Option.some.inj list)
  have count' : (if a.state.result = .ok then
      min (max a.state.sentOnlineIds.1.length a.state.sentAccountIds.1.length) userListMaxSize
      else 0) = 0 :=
    congrArg OrbisUserList.count (Option.some.inj list')
  have kind : a.state.result = .ok := result
  rw [if_pos kind] at count count'
  have size : userListMaxSize = 16 := rfl
  have online : a.state.sentOnlineIds = UserList.empty _ :=
    Subtype.ext (List.eq_nil_of_length_eq_zero (by omega))
  have accounts : a.state.sentAccountIds = UserList.empty _ :=
    Subtype.ext (List.eq_nil_of_length_eq_zero (by omega))
  calc a.state.toOutcome
      = ⟨a.state.callbackArg, a.state.errorCode, a.state.result, a.state.sentOnlineIds,
          a.state.sentAccountIds⟩ := rfl
    _ = { callbackArg } := by rw [callback, code, kind, online, accounts]

/-! ## Failing calls -/

variable {α : Type} {assign : List α → DialogState → DialogState} {param : Option (Param α)}
  {plan : List UiAction}

theorem opens_safely_iff (inv : Inv a) :
    ((openWith assign param plan a).1 ≠ 0 → Unchanged a (openWith assign param plan a).2) ↔
      Spares param a := by
  rcases openWith_cases assign param plan inv with ⟨failed, same⟩ |
      ⟨p, given, send, missing, ready, done⟩ | ⟨p, given, ready, done⟩
  · rw [same]
    constructor
    · intro _ p given send missing finished
      -- a finished dialog is not refused for its state, so the mode would have to be unknown
      have ready : ¬(a.status ≠ .initialized ∧ a.status ≠ .finished) := fun wrong =>
        wrong.2 finished
      have settled : a.status ≠ .running := settled_of_ready (.inr finished)
      subst given
      rw [openWith_missing assign (inv.quiet settled) ready send missing] at same
      have reset := congrArg (fun d : Dialog => d.state.toOutcome) same
      exact reset.symm
    · intro _ _
      exact (Alike.refl a).unchanged inv inv
  · have settled : a.status ≠ .running := settled_of_ready ready
    have reset : Inv (openWith assign param plan a).2 := opens_inv inv
    rw [done] at reset ⊢
    constructor
    · intro safe p' given' send' missing' finished
      obtain rfl := Option.some.inj (given.symm.trans given')
      exact outcome_cleared (safe (show errorParamInvalid ≠ 0 by decide)) finished finished rfl
    · intro spares _
      refine Alike.unchanged ⟨rfl, ?_, fun running => absurd running settled⟩ inv reset
      intro finished
      exact spares p given send missing finished
  · have known : ¬(p.mode = modeSend ∧ p.dataParam = none ∧ a.status = .finished) := by
      rintro ⟨send, missing, finished⟩
      subst given
      have settled : a.status ≠ .running := settled_of_ready (.inr finished)
      rw [openWith_missing assign (inv.quiet settled) (fun wrong => wrong.2 finished) send
        missing] at done
      exact absurd (Prod.mk.inj done).1 (by decide)
    rw [done]
    constructor
    · intro _ p' given' send missing finished
      obtain rfl := Option.some.inj (given.symm.trans given')
      exact absurd ⟨send, missing, finished⟩ known
    · intro _ failed
      exact absurd rfl failed

theorem failsSafely_iff (inv : Inv a) (op : Op) : FailsSafely op a (step op a) ↔ Harmless op a := by
  cases op with
  | callOpen param plan => exact opens_safely_iff inv
  | callOpenA param plan => exact opens_safely_iff inv
  | callInitialize => exact Iff.rfl
  | callClose => exact Iff.rfl
  | callTerminate => exact Iff.rfl
  | ui => exact Iff.rfl

end Alikes

/-- The status moves as it should in every run; failing calls change nothing just when none of
them asks a finished dialog with a result to send without data. -/
theorem dialog_lawful_iff (ops : List Op) :
    Runs.Throughout step (fun _ => True) StatusMoves ops {} ∧
    (Runs.Throughout step (fun _ => True) FailsSafely ops {} ↔
      Runs.Admitted step Harmless ops {}) := by
  constructor
  · have always : Runs.Admitted step (fun _ _ => True) ops {} :=
      Runs.admitted_always (fun _ _ => trivial) ops _
    exact Runs.throughout_of_admitted (fun _ (_ : Inv _) => trivial)
      (fun op _ inv _ => ⟨inv.step op, step_moves inv op⟩) inv_start always
  · exact Runs.throughout_iff_admitted (fun _ (_ : Inv _) => trivial)
      (fun op _ inv harmless => ⟨inv.step op, (failsSafely_iff inv op).mpr harmless⟩)
      (fun op _ inv safe => (failsSafely_iff inv op).mp safe) inv_start

/-- A dialog that was canceled, and a call that sends without data. -/
def canceledThenReopened : List Op :=
  [.callInitialize,
    .callOpen (some { mode := modeRecv, userId := 1, callbackArg := 7, dataParam := none })
      [.finish .userCanceled (UserList.empty _) (UserList.empty _)],
    .ui,
    .callOpen (some { mode := modeSend, userId := 1, callbackArg := 8, dataParam := none }) []]

/-- The result of the canceled dialog is lost to a call that failed. -/
theorem failed_open_loses_result :
    ¬Runs.Throughout step (fun _ => True) FailsSafely canceledThenReopened {} := by
  rintro ⟨-, -, -, -, -, -, -, safe, -⟩
  have failed : (sceInvitationDialogOpen
      (some { mode := modeSend, userId := 1, callbackArg := 8, dataParam := none }) []
      (Runs.run step (canceledThenReopened.take 3) {})).1 ≠ 0 := by
    decide
  obtain ⟨-, results, -⟩ := safe failed []
  have kept := results (some ⟨0, 0, .ok, none⟩)
  have lost := congrArg (fun shown => shown.2.map (·.result)) kept
  exact absurd lost (by decide)

end InvitationDialog
