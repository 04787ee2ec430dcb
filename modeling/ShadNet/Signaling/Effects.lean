import ShadNet.Signaling.Sections

/-!
# What closing comes to

Run alone, the two operations that close have closed forms: what becomes of the
transport, of its connections and of the queue of events. Each is stated over the
state before it, so that an invariant of complete operations never looks at the
states between their sections.
-/

namespace NpSignaling

open KeyedTable LockProgram

section Dispatch

variable {s : NpSignalingState}

theorem connectionDispatch_found {connId : Nat} {ci : ConnectionInfo}
    (found : s.connection? connId = some ci) (eventType : SignalingEvent)
    (errorCode : Option SignalingError) :
    connectionDispatch s connId eventType errorCode = ownDispatch s ci eventType errorCode := by
  simp only [connectionDispatch, found]

theorem exec_forEach_dispatch (connIds : List Nat) (eventType : SignalingEvent)
    (errorCode : Option SignalingError) (s : NpSignalingState) :
    ((Prog.forEach connIds (fun connId =>
      updateLocked (dispatchConnectionEvent connId eventType errorCode))).exec s).2 =
      s.stage (connIds.flatMap (fun connId => connectionDispatch s connId eventType errorCode)) := by
  suffices loop : ∀ news, ((Prog.forEach connIds (fun connId =>
      updateLocked (dispatchConnectionEvent connId eventType errorCode))).exec (s.stage news)).2 =
      s.stage (news ++ connIds.flatMap
        (fun connId => connectionDispatch s connId eventType errorCode)) by
    simpa only [stage_nil, List.nil_append] using loop []
  induction connIds with
  | nil => simp [Prog.exec_forEach_nil]
  | cons connId rest ih =>
    intro news
    have staged : connectionDispatch (s.stage news) connId eventType errorCode =
      connectionDispatch s connId eventType errorCode := rfl
    rw [Prog.exec_forEach_cons, Prog.exec_update, dispatchConnectionEvent_eq, staged, stage_stage,
      ih, List.flatMap_cons, List.append_assoc]

end Dispatch

/-! ## Closing one connection -/

section Close

variable {s : NpSignalingState}

theorem closeConnection_exec (coherent : Coherent s) {ci : ConnectionInfo}
    (member : ci ∈ s.connections) (status : ci.status ≠ .inactive) (alive : ci.deadFired = false)
    (sigErrorCode : SignalingError) (matching2ErrorCode : Matching2Error) :
    ∃ caches matching2Events npidToConn,
      ((closeConnectionAndDispatchDead ci.connId sigErrorCode matching2ErrorCode).exec s).2 =
        { s with
          caches, matching2Events, npidToConn
          connections := remove ConnectionInfo.connId ci.connId s.connections
          peerTransports := adjust PeerTransport.transportId ci.transportId
            (setTransportStateLocked .inactive) s.peerTransports
          staged := s.staged ++ ownDispatch s ci .dead (some sigErrorCode) } := by
  let dead (ci : ConnectionInfo) : ConnectionInfo := { ci with status := .inactive, deadFired := true }
  let s₁ := (s.adjustTransport ci.transportId (setTransportStateLocked .inactive)).adjustConnection
    ci.connId dead
  have found : s.connection? ci.connId = some ci := coherent.connection_of_mem member
  have closed : closeConnectionLocked ci.connId s = (some (ci.transportId, true), s₁) := by
    have owned : ci.ctxId ≠ 0 := coherent.ctxId_ne_zero member
    simp [closeConnectionLocked, found, status, alive, owned, s₁, dead]
  have keeps : ∀ c, (dead c).connId = c.connId := fun _ => rfl
  have found₁ : s₁.connection? ci.connId = some (dead ci) := by
    have looked : s₁.connection? ci.connId =
        (s.connection? ci.connId).map (fun c => if c.connId = ci.connId then dead c else c) :=
      lookup_adjust keeps s.connections
    rw [looked, found]
    simp
  obtain ⟨caches, events, told⟩ : OnlyMatching2 s₁ (if ci.transportId ≠ 0 then
      queueMatching2DeadForTransport ci.transportId matching2ErrorCode s₁ else s₁) := by
    split
    · exact onlyMatching2_dead _ _
    · exact OnlyMatching2.refl s₁
  let s₂ : NpSignalingState := { s₁ with caches := caches, matching2Events := events }
  have staged : connectionDispatch s₂ ci.connId .dead (some sigErrorCode) =
      ownDispatch s ci .dead (some sigErrorCode) :=
    connectionDispatch_found found₁ _ _
  obtain ⟨index, removed⟩ := removeConnection_eq ci.connId
    (s₂.stage (ownDispatch s ci .dead (some sigErrorCode)))
  refine ⟨caches, events, index, ?_⟩
  have gone : remove ConnectionInfo.connId ci.connId s₁.connections =
      remove ConnectionInfo.connId ci.connId s.connections := remove_adjust keeps _
  have sections : ((closeConnectionAndDispatchDead ci.connId sigErrorCode
      matching2ErrorCode).exec s).2 = removeConnectionLocked ci.connId
        (dispatchConnectionEvent ci.connId .dead (some sigErrorCode)
          (if ci.transportId ≠ 0 then
            queueMatching2DeadForTransport ci.transportId matching2ErrorCode s₁ else s₁)) := by
    simp only [closeConnectionAndDispatchDead, Prog.exec_bind, Prog.exec_locked, closed,
      Prog.exec_when_update, Prog.exec_update, if_true]
  rw [sections, told, dispatchConnectionEvent_eq, staged, removed]
  simp only [NpSignalingState.stage, s₂]
  rw [gone]
  rfl

/-- Nothing is left to close. -/
theorem closeConnection_exec_none {connId : Nat} (sigErrorCode : SignalingError)
    (matching2ErrorCode : Matching2Error)
    (closed : ∀ ci, s.connection? connId = some ci → ci.status = .inactive ∨ ci.deadFired = true) :
    ((closeConnectionAndDispatchDead connId sigErrorCode matching2ErrorCode).exec s).2 = s := by
  have none : closeConnectionLocked connId s = (none, s) := by
    simp only [closeConnectionLocked]
    cases found : s.connection? connId with
    | none => rfl
    | some ci =>
      have done := closed ci found
      simp only [done, if_true]
  simp only [closeConnectionAndDispatchDead, Prog.exec_bind, Prog.exec_locked, none,
    Prog.exec_pure]

/-! ## Closing a transport -/

/-- The connections a closing transport takes with it. -/
def closedWith (transportId : Nat) (ci : ConnectionInfo) : Bool :=
  ci.transportId = transportId && !ci.deadFired

theorem closeTransport_exec (coherent : Coherent s) {t : PeerTransport}
    (member : t ∈ s.peerTransports) (live : t.state ≠ .inactive)
    (sigErrorCode : SignalingError) (matching2ErrorCode : Matching2Error) :
    ∃ caches matching2Events npidToConn,
      ((closeTransportAndDispatchDead t.transportId sigErrorCode matching2ErrorCode).exec s).2 =
        { s with
          caches, matching2Events, npidToConn
          connections := s.connections.filter (fun ci => !closedWith t.transportId ci)
          peerTransports := remove PeerTransport.transportId t.transportId s.peerTransports
          staged := s.staged ++ (s.connections.filter (closedWith t.transportId)).flatMap
            (fun ci => ownDispatch s ci .dead (some sigErrorCode)) } := by
  let close (ci : ConnectionInfo) : ConnectionInfo :=
    if closedWith t.transportId ci then { ci with deadFired := true, status := .inactive } else ci
  let closing := s.connections.filter (closedWith t.transportId)
  let s₁ : NpSignalingState :=
    { s.adjustTransport t.transportId (setTransportStateLocked .inactive) with
      connections := s.connections.map close }
  have found : s.transport? t.transportId = some t := coherent.transport_of_mem member
  have ids : (s.connections.filter (fun ci => closedWith t.transportId ci &&
      decide (ci.ctxId ≠ 0))).map (·.connId) = closing.map (·.connId) := by
    congr 1
    apply List.filter_congr
    intro ci hci
    simp [coherent.ctxId_ne_zero hci]
  have closed : closeTransportLocked t.transportId s = (some (closing.map (·.connId)), s₁) := by
    simp only [closeTransportLocked, found, if_neg live]
    exact congrArg₂ Prod.mk (congrArg some ids) rfl
  have keeps : ∀ ci, (close ci).connId = ci.connId := by
    intro ci
    simp only [close]
    split <;> rfl
  obtain ⟨caches, events, told⟩ : OnlyMatching2 s₁
      (queueMatching2DeadForTransport t.transportId matching2ErrorCode s₁) :=
    onlyMatching2_dead t.transportId matching2ErrorCode
  let s₂ : NpSignalingState := { s₁ with caches := caches, matching2Events := events }
  have staged : (closing.map (·.connId)).flatMap
      (fun connId => connectionDispatch s₂ connId .dead (some sigErrorCode)) =
      closing.flatMap (fun ci => ownDispatch s ci .dead (some sigErrorCode)) := by
    rw [List.flatMap_map]
    apply List.flatMap_congr
    intro ci hci
    obtain ⟨old, goes⟩ := List.mem_filter.mp hci
    have distinct₂ : Distinct ConnectionInfo.connId s₂.connections :=
      coherent.connections.map keeps
    have found₂ : s₂.connection? ci.connId = some (close ci) := by
      rw [← keeps ci]
      exact distinct₂.lookup_of_mem (List.mem_map_of_mem old)
    rw [connectionDispatch_found found₂]
    simp only [close, goes, if_true]
    rfl
  have taken : ∀ ci ∈ s.connections,
      ci.connId ∈ closing.map (·.connId) ↔ closedWith t.transportId ci = true := by
    intro ci hci
    constructor
    · intro listed
      obtain ⟨other, hother, sameId⟩ := List.mem_map.mp listed
      obtain ⟨old, goes⟩ := List.mem_filter.mp hother
      rwa [coherent.connections.eq_of_key hci old sameId.symm]
    · intro goes
      exact List.mem_map.mpr ⟨ci, List.mem_filter.mpr ⟨hci, goes⟩, rfl⟩
  have left : (s.connections.map close).filter
      (fun ci => decide (ci.connId ∉ closing.map (·.connId))) =
      s.connections.filter (fun ci => !closedWith t.transportId ci) := by
    rw [List.filter_map]
    have stays : s.connections.filter ((fun ci => decide (ci.connId ∉ closing.map (·.connId))) ∘
        close) = s.connections.filter (fun ci => !closedWith t.transportId ci) := by
      apply List.filter_congr
      intro ci hci
      simp only [Function.comp, keeps, taken ci hci]
      cases closedWith t.transportId ci <;> rfl
    have untouched : ∀ ci ∈ s.connections.filter (fun ci => !closedWith t.transportId ci),
        close ci = id ci := by
      intro ci hci
      have stay : closedWith t.transportId ci = false := by
        simpa using (List.mem_filter.mp hci).2
      simp [close, stay]
    rw [stays, List.map_congr_left untouched, List.map_id]
  obtain ⟨index, erased⟩ := eraseTransport_eq t.transportId (closing.map (·.connId))
    (s₂.stage (closing.flatMap (fun ci => ownDispatch s ci .dead (some sigErrorCode))))
  refine ⟨caches, events, index, ?_⟩
  have gone : remove PeerTransport.transportId t.transportId s₁.peerTransports =
      remove PeerTransport.transportId t.transportId s.peerTransports := by
    have same : ∀ t, (setTransportStateLocked .inactive t).transportId = t.transportId :=
      fun _ => rfl
    exact remove_adjust same _
  simp only [closeTransportAndDispatchDead, Prog.exec_bind, Prog.exec_locked, closed,
    Prog.exec_update, told, exec_forEach_dispatch]
  rw [staged, erased]
  simp only [NpSignalingState.stage, s₂, s₁]
  rw [gone, left]
  rfl

theorem closeTransport_exec_none {transportId : Nat} (sigErrorCode : SignalingError)
    (matching2ErrorCode : Matching2Error)
    (closed : ∀ t, s.transport? transportId = some t → t.state = .inactive) :
    ((closeTransportAndDispatchDead transportId sigErrorCode matching2ErrorCode).exec s).2 = s := by
  have none : closeTransportLocked transportId s = (none, s) := by
    simp only [closeTransportLocked]
    cases found : s.transport? transportId with
    | none => rfl
    | some t => simp only [closed t found, if_true]
  simp only [closeTransportAndDispatchDead, Prog.exec_bind, Prog.exec_locked, none,
    Prog.exec_pure]

end Close

end NpSignaling
