import ShadNet.Signaling.Api

/-!
# What a critical section leaves alone

Most sections neither make nor remove a record: they change endpoints, states,
statuses and flags in place. `Kept R` says so once, with `R` for what happens to
each transport; the invariants of the runtime are then derived from it and from
the few sections that make or remove something.
-/

namespace NpSignaling

open KeyedTable

structure SameConnection (ci ci' : ConnectionInfo) : Prop where
  ctxId : ci'.ctxId = ci.ctxId
  npid : ci'.npid = ci.npid
  onlineId : ci'.onlineId = ci.onlineId
  serial : ci'.serial = ci.serial
  dead : ci.deadFired = true → ci'.deadFired = true

structure SameContext (ctx ctx' : NpSignalingContext) : Prop where
  callback : ctx'.callback = ctx.callback
  callbackArg : ctx'.callbackArg = ctx.callbackArg
  active : ctx'.active = ctx.active
  ownerNpid : ctx'.ownerNpid = ctx.ownerNpid
  ownerOnlineId : ctx'.ownerOnlineId = ctx.ownerOnlineId

structure SameTransport (t t' : PeerTransport) : Prop where
  name : onlineIdToString t'.onlineId = onlineIdToString t.onlineId
  status : t.status = statusFromState t.state → t'.status = statusFromState t'.state

/-- No transport is brought back from Inactive and none becomes Established. -/
structure Quiet (t t' : PeerTransport) : Prop where
  inactive : t.state = .inactive → t'.state = .inactive
  established : t'.state = .established → t.state = .established

/-- The transport stays Inactive, pending or Established. -/
def Steady (t t' : PeerTransport) : Prop := statusFromState t'.state = statusFromState t.state

/-- Only an Inactive transport changes its status, and none becomes Established. -/
def Stirs (t t' : PeerTransport) : Prop :=
  Steady t t' ∨ t.state = .inactive ∧ t'.state ≠ .established

def NoRevival (t t' : PeerTransport) : Prop := t.state = .inactive → t'.state = .inactive

def AnyChange (_ _ : PeerTransport) : Prop := True

/-- A relation that can be followed from section to section. -/
structure Composable (R : PeerTransport → PeerTransport → Prop) : Prop where
  refl : ∀ t, R t t
  trans : ∀ a b c, R a b → R b c → R a c

theorem composable_quiet : Composable Quiet where
  refl _ := ⟨id, id⟩
  trans _ _ _ first second :=
    ⟨second.inactive ∘ first.inactive, first.established ∘ second.established⟩

theorem composable_steady : Composable Steady :=
  ⟨fun _ => rfl, fun _ _ _ first second => Eq.trans second first⟩

theorem Steady.reverse {t t' : PeerTransport} (steady : Steady t t') : Steady t' t := Eq.symm steady

theorem Steady.quiet {t t' : PeerTransport} (steady : Steady t t') : Quiet t t' where
  inactive := by
    intro inactive
    rw [← statusFromState_inactive, steady, statusFromState_inactive.mpr inactive]
  established := by
    intro established
    rw [← statusFromState_active, ← steady, statusFromState_active.mpr established]

theorem composable_noRevival : Composable NoRevival :=
  ⟨fun _ => id, fun _ _ _ first second => second ∘ first⟩

theorem composable_stirs : Composable Stirs where
  refl _ := Or.inl rfl
  trans := by
    rintro a b c (first | ⟨inactive, fresh⟩) (second | ⟨inactive', fresh'⟩)
    · exact Or.inl (Eq.trans second first)
    · exact Or.inr ⟨first.reverse.quiet.inactive inactive', fresh'⟩
    · exact Or.inr ⟨inactive, fun established => fresh (second.quiet.established established)⟩
    · exact Or.inr ⟨inactive, fresh'⟩

theorem composable_anyChange : Composable AnyChange :=
  ⟨fun _ => trivial, fun _ _ _ _ _ => trivial⟩

structure Kept (R : PeerTransport → PeerTransport → Prop) (s s' : NpSignalingState) : Prop where
  contexts : Updated NpSignalingContext.ctxId SameContext s.contexts s'.contexts
  connections : Updated ConnectionInfo.connId SameConnection s.connections s'.connections
  peerTransports : Updated PeerTransport.transportId (fun t t' => SameTransport t t' ∧ R t t')
    s.peerTransports s'.peerTransports
  npidToConn : s'.npidToConn = s.npidToConn
  connectionsMade : s'.connectionsMade = s.connectionsMade
  initialized : s'.initialized = s.initialized
  dispatchStop : s'.dispatchStop = s.dispatchStop
  taken : s'.taken = s.taken
  inHand : s'.inHand = s.inHand
  invoked : s'.invoked = s.invoked
  stopped : s.dispatchStop = true → s'.staged = s.staged
  staged : ∃ news, s'.staged = s.staged ++ news ∧
    ∀ d ∈ news, ∃ ci ∈ s.connections, ci.serial = d.serial

theorem SameConnection.refl (ci : ConnectionInfo) : SameConnection ci ci :=
  ⟨rfl, rfl, rfl, rfl, id⟩

theorem SameConnection.trans {a b c : ConnectionInfo} (first : SameConnection a b)
    (second : SameConnection b c) : SameConnection a c :=
  ⟨second.ctxId.trans first.ctxId, second.npid.trans first.npid,
    second.onlineId.trans first.onlineId, second.serial.trans first.serial,
    second.dead ∘ first.dead⟩

theorem SameContext.refl (ctx : NpSignalingContext) : SameContext ctx ctx :=
  ⟨rfl, rfl, rfl, rfl, rfl⟩

theorem SameContext.trans {a b c : NpSignalingContext} (first : SameContext a b)
    (second : SameContext b c) : SameContext a c :=
  ⟨second.callback.trans first.callback, second.callbackArg.trans first.callbackArg,
    second.active.trans first.active, second.ownerNpid.trans first.ownerNpid,
    second.ownerOnlineId.trans first.ownerOnlineId⟩

theorem SameTransport.refl (t : PeerTransport) : SameTransport t t := ⟨rfl, id⟩

theorem SameTransport.trans {a b c : PeerTransport} (first : SameTransport a b)
    (second : SameTransport b c) : SameTransport a c :=
  ⟨second.name.trans first.name, second.status ∘ first.status⟩

section Kept

variable {R : PeerTransport → PeerTransport → Prop} {s s' s'' : NpSignalingState}

theorem Kept.refl (hR : Composable R) (s : NpSignalingState) : Kept R s s where
  contexts := Updated.refl SameContext.refl _
  connections := Updated.refl SameConnection.refl _
  peerTransports := Updated.refl (fun t => ⟨SameTransport.refl t, hR.refl t⟩) _
  npidToConn := rfl
  connectionsMade := rfl
  initialized := rfl
  dispatchStop := rfl
  taken := rfl
  inHand := rfl
  invoked := rfl
  stopped _ := rfl
  staged := ⟨[], by simp, by simp⟩

theorem Kept.trans (hR : Composable R) (first : Kept R s s') (second : Kept R s' s'') :
    Kept R s s'' where
  contexts := first.contexts.trans (fun _ _ _ => SameContext.trans) second.contexts
  connections := first.connections.trans (fun _ _ _ => SameConnection.trans) second.connections
  peerTransports := first.peerTransports.trans
    (fun _ _ _ hab hbc => ⟨hab.1.trans hbc.1, hR.trans _ _ _ hab.2 hbc.2⟩) second.peerTransports
  npidToConn := second.npidToConn.trans first.npidToConn
  connectionsMade := second.connectionsMade.trans first.connectionsMade
  initialized := second.initialized.trans first.initialized
  dispatchStop := second.dispatchStop.trans first.dispatchStop
  taken := second.taken.trans first.taken
  inHand := second.inHand.trans first.inHand
  invoked := second.invoked.trans first.invoked
  stopped := by
    intro stop
    rw [second.stopped (first.dispatchStop.trans stop), first.stopped stop]
  staged := by
    obtain ⟨news, hnews, owned⟩ := first.staged
    obtain ⟨later, hlater, owned'⟩ := second.staged
    refine ⟨news ++ later, by rw [hlater, hnews, List.append_assoc], ?_⟩
    intro d hd
    rcases List.mem_append.mp hd with old | new
    · exact owned d old
    · obtain ⟨ci', hci', serial⟩ := owned' d new
      obtain ⟨ci, hci, -, same⟩ := first.connections.mem_new hci'
      exact ⟨ci, hci, same.serial.symm.trans serial⟩

theorem Kept.mono {R' : PeerTransport → PeerTransport → Prop}
    (weaker : ∀ t t', R t t' → R' t t') (kept : Kept R s s') : Kept R' s s' :=
  { kept with
    peerTransports := kept.peerTransports.mono (fun _ _ h => ⟨h.1, weaker _ _ h.2⟩) }

theorem Kept.quiet (kept : Kept Steady s s') : Kept Quiet s s' :=
  kept.mono (fun _ _ => Steady.quiet)

theorem kept_adjustTransport (hR : Composable R) (transportId : Nat)
    {f : PeerTransport → PeerTransport}
    (keeps : ∀ t ∈ s.peerTransports, t.transportId = transportId →
      (f t).transportId = t.transportId ∧ SameTransport t (f t) ∧ R t (f t)) :
    Kept R s (s.adjustTransport transportId f) :=
  { Kept.refl hR s with
    peerTransports := updated_adjust (fun t => ⟨SameTransport.refl t, hR.refl t⟩) keeps }

theorem kept_mapConnections (hR : Composable R) {g : ConnectionInfo → ConnectionInfo}
    (keeps : ∀ ci ∈ s.connections, (g ci).connId = ci.connId ∧ SameConnection ci (g ci)) :
    Kept R s { s with connections := s.connections.map g } :=
  { Kept.refl hR s with connections := updated_map keeps }

theorem kept_adjustConnection (hR : Composable R) (connId : Nat)
    {g : ConnectionInfo → ConnectionInfo}
    (keeps : ∀ ci ∈ s.connections, ci.connId = connId →
      (g ci).connId = ci.connId ∧ SameConnection ci (g ci)) :
    Kept R s (s.adjustConnection connId g) :=
  { Kept.refl hR s with connections := updated_adjust SameConnection.refl keeps }

end Kept

/-! ## Sections that keep every record -/

section Sections

variable {s : NpSignalingState}

theorem kept_send (datagram : Datagram) : Kept Steady s (s.send datagram) :=
  { Kept.refl composable_steady s with }

theorem kept_sync (transportId : Nat) :
    Kept Steady s (syncSig1ConnectionsForTransportLocked transportId s) := by
  unfold syncSig1ConnectionsForTransportLocked
  cases s.transport? transportId with
  | none => exact Kept.refl composable_steady s
  | some transport =>
    apply kept_mapConnections composable_steady
    intro ci _
    by_cases same : ci.transportId = transportId
    · rw [if_pos same]
      exact ⟨rfl, rfl, rfl, rfl, rfl, id⟩
    · rw [if_neg same]
      exact ⟨rfl, SameConnection.refl ci⟩

theorem sync_transports (transportId : Nat) (s : NpSignalingState) :
    (syncSig1ConnectionsForTransportLocked transportId s).peerTransports = s.peerTransports := by
  simp only [syncSig1ConnectionsForTransportLocked]
  cases s.transport? transportId <;> rfl

theorem steady_of_state {t t' : PeerTransport} (same : t'.state = t.state) : Steady t t' :=
  congrArg statusFromState same

theorem sameTransport_of_state {t t' : PeerTransport} (onlineId : t'.onlineId = t.onlineId)
    (state : t'.state = t.state) (status : t'.status = t.status) : SameTransport t t' :=
  ⟨by rw [onlineId], by rw [state, status]; exact id⟩

theorem kept_sendHandshake (transportId : Nat) (packet : SignalingHandshake) (now : Int) :
    Kept Steady s (sendHandshakeLocked transportId packet now s) := by
  unfold sendHandshakeLocked
  cases s.transport? transportId with
  | none => exact Kept.refl composable_steady s
  | some transport =>
    dsimp only
    by_cases unresolved : transport.addr = 0 ∨ transport.port = 0
    · rw [if_pos unresolved]
      exact Kept.refl composable_steady s
    · rw [if_neg unresolved]
      have stamped : Kept Steady s (s.adjustTransport transportId
          (fun t => { t with lastHandshakeSendUs := now })) := by
        apply kept_adjustTransport composable_steady
        intro t _ _
        exact ⟨rfl, sameTransport_of_state rfl rfl rfl, steady_of_state rfl⟩
      exact (stamped.trans composable_steady (kept_send _)).trans composable_steady
        (kept_sync transportId)

theorem kept_sendActivate (ci : ConnectionInfo) : Kept Steady s (sendActivate ci s) := by
  unfold sendActivate
  cases s.transport? ci.transportId with
  | none => exact Kept.refl composable_steady s
  | some transport =>
    dsimp only
    split
    · exact Kept.refl composable_steady s
    · exact kept_send _

theorem kept_sendControlClose (ci : ConnectionInfo) (reason : ControlReason) :
    Kept Steady s (sendControlCloseLocked ci reason s) := by
  unfold sendControlCloseLocked
  cases s.transport? ci.transportId with
  | none => exact Kept.refl composable_steady s
  | some transport =>
    dsimp only
    split
    · exact Kept.refl composable_steady s
    · exact kept_send _

theorem kept_queueActivation (connId : Nat) (peerOnlineId : List UInt8) (startHandshake : Bool) :
    Kept Steady s (queueActivationLocked connId peerOnlineId startHandshake s) :=
  { Kept.refl composable_steady s with }

/-- A state set on a transport that is neither revived nor established by it. -/
theorem sameTransport_set (newState : ConnState) (t : PeerTransport) :
    SameTransport t (setTransportStateLocked newState t) :=
  ⟨rfl, fun _ => rfl⟩

theorem startedTransport_same (t : PeerTransport) :
    (startedTransport t).transportId = t.transportId ∧ SameTransport t (startedTransport t) := by
  unfold startedTransport initiatorTransport
  cases h : t.state <;> exact ⟨rfl, rfl, fun hs => by first | exact rfl | simpa [h] using hs⟩

theorem startedTransport_stirs (t : PeerTransport) : Stirs t (startedTransport t) := by
  simp only [Stirs, Steady, startedTransport, initiatorTransport]
  cases h : t.state <;> simp [h, setTransportStateLocked, statusFromState]

theorem startedTransport_steady {t : PeerTransport} (live : t.state ≠ .inactive) :
    Steady t (startedTransport t) :=
  (startedTransport_stirs t).resolve_right (fun revived => live revived.1)

theorem kept_start {R : PeerTransport → PeerTransport → Prop} (hR : Composable R)
    (weaker : ∀ t t', Steady t t' → R t t') (transportId : Nat) (now : Int)
    (started : ∀ t ∈ s.peerTransports, t.transportId = transportId → R t (startedTransport t)) :
    Kept R s (startTransportHandshakeInitiatorLocked transportId now s) := by
  unfold startTransportHandshakeInitiatorLocked
  cases s.transport? transportId with
  | none => exact Kept.refl hR s
  | some transport =>
    dsimp only
    cases initiatorKind transport.state with
    | none =>
      apply kept_adjustTransport hR
      intro t _ _
      exact ⟨rfl, sameTransport_of_state rfl rfl rfl, weaker _ _ (steady_of_state rfl)⟩
    | some kind =>
      have adjusted : Kept R s (s.adjustTransport transportId startedTransport) := by
        apply kept_adjustTransport hR
        intro t ht same
        obtain ⟨sameId, sameT⟩ := startedTransport_same t
        exact ⟨sameId, sameT, started t ht same⟩
      exact adjusted.trans hR ((kept_sendHandshake transportId _ now).mono weaker)

theorem kept_start_steady (transportId : Nat) (now : Int)
    (live : ∀ t ∈ s.peerTransports, t.transportId = transportId → t.state ≠ .inactive) :
    Kept Steady s (startTransportHandshakeInitiatorLocked transportId now s) :=
  kept_start composable_steady (fun _ _ => id) transportId now
    (fun t ht same => startedTransport_steady (live t ht same))

theorem kept_start_stirs (transportId : Nat) (now : Int) :
    Kept Stirs s (startTransportHandshakeInitiatorLocked transportId now s) :=
  kept_start composable_stirs (fun _ _ => Or.inl) transportId now
    (fun t _ _ => startedTransport_stirs t)

/-! ### Events -/

def NpSignalingState.stage (news : List QueuedDispatch) (s : NpSignalingState) :
    NpSignalingState :=
  { s with staged := s.staged ++ news }

theorem stage_nil (s : NpSignalingState) : s.stage [] = s := by
  simp [NpSignalingState.stage]

theorem stage_stage (first second : List QueuedDispatch) (s : NpSignalingState) :
    (s.stage first).stage second = s.stage (first ++ second) := by
  simp [NpSignalingState.stage]

/-- What `StageBasicCallbackLocked` appends to the queue. -/
def basicDispatch (stop : Bool) (ctx : NpSignalingContext) (connId : Nat)
    (eventType : SignalingEvent) (errorCode : Option SignalingError) (serial : Nat) :
    List QueuedDispatch :=
  match ctx.callback with
  | none => []
  | some callback =>
    if stop then []
    else [⟨ctx.ctxId, connId, eventType, errorCode, callback, ctx.callbackArg, serial⟩]

theorem stageBasicCallbackLocked_eq (ctx : NpSignalingContext) (connId : Nat)
    (eventType : SignalingEvent) (errorCode : Option SignalingError) (serial : Nat)
    (s : NpSignalingState) :
    stageBasicCallbackLocked ctx connId eventType errorCode serial s =
      s.stage (basicDispatch s.dispatchStop ctx connId eventType errorCode serial) := by
  unfold stageBasicCallbackLocked basicDispatch
  cases ctx.callback with
  | none => exact (stage_nil s).symm
  | some callback =>
    dsimp only
    split
    · exact (stage_nil s).symm
    · rfl

theorem mem_basicDispatch {stop : Bool} {ctx : NpSignalingContext} {connId : Nat}
    {eventType : SignalingEvent} {errorCode : Option SignalingError} {serial : Nat}
    {d : QueuedDispatch} (h : d ∈ basicDispatch stop ctx connId eventType errorCode serial) :
    d.ctxId = ctx.ctxId ∧ d.connId = connId ∧ d.eventType = eventType ∧
      d.errorCode = errorCode ∧ d.serial = serial := by
  unfold basicDispatch at h
  cases hc : ctx.callback with
  | none => simp [hc] at h
  | some callback =>
    cases stop with
    | true => simp [hc] at h
    | false =>
      have hd : d = ⟨ctx.ctxId, connId, eventType, errorCode, callback, ctx.callbackArg, serial⟩ := by
        simpa [hc] using h
      subst hd
      exact ⟨rfl, rfl, rfl, rfl, rfl⟩

/-- The event for the context a connection belongs to. -/
def ownDispatch (s : NpSignalingState) (ci : ConnectionInfo) (eventType : SignalingEvent)
    (errorCode : Option SignalingError) : List QueuedDispatch :=
  match s.context? ci.ctxId with
  | none => []
  | some ctx =>
    if ctx.active then basicDispatch s.dispatchStop ctx ci.connId eventType errorCode ci.serial
    else []

/-- The PEER_ACTIVATED events for the other contexts of the owner. -/
def othersDispatch (s : NpSignalingState) (ci : ConnectionInfo) : List QueuedDispatch :=
  s.contexts.flatMap (fun ctx =>
    if ctx.ctxId = ci.ctxId ∨ ctx.active = false then []
    else if ctx.ownerNpid = localNpidOf ci.ctxId s then
      basicDispatch s.dispatchStop ctx ci.connId .peerActivated none ci.serial
    else [])

/-- What `DispatchConnectionEvent` appends to the queue. -/
def connectionDispatch (s : NpSignalingState) (connId : Nat) (eventType : SignalingEvent)
    (errorCode : Option SignalingError) : List QueuedDispatch :=
  match s.connection? connId with
  | none => []
  | some ci => ownDispatch s ci eventType errorCode

theorem dispatchConnectionEvent_eq (s : NpSignalingState) (connId : Nat)
    (eventType : SignalingEvent) (errorCode : Option SignalingError) :
    dispatchConnectionEvent connId eventType errorCode s =
      s.stage (connectionDispatch s connId eventType errorCode) := by
  simp only [dispatchConnectionEvent, connectionDispatch, ownDispatch]
  cases found : s.connection? connId with
  | none => exact (stage_nil s).symm
  | some ci =>
    have sameId : ci.connId = connId := (lookup_some found).2
    dsimp only
    cases s.context? ci.ctxId with
    | none => exact (stage_nil s).symm
    | some ctx =>
      dsimp only
      split
      · rw [sameId]
        exact stageBasicCallbackLocked_eq ctx connId eventType errorCode ci.serial s
      · exact (stage_nil s).symm

/-- What `DispatchPeerActivatedEvent` appends to the queue. -/
def peerActivatedDispatch (s : NpSignalingState) (connId : Nat) : List QueuedDispatch :=
  match s.connection? connId with
  | none => []
  | some ci => othersDispatch s ci

theorem dispatchPeerActivatedEvent_eq (s : NpSignalingState) (connId : Nat) :
    dispatchPeerActivatedEvent connId s = s.stage (peerActivatedDispatch s connId) := by
  simp only [dispatchPeerActivatedEvent, peerActivatedDispatch, othersDispatch]
  cases found : s.connection? connId with
  | none => exact (stage_nil s).symm
  | some ci =>
    have sameId : ci.connId = connId := (lookup_some found).2
    dsimp only
    rw [sameId]
    generalize localNpidOf ci.ctxId s = localNpid
    have stop : ∀ news, (s.stage news).dispatchStop = s.dispatchStop := fun _ => rfl
    -- the queue grows from context to context; nothing the loop reads does
    suffices fold : ∀ (contexts : List NpSignalingContext) (news : List QueuedDispatch),
        contexts.foldl (fun s ctx =>
          if ctx.ctxId = ci.ctxId ∨ ctx.active = false then s
          else if ctx.ownerNpid = localNpid then
            stageBasicCallbackLocked ctx connId .peerActivated none ci.serial s
          else s) (s.stage news) =
        s.stage (news ++ contexts.flatMap (fun ctx =>
          if ctx.ctxId = ci.ctxId ∨ ctx.active = false then []
          else if ctx.ownerNpid = localNpid then
            basicDispatch s.dispatchStop ctx connId .peerActivated none ci.serial
          else [])) by
      simpa only [stage_nil, List.nil_append] using fold s.contexts []
    intro contexts
    induction contexts with
    | nil => intro news; simp
    | cons ctx rest ih =>
      intro news
      rw [List.foldl_cons, List.flatMap_cons]
      by_cases skipped : ctx.ctxId = ci.ctxId ∨ ctx.active = false
      · rw [if_pos skipped, if_pos skipped, ih, List.nil_append]
      · rw [if_neg skipped, if_neg skipped]
        by_cases owner : ctx.ownerNpid = localNpid
        · rw [if_pos owner, if_pos owner, stageBasicCallbackLocked_eq, stop, stage_stage, ih,
            List.append_assoc]
        · rw [if_neg owner, if_neg owner, ih, List.nil_append]

theorem mem_ownDispatch {ci : ConnectionInfo} {eventType : SignalingEvent}
    {errorCode : Option SignalingError} {d : QueuedDispatch}
    (h : d ∈ ownDispatch s ci eventType errorCode) :
    d.serial = ci.serial ∧ d.ctxId = ci.ctxId ∧ d.eventType = eventType ∧
      d.errorCode = errorCode := by
  simp only [ownDispatch] at h
  cases found : s.context? ci.ctxId with
  | none => simp [found] at h
  | some ctx =>
    have owner : ctx.ctxId = ci.ctxId := (lookup_some found).2
    simp only [found] at h
    split at h
    · obtain ⟨ctxId, -, event, error, serial⟩ := mem_basicDispatch h
      exact ⟨serial, ctxId.trans owner, event, error⟩
    · simp at h

theorem mem_othersDispatch {ci : ConnectionInfo} {d : QueuedDispatch}
    (h : d ∈ othersDispatch s ci) :
    d.serial = ci.serial ∧ d.ctxId ≠ ci.ctxId ∧ d.eventType = .peerActivated := by
  obtain ⟨ctx, -, hd⟩ := List.mem_flatMap.mp h
  split at hd
  · simp at hd
  · rename_i skipped
    split at hd
    · obtain ⟨ctxId, -, event, -, serial⟩ := mem_basicDispatch hd
      exact ⟨serial, ctxId.trans_ne (fun same => skipped (Or.inl same)), event⟩
    · simp at hd

theorem mem_connectionDispatch {connId : Nat} {eventType : SignalingEvent}
    {errorCode : Option SignalingError} {d : QueuedDispatch}
    (h : d ∈ connectionDispatch s connId eventType errorCode) :
    ∃ ci ∈ s.connections, d ∈ ownDispatch s ci eventType errorCode := by
  simp only [connectionDispatch] at h
  split at h
  · cases h
  · rename_i ci found
    exact ⟨ci, (lookup_some found).1, h⟩

theorem mem_peerActivatedDispatch {connId : Nat} {d : QueuedDispatch}
    (h : d ∈ peerActivatedDispatch s connId) : ∃ ci ∈ s.connections, d ∈ othersDispatch s ci := by
  simp only [peerActivatedDispatch] at h
  split at h
  · cases h
  · rename_i ci found
    exact ⟨ci, (lookup_some found).1, h⟩

/-! Once the dispatch thread is told to stop, nothing is staged any more. -/

@[simp] theorem basicDispatch_stopped {ctx : NpSignalingContext} {connId : Nat}
    {eventType : SignalingEvent} {errorCode : Option SignalingError} {serial : Nat} :
    basicDispatch true ctx connId eventType errorCode serial = [] := by
  unfold basicDispatch
  cases ctx.callback <;> rfl

theorem connectionDispatch_stopped {connId : Nat} {eventType : SignalingEvent}
    {errorCode : Option SignalingError} (stop : s.dispatchStop = true) :
    connectionDispatch s connId eventType errorCode = [] := by
  simp only [connectionDispatch, ownDispatch, stop, basicDispatch_stopped, ite_self]
  split
  · rfl
  · split <;> rfl

theorem peerActivatedDispatch_stopped {connId : Nat} (stop : s.dispatchStop = true) :
    peerActivatedDispatch s connId = [] := by
  simp only [peerActivatedDispatch, othersDispatch, stop, basicDispatch_stopped, ite_self]
  split
  · rfl
  · exact List.flatMap_eq_nil_iff.mpr (fun _ _ => rfl)

theorem kept_stage {news : List QueuedDispatch} (stopped : s.dispatchStop = true → news = [])
    (owned : ∀ d ∈ news, ∃ ci ∈ s.connections, ci.serial = d.serial) :
    Kept Steady s (s.stage news) :=
  { Kept.refl composable_steady s with
    stopped := fun stop => by rw [stopped stop, stage_nil]
    staged := ⟨news, rfl, owned⟩ }

theorem kept_dispatch (connId : Nat) (eventType : SignalingEvent)
    (errorCode : Option SignalingError) :
    Kept Steady s (dispatchConnectionEvent connId eventType errorCode s) := by
  rw [dispatchConnectionEvent_eq]
  apply kept_stage connectionDispatch_stopped
  intro d hd
  obtain ⟨ci, member, own⟩ := mem_connectionDispatch hd
  exact ⟨ci, member, (mem_ownDispatch own).1.symm⟩

theorem kept_dispatchPeerActivated (connId : Nat) :
    Kept Steady s (dispatchPeerActivatedEvent connId s) := by
  rw [dispatchPeerActivatedEvent_eq]
  apply kept_stage peerActivatedDispatch_stopped
  intro d hd
  obtain ⟨ci, member, others⟩ := mem_peerActivatedDispatch hd
  exact ⟨ci, member, (mem_othersDispatch others).1.symm⟩

/-! ### Matching2 -/

/-- Only the matching2 caches and the matching2 event queue differ. -/
def OnlyMatching2 (s s' : NpSignalingState) : Prop :=
  ∃ caches matching2Events, s' = { s with caches, matching2Events }

theorem OnlyMatching2.refl (s : NpSignalingState) : OnlyMatching2 s s := ⟨_, _, rfl⟩

theorem OnlyMatching2.trans {s s' s'' : NpSignalingState} (first : OnlyMatching2 s s')
    (second : OnlyMatching2 s' s'') : OnlyMatching2 s s'' := by
  obtain ⟨_, _, rfl⟩ := first
  obtain ⟨caches, events, rfl⟩ := second
  exact ⟨caches, events, rfl⟩

theorem OnlyMatching2.foldl {β : Type} {f : NpSignalingState → β → NpSignalingState}
    (each : ∀ s b, OnlyMatching2 s (f s b)) (items : List β) (s : NpSignalingState) :
    OnlyMatching2 s (items.foldl f s) := by
  induction items generalizing s with
  | nil => exact OnlyMatching2.refl s
  | cons b rest ih => exact (each s b).trans (ih (f s b))

theorem OnlyMatching2.kept {s' : NpSignalingState} (only : OnlyMatching2 s s') :
    Kept Steady s s' := by
  obtain ⟨caches, events, rfl⟩ := only
  exact { Kept.refl composable_steady s with }

theorem onlyMatching2_caches (caches : List Matching2ContextCache) :
    OnlyMatching2 s { s with caches } := ⟨_, _, rfl⟩

theorem onlyMatching2_event (ctx : ContextObject) (roomId memberId : Nat) (established : Bool)
    (errorCode : Matching2Error) :
    OnlyMatching2 s (queueMatching2SignalingEvent ctx roomId memberId established errorCode s) := by
  unfold queueMatching2SignalingEvent
  split
  · exact ⟨_, _, rfl⟩
  · exact OnlyMatching2.refl s

theorem onlyMatching2_deadForContext (transportId : Nat) (errorCode : Matching2Error)
    (ctx : ContextObject) :
    OnlyMatching2 s (queueMatching2DeadForContext transportId errorCode ctx s) := by
  unfold queueMatching2DeadForContext
  cases lookup Matching2ContextCache.ctxId ctx.ctxId s.caches with
  | none => exact OnlyMatching2.refl s
  | some cache =>
    dsimp only
    apply (onlyMatching2_caches _).trans
    apply OnlyMatching2.foldl
    intro s peer
    cases roomOfMember cache peer.memberId with
    | none => exact OnlyMatching2.refl s
    | some room =>
      dsimp only
      split
      · exact onlyMatching2_event ctx room.roomId peer.memberId false errorCode
      · exact OnlyMatching2.refl s

theorem onlyMatching2_dead (transportId : Nat) (errorCode : Matching2Error) :
    OnlyMatching2 s (queueMatching2DeadForTransport transportId errorCode s) :=
  OnlyMatching2.foldl (fun _ ctx => onlyMatching2_deadForContext transportId errorCode ctx)
    s.contextObjects s

theorem onlyMatching2_updatePeer (ctxId memberId : Nat) (f : PeerInfo → PeerInfo) :
    OnlyMatching2 s (updatePeer ctxId memberId f s) := ⟨_, _, rfl⟩

theorem onlyMatching2_syncSnapshot (now : Int) (snapshot : Snapshot) :
    OnlyMatching2 s (syncSnapshotLocked now snapshot s) := by
  unfold syncSnapshotLocked
  cases s.contextObject? snapshot.ctx.ctxId with
  | none => exact OnlyMatching2.refl s
  | some ctx =>
    dsimp only
    split
    · split
      · exact (onlyMatching2_updatePeer _ _ _).trans (onlyMatching2_event _ _ _ _ _)
      · exact onlyMatching2_updatePeer _ _ _
    · exact OnlyMatching2.refl s

/-! ### Closing, establishing, packets -/

theorem setInactive_quiet (t : PeerTransport) :
    Quiet t (setTransportStateLocked .inactive t) :=
  ⟨fun _ => rfl, fun established => nomatch established⟩

theorem kept_setInactive (transportId : Nat) :
    Kept Quiet s (s.adjustTransport transportId (setTransportStateLocked .inactive)) :=
  kept_adjustTransport composable_quiet transportId
    (fun t _ _ => ⟨rfl, sameTransport_set .inactive t, setInactive_quiet t⟩)

theorem kept_closeConnection (connId : Nat) : Kept Quiet s (closeConnectionLocked connId s).2 := by
  unfold closeConnectionLocked
  cases s.connection? connId with
  | none => exact Kept.refl composable_quiet s
  | some ci =>
    dsimp only
    split
    · exact Kept.refl composable_quiet s
    · exact (kept_setInactive ci.transportId).trans composable_quiet
        (kept_adjustConnection composable_quiet connId
          (fun _ _ _ => ⟨rfl, rfl, rfl, rfl, rfl, fun _ => rfl⟩))

theorem kept_closeTransport (transportId : Nat) :
    Kept Quiet s (closeTransportLocked transportId s).2 := by
  unfold closeTransportLocked
  cases s.transport? transportId with
  | none => exact Kept.refl composable_quiet s
  | some transport =>
    dsimp only
    split
    · exact Kept.refl composable_quiet s
    · apply (kept_setInactive transportId).trans composable_quiet
      apply kept_mapConnections composable_quiet
      intro ci _
      split
      · exact ⟨rfl, rfl, rfl, rfl, rfl, fun _ => rfl⟩
      · exact ⟨rfl, SameConnection.refl ci⟩

theorem establishTransport_fired {hint : Bool} {now : Int} {t : PeerTransport}
    (fired : t.transportEstablishedFired = true) :
    establishTransport hint now t = { t with peerActivated := hint || t.peerActivated } := by
  unfold establishTransport
  cases t
  cases hint <;> simp_all

theorem establishTransport_fresh {hint : Bool} {now : Int} {t : PeerTransport}
    (fresh : t.transportEstablishedFired = false) :
    establishTransport hint now t =
      { setTransportStateLocked .established t with
        peerActivated := hint || t.peerActivated
        transportEstablishedFired := true
        lastPeerRxUs := now } := by
  unfold establishTransport setTransportStateLocked
  cases hint <;> simp [fresh]

theorem establishTransport_same (hint : Bool) (now : Int) (t : PeerTransport) :
    (establishTransport hint now t).transportId = t.transportId ∧
      SameTransport t (establishTransport hint now t) := by
  cases fired : t.transportEstablishedFired with
  | false =>
    rw [establishTransport_fresh fired]
    exact ⟨rfl, rfl, fun _ => rfl⟩
  | true =>
    rw [establishTransport_fired fired]
    exact ⟨rfl, sameTransport_of_state rfl rfl rfl⟩

theorem kept_establish {R : PeerTransport → PeerTransport → Prop} (hR : Composable R)
    (transportId : Nat) (peerActivatedHint : Bool) (now : Int)
    (established : ∀ t ∈ s.peerTransports, t.transportId = transportId →
      R t (establishTransport peerActivatedHint now t)) :
    Kept R s (establishConnectionLocked transportId peerActivatedHint now s).2 := by
  unfold establishConnectionLocked
  cases s.transport? transportId with
  | none => exact Kept.refl hR s
  | some transport =>
    have adjusted : Kept R s (s.adjustTransport transportId
        (establishTransport peerActivatedHint now)) := by
      apply kept_adjustTransport hR
      intro t ht same
      obtain ⟨sameId, sameT⟩ := establishTransport_same peerActivatedHint now t
      exact ⟨sameId, sameT, established t ht same⟩
    apply adjusted.trans hR
    apply kept_mapConnections hR
    intro ci _
    split
    · exact ⟨rfl, rfl, rfl, rfl, rfl, id⟩
    · exact ⟨rfl, SameConnection.refl ci⟩

theorem establishTransport_noRevival {hint : Bool} {now : Int} {t : PeerTransport}
    (fired : t.state = .inactive → t.transportEstablishedFired = true) :
    NoRevival t (establishTransport hint now t) := by
  intro inactive
  rw [establishTransport_fired (fired inactive)]
  exact inactive

theorem kept_activationResolved (connId : Nat) (addr : UInt32) (port : UInt16) :
    Kept Steady s (activationResolvedLocked connId addr port s).2 := by
  unfold activationResolvedLocked
  cases liveConnection? connId s with
  | none => exact Kept.refl composable_steady s
  | some ci =>
    dsimp only
    cases s.transport? ci.transportId with
    | none => exact Kept.refl composable_steady s
    | some transport =>
      have moved : Kept Steady s (s.adjustTransport ci.transportId
          (fun t => { t with addr, port })) :=
        kept_adjustTransport composable_steady _
          (fun t _ _ => ⟨rfl, sameTransport_of_state rfl rfl rfl, steady_of_state rfl⟩)
      have synced : Kept Steady s ((s.adjustTransport ci.transportId
          (fun t => { t with addr, port })).adjustConnection connId
            (syncSig1StatusLocked transport)) :=
        moved.trans composable_steady
          (kept_adjustConnection composable_steady connId
          (fun _ _ _ => ⟨rfl, rfl, rfl, rfl, rfl, id⟩))
      exact synced.trans composable_steady (kept_sendActivate ci)

theorem setPending_steady {t : PeerTransport} (live : t.state ≠ .inactive)
    (fresh : t.state ≠ .established) {newState : ConnState} (live' : newState ≠ .inactive)
    (fresh' : newState ≠ .established) : Steady t (setTransportStateLocked newState t) :=
  (statusFromState_pending live' fresh').trans (statusFromState_pending live fresh).symm

theorem acceptExpected_fresh {state : ConnState} (expected : acceptExpected state = true) :
    state ≠ .established := by
  rintro rfl
  cases expected

/-- What `handshakeTransport` may do to a transport that was found by its online id. -/
theorem handshakeTransport_kept (fromAddr : UInt32) (fromPort : UInt16)
    (packet : SignalingHandshake) (now : Int) (t : PeerTransport) :
    (handshakeTransport fromAddr fromPort packet now t).transportId = t.transportId ∧
      SameTransport t (handshakeTransport fromAddr fromPort packet now t) ∧
      (t.state ≠ .inactive → Steady t (handshakeTransport fromAddr fromPort packet now t)) := by
  simp only [handshakeTransport]
  cases packet.kind with
  | offer =>
    simp only [handleOffer]
    by_cases established : t.state = .established
    · rw [if_neg (not_not.mpr established)]
      exact ⟨rfl, sameTransport_of_state rfl rfl rfl, fun _ => steady_of_state rfl⟩
    · rw [if_pos established]
      exact ⟨rfl, ⟨rfl, fun _ => rfl⟩,
        fun live => setPending_steady live established (by decide) (by decide)⟩
  | accept =>
    simp only [handleAccept]
    by_cases expected : acceptExpected t.state
    · rw [if_pos expected]
      exact ⟨rfl, ⟨rfl, fun _ => rfl⟩, fun live =>
        setPending_steady live (acceptExpected_fresh expected) (by decide) (by decide)⟩
    · rw [if_neg expected]
      exact ⟨rfl, sameTransport_of_state rfl rfl rfl, fun _ => steady_of_state rfl⟩
  | check =>
    simp only [handleCheck]
    by_cases waiting : t.state = .sendingAccept ∨ t.state = .waitOffer
    · rw [if_pos waiting]
      have fresh : t.state ≠ .established := by
        rintro established
        simp [established] at waiting
      exact ⟨rfl, ⟨rfl, fun _ => rfl⟩,
        fun live => setPending_steady live fresh (by decide) (by decide)⟩
    · rw [if_neg waiting]
      exact ⟨rfl, sameTransport_of_state rfl rfl rfl, fun _ => steady_of_state rfl⟩
  | checkAck =>
    simp only [handleCheckAck]
    split
    · exact ⟨rfl, sameTransport_of_state rfl rfl rfl, fun _ => steady_of_state rfl⟩
    · exact ⟨rfl, sameTransport_of_state rfl rfl rfl, fun _ => steady_of_state rfl⟩
  | other code =>
    exact ⟨rfl, sameTransport_of_state rfl rfl rfl, fun _ => steady_of_state rfl⟩

theorem findTransport_some {onlineId : List UInt8} {t : PeerTransport}
    (h : findTransportByOnlineIdLocked onlineId s = some t) :
    t ∈ s.peerTransports ∧ t.state ≠ .inactive ∧ onlineIdToString t.onlineId = onlineId := by
  unfold findTransportByOnlineIdLocked at h
  have found := List.find?_some h
  have split : t.state ≠ .inactive ∧ onlineIdToString t.onlineId = onlineId := by
    simpa [transportMatchesOnlineId] using found
  exact ⟨List.mem_of_find?_eq_some h, split⟩

theorem findTransport_none {onlineId : List UInt8}
    (h : findTransportByOnlineIdLocked onlineId s = none) :
    ∀ t ∈ s.peerTransports, t.state ≠ .inactive → onlineIdToString t.onlineId ≠ onlineId := by
  intro t ht live same
  have unmatched := List.find?_eq_none.mp h t ht
  simp [transportMatchesOnlineId, live, same] at unmatched

theorem findConnection_some {onlineId : List UInt8} {preferredCtxId : Nat} {ci : ConnectionInfo}
    (h : findConnectionByOnlineIdLocked onlineId preferredCtxId s = some ci) :
    ci ∈ s.connections ∧ connectionMatchesOnlineId ci onlineId = true := by
  simp only [findConnectionByOnlineIdLocked] at h
  split at h
  · rename_i preferred
    obtain rfl := Option.some.inj h
    split at preferred
    · have found := List.find?_some preferred
      exact ⟨List.mem_of_find?_eq_some preferred, ((Bool.and_eq_true _ _).mp found).2⟩
    · cases preferred
  · have found := List.find?_some h
    exact ⟨List.mem_of_find?_eq_some h, found⟩

theorem kept_handshake (distinct : Distinct PeerTransport.transportId s.peerTransports)
    (fromAddr : UInt32) (fromPort : UInt16) (packet : SignalingHandshake) (now : Int) :
    Kept Steady s (handleHandshakeLocked fromAddr fromPort packet now s).2 := by
  unfold handleHandshakeLocked
  cases found : findTransportByOnlineIdLocked (packetOnlineIdToString packet.onlineIdFrom) s with
  | none => exact Kept.refl composable_steady s
  | some transport =>
    obtain ⟨member, live, -⟩ := findTransport_some found
    have adjusted : Kept Steady s (s.adjustTransport transport.transportId
        (handshakeTransport fromAddr fromPort packet now)) := by
      apply kept_adjustTransport composable_steady
      intro t ht same
      rw [distinct.eq_of_key ht member same]
      obtain ⟨sameId, sameT, steady⟩ :=
        handshakeTransport_kept fromAddr fromPort packet now transport
      exact ⟨sameId, sameT, steady live⟩
    exact adjusted.trans composable_steady (kept_sync transport.transportId)

theorem kept_chargeContext (ctxId : Nat) (now : Int) :
    Kept Steady s (chargeContext ctxId now s) := by
  refine { Kept.refl composable_steady s with
    contexts := updated_adjust SameContext.refl (fun ctx _ _ => ?_) }
  unfold consumeActivationBudgetGatedLocked consumeActivationBudgetLocked
  by_cases old : ctx.compiledSdkVersion < fw170
  · rw [if_pos old]
    exact ⟨rfl, SameContext.refl ctx⟩
  · rw [if_neg old]
    extract_lets elapsed budget
    by_cases short : budget < kActivateCooldownUs
    · rw [if_pos short]
      exact ⟨rfl, rfl, rfl, rfl, rfl, rfl⟩
    · rw [if_neg short]
      exact ⟨rfl, rfl, rfl, rfl, rfl, rfl⟩

end Sections

end NpSignaling
