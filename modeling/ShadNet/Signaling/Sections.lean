import ShadNet.Signaling.Coherent

/-!
# The critical sections of the runtime

Every operation is a program of the sections listed in `Section`. A section that
makes or removes records is described by `Evolves` as a chain of elementary
changes, so an invariant of the runtime needs one argument for each elementary
change and one for each section named here, whatever program it occurs in.
-/

namespace NpSignaling

open KeyedTable LockProgram

/-- A transport made under a free id while no live one has its online id. -/
def CreatesTransport (s s' : NpSignalingState) : Prop :=
  ∃ t transportIdSeed, t.transportId ≠ 0 ∧ s.transport? t.transportId = none ∧
    t.state = .sendingOffer ∧ t.status = .pending ∧ t.transportEstablishedFired = false ∧
    (∀ other ∈ s.peerTransports, other.state ≠ .inactive →
      onlineIdToString other.onlineId ≠ onlineIdToString t.onlineId) ∧
    s' = { s with
      transportIdSeed
      peerTransports := store PeerTransport.transportId t s.peerTransports }

/-- The entry of the index that belongs to a connection. -/
def entryOf (ci : ConnectionInfo) : NpidEntry := ⟨⟨ci.ctxId, ci.npid⟩, ci.connId⟩

/-- Elementary changes in sequence, with the connections made on the way. The index is only
written for one of these, or where the entry is there already. -/
inductive Evolves (R : PeerTransport → PeerTransport → Prop) :
    List ConnectionInfo → NpSignalingState → NpSignalingState → Prop where
  | refl (s : NpSignalingState) : Evolves R [] s s
  | kept {made : List ConnectionInfo} {s s' s'' : NpSignalingState} :
      Evolves R made s s' → Kept R s' s'' → Evolves R made s s''
  | removed {made : List ConnectionInfo} {s s' : NpSignalingState} (connId : Nat) :
      Evolves R made s s' → Evolves R made s (removeConnectionLocked connId s')
  | created {made : List ConnectionInfo} {s s' s'' : NpSignalingState} :
      Evolves R made s s' → CreatesTransport s' s'' → Evolves R made s s''
  | inserted {made : List ConnectionInfo} {s s' : NpSignalingState} (ci : ConnectionInfo)
      (connId : ci.connId ≠ 0) (free : s'.connection? ci.connId = none)
      (serial : ci.serial = s'.connectionsMade)
      (owner : ∃ ctx ∈ s'.contexts, ctx.ctxId = ci.ctxId) (handle : ci.onlineId = ci.npid.handle) :
      Evolves R made s s' → Evolves R (made ++ [ci]) s (insertConnection ci s')
  | indexed {made : List ConnectionInfo} {s s' : NpSignalingState} (ci : ConnectionInfo)
      (member : ci ∈ s'.connections) (own : ci ∈ made ∨ entryOf ci ∈ s'.npidToConn) :
      Evolves R made s s' →
        Evolves R made s (indexConnection ci.ctxId ci.npid ci.connId s')

section Evolves

variable {R : PeerTransport → PeerTransport → Prop} {made later : List ConnectionInfo}
  {s s' s'' : NpSignalingState}

theorem Evolves.of_kept (kept : Kept R s s') : Evolves R [] s s' :=
  (Evolves.refl s).kept kept

theorem Evolves.trans (first : Evolves R made s s') (second : Evolves R later s' s'') :
    Evolves R (made ++ later) s s'' := by
  induction second with
  | refl _ =>
    rw [List.append_nil]
    exact first
  | kept _ kept ih => exact (ih first).kept kept
  | removed connId _ ih => exact (ih first).removed connId
  | created _ created ih => exact (ih first).created created
  | inserted ci connId free serial owner handle _ ih =>
    rw [← List.append_assoc]
    exact (ih first).inserted ci connId free serial owner handle
  | indexed ci member own _ ih =>
    exact (ih first).indexed ci member (own.imp_left (List.mem_append_right _))

theorem Evolves.then_ (first : Evolves R [] s s') (second : Evolves R made s' s'') :
    Evolves R made s s'' :=
  first.trans second

theorem Evolves.coherent (evolves : Evolves R made s s') (coherent : Coherent s) :
    Coherent s' := by
  induction evolves with
  | refl _ => exact coherent
  | kept _ kept ih => exact (ih coherent).of_kept kept
  | removed connId _ ih => exact (ih coherent).removeConnection connId
  | created _ created ih =>
    obtain ⟨t, seed, nonzero, -, state, status, -, -, rfl⟩ := created
    have stored := (ih coherent).storeTransport nonzero (by rw [state, status]; rfl)
    exact { stored with }
  | inserted ci connId free serial owner handle _ ih =>
    exact (ih coherent).insert connId free serial owner handle
  | indexed ci member _ _ ih => exact (ih coherent).index member

/-- Contexts are neither made nor removed on the way. -/
theorem Evolves.context (evolves : Evolves R made s s') {ctx : NpSignalingContext}
    (member : ctx ∈ s.contexts) :
    ∃ ctx' ∈ s'.contexts, ctx'.ctxId = ctx.ctxId ∧ SameContext ctx ctx' := by
  induction evolves with
  | refl _ => exact ⟨ctx, member, rfl, SameContext.refl ctx⟩
  | kept _ kept ih =>
    obtain ⟨ctx₁, member₁, sameId₁, same₁⟩ := ih member
    obtain ⟨ctx₂, member₂, sameId₂, same₂⟩ := kept.contexts.mem_old member₁
    exact ⟨ctx₂, member₂, sameId₂.trans sameId₁, same₁.trans same₂⟩
  | removed connId _ ih =>
    obtain ⟨npidToConn, removed⟩ := removeConnection_eq connId _
    rw [removed]
    exact ih member
  | created _ created ih =>
    obtain ⟨t, seed, -, -, -, -, -, -, rfl⟩ := created
    exact ih member
  | inserted ci connId free serial owner handle _ ih => exact ih member
  | indexed ci _ _ _ ih => exact ih member

theorem Evolves.mono {R' : PeerTransport → PeerTransport → Prop}
    (weaker : ∀ t t', R t t' → R' t t') (evolves : Evolves R made s s') :
    Evolves R' made s s' := by
  induction evolves with
  | refl s => exact Evolves.refl s
  | kept _ kept ih => exact ih.kept (kept.mono weaker)
  | removed connId _ ih => exact ih.removed connId
  | created _ created ih => exact ih.created created
  | inserted ci connId free serial owner handle _ ih =>
    exact ih.inserted ci connId free serial owner handle
  | indexed ci member own _ ih => exact ih.indexed ci member own

theorem Evolves.quiet (evolves : Evolves Steady made s s') : Evolves Quiet made s s' :=
  evolves.mono (fun _ _ => Steady.quiet)

/-- What holds of a connection that is about to be made. -/
structure NewConnection (ci : ConnectionInfo) (s : NpSignalingState) : Prop where
  connId : ci.connId ≠ 0
  free : s.connection? ci.connId = none
  serial : ci.serial = s.connectionsMade
  owner : ∃ ctx ∈ s.contexts, ctx.ctxId = ci.ctxId
  handle : ci.onlineId = ci.npid.handle

/-- A connection is made and left out of the index. -/
def Inserts (ci : ConnectionInfo) (s s' : NpSignalingState) : Prop :=
  ∃ s₁, Evolves Steady [] s s₁ ∧ NewConnection ci s₁ ∧ s' = insertConnection ci s₁

/-- A connection is made and put into the index. -/
def Makes (ci : ConnectionInfo) (s s' : NpSignalingState) : Prop :=
  ∃ s₁, Evolves Steady [] s s₁ ∧ NewConnection ci s₁ ∧
    Kept Steady (indexConnection ci.ctxId ci.npid ci.connId (insertConnection ci s₁)) s'

variable {ci : ConnectionInfo}

theorem Evolves.insert {s₁ : NpSignalingState} (evolves : Evolves Steady [] s s₁)
    (new : NewConnection ci s₁) : Evolves Steady [ci] s (insertConnection ci s₁) :=
  evolves.inserted ci new.connId new.free new.serial new.owner new.handle

theorem Inserts.evolves (inserts : Inserts ci s s') : Evolves Steady [ci] s s' := by
  obtain ⟨s₁, before, new, rfl⟩ := inserts
  exact before.insert new

theorem Makes.evolves (makes : Makes ci s s') : Evolves Steady [ci] s s' := by
  obtain ⟨s₁, before, new, after⟩ := makes
  have inserted := before.insert new
  have own : ci ∈ [ci] := List.mem_singleton_self ci
  exact (inserted.indexed ci (mem_store.mpr (Or.inr rfl)) (Or.inl own)).kept after

theorem Makes.after (makes : Makes ci s' s'') (first : Evolves Steady [] s s') :
    Makes ci s s'' := by
  obtain ⟨s₁, before, new, after⟩ := makes
  exact ⟨s₁, first.then_ before, new, after⟩

theorem Makes.kept (makes : Makes ci s s') (kept : Kept Steady s' s'') : Makes ci s s'' := by
  obtain ⟨s₁, before, new, after⟩ := makes
  exact ⟨s₁, before, new, after.trans composable_steady kept⟩

end Evolves

/-! ## Making a transport -/

section Transports

variable {s s' : NpSignalingState}

theorem refreshTransport_kept (localOnlineId : OrbisNpOnlineId) {peerOnlineId : OrbisNpOnlineId}
    (peerNpid : OrbisNpId) (addr : UInt32) (port : UInt16) {t : PeerTransport}
    (live : t.state ≠ .inactive)
    (name : onlineIdToString t.onlineId = onlineIdToString peerOnlineId) :
    let t' := refreshTransport localOnlineId peerOnlineId peerNpid addr port t
    t'.transportId = t.transportId ∧ SameTransport t t' ∧ t'.state = t.state := by
  unfold refreshTransport
  by_cases noLocal : t.localOnlineId.first = 0 <;>
  by_cases noPeer : t.onlineId.first = 0 <;>
  by_cases endpoint : addr ≠ 0 ∧ port ≠ 0 <;>
  simp only [noLocal, noPeer, endpoint, live, if_true, if_false, not_false_eq_true, and_self,
    ne_eq, true_and, and_true] <;>
  first
    | exact sameTransport_of_state rfl rfl rfl
    | exact ⟨name.symm, id⟩

/-- The transport a call got its id from is live and has the online id it was asked for. -/
def LiveAs (s : NpSignalingState) (transportId : Nat) (name : List UInt8) : Prop :=
  ∃ t ∈ s.peerTransports, t.transportId = transportId ∧ t.state ≠ .inactive ∧
    onlineIdToString t.onlineId = name

theorem createTransport_evolves (localOnlineId peerOnlineId : OrbisNpOnlineId)
    (peerNpid : OrbisNpId) (addr : UInt32) (port : UInt16)
    (unused : ∀ t ∈ s.peerTransports, t.state ≠ .inactive →
      onlineIdToString t.onlineId ≠ onlineIdToString peerOnlineId) :
    let (transportId, s') := createTransportLocked localOnlineId peerOnlineId peerNpid addr port s
    Evolves Steady [] s s' ∧
      ∀ id, transportId = some id → LiveAs s' id (onlineIdToString peerOnlineId) := by
  unfold createTransportLocked
  cases allocated : allocateTransportIdLocked s with
  | mk transportId s₁ =>
    obtain ⟨seed, rfl⟩ := allocateTransportIdLocked_state allocated
    cases transportId with
    | none => exact ⟨Evolves.of_kept { Kept.refl composable_steady s with }, by simp⟩
    | some transportId =>
      obtain ⟨nonzero, free⟩ := allocateTransportIdLocked_free allocated
      refine ⟨(Evolves.refl s).created ⟨_, seed, nonzero, free, rfl, rfl, rfl, unused, rfl⟩, ?_⟩
      intro id same
      obtain rfl := Option.some.inj same
      exact ⟨_, mem_store.mpr (Or.inr rfl), rfl, by simp, rfl⟩

theorem ensureTransport_evolves (coherent : Coherent s)
    (localOnlineId peerOnlineId : OrbisNpOnlineId) (peerNpid : OrbisNpId) (addr : UInt32)
    (port : UInt16) :
    let (transportId, s') := ensureTransportLocked localOnlineId peerOnlineId peerNpid addr port s
    Evolves Steady [] s s' ∧
      ∀ id, transportId = some id → LiveAs s' id (onlineIdToString peerOnlineId) := by
  unfold ensureTransportLocked
  cases found : findTransportByOnlineIdLocked (onlineIdToString peerOnlineId) s with
  | none => exact createTransport_evolves _ _ _ _ _ (findTransport_none found)
  | some t =>
    obtain ⟨member, live, name⟩ := findTransport_some found
    obtain ⟨sameId, same, state⟩ :=
      refreshTransport_kept localOnlineId peerNpid addr port live name
    constructor
    · apply Evolves.of_kept
      apply kept_adjustTransport composable_steady
      intro other hother sameKey
      rw [coherent.peerTransports.eq_of_key hother member sameKey]
      exact ⟨sameId, same, steady_of_state state⟩
    · intro id h
      obtain rfl := Option.some.inj h
      refine ⟨_, mem_adjust_self member rfl, sameId, ?_, same.name.trans name⟩
      rw [state]
      exact live

/-- Apart from the transports nothing changes. -/
theorem ensureTransport_eq (localOnlineId peerOnlineId : OrbisNpOnlineId)
    (peerNpid : OrbisNpId) (addr : UInt32) (port : UInt16) (s : NpSignalingState) :
    ∃ peerTransports transportIdSeed,
      (ensureTransportLocked localOnlineId peerOnlineId peerNpid addr port s).2 =
        { s with peerTransports, transportIdSeed } := by
  unfold ensureTransportLocked createTransportLocked
  cases findTransportByOnlineIdLocked (onlineIdToString peerOnlineId) s with
  | some t => exact ⟨_, s.transportIdSeed, rfl⟩
  | none =>
    cases allocated : allocateTransportIdLocked s with
    | mk transportId s₁ =>
      obtain ⟨seed, rfl⟩ := allocateTransportIdLocked_state allocated
      cases transportId with
      | none => exact ⟨s.peerTransports, seed, rfl⟩
      | some transportId => exact ⟨_, seed, rfl⟩

theorem ensureTransport_kept_connections (localOnlineId peerOnlineId : OrbisNpOnlineId)
    (peerNpid : OrbisNpId) (addr : UInt32) (port : UInt16) (s : NpSignalingState) :
    (ensureTransportLocked localOnlineId peerOnlineId peerNpid addr port s).2.connections =
      s.connections := by
  obtain ⟨_, _, only⟩ := ensureTransport_eq localOnlineId peerOnlineId peerNpid addr port s
  rw [only]

theorem ensureTransport_kept_index (localOnlineId peerOnlineId : OrbisNpOnlineId)
    (peerNpid : OrbisNpId) (addr : UInt32) (port : UInt16) (s : NpSignalingState) :
    (ensureTransportLocked localOnlineId peerOnlineId peerNpid addr port s).2.npidToConn =
      s.npidToConn := by
  obtain ⟨_, _, only⟩ := ensureTransport_eq localOnlineId peerOnlineId peerNpid addr port s
  rw [only]

end Transports

/-! ## Local activation -/

section Activation

variable {s : NpSignalingState}

theorem reuseConnection_cases (coherent : Coherent s) (key : CtxNpIdKey) :
    ((reuseConnectionLocked key s).1 = none ∧
        Evolves Steady [] s (reuseConnectionLocked key s).2) ∨
      ∃ ci ∈ s.connections, reuseConnectionLocked key s = (some ci, s) ∧
        ci.ctxId = key.ctxId ∧ ci.npid = key.npid ∧ entryOf ci ∈ s.npidToConn := by
  unfold reuseConnectionLocked
  cases indexed : s.indexed? key with
  | none => exact Or.inl ⟨rfl, Evolves.refl s⟩
  | some entry =>
    obtain ⟨he, rfl⟩ := lookup_some indexed
    dsimp only
    cases found : s.connection? entry.connId with
    | none => exact Or.inl ⟨rfl, Evolves.refl s⟩
    | some ci =>
      dsimp only
      by_cases inactive : ci.status = .inactive
      · rw [if_pos inactive]
        exact Or.inl ⟨rfl, (Evolves.refl s).removed entry.connId⟩
      · rw [if_neg inactive]
        obtain ⟨member, sameConn⟩ := lookup_some found
        obtain ⟨ci', member', sameConn', ctxId, npid⟩ := coherent.indexed entry he
        have same : ci' = ci :=
          coherent.connections.eq_of_key member' member (sameConn'.trans sameConn.symm)
        subst same
        refine Or.inr ⟨ci', member, rfl, ctxId, npid, ?_⟩
        rw [entryOf, ctxId, npid, sameConn']
        exact he

theorem localConnection_fields (connId ctxId : Nat) (peerNpid : OrbisNpId)
    (peerOnlineId : OrbisNpOnlineId) (transport : PeerTransport) (serial : Nat) :
    let ci := localConnection connId ctxId peerNpid peerOnlineId transport serial
    ci.connId = connId ∧ ci.ctxId = ctxId ∧ ci.npid = peerNpid ∧ ci.onlineId = peerOnlineId ∧
      ci.serial = serial := by
  unfold localConnection
  dsimp only
  split <;> exact ⟨rfl, rfl, rfl, rfl, rfl⟩

theorem createLocalConnection_cases {ctxId : Nat} (peerNpid : OrbisNpId)
    (transport : PeerTransport) (random : UInt32)
    (owner : ∃ ctx ∈ s.contexts, ctx.ctxId = ctxId) :
    let result := createLocalConnectionLocked ctxId peerNpid peerNpid.handle transport random s
    (result.1 = none ∧ Evolves Steady [] s result.2) ∨
      ∃ ci, ci.ctxId = ctxId ∧ ci.npid = peerNpid ∧ Makes ci s result.2 := by
  unfold createLocalConnectionLocked
  cases allocated : allocateConnectionIdLocked random s with
  | mk connId s₁ =>
    obtain ⟨seed, rfl⟩ := allocateConnectionIdLocked_state allocated
    have seeded : Evolves Steady [] s { s with connectionIdSeed := seed } :=
      Evolves.of_kept { Kept.refl composable_steady s with }
    cases connId with
    | none => exact Or.inl ⟨rfl, seeded⟩
    | some connId =>
      obtain ⟨nonzero, free⟩ := allocateConnectionIdLocked_free allocated
      let ci := localConnection connId ctxId peerNpid peerNpid.handle transport s.connectionsMade
      obtain ⟨sameConn, sameCtx, npid, onlineId, serial⟩ := localConnection_fields connId ctxId
        peerNpid peerNpid.handle transport s.connectionsMade
      have new : NewConnection ci { s with connectionIdSeed := seed } :=
        { connId := sameConn ▸ nonzero
          free := sameConn ▸ free
          serial
          owner := sameCtx ▸ owner
          handle := by rw [onlineId, npid] }
      refine Or.inr ⟨ci, sameCtx, npid, _, seeded, new, ?_⟩
      rw [sameConn, sameCtx, npid]
      exact kept_queueActivation _ _ _

theorem resumedTransport_kept {t : PeerTransport} (live : t.state ≠ .inactive) :
    (resumedTransport t).transportId = t.transportId ∧ SameTransport t (resumedTransport t) ∧
      Steady t (resumedTransport t) := by
  unfold resumedTransport restartTransport
  by_cases established : t.state = .established
  · rw [if_pos established]
    exact ⟨rfl, SameTransport.refl t, steady_of_state rfl⟩
  · rw [if_neg established]
    by_cases waiting : t.state = .inactive ∨ t.state = .waitOffer
    · rw [if_pos waiting]
      exact ⟨rfl, sameTransport_set .sendingOffer t,
        setPending_steady live established (by decide) (by decide)⟩
    · rw [if_neg waiting]
      exact ⟨rfl, SameTransport.refl t, steady_of_state rfl⟩

theorem reactivateConnection_evolves (coherent : Coherent s) {ci : ConnectionInfo}
    (member : ci ∈ s.connections) (known : entryOf ci ∈ s.npidToConn) {transport : PeerTransport}
    (memberT : transport ∈ s.peerTransports) (live : transport.state ≠ .inactive) :
    Evolves Steady [] s
      (reactivateConnectionLocked ci ci.ctxId ci.npid ci.npid.handle transport s) := by
  unfold reactivateConnectionLocked
  extract_lets s₁
  suffices activated : Evolves Steady [] s s₁ by
    split
    · exact activated
    · exact activated.kept (kept_queueActivation _ _ _)
  let g := reactivatedConnection ci.ctxId ci.npid ci.npid.handle (resumedTransport transport)
  have resumed : Kept Steady s (s.adjustTransport transport.transportId resumedTransport) := by
    apply kept_adjustTransport composable_steady
    intro t ht sameId
    rw [coherent.peerTransports.eq_of_key ht memberT sameId]
    exact resumedTransport_kept live
  have adjusted : Kept Steady s
      ((s.adjustTransport transport.transportId resumedTransport).adjustConnection ci.connId g) := by
    apply resumed.trans composable_steady
    apply kept_adjustConnection composable_steady
    intro other hother sameId
    rw [coherent.connections.eq_of_key hother member sameId]
    exact ⟨rfl, rfl, rfl, (coherent.handles ci member).symm, rfl, id⟩
  have updated : g ci ∈ ((s.adjustTransport transport.transportId
      resumedTransport).adjustConnection ci.connId g).connections := mem_adjust_self member rfl
  exact (Evolves.of_kept adjusted).indexed (g ci) updated (Or.inr known)

/-- `ActivateSig1` gets past its checks. -/
def activationAllowed (ctxId : Nat) (peerNpid : OrbisNpId) (now : Int) (s : NpSignalingState) :
    Prop :=
  s.initialized = true ∧ ∃ ctx ∈ s.context? ctxId, ctx.active = true ∧
    ctx.ownerNpid ≠ peerNpid ∧ (consumeActivationBudgetGatedLocked now ctx).1 = true

theorem activateSig1_cases (coherent : Coherent s) (ctxId : Nat) (peerNpid : OrbisNpId)
    (random : UInt32) (now : Int) :
    let s' := (activateSig1Locked ctxId peerNpid peerNpid.handle random now s).2
    let reused := reuseConnectionLocked ⟨ctxId, peerNpid⟩ (chargeContext ctxId now s)
    Evolves Steady [] s s' ∨
      ∃ ci, ci.ctxId = ctxId ∧ ci.npid = peerNpid ∧ activationAllowed ctxId peerNpid now s ∧
        reused.1 = none ∧ Makes ci reused.2 s' := by
  dsimp only
  unfold activateSig1Locked
  by_cases off : s.initialized = false
  · rw [if_pos off]
    exact Or.inl (Evolves.refl s)
  rw [if_neg off]
  cases foundCtx : s.context? ctxId with
  | none => exact Or.inl (Evolves.refl s)
  | some ctx =>
    obtain ⟨memberCtx, sameCtx⟩ := lookup_some foundCtx
    dsimp only
    by_cases idle : ctx.active = false
    · rw [if_pos idle]
      exact Or.inl (Evolves.refl s)
    rw [if_neg idle]
    by_cases own : ctx.ownerNpid = peerNpid
    · rw [if_pos own]
      exact Or.inl (Evolves.refl s)
    rw [if_neg own]
    have charged : Kept Steady s (chargeContext ctxId now s) := kept_chargeContext ctxId now
    have coherent₁ := coherent.of_kept charged
    by_cases limited : (consumeActivationBudgetGatedLocked now ctx).1 = false
    · rw [if_pos limited]
      exact Or.inl (Evolves.of_kept charged)
    rw [if_neg limited]
    obtain ⟨none₁, evolves₁⟩ | ⟨ci, member, reuse, hctx, hnpid, known⟩ :=
      reuseConnection_cases coherent₁ ⟨ctxId, peerNpid⟩
    · -- no connection to reuse: one is made unless an id runs out
      cases reuse : reuseConnectionLocked ⟨ctxId, peerNpid⟩ (chargeContext ctxId now s) with
      | mk existing s₂ =>
        rw [reuse] at none₁ evolves₁
        obtain rfl : existing = none := none₁
        have soFar : Evolves Steady [] s s₂ := (Evolves.of_kept charged).then_ evolves₁
        have ensured := ensureTransport_evolves (soFar.coherent coherent) ctx.ownerOnlineId
          peerNpid.handle peerNpid 0 0
        cases ensure : ensureTransportLocked ctx.ownerOnlineId peerNpid.handle peerNpid 0 0 s₂ with
        | mk transportId s₃ =>
          rw [ensure] at ensured
          obtain ⟨evolves₃, -⟩ := ensured
          cases transportId with
          | none => exact Or.inl (soFar.then_ evolves₃)
          | some transportId =>
            dsimp only
            cases s₃.transport? transportId with
            | none => exact Or.inl (soFar.then_ evolves₃)
            | some transport =>
              dsimp only
              have owner : ∃ ctx ∈ s₃.contexts, ctx.ctxId = ctxId := by
                obtain ⟨ctx', member', sameId, -⟩ := (soFar.then_ evolves₃).context memberCtx
                exact ⟨ctx', member', sameId.trans sameCtx⟩
              obtain ⟨none₄, evolves₄⟩ | ⟨ci, hctx, hnpid, makes₄⟩ :=
                createLocalConnection_cases peerNpid transport random owner
              · cases create : createLocalConnectionLocked ctxId peerNpid peerNpid.handle transport
                    random s₃ with
                | mk connId s₄ =>
                  rw [create] at none₄ evolves₄
                  obtain rfl : connId = none := none₄
                  exact Or.inl ((soFar.then_ evolves₃).then_ evolves₄)
              · cases create : createLocalConnectionLocked ctxId peerNpid peerNpid.handle transport
                    random s₃ with
                | mk connId s₄ =>
                  rw [create] at makes₄
                  have allowed : activationAllowed ctxId peerNpid now s :=
                    ⟨by simpa using off, ctx, foundCtx, by simpa using idle, own,
                      by simpa using limited⟩
                  refine Or.inr ⟨ci, hctx, hnpid, allowed, rfl, ?_⟩
                  cases connId <;> exact makes₄.after evolves₃
    · -- the connection the index gave is activated again
      rw [reuse]
      have ensured := ensureTransport_evolves coherent₁ ctx.ownerOnlineId peerNpid.handle
        peerNpid 0 0
      have kept₃ := ensureTransport_kept_connections ctx.ownerOnlineId peerNpid.handle peerNpid 0 0
        (chargeContext ctxId now s)
      have keptIndex₃ := ensureTransport_kept_index ctx.ownerOnlineId peerNpid.handle peerNpid 0 0
        (chargeContext ctxId now s)
      cases ensure : ensureTransportLocked ctx.ownerOnlineId peerNpid.handle peerNpid 0 0
          (chargeContext ctxId now s) with
      | mk transportId s₃ =>
        rw [ensure] at ensured kept₃ keptIndex₃
        obtain ⟨evolves₃, alive⟩ := ensured
        have soFar : Evolves Steady [] s s₃ := (Evolves.of_kept charged).then_ evolves₃
        cases transportId with
        | none => exact Or.inl soFar
        | some transportId =>
          dsimp only
          obtain ⟨t, memberT, rfl, liveT, -⟩ := alive transportId rfl
          have coherent₃ := soFar.coherent coherent
          rw [coherent₃.transport_of_mem memberT]
          have member₃ : ci ∈ s₃.connections := kept₃ ▸ member
          have known₃ : entryOf ci ∈ s₃.npidToConn := keptIndex₃ ▸ known
          obtain rfl : ci.ctxId = ctxId := hctx
          obtain rfl : ci.npid = peerNpid := hnpid
          exact Or.inl (soFar.then_
            (reactivateConnection_evolves coherent₃ member₃ known₃ memberT liveT))

end Activation

/-! ## Activation requests -/

section Requests

variable {s : NpSignalingState}

theorem requestTransport_evolves (coherent : Coherent s) (fromAddr : UInt32) (fromPort : UInt16)
    (packet : SignalingControl) :
    let (transportId, s') := requestTransportLocked fromAddr fromPort packet s
    Evolves Steady [] s s' ∧ s'.connections = s.connections ∧
      ∀ id, transportId = some id → LiveAs s' id (packetOnlineIdToString packet.onlineIdFrom) := by
  unfold requestTransportLocked
  cases found : findTransportByOnlineIdLocked (packetOnlineIdToString packet.onlineIdFrom) s with
  | some t =>
    obtain ⟨member, live, name⟩ := findTransport_some found
    refine ⟨Evolves.refl s, rfl, ?_⟩
    intro id same
    obtain rfl := Option.some.inj same
    exact ⟨t, member, rfl, live, name⟩
  | none =>
    dsimp only
    have ensured := ensureTransport_evolves coherent (requestedOnlineId packet s)
      (setNpOnlineId packet.onlineIdFrom) (npIdFromOnlineId (setNpOnlineId packet.onlineIdFrom))
      (senderAddr packet.mappedAddr fromAddr) fromPort
    exact ⟨ensured.1, ensureTransport_kept_connections _ _ _ _ _ s, ensured.2⟩

theorem requestedTransport_kept (fromAddr : UInt32) (fromPort : UInt16)
    (packet : SignalingControl) {t : PeerTransport} (live : t.state ≠ .inactive) :
    (requestedTransport fromAddr fromPort packet t).transportId = t.transportId ∧
      SameTransport t (requestedTransport fromAddr fromPort packet t) ∧
      (requestedTransport fromAddr fromPort packet t).state = t.state := by
  simp only [requestedTransport, if_neg live]
  exact ⟨trivial, sameTransport_of_state rfl rfl rfl, trivial⟩

theorem requestConnection_cases {ctx : Option NpSignalingContext} (transport : PeerTransport)
    (packet : SignalingControl) (random : UInt32)
    (owner : ∀ c, ctx = some c → ∃ c' ∈ s.contexts, c'.ctxId = c.ctxId) :
    let s' := (requestConnectionLocked ctx transport packet random s).2
    Evolves Steady [] s s' ∨
      ∃ c ci, ctx = some c ∧ ci.ctxId = c.ctxId ∧
        ci.npid = npIdFromOnlineId (setNpOnlineId packet.onlineIdFrom) ∧
        findConnectionByOnlineIdLocked (packetOnlineIdToString packet.onlineIdFrom) c.ctxId s = none ∧
        Makes ci s s' := by
  dsimp only
  unfold requestConnectionLocked
  cases ctx with
  | none => exact Or.inl (Evolves.refl s)
  | some c =>
    dsimp only
    cases found : findConnectionByOnlineIdLocked (packetOnlineIdToString packet.onlineIdFrom)
        c.ctxId s with
    | some ci => exact Or.inl (Evolves.refl s)
    | none =>
      dsimp only
      cases allocated : allocateConnectionIdLocked random s with
      | mk connId s₁ =>
        obtain ⟨seed, rfl⟩ := allocateConnectionIdLocked_state allocated
        have seeded : Evolves Steady [] s { s with connectionIdSeed := seed } :=
          Evolves.of_kept { Kept.refl composable_steady s with }
        cases connId with
        | none => exact Or.inl seeded
        | some connId =>
          obtain ⟨nonzero, free⟩ := allocateConnectionIdLocked_free allocated
          let ci := remoteConnection connId c.ctxId
            (npIdFromOnlineId (setNpOnlineId packet.onlineIdFrom)) transport s.connectionsMade
          have new : NewConnection ci { s with connectionIdSeed := seed } :=
            ⟨nonzero, free, rfl, owner c rfl, rfl⟩
          exact Or.inr ⟨c, ci, rfl, rfl, rfl, found, _, seeded, new,
            Kept.refl composable_steady _⟩

theorem addressedContext_some {toId : List UInt8} {ctx : NpSignalingContext}
    (h : addressedContext toId s = some ctx) :
    ctx ∈ s.contexts ∧ ctx.active = true ∧ onlineIdToString ctx.ownerOnlineId = toId := by
  unfold addressedContext at h
  have found := List.find?_some h
  simp only [Bool.and_eq_true, decide_eq_true_eq] at found
  exact ⟨List.mem_of_find?_eq_some h, found⟩

theorem activationRequest_cases (coherent : Coherent s) (fromAddr : UInt32) (fromPort : UInt16)
    (packet : SignalingControl) (random : UInt32) :
    let s' := (activationRequestLocked fromAddr fromPort packet random s).2
    Evolves Steady [] s s' ∨
      ∃ ctx ci, addressedContext (packetOnlineIdToString packet.onlineIdTo) s = some ctx ∧
        ci.ctxId = ctx.ctxId ∧
        ci.npid = npIdFromOnlineId (setNpOnlineId packet.onlineIdFrom) ∧
        findConnectionByOnlineIdLocked (packetOnlineIdToString packet.onlineIdFrom) ctx.ctxId s =
          none ∧
        Makes ci s s' := by
  dsimp only
  unfold activationRequestLocked
  extract_lets ctx
  have requested := requestTransport_evolves coherent fromAddr fromPort packet
  cases request : requestTransportLocked fromAddr fromPort packet s with
  | mk transportId s₁ =>
    rw [request] at requested
    obtain ⟨evolves₁, connections₁, alive⟩ := requested
    cases transportId with
    | none => exact Or.inl evolves₁
    | some transportId =>
      obtain ⟨t, member, rfl, live, -⟩ := alive transportId rfl
      have coherent₁ := evolves₁.coherent coherent
      dsimp only
      let f := requestedTransport fromAddr fromPort packet
      have adjusted : Kept Steady s₁ (s₁.adjustTransport t.transportId f) := by
        apply kept_adjustTransport composable_steady
        intro other hother sameId
        rw [coherent₁.peerTransports.eq_of_key hother member sameId]
        obtain ⟨sameId', same, state⟩ :=
          requestedTransport_kept fromAddr fromPort packet live
        exact ⟨sameId', same, steady_of_state state⟩
      have evolves₂ : Evolves Steady [] s (s₁.adjustTransport t.transportId f) :=
        evolves₁.kept adjusted
      cases (s₁.adjustTransport t.transportId f).transport? t.transportId with
      | none => exact Or.inl evolves₂
      | some transport =>
        dsimp only
        have owner : ∀ c, ctx = some c →
            ∃ c' ∈ (s₁.adjustTransport t.transportId f).contexts, c'.ctxId = c.ctxId := by
          intro c hc
          obtain ⟨c', member', sameId, -⟩ := evolves₂.context (addressedContext_some hc).1
          exact ⟨c', member', sameId⟩
        have found := requestConnection_cases transport packet random owner
        -- the connections the search sees are those of the state before
        have sees : ∀ c, findConnectionByOnlineIdLocked
            (packetOnlineIdToString packet.onlineIdFrom) c (s₁.adjustTransport t.transportId f) =
            findConnectionByOnlineIdLocked (packetOnlineIdToString packet.onlineIdFrom) c s := by
          intro c
          simp only [findConnectionByOnlineIdLocked, NpSignalingState.adjustTransport,
            connections₁]
        cases marked : requestConnectionLocked ctx transport packet random
            (s₁.adjustTransport t.transportId f) with
        | mk outcome s₃ =>
          rw [marked] at found
          have sync : Kept Steady s₃ (syncSig1ConnectionsForTransportLocked t.transportId s₃) :=
            kept_sync t.transportId
          have activated : ∀ connId, Kept Steady s₃
              (syncSig1ConnectionsForTransportLocked t.transportId
                (s₃.adjustConnection connId (fun ci =>
                  { ci with peerActivated := true, transportId := t.transportId }))) := by
            intro connId
            have marked : Kept Steady s₃ (s₃.adjustConnection connId (fun ci =>
                { ci with peerActivated := true, transportId := t.transportId })) :=
              kept_adjustConnection composable_steady connId
                (fun _ _ _ => ⟨rfl, rfl, rfl, rfl, rfl, id⟩)
            exact marked.trans composable_steady (kept_sync t.transportId)
          rcases found with evolves₃ | ⟨c, ci, hctx, owned, npid, unseen, makes₃⟩
          · cases outcome with
            | none => exact Or.inl (evolves₂.then_ evolves₃)
            | some connId =>
              cases connId with
              | none => exact Or.inl ((evolves₂.then_ evolves₃).kept sync)
              | some connId => exact Or.inl ((evolves₂.then_ evolves₃).kept (activated connId))
          · refine Or.inr ⟨c, ci, hctx, owned, npid, sees c.ctxId ▸ unseen, ?_⟩
            have makes := makes₃.after evolves₂
            cases outcome with
            | none => exact makes
            | some connId =>
              cases connId with
              | none => exact makes.kept sync
              | some connId => exact makes.kept (activated connId)

theorem kept_controlOnTransport_steady {packet : SignalingControl} (transport : PeerTransport)
    (stays : packet.kind ≠ .close) :
    Kept Steady s (controlOnTransportLocked packet transport s).2 := by
  unfold controlOnTransportLocked
  cases kind : packet.kind with
  | activationAck =>
    have acknowledged : Kept Steady s
        (s.adjustTransport transport.transportId (acknowledgedTransport packet)) :=
      kept_adjustTransport composable_steady _
        (fun _ _ _ => ⟨rfl, sameTransport_of_state rfl rfl rfl, steady_of_state rfl⟩)
    exact acknowledged.trans composable_steady (kept_sync transport.transportId)
  | established =>
    exact kept_adjustTransport composable_steady _
      (fun _ _ _ => ⟨rfl, sameTransport_of_state rfl rfl rfl, steady_of_state rfl⟩)
  | close => exact absurd kind stays
  | activationRequest => exact Kept.refl composable_steady s
  | other code => exact Kept.refl composable_steady s

theorem kept_controlOnTransport (packet : SignalingControl) (transport : PeerTransport) :
    Kept Quiet s (controlOnTransportLocked packet transport s).2 := by
  by_cases kind : packet.kind = .close
  · simp only [controlOnTransportLocked, kind, closeRequestLocked]
    split
    · split <;> exact Kept.refl composable_quiet s
    · exact (kept_setInactive transport.transportId).trans composable_quiet
        (onlyMatching2_dead _ _).kept.quiet
  · exact (kept_controlOnTransport_steady transport kind).quiet

theorem activationStub_cases (ctxId : Nat) (accountId : UInt64)
    (platformType : UInt32) (random : UInt32) (now : Int) :
    let s' := (activateConnectionAStubLocked ctxId accountId platformType random now s).2
    Evolves Steady [] s s' ∨
      ∃ ci, ci.ctxId = ctxId ∧ ci.npid = npIdFromOnlineId .zero ∧ Inserts ci s s' := by
  dsimp only
  unfold activateConnectionAStubLocked
  by_cases off : s.initialized = false
  · rw [if_pos off]
    exact Or.inl (Evolves.refl s)
  rw [if_neg off]
  by_cases invalid : accountId = 0 ∨ platformType = 0
  · rw [if_pos invalid]
    exact Or.inl (Evolves.refl s)
  rw [if_neg invalid]
  cases foundCtx : s.context? ctxId with
  | none => exact Or.inl (Evolves.refl s)
  | some ctx =>
    obtain ⟨memberCtx, sameCtx⟩ := lookup_some foundCtx
    dsimp only
    by_cases idle : ctx.active = false
    · rw [if_pos idle]
      exact Or.inl (Evolves.refl s)
    rw [if_neg idle]
    by_cases own : ctx.flags &&& 0x4 ≠ 0 ∧ ctx.accountId = accountId ∧
        ctx.platformType = platformType
    · rw [if_pos own]
      exact Or.inl (Evolves.refl s)
    rw [if_neg own]
    have charged : Evolves Steady [] s (chargeContext ctxId now s) :=
      Evolves.of_kept (kept_chargeContext ctxId now)
    by_cases limited : (consumeActivationBudgetGatedLocked now ctx).1 = false
    · rw [if_pos limited]
      exact Or.inl charged
    rw [if_neg limited]
    cases allocated : allocateConnectionIdLocked random (chargeContext ctxId now s) with
    | mk connId s₁ =>
      obtain ⟨seed, rfl⟩ := allocateConnectionIdLocked_state allocated
      have seeded : Evolves Steady [] s
          { chargeContext ctxId now s with connectionIdSeed := seed } :=
        charged.kept { Kept.refl composable_steady _ with }
      cases connId with
      | none => exact Or.inl seeded
      | some connId =>
        obtain ⟨nonzero, free⟩ := allocateConnectionIdLocked_free allocated
        obtain ⟨ctx', member', sameId, -⟩ := seeded.context memberCtx
        refine Or.inr ⟨_, rfl, rfl, _, seeded, ?_, rfl⟩
        exact ⟨nonzero, free, rfl, ⟨ctx', member', sameId.trans sameCtx⟩, rfl⟩

end Requests

/-! ## What goes out to the peers -/

section Sent

/-- Datagrams are only added, and of the added handshakes none answers a check. -/
def SendsNoAck (s s' : NpSignalingState) : Prop :=
  ∃ news, s'.sent = s.sent ++ news ∧
    ∀ d ∈ news, ∀ packet, d.packet = .handshake packet → packet.kind ≠ .checkAck

variable {s s' s'' : NpSignalingState}

theorem SendsNoAck.of_eq (same : s'.sent = s.sent) : SendsNoAck s s' :=
  ⟨[], by simp [same], by simp⟩

theorem SendsNoAck.trans (first : SendsNoAck s s') (second : SendsNoAck s' s'') :
    SendsNoAck s s'' := by
  obtain ⟨news, sent, quiet⟩ := first
  obtain ⟨later, sent', quiet'⟩ := second
  refine ⟨news ++ later, by rw [sent', sent, List.append_assoc], ?_⟩
  intro d hd
  rcases List.mem_append.mp hd with old | new
  · exact quiet d old
  · exact quiet' d new

theorem sendsNoAck_control (addr : UInt32) (port : UInt16) (packet : SignalingControl) :
    SendsNoAck s (s.send ⟨addr, port, .control packet⟩) := by
  refine ⟨_, rfl, ?_⟩
  intro d hd p same
  rw [List.mem_singleton.mp hd] at same
  cases same

theorem sync_sent (transportId : Nat) :
    (syncSig1ConnectionsForTransportLocked transportId s).sent = s.sent := by
  unfold syncSig1ConnectionsForTransportLocked
  cases s.transport? transportId <;> rfl

theorem sendActivate_noAck (ci : ConnectionInfo) : SendsNoAck s (sendActivate ci s) := by
  unfold sendActivate
  cases s.transport? ci.transportId with
  | none => exact SendsNoAck.of_eq rfl
  | some t =>
    dsimp only
    split
    · exact SendsNoAck.of_eq rfl
    · exact sendsNoAck_control _ _ _

theorem sendControlClose_noAck (ci : ConnectionInfo) (reason : ControlReason) :
    SendsNoAck s (sendControlCloseLocked ci reason s) := by
  unfold sendControlCloseLocked
  cases s.transport? ci.transportId with
  | none => exact SendsNoAck.of_eq rfl
  | some t =>
    dsimp only
    split
    · exact SendsNoAck.of_eq rfl
    · exact sendsNoAck_control _ _ _

theorem OnlyMatching2.sent (only : OnlyMatching2 s s') : s'.sent = s.sent := by
  obtain ⟨_, _, rfl⟩ := only
  rfl

theorem ensureTransport_sent (localOnlineId peerOnlineId : OrbisNpOnlineId)
    (peerNpid : OrbisNpId) (addr : UInt32) (port : UInt16) (s : NpSignalingState) :
    (ensureTransportLocked localOnlineId peerOnlineId peerNpid addr port s).2.sent = s.sent := by
  obtain ⟨_, _, only⟩ := ensureTransport_eq localOnlineId peerOnlineId peerNpid addr port s
  rw [only]

end Sent

/-! ## The catalogue -/

/-- What an operation may do that others may not: `answers` holds of the nonces it may echo in a
CheckAck, `stops` if it may shut the library down, `takes` if it is the dispatch thread, and
`closes` if it may make a transport Inactive. -/
structure Licence where
  answers : BitVec 64 → Prop
  stops : Prop
  takes : Prop
  closes : Prop

/-- The sections that change a table, or the library, as a whole. -/
inductive Structural (licence : Licence) :
    LockSection → (NpSignalingState → NpSignalingState) → Prop where
  | eraseTransport (transportId : Nat) (sig1Conns : List Nat) :
      Structural licence .other (eraseTransportLocked transportId sig1Conns)
  | createContext (request : ContextRequest) (now : Int) :
      Structural licence .createContext (fun s => (createContextLocked request now s).2)
  | eraseContext (ctxId : Nat) : Structural licence .other (eraseContextLocked ctxId)
  | signalingInitialize (heapOk echoOk : Bool) :
      Structural licence .other (initializeLocked heapOk echoOk)
  | stopLibrary (stops : licence.stops) :
      Structural licence .other (fun s => { s with initialized := false })
  | stopDispatch (stops : licence.stops) : Structural licence .other stopDispatchLocked
  | joinDispatch : Structural licence .joinDispatch (fun s => s)
  | takeDispatch (takes : licence.takes) :
      Structural licence .other (fun s => (takeDispatchLocked s).2)
  | invokeCallback (takes : licence.takes) : Structural licence .other invokeCallback
  | reset (stops : licence.stops) : Structural licence .reset resetSig1Data
  | rehash (tables : Tables) : Structural licence .other (rehashLocked tables)

inductive Section (licence : Licence) :
    LockSection → (NpSignalingState → NpSignalingState) → Prop where
  | evolves {update : NpSignalingState → NpSignalingState}
      (evolves : ∀ s, Coherent s → Evolves Steady [] s (update s))
      (sends : ∀ s, SendsNoAck s (update s)) : Section licence .other update
  | closes {update : NpSignalingState → NpSignalingState} (closes : licence.closes)
      (kept : ∀ s, Kept Quiet s (update s))
      (sends : ∀ s, SendsNoAck s (update s)) : Section licence .other update
  | startTransportHandshakeInitiator (transportId : Nat) (now : Int) :
      Section licence (.startTransportHandshakeInitiator transportId)
        (startTransportHandshakeInitiatorLocked transportId now)
  | establishConnection (transportId : Nat) (peerActivatedHint : Bool) (now : Int) :
      Section licence (.establishConnection transportId)
        (fun s => (establishConnectionLocked transportId peerActivatedHint now s).2)
  | activateSig1 (ctxId : Nat) (peerNpid : OrbisNpId) (random : UInt32) (now : Int) :
      Section licence (.activateSig1 ctxId peerNpid now)
        (fun s => (activateSig1Locked ctxId peerNpid peerNpid.handle random now s).2)
  | activateConnectionA (ctxId : Nat) (accountId : UInt64) (platformType : UInt32)
      (random : UInt32) (now : Int) :
      Section licence (.activateConnectionA ctxId)
        (fun s => (activateConnectionAStubLocked ctxId accountId platformType random now s).2)
  | handleControlPacket (fromAddr : UInt32) (fromPort : UInt16) (packet : SignalingControl)
      (random : UInt32) (closes : packet.kind = .close → licence.closes) :
      Section licence (.handleControlPacket packet)
        (fun s => (handleControlLocked fromAddr fromPort packet random s).2)
  | reply (transportId : Nat) (packet : SignalingHandshake) (now : Int)
      (answered : packet.kind = .checkAck → licence.answers packet.nonce) :
      Section licence .other (sendHandshakeLocked transportId packet now)
  | structural {label : LockSection} {update : NpSignalingState → NpSignalingState}
      (member : Structural licence label update) : Section licence label update

theorem Structural.mono {licence more : Licence} {label : LockSection}
    {update : NpSignalingState → NpSignalingState} (stops : licence.stops → more.stops)
    (takes : licence.takes → more.takes) (member : Structural licence label update) :
    Structural more label update := by
  cases member with
  | eraseTransport transportId sig1Conns => exact .eraseTransport transportId sig1Conns
  | createContext request now => exact .createContext request now
  | eraseContext ctxId => exact .eraseContext ctxId
  | signalingInitialize heapOk echoOk => exact .signalingInitialize heapOk echoOk
  | stopLibrary stopping => exact .stopLibrary (stops stopping)
  | stopDispatch stopping => exact .stopDispatch (stops stopping)
  | joinDispatch => exact .joinDispatch
  | takeDispatch taking => exact .takeDispatch (takes taking)
  | invokeCallback taking => exact .invokeCallback (takes taking)
  | reset stopping => exact .reset (stops stopping)
  | rehash tables => exact .rehash tables

theorem Section.mono {licence more : Licence} {label : LockSection}
    {update : NpSignalingState → NpSignalingState}
    (answers : ∀ nonce, licence.answers nonce → more.answers nonce)
    (stops : licence.stops → more.stops) (takes : licence.takes → more.takes)
    (closes : licence.closes → more.closes) (member : Section licence label update) :
    Section more label update := by
  cases member with
  | evolves evolves sends => exact .evolves evolves sends
  | closes closing kept sends => exact .closes (closes closing) kept sends
  | startTransportHandshakeInitiator transportId now =>
    exact .startTransportHandshakeInitiator transportId now
  | establishConnection transportId hint now => exact .establishConnection transportId hint now
  | activateSig1 ctxId peerNpid random now => exact .activateSig1 ctxId peerNpid random now
  | activateConnectionA ctxId accountId platformType random now =>
    exact .activateConnectionA ctxId accountId platformType random now
  | handleControlPacket fromAddr fromPort packet random closing =>
    exact .handleControlPacket fromAddr fromPort packet random (fun kind => closes (closing kind))
  | reply transportId packet now answered =>
    exact .reply transportId packet now (fun ack => answers _ (answered ack))
  | structural member => exact .structural (member.mono stops takes)

/-- Only the answer to a check echoes a nonce, only the terminating call shuts down, and only the
dispatch thread takes what is staged. Transports are closed by their users, their peer and time. -/
def Op.licence : Op → Licence
  | .handshakePacket _ _ packet _ =>
    ⟨fun nonce => packet.kind = .check ∧ packet.nonce = nonce, False, False, False⟩
  | .signalingTerminate => ⟨fun _ => False, True, False, False⟩
  | .dispatchThread => ⟨fun _ => False, False, True, False⟩
  | .controlPacket _ _ packet _ _ => ⟨fun _ => False, False, False, packet.kind = .close⟩
  | .deleteContext _ | .deactivateSig1 _ | .terminateSig1 _ | .deactivateConnection _ _
  | .terminateConnection _ _ | .stepPendingConnections _ _ | .stopMatching2 _ _ _
  | .stopMatching2Room _ _ _ _ => ⟨fun _ => False, False, False, True⟩
  | _ => ⟨fun _ => False, False, False, False⟩

section Catalogue

variable {licence : Licence}

theorem section_kept {update : NpSignalingState → NpSignalingState}
    (kept : ∀ s, Coherent s → Kept Steady s (update s)) (sends : ∀ s, SendsNoAck s (update s)) :
    Section licence .other update :=
  .evolves (fun s coherent => Evolves.of_kept (kept s coherent)) sends

theorem section_read : Section licence .other (fun s => s) :=
  section_kept (fun s _ => Kept.refl composable_steady s) (fun _ => SendsNoAck.of_eq rfl)

theorem uses_read {α : Type} (f : NpSignalingState → α) :
    (inLock (fun s => (f s, s))).Uses (Section licence) :=
  Prog.uses_locked section_read

theorem section_dispatch (connId : Nat) (eventType : SignalingEvent)
    (errorCode : Option SignalingError) :
    Section licence .other (dispatchConnectionEvent connId eventType errorCode) :=
  section_kept (fun _ _ => kept_dispatch connId eventType errorCode)
    (fun s => SendsNoAck.of_eq (by rw [dispatchConnectionEvent_eq]; rfl))

theorem section_dispatchPeerActivated (connId : Nat) :
    Section licence .other (dispatchPeerActivatedEvent connId) :=
  section_kept (fun _ _ => kept_dispatchPeerActivated connId)
    (fun s => SendsNoAck.of_eq (by rw [dispatchPeerActivatedEvent_eq]; rfl))

theorem section_matching2 {update : NpSignalingState → NpSignalingState}
    (only : ∀ s, OnlyMatching2 s (update s)) : Section licence .other update :=
  section_kept (fun s _ => (only s).kept) (fun s => SendsNoAck.of_eq (only s).sent)

theorem section_removeConnection (connId : Nat) :
    Section licence .other (removeConnectionLocked connId) := by
  refine .evolves (fun s _ => (Evolves.refl s).removed connId) (fun s => SendsNoAck.of_eq ?_)
  obtain ⟨_, removed⟩ := removeConnection_eq connId s
  rw [removed]

theorem uses_closeConnection (closes : licence.closes) (connId : Nat) (sigErrorCode : SignalingError)
    (matching2ErrorCode : Matching2Error) :
    (closeConnectionAndDispatchDead connId sigErrorCode matching2ErrorCode).Uses
      (Section licence) := by
  have closed : Section licence .other (fun s => (closeConnectionLocked connId s).2) := by
    apply Section.closes closes (fun _ => kept_closeConnection connId)
    intro s
    apply SendsNoAck.of_eq
    unfold closeConnectionLocked
    split
    · rfl
    · split <;> rfl
  apply (Prog.uses_locked closed).bind
  intro result
  cases result with
  | none => exact Prog.uses_pure ()
  | some closed =>
    obtain ⟨transportId, fireSig1⟩ := closed
    apply (Prog.uses_when
      (Prog.uses_update (section_matching2 (fun _ => onlyMatching2_dead _ _)))).bind
    intro _
    apply (Prog.uses_when (Prog.uses_update (section_dispatch connId _ _))).bind
    intro _
    exact Prog.uses_update (section_removeConnection connId)

theorem uses_closeTransport (closes : licence.closes) (transportId : Nat) (sigErrorCode : SignalingError)
    (matching2ErrorCode : Matching2Error) :
    (closeTransportAndDispatchDead transportId sigErrorCode matching2ErrorCode).Uses
      (Section licence) := by
  have closed : Section licence .other (fun s => (closeTransportLocked transportId s).2) := by
    apply Section.closes closes (fun _ => kept_closeTransport transportId)
    intro s
    apply SendsNoAck.of_eq
    unfold closeTransportLocked
    split
    · rfl
    · split <;> rfl
  apply (Prog.uses_locked closed).bind
  intro result
  cases result with
  | none => exact Prog.uses_pure ()
  | some sig1Conns =>
    apply (Prog.uses_update (section_matching2 (fun _ => onlyMatching2_dead _ _))).bind
    intro _
    apply (Prog.uses_forEach (fun connId => Prog.uses_update (section_dispatch connId _ _))).bind
    intro _
    exact Prog.uses_update (.structural (.eraseTransport transportId sig1Conns))

theorem uses_establishConnection (transportId : Nat) (peerActivatedHint : Bool) (now : Int) :
    (establishConnection transportId peerActivatedHint now).Uses (Section licence) := by
  apply Prog.uses_locked_bind (.establishConnection transportId peerActivatedHint now)
  intro s
  apply Prog.Uses.bind
  · apply Prog.uses_forSome
    intro datagram established
    unfold establishConnectionLocked at established
    split at established
    · cases established
    · dsimp only at established
      split at established
      · obtain rfl := Option.some.inj established
        exact Prog.uses_update (section_kept (fun _ _ => kept_send _)
          (fun _ => sendsNoAck_control _ _ _))
      · cases established
  intro _
  apply (Prog.uses_forEach
    (fun connId => Prog.uses_update (section_dispatchPeerActivated connId))).bind
  intro _
  apply (Prog.uses_forEach (fun connId => Prog.uses_update (section_dispatch connId _ _))).bind
  intro _
  exact Prog.uses_forEach (fun connId => Prog.uses_update (section_dispatch connId _ _))

theorem uses_start (transportId : Nat) (now : Int) :
    (startTransportHandshakeInitiator transportId now).Uses (Section licence) :=
  Prog.uses_update (.startTransportHandshakeInitiator transportId now)

theorem uses_processActivation (resolution : Resolution) (act : PendingActivation) :
    (processActivation resolution act).Uses (Section licence) := by
  apply (uses_read _).bind
  intro live
  cases live with
  | none => exact Prog.uses_pure _
  | some ci =>
    dsimp only
    cases resolution.resolved with
    | none => exact Prog.uses_pure _
    | some endpoint =>
      obtain ⟨addr, port⟩ := endpoint
      have resolved : Section licence .other
          (fun s => (activationResolvedLocked act.connId addr port s).2) := by
        apply section_kept (fun _ _ => kept_activationResolved act.connId addr port)
        intro s
        unfold activationResolvedLocked
        split
        · exact SendsNoAck.of_eq rfl
        split
        · exact SendsNoAck.of_eq rfl
        · exact SendsNoAck.trans (SendsNoAck.of_eq rfl) (sendActivate_noAck _)
      apply (Prog.uses_locked resolved).bind
      intro outcome
      cases outcome with
      | none => exact Prog.uses_pure _
      | some alreadyEstablished =>
        apply (Prog.uses_when (uses_start _ _)).bind
        intro _
        apply (Prog.uses_when (uses_establishConnection _ _ _)).bind
        intro _
        exact Prog.uses_pure _

theorem uses_processWork (resolve : Nat → Resolution) (i : Nat) (work : List PendingActivation) :
    (processWork resolve i work).Uses (Section licence) := by
  induction work generalizing i with
  | nil => exact Prog.uses_pure _
  | cons act work ih =>
    apply (uses_processActivation (resolve i) act).bind
    intro again
    apply (ih (i + 1)).bind
    intro retry
    exact Prog.uses_pure _

theorem uses_processPendingActivations (resolve : Nat → Resolution) :
    (processPendingActivations resolve).Uses (Section licence) := by
  have taken : Section licence .other
      (fun s : NpSignalingState => { s with pendingActivations := [] }) :=
    section_kept (fun s _ => { Kept.refl composable_steady s with })
      (fun _ => SendsNoAck.of_eq rfl)
  apply (Prog.uses_locked taken).bind
  intro work
  apply (uses_processWork resolve 0 work).bind
  intro retry
  apply Prog.uses_when
  exact Prog.uses_update (section_kept (fun s _ => { Kept.refl composable_steady s with })
    (fun _ => SendsNoAck.of_eq rfl))

theorem uses_handleHandshakePacket (fromAddr : UInt32) (fromPort : UInt16)
    (packet : SignalingHandshake) (now : Int) :
    (handleHandshakePacket fromAddr fromPort packet now).Uses
      (Section (Op.handshakePacket fromAddr fromPort packet now).licence) := by
  have handled : Section (Op.handshakePacket fromAddr fromPort packet now).licence .other
      (fun s => (handleHandshakeLocked fromAddr fromPort packet now s).2) := by
    apply section_kept
      (fun s coherent => kept_handshake coherent.peerTransports fromAddr fromPort packet now)
    intro s
    apply SendsNoAck.of_eq
    unfold handleHandshakeLocked
    split
    · rfl
    · exact sync_sent _
  apply Prog.uses_locked_bind handled
  intro s
  apply Prog.Uses.bind
  · apply Prog.uses_forSome
    rintro ⟨transportId, reply⟩ replied
    apply Prog.uses_update
    apply Section.reply
    intro ack
    unfold handleHandshakeLocked at replied
    split at replied
    · cases replied
    · -- only a check is answered with a CheckAck, and with its own nonce
      dsimp only at replied
      unfold handshakeOutcome at replied
      cases kind : packet.kind with
      | offer =>
        simp only [kind, Option.some.injEq, Prod.mk.injEq] at replied
        obtain ⟨-, rfl⟩ := replied
        cases ack
      | accept =>
        simp only [kind] at replied
        split at replied
        · simp only [Option.some.injEq, Prod.mk.injEq] at replied
          obtain ⟨-, rfl⟩ := replied
          cases ack
        · cases replied
      | check =>
        simp only [kind, Option.some.injEq, Prod.mk.injEq] at replied
        obtain ⟨-, rfl⟩ := replied
        exact ⟨kind, rfl⟩
      | checkAck =>
        simp only [kind] at replied
        split at replied <;> cases replied
      | other code =>
        simp only [kind] at replied
        cases replied
  intro _
  exact Prog.uses_forSome (fun _ _ => uses_establishConnection _ _ _)

/-- The only acknowledgement a control packet gets is a control packet. -/
theorem handleControl_ack {fromAddr : UInt32} {fromPort : UInt16} {packet : SignalingControl}
    {random : UInt32} {s : NpSignalingState} {datagram : Datagram}
    (acked : (handleControlLocked fromAddr fromPort packet random s).1.ack = some datagram) :
    ∃ addr port control, datagram = ⟨addr, port, .control control⟩ := by
  unfold handleControlLocked at acked
  split at acked
  · unfold activationRequestLocked at acked
    extract_lets ctx at acked
    split at acked
    · cases acked
    · dsimp only at acked
      split at acked
      · cases acked
      · split at acked
        · cases acked
        · dsimp only at acked
          split at acked
          · exact ⟨_, _, _, (Option.some.inj acked).symm⟩
          · cases acked
  · split at acked
    · cases acked
    · unfold controlOnTransportLocked closeRequestLocked at acked
      split at acked
      · cases acked
      · cases acked
      · split at acked
        · split at acked <;> cases acked
        · cases acked
      · cases acked
      · cases acked

/-- Only a Close packet has a connection closed. -/
theorem handleControl_dead {fromAddr : UInt32} {fromPort : UInt16} {packet : SignalingControl}
    {random : UInt32} {s : NpSignalingState} {connId : Nat}
    (dead : (handleControlLocked fromAddr fromPort packet random s).1.deadConn = some connId) :
    packet.kind = .close := by
  unfold handleControlLocked at dead
  split at dead
  · unfold activationRequestLocked at dead
    extract_lets ctx at dead
    split at dead
    · cases dead
    · dsimp only at dead
      split at dead
      · cases dead
      · split at dead <;> cases dead
  · split at dead
    · cases dead
    · unfold controlOnTransportLocked at dead
      cases kind : packet.kind with
      | close => rfl
      | _ => simp [kind] at dead

theorem uses_handleControlPacket {packet : SignalingControl}
    (closes : packet.kind = .close → licence.closes) (fromAddr : UInt32) (fromPort : UInt16)
    (random : UInt32) (now : Int) :
    (handleControlPacket fromAddr fromPort packet random now).Uses (Section licence) := by
  apply Prog.uses_locked_bind (.handleControlPacket fromAddr fromPort packet random closes)
  intro s
  apply Prog.Uses.bind
  · apply Prog.uses_forSome
    intro datagram acked
    obtain ⟨addr, port, control, rfl⟩ := handleControl_ack acked
    exact Prog.uses_update (section_kept (fun _ _ => kept_send _)
      (fun _ => sendsNoAck_control _ _ _))
  intro _
  apply (Prog.uses_forSome (fun _ _ => uses_establishConnection _ _ _)).bind
  intro _
  apply (Prog.uses_forSome (fun connId _ =>
    Prog.uses_update (section_dispatch connId _ _))).bind
  intro _
  exact Prog.uses_forSome (fun connId dead =>
    uses_closeConnection (closes (handleControl_dead dead)) connId _ _)

theorem uses_stepPendingConnections (closes : licence.closes) (now : Int) (sendNow : Nat → Int) :
    (stepPendingConnections now sendNow).Uses (Section licence) := by
  apply (uses_read _).bind
  rintro ⟨resend, timeout⟩
  apply (Prog.uses_forEach (fun transportId => uses_start transportId _)).bind
  intro _
  exact Prog.uses_forEach (fun transportId => uses_closeTransport closes transportId _ _)

theorem uses_activateSig1 (ctxId : Nat) (peerNpid : OrbisNpId) (random : UInt32) (now : Int) :
    (activateSig1 ctxId peerNpid peerNpid.handle random now).Uses (Section licence) := by
  apply (Prog.uses_locked (.activateSig1 ctxId peerNpid random now)).bind
  intro result
  cases result with
  | error error => exact Prog.uses_pure _
  | ok activated =>
    obtain ⟨connId, reusedEstablished⟩ := activated
    apply Prog.Uses.bind
    · apply Prog.uses_when
      apply (uses_read _).bind
      intro found
      exact Prog.uses_forSome (fun ci _ => Prog.uses_when (uses_establishConnection _ _ _))
    intro _
    exact Prog.uses_pure _

theorem uses_terminateSig1 (closes : licence.closes) (connId : Nat) :
    (terminateSig1 connId).Uses (Section licence) := by
  have close : Section licence .other (terminateCloseLocked connId) := by
    refine section_kept (fun s _ => ?_) (fun s => ?_)
    · unfold terminateCloseLocked
      cases s.connection? connId with
      | none => exact Kept.refl composable_steady s
      | some ci => exact kept_sendControlClose ci .terminate
    · unfold terminateCloseLocked
      cases s.connection? connId with
      | none => exact SendsNoAck.of_eq rfl
      | some ci => exact sendControlClose_noAck ci .terminate
  exact (Prog.uses_update close).bind (fun _ => uses_closeConnection closes connId _ _)

theorem uses_deactivateSig1 (closes : licence.closes) (connId : Nat) :
    (deactivateSig1 connId).Uses (Section licence) := by
  have close : Section licence .other (deactivateCloseLocked connId) := by
    refine section_kept (fun s _ => ?_) (fun s => ?_)
    · unfold deactivateCloseLocked
      cases s.connection? connId with
      | none => exact Kept.refl composable_steady s
      | some ci =>
        dsimp only
        cases s.transport? ci.transportId with
        | none => exact Kept.refl composable_steady s
        | some t =>
          dsimp only
          split
          · exact kept_sendControlClose ci .deactivate
          · exact Kept.refl composable_steady s
    · unfold deactivateCloseLocked
      cases s.connection? connId with
      | none => exact SendsNoAck.of_eq rfl
      | some ci =>
        dsimp only
        cases s.transport? ci.transportId with
        | none => exact SendsNoAck.of_eq rfl
        | some t =>
          dsimp only
          split
          · exact sendControlClose_noAck ci .deactivate
          · exact SendsNoAck.of_eq rfl
  exact (Prog.uses_update close).bind (fun _ => uses_closeConnection closes connId _ _)

theorem uses_syncMatching2Peers (now : Int) :
    (syncMatching2Peers now).Uses (Section licence) :=
  (uses_read _).bind (fun _ => Prog.uses_forEach (fun snapshot =>
    Prog.uses_update (section_matching2 (fun _ => onlyMatching2_syncSnapshot now snapshot))))

theorem section_matching2Transport (onlineId : OrbisNpOnlineId) (member : MemberCache)
    (addr : UInt32) (port : UInt16) :
    Section licence .other (fun s => (matching2TransportLocked onlineId member addr port s).2) := by
  refine .evolves (fun s coherent => ?_) (fun s => SendsNoAck.of_eq ?_)
  · unfold matching2TransportLocked
    have ensured := ensureTransport_evolves coherent onlineId member.npId.handle member.npId
      addr port
    cases ensure : ensureTransportLocked onlineId member.npId.handle member.npId addr port s with
    | mk transportId s₁ =>
      rw [ensure] at ensured
      obtain ⟨evolves₁, -⟩ := ensured
      cases transportId with
      | none => exact evolves₁
      | some transportId =>
        apply evolves₁.kept
        apply kept_adjustTransport composable_steady
        intro t _ _
        by_cases waiting : t.state = .waitOffer
        · rw [if_pos waiting]
          refine ⟨rfl, sameTransport_set .sendingOffer t, ?_⟩
          exact setPending_steady (by simp [waiting]) (by simp [waiting]) (by decide) (by decide)
        · rw [if_neg waiting]
          exact ⟨rfl, SameTransport.refl t, steady_of_state rfl⟩
  · unfold matching2TransportLocked
    have ensured := ensureTransport_sent onlineId member.npId.handle member.npId addr port s
    cases ensure : ensureTransportLocked onlineId member.npId.handle member.npId addr port s with
    | mk transportId s₁ =>
      rw [ensure] at ensured
      cases transportId <;> exact ensured

theorem uses_startMatching2Targets (ctx : ContextObject)
    (resolve : Nat → Option (UInt32 × UInt16)) (i : Nat) (targets : List MemberCache) :
    (startMatching2Targets ctx resolve i targets).Uses (Section licence) := by
  induction targets generalizing i with
  | nil => exact Prog.uses_pure _
  | cons member rest ih =>
    unfold startMatching2Targets
    cases resolvePeerEndpoint member (resolve i) with
    | none => exact ih (i + 1)
    | some endpoint =>
      obtain ⟨addr, port⟩ := endpoint
      apply (Prog.uses_locked (section_matching2Transport ctx.onlineId member addr port)).bind
      intro found
      cases found with
      | none => exact ih (i + 1)
      | some transport =>
        apply (Prog.uses_update (section_matching2 (fun _ => onlyMatching2_updatePeer _ _ _))).bind
        intro _
        apply (ih (i + 1)).bind
        intro pending
        exact Prog.uses_pure _

theorem uses_startMatching2 (ctx : ContextObject) (ready : Bool)
    (resolve : Nat → Option (UInt32 × UInt16)) (now : Int) :
    (startMatching2 ctx ready resolve now).Uses (Section licence) := by
  apply Prog.uses_when
  apply (uses_read _).bind
  intro targets
  apply (uses_startMatching2Targets ctx resolve 0 targets).bind
  intro pendingTransports
  apply (uses_syncMatching2Peers now).bind
  intro _
  exact Prog.uses_forEach (fun transportId => uses_start transportId now)

theorem uses_stopMatching2Room (closes : licence.closes) (ctxId roomId : Nat) (errorCode : SignalingError)
    (matching2ErrorCode : Matching2Error) :
    (stopMatching2Room ctxId roomId errorCode matching2ErrorCode).Uses (Section licence) := by
  apply (uses_read _).bind
  intro transports
  apply Prog.uses_forEach
  intro transportId
  apply (uses_read _).bind
  intro used
  exact Prog.uses_when (uses_closeTransport closes transportId _ _)

theorem section_runtime {update : NpSignalingState → NpSignalingState}
    (only : ∀ s, ∃ contextRefs runtimeRunning,
      update s = { s with contextRefs, runtimeRunning }) : Section licence .other update := by
  refine section_kept (fun s _ => ?_) (fun s => SendsNoAck.of_eq ?_)
  · obtain ⟨_, _, same⟩ := only s
    rw [same]
    exact { Kept.refl composable_steady s with }
  · obtain ⟨_, _, same⟩ := only s
    rw [same]

theorem uses_addContextRef : addContextRef.Uses (Section licence) := by
  apply (Prog.uses_update (section_runtime (fun s => ⟨_, _, rfl⟩))).bind
  intro _
  apply Prog.uses_update
  apply section_runtime
  intro s
  unfold startRuntime
  split
  · exact ⟨_, _, rfl⟩
  · exact ⟨_, _, rfl⟩

theorem uses_releaseContextRef : releaseContextRef.Uses (Section licence) := by
  have dropped : Section licence .other (fun s : NpSignalingState =>
      if s.contextRefs > 0 then { s with contextRefs := s.contextRefs - 1 } else s) := by
    apply section_runtime
    intro s
    split
    · exact ⟨_, _, rfl⟩
    · exact ⟨_, _, rfl⟩
  apply (Prog.uses_locked dropped).bind
  intro shouldStop
  apply Prog.uses_when
  apply Prog.uses_update
  apply section_runtime
  intro s
  unfold stopRuntime
  split
  · exact ⟨_, _, rfl⟩
  · exact ⟨_, _, rfl⟩

/-- Sections on the results kept for the caller and on the peak count. -/
theorem section_netInfo {update : NpSignalingState → NpSignalingState}
    (only : ∀ s, ∃ peerNetinfoResults peerNetinfoNextId peakConnectionCount,
      update s = { s with peerNetinfoResults, peerNetinfoNextId, peakConnectionCount }) :
    Section licence .other update := by
  refine section_kept (fun s _ => ?_) (fun s => SendsNoAck.of_eq ?_)
  · obtain ⟨_, _, _, same⟩ := only s
    rw [same]
    exact { Kept.refl composable_steady s with }
  · obtain ⟨_, _, _, same⟩ := only s
    rw [same]

theorem section_getPeerNetInfo (ctxId : Nat) (externalIpv4 natRouteKind : UInt32) :
    Section licence .other
      (fun s => (getPeerNetInfoLocked ctxId externalIpv4 natRouteKind s).2) := by
  apply section_netInfo
  intro s
  simp only [getPeerNetInfoLocked]
  split
  · exact ⟨_, _, _, rfl⟩
  · exact ⟨_, _, _, rfl⟩

theorem section_getPeerNetInfoA (ctxId : Nat) (externalIpv4 natRouteKind : UInt32) :
    Section licence .other
      (fun s => (getPeerNetInfoALocked ctxId externalIpv4 natRouteKind s).2) := by
  apply section_netInfo
  intro s
  simp only [getPeerNetInfoALocked, getPeerNetInfoLocked]
  split
  · exact ⟨_, _, _, rfl⟩
  · cases s.context? ctxId with
    | none => exact ⟨_, _, _, rfl⟩
    | some ctx =>
      dsimp only
      split
      · exact ⟨_, _, _, rfl⟩
      split
      · exact ⟨_, _, _, rfl⟩
      split <;> exact ⟨_, _, _, rfl⟩

theorem section_ownPeerNetInfo (missing : SignalingError) (ctxId : Nat) (reqOrConnId : UInt32) :
    Section licence .other (fun s => (ownPeerNetInfoLocked missing ctxId reqOrConnId s).2) := by
  apply section_netInfo
  intro s
  simp only [ownPeerNetInfoLocked, takePeerNetInfoResultLocked]
  split
  · exact ⟨_, _, _, rfl⟩
  split
  · exact ⟨_, _, _, rfl⟩
  · cases lookup PeerNetInfoResult.connId reqOrConnId s.peerNetinfoResults with
    | none => exact ⟨_, _, _, rfl⟩
    | some result =>
      dsimp only
      by_cases own : result.ctxId = ctxId
      · rw [if_pos own]
        exact ⟨_, _, _, rfl⟩
      · rw [if_neg own]
        exact ⟨_, _, _, rfl⟩

theorem uses_createContextWith (request : ContextRequest) (now : Int) :
    (createContextWith request now).Uses (Section licence) := by
  apply (Prog.uses_locked (.structural (.createContext request now))).bind
  intro result
  cases result with
  | error error => exact Prog.uses_pure _
  | ok ctxId => exact uses_addContextRef.bind (fun _ => Prog.uses_pure _)

theorem uses_terminate (stops : licence.stops) :
    sceNpSignalingTerminate.Uses (Section licence) := by
  apply (Prog.uses_locked (.structural (.stopLibrary stops))).bind
  intro running
  split
  · exact Prog.uses_pure _
  · apply (Prog.uses_update (.structural (.stopDispatch stops))).bind
    intro _
    apply (Prog.uses_update (.structural .joinDispatch)).bind
    intro _
    apply (Prog.uses_locked (.structural (.reset stops))).bind
    intro contexts
    exact (Prog.uses_forEach (fun _ => uses_releaseContextRef)).bind (fun _ => Prog.uses_pure _)

end Catalogue

/-- Every operation is made of the sections of the catalogue. -/
theorem op_uses (op : Op) : op.program.Uses (Section op.licence) := by
  cases op with
  | signalingInitialize heapOk echoOk =>
    exact Prog.uses_update (.structural (.signalingInitialize heapOk echoOk))
  | signalingTerminate => exact (uses_terminate trivial).bind (fun _ => Prog.uses_pure _)
  | createContext npid valid callback callbackArg sdkVersion now =>
    refine Prog.Uses.bind ?_ (fun _ => Prog.uses_pure _)
    apply (uses_read _).bind
    intro running
    refine Prog.uses_ite (fun _ => ?_) (fun _ => Prog.uses_pure _)
    exact Prog.uses_ite (fun _ => uses_createContextWith _ now) (fun _ => Prog.uses_pure _)
  | createContextA account callback callbackArg sdkVersion now =>
    refine Prog.Uses.bind ?_ (fun _ => Prog.uses_pure _)
    apply (uses_read _).bind
    intro running
    refine Prog.uses_ite (fun _ => ?_) (fun _ => Prog.uses_pure _)
    cases account with
    | none => exact Prog.uses_pure _
    | some known =>
      exact Prog.uses_ite (fun _ => Prog.uses_pure _) (fun _ => uses_createContextWith _ now)
  | deleteContext ctxId =>
    refine Prog.Uses.bind ?_ (fun _ => Prog.uses_pure _)
    apply (uses_read _).bind
    intro activeConns
    cases activeConns with
    | none => exact Prog.uses_pure _
    | some activeConns =>
      apply (Prog.uses_forEach (uses_terminateSig1 trivial)).bind
      intro _
      apply (Prog.uses_update (.structural (.eraseContext ctxId))).bind
      intro _
      exact uses_releaseContextRef.bind (fun _ => Prog.uses_pure _)
  | activateSig1 ctxId peerNpid random now =>
    exact (uses_activateSig1 ctxId peerNpid random now).bind (fun _ => Prog.uses_pure _)
  | activateConnection ctxId peerNpid valid random now =>
    refine Prog.Uses.bind ?_ (fun _ => Prog.uses_pure _)
    apply (uses_read _).bind
    intro running
    refine Prog.uses_ite (fun _ => ?_) (fun _ => Prog.uses_pure _)
    exact Prog.uses_ite (fun _ => uses_activateSig1 ctxId peerNpid random now)
      (fun _ => Prog.uses_pure _)
  | activateConnectionA ctxId accountId platformType random now =>
    refine Prog.Uses.bind ?_ (fun _ => Prog.uses_pure _)
    apply (uses_read _).bind
    intro known
    cases known with
    | some peerNpid =>
      exact (uses_activateSig1 ctxId peerNpid random now).bind (fun _ => Prog.uses_pure _)
    | none =>
      exact Prog.uses_locked (.activateConnectionA ctxId accountId platformType random now)
  | deactivateSig1 connId => exact uses_deactivateSig1 trivial connId
  | terminateSig1 connId => exact uses_terminateSig1 trivial connId
  | deactivateConnection ctxId connId =>
    refine Prog.Uses.bind ?_ (fun _ => Prog.uses_pure _)
    apply (uses_read _).bind
    intro refused
    cases refused with
    | some error => exact Prog.uses_pure _
    | none => exact (uses_deactivateSig1 trivial connId).bind (fun _ => Prog.uses_pure _)
  | terminateConnection ctxId connId =>
    refine Prog.Uses.bind ?_ (fun _ => Prog.uses_pure _)
    apply (uses_read _).bind
    intro refused
    cases refused with
    | some error => exact Prog.uses_pure _
    | none =>
      apply (uses_terminateSig1 trivial connId).bind
      intro _
      exact (Prog.uses_update (section_removeConnection connId)).bind
        (fun _ => Prog.uses_pure _)
  | getPeerNetInfo ctxId valid externalIpv4 natRouteKind =>
    refine Prog.Uses.bind ?_ (fun _ => Prog.uses_pure _)
    apply (uses_read _).bind
    intro running
    refine Prog.uses_ite (fun _ => ?_) (fun _ => Prog.uses_pure _)
    exact Prog.uses_ite
      (fun _ => Prog.uses_locked (section_getPeerNetInfo ctxId externalIpv4 natRouteKind))
      (fun _ => Prog.uses_pure _)
  | getPeerNetInfoA ctxId externalIpv4 natRouteKind =>
    exact (Prog.uses_locked (section_getPeerNetInfoA ctxId externalIpv4 natRouteKind)).bind
      (fun _ => Prog.uses_pure _)
  | cancelPeerNetInfo ctxId reqOrConnId =>
    refine Prog.Uses.bind ?_ (fun _ => Prog.uses_pure _)
    exact (Prog.uses_locked (section_ownPeerNetInfo .reqNotFound ctxId reqOrConnId)).bind
      (fun _ => Prog.uses_pure _)
  | getPeerNetInfoResult ctxId connId =>
    exact (Prog.uses_locked (section_ownPeerNetInfo .resultNotFound ctxId connId)).bind
      (fun _ => Prog.uses_pure _)
  | getConnectionStatistics =>
    refine Prog.Uses.bind ?_ (fun _ => Prog.uses_pure _)
    apply (uses_read _).bind
    intro running
    refine Prog.uses_ite (fun _ => ?_) (fun _ => Prog.uses_pure _)
    exact (Prog.uses_locked (section_netInfo (fun s => ⟨_, _, _, rfl⟩))).bind
      (fun _ => Prog.uses_pure _)
  | dispatchThread =>
    apply (Prog.uses_locked (.structural (.takeDispatch trivial))).bind
    intro took
    exact Prog.uses_when (Prog.uses_update (.structural (.invokeCallback trivial)))
  | handshakePacket fromAddr fromPort packet now =>
    exact uses_handleHandshakePacket fromAddr fromPort packet now
  | controlPacket fromAddr fromPort packet random now =>
    exact uses_handleControlPacket id fromAddr fromPort random now
  | processPendingActivations resolve => exact uses_processPendingActivations resolve
  | stepPendingConnections now sendNow => exact uses_stepPendingConnections trivial now sendNow
  | startMatching2 ctx ready resolve now => exact uses_startMatching2 ctx ready resolve now
  | stopMatching2 ctxId errorCode matching2ErrorCode =>
    exact (uses_read _).bind (fun _ => Prog.uses_forEach (fun roomId =>
      uses_stopMatching2Room trivial ctxId roomId errorCode matching2ErrorCode))
  | stopMatching2Room ctxId roomId errorCode matching2ErrorCode =>
    exact uses_stopMatching2Room trivial ctxId roomId errorCode matching2ErrorCode
  | syncMatching2Peers now => exact uses_syncMatching2Peers now
  | matching2Changed contextObjects caches =>
    exact Prog.uses_update (section_kept (fun s _ => { Kept.refl composable_steady s with })
      (fun _ => SendsNoAck.of_eq rfl))
  | externalIpLearned externalIp =>
    exact Prog.uses_update (section_kept (fun s _ => { Kept.refl composable_steady s with })
      (fun _ => SendsNoAck.of_eq rfl))
  | rehash tables => exact Prog.uses_update (.structural (.rehash tables))

def anyLicence : Licence := ⟨fun _ => True, True, True, True⟩

theorem op_uses_any (op : Op) : op.program.Uses (Section anyLicence) :=
  (op_uses op).mono (fun _ _ member => member.mono (fun _ _ => trivial) (fun _ => trivial)
    (fun _ => trivial) (fun _ => trivial))

/-! ## Every section keeps the tables coherent -/

theorem tryContextIds_ne_zero {s : NpSignalingState} {tries candidate ctxId : Nat}
    (h : tryContextIds s tries candidate = some ctxId) (positive : candidate ≠ 0) : ctxId ≠ 0 := by
  induction tries generalizing candidate with
  | zero => cases h
  | succ tries ih =>
    rw [tryContextIds] at h
    split at h
    · exact Option.some.inj h ▸ positive
    · apply ih h
      split
      · exact Nat.one_ne_zero
      · exact Nat.succ_ne_zero candidate

/-- A context is made under a free id, or nothing changes. -/
theorem createContext_cases (request : ContextRequest) (now : Int) (s : NpSignalingState) :
    (∃ error, createContextLocked request now s = (.error error, s)) ∨
      ∃ ctxId, ctxId ≠ 0 ∧ s.context? ctxId = none ∧ s.initialized = true ∧
        createContextLocked request now s = (.ok ctxId, { s with
          lastAssignedContextId := ctxId
          contexts := store NpSignalingContext.ctxId (newContext request ctxId now) s.contexts }) := by
  unfold createContextLocked allocateContextIdLocked
  by_cases off : s.initialized = false
  · rw [if_pos off]
    exact Or.inl ⟨_, rfl⟩
  rw [if_neg off]
  extract_lets candidate
  cases found : tryContextIds s 8 candidate with
  | none => exact Or.inl ⟨_, rfl⟩
  | some ctxId =>
    have positive : candidate ≠ 0 := by
      unfold candidate
      split <;> simp
    exact Or.inr ⟨ctxId, tryContextIds_ne_zero found positive, tryContextIds_free found,
      by simpa using off, rfl⟩

theorem Coherent.createContext {s : NpSignalingState} (coherent : Coherent s)
    (request : ContextRequest) (now : Int) : Coherent (createContextLocked request now s).2 := by
  obtain ⟨error, same⟩ | ⟨ctxId, nonzero, -, -, made⟩ := createContext_cases request now s
  · rw [same]
    exact coherent
  · rw [made]
    have stored := coherent.storeContext (newContext request ctxId now) nonzero rfl
    exact { stored with }

theorem activateSig1_evolves {s : NpSignalingState} (coherent : Coherent s) (ctxId : Nat)
    (peerNpid : OrbisNpId) (random : UInt32) (now : Int) :
    let s' := (activateSig1Locked ctxId peerNpid peerNpid.handle random now s).2
    Evolves Steady [] s s' ∨ ∃ ci, Evolves Steady [ci] s s' := by
  obtain evolves | ⟨ci, -, -, -, none, makes⟩ :=
    activateSig1_cases coherent ctxId peerNpid random now
  · exact Or.inl evolves
  · have charged : Kept Steady s (chargeContext ctxId now s) := kept_chargeContext ctxId now
    refine Or.inr ⟨ci, ?_⟩
    obtain ⟨-, removed⟩ | ⟨reused, -, reuse, -⟩ :=
      reuseConnection_cases (coherent.of_kept charged) ⟨ctxId, peerNpid⟩
    · exact ((Evolves.of_kept charged).then_ removed).then_ makes.evolves
    · rw [reuse] at none
      cases none

theorem handleControl_steady {s : NpSignalingState} (coherent : Coherent s) (fromAddr : UInt32)
    (fromPort : UInt16) {packet : SignalingControl} (random : UInt32)
    (stays : packet.kind ≠ .close) :
    let s' := (handleControlLocked fromAddr fromPort packet random s).2
    Evolves Steady [] s s' ∨ ∃ ci, Evolves Steady [ci] s s' := by
  dsimp only
  unfold handleControlLocked
  split
  · obtain evolves | ⟨ctx, ci, -, -, -, -, makes⟩ :=
      activationRequest_cases coherent fromAddr fromPort packet random
    · exact Or.inl evolves
    · exact Or.inr ⟨ci, makes.evolves⟩
  · split
    · exact Or.inl (Evolves.refl s)
    · exact Or.inl (Evolves.of_kept (kept_controlOnTransport_steady _ stays))

theorem handleControl_evolves {s : NpSignalingState} (coherent : Coherent s) (fromAddr : UInt32)
    (fromPort : UInt16) (packet : SignalingControl) (random : UInt32) :
    let s' := (handleControlLocked fromAddr fromPort packet random s).2
    Evolves Quiet [] s s' ∨ ∃ ci, Evolves Quiet [ci] s s' := by
  dsimp only
  by_cases kind : packet.kind = .close
  · have ordinary : packet.kind ≠ .activationRequest := by simp [kind]
    rw [handleControlLocked, if_neg ordinary]
    split
    · exact Or.inl (Evolves.refl s)
    · exact Or.inl (Evolves.of_kept (kept_controlOnTransport packet _))
  · obtain evolves | ⟨ci, evolves⟩ := handleControl_steady coherent fromAddr fromPort random kind
    · exact Or.inl evolves.quiet
    · exact Or.inr ⟨ci, evolves.quiet⟩

/-- A section that does not change the tables as a whole is a chain of elementary changes. -/
theorem section_split {licence : Licence} {label : LockSection}
    {update : NpSignalingState → NpSignalingState} (member : Section licence label update)
    {s : NpSignalingState} (coherent : Coherent s) :
    (∃ made, Evolves AnyChange made s (update s)) ∨ Structural licence label update := by
  have anyChange {R : PeerTransport → PeerTransport → Prop} {made : List ConnectionInfo}
      (evolves : Evolves R made s (update s)) : ∃ made, Evolves AnyChange made s (update s) :=
    ⟨made, evolves.mono (fun _ _ _ => trivial)⟩
  cases member with
  | evolves evolves sends => exact Or.inl (anyChange (evolves s coherent))
  | closes _ kept sends => exact Or.inl (anyChange (Evolves.of_kept (kept s)))
  | startTransportHandshakeInitiator transportId now =>
    exact Or.inl (anyChange (Evolves.of_kept (kept_start_stirs transportId now)))
  | establishConnection transportId hint now =>
    exact Or.inl (anyChange (Evolves.of_kept
      (kept_establish composable_anyChange transportId hint now (fun _ _ _ => trivial))))
  | activateSig1 ctxId peerNpid random now =>
    obtain evolves | ⟨ci, evolves⟩ := activateSig1_evolves coherent ctxId peerNpid random now
    · exact Or.inl (anyChange evolves)
    · exact Or.inl (anyChange evolves)
  | activateConnectionA ctxId accountId platformType random now =>
    rcases activationStub_cases ctxId accountId platformType random now with
      evolves | ⟨ci, -, -, inserts⟩
    · exact Or.inl (anyChange evolves)
    · exact Or.inl (anyChange inserts.evolves)
  | handleControlPacket fromAddr fromPort packet random _ =>
    obtain evolves | ⟨ci, evolves⟩ := handleControl_evolves coherent fromAddr fromPort packet random
    · exact Or.inl (anyChange evolves)
    · exact Or.inl (anyChange evolves)
  | reply transportId packet now answered =>
    exact Or.inl (anyChange (Evolves.of_kept (kept_sendHandshake transportId packet now)))
  | structural member => exact Or.inr member

theorem takeDispatch_eq (s : NpSignalingState) :
    ∃ taken inHand, (takeDispatchLocked s).2 = { s with taken, inHand } := by
  unfold takeDispatchLocked
  split
  · exact ⟨_, _, rfl⟩
  · exact ⟨_, _, rfl⟩

theorem invokeCallback_eq (s : NpSignalingState) :
    ∃ inHand invoked, invokeCallback s = { s with inHand, invoked } := by
  unfold invokeCallback
  split
  · exact ⟨_, _, rfl⟩
  · exact ⟨_, _, rfl⟩

/-- Setting the library up, `StopDispatchThread` included when it fails. -/
theorem initialize_cases (heapOk echoOk : Bool) (s : NpSignalingState) :
    initializeLocked heapOk echoOk s = s ∨
      initializeLocked heapOk echoOk s = { s with initialized := true, dispatchStop := false } ∨
      initializeLocked heapOk echoOk s = stopDispatchLocked { s with initialized := false } := by
  simp only [initializeLocked]
  split
  · exact Or.inl rfl
  split
  · exact Or.inl rfl
  split
  · exact Or.inr (Or.inl rfl)
  · exact Or.inr (Or.inr rfl)

theorem section_coherent {licence : Licence} {label : LockSection}
    {update : NpSignalingState → NpSignalingState} (member : Section licence label update)
    {s : NpSignalingState} (coherent : Coherent s) : Coherent (update s) := by
  obtain ⟨made, evolves⟩ | structural := section_split member coherent
  · exact evolves.coherent coherent
  cases structural with
  | eraseTransport transportId sig1Conns => exact coherent.eraseTransport transportId sig1Conns
  | createContext request now => exact coherent.createContext request now
  | eraseContext ctxId => exact coherent.eraseContext ctxId
  | signalingInitialize heapOk echoOk =>
    rcases initialize_cases heapOk echoOk s with same | started | failed
    · rw [same]
      exact coherent
    · rw [started]
      exact { coherent with }
    · rw [failed]
      exact { coherent with }
  | stopLibrary _ => exact { coherent with }
  | stopDispatch _ => exact { coherent with }
  | joinDispatch => exact coherent
  | takeDispatch _ =>
    obtain ⟨taken, inHand, round⟩ := takeDispatch_eq s
    simp only [round]
    exact { coherent with }
  | invokeCallback _ =>
    obtain ⟨inHand, invoked, called⟩ := invokeCallback_eq s
    rw [called]
    exact { coherent with }
  | reset _ => exact coherent.reset
  | rehash tables =>
    unfold rehashLocked
    split
    · rename_i same
      obtain ⟨hx, hc, ht, hi⟩ := same
      exact coherent.perm (List.isPerm_iff.mp hx) (List.isPerm_iff.mp hc) (List.isPerm_iff.mp ht)
        (List.isPerm_iff.mp hi)
    · exact coherent

end NpSignaling
