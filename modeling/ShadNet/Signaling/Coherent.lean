import ShadNet.Signaling.Kept

/-!
# The tables agree with each other

`Coherent` holds in every state of the runtime, between any two critical
sections of any threads: keys are distinct, every connection has its context,
the index by `OrbisNpId` names exactly the connection it was made for, and a
transport's status is that of its state.
-/

namespace NpSignaling

open KeyedTable

structure Coherent (s : NpSignalingState) : Prop where
  contexts : Distinct NpSignalingContext.ctxId s.contexts
  connections : Distinct ConnectionInfo.connId s.connections
  peerTransports : Distinct PeerTransport.transportId s.peerTransports
  npidToConn : Distinct NpidEntry.key s.npidToConn
  contextIds : ∀ ctx ∈ s.contexts, ctx.ctxId ≠ 0 ∧ ctx.active = true
  connectionIds : ∀ ci ∈ s.connections, ci.connId ≠ 0
  owners : ∀ ci ∈ s.connections, ∃ ctx ∈ s.contexts, ctx.ctxId = ci.ctxId
  handles : ∀ ci ∈ s.connections, ci.onlineId = ci.npid.handle
  serials : ∀ ci ∈ s.connections, ci.serial < s.connectionsMade
  serialsDistinct : ∀ a ∈ s.connections, ∀ b ∈ s.connections, a.serial = b.serial → a = b
  transportIds : ∀ t ∈ s.peerTransports, t.transportId ≠ 0
  statuses : ∀ t ∈ s.peerTransports, t.status = statusFromState t.state
  indexed : ∀ e ∈ s.npidToConn, ∃ ci ∈ s.connections,
    ci.connId = e.connId ∧ ci.ctxId = e.key.ctxId ∧ ci.npid = e.key.npid
  staged : ∀ d ∈ s.staged, d.serial < s.connectionsMade

theorem coherent_start : Coherent {} := by
  constructor <;> simp [Distinct]

variable {s s' : NpSignalingState}

theorem Coherent.connection_of_mem (coherent : Coherent s) {ci : ConnectionInfo}
    (member : ci ∈ s.connections) : s.connection? ci.connId = some ci :=
  coherent.connections.lookup_of_mem member

theorem Coherent.transport_of_mem (coherent : Coherent s) {t : PeerTransport}
    (member : t ∈ s.peerTransports) : s.transport? t.transportId = some t :=
  coherent.peerTransports.lookup_of_mem member

theorem Coherent.context_of_mem (coherent : Coherent s) {ctx : NpSignalingContext}
    (member : ctx ∈ s.contexts) : s.context? ctx.ctxId = some ctx :=
  coherent.contexts.lookup_of_mem member

theorem Coherent.ctxId_ne_zero (coherent : Coherent s) {ci : ConnectionInfo}
    (member : ci ∈ s.connections) : ci.ctxId ≠ 0 := by
  obtain ⟨ctx, hctx, owner⟩ := coherent.owners ci member
  rw [← owner]
  exact (coherent.contextIds ctx hctx).1

theorem Coherent.of_kept {R : PeerTransport → PeerTransport → Prop} (coherent : Coherent s)
    (kept : Kept R s s') : Coherent s' where
  contexts := kept.contexts.distinct coherent.contexts
  connections := kept.connections.distinct coherent.connections
  peerTransports := kept.peerTransports.distinct coherent.peerTransports
  npidToConn := by
    rw [kept.npidToConn]
    exact coherent.npidToConn
  contextIds := by
    intro ctx' hctx'
    obtain ⟨ctx, hctx, sameId, same⟩ := kept.contexts.mem_new hctx'
    rw [sameId, same.active]
    exact coherent.contextIds ctx hctx
  connectionIds := by
    intro ci' hci'
    obtain ⟨ci, hci, sameId, -⟩ := kept.connections.mem_new hci'
    rw [sameId]
    exact coherent.connectionIds ci hci
  owners := by
    intro ci' hci'
    obtain ⟨ci, hci, -, same⟩ := kept.connections.mem_new hci'
    obtain ⟨ctx, hctx, owner⟩ := coherent.owners ci hci
    obtain ⟨ctx', hctx', sameId, -⟩ := kept.contexts.mem_old hctx
    exact ⟨ctx', hctx', by rw [sameId, owner, same.ctxId]⟩
  handles := by
    intro ci' hci'
    obtain ⟨ci, hci, -, same⟩ := kept.connections.mem_new hci'
    rw [same.onlineId, same.npid]
    exact coherent.handles ci hci
  serials := by
    intro ci' hci'
    obtain ⟨ci, hci, -, same⟩ := kept.connections.mem_new hci'
    rw [same.serial, kept.connectionsMade]
    exact coherent.serials ci hci
  serialsDistinct := by
    intro a' ha' b' hb' equal
    obtain ⟨a, ha, idA, sameA⟩ := kept.connections.mem_new ha'
    obtain ⟨b, hb, idB, sameB⟩ := kept.connections.mem_new hb'
    have old : a = b := coherent.serialsDistinct a ha b hb
      (by rw [← sameA.serial, ← sameB.serial, equal])
    have distinct := kept.connections.distinct coherent.connections
    exact distinct.eq_of_key ha' hb' (by rw [idA, idB, old])
  transportIds := by
    intro t' ht'
    obtain ⟨t, ht, sameId, -⟩ := kept.peerTransports.mem_new ht'
    rw [sameId]
    exact coherent.transportIds t ht
  statuses := by
    intro t' ht'
    obtain ⟨t, ht, -, same, -⟩ := kept.peerTransports.mem_new ht'
    exact same.status (coherent.statuses t ht)
  indexed := by
    intro e he
    rw [kept.npidToConn] at he
    obtain ⟨ci, hci, sameConn, ctxId, npid⟩ := coherent.indexed e he
    obtain ⟨ci', hci', sameId, same⟩ := kept.connections.mem_old hci
    exact ⟨ci', hci', sameId.trans sameConn, same.ctxId.trans ctxId, same.npid.trans npid⟩
  staged := by
    intro d hd
    obtain ⟨news, appended, owned⟩ := kept.staged
    rw [appended] at hd
    rw [kept.connectionsMade]
    rcases List.mem_append.mp hd with old | new
    · exact coherent.staged d old
    · obtain ⟨ci, hci, serial⟩ := owned d new
      rw [← serial]
      exact coherent.serials ci hci

/-! ## Removal -/

theorem removeConnection_connections (connId : Nat) (s : NpSignalingState) :
    (removeConnectionLocked connId s).connections =
      remove ConnectionInfo.connId connId s.connections := by
  unfold removeConnectionLocked
  cases found : s.connection? connId with
  | none => exact (remove_of_lookup_none found).symm
  | some ci => rfl

/-- Apart from the connection and its index entry a removal changes nothing. -/
theorem removeConnection_eq (connId : Nat) (s : NpSignalingState) :
    ∃ npidToConn, removeConnectionLocked connId s =
      { s with
        npidToConn
        connections := remove ConnectionInfo.connId connId s.connections } := by
  refine ⟨(removeConnectionLocked connId s).npidToConn, ?_⟩
  rw [← removeConnection_connections connId s]
  unfold removeConnectionLocked
  cases s.connection? connId <;> rfl

theorem removeConnection_index_subset (connId : Nat) (s : NpSignalingState) :
    (removeConnectionLocked connId s).npidToConn.Sublist s.npidToConn := by
  unfold removeConnectionLocked
  cases s.connection? connId with
  | none => exact List.Sublist.refl _
  | some ci =>
    dsimp only
    cases s.indexed? ⟨ci.ctxId, ci.npid⟩ with
    | none => exact List.Sublist.refl _
    | some entry =>
      dsimp only
      split
      · exact List.filter_sublist
      · exact List.Sublist.refl _

/-- The entry of a removed connection goes with it: it is the only key that names it. -/
theorem removeConnection_index (coherent : Coherent s) {connId : Nat} {e : NpidEntry}
    (he : e ∈ (removeConnectionLocked connId s).npidToConn) : e.connId ≠ connId := by
  intro same
  have old : e ∈ s.npidToConn := (removeConnection_index_subset connId s).subset he
  obtain ⟨ci, hci, sameConn, ctxId, npid⟩ := coherent.indexed e old
  have key : (⟨ci.ctxId, ci.npid⟩ : CtxNpIdKey) = e.key := by rw [ctxId, npid]
  have found : s.connection? connId = some ci := by
    rw [← same, ← sameConn]
    exact coherent.connection_of_mem hci
  have entry : s.indexed? e.key = some e := coherent.npidToConn.lookup_of_mem old
  have gone : e ∈ remove NpidEntry.key e.key s.npidToConn := by
    simpa only [removeConnectionLocked, found, key, entry, same, if_pos] using he
  exact (mem_remove.mp gone).2 rfl

theorem Coherent.removeConnection (coherent : Coherent s) (connId : Nat) :
    Coherent (removeConnectionLocked connId s) := by
  have index := removeConnection_index_subset connId s
  have unnamed : ∀ e ∈ (removeConnectionLocked connId s).npidToConn, e.connId ≠ connId :=
    fun _ he => removeConnection_index coherent he
  obtain ⟨npidToConn, removed⟩ := removeConnection_eq connId s
  rw [removed] at index unnamed ⊢
  exact
    { contexts := coherent.contexts
      connections := coherent.connections.remove
      peerTransports := coherent.peerTransports
      npidToConn := coherent.npidToConn.sublist (index.map NpidEntry.key)
      contextIds := coherent.contextIds
      connectionIds := fun ci hci => coherent.connectionIds ci (mem_remove.mp hci).1
      owners := fun ci hci => coherent.owners ci (mem_remove.mp hci).1
      handles := fun ci hci => coherent.handles ci (mem_remove.mp hci).1
      serials := fun ci hci => coherent.serials ci (mem_remove.mp hci).1
      serialsDistinct := fun a ha b hb =>
        coherent.serialsDistinct a (mem_remove.mp ha).1 b (mem_remove.mp hb).1
      transportIds := coherent.transportIds
      statuses := coherent.statuses
      indexed := by
        intro e he
        obtain ⟨ci, hci, sameConn, owner⟩ := coherent.indexed e (index.subset he)
        exact ⟨ci, mem_remove.mpr ⟨hci, sameConn ▸ unnamed e he⟩, sameConn, owner⟩
      staged := coherent.staged }

theorem Coherent.removeConnections (coherent : Coherent s) (connIds : List Nat) :
    Coherent (connIds.foldl (fun s connId => removeConnectionLocked connId s) s) := by
  induction connIds generalizing s with
  | nil => exact coherent
  | cons connId rest ih => exact ih (coherent.removeConnection connId)

theorem removeConnections_connections (connIds : List Nat) (s : NpSignalingState) :
    (connIds.foldl (fun s connId => removeConnectionLocked connId s) s).connections =
      s.connections.filter (fun ci => decide (ci.connId ∉ connIds)) := by
  induction connIds generalizing s with
  | nil => simp
  | cons connId rest ih =>
    rw [List.foldl_cons, ih, removeConnection_connections, remove, List.filter_filter]
    apply List.filter_congr
    intro ci _
    simp only [List.mem_cons, not_or, Bool.decide_and, Bool.and_comm]

theorem removeConnections_eq (connIds : List Nat) (s : NpSignalingState) :
    ∃ npidToConn, connIds.foldl (fun s connId => removeConnectionLocked connId s) s =
      { s with
        npidToConn
        connections := s.connections.filter (fun ci => decide (ci.connId ∉ connIds)) } := by
  rw [← removeConnections_connections connIds s]
  induction connIds generalizing s with
  | nil => exact ⟨s.npidToConn, rfl⟩
  | cons connId rest ih =>
    obtain ⟨npidToConn, removed⟩ := removeConnection_eq connId s
    obtain ⟨npidToConn', rest'⟩ := ih (removeConnectionLocked connId s)
    refine ⟨npidToConn', ?_⟩
    rw [List.foldl_cons, rest', removed]

theorem eraseTransport_eq (transportId : Nat) (conns : List Nat) (s : NpSignalingState) :
    ∃ npidToConn, eraseTransportLocked transportId conns s =
      { s with
        npidToConn
        connections := s.connections.filter (fun ci => decide (ci.connId ∉ conns))
        peerTransports := remove PeerTransport.transportId transportId s.peerTransports } := by
  obtain ⟨npidToConn, gone⟩ := removeConnections_eq conns s
  refine ⟨npidToConn, ?_⟩
  simp only [eraseTransportLocked, gone]

theorem eraseContext_eq (ctxId : Nat) (s : NpSignalingState) :
    ∃ npidToConn, eraseContextLocked ctxId s =
      { s with
        npidToConn
        connections := s.connections.filter (fun ci => decide
          (ci.connId ∉ (s.connections.filter (fun ci => ci.ctxId = ctxId)).map (·.connId)))
        peerNetinfoResults := s.peerNetinfoResults.filter (fun result => result.ctxId ≠ ctxId)
        contexts := remove NpSignalingContext.ctxId ctxId s.contexts } := by
  obtain ⟨npidToConn, gone⟩ := removeConnections_eq
    ((s.connections.filter (fun ci => ci.ctxId = ctxId)).map (·.connId)) s
  refine ⟨npidToConn, ?_⟩
  simp only [eraseContextLocked, removeContextConnectionsLocked, gone]

theorem Coherent.eraseTransport (coherent : Coherent s) (transportId : Nat) (conns : List Nat) :
    Coherent (eraseTransportLocked transportId conns s) :=
  have removed := coherent.removeConnections conns
  { removed with
    peerTransports := removed.peerTransports.remove
    transportIds := fun t ht => removed.transportIds t (mem_remove.mp ht).1
    statuses := fun t ht => removed.statuses t (mem_remove.mp ht).1 }

theorem Coherent.eraseContext (coherent : Coherent s) (ctxId : Nat) :
    Coherent (eraseContextLocked ctxId s) := by
  have removed := coherent.removeConnections
    ((s.connections.filter (fun ci => ci.ctxId = ctxId)).map (·.connId))
  obtain ⟨npidToConn, gone⟩ := removeConnections_eq
    ((s.connections.filter (fun ci => ci.ctxId = ctxId)).map (·.connId)) s
  unfold eraseContextLocked removeContextConnectionsLocked
  rw [gone] at removed ⊢
  exact
    { removed with
      contexts := coherent.contexts.remove
      contextIds := fun ctx hctx => coherent.contextIds ctx (mem_remove.mp hctx).1
      owners := by
        intro ci hci
        obtain ⟨ctx, hctx, owner⟩ := removed.owners ci hci
        refine ⟨ctx, mem_remove.mpr ⟨hctx, ?_⟩, owner⟩
        intro same
        obtain ⟨member, left⟩ := List.mem_filter.mp hci
        apply (of_decide_eq_true left)
        exact List.mem_map.mpr ⟨ci, List.mem_filter.mpr
          ⟨member, decide_eq_true (owner.symm.trans same)⟩, rfl⟩ }

theorem Coherent.reset (coherent : Coherent s) : Coherent (resetSig1Data s) :=
  { coherent with
    contexts := List.nodup_nil
    connections := List.nodup_nil
    npidToConn := List.nodup_nil
    contextIds := by simp [resetSig1Data]
    connectionIds := by simp [resetSig1Data]
    owners := by simp [resetSig1Data]
    handles := by simp [resetSig1Data]
    serials := by simp [resetSig1Data]
    serialsDistinct := by simp [resetSig1Data]
    indexed := by simp [resetSig1Data] }

/-! ## Creation -/

theorem Coherent.insert (coherent : Coherent s) {ci : ConnectionInfo}
    (connId : ci.connId ≠ 0) (free : s.connection? ci.connId = none)
    (serial : ci.serial = s.connectionsMade)
    (owner : ∃ ctx ∈ s.contexts, ctx.ctxId = ci.ctxId) (handle : ci.onlineId = ci.npid.handle) :
    Coherent (insertConnection ci s) := by
  have members : ∀ other ∈ (insertConnection ci s).connections,
      other ∈ s.connections ∨ other = ci := by
    intro other h
    rcases mem_store.mp h with ⟨old, -⟩ | new
    · exact Or.inl old
    · exact Or.inr new
  have fresh : ∀ other ∈ s.connections, other.connId ≠ ci.connId := lookup_none.mp free
  exact
    { coherent with
      connections := coherent.connections.store
      connectionIds := by
        intro other h
        rcases members other h with old | rfl
        · exact coherent.connectionIds other old
        · exact connId
      owners := by
        intro other h
        rcases members other h with old | rfl
        · exact coherent.owners other old
        · exact owner
      handles := by
        intro other h
        rcases members other h with old | rfl
        · exact coherent.handles other old
        · exact handle
      serials := by
        intro other h
        rcases members other h with old | rfl
        · exact Nat.lt_succ_of_lt (coherent.serials other old)
        · exact serial ▸ Nat.lt_succ_self _
      serialsDistinct := by
        intro a ha b hb same
        rcases members a ha with oldA | rfl <;> rcases members b hb with oldB | rfl
        · exact coherent.serialsDistinct a oldA b oldB same
        · exact absurd (same.trans serial) (Nat.ne_of_lt (coherent.serials a oldA))
        · exact absurd (same.symm.trans serial) (Nat.ne_of_lt (coherent.serials b oldB))
        · rfl
      indexed := by
        intro e he
        obtain ⟨other, member, sameConn, key⟩ := coherent.indexed e he
        exact ⟨other, mem_store.mpr (Or.inl ⟨member, fresh other member⟩), sameConn, key⟩
      staged := fun d hd => Nat.lt_succ_of_lt (coherent.staged d hd) }

theorem Coherent.index (coherent : Coherent s) {ci : ConnectionInfo}
    (member : ci ∈ s.connections) :
    Coherent (indexConnection ci.ctxId ci.npid ci.connId s) :=
  { coherent with
    npidToConn := coherent.npidToConn.store
    indexed := by
      intro e he
      rcases mem_store.mp he with ⟨old, -⟩ | rfl
      · exact coherent.indexed e old
      · exact ⟨ci, member, rfl, rfl, rfl⟩ }

theorem Coherent.storeTransport (coherent : Coherent s) {t : PeerTransport}
    (transportId : t.transportId ≠ 0) (status : t.status = statusFromState t.state) :
    Coherent { s with peerTransports := store PeerTransport.transportId t s.peerTransports } :=
  { coherent with
    peerTransports := coherent.peerTransports.store
    transportIds := by
      intro other h
      rcases mem_store.mp h with ⟨old, -⟩ | rfl
      · exact coherent.transportIds other old
      · exact transportId
    statuses := by
      intro other h
      rcases mem_store.mp h with ⟨old, -⟩ | rfl
      · exact coherent.statuses other old
      · exact status }

theorem Coherent.storeContext (coherent : Coherent s) (ctx : NpSignalingContext)
    (ctxId : ctx.ctxId ≠ 0) (active : ctx.active = true) :
    Coherent { s with contexts := store NpSignalingContext.ctxId ctx s.contexts } :=
  { coherent with
    contexts := coherent.contexts.store
    contextIds := by
      intro other h
      rcases mem_store.mp h with ⟨old, -⟩ | rfl
      · exact coherent.contextIds other old
      · exact ⟨ctxId, active⟩
    owners := by
      intro ci hci
      obtain ⟨other, member, owner⟩ := coherent.owners ci hci
      by_cases same : other.ctxId = ctx.ctxId
      · exact ⟨ctx, mem_store.mpr (Or.inr rfl), same.symm.trans owner⟩
      · exact ⟨other, mem_store.mpr (Or.inl ⟨member, same⟩), owner⟩ }

theorem Coherent.perm (coherent : Coherent s) {contexts : List NpSignalingContext}
    {connections : List ConnectionInfo} {peerTransports : List PeerTransport}
    {npidToConn : List NpidEntry} (hx : contexts.Perm s.contexts)
    (hc : connections.Perm s.connections) (ht : peerTransports.Perm s.peerTransports)
    (hi : npidToConn.Perm s.npidToConn) :
    Coherent { s with contexts, connections, peerTransports, npidToConn } where
  contexts := coherent.contexts.perm hx.symm
  connections := coherent.connections.perm hc.symm
  peerTransports := coherent.peerTransports.perm ht.symm
  npidToConn := coherent.npidToConn.perm hi.symm
  contextIds ctx hctx := coherent.contextIds ctx (hx.mem_iff.mp hctx)
  connectionIds ci hci := coherent.connectionIds ci (hc.mem_iff.mp hci)
  owners ci hci := by
    obtain ⟨ctx, member, owner⟩ := coherent.owners ci (hc.mem_iff.mp hci)
    exact ⟨ctx, hx.mem_iff.mpr member, owner⟩
  handles ci hci := coherent.handles ci (hc.mem_iff.mp hci)
  serials ci hci := coherent.serials ci (hc.mem_iff.mp hci)
  serialsDistinct a ha b hb :=
    coherent.serialsDistinct a (hc.mem_iff.mp ha) b (hc.mem_iff.mp hb)
  transportIds t h := coherent.transportIds t (ht.mem_iff.mp h)
  statuses t h := coherent.statuses t (ht.mem_iff.mp h)
  indexed e he := by
    obtain ⟨ci, member, key⟩ := coherent.indexed e (hi.mem_iff.mp he)
    exact ⟨ci, hc.mem_iff.mpr member, key⟩
  staged := coherent.staged

end NpSignaling
