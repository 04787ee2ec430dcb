import ShadNet.Signaling.Connections

/-!
# The index of the connections

`npid_to_conn` names the connection a context has to a peer. An entry never outlives its
connection, and a connection is found through its entry unless it was made without a peer. The one
exception is an activation request that makes a second connection for the same key: the local
activation removes an inactive connection before it makes another, the request does not, and takes
its entry over.
-/

namespace NpSignaling

open KeyedTable LockProgram

/-- The entries and the connections that are not `stubs` go together. -/
def IndexHolds (stubs : List Nat) (s : NpSignalingState) : Prop :=
  (∀ e ∈ s.npidToConn, ∃ ci ∈ s.connection? e.connId, entryOf ci = e) ∧
    ∀ ci ∈ s.connections, ci.serial ∉ stubs →
      s.indexed? ⟨ci.ctxId, ci.npid⟩ = some (entryOf ci)

instance (stubs : List Nat) (s : NpSignalingState) : Decidable (IndexHolds stubs s) :=
  inferInstanceAs (Decidable
    ((∀ e ∈ s.npidToConn, ∃ ci ∈ s.connection? e.connId, entryOf ci = e) ∧
      ∀ ci ∈ s.connections, ci.serial ∉ stubs →
        s.indexed? ⟨ci.ctxId, ci.npid⟩ = some (entryOf ci)))

/-- What `IndexHolds` needs to be kept. -/
structure Filed (stubs : List Nat) (s : NpSignalingState) : Prop where
  coherent : Coherent s
  finds : ∀ ci ∈ s.connections, ci.serial ∉ stubs → entryOf ci ∈ s.npidToConn
  named : ∀ ci ∈ s.connections, ci.serial ∈ stubs → ∀ e ∈ s.npidToConn, e.connId ≠ ci.connId
  made : ∀ n ∈ stubs, n < s.connectionsMade

theorem filed_start : Filed [] {} := by
  refine ⟨coherent_start, ?_, ?_, ?_⟩ <;> simp

section Steps

variable {R : PeerTransport → PeerTransport → Prop} {stubs : List Nat}
  {s s' : NpSignalingState} {ci : ConnectionInfo}

theorem Filed.holds (filed : Filed stubs s) : IndexHolds stubs s := by
  constructor
  · intro e member
    obtain ⟨ci, there, connId, ctxId, npid⟩ := filed.coherent.indexed e member
    refine ⟨ci, ?_, ?_⟩
    · rw [← connId]
      exact filed.coherent.connection_of_mem there
    · rw [entryOf, connId, ctxId, npid]
  · intro ci member real
    exact filed.coherent.npidToConn.lookup_of_mem (filed.finds ci member real)

/-- The entry of a connection is the only one that names it. -/
theorem Filed.entry_of_key (filed : Filed stubs s) {e : NpidEntry} (member : e ∈ s.npidToConn)
    (real : entryOf ci ∈ s.npidToConn) (key : e.key = ⟨ci.ctxId, ci.npid⟩) : e = entryOf ci :=
  filed.coherent.npidToConn.eq_of_key member real key

theorem Filed.of_same (filed : Filed stubs s) (coherent : Coherent s')
    (connections : s'.connections = s.connections) (index : s'.npidToConn = s.npidToConn)
    (made : s'.connectionsMade = s.connectionsMade) : Filed stubs s' where
  coherent
  finds := by
    rw [connections, index]
    exact filed.finds
  named := by
    rw [connections, index]
    exact filed.named
  made := by
    rw [made]
    exact filed.made

theorem Filed.of_kept (filed : Filed stubs s) (kept : Kept R s s') : Filed stubs s' where
  coherent := filed.coherent.of_kept kept
  finds := by
    intro ci' member real
    obtain ⟨ci, old, sameId, same⟩ := kept.connections.mem_new member
    rw [entryOf, same.ctxId, same.npid, sameId, kept.npidToConn]
    exact filed.finds ci old (same.serial ▸ real)
  named := by
    intro ci' member stub e entry
    obtain ⟨ci, old, sameId, same⟩ := kept.connections.mem_new member
    rw [kept.npidToConn] at entry
    rw [sameId]
    exact filed.named ci old (same.serial ▸ stub) e entry
  made := by
    rw [kept.connectionsMade]
    exact filed.made

/-- A removal takes the entry of the removed connection and no other. -/
theorem removeConnection_entry (coherent : Coherent s) {connId : Nat} {e : NpidEntry}
    (member : e ∈ s.npidToConn) (other : e.connId ≠ connId) :
    e ∈ (removeConnectionLocked connId s).npidToConn := by
  unfold removeConnectionLocked
  cases found : s.connection? connId with
  | none => exact member
  | some ci =>
    dsimp only
    cases indexed : s.indexed? ⟨ci.ctxId, ci.npid⟩ with
    | none => exact member
    | some entry =>
      dsimp only
      split
      · next named =>
        refine mem_remove.mpr ⟨member, fun key => ?_⟩
        obtain ⟨there, sameKey⟩ := lookup_some indexed
        have same := coherent.npidToConn.eq_of_key member there (key.trans sameKey.symm)
        exact other (same ▸ named)
      · exact member

theorem Filed.removeConnection (filed : Filed stubs s) (connId : Nat) :
    Filed stubs (removeConnectionLocked connId s) := by
  have index := removeConnection_index_subset connId s
  have left : ∀ ci ∈ (removeConnectionLocked connId s).connections,
      ci ∈ s.connections ∧ ci.connId ≠ connId := by
    intro ci member
    rw [removeConnection_connections] at member
    exact mem_remove.mp member
  refine ⟨filed.coherent.removeConnection connId, ?_, ?_, ?_⟩
  · intro ci member real
    obtain ⟨old, other⟩ := left ci member
    exact removeConnection_entry filed.coherent (filed.finds ci old real) other
  · intro ci member stub e entry
    exact filed.named ci (left ci member).1 stub e (index.subset entry)
  · obtain ⟨npidToConn, removed⟩ := removeConnection_eq connId s
    rw [removed]
    exact filed.made

theorem Filed.removeConnections (filed : Filed stubs s) (connIds : List Nat) :
    Filed stubs (connIds.foldl (fun s connId => removeConnectionLocked connId s) s) := by
  induction connIds generalizing s with
  | nil => exact filed
  | cons connId rest ih => exact ih (filed.removeConnection connId)

/-- Writing an entry that is there changes nothing. -/
theorem Filed.index (filed : Filed stubs s) (member : ci ∈ s.connections)
    (known : entryOf ci ∈ s.npidToConn) :
    Filed stubs (indexConnection ci.ctxId ci.npid ci.connId s) := by
  have same : ∀ e, e ∈ (indexConnection ci.ctxId ci.npid ci.connId s).npidToConn ↔
      e ∈ s.npidToConn := by
    intro e
    refine mem_store.trans ⟨?_, fun there => ?_⟩
    · rintro (⟨old, -⟩ | rfl)
      · exact old
      · exact known
    · by_cases key : e.key = ⟨ci.ctxId, ci.npid⟩
      · exact Or.inr (filed.entry_of_key there known key)
      · exact Or.inl ⟨there, key⟩
  refine ⟨filed.coherent.index member, ?_, ?_, filed.made⟩
  · intro other there real
    exact (same _).mpr (filed.finds other there real)
  · intro other there stub e entry
    exact filed.named other there stub e ((same e).mp entry)

theorem Filed.evolves {made : List ConnectionInfo} (filed : Filed stubs s)
    (evolves : Evolves R made s s') (none : made = []) : Filed stubs s' := by
  induction evolves with
  | refl _ => exact filed
  | kept _ kept ih => exact (ih filed none).of_kept kept
  | removed connId _ ih => exact (ih filed none).removeConnection connId
  | created first created ih =>
    have coherent := (first.created created).coherent filed.coherent
    obtain ⟨t, seed, -, -, -, -, -, -, rfl⟩ := created
    exact (ih filed none).of_same coherent rfl rfl rfl
  | inserted _ _ _ _ _ _ _ _ => exact absurd none (by simp)
  | indexed ci member own _ ih =>
    subst none
    exact (ih filed rfl).index member (own.resolve_left (List.not_mem_nil))

theorem NewConnection.fresh (new : NewConnection ci s) {other : ConnectionInfo}
    (member : other ∈ s.connections) : other.connId ≠ ci.connId :=
  lookup_none.mp new.free other member

theorem NewConnection.coherent (new : NewConnection ci s) (coherent : Coherent s) :
    Coherent (insertConnection ci s) :=
  ((Evolves.refl s).insert new).coherent coherent

/-- A connection may stay out of the index where it is one of the `stubs`. -/
theorem Filed.insert (filed : Filed stubs s) (new : NewConnection ci s) :
    Filed (s.connectionsMade :: stubs) (insertConnection ci s) := by
  refine ⟨new.coherent filed.coherent, ?_, ?_, ?_⟩
  · intro other member real
    rcases mem_store.mp member with ⟨old, -⟩ | rfl
    · exact filed.finds other old fun stub => real (List.mem_cons_of_mem _ stub)
    · exact absurd (new.serial ▸ List.mem_cons_self) real
  · intro other member stub e entry
    rcases mem_store.mp member with ⟨old, -⟩ | rfl
    · have before := filed.coherent.serials other old
      refine filed.named other old ((List.mem_cons.mp stub).resolve_left ?_) e entry
      omega
    · obtain ⟨owned, there, connId, -⟩ := filed.coherent.indexed e entry
      rw [← connId]
      exact new.fresh there
  · intro n member
    rcases List.mem_cons.mp member with rfl | old
    · exact Nat.lt_succ_self _
    · exact Nat.lt_succ_of_lt (filed.made n old)

/-- A connection is put into the index where no other has its key. -/
theorem Filed.file (filed : Filed stubs s) (new : NewConnection ci s)
    (alone : ∀ other ∈ s.connections, other.serial ∉ stubs →
      (⟨other.ctxId, other.npid⟩ : CtxNpIdKey) ≠ ⟨ci.ctxId, ci.npid⟩) :
    Filed stubs (indexConnection ci.ctxId ci.npid ci.connId (insertConnection ci s)) := by
  have real : ci.serial ∉ stubs := by
    intro stub
    have before := filed.made _ stub
    rw [new.serial] at before
    omega
  refine ⟨(new.coherent filed.coherent).index (mem_store.mpr (Or.inr rfl)), ?_, ?_, ?_⟩
  · intro other member realOther
    rcases mem_store.mp member with ⟨old, -⟩ | rfl
    · exact mem_store.mpr (Or.inl ⟨filed.finds other old realOther, alone other old realOther⟩)
    · exact mem_store.mpr (Or.inr rfl)
  · intro other member stub e entry
    rcases mem_store.mp member with ⟨old, different⟩ | rfl
    · rcases mem_store.mp entry with ⟨there, -⟩ | rfl
      · exact filed.named other old stub e there
      · exact different.symm
    · exact absurd stub real
  · intro n member
    exact Nat.lt_succ_of_lt (filed.made n member)

theorem Filed.makes (filed : Filed stubs s) (makes : Makes ci s s')
    (alone : ∀ other ∈ s.connections, other.serial ∉ stubs →
      (⟨other.ctxId, other.npid⟩ : CtxNpIdKey) ≠ ⟨ci.ctxId, ci.npid⟩) : Filed stubs s' := by
  obtain ⟨s₁, before, new, after⟩ := makes
  refine ((filed.evolves before rfl).file new ?_).of_kept after
  intro other' member real
  rcases before.origin member with ⟨other, old, -, same⟩ | ⟨_, none, -⟩
  · rw [same.ctxId, same.npid]
    exact alone other old (same.serial ▸ real)
  · cases none

end Steps

/-! ## Where ids are left -/

/-- The search for a connection id goes through the range, and tries the seed before. -/
def ConnectionIdLeft (s : NpSignalingState) : Prop :=
  FreeConnectionId s ∨ s.connectionIdSeed ≠ 0 ∧ s.connection? s.connectionIdSeed = none

def TransportIdLeft (s : NpSignalingState) : Prop :=
  FreeTransportId s ∨ s.transportIdSeed ≠ 0 ∧ s.transport? s.transportIdSeed = none

section Ids

variable {s s' : NpSignalingState}

theorem trySeeds_range {taken : Nat → Bool} {tries seed id following : Nat}
    (h : trySeeds taken tries seed = (some id, following)) : id ≤ 0x7fff ∨ id = seed := by
  induction tries generalizing seed with
  | zero => simp [trySeeds] at h
  | succ tries ih =>
    rw [trySeeds] at h
    by_cases free : seed ≠ 0 ∧ taken seed = false
    · rw [if_pos free] at h
      obtain ⟨rfl, -⟩ := by simpa using h
      exact Or.inr rfl
    · rw [if_neg free] at h
      rcases ih h with inRange | rfl
      · exact Or.inl inRange
      · left
        split <;> omega

theorem trySeeds_seed {taken : Nat → Bool} {tries seed : Nat} (nonzero : seed ≠ 0)
    (free : taken seed = false) (some_ : tries ≠ 0) : (trySeeds taken tries seed).1 ≠ none := by
  obtain ⟨tries, rfl⟩ := Nat.exists_eq_succ_of_ne_zero some_
  rw [trySeeds, if_pos ⟨nonzero, free⟩]
  exact Option.some_ne_none seed

theorem mem_range {id : Nat} (nonzero : id ≠ 0) (inRange : id ≤ 0x7fff) :
    id ∈ List.range' 1 0x7fff := by
  rw [List.mem_range'_1]
  omega

theorem allocateConnectionId_iff (random : UInt32) :
    (allocateConnectionIdLocked random s).1 ≠ none ↔ ConnectionIdLeft s := by
  constructor
  · intro some_
    cases allocated : allocateConnectionIdLocked random s with
    | mk connId s₁ =>
      rw [allocated] at some_
      obtain ⟨id, rfl⟩ := Option.ne_none_iff_exists'.mp some_
      obtain ⟨nonzero, free⟩ := allocateConnectionIdLocked_free allocated
      simp only [allocateConnectionIdLocked, Prod.mk.injEq] at allocated
      rcases trySeeds_range (Prod.ext allocated.1 rfl) with inRange | named
      · exact Or.inl ⟨id, mem_range nonzero inRange, free⟩
      · by_cases unset : s.connectionIdSeed = 0
        · refine Or.inl ⟨id, mem_range nonzero ?_, free⟩
          rw [named, if_pos unset]
          split <;> omega
        · rw [if_neg unset] at named
          exact Or.inr ⟨unset, named ▸ free⟩
  · rintro (⟨id, member, free⟩ | ⟨nonzero, free⟩)
    · have bounds := List.mem_range'_1.mp member
      exact allocateConnectionIdLocked_some random (by omega) (by omega) free
    · simp only [allocateConnectionIdLocked, if_neg nonzero]
      exact trySeeds_seed nonzero (by simp [free]) (by decide)

theorem allocateTransportId_iff :
    (allocateTransportIdLocked s).1 ≠ none ↔ TransportIdLeft s := by
  constructor
  · intro some_
    cases allocated : allocateTransportIdLocked s with
    | mk transportId s₁ =>
      rw [allocated] at some_
      obtain ⟨id, rfl⟩ := Option.ne_none_iff_exists'.mp some_
      obtain ⟨nonzero, free⟩ := allocateTransportIdLocked_free allocated
      simp only [allocateTransportIdLocked, Prod.mk.injEq] at allocated
      rcases trySeeds_range (Prod.ext allocated.1 rfl) with inRange | named
      · exact Or.inl ⟨id, mem_range nonzero inRange, free⟩
      · by_cases unset : s.transportIdSeed = 0
        · refine Or.inl ⟨id, mem_range nonzero ?_, free⟩
          rw [named, if_pos unset]
          decide
        · rw [if_neg unset] at named
          exact Or.inr ⟨unset, named ▸ free⟩
  · rintro (⟨id, member, free⟩ | ⟨nonzero, free⟩)
    · have bounds := List.mem_range'_1.mp member
      exact allocateTransportIdLocked_some (by omega) (by omega) free
    · simp only [allocateTransportIdLocked, if_neg nonzero]
      exact trySeeds_seed nonzero (by simp [free]) (by decide)

end Ids

/-! ## The request that makes a connection -/

/-- The context has no live connection to the sender, and the ids that are needed are left. -/
def RequestMakes (packet : SignalingControl) (ctx : NpSignalingContext) (s : NpSignalingState) :
    Prop :=
  findConnectionByOnlineIdLocked (packetOnlineIdToString packet.onlineIdFrom) ctx.ctxId s = none ∧
    ConnectionIdLeft s ∧
    (findTransportByOnlineIdLocked (packetOnlineIdToString packet.onlineIdFrom) s = none →
      TransportIdLeft s)

section Requests

variable {s s' : NpSignalingState} {ci : ConnectionInfo}

theorem requestTransport_iff (fromAddr : UInt32) (fromPort : UInt16) (packet : SignalingControl) :
    (requestTransportLocked fromAddr fromPort packet s).1 ≠ none ↔
      (findTransportByOnlineIdLocked (packetOnlineIdToString packet.onlineIdFrom) s = none →
        TransportIdLeft s) := by
  unfold requestTransportLocked
  cases found : findTransportByOnlineIdLocked (packetOnlineIdToString packet.onlineIdFrom) s with
  | some t => simp
  | none =>
    simp only [ensureTransportLocked, onlineIdToString_setNpOnlineId, found,
      createTransportLocked, forall_const]
    rw [← allocateTransportId_iff]
    cases allocated : allocateTransportIdLocked s with
    | mk transportId s₁ => cases transportId <;> simp

theorem requestTransport_eq (fromAddr : UInt32) (fromPort : UInt16) (packet : SignalingControl)
    (s : NpSignalingState) : ∃ peerTransports transportIdSeed,
      (requestTransportLocked fromAddr fromPort packet s).2 =
        { s with peerTransports, transportIdSeed } := by
  unfold requestTransportLocked
  cases findTransportByOnlineIdLocked (packetOnlineIdToString packet.onlineIdFrom) s with
  | some t => exact ⟨s.peerTransports, s.transportIdSeed, rfl⟩
  | none => exact ensureTransport_eq _ _ _ _ _ s

/-- A connection of this key is made in a state with the connections and the entries of `s`. -/
def MakesBeside (key : CtxNpIdKey) (s s' : NpSignalingState) : Prop :=
  ∃ s₂ ci, s₂.connections = s.connections ∧ s₂.connectionsMade = s.connectionsMade ∧
    NewConnection ci s₂ ∧ (⟨ci.ctxId, ci.npid⟩ : CtxNpIdKey) = key ∧
    Kept Steady (indexConnection ci.ctxId ci.npid ci.connId (insertConnection ci s₂)) s'

def requestKey (packet : SignalingControl) (ctx : NpSignalingContext) : CtxNpIdKey :=
  ⟨ctx.ctxId, npIdFromOnlineId (setNpOnlineId packet.onlineIdFrom)⟩

theorem kept_mark (connId transportId : Nat) (s : NpSignalingState) :
    Kept Steady s (syncSig1ConnectionsForTransportLocked transportId
      (s.adjustConnection connId (fun ci => { ci with peerActivated := true, transportId }))) := by
  have marked : Kept Steady s
      (s.adjustConnection connId (fun ci => { ci with peerActivated := true, transportId })) :=
    kept_adjustConnection composable_steady connId (fun _ _ _ => ⟨rfl, rfl, rfl, rfl, rfl, id⟩)
  exact marked.trans composable_steady (kept_sync transportId)

/-- An activation request to the context makes a connection exactly where `RequestMakes` holds. -/
theorem activationRequest_exact (coherent : Coherent s) (fromAddr : UInt32) (fromPort : UInt16)
    {packet : SignalingControl} (random : UInt32) {ctx : NpSignalingContext}
    (addressed : addressedContext (packetOnlineIdToString packet.onlineIdTo) s = some ctx) :
    let s' := (activationRequestLocked fromAddr fromPort packet random s).2
    (¬RequestMakes packet ctx s ∧ s'.connectionsMade = s.connectionsMade) ∨
      (RequestMakes packet ctx s ∧ MakesBeside (requestKey packet ctx) s s') := by
  have requested := requestTransport_evolves coherent fromAddr fromPort packet
  have available := requestTransport_iff (s := s) fromAddr fromPort packet
  obtain ⟨transports, seed, only⟩ := requestTransport_eq fromAddr fromPort packet s
  simp only [activationRequestLocked, addressed]
  cases result : requestTransportLocked fromAddr fromPort packet s with
  | mk transportId s₁ =>
    rw [result] at requested available only
    obtain ⟨evolves₁, -, alive⟩ := requested
    obtain rfl : s₁ = { s with peerTransports := transports, transportIdSeed := seed } := only
    cases transportId with
    | none => exact Or.inl ⟨fun makes => available.mpr makes.2.2 rfl, rfl⟩
    | some transportId =>
      obtain ⟨t, member, rfl, -, -⟩ := alive transportId rfl
      have found := requestedTransport_found (evolves₁.coherent coherent) fromAddr fromPort packet
        member
      have available := available.mp (Option.some_ne_none _)
      dsimp only
      rw [found]
      let s₂ := ({ s with peerTransports := transports, transportIdSeed := seed }
        : NpSignalingState).adjustTransport t.transportId
          (requestedTransport fromAddr fromPort packet)
      -- the search for a connection and the one for an id see the state before
      have sees : findConnectionByOnlineIdLocked (packetOnlineIdToString packet.onlineIdFrom)
          ctx.ctxId s₂ = findConnectionByOnlineIdLocked
            (packetOnlineIdToString packet.onlineIdFrom) ctx.ctxId s := rfl
      have left_ : ConnectionIdLeft s₂ ↔ ConnectionIdLeft s := Iff.rfl
      have kept (connId : Nat) (s : NpSignalingState) := kept_mark connId t.transportId s
      simp only [requestConnectionLocked]
      rw [sees]
      cases unseen : findConnectionByOnlineIdLocked (packetOnlineIdToString packet.onlineIdFrom)
          ctx.ctxId s with
      | some ci =>
        refine Or.inl ⟨fun makes => ?_, (kept ci.connId s₂).connectionsMade⟩
        rw [makes.1] at unseen
        cases unseen
      | none =>
        dsimp only
        have allocates := allocateConnectionId_iff (s := s₂) random
        cases allocated : allocateConnectionIdLocked random s₂ with
        | mk connId s₃ =>
          rw [allocated] at allocates
          obtain ⟨following, rfl⟩ := allocateConnectionIdLocked_state allocated
          cases connId with
          | none =>
            exact Or.inl ⟨fun makes => allocates.mpr (left_.mpr makes.2.1) rfl, rfl⟩
          | some connId =>
            have idLeft := left_.mp (allocates.mp (Option.some_ne_none _))
            obtain ⟨nonzero, free⟩ := allocateConnectionIdLocked_free allocated
            obtain ⟨inContexts, -, -⟩ := addressedContext_some addressed
            have new : NewConnection (remoteConnection connId ctx.ctxId
                (npIdFromOnlineId (setNpOnlineId packet.onlineIdFrom))
                (requestedTransport fromAddr fromPort packet t) s₂.connectionsMade)
                { s₂ with connectionIdSeed := following } :=
              ⟨nonzero, free, rfl, ⟨ctx, inContexts, rfl⟩, rfl⟩
            have makes : RequestMakes packet ctx s := ⟨unseen, idLeft, available⟩
            refine Or.inr ⟨makes, { s₂ with connectionIdSeed := following }, _, rfl, rfl, new,
              rfl, ?_⟩
            exact kept connId _

theorem Evolves.connectionsMade {R : PeerTransport → PeerTransport → Prop}
    {made : List ConnectionInfo} (evolves : Evolves R made s s') :
    s'.connectionsMade = s.connectionsMade + made.length := by
  induction evolves with
  | refl _ => rfl
  | kept _ kept ih => rw [kept.connectionsMade, ih]
  | removed connId _ ih =>
    obtain ⟨npidToConn, removed⟩ := removeConnection_eq connId _
    rw [removed]
    exact ih
  | created _ created ih =>
    obtain ⟨t, seed, -, -, -, -, -, -, rfl⟩ := created
    exact ih
  | inserted ci _ _ _ _ _ _ ih =>
    rw [List.length_append, List.length_singleton, ← Nat.add_assoc, ← ih]
    rfl
  | indexed _ _ _ _ ih => exact ih

variable {stubs : List Nat}

/-- A request makes a connection although the context has one, not live, to the same peer. -/
def Supersedes (stubs : List Nat) (packet : SignalingControl) (s : NpSignalingState) : Prop :=
  packet.kind = .activationRequest ∧
    ∃ ctx ∈ addressedContext (packetOnlineIdToString packet.onlineIdTo) s,
      RequestMakes packet ctx s ∧
        ∃ ci ∈ s.connections, ci.serial ∉ stubs ∧
          (⟨ci.ctxId, ci.npid⟩ : CtxNpIdKey) = requestKey packet ctx

/-- The two connections cannot both have the entry of their key. -/
theorem MakesBeside.clash {key : CtxNpIdKey} (makes : MakesBeside key s s')
    (made : ∀ n ∈ stubs, n < s.connectionsMade) {other : ConnectionInfo}
    (member : other ∈ s.connections) (real : other.serial ∉ stubs)
    (sameKey : (⟨other.ctxId, other.npid⟩ : CtxNpIdKey) = key) : ¬IndexHolds stubs s' := by
  rintro ⟨-, finds⟩
  obtain ⟨s₂, ci, connections, count, new, ciKey, after⟩ := makes
  rw [← connections] at member
  have fresh := new.fresh member
  have realNew : ci.serial ∉ stubs := by
    intro stub
    have before := made _ stub
    rw [new.serial, count] at before
    omega
  have kept : ∀ b ∈ (insertConnection ci s₂).connections, b.serial ∉ stubs →
      (⟨b.ctxId, b.npid⟩ : CtxNpIdKey) = key →
      ∃ connId, s'.indexed? key = some ⟨key, connId⟩ ∧ connId = b.connId := by
    intro b there realB keyB
    obtain ⟨b', there', sameId, same⟩ := after.connections.mem_old there
    have found := finds b' there' (same.serial ▸ realB)
    rw [entryOf, same.ctxId, same.npid, keyB] at found
    exact ⟨b'.connId, found, sameId⟩
  obtain ⟨a, foundA, idA⟩ := kept other (mem_store.mpr (Or.inl ⟨member, fresh⟩)) real sameKey
  obtain ⟨b, foundB, idB⟩ := kept ci (mem_store.mpr (Or.inr rfl)) realNew ciKey
  have same : a = b := congrArg NpidEntry.connId (Option.some.inj (foundA.symm.trans foundB))
  rw [← idA, ← idB] at fresh
  exact fresh same

theorem handleControl_filed (filed : Filed stubs s) (fromAddr : UInt32) (fromPort : UInt16)
    {packet : SignalingControl} (random : UInt32) (keeps : ¬Supersedes stubs packet s) :
    Filed stubs (handleControlLocked fromAddr fromPort packet random s).2 := by
  unfold handleControlLocked
  split
  · next request =>
    obtain evolves | ⟨ctx, ci, addressed, owner, npid, -, makes⟩ :=
      activationRequest_cases filed.coherent fromAddr fromPort packet random
    · exact filed.evolves evolves rfl
    · refine filed.makes makes fun other member real sameKey => keeps ⟨request, ctx, addressed, ?_⟩
      have count := makes.evolves.connectionsMade
      obtain ⟨-, idle⟩ | ⟨requestMakes, -⟩ :=
        activationRequest_exact filed.coherent fromAddr fromPort random addressed
      · rw [idle, List.length_singleton] at count
        omega
      · refine ⟨requestMakes, other, member, real, ?_⟩
        rw [sameKey, owner, npid, requestKey]
  · split
    · exact filed
    · exact filed.of_kept (kept_controlOnTransport packet _)

/-- A request that supersedes a connection leaves it without its entry. -/
theorem handleControl_supersedes (filed : Filed stubs s) (fromAddr : UInt32) (fromPort : UInt16)
    {packet : SignalingControl} (random : UInt32) (supersedes : Supersedes stubs packet s) :
    ¬IndexHolds stubs (handleControlLocked fromAddr fromPort packet random s).2 := by
  obtain ⟨request, ctx, addressed, requestMakes, other, member, real, sameKey⟩ := supersedes
  rw [handleControlLocked, if_pos request]
  obtain ⟨not, -⟩ | ⟨-, makes⟩ :=
    activationRequest_exact filed.coherent fromAddr fromPort random addressed
  · exact absurd requestMakes not
  · exact makes.clash filed.made member real sameKey

theorem activateSig1_filed (filed : Filed stubs s) (ctxId : Nat) (peerNpid : OrbisNpId)
    (random : UInt32) (now : Int) :
    Filed stubs (activateSig1Locked ctxId peerNpid peerNpid.handle random now s).2 := by
  obtain evolves | ⟨ci, owner, npid, -, none, makes⟩ :=
    activateSig1_cases filed.coherent ctxId peerNpid random now
  · exact filed.evolves evolves rfl
  · have charged : Filed stubs (chargeContext ctxId now s) :=
      filed.of_kept (kept_chargeContext ctxId now)
    have left := reuseConnection_none charged.coherent ⟨ctxId, peerNpid⟩ none
    obtain ⟨-, evolves⟩ | ⟨reused, -, reuse, -⟩ :=
      reuseConnection_cases charged.coherent ⟨ctxId, peerNpid⟩
    · refine (charged.evolves evolves rfl).makes makes ?_
      intro other member real sameKey
      obtain ⟨old, others⟩ := left other member
      rw [owner, npid] at sameKey
      have found := charged.coherent.npidToConn.lookup_of_mem (charged.finds other old real)
      refine others (entryOf other) ?_ rfl
      rw [← sameKey]
      exact found
    · rw [reuse] at none
      cases none

end Requests

/-! ## Every section, and every run -/

/-- The stubs after a section. -/
def stubsAfter (label : LockSection) (s s' : NpSignalingState) (stubs : List Nat) : List Nat :=
  match label with
  | .activateConnectionA _ =>
    if s'.connectionsMade = s.connectionsMade then stubs else s.connectionsMade :: stubs
  | _ => stubs

/-- No request supersedes a connection. -/
def KeepsEntries (stubs : List Nat) : LockSection → NpSignalingState → Prop
  | .handleControlPacket packet, s => ¬Supersedes stubs packet s
  | _, _ => True

section Sections

variable {licence : Licence} {label : LockSection}
  {update : NpSignalingState → NpSignalingState} {s : NpSignalingState} {stubs : List Nat}

/-- The connection made without a peer joins the stubs. -/
theorem activationStub_filed (filed : Filed stubs s) (ctxId : Nat) (accountId : UInt64)
    (platformType : UInt32) (random : UInt32) (now : Int) :
    let s' := (activateConnectionAStubLocked ctxId accountId platformType random now s).2
    Filed (stubsAfter (.activateConnectionA ctxId) s s' stubs) s' := by
  intro s'
  obtain (evolves : Evolves Steady [] s s') | ⟨ci, -, -, (inserts : Inserts ci s s')⟩ :=
    activationStub_cases ctxId accountId platformType random now
  · have count : s'.connectionsMade = s.connectionsMade := evolves.connectionsMade
    rw [stubsAfter, if_pos count]
    exact filed.evolves evolves rfl
  · have count : s'.connectionsMade = s.connectionsMade + 1 := inserts.evolves.connectionsMade
    rw [stubsAfter, if_neg (by omega)]
    obtain ⟨s₁, before, new, same⟩ := inserts
    have count₁ : s₁.connectionsMade = s.connectionsMade := before.connectionsMade
    rw [same, ← count₁]
    exact (filed.evolves before rfl).insert new

theorem structural_filed (member : Structural licence label update) (filed : Filed stubs s) :
    Filed stubs (update s) := by
  have coherent : Coherent (update s) := section_coherent (.structural member) filed.coherent
  cases member with
  | eraseTransport transportId sig1Conns =>
    exact (filed.removeConnections sig1Conns).of_same coherent rfl rfl rfl
  | createContext request now =>
    obtain ⟨error, same⟩ | ⟨ctxId, -, -, -, made⟩ := createContext_cases request now s
    · simp only [same]
      exact filed
    · simp only [made] at coherent ⊢
      exact filed.of_same coherent rfl rfl rfl
  | eraseContext ctxId => exact (filed.removeConnections _).of_same coherent rfl rfl rfl
  | signalingInitialize heapOk echoOk =>
    rcases initialize_cases heapOk echoOk s with same | started | failed
    · rw [same]
      exact filed
    · rw [started] at coherent ⊢
      exact filed.of_same coherent rfl rfl rfl
    · rw [failed] at coherent ⊢
      exact filed.of_same coherent rfl rfl rfl
  | stopLibrary _ => exact filed.of_same coherent rfl rfl rfl
  | stopDispatch _ => exact filed.of_same coherent rfl rfl rfl
  | joinDispatch => exact filed
  | takeDispatch _ =>
    obtain ⟨taken, inHand, round⟩ := takeDispatch_eq s
    simp only [round] at coherent ⊢
    exact filed.of_same coherent rfl rfl rfl
  | invokeCallback _ =>
    obtain ⟨inHand, invoked, called⟩ := invokeCallback_eq s
    rw [called] at coherent ⊢
    exact filed.of_same coherent rfl rfl rfl
  | reset _ =>
    refine ⟨coherent, ?_, ?_, filed.made⟩
    · intro ci member
      cases member
    · intro ci member
      cases member
  | rehash tables =>
    unfold rehashLocked at coherent ⊢
    split
    · next same =>
      rw [if_pos same] at coherent
      obtain ⟨-, connections, -, index⟩ := same
      have connections := List.isPerm_iff.mp connections
      have index := List.isPerm_iff.mp index
      refine ⟨coherent, ?_, ?_, filed.made⟩
      · intro ci member real
        exact index.mem_iff.mpr (filed.finds ci (connections.mem_iff.mp member) real)
      · intro ci member stub e entry
        exact filed.named ci (connections.mem_iff.mp member) stub e (index.mem_iff.mp entry)
    · exact filed

theorem section_filed (member : Section licence label update) (filed : Filed stubs s)
    (keeps : KeepsEntries stubs label s) :
    Filed (stubsAfter label s (update s) stubs) (update s) := by
  cases member with
  | evolves evolves _ => exact filed.evolves (evolves s filed.coherent) rfl
  | closes _ kept _ => exact filed.of_kept (kept s)
  | startTransportHandshakeInitiator transportId now =>
    exact filed.of_kept (kept_start_stirs transportId now)
  | establishConnection transportId hint now =>
    exact filed.of_kept (kept_establish composable_anyChange transportId hint now
      (fun _ _ _ => trivial))
  | activateSig1 ctxId peerNpid random now =>
    exact activateSig1_filed filed ctxId peerNpid random now
  | activateConnectionA ctxId accountId platformType random now =>
    exact activationStub_filed filed ctxId accountId platformType random now
  | handleControlPacket fromAddr fromPort packet random _ =>
    exact handleControl_filed filed fromAddr fromPort random keeps
  | reply transportId packet now _ =>
    exact filed.of_kept (kept_sendHandshake transportId packet now)
  | structural member =>
    have same : stubsAfter label s (update s) stubs = stubs := by
      cases member <;> rfl
    rw [same]
    exact structural_filed member filed

/-- A section that breaks the index is a request that supersedes a connection. -/
theorem section_supersedes (member : Section licence label update) (filed : Filed stubs s)
    (holds : IndexHolds (stubsAfter label s (update s) stubs) (update s)) :
    KeepsEntries stubs label s := by
  cases member with
  | handleControlPacket fromAddr fromPort packet random _ =>
    intro supersedes
    exact handleControl_supersedes filed fromAddr fromPort random supersedes holds
  | structural member => cases member <;> trivial
  | _ => trivial

end Sections

/-- The runtime with the serials of the connections that are made without a peer. -/
structure Recorded where
  pool : Pool NpSignalingState LockSection
  stubs : List Nat := []

def Recorded.step (action : RuntimeAction) (w : Recorded) : Recorded :=
  let pool := Pool.step Op.program action w.pool
  match w.pool.label action with
  | none => { w with pool }
  | some label => ⟨pool, stubsAfter label w.pool.state pool.state w.stubs⟩

def Recorded.Permitted (action : RuntimeAction) (w : Recorded) : Prop :=
  Pool.Permitted (KeepsEntries w.stubs) action w.pool

/-- In every interleaving the index holds throughout if and only if no activation request
supersedes a connection. -/
theorem index_holds_iff (actions : List RuntimeAction) :
    Runs.Throughout Recorded.step (fun w => IndexHolds w.stubs w.pool.state) (fun _ _ _ => True)
        actions ⟨runtimeStart, []⟩ ↔
      Runs.Admitted Recorded.step Recorded.Permitted actions ⟨runtimeStart, []⟩ := by
  let Inv (w : Recorded) : Prop :=
    Pool.ThreadsUse (Section anyLicence) w.pool ∧ Filed w.stubs w.pool.state
  have start : Inv ⟨runtimeStart, []⟩ := ⟨by simp [Pool.ThreadsUse], filed_start⟩
  refine Runs.throughout_iff_admitted_next (fun w inv => inv.2.holds) ?_ ?_ start
  · rintro action w ⟨threads, filed⟩ permitted
    refine ⟨?_, trivial⟩
    obtain ⟨threads', ⟨idle, same⟩ | ⟨label, update, member, taken, state⟩⟩ :=
      Pool.step_cases op_uses_any threads action
    · simp only [Inv, Recorded.step, idle]
      exact ⟨threads', same ▸ filed⟩
    · have filed' := section_filed member filed (permitted label taken)
      simp only [Inv, Recorded.step, taken]
      rw [← state] at filed'
      exact ⟨threads', filed'⟩
  · rintro action w ⟨threads, filed⟩ - holds label taken
    obtain ⟨-, ⟨idle, -⟩ | ⟨label', update, member, taken', state⟩⟩ :=
      Pool.step_cases op_uses_any threads action
    · rw [idle] at taken
      cases taken
    · obtain rfl := Option.some.inj (taken'.symm.trans taken)
      simp only [Recorded.step, taken'] at holds
      rw [state] at holds
      exact section_supersedes member filed holds

/-- `ali` and `car` share the transport to `bob`. `ali` terminates, `car` becomes inactive, and then
`bob` asks for a connection to `car`. -/
def supersededRun : List RuntimeAction :=
  Action.serial 10
    [.signalingInitialize true true,
      .createContext ali true (some 1) 0 0 10,
      .createContext car true (some 2) 0 0 11,
      .activateSig1 1 bob 0 20,
      .processPendingActivations (fun _ => ⟨some (5, 6), 30⟩),
      .handshakePacket 5 6
        { kind := .accept
          onlineIdFrom := bob.handle.data
          onlineIdTo := ali.handle.data
          fromConnId := 1 } 40,
      .handshakePacket 5 6
        { kind := .checkAck
          onlineIdFrom := bob.handle.data
          onlineIdTo := ali.handle.data
          fromConnId := 1 } 50,
      .activateSig1 2 bob 0 60,
      .terminateConnection 1 1,
      .processPendingActivations (fun _ => ⟨some (5, 6), 70⟩),
      .controlPacket 5 6
        { kind := .activationRequest
          onlineIdFrom := bob.handle.data
          onlineIdTo := car.handle.data
          fromConnId := 1 } 0 80]

/-- The first connection of `car` is still there and cannot be found any more. -/
theorem supersededRun_loses_entry :
    ¬ Runs.Throughout Recorded.step (fun w => IndexHolds w.stubs w.pool.state) (fun _ _ _ => True)
      supersededRun ⟨runtimeStart, []⟩ := by
  intro holds
  rw [← List.append_nil supersededRun] at holds
  exact absurd holds.last (by decide +kernel)

end NpSignaling
