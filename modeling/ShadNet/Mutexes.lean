import ShadNet.LockProgram

/-!
# Programs that name the mutexes they take

A program over recursive mutexes says at each atom whether it takes a mutex, lets
one go, or works on the state. Two readings are given. A `Machine` runs many
threads and blocks those whose mutex another thread holds. `Ends` follows one
thread alone and keeps an account of its steps, whatever the other threads do in
between.
-/

namespace LockProgram

/-- `relock` is the round of a wait loop that ends the wait: the mutex was let go and is taken
again in a state that is `ready`. `await` waits without letting anything go. -/
inductive Atom (μ ℓ : Type) where
  | lock (m : μ)
  | unlock (m : μ)
  | relock (m : μ) (wait : ℓ)
  | await (wait : ℓ)
  | act (label : ℓ)
  deriving DecidableEq, Repr

namespace Atom

variable {μ ℓ σ : Type}

/-- The mutex the atom takes. -/
def takes : Atom μ ℓ → Option μ
  | .lock m | .relock m _ => some m
  | _ => none

/-- The mutexes a thread holds after the atom. -/
def holding [DecidableEq μ] : Atom μ ℓ → List μ → List μ
  | .lock m, held | .relock m _, held => m :: held
  | .unlock m, held => held.erase m
  | _, held => held

/-- The wait of the atom, if it has one, is over. -/
def Ready (ready : ℓ → σ → Bool) : Atom μ ℓ → σ → Prop
  | .relock _ wait, s | .await wait, s => ready wait s
  | _, _ => True

instance (ready : ℓ → σ → Bool) (atom : Atom μ ℓ) (s : σ) : Decidable (atom.Ready ready s) :=
  match atom with
  | .relock _ wait | .await wait => inferInstanceAs (Decidable (ready wait s = true))
  | .lock _ | .unlock _ | .act _ => isTrue trivial

def map {m : Type} (f : ℓ → m) : Atom μ ℓ → Atom μ m
  | .lock m => .lock m
  | .unlock m => .unlock m
  | .relock m wait => .relock m (f wait)
  | .await wait => .await (f wait)
  | .act label => .act (f label)

theorem ready_map {m : Type} {ready : m → σ → Bool} {f : ℓ → m} (atom : Atom μ ℓ) {s : σ} :
    (atom.map f).Ready ready s ↔ atom.Ready (fun label => ready (f label)) s := by
  cases atom <;> exact Iff.rfl

end Atom

namespace Prog

variable {σ μ ℓ α β : Type}

def lock (m : μ) : Prog σ (Atom μ ℓ) Unit := update (.lock m) id

def unlock (m : μ) : Prog σ (Atom μ ℓ) Unit := update (.unlock m) id

def relock (m : μ) (wait : ℓ) : Prog σ (Atom μ ℓ) Unit := update (.relock m wait) id

def await (wait : ℓ) : Prog σ (Atom μ ℓ) Unit := update (.await wait) id

def access (label : ℓ) (body : σ → α × σ) : Prog σ (Atom μ ℓ) α := locked (.act label) body

def reading (label : ℓ) (read : σ → α) : Prog σ (Atom μ ℓ) α := access label (fun s => (read s, s))

def writing (label : ℓ) (write : σ → σ) : Prog σ (Atom μ ℓ) Unit := update (.act label) write

/-- The mutex is held while the program runs. -/
def guarded (m : μ) (p : Prog σ (Atom μ ℓ) α) : Prog σ (Atom μ ℓ) α := do
  lock m
  let result ← p
  unlock m
  pure result

/-- `while (busy) { unlock(); sleep(); lock(); }` after the first test. -/
def waitWhile (busy : Bool) (m : μ) (wait : ℓ) : Prog σ (Atom μ ℓ) Unit :=
  when busy do
    unlock m
    relock m wait

/-- The same program under other names for its accesses. -/
def rename {m : Type} (f : ℓ → m) : Prog σ (Atom μ ℓ) α → Prog σ (Atom μ m) α
  | done result => done result
  | atomic atom update next => atomic (atom.map f) update (fun s => (next s).rename f)

/-! ### The account of a thread -/

section Ends

variable {γ : Type}

/-- However the other threads change the state in front of each atom, every complete run of the
program, started with the account, ends with `Q`; `charge` enters an atom by the states before and
after it. -/
def Ends (ready : ℓ → σ → Bool) (charge : Atom μ ℓ → σ → σ → γ → γ) :
    Prog σ (Atom μ ℓ) α → γ → (α → γ → Prop) → Prop
  | done result, account, Q => Q result account
  | atomic atom update next, account, Q => ∀ s, atom.Ready ready s →
      (next s).Ends ready charge (charge atom s (update s) account) Q

variable {ready : ℓ → σ → Bool} {charge : Atom μ ℓ → σ → σ → γ → γ} {account : γ}
  {Q : α → γ → Prop}

theorem Ends.mono {Q' : α → γ → Prop} (weaker : ∀ a account, Q a account → Q' a account)
    {p : Prog σ (Atom μ ℓ) α} (ends : p.Ends ready charge account Q) :
    p.Ends ready charge account Q' := by
  induction p generalizing account with
  | done result => exact weaker result account ends
  | atomic atom update next ih =>
    intro s isReady
    exact ih s (ends s isReady)

theorem ends_bind {p : Prog σ (Atom μ ℓ) α} {k : α → Prog σ (Atom μ ℓ) β} {R : β → γ → Prop} :
    (p >>= k).Ends ready charge account R ↔
      p.Ends ready charge account (fun a later => (k a).Ends ready charge later R) := by
  induction p generalizing account with
  | done result => exact Iff.rfl
  | atomic atom update next ih =>
    constructor
    · intro ends s isReady
      exact (ih s).mp (ends s isReady)
    · intro ends s isReady
      exact (ih s).mpr (ends s isReady)

theorem ends_pure {a : α} : (pure a : Prog σ (Atom μ ℓ) α).Ends ready charge account Q ↔
    Q a account := Iff.rfl

theorem ends_access {label : ℓ} {body : σ → α × σ} :
    (access label body : Prog σ (Atom μ ℓ) α).Ends ready charge account Q ↔
      ∀ s, Q (body s).1 (charge (.act label) s (body s).2 account) := by
  constructor
  · intro ends s
    exact ends s trivial
  · intro ends s _
    exact ends s

theorem ends_ite {c : Prop} [Decidable c] {p q : Prog σ (Atom μ ℓ) α} :
    (if c then p else q).Ends ready charge account Q ↔
      (c → p.Ends ready charge account Q) ∧ (¬c → q.Ends ready charge account Q) := by
  by_cases h : c
  · simp [h]
  · simp [h]

theorem ends_rename {m : Type} {ready : m → σ → Bool} {charge : Atom μ m → σ → σ → γ → γ}
    {f : ℓ → m} {p : Prog σ (Atom μ ℓ) α} :
    (p.rename f).Ends ready charge account Q ↔
      p.Ends (fun label => ready (f label)) (fun atom => charge (atom.map f)) account Q := by
  induction p generalizing account with
  | done result => exact Iff.rfl
  | atomic atom update next ih =>
    constructor
    · intro ends s isReady
      exact (ih s).mp (ends s (atom.ready_map.mpr isReady))
    · intro ends s isReady
      exact (ih s).mpr (ends s (atom.ready_map.mp isReady))

end Ends

end Prog

/-! ## Machines -/

/-- An access of a thread that holds `held` meets the condition. -/
def Atom.Permitted {σ μ ℓ : Type} (permit : List μ → ℓ → σ → Prop) (held : List μ) :
    Atom μ ℓ → σ → Prop
  | .act label, s => permit held label s
  | _, _ => True

instance {σ μ ℓ : Type} (permit : List μ → ℓ → σ → Prop)
    [∀ held label s, Decidable (permit held label s)] (held : List μ) (atom : Atom μ ℓ) (s : σ) :
    Decidable (atom.Permitted permit held s) :=
  match atom with
  | .act label => inferInstanceAs (Decidable (permit held label s))
  | .lock _ | .unlock _ | .relock _ _ | .await _ => isTrue trivial

structure Thread (σ μ ℓ : Type) where
  code : Prog σ (Atom μ ℓ) Unit
  held : List μ := []

structure Machine (σ μ ℓ : Type) where
  state : σ
  threads : List (Thread σ μ ℓ) := []

namespace Thread

variable {σ μ ℓ : Type}

/-- The atom the thread stands in front of. -/
def next (thread : Thread σ μ ℓ) : Option (Atom μ ℓ) :=
  match thread.code with
  | .done _ => none
  | .atomic atom _ _ => some atom

end Thread

namespace Machine

variable {σ μ ℓ ι : Type}

/-- No thread but this one holds the mutex. -/
def Free (machine : Machine σ μ ℓ) (thread : Nat) (m : μ) : Prop :=
  ∀ (other : Nat) (there : other < machine.threads.length),
    m ∈ (machine.threads.get ⟨other, there⟩).held → other = thread

instance [DecidableEq μ] (machine : Machine σ μ ℓ) (thread : Nat) (m : μ) :
    Decidable (machine.Free thread m) :=
  inferInstanceAs (Decidable (∀ (other : Nat) (there : other < machine.threads.length),
    m ∈ (machine.threads.get ⟨other, there⟩).held → other = thread))

/-- The thread can take the atom now. -/
def Enabled (ready : ℓ → σ → Bool) (machine : Machine σ μ ℓ) (thread : Nat)
    (atom : Atom μ ℓ) : Prop :=
  (∀ m ∈ atom.takes, machine.Free thread m) ∧ atom.Ready ready machine.state

instance [DecidableEq μ] (ready : ℓ → σ → Bool) (machine : Machine σ μ ℓ) (thread : Nat)
    (atom : Atom μ ℓ) : Decidable (machine.Enabled ready thread atom) :=
  inferInstanceAs (Decidable ((∀ m ∈ atom.takes, machine.Free thread m) ∧ _))

/-- A thread that cannot take its next atom stays where it is. -/
def step [DecidableEq μ] (ready : ℓ → σ → Bool) (program : ι → Prog σ (Atom μ ℓ) Unit)
    (action : Action ι) (machine : Machine σ μ ℓ) : Machine σ μ ℓ :=
  match action with
  | .spawn op => { machine with threads := machine.threads ++ [{ code := program op }] }
  | .take thread =>
    match machine.threads[thread]? with
    | some ⟨.atomic atom update next, held⟩ =>
      if machine.Enabled ready thread atom then
        { state := update machine.state
          threads := machine.threads.set thread ⟨next machine.state, atom.holding held⟩ }
      else machine
    | _ => machine

/-- The access the action would take next meets the condition. -/
def Permitted (permit : List μ → ℓ → σ → Prop) (action : Action ι) (machine : Machine σ μ ℓ) :
    Prop :=
  match action with
  | .spawn _ => True
  | .take thread => ∀ t ∈ machine.threads[thread]?, ∀ atom ∈ t.next,
      atom.Permitted permit t.held machine.state

instance (permit : List μ → ℓ → σ → Prop) [∀ held label s, Decidable (permit held label s)]
    (action : Action ι) (machine : Machine σ μ ℓ) : Decidable (Permitted permit action machine) :=
  match action with
  | .spawn _ => isTrue trivial
  | .take thread => inferInstanceAs (Decidable (∀ t ∈ machine.threads[thread]?, ∀ atom ∈ t.next,
      atom.Permitted permit t.held machine.state))

/-- A thread that is set in place of another one, at its index or elsewhere. -/
theorem set_cases {threads : List (Thread σ μ ℓ)} {thread index : Nat} {t u : Thread σ μ ℓ}
    (found : (threads.set thread t)[index]? = some u) :
    (index = thread ∧ u = t) ∨ (index ≠ thread ∧ threads[index]? = some u) := by
  by_cases same : thread = index
  · subst same
    rw [List.getElem?_set_self'] at found
    cases there : threads[thread]? with
    | none => simp [there] at found
    | some old =>
      rw [there] at found
      exact Or.inl ⟨rfl, (Option.some.inj found).symm⟩
  · rw [List.getElem?_set_ne same] at found
    exact Or.inr ⟨Ne.symm same, found⟩

end Machine

end LockProgram
