import Mathlib.Data.List.Basic

/-!
# Programs cut at their lock sections

A thread that takes one lock several times is a chain of updates of the shared
state, each done while the lock is held and followed by a continuation that
remembers what the section read. The same program has two readings: `exec` runs
it alone to its end, and a `Pool` lets the scheduler take the next section of
any thread.
-/

namespace Runs

variable {σ ι : Type}

def run (step : ι → σ → σ) (ops : List ι) (s : σ) : σ :=
  ops.foldl (fun s op => step op s) s

/-- Every operation of the run meets the condition in the state it starts from. -/
def Admitted (step : ι → σ → σ) (ok : ι → σ → Prop) : List ι → σ → Prop
  | [], _ => True
  | op :: ops, s => ok op s ∧ Admitted step ok ops (step op s)

variable {step : ι → σ → σ} {ok : ι → σ → Prop}

@[simp] theorem run_nil (s : σ) : run step [] s = s := rfl

@[simp] theorem run_cons (op : ι) (ops : List ι) (s : σ) :
    run step (op :: ops) s = run step ops (step op s) := rfl

theorem run_append (first second : List ι) (s : σ) :
    run step (first ++ second) s = run step second (run step first s) := by
  rw [run, run, run, List.foldl_append]

theorem admitted_append {first second : List ι} {s : σ} :
    Admitted step ok (first ++ second) s ↔
      Admitted step ok first s ∧ Admitted step ok second (run step first s) := by
  induction first generalizing s with
  | nil => simp [Admitted]
  | cons op ops ih => simp only [List.cons_append, Admitted, run_cons, ih, and_assoc]

instance Admitted.decidable [∀ op s, Decidable (ok op s)] :
    ∀ (ops : List ι) (s : σ), Decidable (Admitted step ok ops s)
  | [], _ => isTrue trivial
  | op :: ops, s => @instDecidableAnd _ _ _ (Admitted.decidable ops (step op s))

theorem admitted_always (always : ∀ op s, ok op s) (ops : List ι) (s : σ) :
    Admitted step ok ops s := by
  induction ops generalizing s with
  | nil => trivial
  | cons op ops ih => exact ⟨always op s, ih _⟩

theorem Admitted.mono {ok' : ι → σ → Prop} {ops : List ι} {s : σ}
    (weaker : ∀ op ∈ ops, ∀ s, ok op s → ok' op s) (admitted : Admitted step ok ops s) :
    Admitted step ok' ops s := by
  induction ops generalizing s with
  | nil => trivial
  | cons op ops ih =>
    have later : ∀ op ∈ ops, ∀ s, ok op s → ok' op s :=
      fun other member => weaker other (List.mem_cons_of_mem _ member)
    exact ⟨weaker op (List.mem_cons_self ..) s admitted.1, ih later admitted.2⟩

/-- The induction of every safety result: what each admitted step keeps, an admitted run keeps. -/
theorem invariant_of_run {Inv : σ → Prop}
    (keeps : ∀ op s, Inv s → ok op s → Inv (step op s)) {ops : List ι} {s : σ}
    (start : Inv s) (admitted : Admitted step ok ops s) : Inv (run step ops s) := by
  induction ops generalizing s with
  | nil => exact start
  | cons op ops ih => exact ih (keeps op s start admitted.1) admitted.2

/-- `visit` holds of every state of the run, `move` of every step. -/
def Throughout (step : ι → σ → σ) (visit : σ → Prop) (move : ι → σ → σ → Prop) :
    List ι → σ → Prop
  | [], s => visit s
  | op :: ops, s => visit s ∧ move op s (step op s) ∧ Throughout step visit move ops (step op s)

variable {visit : σ → Prop} {move : ι → σ → σ → Prop}

theorem Throughout.first {ops : List ι} {s : σ} (h : Throughout step visit move ops s) :
    visit s := by
  cases ops with
  | nil => exact h
  | cons op ops => exact h.1

theorem Throughout.last {first second : List ι} {s : σ}
    (h : Throughout step visit move (first ++ second) s) : visit (run step first s) := by
  induction first generalizing s with
  | nil => exact h.first
  | cons op first ih => exact ih h.2.2

theorem Throughout.final {ops : List ι} {s : σ} (h : Throughout step visit move ops s) :
    visit (run step ops s) :=
  ((List.append_nil ops).symm ▸ h : Throughout step visit move (ops ++ []) s).last

theorem Throughout.moved {first rest : List ι} {op : ι} {s : σ}
    (h : Throughout step visit move (first ++ op :: rest) s) :
    move op (run step first s) (step op (run step first s)) := by
  induction first generalizing s with
  | nil => exact h.2.1
  | cons other first ih => exact ih h.2.2

theorem Throughout.mono {visit' : σ → Prop} (weaker : ∀ s, visit s → visit' s) {ops : List ι}
    {s : σ} (h : Throughout step visit move ops s) : Throughout step visit' move ops s := by
  induction ops generalizing s with
  | nil => exact weaker s h
  | cons op ops ih => exact ⟨weaker s h.1, h.2.1, ih h.2.2⟩

theorem throughout_of_admitted {Inv : σ → Prop} (sees : ∀ s, Inv s → visit s)
    (keeps : ∀ op s, Inv s → ok op s → Inv (step op s) ∧ move op s (step op s)) {ops : List ι}
    {s : σ} (start : Inv s) (admitted : Admitted step ok ops s) :
    Throughout step visit move ops s := by
  induction ops generalizing s with
  | nil => exact sees s start
  | cons op ops ih =>
    obtain ⟨kept, moved⟩ := keeps op s start admitted.1
    exact ⟨sees s start, moved, ih kept admitted.2⟩

/-- A property of whole runs that fails exactly where a step is not admitted; the failure shows
in the step or in the state after it. -/
theorem throughout_iff_admitted_next {Inv : σ → Prop} (sees : ∀ s, Inv s → visit s)
    (keeps : ∀ op s, Inv s → ok op s → Inv (step op s) ∧ move op s (step op s))
    (fails : ∀ op s, Inv s → move op s (step op s) → visit (step op s) → ok op s) {ops : List ι}
    {s : σ} (start : Inv s) : Throughout step visit move ops s ↔ Admitted step ok ops s := by
  constructor
  · intro holds
    induction ops generalizing s with
    | nil => trivial
    | cons op ops ih =>
      have admitted := fails op s start holds.2.1 holds.2.2.first
      exact ⟨admitted, ih (keeps op s start admitted).1 holds.2.2⟩
  · exact throughout_of_admitted sees keeps start

theorem throughout_iff_admitted {Inv : σ → Prop} (sees : ∀ s, Inv s → visit s)
    (keeps : ∀ op s, Inv s → ok op s → Inv (step op s) ∧ move op s (step op s))
    (fails : ∀ op s, Inv s → move op s (step op s) → ok op s) {ops : List ι} {s : σ}
    (start : Inv s) : Throughout step visit move ops s ↔ Admitted step ok ops s :=
  throughout_iff_admitted_next sees keeps (fun op s inv moved _ => fails op s inv moved) start

/-- The same for the runs whose operations meet a condition of their own. -/
theorem throughout_iff_admitted_within {Inv : σ → Prop} {within : ι → σ → Prop}
    (sees : ∀ s, Inv s → visit s)
    (moves : ∀ op s, Inv s → within op s → (move op s (step op s) ↔ ok op s))
    (keeps : ∀ op s, Inv s → within op s → ok op s → Inv (step op s)) {ops : List ι} {s : σ}
    (start : Inv s) (domain : Admitted step within ops s) :
    Throughout step visit move ops s ↔ Admitted step ok ops s := by
  induction ops generalizing s with
  | nil => exact ⟨fun _ => trivial, fun _ => sees s start⟩
  | cons op ops ih =>
    have moved := moves op s start domain.1
    constructor
    · intro holds
      have admitted := moved.mp holds.2.1
      have later := keeps op s start domain.1 admitted
      exact ⟨admitted, (ih later domain.2).mp holds.2.2⟩
    · intro admitted
      have later := keeps op s start domain.1 admitted.1
      exact ⟨sees s start, moved.mpr admitted.1, (ih later domain.2).mpr admitted.2⟩

end Runs

namespace LockProgram

inductive Prog (σ ℓ α : Type) where
  | done (result : α)
  | atomic (label : ℓ) (update : σ → σ) (next : σ → Prog σ ℓ α)

namespace Prog

variable {σ ℓ α β : Type}

def bind : Prog σ ℓ α → (α → Prog σ ℓ β) → Prog σ ℓ β
  | done result, k => k result
  | atomic label update next, k => atomic label update (fun s => (next s).bind k)

instance : Monad (Prog σ ℓ) where
  pure := done
  bind := bind

/-- One section that returns what it read. -/
def locked (label : ℓ) (body : σ → α × σ) : Prog σ ℓ α :=
  atomic label (fun s => (body s).2) (fun s => done (body s).1)

def update (label : ℓ) (body : σ → σ) : Prog σ ℓ Unit :=
  locked label (fun s => ((), body s))

def forEach (items : List β) (body : β → Prog σ ℓ Unit) : Prog σ ℓ Unit :=
  match items with
  | [] => pure ()
  | item :: rest => do
    body item
    forEach rest body

def when (c : Prop) [Decidable c] (p : Prog σ ℓ Unit) : Prog σ ℓ Unit :=
  if c then p else pure ()

def forSome (found : Option β) (body : β → Prog σ ℓ Unit) : Prog σ ℓ Unit :=
  match found with
  | some b => body b
  | none => pure ()

/-- A program over one part of a larger state. -/
def zoom {τ m : Type} (get : τ → σ) (put : σ → τ → τ) (name : ℓ → m) :
    Prog σ ℓ α → Prog τ m α
  | done result => done result
  | atomic label update next =>
    atomic (name label) (fun t => put (update (get t)) t)
      (fun t => (next (get t)).zoom get put name)

def exec : Prog σ ℓ α → σ → α × σ
  | done result, s => (result, s)
  | atomic _ update next, s => (next s).exec (update s)

@[simp] theorem exec_pure (a : α) (s : σ) : (pure a : Prog σ ℓ α).exec s = (a, s) := rfl

@[simp] theorem exec_bind (p : Prog σ ℓ α) (k : α → Prog σ ℓ β) (s : σ) :
    (p >>= k).exec s = (k (p.exec s).1).exec (p.exec s).2 := by
  induction p generalizing s with
  | done result => rfl
  | atomic label update next ih => exact ih s (update s)

@[simp] theorem exec_locked (label : ℓ) (body : σ → α × σ) (s : σ) :
    (locked label body).exec s = body s := rfl

/-- What follows a section is run on what it read. -/
theorem exec_locked_bind (label : ℓ) (body : σ → α × σ) (k : α → Prog σ ℓ β) (s : σ) :
    (locked label body >>= k).exec s = (k (body s).1).exec (body s).2 := rfl

@[simp] theorem exec_update (label : ℓ) (body : σ → σ) (s : σ) :
    (update label body).exec s = ((), body s) := rfl

@[simp] theorem exec_ite (c : Prop) [Decidable c] (p q : Prog σ ℓ α) (s : σ) :
    (if c then p else q).exec s = if c then p.exec s else q.exec s := by
  by_cases h : c <;> simp [h]

@[simp] theorem exec_when (c : Prop) [Decidable c] (p : Prog σ ℓ Unit) (s : σ) :
    (when c p).exec s = if c then p.exec s else ((), s) := by
  rw [when, exec_ite, exec_pure]

@[simp] theorem exec_when_update (c : Prop) [Decidable c] (label : ℓ) (body : σ → σ) (s : σ) :
    ((when c (update label body)).exec s).2 = if c then body s else s := by
  rw [exec_when]
  split <;> rfl

@[simp] theorem exec_forSome_some (b : β) (body : β → Prog σ ℓ Unit) (s : σ) :
    (forSome (some b) body).exec s = (body b).exec s := rfl

@[simp] theorem exec_forSome_none (body : β → Prog σ ℓ Unit) (s : σ) :
    (forSome none body).exec s = ((), s) := rfl

theorem exec_forEach_nil (body : β → Prog σ ℓ Unit) (s : σ) :
    (forEach [] body).exec s = ((), s) := rfl

theorem exec_forEach_cons (item : β) (rest : List β) (body : β → Prog σ ℓ Unit) (s : σ) :
    (forEach (item :: rest) body).exec s = (forEach rest body).exec ((body item).exec s).2 := by
  rw [forEach, exec_bind]

theorem exec_forEach_append (first second : List β) (body : β → Prog σ ℓ Unit) (s : σ) :
    (forEach (first ++ second) body).exec s =
      (forEach second body).exec ((forEach first body).exec s).2 := by
  induction first generalizing s with
  | nil => rw [List.nil_append, exec_forEach_nil]
  | cons item rest ih => rw [List.cons_append, exec_forEach_cons, exec_forEach_cons, ih]

/-- Every section the program can reach, whatever it reads on the way, is one of `allowed`. -/
def Uses (allowed : ℓ → (σ → σ) → Prop) : Prog σ ℓ α → Prop
  | done _ => True
  | atomic label update next => allowed label update ∧ ∀ s, (next s).Uses allowed

section Uses

variable {allowed : ℓ → (σ → σ) → Prop}

theorem uses_pure (a : α) : (pure a : Prog σ ℓ α).Uses allowed := trivial

theorem Uses.bind {p : Prog σ ℓ α} {k : α → Prog σ ℓ β} (first : p.Uses allowed)
    (second : ∀ a, (k a).Uses allowed) : (p >>= k).Uses allowed := by
  induction p with
  | done result => exact second result
  | atomic label update next ih => exact ⟨first.1, fun s => ih s (first.2 s)⟩

theorem Uses.of_bind {p : Prog σ ℓ α} {k : α → Prog σ ℓ β} (uses : (p >>= k).Uses allowed) :
    p.Uses allowed := by
  induction p with
  | done result => trivial
  | atomic label update next ih => exact ⟨uses.1, fun s => ih s (uses.2 s)⟩

theorem uses_locked {label : ℓ} {body : σ → α × σ}
    (permitted : allowed label (fun s => (body s).2)) : (locked label body).Uses allowed :=
  ⟨permitted, fun _ => trivial⟩

/-- What follows a section may rely on how its result came about. -/
theorem uses_locked_bind {label : ℓ} {body : σ → α × σ} {k : α → Prog σ ℓ β}
    (permitted : allowed label (fun s => (body s).2)) (rest : ∀ s, (k (body s).1).Uses allowed) :
    (locked label body >>= k).Uses allowed :=
  ⟨permitted, rest⟩

theorem uses_update {label : ℓ} {body : σ → σ} (permitted : allowed label body) :
    (update label body).Uses allowed :=
  uses_locked permitted

theorem uses_ite {c : Prop} [Decidable c] {p q : Prog σ ℓ α} (yes : c → p.Uses allowed)
    (no : ¬c → q.Uses allowed) : (if c then p else q).Uses allowed := by
  by_cases h : c
  · rw [if_pos h]
    exact yes h
  · rw [if_neg h]
    exact no h

theorem uses_when {c : Prop} [Decidable c] {p : Prog σ ℓ Unit} (uses : p.Uses allowed) :
    (when c p).Uses allowed :=
  uses_ite (fun _ => uses) (fun _ => uses_pure ())

theorem uses_forSome {found : Option β} {body : β → Prog σ ℓ Unit}
    (uses : ∀ b, found = some b → (body b).Uses allowed) : (forSome found body).Uses allowed := by
  cases found with
  | none => trivial
  | some b => exact uses b rfl

theorem uses_forEach {items : List β} {body : β → Prog σ ℓ Unit}
    (round : ∀ item, (body item).Uses allowed) : (forEach items body).Uses allowed := by
  induction items with
  | nil => trivial
  | cons item rest ih => exact (round item).bind (fun _ => ih)

theorem Uses.mono {more : ℓ → (σ → σ) → Prop} (weaker : ∀ label update, allowed label update →
    more label update) {p : Prog σ ℓ α} (uses : p.Uses allowed) : p.Uses more := by
  induction p with
  | done result => trivial
  | atomic label update next ih =>
    exact ⟨weaker label update uses.1, fun s => ih s (uses.2 s)⟩

theorem Uses.and {other : ℓ → (σ → σ) → Prop} {p : Prog σ ℓ α} (uses : p.Uses allowed)
    (also : p.Uses other) :
    p.Uses (fun label update => allowed label update ∧ other label update) := by
  induction p with
  | done result => trivial
  | atomic label update next ih => exact ⟨⟨uses.1, also.1⟩, fun s => ih s (uses.2 s) (also.2 s)⟩

/-- The sections of a zoomed program are sections of the program, run on the part. -/
def Zoomed {τ m : Type} (get : τ → σ) (put : σ → τ → τ) (name : ℓ → m)
    (allowed : ℓ → (σ → σ) → Prop) (label : m) (update : τ → τ) : Prop :=
  ∃ inner body, allowed inner body ∧ label = name inner ∧ update = fun t => put (body (get t)) t

theorem Uses.zoom {τ m : Type} {get : τ → σ} {put : σ → τ → τ} {name : ℓ → m} {p : Prog σ ℓ α}
    (uses : p.Uses allowed) : (p.zoom get put name).Uses (Zoomed get put name allowed) := by
  induction p with
  | done result => trivial
  | atomic label update next ih =>
    exact ⟨⟨label, update, uses.1, rfl, rfl⟩, fun t => ih (get t) (uses.2 (get t))⟩

theorem uses_everything (p : Prog σ ℓ α) : p.Uses (fun _ _ => True) := by
  induction p with
  | done result => trivial
  | atomic label update next ih => exact ⟨trivial, ih⟩

/-- Run alone, a program keeps what each of its sections keeps. -/
theorem Uses.exec_keeps {Inv : σ → Prop} {p : Prog σ ℓ α} (uses : p.Uses allowed)
    (keeps : ∀ label update, allowed label update → ∀ s, Inv s → Inv (update s)) {s : σ}
    (start : Inv s) : Inv (p.exec s).2 := by
  induction p generalizing s with
  | done result => exact start
  | atomic label update next ih =>
    exact ih s (uses.2 s) (keeps label update uses.1 s start)

end Uses

/-! ### Programs that preserve an invariant -/

/-- Every section preserves the invariant, whatever else happens between the sections, as long as
that preserves it as well. -/
def Preserves (I : σ → Prop) : Prog σ ℓ α → Prop
  | done _ => True
  | atomic _ update next => ∀ s, I s → I (update s) ∧ (next s).Preserves I

section Preserves

variable {I : σ → Prop}

theorem preserves_pure (a : α) : (pure a : Prog σ ℓ α).Preserves I := trivial

theorem Preserves.bind {p : Prog σ ℓ α} {k : α → Prog σ ℓ β} (first : p.Preserves I)
    (second : ∀ a, (k a).Preserves I) : (p >>= k).Preserves I := by
  induction p with
  | done result => exact second result
  | atomic label update next ih =>
    intro s inv
    obtain ⟨kept, rest⟩ := first s inv
    exact ⟨kept, ih s rest⟩

theorem preserves_locked {label : ℓ} {body : σ → α × σ} (kept : ∀ s, I s → I (body s).2) :
    (locked label body).Preserves I :=
  fun s inv => ⟨kept s inv, trivial⟩

/-- What follows a section may rely on the invariant of the state it has read. -/
theorem preserves_locked_bind {label : ℓ} {body : σ → α × σ} {k : α → Prog σ ℓ β}
    (kept : ∀ s, I s → I (body s).2) (rest : ∀ s, I s → (k (body s).1).Preserves I) :
    (locked label body >>= k).Preserves I :=
  fun s inv => ⟨kept s inv, rest s inv⟩

theorem preserves_update {label : ℓ} {body : σ → σ} (kept : ∀ s, I s → I (body s)) :
    (update label body).Preserves I :=
  preserves_locked kept

theorem preserves_ite {c : Prop} [Decidable c] {p q : Prog σ ℓ α} (yes : p.Preserves I)
    (no : q.Preserves I) : (if c then p else q).Preserves I := by
  by_cases h : c
  · rw [if_pos h]
    exact yes
  · rw [if_neg h]
    exact no

theorem preserves_when {c : Prop} [Decidable c] {p : Prog σ ℓ Unit} (kept : p.Preserves I) :
    (when c p).Preserves I :=
  preserves_ite kept (preserves_pure ())

theorem preserves_forSome {found : Option β} {body : β → Prog σ ℓ Unit}
    (kept : ∀ b, (body b).Preserves I) : (forSome found body).Preserves I := by
  cases found with
  | none => trivial
  | some b => exact kept b

theorem preserves_forEach {items : List β} {body : β → Prog σ ℓ Unit}
    (round : ∀ item ∈ items, (body item).Preserves I) : (forEach items body).Preserves I := by
  induction items with
  | nil => trivial
  | cons item rest ih =>
    have first := round item (List.mem_cons_self ..)
    exact first.bind (fun _ => ih (fun other member => round other (List.mem_cons_of_mem _ member)))

/-- A program over one part preserves what the rest of the state adds nothing to. -/
theorem Preserves.zoom {τ m : Type} {J : τ → Prop} {get : τ → σ} {put : σ → τ → τ} {name : ℓ → m}
    {p : Prog σ ℓ α} (kept : p.Preserves I) (read : ∀ t, J t → I (get t))
    (write : ∀ t s, J t → I s → J (put s t)) : (p.zoom get put name).Preserves J := by
  induction p with
  | done result => trivial
  | atomic label update next ih =>
    intro t inv
    obtain ⟨updated, rest⟩ := kept (get t) (read t inv)
    exact ⟨write t _ inv updated, ih (get t) rest⟩

theorem Preserves.exec {p : Prog σ ℓ α} (kept : p.Preserves I) {s : σ} (start : I s) :
    I (p.exec s).2 := by
  induction p generalizing s with
  | done result => exact start
  | atomic label update next ih =>
    obtain ⟨updated, rest⟩ := kept s start
    exact ih s rest updated

/-- Run alone, a program over one part leaves it as it does there, as long as reading the part
gives what was written to it. -/
theorem Preserves.exec_zoom {τ m : Type} {get : τ → σ} {put : σ → τ → τ} {name : ℓ → m}
    {p : Prog σ ℓ α} (preserved : p.Preserves I) {t : τ} (start : I (get t))
    (read : ∀ s, I s → get (put s t) = s) (write : ∀ s s', put s' (put s t) = put s' t) :
    get ((p.zoom get put name).exec t).2 = (p.exec (get t)).2 := by
  induction p generalizing t with
  | done result => rfl
  | atomic label update next ih =>
    obtain ⟨updated, rest⟩ := preserved (get t) start
    let t₁ := put (update (get t)) t
    have here : get t₁ = update (get t) := read _ updated
    have after := @ih (get t) rest t₁ (here.symm ▸ updated)
      (fun s inv => (congrArg get (write _ s)).trans (read s inv))
      (fun s s' => ((congrArg (put s') (write _ s)).trans (write s s')).trans (write _ s').symm)
    rw [here] at after
    exact after

end Preserves

/-! ### Pre- and postconditions of a program run alone -/

/-- From a state with `P` the program ends in a state with `Q`, which sees the result. -/
def Triple (P : σ → Prop) (p : Prog σ ℓ α) (Q : α → σ → Prop) : Prop :=
  ∀ s, P s → Q (p.exec s).1 (p.exec s).2

section Triple

variable {P I : σ → Prop} {Q : α → σ → Prop}

theorem triple_pure {a : α} (post : ∀ s, P s → Q a s) : Triple P (pure a : Prog σ ℓ α) Q := post

theorem Triple.bind {p : Prog σ ℓ α} {k : α → Prog σ ℓ β} {Q : β → σ → Prop} {M : α → σ → Prop}
    (first : Triple P p M) (second : ∀ a, Triple (M a) (k a) Q) : Triple P (p >>= k) Q := by
  intro s pre
  rw [exec_bind]
  exact second _ _ (first s pre)

/-- The second part starts from the invariant the first one keeps. -/
theorem triple_seq {p : Prog σ ℓ α} {k : α → Prog σ ℓ β} {Q : β → σ → Prop}
    (first : Triple I p (fun _ => I)) (second : ∀ a, Triple I (k a) Q) :
    Triple I (p >>= k) Q :=
  first.bind second

theorem triple_locked {label : ℓ} {body : σ → α × σ} (post : ∀ s, P s → Q (body s).1 (body s).2) :
    Triple P (locked label body) Q := post

theorem triple_update {label : ℓ} {body : σ → σ} {Q : Unit → σ → Prop}
    (post : ∀ s, P s → Q () (body s)) : Triple P (update label body) Q := post

theorem triple_ite {c : Prop} [Decidable c] {p q : Prog σ ℓ α} (yes : c → Triple P p Q)
    (no : ¬c → Triple P q Q) : Triple P (if c then p else q) Q := by
  by_cases h : c
  · rw [if_pos h]
    exact yes h
  · rw [if_neg h]
    exact no h

theorem triple_when {c : Prop} [Decidable c] {p : Prog σ ℓ Unit}
    (body : c → Triple I p (fun _ => I)) : Triple I (when c p) (fun _ => I) :=
  triple_ite body (fun _ => triple_pure (fun _ inv => inv))

/-- A loop keeps an invariant that may speak of the items left. -/
theorem triple_forEach {items : List β} {body : β → Prog σ ℓ Unit} {J : List β → σ → Prop}
    (round : ∀ item rest, Triple (J (item :: rest)) (body item) (fun _ => J rest)) :
    Triple (J items) (forEach items body) (fun _ => J []) := by
  induction items with
  | nil => exact triple_pure (fun _ inv => inv)
  | cons item rest ih => exact (round item rest).bind (fun _ => ih)

theorem triple_forEach_mem {items : List β} {body : β → Prog σ ℓ Unit}
    (round : ∀ item ∈ items, Triple I (body item) (fun _ => I)) :
    Triple I (forEach items body) (fun _ => I) := by
  induction items with
  | nil => exact triple_pure (fun _ inv => inv)
  | cons item rest ih =>
    have first := round item (List.mem_cons_self ..)
    exact first.bind (fun _ => ih (fun other member => round other (List.mem_cons_of_mem _ member)))

end Triple

end Prog

/-! ## Pools of threads -/

structure Pool (σ ℓ : Type) where
  state : σ
  threads : List (Prog σ ℓ Unit)

inductive Action (ι : Type) where
  | spawn (op : ι)
  | take (thread : Nat)

/-- Each operation runs to its end, in at most `takes` sections, before the next one starts. -/
def Action.serial {ι : Type} (takes : Nat) (ops : List ι) : List (Action ι) :=
  ops.zipIdx.flatMap (fun (op, thread) => .spawn op :: List.replicate takes (.take thread))

namespace Pool

variable {σ ℓ ι : Type}

/-- The label of the section an action runs, if it runs one. -/
def label (pool : Pool σ ℓ) : Action ι → Option ℓ
  | .spawn _ => none
  | .take thread =>
    match pool.threads[thread]? with
    | some (.atomic label _ _) => some label
    | _ => none

def step (program : ι → Prog σ ℓ Unit) (action : Action ι) (pool : Pool σ ℓ) : Pool σ ℓ :=
  match action with
  | .spawn op => { pool with threads := pool.threads ++ [program op] }
  | .take thread =>
    match pool.threads[thread]? with
    | some (.atomic _ update next) =>
      { state := update pool.state, threads := pool.threads.set thread (next pool.state) }
    | _ => pool

def Permitted (permit : ℓ → σ → Prop) (action : Action ι) (pool : Pool σ ℓ) : Prop :=
  ∀ label ∈ pool.label action, permit label pool.state

instance (permit : ℓ → σ → Prop) [∀ label s, Decidable (permit label s)] (action : Action ι)
    (pool : Pool σ ℓ) : Decidable (Permitted permit action pool) :=
  inferInstanceAs (Decidable (∀ label ∈ pool.label action, permit label pool.state))

variable {Inv : σ → Prop} {permit : ℓ → σ → Prop} {allowed : ℓ → (σ → σ) → Prop}
  {program : ι → Prog σ ℓ Unit}

/-- Every thread, wherever it stands, has only allowed sections left. -/
def ThreadsUse (allowed : ℓ → (σ → σ) → Prop) (pool : Pool σ ℓ) : Prop :=
  ∀ p ∈ pool.threads, p.Uses allowed

/-- A scheduler action leaves the state alone or takes one allowed section, which was permitted
if the action was. -/
theorem step_cases (uses : ∀ op, (program op).Uses allowed) {pool : Pool σ ℓ}
    (threads : ThreadsUse allowed pool) (action : Action ι) :
    ThreadsUse allowed (Pool.step program action pool) ∧
      ((pool.label action = none ∧ (Pool.step program action pool).state = pool.state) ∨
        ∃ label update, allowed label update ∧ pool.label action = some label ∧
          (Pool.step program action pool).state = update pool.state) := by
  cases action with
  | spawn op =>
    refine ⟨?_, Or.inl ⟨rfl, rfl⟩⟩
    intro p hp
    rcases List.mem_append.mp hp with old | new
    · exact threads p old
    · rw [List.mem_singleton.mp new]
      exact uses op
  | take thread =>
    cases found : pool.threads[thread]? with
    | none =>
      simp only [Pool.step, Pool.label, found]
      exact ⟨threads, Or.inl ⟨trivial, trivial⟩⟩
    | some p =>
      cases p with
      | done result =>
        simp only [Pool.step, Pool.label, found]
        exact ⟨threads, Or.inl ⟨trivial, trivial⟩⟩
      | atomic label update next =>
        have member : Prog.atomic label update next ∈ pool.threads :=
          List.mem_of_getElem? found
        obtain ⟨permitted, rest⟩ := threads _ member
        simp only [Pool.step, Pool.label, found]
        refine ⟨?_, Or.inr ⟨label, update, permitted, rfl, rfl⟩⟩
        intro q hq
        rcases List.mem_or_eq_of_mem_set hq with old | new
        · exact threads q old
        · rw [new]
          exact rest pool.state

/-- What every permitted section keeps, every interleaving of permitted sections keeps. -/
theorem invariant_of_sections (uses : ∀ op, (program op).Uses allowed)
    (keeps : ∀ label update, allowed label update → ∀ s, Inv s → permit label s →
      Inv (update s))
    {pool : Pool σ ℓ} (threads : ThreadsUse allowed pool) (start : Inv pool.state)
    {actions : List (Action ι)}
    (admitted : Runs.Admitted (Pool.step program) (Permitted permit) actions pool) :
    ThreadsUse allowed (Runs.run (Pool.step program) actions pool) ∧
      Inv (Runs.run (Pool.step program) actions pool).state := by
  let Kept (pool : Pool σ ℓ) : Prop := ThreadsUse allowed pool ∧ Inv pool.state
  have kept : Kept pool := ⟨threads, start⟩
  refine Runs.invariant_of_run ?_ kept admitted
  rintro action pool ⟨threads, inv⟩ permitted
  obtain ⟨threads', ⟨-, same⟩ | ⟨label, update, member, taken, state⟩⟩ :=
    step_cases uses threads action
  · exact ⟨threads', same ▸ inv⟩
  · have inv' := keeps label update member _ inv (permitted label taken)
    exact ⟨threads', state ▸ inv'⟩

end Pool

end LockProgram
