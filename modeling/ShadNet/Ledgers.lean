import ShadNet.Mutexes

/-!
# What a thread owes

A thread that shares counted objects with others enters its own steps in a ledger:
by how much it changed the user count of each object, and how much more often it
holds each mutex. What other threads change in between is not in it. A part of a
program that leaves the ledger as it was can be put anywhere.
-/

namespace LockProgram

open Prog

/-- `own` are the objects that the thread made or erased itself; `notes` is what a result writes
down besides. -/
structure Ledger (ω μ γ : Type) where
  counts : ω → Int := fun _ => 0
  depth : μ → Int := fun _ => 0
  own : ω → Prop := fun _ => False
  notes : γ

/-- How the books of a kind of program are kept. `settles` are the objects that an access makes or
erases, `watched` is what `judge` looks at besides the access itself. -/
structure Books (σ ℓ ω ρ γ : Type) where
  ready : ℓ → σ → Bool
  users : ω → σ → Int
  settles : ℓ → σ → ω → Prop
  watched : σ → ρ
  judge : ℓ → σ → σ → γ → γ

/-- How much more often the thread holds the mutex after the atom. -/
def Atom.depthChange {μ ℓ : Type} [DecidableEq μ] (m : μ) : Atom μ ℓ → Int
  | .lock other | .relock other _ => if m = other then 1 else 0
  | .unlock other => if m = other then -1 else 0
  | _ => 0

namespace Ledger

variable {ω μ γ δ : Type}

def note (notes : γ) (ledger : Ledger ω μ γ) : Ledger ω μ γ := { ledger with notes }

@[simp] theorem note_self (ledger : Ledger ω μ γ) : ledger.note ledger.notes = ledger := rfl

def map (f : γ → δ) (ledger : Ledger ω μ γ) : Ledger ω μ δ :=
  { ledger with notes := f ledger.notes }

/-- Nothing is owed: the counts of the objects that are not the thread's own are as they were, and
every mutex is held as often as before. -/
structure Balanced (ledger : Ledger ω μ γ) : Prop where
  counts : ∀ o, ¬ledger.own o → ledger.counts o = 0
  depth : ∀ m, ledger.depth m = 0

theorem balanced_start (notes : γ) : Balanced ({ notes } : Ledger ω μ γ) :=
  ⟨fun _ _ => rfl, fun _ => rfl⟩

theorem balanced_note {notes : γ} {ledger : Ledger ω μ γ} :
    (ledger.note notes).Balanced ↔ ledger.Balanced :=
  ⟨fun balanced => ⟨balanced.counts, balanced.depth⟩,
    fun balanced => ⟨balanced.counts, balanced.depth⟩⟩

theorem balanced_map {f : γ → δ} {ledger : Ledger ω μ γ} :
    (ledger.map f).Balanced ↔ ledger.Balanced :=
  ⟨fun balanced => ⟨balanced.counts, balanced.depth⟩,
    fun balanced => ⟨balanced.counts, balanced.depth⟩⟩

/-- The call ended balanced, with its notes as they were, or unbalanced and with a note of it. -/
def Settled (fail : γ → γ) (notes : γ) (later : Ledger ω μ γ) : Prop :=
  (later.notes = notes ∧ later.Balanced) ∨ (later.notes = fail notes ∧ ¬later.Balanced)

/-- The later ledger has the same entries, besides those of the thread's own objects. -/
structure Same (first second : Ledger ω μ γ) : Prop where
  own : ∀ o, first.own o → second.own o
  counts : ∀ o, ¬second.own o → second.counts o = first.counts o
  depth : second.depth = first.depth
  notes : second.notes = first.notes

theorem Same.refl (ledger : Ledger ω μ γ) : Same ledger ledger :=
  ⟨fun _ own => own, fun _ _ => rfl, rfl, rfl⟩

theorem Same.trans {first second third : Ledger ω μ γ} (early : Same first second)
    (late : Same second third) : Same first third := by
  refine ⟨fun o own => late.own o (early.own o own), ?_, late.depth.trans early.depth,
    late.notes.trans early.notes⟩
  intro o foreign
  rw [late.counts o foreign, early.counts o (fun own => foreign (late.own o own))]

theorem Same.renoted {first second : Ledger ω μ γ} (same : Same first second) :
    Same (first.note second.notes) second :=
  ⟨same.own, same.counts, same.depth, rfl⟩

theorem Same.note {first second : Ledger ω μ γ} (same : Same first second) (notes : γ) :
    Same (first.note notes) (second.note notes) :=
  ⟨same.own, same.counts, same.depth, rfl⟩

/-- The same entries, whatever is noted in between. -/
theorem Same.trans_noted {first second third : Ledger ω μ γ} (early : Same first second)
    (late : Same (second.note third.notes) third) : Same (first.note third.notes) third :=
  (early.note third.notes).trans late

theorem Same.balanced {first second : Ledger ω μ γ} (same : Same first second)
    (balanced : first.Balanced) : second.Balanced := by
  constructor
  · intro o foreign
    rw [same.counts o foreign]
    exact balanced.counts o (fun own => foreign (same.own o own))
  · intro m
    rw [same.depth]
    exact balanced.depth m

theorem Same.balanced_iff {first second : Ledger ω μ γ} (same : Same first second)
    (owns : ∀ o, second.own o → first.own o) : second.Balanced ↔ first.Balanced := by
  refine ⟨fun balanced => ⟨fun o foreign => ?_, fun m => ?_⟩, same.balanced⟩
  · have later : ¬second.own o := fun own => foreign (owns o own)
    rw [← same.counts o later]
    exact balanced.counts o later
  · rw [← same.depth]
    exact balanced.depth m

@[ext] theorem ext {first second : Ledger ω μ γ} (counts : ∀ o, first.counts o = second.counts o)
    (depth : ∀ m, first.depth m = second.depth m) (own : ∀ o, first.own o ↔ second.own o)
    (notes : first.notes = second.notes) : first = second := by
  cases first
  cases second
  simp only [mk.injEq]
  exact ⟨funext counts, funext depth, funext (fun o => propext (own o)), notes⟩

section Counts

variable [DecidableEq ω]

/-- The thread marks the object, or takes marks off it. -/
def mark (o : ω) (n : Int) (ledger : Ledger ω μ γ) : Ledger ω μ γ :=
  { ledger with counts := fun other => ledger.counts other + if other = o then n else 0 }

theorem note_mark (o : ω) (n : Int) (notes : γ) (ledger : Ledger ω μ γ) :
    (ledger.mark o n).note notes = (ledger.note notes).mark o n := rfl

@[simp] theorem mark_mark (o : ω) (n : Int) (ledger : Ledger ω μ γ) :
    (ledger.mark o n).mark o (-n) = ledger := by
  refine ext (fun other => ?_) (fun _ => rfl) (fun _ => Iff.rfl) rfl
  simp only [mark]
  split <;> omega

@[simp] theorem mark_again (o : ω) (n : Int) (ledger : Ledger ω μ γ) :
    (ledger.mark o (-n)).mark o n = ledger := by
  refine ext (fun other => ?_) (fun _ => rfl) (fun _ => Iff.rfl) rfl
  simp only [mark]
  split <;> omega

theorem Same.mark {first second : Ledger ω μ γ} (same : Same first second) (o : ω) (n : Int) :
    Same (first.mark o n) (second.mark o n) := by
  refine ⟨same.own, ?_, same.depth, same.notes⟩
  intro other foreign
  have unchanged := same.counts other foreign
  simp only [Ledger.mark]
  omega

theorem Same.released {first second : Ledger ω μ γ} {o : ω} {n : Int}
    (same : Same (first.mark o n) second) : Same first (second.mark o (-n)) := by
  have back := same.mark o (-n)
  rwa [mark_mark] at back

/-- The marks of an object that the thread erases are forgotten with it. -/
theorem Same.disowned {first second : Ledger ω μ γ} {o : ω} {n : Int}
    (same : Same (first.mark o n) second) (own : second.own o) : Same first second := by
  refine ⟨same.own, ?_, same.depth, same.notes⟩
  intro other foreign
  have apart : other ≠ o := fun equal => foreign (equal ▸ own)
  have unchanged := same.counts other foreign
  simp only [Ledger.mark, if_neg apart] at unchanged
  omega

end Counts

section Depth

variable [DecidableEq μ]

def hold (m : μ) (n : Int) (ledger : Ledger ω μ γ) : Ledger ω μ γ :=
  { ledger with depth := fun other => ledger.depth other + if other = m then n else 0 }

theorem note_hold (m : μ) (n : Int) (notes : γ) (ledger : Ledger ω μ γ) :
    (ledger.hold m n).note notes = (ledger.note notes).hold m n := rfl

@[simp] theorem hold_hold (m : μ) (n : Int) (ledger : Ledger ω μ γ) :
    (ledger.hold m n).hold m (-n) = ledger := by
  refine ext (fun _ => rfl) (fun other => ?_) (fun _ => Iff.rfl) rfl
  simp only [hold]
  split <;> omega

@[simp] theorem hold_again (m : μ) (n : Int) (ledger : Ledger ω μ γ) :
    (ledger.hold m (-n)).hold m n = ledger := by
  refine ext (fun _ => rfl) (fun other => ?_) (fun _ => Iff.rfl) rfl
  simp only [hold]
  split <;> omega

theorem hold_mark [DecidableEq ω] (o : ω) (m : μ) (n k : Int) (ledger : Ledger ω μ γ) :
    (ledger.hold m k).mark o n = (ledger.mark o n).hold m k := rfl

theorem Same.hold {first second : Ledger ω μ γ} (same : Same first second) (m : μ) (n : Int) :
    Same (first.hold m n) (second.hold m n) := by
  refine ⟨same.own, same.counts, ?_, same.notes⟩
  rw [Ledger.hold, Ledger.hold, same.depth]

theorem Same.unlocked {first second : Ledger ω μ γ} {m : μ} {n : Int}
    (same : Same (first.hold m n) second) : Same first (second.hold m (-n)) := by
  have back := same.hold m (-n)
  rwa [hold_hold] at back

end Depth

end Ledger

namespace Books

variable {σ μ ℓ m ω ρ γ δ α β : Type} [DecidableEq μ]

/-- The entry of one atom, by the states before and after it. -/
def charge (books : Books σ ℓ ω ρ γ) (atom : Atom μ ℓ) (before after : σ)
    (ledger : Ledger ω μ γ) : Ledger ω μ γ where
  counts o := ledger.counts o + (books.users o after - books.users o before)
  depth m := ledger.depth m + atom.depthChange m
  own o := ledger.own o ∨ match atom with
    | .act access => books.settles access before o
    | _ => False
  notes := match atom with
    | .act access => books.judge access before after ledger.notes
    | _ => ledger.notes

/-- Every complete run of the program, whatever other threads do in between, ends with `Q`. -/
abbrev Ends (books : Books σ ℓ ω ρ γ) (p : Prog σ (Atom μ ℓ) α) (ledger : Ledger ω μ γ)
    (Q : α → Ledger ω μ γ → Prop) : Prop :=
  p.Ends books.ready books.charge ledger Q

variable {books : Books σ ℓ ω ρ γ} {ledger : Ledger ω μ γ} {Q : α → Ledger ω μ γ → Prop}

/-! ## What the atoms enter -/

section Charge

variable {s t : σ}

theorem charge_lock (m : μ) : books.charge (.lock m) s s ledger = ledger.hold m 1 := by
  refine Ledger.ext (fun o => ?_) (fun other => rfl) (fun o => or_iff_left not_false) rfl
  simp only [charge, Ledger.hold]
  omega

theorem charge_relock (m : μ) (wait : ℓ) :
    books.charge (.relock m wait) s s ledger = ledger.hold m 1 := by
  refine Ledger.ext (fun o => ?_) (fun other => rfl) (fun o => or_iff_left not_false) rfl
  simp only [charge, Ledger.hold]
  omega

theorem charge_unlock (m : μ) : books.charge (.unlock m) s s ledger = ledger.hold m (-1) := by
  refine Ledger.ext (fun o => ?_) (fun other => rfl) (fun o => or_iff_left not_false) rfl
  simp only [charge, Ledger.hold]
  omega

theorem charge_await (wait : ℓ) : books.charge (.await wait : Atom μ ℓ) s s ledger = ledger := by
  refine Ledger.ext (fun o => ?_) (fun other => ?_) (fun o => or_iff_left not_false) rfl
  · simp only [charge]
    omega
  · simp only [charge, Atom.depthChange]
    omega

/-- An access changes the entries of the objects that it makes or erases at most. -/
theorem charge_same {access : ℓ}
    (same : ∀ o, ¬books.settles access s o → books.users o t = books.users o s) :
    (ledger.note (books.judge access s t ledger.notes)).Same
      (books.charge (.act access) s t ledger) := by
  refine ⟨fun o own => Or.inl own, ?_, ?_, rfl⟩
  · intro o foreign
    have unchanged := same o (fun settles => foreign (Or.inr settles))
    simp only [charge, Ledger.note]
    omega
  · funext m
    simp only [charge, Atom.depthChange, Ledger.note]
    omega

/-- An access that makes and erases nothing, and changes no user count. -/
theorem charge_plain {access : ℓ} (plain : ∀ o, ¬books.settles access s o)
    (same : ∀ o, books.users o t = books.users o s) :
    books.charge (.act access) s t ledger =
      ledger.note (books.judge access s t ledger.notes) := by
  refine Ledger.ext (fun o => ?_) (fun m => ?_) (fun o => or_iff_left (plain o)) rfl
  · have unchanged := same o
    simp only [charge, Ledger.note]
    omega
  · simp only [charge, Atom.depthChange, Ledger.note]
    omega

theorem charge_users [DecidableEq ω] {access : ℓ} {o : ω} {n : Int}
    (plain : ∀ o, ¬books.settles access s o)
    (adds : ∀ other, books.users other t = books.users other s + if other = o then n else 0) :
    books.charge (.act access) s t ledger =
      (ledger.mark o n).note (books.judge access s t ledger.notes) := by
  refine Ledger.ext (fun other => ?_) (fun m => ?_) (fun other => or_iff_left (plain other)) rfl
  · have changed := adds other
    simp only [charge, Ledger.mark, Ledger.note]
    omega
  · simp only [charge, Atom.depthChange, Ledger.mark, Ledger.note]
    omega

end Charge

/-! ## Ends of the parts of a program -/

theorem ends_lock {m : μ} {Q : Unit → Ledger ω μ γ → Prop} (post : Q () (ledger.hold m 1)) :
    books.Ends (lock m) ledger Q := by
  intro s _
  have entered : Q () (books.charge (.lock m) s s ledger) := by rwa [charge_lock]
  exact entered

theorem ends_unlock {m : μ} {Q : Unit → Ledger ω μ γ → Prop}
    (post : Q () (ledger.hold m (-1))) : books.Ends (unlock m) ledger Q := by
  intro s _
  have entered : Q () (books.charge (.unlock m) s s ledger) := by rwa [charge_unlock]
  exact entered

theorem ends_then {p : Prog σ (Atom μ ℓ) β} {k : β → Prog σ (Atom μ ℓ) α}
    (first : books.Ends p ledger (fun b later => books.Ends (k b) later Q)) :
    books.Ends (p >>= k) ledger Q :=
  ends_bind.mpr first

theorem ends_cases {c : Prop} [Decidable c] {p q : Prog σ (Atom μ ℓ) α}
    (yes : c → books.Ends p ledger Q) (no : ¬c → books.Ends q ledger Q) :
    books.Ends (if c then p else q) ledger Q :=
  ends_ite.mpr ⟨yes, no⟩

theorem ends_lock_then {m : μ} {k : Unit → Prog σ (Atom μ ℓ) α}
    (rest : books.Ends (k ()) (ledger.hold m 1) Q) : books.Ends (lock m >>= k) ledger Q :=
  ends_then (ends_lock rest)

theorem ends_unlock_then {m : μ} {k : Unit → Prog σ (Atom μ ℓ) α}
    (rest : books.Ends (k ()) (ledger.hold m (-1)) Q) : books.Ends (unlock m >>= k) ledger Q :=
  ends_then (ends_unlock rest)

theorem ends_relock {m : μ} {wait : ℓ} {Q : Unit → Ledger ω μ γ → Prop}
    (post : Q () (ledger.hold m 1)) : books.Ends (relock m wait) ledger Q := by
  intro s _
  have entered : Q () (books.charge (.relock m wait) s s ledger) := by rwa [charge_relock]
  exact entered

theorem ends_guarded {m : μ} {p : Prog σ (Atom μ ℓ) α}
    (body : books.Ends p (ledger.hold m 1) (fun a later => Q a (later.hold m (-1)))) :
    books.Ends (guarded m p) ledger Q := by
  rw [guarded, Ends, ends_bind]
  apply ends_lock
  rw [ends_bind]
  refine body.mono ?_
  intro a later post
  rw [ends_bind]
  exact ends_unlock post

theorem ends_reading {access : ℓ} {read : σ → α} (plain : ∀ s o, ¬books.settles access s o)
    (post : ∀ s, Q (read s) (ledger.note (books.judge access s s ledger.notes))) :
    books.Ends (reading access read) ledger Q := by
  rw [reading, Ends, ends_access]
  intro s
  rw [charge_plain (plain s) (fun _ => rfl)]
  exact post s

theorem ends_writing {access : ℓ} {write : σ → σ} {Q : Unit → Ledger ω μ γ → Prop}
    (plain : ∀ s o, ¬books.settles access s o)
    (same : ∀ s o, books.users o (write s) = books.users o s)
    (post : ∀ s, Q () (ledger.note (books.judge access s (write s) ledger.notes))) :
    books.Ends (writing access write) ledger Q := by
  intro s _
  have entered : Q () (books.charge (.act access) s (write s) ledger) := by
    rw [charge_plain (plain s) (same s)]
    exact post s
  exact entered

/-- An access that changes the counts of the objects that it makes or erases at most. -/
theorem ends_access_same {access : ℓ} {body : σ → α × σ}
    (same : ∀ s o, ¬books.settles access s o → books.users o (body s).2 = books.users o s)
    (post : ∀ s later, (ledger.note (books.judge access s (body s).2 ledger.notes)).Same later →
      (∀ o, later.own o ↔ ledger.own o ∨ books.settles access s o) → Q (body s).1 later) :
    books.Ends (Prog.access access body) ledger Q := by
  rw [Ends, ends_access]
  intro s
  exact post s _ (charge_same (same s)) (fun _ => Iff.rfl)

/-- Nothing is noted of the access, as long as what is watched stays as it is. -/
def Silent (books : Books σ ℓ ω ρ γ) (access : ℓ) : Prop :=
  ∀ s t notes, books.watched t = books.watched s → books.judge access s t notes = notes

theorem ends_reading_silent {access : ℓ} {read : σ → α}
    (plain : ∀ s o, ¬books.settles access s o) (silent : books.Silent access)
    (post : ∀ s, Q (read s) ledger) : books.Ends (reading access read) ledger Q := by
  refine ends_reading plain ?_
  intro s
  rw [silent s s _ rfl]
  exact post s

/-- The access marks the object `n` times, or takes marks off it, and does nothing else. -/
structure Marks [DecidableEq ω] (books : Books σ ℓ ω ρ γ) (access : ℓ) (write : σ → σ) (o : ω)
    (n : Int) : Prop where
  plain : ∀ s other, ¬books.settles access s other
  users : ∀ s other,
    books.users other (write s) = books.users other s + if other = o then n else 0
  watched : ∀ s, books.watched (write s) = books.watched s
  silent : books.Silent access

theorem Marks.ends [DecidableEq ω] {access : ℓ} {write : σ → σ} {o : ω} {n : Int}
    {Q : Unit → Ledger ω μ γ → Prop} (marks : books.Marks access write o n)
    (post : Q () (ledger.mark o n)) : books.Ends (writing access write) ledger Q := by
  intro s _
  have entered : Q () (books.charge (.act access) s (write s) ledger) := by
    rw [charge_users (marks.plain s) (marks.users s), marks.silent _ _ _ (marks.watched s)]
    exact post
  exact entered

/-! ## Parts that keep the ledger -/

/-- The part leaves the ledger as it was, besides objects of its own. -/
def Keeps (books : Books σ ℓ ω ρ γ) (p : Prog σ (Atom μ ℓ) α) : Prop :=
  ∀ ledger : Ledger ω μ γ, books.Ends p ledger (fun _ later => ledger.Same later)

theorem Keeps.andThen {p : Prog σ (Atom μ ℓ) α} {k : α → Prog σ (Atom μ ℓ) β}
    {Q : β → Ledger ω μ γ → Prop} (keeps : books.Keeps p)
    (rest : ∀ a later, ledger.Same later → books.Ends (k a) later Q) :
    books.Ends (p >>= k) ledger Q := by
  rw [Ends, ends_bind]
  exact (keeps ledger).mono (fun a later same => rest a later same)

theorem keeps_pure (a : α) : books.Keeps (pure a : Prog σ (Atom μ ℓ) α) := Ledger.Same.refl

theorem Keeps.bind {p : Prog σ (Atom μ ℓ) α} {k : α → Prog σ (Atom μ ℓ) β}
    (first : books.Keeps p) (second : ∀ a, books.Keeps (k a)) : books.Keeps (p >>= k) := by
  intro ledger
  refine first.andThen ?_
  intro a later same
  exact (second a later).mono (fun _ last => same.trans)

theorem keeps_guarded {m : μ} {p : Prog σ (Atom μ ℓ) α} (keeps : books.Keeps p) :
    books.Keeps (guarded m p) := by
  intro ledger
  apply ends_guarded
  exact (keeps _).mono (fun _ _ same => same.unlocked)

/-- The access changes no user count besides those of the objects that it makes or erases, and
nothing that is watched. -/
structure Minor (books : Books σ ℓ ω ρ γ) (access : ℓ) (write : σ → σ) : Prop where
  users : ∀ s o, ¬books.settles access s o → books.users o (write s) = books.users o s
  watched : ∀ s, books.watched (write s) = books.watched s

theorem ends_access_silent {access : ℓ} {body : σ → α × σ} (silent : books.Silent access)
    (minor : books.Minor access (fun s => (body s).2))
    (post : ∀ s later, ledger.Same later →
      (∀ o, later.own o ↔ ledger.own o ∨ books.settles access s o) → Q (body s).1 later) :
    books.Ends (Prog.access access body) ledger Q := by
  refine ends_access_same minor.users ?_
  intro s later same owns
  rw [silent _ _ _ (minor.watched s)] at same
  exact post s later same owns

theorem keeps_access {access : ℓ} {body : σ → α × σ} (silent : books.Silent access)
    (minor : books.Minor access (fun s => (body s).2)) :
    books.Keeps (Prog.access access body : Prog σ (Atom μ ℓ) α) := by
  intro ledger
  exact ends_access_silent silent minor (fun _ _ same _ => same)

theorem keeps_reading {access : ℓ} {read : σ → α} (silent : books.Silent access) :
    books.Keeps (reading access read : Prog σ (Atom μ ℓ) α) :=
  keeps_access silent ⟨fun _ _ _ => rfl, fun _ => rfl⟩

theorem keeps_writing {access : ℓ} {write : σ → σ} (silent : books.Silent access)
    (minor : books.Minor access write) :
    books.Keeps (writing access write : Prog σ (Atom μ ℓ) Unit) :=
  keeps_access silent minor

theorem keeps_ite {c : Prop} [Decidable c] {p q : Prog σ (Atom μ ℓ) α} (yes : books.Keeps p)
    (no : books.Keeps q) : books.Keeps (if c then p else q) := by
  by_cases h : c
  · rw [if_pos h]
    exact yes
  · rw [if_neg h]
    exact no

theorem keeps_when {c : Prop} [Decidable c] {p : Prog σ (Atom μ ℓ) Unit}
    (keeps : books.Keeps p) : books.Keeps (when c p) :=
  keeps_ite keeps (keeps_pure ())

theorem keeps_forEach {items : List β} {body : β → Prog σ (Atom μ ℓ) Unit}
    (round : ∀ item, books.Keeps (body item)) : books.Keeps (forEach items body) := by
  induction items with
  | nil => exact keeps_pure ()
  | cons item rest ih => exact (round item).bind (fun _ => ih)

/-! ## Parts that change no entry -/

/-- The part leaves the ledger exactly as it was. -/
def Still (books : Books σ ℓ ω ρ γ) (p : Prog σ (Atom μ ℓ) α) : Prop :=
  ∀ ledger : Ledger ω μ γ, books.Ends p ledger (fun _ later => later = ledger)

theorem Still.keeps {p : Prog σ (Atom μ ℓ) α} (still : books.Still p) : books.Keeps p := by
  intro ledger
  refine (still ledger).mono ?_
  rintro _ later rfl
  exact Ledger.Same.refl later

theorem Still.andThen {p : Prog σ (Atom μ ℓ) α} {k : α → Prog σ (Atom μ ℓ) β}
    {Q : β → Ledger ω μ γ → Prop} (still : books.Still p)
    (rest : ∀ a, books.Ends (k a) ledger Q) : books.Ends (p >>= k) ledger Q := by
  rw [Ends, ends_bind]
  refine (still ledger).mono ?_
  rintro a later rfl
  exact rest a

theorem still_pure (a : α) : books.Still (pure a : Prog σ (Atom μ ℓ) α) := fun _ => rfl

theorem Still.bind {p : Prog σ (Atom μ ℓ) α} {k : α → Prog σ (Atom μ ℓ) β}
    (first : books.Still p) (second : ∀ a, books.Still (k a)) : books.Still (p >>= k) :=
  fun ledger => first.andThen (fun a => second a ledger)

theorem still_guarded {m : μ} {p : Prog σ (Atom μ ℓ) α} (still : books.Still p) :
    books.Still (guarded m p) := by
  intro ledger
  apply ends_guarded
  refine (still _).mono ?_
  rintro _ later rfl
  exact Ledger.hold_hold m 1 ledger

theorem still_reading {access : ℓ} {read : σ → α} (plain : ∀ s o, ¬books.settles access s o)
    (silent : books.Silent access) :
    books.Still (reading access read : Prog σ (Atom μ ℓ) α) :=
  fun _ => ends_reading_silent plain silent (fun _ => rfl)

theorem still_writing {access : ℓ} {write : σ → σ} (plain : ∀ s o, ¬books.settles access s o)
    (silent : books.Silent access) (minor : books.Minor access write) :
    books.Still (writing access write : Prog σ (Atom μ ℓ) Unit) := by
  intro ledger
  refine ends_writing plain (fun s o => minor.users s o (plain s o)) (fun s => ?_)
  rw [silent _ _ _ (minor.watched s)]
  rfl

theorem still_ite {c : Prop} [Decidable c] {p q : Prog σ (Atom μ ℓ) α} (yes : books.Still p)
    (no : books.Still q) : books.Still (if c then p else q) := by
  by_cases h : c
  · rw [if_pos h]
    exact yes
  · rw [if_neg h]
    exact no

theorem still_forEach {items : List β} {body : β → Prog σ (Atom μ ℓ) Unit}
    (round : ∀ item, books.Still (body item)) : books.Still (forEach items body) := by
  induction items with
  | nil => exact still_pure ()
  | cons item rest ih => exact (round item).bind (fun _ => ih)

/-- The wait lets the mutex go and takes it again. -/
theorem still_waitWhile {busy : Bool} {m : μ} {wait : ℓ} :
    books.Still (waitWhile busy m wait : Prog σ (Atom μ ℓ) Unit) := by
  apply still_ite
  · intro ledger
    rw [Ends, ends_bind]
    apply ends_unlock
    apply ends_relock
    exact Ledger.hold_again m 1 ledger
  · exact still_pure ()

theorem still_await {wait : ℓ} : books.Still (await wait : Prog σ (Atom μ ℓ) Unit) := by
  intro ledger s _
  have entered : books.charge (.await wait : Atom μ ℓ) s s ledger = ledger := charge_await wait
  exact entered

/-! ## Lookups that mark what they find -/

section Marking

variable [DecidableEq ω] {access : ℓ} {write : σ → σ} {o : ω}

theorem ends_release {m : μ} {Q : Unit → Ledger ω μ γ → Prop}
    (marks : books.Marks access write o (-1)) (post : Q () (ledger.mark o (-1))) :
    books.Ends (guarded m (writing access write)) ledger Q := by
  apply ends_guarded
  apply marks.ends
  rw [Ledger.hold_mark, Ledger.hold_hold]
  exact post

/-- What is noted of the lookup is left open. -/
theorem ends_findAndMark_noted {m : μ} {lookup : ℓ} {find : σ → Option β}
    {k : Option β → Prog σ (Atom μ ℓ) (Option β)} {mark : β → ℓ} {add : β → σ → σ} {object : β → ω}
    {Q : Option β → Ledger ω μ γ → Prop} (fails : k none = pure none)
    (finds : ∀ x, k (some x) = writing (mark x) (add x) >>= fun _ => pure (some x))
    (marks : ∀ x, books.Marks (mark x) (add x) (object x) 1)
    (plain : ∀ s o, ¬books.settles lookup s o)
    (missing : ∀ s, find s = none → Q none (ledger.note (books.judge lookup s s ledger.notes)))
    (found : ∀ s x, find s = some x →
      Q (some x) ((ledger.note (books.judge lookup s s ledger.notes)).mark (object x) 1)) :
    books.Ends (guarded m (reading lookup find >>= k)) ledger Q := by
  apply ends_guarded
  rw [Ends, ends_bind]
  refine ends_reading plain ?_
  intro s
  cases outcome : find s with
  | none =>
    have post := missing s outcome
    rw [← Ledger.hold_hold m 1 ledger] at post
    rw [fails]
    exact post
  | some x =>
    have post := found s x outcome
    rw [← Ledger.hold_hold m 1 ledger] at post
    rw [finds, ends_bind]
    apply (marks x).ends
    exact post

theorem ends_findAndMark {m : μ} {lookup : ℓ} {find : σ → Option β}
    {k : Option β → Prog σ (Atom μ ℓ) (Option β)} {mark : β → ℓ} {add : β → σ → σ} {object : β → ω}
    {Q : Option β → Ledger ω μ γ → Prop} (fails : k none = pure none)
    (finds : ∀ x, k (some x) = writing (mark x) (add x) >>= fun _ => pure (some x))
    (marks : ∀ x, books.Marks (mark x) (add x) (object x) 1)
    (plain : ∀ s o, ¬books.settles lookup s o) (silent : books.Silent lookup)
    (missing : Q none ledger) (found : ∀ x, Q (some x) (ledger.mark (object x) 1)) :
    books.Ends (guarded m (reading lookup find >>= k)) ledger Q := by
  refine ends_findAndMark_noted fails finds marks plain ?_ ?_
  · intro s _
    rw [silent s s _ rfl]
    exact missing
  · intro s x _
    rw [silent s s _ rfl]
    exact found x

end Marking

/-! ## Other names and other notes -/

/-- The books of a program whose accesses go by other names. -/
def under (f : ℓ → m) (books : Books σ m ω ρ γ) : Books σ ℓ ω ρ γ where
  ready label := books.ready (f label)
  users := books.users
  settles label := books.settles (f label)
  watched := books.watched
  judge label := books.judge (f label)

theorem charge_map {f : ℓ → m} {books : Books σ m ω ρ γ} (atom : Atom μ ℓ) :
    books.charge (atom.map f) = ((books.under f).charge atom : σ → σ → Ledger ω μ γ → Ledger ω μ γ) := by
  cases atom <;> rfl

theorem ends_rename {f : ℓ → m} {books : Books σ m ω ρ γ} {p : Prog σ (Atom μ ℓ) α} :
    books.Ends (p.rename f) ledger Q ↔ (books.under f).Ends p ledger Q := by
  rw [Ends, Prog.ends_rename]
  simp only [charge_map]
  exact Iff.rfl

/-- The same books with other notes. -/
def judged (books : Books σ ℓ ω ρ γ) (judge : ℓ → σ → σ → δ → δ) : Books σ ℓ ω ρ δ where
  ready := books.ready
  users := books.users
  settles := books.settles
  watched := books.watched
  judge := judge

/-- Notes that can be read off the notes of other books. -/
theorem ends_judged {judge : ℓ → σ → σ → δ → δ} {f : γ → δ} {p : Prog σ (Atom μ ℓ) α}
    {Q : α → Ledger ω μ δ → Prop}
    (reads : ∀ access s t notes, judge access s t (f notes) = f (books.judge access s t notes)) :
    (books.judged judge).Ends p (ledger.map f) Q ↔
      books.Ends p ledger (fun a later => Q a (later.map f)) := by
  induction p generalizing ledger with
  | done result => exact Iff.rfl
  | atomic atom update next ih =>
    have entered : ∀ s, (books.judged judge).charge atom s (update s) (ledger.map f) =
        (books.charge atom s (update s) ledger).map f := by
      intro s
      refine Ledger.ext (fun _ => rfl) (fun _ => rfl) (fun _ => Iff.rfl) ?_
      cases atom with
      | act access => exact reads access s (update s) ledger.notes
      | lock | unlock | relock | await => rfl
    constructor
    · intro ends s isReady
      refine (ih s).mp ?_
      rw [← entered]
      exact ends s isReady
    · intro ends s isReady
      have rest := (ih s).mpr (ends s isReady)
      rwa [← entered] at rest

end Books

end LockProgram
