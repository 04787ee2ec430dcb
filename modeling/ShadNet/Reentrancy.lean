import Mathlib.Data.List.Perm.Basic

/-!
# One thread that is called back

A thread runs programs that take mutexes and call code from outside, which may enter programs again.
What the thread holds is what the programs on its stack hold, each at the place it has come to. It
gets stuck where it takes a mutex that is not recursive and that a program further down the stack
holds.
-/

namespace Reentrancy

variable {μ ε σ ι : Type} [DecidableEq μ]

inductive Act (μ ε : Type) where
  | lock (m : μ)
  | unlock (m : μ)
  | call
  | effect (e : ε)
  deriving DecidableEq, Repr

/-- What a program holds when these acts are left of it. -/
def holds : List (Act μ ε) → List μ
  | [] => []
  | .lock m :: rest => (holds rest).erase m
  | .unlock m :: rest => m :: holds rest
  | .call :: rest => holds rest
  | .effect _ :: rest => holds rest

/-- Code from outside, or what is left of a program. -/
inductive Frame (μ ε : Type) where
  | outside
  | code (acts : List (Act μ ε))
  deriving DecidableEq, Repr

def Frame.holds : Frame μ ε → List μ
  | .outside => []
  | .code acts => Reentrancy.holds acts

structure Thread (μ ε σ : Type) where
  data : σ
  held : List μ := []
  stack : List (Frame μ ε) := [.outside]
  stuck : Bool := false
  deriving DecidableEq, Repr

/-- `perform` is what an effect does to the data, and the program it runs, if any; `guard` is the
mutex that an effect is meant to happen under. -/
structure System (μ ε σ ι : Type) where
  recursive : μ → Bool
  perform : ε → σ → List (Act μ ε) × σ
  guard : ε → Option μ
  program : ι → List (Act μ ε)

inductive Move (ι : Type) where
  | enter (call : ι)
  | leave
  | next
  deriving DecidableEq, Repr

variable (sys : System μ ε σ ι)

/-- The next act of a program, with the frames below it. -/
def act (acts : List (Act μ ε)) (below : List (Frame μ ε)) (t : Thread μ ε σ) : Thread μ ε σ :=
  match acts with
  | [] => { t with stack := below }
  | .lock m :: rest =>
    if sys.recursive m = false ∧ m ∈ t.held then { t with stuck := true }
    else { t with held := m :: t.held, stack := .code rest :: below }
  | .unlock m :: rest => { t with held := t.held.erase m, stack := .code rest :: below }
  | .call :: rest => { t with stack := .outside :: .code rest :: below }
  | .effect e :: rest =>
    let done := sys.perform e t.data
    { t with
      data := done.2
      stack := if done.1 = [] then .code rest :: below else .code done.1 :: .code rest :: below }

/-- Code from outside enters a program or comes to its end, or a program goes on. -/
def go (op : Move ι) (t : Thread μ ε σ) : Thread μ ε σ :=
  match op with
  | .enter call =>
    match t.stack with
    | .outside :: below => { t with stack := .code (sys.program call) :: .outside :: below }
    | _ => t
  | .leave =>
    match t.stack with
    | .outside :: frame :: below => { t with stack := frame :: below }
    | _ => t
  | .next =>
    match t.stack with
    | .code acts :: below => act sys acts below t
    | _ => t

def move (op : Move ι) (t : Thread μ ε σ) : Thread μ ε σ :=
  if t.stuck then t else go sys op t

/-! ## Programs -/

/-- Only recursive mutexes are held. -/
def Clear (acts : List (Act μ ε)) : Prop := ∀ m ∈ holds acts, sys.recursive m = true

variable (special : List (Act μ ε) → Prop)

/-- Locks are paired with unlocks and taken once, effects happen under their guards, and where other
code runs the program is clear, or is at a special place. -/
def Sane : List (Act μ ε) → Prop
  | [] => True
  | .lock m :: rest =>
    m ∈ holds rest ∧ (sys.recursive m = false → m ∉ (holds rest).erase m) ∧ Sane rest
  | .unlock _ :: rest => Sane rest
  | .call :: rest => (Clear sys rest ∨ special rest) ∧ Sane rest
  | .effect e :: rest =>
    (∀ s, (sys.perform e s).1 = [] ∨ Clear sys rest ∨ special rest) ∧
      (∀ m, sys.guard e = some m → m ∈ holds rest) ∧ Sane rest

/-- A program that leaves what is held as it is, whatever comes behind it, as long as that is
clear. -/
def Closed (body : List (Act μ ε)) : Prop :=
  ∀ rest, Sane sys special rest → Clear sys rest →
    holds (body ++ rest) = holds rest ∧ Sane sys special (body ++ rest)

section

variable {sys special}

theorem closed_nil : Closed sys special [] := fun _ sane _ => ⟨rfl, sane⟩

theorem Closed.append {first second : List (Act μ ε)} (one : Closed sys special first)
    (two : Closed sys special second) : Closed sys special (first ++ second) := by
  intro rest sane clear
  obtain ⟨same, sane'⟩ := two rest sane clear
  have clear' : Clear sys (second ++ rest) := by
    rw [Clear, same]
    exact clear
  obtain ⟨same', sane''⟩ := one (second ++ rest) sane' clear'
  rw [List.append_assoc]
  exact ⟨same'.trans same, sane''⟩

theorem closed_flatMap {α : Type} {body : α → List (Act μ ε)}
    (each : ∀ a, Closed sys special (body a)) (items : List α) :
    Closed sys special (items.flatMap body) := by
  induction items with
  | nil => exact closed_nil
  | cons a rest ih =>
    rw [List.flatMap_cons]
    exact (each a).append ih

theorem closed_calls (n : Nat) : Closed sys special (List.replicate n .call) := by
  induction n with
  | zero => exact closed_nil
  | succ n ih =>
    intro rest sane clear
    obtain ⟨same, sane'⟩ := ih rest sane clear
    have clear' : Clear sys (List.replicate n .call ++ rest) := by
      rw [Clear, same]
      exact clear
    exact ⟨same, Or.inl clear', sane'⟩

/-- A recursive mutex around a closed program. -/
theorem Closed.guarded {m : μ} {body : List (Act μ ε)} (closed : Closed sys special body)
    (recursive : sys.recursive m = true) :
    Closed sys special (.lock m :: body ++ [.unlock m]) := by
  intro rest sane clear
  have clear' : Clear sys (.unlock m :: rest : List (Act μ ε)) := by
    intro m' member
    rcases List.mem_cons.mp member with rfl | member
    · exact recursive
    · exact clear m' member
  obtain ⟨same, sane'⟩ := closed (.unlock m :: rest) sane clear'
  have shape : .lock m :: body ++ [.unlock m] ++ rest =
      .lock m :: (body ++ .unlock m :: rest : List (Act μ ε)) := by simp
  have inside : holds (body ++ .unlock m :: rest) = m :: holds rest := same
  rw [shape]
  refine ⟨?_, ?_, fun plain => ?_, sane'⟩
  · rw [holds, inside, List.erase_cons_head]
  · rw [inside]
    exact List.mem_cons_self
  · rw [recursive] at plain
    contradiction

theorem Clear.not_mem {acts : List (Act μ ε)} (clear : Clear sys acts) {m : μ}
    (plain : sys.recursive m = false) : m ∉ holds acts := by
  intro member
  have recursive := clear m member
  rw [plain] at recursive
  contradiction

/-- A mutex on its own. -/
theorem closed_section (m : μ) : Closed sys special [.lock m, .unlock m] := by
  intro rest sane clear
  have inside : holds (.unlock m :: rest : List (Act μ ε)) = m :: holds rest := rfl
  refine ⟨?_, ?_, fun plain => ?_, sane⟩
  · change (holds (.unlock m :: rest : List (Act μ ε))).erase m = holds rest
    rw [inside, List.erase_cons_head]
  · change m ∈ holds (.unlock m :: rest : List (Act μ ε))
    rw [inside]
    exact List.mem_cons_self
  · change m ∉ (holds (.unlock m :: rest : List (Act μ ε))).erase m
    rw [inside, List.erase_cons_head]
    exact clear.not_mem plain

/-- Two different mutexes together. -/
theorem closed_pair {a b : μ} (differ : a ≠ b) :
    Closed sys special [.lock a, .lock b, .unlock b, .unlock a] := by
  intro rest sane clear
  have outer : holds (.unlock a :: rest : List (Act μ ε)) = a :: holds rest := rfl
  have inner : holds (.unlock b :: .unlock a :: rest : List (Act μ ε)) = b :: a :: holds rest := rfl
  have locked : holds (.lock b :: .unlock b :: .unlock a :: rest : List (Act μ ε)) =
      a :: holds rest := by
    rw [holds, inner, List.erase_cons_head]
  refine ⟨?_, ?_, fun plain => ?_, ?_, fun plain => ?_, sane⟩
  · change (holds (.lock b :: .unlock b :: .unlock a :: rest : List (Act μ ε))).erase a = holds rest
    rw [locked, List.erase_cons_head]
  · change a ∈ holds (.lock b :: .unlock b :: .unlock a :: rest : List (Act μ ε))
    rw [locked]
    exact List.mem_cons_self
  · change a ∉ (holds (.lock b :: .unlock b :: .unlock a :: rest : List (Act μ ε))).erase a
    rw [locked, List.erase_cons_head]
    exact clear.not_mem plain
  · change b ∈ holds (.unlock b :: .unlock a :: rest : List (Act μ ε))
    rw [inner]
    exact List.mem_cons_self
  · change b ∉ (holds (.unlock b :: .unlock a :: rest : List (Act μ ε))).erase b
    rw [inner, List.erase_cons_head, List.mem_cons, not_or]
    exact ⟨differ.symm, clear.not_mem plain⟩

/-! ## The account of a thread -/

/-- A program from its start to its end. -/
structure Whole (sys : System μ ε σ ι) (special : List (Act μ ε) → Prop)
    (acts : List (Act μ ε)) : Prop where
  sane : Sane sys special acts
  nothing : holds acts = []

theorem Closed.whole {body : List (Act μ ε)} (closed : Closed sys special body) :
    Whole sys special body := by
  obtain ⟨same, sane⟩ := closed [] trivial nofun
  rw [List.append_nil] at same sane
  exact ⟨sane, same⟩

/-- What is held is what the frames hold, a mutex that is not recursive is held once, and the
programs that other code runs out of are clear or at a special place. -/
structure Account (sys : System μ ε σ ι) (special : List (Act μ ε) → Prop)
    (t : Thread μ ε σ) : Prop where
  held : t.held.Perm (t.stack.flatMap Frame.holds)
  once : ∀ m, sys.recursive m = false → t.held.count m ≤ 1
  sane : ∀ acts, .code acts ∈ t.stack → Sane sys special acts
  below : ∀ acts, .code acts ∈ t.stack.tail → Clear sys acts ∨ special acts

theorem account_start (data : σ) : Account sys special { data : Thread μ ε σ } :=
  ⟨List.Perm.refl _, fun _ _ => Nat.zero_le _, fun _ member => by simp at member,
    fun _ member => by simp at member⟩

variable {t : Thread μ ε σ} {acts : List (Act μ ε)} {below : List (Frame μ ε)}

/-- The frames below the first one stay. -/
theorem Account.frames (account : Account sys special t) (top : t.stack = .code acts :: below) :
    ∀ frames, .code frames ∈ below →
      Sane sys special frames ∧ (Clear sys frames ∨ special frames) := by
  intro frames member
  have sane := account.sane frames
  have suspended := account.below frames
  rw [top] at sane suspended
  exact ⟨sane (List.mem_cons_of_mem _ member), suspended member⟩

/-- The first program goes on to its next acts. -/
theorem Account.goesOn (account : Account sys special t) (top : t.stack = .code acts :: below)
    {data : σ} {held : List μ} {rest : List (Act μ ε)}
    (perm : held.Perm (holds rest ++ below.flatMap Frame.holds))
    (once : ∀ m, sys.recursive m = false → held.count m ≤ 1) (sane : Sane sys special rest) :
    Account sys special { t with data, held, stack := .code rest :: below } := by
  have frames := account.frames top
  refine ⟨perm, once, fun frame member => ?_, fun frame member => (frames frame member).2⟩
  rcases List.mem_cons.mp member with same | member
  · injection same with same
    exact same ▸ sane
  · exact (frames frame member).1

/-- Other code runs out of the first program. -/
theorem Account.pushes (account : Account sys special t) (top : t.stack = .code acts :: below)
    {data : σ} {frame : Frame μ ε} {rest : List (Act μ ε)}
    (same : holds rest = holds acts) (sane : Sane sys special rest)
    (suspended : Clear sys rest ∨ special rest) (nothing : frame.holds = [])
    (whole : ∀ new, frame = .code new → Sane sys special new) :
    Account sys special { t with data, stack := frame :: .code rest :: below } := by
  have frames := account.frames top
  refine ⟨?_, account.once, fun new member => ?_, fun new member => ?_⟩
  · have perm := account.held
    have left : (Frame.code rest).holds = (Frame.code acts).holds := same
    rw [top, List.flatMap_cons] at perm
    simp only [List.flatMap_cons, nothing, List.nil_append, left]
    exact perm
  · rcases List.mem_cons.mp member with here | member
    · exact whole new here.symm
    · rcases List.mem_cons.mp member with here | member
      · injection here with here
        exact here ▸ sane
      · exact (frames new member).1
  · rcases List.mem_cons.mp member with here | member
    · injection here with here
      exact here ▸ suspended
    · exact (frames new member).2

/-- What entering and the effects have to run for the account to be kept. -/
structure Wholesome (sys : System μ ε σ ι) (special : List (Act μ ε) → Prop) : Prop where
  program : ∀ call, Whole sys special (sys.program call)
  effect : ∀ e s, Whole sys special (sys.perform e s).1

theorem account_act (wholesome : Wholesome sys special) (account : Account sys special t)
    (top : t.stack = .code acts :: below) : Account sys special (act sys acts below t) := by
  have sane : Sane sys special acts := account.sane acts (top ▸ List.mem_cons_self)
  have perm := account.held
  rw [top, List.flatMap_cons] at perm
  cases acts with
  | nil =>
    have frames := account.frames top
    exact ⟨perm, account.once, fun frame member => (frames frame member).1,
      fun frame member => (frames frame (List.mem_of_mem_tail member)).2⟩
  | cons first rest =>
    cases first with
    | lock m =>
      simp only [act]
      split
      · exact ⟨account.held, account.once, account.sane, account.below⟩
      · next free =>
        obtain ⟨member, -, sane⟩ := sane
        refine account.goesOn top ?_ (fun m' plain => ?_) sane
        · have back : (m :: (holds rest).erase m).Perm (holds rest) :=
            (List.perm_cons_erase member).symm
          exact (perm.cons m).trans (back.append_right _)
        · rw [List.count_cons]
          have bound := account.once m' plain
          split
          · next same =>
            have same' : m = m' := by simpa using same
            have fresh : m' ∉ t.held := fun held => free ⟨same' ▸ plain, same' ▸ held⟩
            have none := List.count_eq_zero_of_not_mem fresh
            omega
          · exact bound
    | unlock m =>
      simp only [act]
      refine account.goesOn top ?_ (fun m' plain => ?_) sane
      · have erased := perm.erase m
        rw [List.erase_append_left] at erased
        · have head : (Frame.code (.unlock m :: rest) : Frame μ ε).holds.erase m = holds rest :=
            List.erase_cons_head ..
          rw [head] at erased
          exact erased
        · exact List.mem_cons_self
      · exact Nat.le_trans (List.Sublist.count_le m' (List.erase_sublist)) (account.once m' plain)
    | call =>
      obtain ⟨suspended, sane⟩ := sane
      exact account.pushes top rfl sane suspended rfl nofun
    | effect e =>
      obtain ⟨suspended, -, sane⟩ := sane
      simp only [act]
      split
      · exact account.goesOn top perm account.once sane
      · next more =>
        have whole := wholesome.effect e t.data
        have here : Clear sys rest ∨ special rest := (suspended t.data).resolve_left more
        exact account.pushes top rfl sane here whole.nothing fun new same => by
          injection same with same
          exact same ▸ whole.sane

theorem account_enter (wholesome : Wholesome sys special) (account : Account sys special t)
    (top : t.stack = .outside :: below) (call : ι) :
    Account sys special { t with stack := .code (sys.program call) :: .outside :: below } := by
  have whole := wholesome.program call
  have perm := account.held
  have frames := account.sane
  have under := account.below
  rw [top] at perm frames under
  refine ⟨?_, account.once, fun acts member => ?_, fun acts member => ?_⟩
  · have nothing : (Frame.code (sys.program call)).holds = [] := whole.nothing
    rw [List.flatMap_cons, nothing]
    exact perm
  · rcases List.mem_cons.mp member with same | member
    · injection same with same
      exact same ▸ whole.sane
    · exact frames acts member
  · rcases List.mem_cons.mp member with same | member
    · contradiction
    · exact under acts member

theorem account_leave (account : Account sys special t) {frame : Frame μ ε}
    (top : t.stack = .outside :: frame :: below) :
    Account sys special { t with stack := frame :: below } := by
  have perm := account.held
  have frames := account.sane
  have under := account.below
  rw [top] at perm frames under
  exact ⟨perm, account.once, fun acts member => frames acts (List.mem_cons_of_mem _ member),
    fun acts member => under acts (List.mem_cons_of_mem _ member)⟩

theorem account_move (wholesome : Wholesome sys special) (op : Move ι)
    (account : Account sys special t) : Account sys special (move sys op t) := by
  rw [move]
  split
  · exact account
  · cases op with
    | enter call =>
      simp only [go]
      split
      · next below top => exact account_enter wholesome account top call
      · exact account
    | leave =>
      simp only [go]
      split
      · next frame below top => exact account_leave account top
      · exact account
    | next =>
      simp only [go]
      split
      · next acts below top => exact account_act wholesome account top
      · exact account

/-! ## Getting stuck -/

/-- The thread is about to take a mutex that is not recursive and that a program below holds at a
special place. -/
def Relocks (sys : System μ ε σ ι) (special : List (Act μ ε) → Prop) (op : Move ι)
    (t : Thread μ ε σ) : Prop :=
  ∃ m rest below, op = .next ∧ t.stack = .code (.lock m :: rest) :: below ∧
    sys.recursive m = false ∧ ∃ acts, .code acts ∈ below ∧ special acts ∧ m ∈ holds acts

theorem held_elsewhere (account : Account sys special t) {m : μ} {rest : List (Act μ ε)}
    (top : t.stack = .code (.lock m :: rest) :: below) (plain : sys.recursive m = false) :
    m ∈ t.held ↔ ∃ acts, .code acts ∈ below ∧ special acts ∧ m ∈ holds acts := by
  have sane : Sane sys special (.lock m :: rest) :=
    account.sane _ (top ▸ List.mem_cons_self)
  have perm := account.held
  have frames := account.frames top
  rw [top, List.flatMap_cons] at perm
  rw [perm.mem_iff, List.mem_append, List.mem_flatMap]
  constructor
  · rintro (own | ⟨frame, member, held⟩)
    · exact absurd own (sane.2.1 plain)
    · cases frame with
      | outside => contradiction
      | code acts =>
        rcases (frames acts member).2 with clear | here
        · exact absurd held (clear.not_mem plain)
        · exact ⟨acts, member, here, held⟩
  · rintro ⟨acts, member, -, held⟩
    exact Or.inr ⟨.code acts, member, held⟩

theorem stuck_act (going : t.stuck = false) (stuck : (act sys acts below t).stuck = true) :
    ∃ m rest, acts = .lock m :: rest ∧ sys.recursive m = false ∧ m ∈ t.held := by
  have free : ¬t.stuck = true := by simp [going]
  cases acts with
  | nil => exact absurd stuck free
  | cons first rest =>
    cases first with
    | lock m =>
      simp only [act] at stuck
      split at stuck
      · next taken => exact ⟨m, rest, rfl, taken⟩
      · exact absurd stuck free
    | unlock m => exact absurd stuck free
    | call => exact absurd stuck free
    | effect e => exact absurd stuck free

/-- The step from a thread that is not stuck leaves it stuck where it relocks, and only there. -/
theorem stuck_iff (account : Account sys special t) (going : t.stuck = false) (op : Move ι) :
    (move sys op t).stuck = true ↔ Relocks sys special op t := by
  have free : ¬t.stuck = true := by simp [going]
  rw [move, if_neg free]
  constructor
  · intro stuck
    cases op with
    | enter call =>
      simp only [go] at stuck
      split at stuck <;> exact absurd stuck free
    | leave =>
      simp only [go] at stuck
      split at stuck <;> exact absurd stuck free
    | next =>
      simp only [go] at stuck
      split at stuck
      · next acts below top =>
        obtain ⟨m, rest, rfl, plain, held⟩ := stuck_act going stuck
        exact ⟨m, rest, below, rfl, top, plain, (held_elsewhere account top plain).mp held⟩
      · exact absurd stuck free
  · rintro ⟨m, rest, below, rfl, top, plain, held⟩
    have taken : sys.recursive m = false ∧ m ∈ t.held :=
      ⟨plain, (held_elsewhere account top plain).mpr held⟩
    simp only [go, top, act, if_pos taken]

/-- Where an effect with a guard is next, no program below holds the guard. -/
theorem guard_alone (account : Account sys special t) {e : ε} {rest : List (Act μ ε)} {m : μ}
    (top : t.stack = .code (.effect e :: rest) :: below) (guard : sys.guard e = some m)
    (plain : sys.recursive m = false) : ∀ frame ∈ below, m ∉ frame.holds := by
  intro frame member held
  have sane : Sane sys special (.effect e :: rest) := account.sane _ (top ▸ List.mem_cons_self)
  have own : m ∈ holds rest := sane.2.1 m guard
  have perm := account.held
  have once := account.once m plain
  rw [top, List.flatMap_cons] at perm
  rw [perm.count_eq, List.count_append] at once
  have first : 0 < (Frame.code (.effect e :: rest) : Frame μ ε).holds.count m :=
    List.count_pos_iff.mpr own
  have second : 0 < (below.flatMap Frame.holds).count m :=
    List.count_pos_iff.mpr (List.mem_flatMap.mpr ⟨frame, member, held⟩)
  omega

end

end Reentrancy
