import Mathlib.Init

/-!
# Programs that issue commands

A program issues one command after another and goes on with each answer, so that whoever
answers (the machine alone, or a machine shared with others) is chosen afterwards. `exec`
answers every command in turn; a command without an answer ends the process. `Ran` tells the
history of an execution too, each command with its answer. `Keeps` says which commands a
program may issue as long as the answers are of the kind it counts on, `Once` that it issues at
most one command of a kind, and `MarksLast` that it issues nothing after one.
-/

namespace Program

inductive Prog (C : Type) (R : C → Type) (A : Type) where
  | done (a : A)
  | act (c : C) (next : R c → Prog C R A)

variable {C S A B D : Type} {R : C → Type}

namespace Prog

def bind : Prog C R A → (A → Prog C R B) → Prog C R B
  | done a, f => f a
  | act c next, f => act c fun r => (next r).bind f

instance : Monad (Prog C R) where
  pure := done
  bind := bind

end Prog

def ask (c : C) : Prog C R (R c) := .act c .done

@[simp] theorem pure_eq (a : A) : (pure a : Prog C R A) = .done a := rfl

@[simp] theorem done_bind (a : A) (f : A → Prog C R B) : Prog.done a >>= f = f a := rfl

@[simp] theorem act_bind (c : C) (next : R c → Prog C R A) (f : A → Prog C R B) :
    Prog.act c next >>= f = .act c fun r => next r >>= f := rfl

@[simp] theorem ask_bind (c : C) (f : R c → Prog C R B) : ask c >>= f = .act c f := rfl

theorem bind_done (p : Prog C R A) : p >>= Prog.done = p := by
  induction p with
  | done a => rfl
  | act c next ih =>
      rw [act_bind]
      apply congrArg
      funext r
      exact ih r

theorem bind_assoc (p : Prog C R A) (f : A → Prog C R B) (g : B → Prog C R D) :
    p >>= f >>= g = p >>= fun a => f a >>= g := by
  induction p with
  | done a => rfl
  | act c next ih =>
      rw [act_bind, act_bind, act_bind]
      apply congrArg
      funext r
      exact ih r

theorem forM_cons (f : B → Prog C R PUnit) (b : B) (l : List B) :
    (b :: l).forM f = f b >>= fun _ => l.forM f := rfl

section Exec

variable (serve : (c : C) → S → Option (R c × S))

/-- The answer of a program that has the machine to itself, and the state it leaves. -/
def exec : Prog C R A → S → Option (A × S)
  | .done a, s => some (a, s)
  | .act c next, s => (serve c s).bind fun answer => exec (next answer.1) answer.2

@[simp] theorem exec_done (a : A) (s : S) :
    exec serve (.done a : Prog C R A) s = some (a, s) := rfl

theorem exec_act (c : C) (next : R c → Prog C R A) (s : S) :
    exec serve (.act c next) s =
      (serve c s).bind fun answer => exec serve (next answer.1) answer.2 := rfl

theorem exec_bind (p : Prog C R A) (f : A → Prog C R B) (s : S) :
    exec serve (p >>= f) s =
      (exec serve p s).bind fun answer => exec serve (f answer.1) answer.2 := by
  induction p generalizing s with
  | done a => rfl
  | act c next ih =>
      rw [act_bind, exec_act, exec_act, Option.bind_assoc]
      apply congrArg
      funext answer
      exact ih answer.1 answer.2

/-- An execution with its history. -/
def record : Prog C R A → S → Option (A × S × List (Sigma R))
  | .done a, s => some (a, s, [])
  | .act c next, s =>
      (serve c s).bind fun answer =>
        (record (next answer.1) answer.2).map fun rest =>
          (rest.1, rest.2.1, ⟨c, answer.1⟩ :: rest.2.2)

def Ran (p : Prog C R A) (s : S) (h : List (Sigma R)) (a : A) (s' : S) : Prop :=
  record serve p s = some (a, s', h)

variable {serve}

theorem ran_done {a b : A} {s s' : S} {h : List (Sigma R)} :
    Ran serve (.done a) s h b s' ↔ h = [] ∧ b = a ∧ s' = s := by
  simp only [Ran, record, Option.some.injEq, Prod.mk.injEq]
  constructor
  · rintro ⟨rfl, rfl, rfl⟩
    exact ⟨rfl, rfl, rfl⟩
  · rintro ⟨rfl, rfl, rfl⟩
    exact ⟨rfl, rfl, rfl⟩

theorem ran_act {c : C} {next : R c → Prog C R A} {s s'' : S} {h : List (Sigma R)} {a : A} :
    Ran serve (.act c next) s h a s'' ↔
      ∃ r s' h', serve c s = some (r, s') ∧ h = ⟨c, r⟩ :: h' ∧
        Ran serve (next r) s' h' a s'' := by
  simp only [Ran, record, Option.bind_eq_some_iff, Option.map_eq_some_iff, Prod.mk.injEq]
  constructor
  · rintro ⟨⟨r, s'⟩, answered, ⟨b, t, h'⟩, later, rfl, rfl, rfl⟩
    exact ⟨r, s', h', answered, rfl, later⟩
  · rintro ⟨r, s', h', answered, rfl, later⟩
    exact ⟨(r, s'), answered, (a, s'', h'), later, rfl, rfl, rfl⟩

theorem ran_bind {p : Prog C R A} {f : A → Prog C R B} {s s'' : S} {h : List (Sigma R)}
    {b : B} :
    Ran serve (p >>= f) s h b s'' ↔
      ∃ a s' first later, h = first ++ later ∧ Ran serve p s first a s' ∧
        Ran serve (f a) s' later b s'' := by
  induction p generalizing s h with
  | done a =>
      constructor
      · intro ran
        exact ⟨a, s, [], h, rfl, ran_done.mpr ⟨rfl, rfl, rfl⟩, ran⟩
      · rintro ⟨_, _, _, later, rfl, ended, ran⟩
        obtain ⟨rfl, rfl, rfl⟩ := ran_done.mp ended
        exact ran
  | act c next ih =>
      rw [act_bind, ran_act]
      constructor
      · rintro ⟨r, t, rest, answered, rfl, ran⟩
        obtain ⟨a, s', first, later, rfl, begun, ended⟩ := (ih r).mp ran
        exact ⟨a, s', ⟨c, r⟩ :: first, later, rfl, ran_act.mpr ⟨r, t, first, answered, rfl, begun⟩,
          ended⟩
      · rintro ⟨a, s', first, later, rfl, begun, ended⟩
        obtain ⟨r, t, rest, answered, rfl, ran⟩ := ran_act.mp begun
        exact ⟨r, t, rest ++ later, answered, rfl,
          (ih r).mpr ⟨a, s', rest, later, rfl, ran, ended⟩⟩

/-- The turn of one element of a loop, between those before it and those after it. -/
theorem ran_forM {f : B → Prog C R PUnit} {l : List B} {s s' : S} {h : List (Sigma R)}
    {u : PUnit} (ran : Ran serve (l.forM f) s h u s') {before after : List B} {b : B}
    (split : l = before ++ b :: after) :
    ∃ t t' first turn later v, h = first ++ turn ++ later ∧
      Ran serve (before.forM f) s first u t ∧ Ran serve (f b) t turn v t' ∧
      Ran serve (after.forM f) t' later u s' := by
  subst split
  induction before generalizing s h with
  | nil =>
      obtain ⟨v, t, turn, later, rfl, here, rest⟩ := ran_bind.mp ran
      exact ⟨s, t, [], turn, later, v, rfl, ran_done.mpr ⟨rfl, rfl, rfl⟩, here, rest⟩
  | cons c before ih =>
      obtain ⟨v, r, start, rest, rfl, begun, going⟩ := ran_bind.mp ran
      obtain ⟨t, t', first, turn, later, v', rfl, earlier, here, ended⟩ := ih going
      refine ⟨t, t', start ++ first, turn, later, v', by simp, ?_, here, ended⟩
      exact ran_bind.mpr ⟨v, r, start, first, rfl, begun, earlier⟩

theorem exists_ran (total : ∀ c s, ∃ answer, serve c s = some answer) (p : Prog C R A) (s : S) :
    ∃ h a s', Ran serve p s h a s' := by
  induction p generalizing s with
  | done a => exact ⟨[], a, s, ran_done.mpr ⟨rfl, rfl, rfl⟩⟩
  | act c next ih =>
      obtain ⟨⟨r, t⟩, answered⟩ := total c s
      obtain ⟨h, a, s', later⟩ := ih r t
      exact ⟨_, a, s', ran_act.mpr ⟨r, t, h, answered, rfl, later⟩⟩

end Exec

section Keeps

variable (issues : C → Prop) (answers : (c : C) → R c → Prop)

def Keeps : Prog C R A → Prop
  | .done _ => True
  | .act c next => issues c ∧ ∀ r, answers c r → Keeps (next r)

variable {issues answers}

theorem keeps_done (a : A) : Keeps issues answers (.done a : Prog C R A) := trivial

theorem keeps_bind {p : Prog C R A} {f : A → Prog C R B} (first : Keeps issues answers p)
    (later : ∀ a, Keeps issues answers (f a)) : Keeps issues answers (p >>= f) := by
  induction p with
  | done a => exact later a
  | act c next ih => exact ⟨first.1, fun r answered => ih r (first.2 r answered)⟩

theorem keeps_ite {cond : Prop} [Decidable cond] {p q : Prog C R A}
    (yes : cond → Keeps issues answers p) (no : ¬cond → Keeps issues answers q) :
    Keeps issues answers (if cond then p else q) := by
  by_cases holds : cond
  · rw [if_pos holds]
    exact yes holds
  · rw [if_neg holds]
    exact no holds

theorem keeps_forM {l : List B} {f : B → Prog C R PUnit}
    (each : ∀ b ∈ l, Keeps issues answers (f b)) : Keeps issues answers (l.forM f) := by
  induction l with
  | nil => exact keeps_done _
  | cons b l ih =>
      rw [forM_cons]
      apply keeps_bind (each b List.mem_cons_self)
      intro _
      exact ih fun c member => each c (List.mem_cons_of_mem b member)

theorem keeps_of_ran {serve : (c : C) → S → Option (R c × S)} {p : Prog C R A} {s s' : S}
    {h : List (Sigma R)} {a : A} (sound : ∀ c s r s', serve c s = some (r, s') → answers c r)
    (keeps : Keeps issues answers p) (ran : Ran serve p s h a s') :
    ∀ entry ∈ h, issues entry.1 ∧ answers entry.1 entry.2 := by
  induction p generalizing s h with
  | done b =>
      obtain ⟨rfl, _⟩ := ran_done.mp ran
      exact nofun
  | act c next ih =>
      obtain ⟨r, t, rest, answered, rfl, later⟩ := ran_act.mp ran
      have here : answers c r := sound c s r t answered
      intro entry member
      rcases List.mem_cons.mp member with rfl | member
      · exact ⟨keeps.1, here⟩
      · exact ih r (keeps.2 r here) later entry member

theorem issues_of_ran {serve : (c : C) → S → Option (R c × S)} {p : Prog C R A} {s s' : S}
    {h : List (Sigma R)} {a : A} (keeps : Keeps issues (fun _ _ => True) p)
    (ran : Ran serve p s h a s') : ∀ entry ∈ h, issues entry.1 := by
  intro entry member
  exact (keeps_of_ran (fun _ _ _ _ _ => trivial) keeps ran entry member).1

/-- What every command of a program preserves holds after the program. -/
theorem invariant_of_ran {inv : S → Prop} {serve : (c : C) → S → Option (R c × S)}
    {p : Prog C R A} {s s' : S} {h : List (Sigma R)} {a : A}
    (kept : ∀ c s r s', issues c → serve c s = some (r, s') → inv s → inv s')
    (keeps : Keeps issues (fun _ _ => True) p) (ran : Ran serve p s h a s') (start : inv s) :
    inv s' := by
  induction p generalizing s h with
  | done b =>
      obtain ⟨_, _, rfl⟩ := ran_done.mp ran
      exact start
  | act c next ih =>
      obtain ⟨r, t, rest, answered, rfl, later⟩ := ran_act.mp ran
      exact ih r (keeps.2 r trivial) later (kept c s r t keeps.1 answered start)

theorem keeps_mono {issues' : C → Prop} {answers' : (c : C) → R c → Prop} {p : Prog C R A}
    (weaker : ∀ c, issues c → issues' c) (stronger : ∀ c r, answers' c r → answers c r)
    (keeps : Keeps issues answers p) : Keeps issues' answers' p := by
  induction p with
  | done a => exact keeps_done a
  | act c next ih =>
      exact ⟨weaker c keeps.1, fun r answered => ih r (keeps.2 r (stronger c r answered))⟩

theorem keeps_of_forall (all : ∀ c, issues c) (p : Prog C R A) : Keeps issues answers p := by
  induction p with
  | done a => exact keeps_done a
  | act c next ih => exact ⟨all c, fun r _ => ih r⟩

end Keeps

section Once

variable (kind : C → Prop)

/-- No command of the kind, whatever the answers. -/
abbrev Never (p : Prog C R A) : Prop := Keeps (fun c => ¬kind c) (fun _ _ => True) p

def Once : Prog C R A → Prop
  | .done _ => True
  | .act c next => ∀ r, Once (next r) ∧ (kind c → Never kind (next r))

variable {kind}

theorem once_of_never {p : Prog C R A} (never : Never kind p) : Once kind p := by
  induction p with
  | done a => trivial
  | act c next ih =>
      intro r
      exact ⟨ih r (never.2 r trivial), fun here => absurd here never.1⟩

theorem once_act {c : C} {next : R c → Prog C R A} (never : ∀ r, Never kind (next r)) :
    Once kind (.act c next) := by
  intro r
  exact ⟨once_of_never (never r), fun _ => never r⟩

theorem once_later {c : C} {next : R c → Prog C R A} (other : ¬kind c)
    (later : ∀ r, Once kind (next r)) : Once kind (.act c next) := by
  intro r
  exact ⟨later r, fun here => absurd here other⟩

theorem once_ite {cond : Prop} [Decidable cond] {p q : Prog C R A} (yes : Once kind p)
    (no : Once kind q) : Once kind (if cond then p else q) := by
  by_cases holds : cond
  · rw [if_pos holds]
    exact yes
  · rw [if_neg holds]
    exact no

end Once

section Marks

variable (mark : C → Prop)

/-- A command that is a mark is the last one. Without it the program returns what is `unmarked`,
and with it what is `marked`. -/
def MarksLast (unmarked marked : A → Prop) : Prog C R A → Prop
  | .done a => unmarked a
  | .act c next =>
      (mark c → ∀ r, ∃ a, next r = .done a ∧ marked a) ∧
        (¬mark c → ∀ r, MarksLast unmarked marked (next r))

variable {mark} {unmarked marked : A → Prop} {unmarked' marked' : B → Prop}

theorem marksLast_bind {p : Prog C R A} {f : A → Prog C R B}
    (first : MarksLast mark unmarked marked p)
    (later : ∀ a, unmarked a → MarksLast mark unmarked' marked' (f a))
    (ended : ∀ a, marked a → ∃ b, f a = .done b ∧ marked' b) :
    MarksLast mark unmarked' marked' (p >>= f) := by
  induction p with
  | done a => exact later a first
  | act c next ih =>
      rw [act_bind]
      refine ⟨fun here r => ?_, fun other r => ih r (first.2 other r)⟩
      obtain ⟨a, last, well⟩ := first.1 here r
      obtain ⟨b, returned, well'⟩ := ended a well
      have same : next r >>= f = f a := by rw [last, done_bind]
      exact ⟨b, same.trans returned, well'⟩

theorem marksLast_of_never {p : Prog C R A} (never : Never mark p) (all : ∀ a, unmarked a) :
    MarksLast mark unmarked marked p := by
  induction p with
  | done a => exact all a
  | act c next ih =>
      exact ⟨fun here => absurd here never.1, fun _ r => ih r (never.2 r trivial)⟩

/-- In front of a program that marks last, what does not mark. -/
theorem marksLast_after {p : Prog C R A} {f : A → Prog C R B} (first : Never mark p)
    (later : ∀ a, MarksLast mark unmarked' marked' (f a)) :
    MarksLast mark unmarked' marked' (p >>= f) := by
  have unmarking : MarksLast mark (fun _ => True) (fun _ => False) p :=
    marksLast_of_never first fun _ => trivial
  exact marksLast_bind unmarking (fun a _ => later a) fun a none_ => none_.elim

end Marks

end Program
