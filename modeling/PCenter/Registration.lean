import PCenter.Accounts

/-!
# The first user

`Register` counts the users, hashes the password and inserts an administrator; that the table
is still empty is not asked again, and only the name is unique. A run is any order of the
statements of any number of registrations on an empty table.
-/

namespace Registration

open Accounts Transition

section Runs

variable (p : Primitives) (cfg : Config)

def request (q : RegisterRequest × String) : Register := ⟨q.1, q.2, .counting⟩

def advance (r : Register) (o : Outside) (db : DB) : Option (Register × DB × List Register) :=
  some ({ r with phase := (r.next p cfg o db).1 }, (r.next p cfg o db).2, [])

abbrev World := Thread.World Register DB

abbrev Move := Thread.Event (RegisterRequest × String) Outside

abbrev go : World → Move → World := Thread.step (advance p cfg) request

def idle : World := ⟨⟨[], [], [], []⟩, [], false⟩

def OneUser (w : World) : Prop := w.shared.userCount ≤ 1

/-- The row that the next statement of the registration inserts. -/
def inserts (r : Register) : Option User :=
  match r.phase with
  | .inserting user => some user
  | _ => none

/-- What is inserted beside a user has the user's name, and is refused. -/
def SameName (w : World) (e : Move) : Prop :=
  ∀ t ∈ Thread.actor request w e, ∀ user ∈ inserts t.1, ∀ v ∈ w.shared.users,
    v.username = t.1.request.username ∨ v.id = user.id

instance (w : World) : Decidable (OneUser w) := inferInstanceAs (Decidable (_ ≤ 1))

instance (w : World) (e : Move) : Decidable (SameName w e) :=
  inferInstanceAs (Decidable (∀ t ∈ Thread.actor request w e, ∀ user ∈ inserts t.1,
    ∀ v ∈ w.shared.users, v.username = t.1.request.username ∨ v.id = user.id))

end Runs

section Insertions

variable {p : Primitives} {cfg : Config}

/-- What a registration inserts has the name of its request. -/
def Made (r : Register) : Prop := ∀ user ∈ inserts r, user.username = r.request.username

theorem made_next {r : Register} {o : Outside} {db : DB} :
    Made { r with phase := (r.next p cfg o db).1 } := by
  obtain ⟨request, ip, phase⟩ := r
  intro user inserted
  cases phase with
  | counting =>
      simp only [Register.next, inserts] at inserted
      split_ifs at inserted <;> cases inserted
  | hashing =>
      simp only [Register.next, inserts] at inserted
      generalize validatePasswordPolicy p request.password = policy at inserted
      generalize o.hash = hash at inserted
      cases policy with
      | error e => cases inserted
      | ok _ =>
          cases hash with
          | none => cases inserted
          | some hash =>
              obtain rfl := Option.some.inj inserted
              rfl
  | inserting u =>
      simp only [Register.next, inserts] at inserted
      cases made : db.createUser u with
      | none =>
          rw [made] at inserted
          cases inserted
      | some db' =>
          rw [made] at inserted
          cases inserted
  | opening u => cases inserted
  | storing u session =>
      simp only [Register.next, inserts] at inserted
      cases made : db.createSession (session.made o.now) with
      | none =>
          rw [made] at inserted
          cases inserted
      | some db' =>
          rw [made] at inserted
          cases inserted
  | ended result => cases inserted

theorem users_next (r : Register) (o : Outside) (db : DB) :
    (inserts r = none ∧ (r.next p cfg o db).2.users = db.users) ∨
      ∃ user, inserts r = some user ∧
        (r.next p cfg o db).2.users =
          if db.users.any fun v => v.id = user.id ∨ v.username = user.username then db.users
          else db.users ++ [user] := by
  obtain ⟨request, ip, phase⟩ := r
  cases phase with
  | counting => exact .inl ⟨rfl, rfl⟩
  | hashing =>
      refine .inl ⟨rfl, ?_⟩
      simp only [Register.next]
      cases validatePasswordPolicy p request.password with
      | error e => rfl
      | ok _ => cases o.hash <;> rfl
  | inserting user =>
      refine .inr ⟨user, rfl, ?_⟩
      simp only [Register.next, DB.createUser]
      split_ifs <;> rfl
  | opening user => exact .inl ⟨rfl, rfl⟩
  | storing user session =>
      refine .inl ⟨rfl, ?_⟩
      simp only [Register.next, DB.createSession]
      split_ifs <;> rfl
  | ended result => exact .inl ⟨rfl, rfl⟩

theorem go_cases (w : World) (e : Move) :
    Thread.actor request w e = none ∧ go p cfg w e = w ∨
      ∃ r o before after, Thread.actor request w e = some (r, o) ∧
        Thread.called request w e = before ++ r :: after ∧
        go p cfg w e = ⟨(r.next p cfg o w.shared).2,
          before ++ { r with phase := (r.next p cfg o w.shared).1 } :: after, false⟩ := by
  rcases Thread.step_cases_of_total (advance p cfg) request (fun _ _ _ => (_, _))
    (fun _ _ _ => rfl) w e with same | ⟨r, o, before, after, acts, -, turn, moved⟩
  · exact .inl same
  · exact .inr ⟨r, o, before, after, acts, turn.called_eq, moved⟩

theorem made_called {w : World} {e : Move} (made : ∀ r ∈ w.pool, Made r) :
    ∀ r ∈ Thread.called request w e, Made r := by
  refine Thread.forall_called (fun q o _ => ?_) made
  intro user inserted
  cases inserted

theorem made_go {w : World} {e : Move} (made : ∀ r ∈ w.pool, Made r) :
    ∀ r ∈ (go p cfg w e).pool, Made r := by
  rcases @go_cases p cfg w e with ⟨-, same⟩ | ⟨r, o, before, after, -, split, moved⟩
  · rw [same]
    exact made
  · rw [moved]
    have called := @made_called w e made
    rw [split] at called
    intro x member
    simp only [List.mem_append, List.mem_cons] at member
    rcases member with first | rfl | last
    · exact called x (List.mem_append_left _ first)
    · exact made_next
    · exact called x (List.mem_append_right _ (List.mem_cons_of_mem _ last))

theorem oneUser_go_iff {w : World} {e : Move} (made : ∀ r ∈ w.pool, Made r) (one : OneUser w) :
    OneUser (go p cfg w e) ↔ SameName w e := by
  rcases @go_cases p cfg w e with ⟨idle, same⟩ | ⟨r, o, before, after, acts, split, moved⟩
  · rw [same]
    refine iff_of_true one ?_
    rw [SameName, idle]
    intro t member
    cases member
  have named : SameName w e ↔ ∀ user ∈ inserts r, ∀ v ∈ w.shared.users,
      v.username = r.request.username ∨ v.id = user.id := by
    rw [SameName, acts]
    constructor
    · exact fun all => all _ rfl
    · intro each t member
      rw [← Option.some.inj member]
      exact each
  have own : Made r := @made_called w e made r (by simp [split])
  rw [named, moved, OneUser, DB.userCount]
  rw [OneUser, DB.userCount] at one
  rcases @users_next p cfg r o w.shared with ⟨nothing, kept⟩ | ⟨user, inserted, users⟩
  · rw [kept, nothing]
    exact iff_of_true one fun _ member => by cases member
  · rw [users, inserted, ← own user inserted]
    cases stored : w.shared.users with
    | nil => simp
    | cons v rest =>
        rw [stored, List.length_cons] at one
        obtain rfl : rest = [] := List.length_eq_zero_iff.mp (by omega)
        by_cases taken : v.id = user.id ∨ v.username = user.username
        · simp [taken, or_comm]
        · simp [taken, or_comm]

/-- At most one user is registered, exactly if every row that is inserted beside a user has
the user's name. -/
theorem one_user_registered_iff {run : List Move} :
    (∀ w ∈ states (go p cfg) idle run, OneUser w) ↔
      Along (go p cfg) SameName idle run := by
  refine @invariant_iff_along_within World Move (go p cfg) SameName (fun w => ∀ r ∈ w.pool, Made r)
    OneUser idle run ?_ ?_ (fun _ member => by cases member) (Nat.zero_le 1)
  · exact fun w e _ made => made_go made
  · exact fun w e _ made one => oneUser_go_iff made one

end Insertions

section Races

/-- What a step draws for a user of the name. -/
def drawn (name : String) : Outside :=
  { quiet with uuid := name, tokenHash := name, hash := some "hash of Secret-1" }

def first (name : String) : Move := .begins (⟨name, "Secret-1", ""⟩, "10.0.0.9") (drawn name)

/-- Both registrations count before either inserts. -/
def atOnce (name name' : String) : List Move :=
  [first name, first name', .goes 0 (drawn name), .goes 0 (drawn name), .goes 1 (drawn name'),
    .goes 1 (drawn name')]

/-- Two administrators on an empty table. -/
theorem two_administrators :
    ¬∀ w ∈ states (go marked defaultConfig) idle (atOnce "alice" "mallory"), OneUser w := by
  decide +kernel

/-- A second registration that counts later is refused, and so is one of the same name. -/
example : Along (go marked defaultConfig) SameName idle
    ([first "alice", .goes 0 (drawn "alice"), .goes 0 (drawn "alice"), first "mallory"] ++
      atOnce "alice" "alice") := by
  decide +kernel

end Races

end Registration
