import PCenter.Lib.Procedure

/-!
# Transactions

A connection shows the tables as its statements have left them. When a transaction begins it
keeps the tables as they were, and a rollback returns to them; a commit that fails rolls back
as well. `transact` is the usual procedure: begin, work, commit, and roll back on the way out
unless the commit was reached.
-/

namespace Transaction

open Procedure

/-- The tables, and those to return to while a transaction is open. -/
structure Conn (S : Type) where
  tables : S
  saved : Option S

variable {F S A : Type}

/-- A connection without a transaction. -/
def idle (s : S) : Conn S := ⟨s, none⟩

def Conn.rollback (c : Conn S) : Conn S :=
  match c.saved with
  | some s => idle s
  | none => c

/-- `BEGIN`, which may fail. -/
def beginTx (fault : Option F) : Proc F (Conn S) Unit := commit fun c =>
  match fault with
  | some failure => .error failure
  | none => .ok { c with saved := some c.tables }

/-- `COMMIT`: when it fails the transaction is rolled back. -/
def commitTx (fault : Option F) : Proc F (Conn S) Unit := act fun c =>
  match fault with
  | some failure => (.error failure, c.rollback)
  | none => (.ok (), idle c.tables)

/-- A procedure on the tables, run over the connection. -/
def inside (body : Proc F S A) : Proc F (Conn S) A := act fun c =>
  ((exec body c.tables).1, { c with tables := (exec body c.tables).2 })

/-- A procedure with a deferred rollback, for when it fails. -/
def rollingBack (x : Proc F (Conn S) A) : Proc F (Conn S) A := act fun c =>
  match exec x c with
  | (.ok a, ended) => (.ok a, ended)
  | (.error failure, ended) => (.error failure, ended.rollback)

def transact (beginFault commitFault : Option F) (body : Proc F S A) : Proc F (Conn S) A := do
  beginTx beginFault
  rollingBack do
    let a ← inside body
    commitTx commitFault
    pure a

theorem exec_rollingBack {x : Proc F (Conn S) A} {c : Conn S} :
    exec (rollingBack x) c =
      match exec x c with
      | (.ok a, ended) => (.ok a, ended)
      | (.error failure, ended) => (.error failure, ended.rollback) := rfl

theorem exec_beginTx (fault : Option F) (c : Conn S) :
    exec (beginTx fault) c =
      match fault with
      | some failure => (.error failure, c)
      | none => (.ok (), { c with saved := some c.tables }) := by
  cases fault with
  | some failure => exact exec_commit_error rfl
  | none => exact exec_commit_ok rfl

section Outcome

variable {beginFault commitFault : Option F} {body : Proc F S A} {s : S}

/-- A transaction that cannot begin does nothing. -/
theorem exec_transact_of_begin {failure : F} :
    exec (transact (some failure) commitFault body) (idle s) = (.error failure, idle s) := by
  rw [transact, exec_bind, exec_beginTx]

theorem exec_transact_of_body_error {failure : F} {t : S}
    (failed : exec body s = (.error failure, t)) :
    exec (transact none commitFault body) (idle s) = (.error failure, idle s) := by
  rw [transact, exec_bind, exec_beginTx]
  have ran : exec (inside body) ⟨s, some s⟩ = (.error failure, ⟨t, some s⟩) := by
    change ((exec body s).1, (⟨(exec body s).2, some s⟩ : Conn S)) = _
    rw [failed]
  change exec (rollingBack _) ⟨s, some s⟩ = _
  rw [exec_rollingBack, exec_bind, ran]
  rfl

theorem exec_transact_of_body_ok {a : A} {t : S} (done : Yields body s a t) :
    exec (transact none commitFault body) (idle s) =
      match commitFault with
      | some failure => (.error failure, idle s)
      | none => (.ok a, idle t) := by
  rw [transact, exec_bind, exec_beginTx]
  have ran : exec (inside body) ⟨s, some s⟩ = (.ok a, ⟨t, some s⟩) := by
    change ((exec body s).1, (⟨(exec body s).2, some s⟩ : Conn S)) = _
    rw [done]
  change exec (rollingBack _) ⟨s, some s⟩ = _
  rw [exec_rollingBack, exec_bind, ran]
  cases commitFault <;> rfl

/-- All or nothing: a transaction fails and leaves the tables as they were, or what its body
did to them is there. -/
theorem atomic (beginFault commitFault : Option F) (body : Proc F S A) (s : S) :
    (∃ failure, exec (transact beginFault commitFault body) (idle s) = (.error failure, idle s)) ∨
      ∃ a t, Yields body s a t ∧
        exec (transact beginFault commitFault body) (idle s) = (.ok a, idle t) := by
  cases beginFault with
  | some failure => exact Or.inl ⟨failure, exec_transact_of_begin⟩
  | none =>
      rcases ran : exec body s with ⟨failure | a, t⟩
      · exact Or.inl ⟨failure, exec_transact_of_body_error ran⟩
      · have done := @exec_transact_of_body_ok F S A commitFault body s a t ran
        cases commitFault with
        | some failure => exact Or.inl ⟨failure, done⟩
        | none => exact Or.inr ⟨a, t, ran, done⟩

/-- A transaction is done iff it began, its body worked and it was committed. -/
theorem yields_transact {a : A} {c : Conn S} :
    Yields (transact beginFault commitFault body) (idle s) a c ↔
      beginFault = none ∧ commitFault = none ∧ ∃ t, Yields body s a t ∧ c = idle t := by
  rw [Yields]
  cases beginFault with
  | some failure => simp [exec_transact_of_begin]
  | none =>
      rcases ran : exec body s with ⟨failure | b, t⟩
      · rw [exec_transact_of_body_error ran]
        simp [Yields, ran]
      · rw [exec_transact_of_body_ok ran]
        cases commitFault with
        | some failure => simp
        | none =>
            constructor
            · intro same
              obtain ⟨answered, ended⟩ := Prod.mk.inj same
              obtain rfl := Except.ok.inj answered
              exact ⟨rfl, rfl, t, ran, ended.symm⟩
            · rintro ⟨-, -, t', done, rfl⟩
              obtain ⟨answered, rfl⟩ := Prod.mk.inj (ran.symm.trans done)
              rw [answered]

end Outcome

end Transaction
