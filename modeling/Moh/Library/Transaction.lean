/-
# Transactions

Procedures on a database whose statements may fail.  A connection holds the database
and, statement by statement, what fails; a transaction that does not get through its
commit leaves the database as it was (`atomic_transaction`).  What fails only
adds errors: a procedure that succeeds has the result of its calm run, in which
no statement fails (`Steady`), so results are derived from the calm run alone.
-/

import Moh.Library.Fallible

namespace Moh
namespace Transaction

open Fallible

variable {δ ε α β ρ : Type}

/-- A database, and the statements that fail from now on: each with a reason, or
not at all. -/
@[ext]
structure Connection (δ : Type) where
  db : δ
  faults : List (Option String) := []

/-- A procedure that talks to a database. -/
abbrev Sql (δ ε α : Type) := Proc (Connection δ) ε α

/-- A statement that may fail and has no effect of its own. -/
def statement (e : String → ε) : Sql δ ε Unit := fun c =>
  match c.faults with
  | [] => (.ok (), c)
  | none :: faults => (.ok (), { c with faults })
  | some source :: faults => (.error (e source), { c with faults })

/-- A statement that reads. -/
def query (e : String → ε) (f : δ → α) : Sql δ ε α := do
  statement e
  let c ← Proc.get
  pure (f c.db)

/-- A statement that writes, and that the constraints of the database may reject. -/
def execute (e : String → ε) (f : δ → Except String (α × δ)) : Sql δ ε α := do
  statement e
  let c ← Proc.get
  match f c.db with
  | .error source => Proc.fail (e source)
  | .ok (a, db) => do
    Proc.modify fun c => { c with db }
    pure a

/-- A result that needs no database. -/
def ofExcept (r : Except ε α) : Sql δ ε α := Proc.lift r

/-- The rows of a cursor, one after the other, each decoded before the next is
read; `n` is the number of the first. -/
def readRows (e : String → ε) (decode : ℕ → ρ → Except ε α) : ℕ → List ρ → Sql δ ε (List α)
  | _, [] => pure []
  | n, row :: rows => do
    statement e
    let a ← ofExcept (decode n row)
    let as ← readRows e decode (n + 1) rows
    pure (a :: as)

/-- One statement per row. -/
def writeRows (e : String → ε) (write : ρ → δ → Except String δ) : List ρ → Sql δ ε Unit
  | [] => pure ()
  | row :: rows => do
    execute e fun db => (write row db).map fun db => ((), db)
    writeRows e write rows

/-- `BEGIN`, the body, `COMMIT`; whatever fails, the database is rolled back. -/
def transaction (begin commit : String → ε) (body : Sql δ ε α) : Sql δ ε α := fun c =>
  match (do statement begin; let a ← body; statement commit; pure a : Sql δ ε α) c with
  | (.ok a, c') => (.ok a, c')
  | (.error e, c') => (.error e, { c' with db := c.db })

/-- A run that fails leaves the database as it was. -/
def Atomic (x : Sql δ ε α) : Prop :=
  ∀ ⦃c e c'⦄, x c = (.error e, c') → c'.db = c.db

/-- **A transaction that fails changes nothing.** -/
theorem atomic_transaction {begin commit : String → ε} {body : Sql δ ε α} :
    Atomic (transaction begin commit body) := by
  intro c e c' h
  unfold transaction at h
  split at h
  · cases h
  · obtain ⟨-, rfl⟩ := Prod.mk.inj h
    rfl

theorem atomic_fail (e : ε) : Atomic (Proc.fail e : Sql δ ε α) := by
  intro c e' c' h
  obtain ⟨-, rfl⟩ := Prod.mk.inj h
  rfl

/-- A check before the database is touched. -/
theorem atomic_ofExcept_bind {r : Except ε α} {f : α → Sql δ ε β} (hf : ∀ a, Atomic (f a)) :
    Atomic (ofExcept r >>= f) := by
  intro c e c' h
  rcases Proc.bind_eq_error.1 h with h | ⟨a, t, ha, h⟩
  · obtain ⟨-, rfl⟩ := Prod.mk.inj h
    rfl
  · obtain ⟨-, rfl⟩ := Prod.mk.inj ha
    exact hf a h

/-- A statement without an effect of its own before the rest. -/
theorem atomic_statement_bind {e : String → ε} {f : Unit → Sql δ ε β} (hf : Atomic (f ())) :
    Atomic (statement e >>= f) := by
  have hdb : ∀ c : Connection δ, (statement e c).2.db = c.db := by
    rintro ⟨db, faults⟩
    rcases faults with _ | ⟨_ | source, faults⟩ <;> rfl
  intro c e' c' h
  rcases Proc.bind_eq_error.1 h with h | ⟨⟨⟩, t, ha, h⟩
  · rw [← hdb c, h]
  · rw [hf h, ← hdb c, ha]

/-! ### Calm runs -/

/-- The run in which no statement fails. -/
def calm (x : Sql δ ε α) (db : δ) : Except ε (α × δ) :=
  match x ⟨db, []⟩ with
  | (.ok a, c) => .ok (a, c.db)
  | (.error e, _) => .error e

/-- A run that succeeds is the calm one. -/
def Steady (x : Sql δ ε α) : Prop :=
  ∀ ⦃c a c'⦄, x c = (.ok a, c') → x ⟨c.db, []⟩ = (.ok a, ⟨c'.db, []⟩)

section
variable {x : Sql δ ε α} {f : α → Sql δ ε β} {e : String → ε} {db : δ}

theorem Steady.calm_eq_ok (h : Steady x) {c c' : Connection δ} {a : α} (hx : x c = (.ok a, c')) :
    calm x c.db = .ok (a, c'.db) := by
  rw [calm, h hx]

theorem apply_of_calm_eq_ok (h : Steady x) {a : α} {db' : δ} (hx : calm x db = .ok (a, db')) :
    x ⟨db, []⟩ = (.ok a, ⟨db', []⟩) := by
  unfold calm at hx
  split at hx
  · rename_i a' c hc
    obtain ⟨rfl, rfl⟩ := Prod.mk.inj (Except.ok.inj hx)
    exact h hc
  · cases hx

theorem steady_pure (a : α) : Steady (pure a : Sql δ ε α) := by
  intro c a' c' h
  obtain ⟨ha, rfl⟩ := Prod.mk.inj h
  obtain rfl := Except.ok.inj ha
  rfl

theorem steady_fail (e : ε) : Steady (Proc.fail e : Sql δ ε α) := nofun

theorem steady_ofExcept (r : Except ε α) : Steady (ofExcept r : Sql δ ε α) := by
  intro c a c' h
  obtain ⟨rfl, rfl⟩ := Prod.mk.inj h
  rfl

theorem steady_get {γ : Type} (f : δ → γ) :
    Steady (Proc.get >>= fun c => pure (f c.db) : Sql δ ε γ) := by
  intro c a c' h
  obtain ⟨ha, rfl⟩ := Prod.mk.inj h
  obtain rfl := Except.ok.inj ha
  rfl

theorem steady_statement (e : String → ε) : Steady (statement e : Sql δ ε Unit) := by
  rintro ⟨db, faults⟩ ⟨⟩ c' h
  rcases faults with _ | ⟨_ | source, faults⟩
  · obtain ⟨-, rfl⟩ := Prod.mk.inj h
    rfl
  · obtain ⟨-, rfl⟩ := Prod.mk.inj h
    rfl
  · cases h

/-- **Steady steps in sequence are steady.** -/
theorem Steady.bind (hx : Steady x) (hf : ∀ a, Steady (f a)) : Steady (x >>= f) := by
  intro c b c' h
  obtain ⟨a, t, ha, hb⟩ := Proc.bind_eq_ok.1 h
  rw [Proc.bind_of_ok (hx ha)]
  exact hf a hb

theorem steady_query (e : String → ε) (f : δ → α) : Steady (query e f) :=
  (steady_statement e).bind fun _ => steady_get f

theorem steady_execute (e : String → ε) (f : δ → Except String (α × δ)) :
    Steady (execute e f) := by
  refine (steady_statement e).bind fun _ => ?_
  intro c a c' h
  rw [Proc.bind_of_ok Proc.get_apply] at h ⊢
  cases hf : f c.db with
  | error source => simp [hf] at h
  | ok r =>
    simp only [hf] at h ⊢
    obtain ⟨ha, rfl⟩ := Prod.mk.inj h
    obtain rfl := Except.ok.inj ha
    rfl

theorem steady_readRows (e : String → ε) (decode : ℕ → ρ → Except ε α) (n : ℕ) (rows : List ρ) :
    Steady (readRows e decode n rows : Sql δ ε (List α)) := by
  induction rows generalizing n with
  | nil => exact steady_pure []
  | cons row rows ih =>
    exact (steady_statement e).bind fun _ => (steady_ofExcept _).bind fun a =>
      (ih (n + 1)).bind fun as => steady_pure _

theorem steady_writeRows (e : String → ε) (write : ρ → δ → Except String δ) (rows : List ρ) :
    Steady (writeRows e write rows) := by
  induction rows with
  | nil => exact steady_pure ()
  | cons row rows ih => exact (steady_execute e _).bind fun _ => ih

theorem steady_transaction {begin commit : String → ε} (hx : Steady x) :
    Steady (transaction begin commit x) := by
  have hbody : Steady (do statement begin; let a ← x; statement commit; pure a : Sql δ ε α) :=
    (steady_statement begin).bind fun _ => hx.bind fun a =>
      (steady_statement commit).bind fun _ => steady_pure a
  intro c a c' h
  unfold transaction at h ⊢
  split at h
  · rename_i hrun
    obtain ⟨ha, rfl⟩ := Prod.mk.inj h
    obtain rfl := Except.ok.inj ha
    rw [hbody hrun]
  · cases h

/-! Calm runs of the steps. -/

@[simp] theorem calm_pure (a : α) : calm (pure a : Sql δ ε α) db = .ok (a, db) := rfl

@[simp] theorem calm_ofExcept (r : Except ε α) :
    calm (ofExcept r : Sql δ ε α) db = r.map fun a => (a, db) := by
  cases r <;> rfl

@[simp] theorem calm_statement : calm (statement e : Sql δ ε Unit) db = .ok ((), db) := rfl

@[simp] theorem calm_query (f : δ → α) : calm (query e f) db = .ok (f db, db) := rfl

@[simp] theorem calm_execute (f : δ → Except String (α × δ)) :
    calm (execute e f) db = (f db).mapError e := by
  have hrun : execute e f ⟨db, []⟩ = match f db with
      | .error source => (.error (e source), ⟨db, []⟩)
      | .ok (a, db') => (.ok a, ⟨db', []⟩) := by
    change (match f db with
      | .error source => Proc.fail (e source)
      | .ok (a, db') => do
        Proc.modify fun c => { c with db := db' }
        pure a : Sql δ ε α) ⟨db, []⟩ = _
    rcases f db with source | ⟨a, db'⟩ <;> rfl
  rw [calm, hrun]
  rcases f db with source | ⟨a, db'⟩ <;> rfl

/-- **A calm run goes step by step.** -/
theorem calm_bind (hx : Steady x) :
    calm (x >>= f) db = calm x db >>= fun r => calm (f r.1) r.2 := by
  rcases x.apply_cases ⟨db, []⟩ with ⟨a, c, h⟩ | ⟨e, c, h⟩
  · have hsteady := hx h
    rw [h] at hsteady
    have hc : c = ⟨c.db, []⟩ := (Prod.mk.inj hsteady).2
    rw [calm, Proc.bind_of_ok h, calm, h]
    change _ = calm (f a) c.db
    rw [calm, ← hc]
  · rw [calm, Proc.bind_of_error h, calm, h]
    rfl

theorem calm_transaction {begin commit : String → ε} (hx : Steady x) :
    calm (transaction begin commit x) db = calm x db := by
  have hbody : calm (do statement begin; let a ← x; statement commit; pure a : Sql δ ε α) db =
      calm x db := by
    rw [calm_bind (steady_statement begin), calm_statement]
    change calm (x >>= fun a => statement commit >>= fun _ => pure a) db = _
    rw [calm_bind hx]
    cases calm x db with
    | error e => rfl
    | ok r => rfl
  rw [← hbody, calm, transaction]
  split
  · rename_i hrun
    split at hrun
    · obtain ⟨ha, rfl⟩ := Prod.mk.inj hrun
      obtain rfl := Except.ok.inj ha
      rw [calm]
      simp_all
    · cases hrun
  · rename_i hrun
    split at hrun
    · cases hrun
    · obtain ⟨he, rfl⟩ := Prod.mk.inj hrun
      obtain rfl := Except.error.inj he
      rw [calm]
      simp_all

end

@[simp] theorem calm_readRows {e : String → ε} (decode : ℕ → ρ → Except ε α) (n : ℕ)
    (rows : List ρ) (db : δ) :
    calm (readRows e decode n rows : Sql δ ε (List α)) db =
      (collect decode n rows).map fun as => (as, db) := by
  induction rows generalizing n with
  | nil => rfl
  | cons row rows ih =>
    rw [readRows, calm_bind (steady_statement e), calm_statement]
    change calm (ofExcept (decode n row) >>= fun a =>
      readRows e decode (n + 1) rows >>= fun as => pure (a :: as)) db = _
    rw [calm_bind (steady_ofExcept _), calm_ofExcept, collect]
    cases decode n row with
    | error e => rfl
    | ok a =>
      change calm (readRows e decode (n + 1) rows >>= fun as => pure (a :: as)) db = _
      rw [calm_bind (steady_readRows e decode (n + 1) rows), ih]
      change _ = (collect decode (n + 1) rows >>= fun as => .ok (a :: as)).map _
      cases collect decode (n + 1) rows with
      | error e => rfl
      | ok as => rfl

/-- One write after the other, up to the first that is rejected. -/
def writeAll (write : ρ → δ → Except String δ) : List ρ → δ → Except String δ
  | [], db => .ok db
  | row :: rows, db => write row db >>= writeAll write rows

@[simp] theorem calm_writeRows {e : String → ε} (write : ρ → δ → Except String δ) (rows : List ρ)
    (db : δ) :
    calm (writeRows e write rows) db =
      ((writeAll write rows db).map fun db => ((), db)).mapError e := by
  induction rows generalizing db with
  | nil => rfl
  | cons row rows ih =>
    rw [writeRows, calm_bind (steady_execute e _), calm_execute, writeAll]
    cases write row db with
    | error source => rfl
    | ok db' => exact ih db'

/-! Calm runs of sequences that start with a step. -/

section
variable {e : String → ε} {f : α → Sql δ ε β} {db : δ}

@[simp] theorem calm_ofExcept_bind (r : Except ε α) :
    calm (ofExcept r >>= f) db = r >>= fun a => calm (f a) db := by
  rw [calm_bind (steady_ofExcept r), calm_ofExcept]
  cases r <;> rfl

@[simp] theorem calm_statement_bind {f : Unit → Sql δ ε β} :
    calm (statement e >>= f) db = calm (f ()) db := by
  rw [calm_bind (steady_statement e), calm_statement]
  rfl

@[simp] theorem calm_query_bind (g : δ → α) :
    calm (query e g >>= f) db = calm (f (g db)) db := by
  rw [calm_bind (steady_query e g), calm_query]
  rfl

@[simp] theorem calm_execute_bind (g : δ → Except String (α × δ)) :
    calm (execute e g >>= f) db = (g db).mapError e >>= fun r => calm (f r.1) r.2 := by
  rw [calm_bind (steady_execute e g), calm_execute]

@[simp] theorem calm_readRows_bind {f : List α → Sql δ ε β} (decode : ℕ → ρ → Except ε α) (n : ℕ)
    (rows : List ρ) :
    calm (readRows e decode n rows >>= f) db =
      collect decode n rows >>= fun as => calm (f as) db := by
  rw [calm_bind (steady_readRows e decode n rows), calm_readRows]
  cases collect decode n rows <;> rfl

@[simp] theorem calm_writeRows_bind {f : Unit → Sql δ ε β} (write : ρ → δ → Except String δ)
    (rows : List ρ) :
    calm (writeRows e write rows >>= f) db =
      (writeAll write rows db).mapError e >>= fun db => calm (f ()) db := by
  rw [calm_bind (steady_writeRows e write rows), calm_writeRows]
  cases writeAll write rows db <;> rfl

end

end Transaction
end Moh
