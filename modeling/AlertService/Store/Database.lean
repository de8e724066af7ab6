import AlertService.Schema.Migration
import AlertService.Store.Edit

/-!
# The database

The store behind a lock. A call that fails leaves the store as it was. Once a task has broken off
while it held the lock, every later call fails.
-/

namespace AlertService

structure Database where
  store : Store
  versions : List Cell
  poisoned : Bool

namespace Database

/-- A new database, after its first migration. -/
def fresh : Database := ⟨.empty, (Schema.Catalog.empty.migrate (.ofSeconds 0)).2.versions, false⟩

/-- Runs a call on the store. -/
def call {α : Type} (d : Database) (f : Store → Except StoreError (α × Store)) :
    Except StoreError α × Database :=
  if d.poisoned then (.error .brokenOff, d)
  else
    match f d.store with
    | .ok (x, s) => (.ok x, { d with store := s })
    | .error e => (.error e, d)

/-- What is left when the program starts again: a file keeps its rows, memory does not. -/
def reopen (d : Database) (inFile : Bool) : Database :=
  if inFile then { d with poisoned := false } else fresh

end Database

end AlertService
