import NantianGateway.Ir.Types

/-!
# Files that are read again

`reload.rs`: a value parsed from a file, kept with the stamp of the file and the time of the last
look at it.  After the refresh interval only a file that has changed is read again.  The file can be
written during a load, so what a load sees is a view of the file (`LoadView`).
-/

namespace NantianGateway.Observability

structure FileStamp where
  modified : ℕ
  len : ℕ
  deriving DecidableEq

structure CachedFile (T : Type) where
  value : T
  stamp : Option FileStamp
  checkedAt : Instant

structure ReloadingFile (ε T : Type) where
  path : String
  refreshInterval : Duration
  parse : List UInt8 → Except ε T
  cache : Option (CachedFile T)

inductive ReadError where
  | missing
  | unreadable
  deriving DecidableEq

inductive LoadError (ε : Type) where
  | read (error : ReadError)
  | parse (error : ε)

/-- What one load sees: the clock under both locks, the stamp of the file, its contents, its stamp
after reading, and the clock when the value is kept. -/
structure LoadView where
  readLockedAt : Instant := 0
  writeLockedAt : Instant := 0
  currentStamp : Option FileStamp := none
  contents : Except ReadError (List UInt8)
  stampAfter : Option FileStamp := none
  keptAt : Instant := 0

variable {ε T : Type}

def newLazy (path : String) (refreshInterval : Duration) (parse : List UInt8 → Except ε T) :
    ReloadingFile ε T where
  path := path
  refreshInterval := refreshInterval
  parse := parse
  cache := none

def readValue (parse : List UInt8 → Except ε T) (view : LoadView) :
    Except (LoadError ε) (T × Option FileStamp) :=
  match view.contents with
  | .error error => .error (.read error)
  | .ok bytes =>
    match parse bytes with
    | .error error => .error (.parse error)
    | .ok value => .ok (value, view.stampAfter)

variable (file : ReloadingFile ε T)

def unchecked (now : Instant) : Option T :=
  (file.cache.filter fun cached => now - cached.checkedAt < file.refreshInterval).map
    CachedFile.value

def loadLocked (view : LoadView) : Except (LoadError ε) T × ReloadingFile ε T :=
  match unchecked file view.writeLockedAt with
  | some value => (.ok value, file)
  | none =>
    match file.cache.filter fun cached =>
        cached.stamp.isSome ∧ cached.stamp = view.currentStamp with
    | some cached =>
      (.ok cached.value, { file with cache := some { cached with checkedAt := view.keptAt } })
    | none =>
      match readValue file.parse view with
      | .error error => (.error error, file)
      | .ok (value, stamp) =>
        (.ok value, { file with cache := some ⟨value, stamp, view.keptAt⟩ })

def load (view : LoadView) : Except (LoadError ε) T × ReloadingFile ε T :=
  match unchecked file view.readLockedAt with
  | some value => (.ok value, file)
  | none => loadLocked file view

/-- **The first load of a file reads it.**  There is no value to answer with instead, whatever
the interval and whatever the clocks say. -/
theorem load_newLazy (path : String) (refreshInterval : Duration)
    (parse : List UInt8 → Except ε T) (view : LoadView) :
    (load (newLazy path refreshInterval parse) view).1 = (readValue parse view).map Prod.fst := by
  have hunchecked (now : Instant) : unchecked (newLazy path refreshInterval parse) now = none := rfl
  rw [load, hunchecked, loadLocked, hunchecked]
  cases h : readValue parse view with
  | error error | ok result => simp [newLazy, h, Except.map]

end NantianGateway.Observability
