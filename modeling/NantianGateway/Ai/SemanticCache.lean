import NantianGateway.Ai.Ir
import NantianGateway.Ir.Types

/-!
# The semantic cache

Responses by key, for a time.  The backend in memory is bounded: when it is full, expired entries
are dropped, and if that is not enough, whichever entry an iterator finds first.
-/

namespace NantianGateway.Ai

variable {Json : Type}

structure CachedResponse (Json : Type) where
  response : AIResponse Json
  storedAt : Instant
  ttl : Duration

def CachedResponse.isExpired (entry : CachedResponse Json) (now : Instant) : Bool :=
  entry.ttl < now - entry.storedAt

/-- The entries are listed in some order; an insert removes the old entry of its key. -/
structure MemoryCacheBackend (Json : Type) where
  entries : List (String × CachedResponse Json) := []
  maxEntries : ℕ := 10000

namespace MemoryCacheBackend

variable (backend : MemoryCacheBackend Json)

def remove (key : String) : MemoryCacheBackend Json :=
  { backend with entries := backend.entries.filter fun e => e.1 ≠ key }

/-- The entry that the iterator of the map finds first is removed. -/
def removeEvictionCandidate (first : ℕ) : MemoryCacheBackend Json :=
  { backend with entries := backend.entries.eraseIdx (first % backend.entries.length) }

def insert (key : String) (entry : CachedResponse Json) : MemoryCacheBackend Json :=
  { backend with entries := (backend.remove key).entries ++ [(key, entry)] }

variable (now : Instant) (first : ℕ)

def makeRoom : MemoryCacheBackend Json :=
  if backend.maxEntries ≤ backend.entries.length then
    let backend :=
      { backend with entries := backend.entries.filter fun e => !e.2.isExpired now }
    if backend.maxEntries ≤ backend.entries.length then backend.removeEvictionCandidate first
    else backend
  else backend

def store (key : String) (entry : CachedResponse Json) : MemoryCacheBackend Json :=
  if backend.maxEntries = 0 then backend else (backend.makeRoom now first).insert key entry

def lookup (key : String) : Option (CachedResponse Json) × MemoryCacheBackend Json :=
  match backend.entries.find? fun e => e.1 = key with
  | none => (none, backend)
  | some e => if e.2.isExpired now then (none, backend.remove key) else (some e.2, backend)

end MemoryCacheBackend

structure CacheConfig where
  enabled : Bool := true
  ttl : Duration := 3600 * 10 ^ 9

structure SemanticCache (Json : Type) where
  backend : MemoryCacheBackend Json := {}
  config : CacheConfig := {}

namespace SemanticCache

variable (cache : SemanticCache Json)

/-- The clock is read once by the backend, and once more for the entry it returned. -/
def lookupKey (now now' : Instant) (key : String) : Option (AIResponse Json) × SemanticCache Json :=
  if cache.config.enabled then
    let answer := cache.backend.lookup now key
    match answer.1 with
    | none => (none, { cache with backend := answer.2 })
    | some entry =>
      if entry.isExpired now' then (none, { cache with backend := answer.2.remove key })
      else (some entry.response, { cache with backend := answer.2 })
  else (none, cache)

def store (now : Instant) (first : ℕ) (key : String) (response : AIResponse Json) :
    SemanticCache Json :=
  if cache.config.enabled then
    { cache with backend := cache.backend.store now first key ⟨response, now, cache.config.ttl⟩ }
  else cache

end SemanticCache

/-! ## What a cache holds -/

namespace MemoryCacheBackend

variable {backend : MemoryCacheBackend Json} {e : String × CachedResponse Json}
  {key : String} {now : Instant}

theorem mem_of_mem_remove (h : e ∈ (backend.remove key).entries) : e ∈ backend.entries :=
  List.mem_of_mem_filter h

theorem mem_of_mem_makeRoom {first : ℕ} (h : e ∈ (backend.makeRoom now first).entries) :
    e ∈ backend.entries := by
  unfold makeRoom at h
  split at h
  · dsimp only at h
    split at h
    · exact List.mem_of_mem_filter (List.mem_of_mem_eraseIdx h)
    · exact List.mem_of_mem_filter h
  · exact h

variable {entry : CachedResponse Json}

theorem mem_entries_store {first : ℕ} (h : e ∈ (backend.store now first key entry).entries) :
    e ∈ backend.entries ∨ e = (key, entry) := by
  unfold store at h
  split at h
  · exact Or.inl h
  · rcases List.mem_append.mp h with hold | hnew
    · exact Or.inl (mem_of_mem_makeRoom (mem_of_mem_remove hold))
    · exact Or.inr (List.mem_singleton.mp hnew)

theorem mem_entries_lookup (h : e ∈ (backend.lookup now key).2.entries) : e ∈ backend.entries := by
  unfold lookup at h
  split at h
  · exact h
  · split at h
    · exact mem_of_mem_remove h
    · exact h

theorem mem_of_lookup (h : (backend.lookup now key).1 = some entry) :
    (key, entry) ∈ backend.entries := by
  unfold lookup at h
  split at h
  · cases h
  · rename_i found hfound
    split at h
    · cases h
    · obtain rfl := Option.some.inj h
      have hkey := List.find?_some hfound
      obtain rfl : found.1 = key := of_decide_eq_true hkey
      exact List.mem_of_find?_eq_some hfound

end MemoryCacheBackend

namespace SemanticCache

variable {cache : SemanticCache Json} {e : String × CachedResponse Json}
  {key : String} {response : AIResponse Json} {now now' : Instant}

theorem mem_of_lookupKey (h : (cache.lookupKey now now' key).1 = some response) :
    ∃ entry, (key, entry) ∈ cache.backend.entries ∧ entry.response = response := by
  unfold lookupKey at h
  split at h
  · dsimp only at h
    split at h
    · cases h
    · rename_i entry hentry
      split at h
      · cases h
      · exact ⟨entry, MemoryCacheBackend.mem_of_lookup hentry, Option.some.inj h⟩
  · cases h

theorem mem_entries_lookupKey
    (h : e ∈ (cache.lookupKey now now' key).2.backend.entries) : e ∈ cache.backend.entries := by
  unfold lookupKey at h
  split at h
  · dsimp only at h
    split at h
    · exact MemoryCacheBackend.mem_entries_lookup h
    · split at h
      · exact MemoryCacheBackend.mem_entries_lookup (MemoryCacheBackend.mem_of_mem_remove h)
      · exact MemoryCacheBackend.mem_entries_lookup h
  · exact h

theorem mem_entries_store {now : Instant} {first : ℕ}
    (h : e ∈ (cache.store now first key response).backend.entries) :
    e ∈ cache.backend.entries ∨ (e.1 = key ∧ e.2.response = response) := by
  unfold store at h
  split at h
  · rcases MemoryCacheBackend.mem_entries_store h with hold | rfl
    · exact Or.inl hold
    · exact Or.inr ⟨rfl, rfl⟩
  · exact Or.inl h

end SemanticCache

end NantianGateway.Ai
