import Mathlib.Data.List.Dedup
import Mathlib.Data.List.Sort
import NantianGateway.Ir.Matching

/-!
# Listeners by attached route, clusters by service

Attachments are cut at the first slash, cluster names at the last colon, where the port must be a
canonical decimal numeral.  Of several clusters with one key the index holds the last, a scan finds
the first.
-/

namespace NantianGateway

open Text List Option

/-! ## Listeners by attached route -/

/-- An attachment names a route by namespace and name, cut at the first slash. -/
def routeAttachmentMatches (attached routeNamespace routeName : String) : Bool :=
  (splitOnce '/' attached).any fun parts => parts.1 == routeNamespace && parts.2 == routeName

/-- The two nested maps of the source are one, keyed by namespace and name. -/
structure RouteAttachmentListenerIndex where
  routes : Table (String × String) (List ℕ) := .empty

namespace RouteAttachmentListenerIndex

variable (listeners : List Listener)

/-- The attachments of all listeners, cut at the first slash, each with the index of
its listener. -/
def attachments : List ((String × String) × ℕ) :=
  listeners.zipIdx.flatMap fun entry =>
    entry.1.attachedRoutes.filterMap fun attached =>
      (splitOnce '/' attached).map fun parts => (parts, entry.2)

/-- Every list is sorted and freed of repetitions once it is complete. -/
def fromListeners : RouteAttachmentListenerIndex where
  routes := fun key =>
    (Table.pushAll (attachments listeners) key).map fun indices =>
      (indices.insertionSort (· ≤ ·)).dedup

variable (index : RouteAttachmentListenerIndex) («namespace» name : String)

def listenersForRoute : Option (List ℕ) :=
  index.routes («namespace», name)

/-- A binary search in an ascending list. -/
def containsListener (listenerIndex : ℕ) : Bool :=
  (index.listenersForRoute «namespace» name).any fun listeners => listenerIndex ∈ listeners

theorem containsListener_fromListeners {listeners : List Listener} {«namespace» name : String}
    {i : ℕ} :
    (fromListeners listeners).containsListener «namespace» name i = true ↔
      ∃ listener, listeners[i]? = some listener ∧ (listener.attachedRoutes.any fun attached =>
          routeAttachmentMatches attached «namespace» name) = true := by
  have hlookup : (fromListeners listeners).containsListener «namespace» name i = true ↔
      i ∈ Table.valuesAt (attachments listeners) («namespace», name) := by
    simp only [containsListener, listenersForRoute, fromListeners, Table.pushAll_apply]
    by_cases h : Table.valuesAt (attachments listeners) («namespace», name) = []
    · simp [h]
    · simp [h, mem_insertionSort]
  rw [hlookup, Table.mem_valuesAt, attachments, mem_flatMap]
  constructor
  · rintro ⟨⟨listener, j⟩, hmem, hparts⟩
    obtain ⟨attached, hattached, heq⟩ := mem_filterMap.mp hparts
    obtain ⟨parts, hsplit, hpair⟩ := map_eq_some_iff.mp heq
    obtain ⟨rfl, rfl⟩ := Prod.mk.inj hpair
    refine ⟨listener, mem_zipIdx_iff_getElem?.mp hmem,
      List.any_eq_true.mpr ⟨attached, hattached, ?_⟩⟩
    simp [routeAttachmentMatches, hsplit]
  · rintro ⟨listener, hi, hany⟩
    obtain ⟨attached, hattached, hmatch⟩ := List.any_eq_true.mp hany
    refine ⟨(listener, i), mem_zipIdx_iff_getElem?.mpr hi,
      mem_filterMap.mpr ⟨attached, hattached, ?_⟩⟩
    rw [routeAttachmentMatches] at hmatch
    cases hsplit : splitOnce '/' attached with
    | none => simp [hsplit] at hmatch
    | some parts =>
      rw [hsplit, any_some, Bool.and_eq_true, beq_iff_eq, beq_iff_eq] at hmatch
      rw [map_some, ← hmatch.1, ← hmatch.2]

end RouteAttachmentListenerIndex

/-! ## Clusters by service -/

variable (cluster : BackendCluster)

def backendClusterName : String :=
  cluster.namespace ++ "/" ++ cluster.name

/-- The digits counted by dividing by ten; a number is bound for its own digits. -/
def decimalDigitCountLoop : ℕ → ℕ → ℕ → ℕ
  | 0, _, count => count
  | fuel + 1, value, count =>
    if 10 ≤ value then decimalDigitCountLoop fuel (value / 10) (count + 1) else count

def decimalDigitCount (value : ℕ) : ℕ := decimalDigitCountLoop value value 1

/-- A canonical decimal numeral below `2 ^ 32`. -/
def parseDecimalPort (port : String) : Option UInt32 :=
  if port = "" then none
  else
    (readDigits port.toList 0).bind fun parsed =>
      if len port = decimalDigitCount parsed then some (UInt32.ofNat parsed) else none

def backendClusterServiceKey (clusterName : String) : Option (String × UInt32) :=
  (rsplitOnce ':' clusterName).bind fun parts =>
    (parseDecimalPort parts.2).map fun port => (parts.1, port)

def backendClusterNameMatchesRef (clusterName name : String) (port : UInt32) : Bool :=
  (rsplitOnce ':' clusterName).any fun parts =>
    parts.1 == name && (parseDecimalPort parts.2).any fun parsed => parsed = port

def backendClusterMatchesRef («namespace» name : String) (port : UInt32) : Bool :=
  cluster.namespace == «namespace» && backendClusterNameMatchesRef cluster.name name port

structure BackendServiceEntry where
  «namespace» : String
  port : UInt32
  index : ℕ
  deriving DecidableEq

namespace BackendServiceEntry

def «matches» (entry : BackendServiceEntry) («namespace» : String) (port : UInt32) : Bool :=
  entry.namespace == «namespace» && entry.port == port

end BackendServiceEntry

inductive BackendServiceBucket where
  | single (entry : BackendServiceEntry)
  | many (entries : List BackendServiceEntry)

/-- The one namespace that a list of namespaces holds. -/
def uniqueNamespace : List String → Option String
  | [] => none
  | «namespace» :: namespaces =>
    if namespaces.all (· == «namespace») then some «namespace» else none

namespace BackendServiceBucket

/-- Replace the index of the first entry with the same namespace and port, or append. -/
def insertEntry : List BackendServiceEntry → BackendServiceEntry → List BackendServiceEntry
  | [], entry => [entry]
  | existing :: entries, entry =>
    if existing.matches entry.namespace entry.port then
      { existing with index := entry.index } :: entries
    else existing :: insertEntry entries entry

variable (bucket : BackendServiceBucket)

def insert (entry : BackendServiceEntry) : BackendServiceBucket :=
  match bucket with
  | single existing =>
    if existing.matches entry.namespace entry.port then
      single { existing with index := entry.index }
    else many [existing, entry]
  | many entries => many (insertEntry entries entry)

def indexFor («namespace» : String) (port : UInt32) : Option ℕ :=
  match bucket with
  | single entry => if entry.matches «namespace» port then some entry.index else none
  | many entries =>
    (entries.find? fun entry => entry.matches «namespace» port).map fun entry => entry.index

def uniqueNamespace (port : UInt32) : Option String :=
  match bucket with
  | single entry => if entry.port = port then some entry.namespace else none
  | many entries =>
    NantianGateway.uniqueNamespace ((entries.filter fun entry => entry.port = port).map fun entry =>
      entry.namespace)

end BackendServiceBucket

structure BackendServiceIndex where
  services : Table String BackendServiceBucket := .empty

namespace BackendServiceIndex

variable (index : BackendServiceIndex) («namespace» name : String) (port : UInt32)

def insert (position : ℕ) : BackendServiceIndex where
  services := index.services.insert name <|
    match index.services name with
    | none => .single ⟨«namespace», port, position⟩
    | some bucket => bucket.insert ⟨«namespace», port, position⟩

def indexFor : Option ℕ :=
  (index.services name).bind fun bucket => bucket.indexFor «namespace» port

def uniqueNamespace (name : String) (port : UInt32) : Option String :=
  (index.services name).bind fun bucket => bucket.uniqueNamespace port

/-- The index of a list of clusters. -/
def build (backends : List BackendCluster) : BackendServiceIndex :=
  backends.zipIdx.foldl (fun index entry =>
    match backendClusterServiceKey entry.1.name with
    | some (name, port) => index.insert entry.1.namespace name port entry.2
    | none => index) {}

end BackendServiceIndex

/-! ## The service key of a cluster name -/

variable (port : UInt32)

def portText : String := toString port.toNat

theorem toList_portText : (portText port).toList = Nat.toDigits 10 port.toNat := by
  rw [portText, Nat.toString_eq_repr, Nat.toList_repr]

theorem decimalDigitCountLoop_eq {fuel value : ℕ} (h : value ≤ fuel) (count : ℕ) :
    decimalDigitCountLoop fuel value (count + 1) = count + (Nat.toDigits 10 value).length := by
  induction fuel generalizing value count with
  | zero =>
    obtain rfl := Nat.le_zero.mp h
    rfl
  | succ fuel ih =>
    rw [decimalDigitCountLoop]
    by_cases hv : 10 ≤ value
    · rw [if_pos hv, ih (by omega), Nat.toDigits_of_base_le (by omega) hv, length_append,
        length_singleton]
      omega
    · rw [if_neg hv, Nat.toDigits_of_lt_base (by omega), length_singleton]

theorem decimalDigitCount_eq (value : ℕ) :
    decimalDigitCount value = (Nat.toDigits 10 value).length := by
  rw [decimalDigitCount, show (1 : ℕ) = 0 + 1 from rfl,
    decimalDigitCountLoop_eq le_rfl, Nat.zero_add]

theorem byteLen_of_isDigit {l : List Char} (h : ∀ c ∈ l, c.isDigit = true) :
    byteLen l = l.length := by
  induction l with
  | nil => rfl
  | cons c l ih =>
    have hc : c.utf8Size = 1 := by
      have hdigit := h c mem_cons_self
      simp only [Char.isDigit, Bool.and_eq_true, decide_eq_true_eq, ge_iff_le] at hdigit
      rw [Char.utf8Size_eq_one_iff]
      exact UInt32.le_trans hdigit.2 (by decide)
    rw [byteLen_cons, hc, ih fun d hd => h d (mem_cons_of_mem _ hd), length_cons, Nat.add_comm]

theorem parseDecimalPort_eq_some_iff {text : String} {port : UInt32} :
    parseDecimalPort text = some port ↔ text = portText port := by
  rw [← String.toList_inj, toList_portText, parseDecimalPort]
  constructor
  · intro h
    split_ifs at h with hnil
    obtain ⟨parsed, hread, h⟩ := bind_eq_some_iff.mp h
    split_ifs at h with hlen
    obtain ⟨hdigits, hval, hlt⟩ := readDigits_eq_some hread
    have hport : port.toNat = parsed := by
      rw [← Option.some.inj h]
      exact UInt32.toNat_ofNat_of_lt' (hlt (by decide))
    rw [hport]
    refine eq_of_ofDigitChars_eq hdigits
      (fun c hc => Nat.isDigit_of_mem_toDigits (by decide) (by decide) hc) ?_ ?_
    · rw [← byteLen_of_isDigit hdigits, ← decimalDigitCount_eq]
      exact hlen
    · rw [Nat.ofDigitChars_toDigits (by decide) (by decide), hval]
  · intro h
    have hdigits : ∀ c ∈ text.toList, c.isDigit = true := by
      rw [h]
      exact fun c hc => Nat.isDigit_of_mem_toDigits (by decide) (by decide) hc
    have hval : Nat.ofDigitChars 10 text.toList 0 = port.toNat := by
      rw [h, Nat.ofDigitChars_toDigits (by decide) (by decide)]
    have hnil : text ≠ "" := by
      rintro rfl
      have hpos := Nat.length_toDigits_pos (b := 10) (n := port.toNat)
      rw [← h] at hpos
      exact absurd hpos (by decide)
    rw [if_neg hnil, readDigits_of_lt hdigits (by rw [hval]; exact port.toNat_lt), hval, bind_some,
      len, byteLen_of_isDigit hdigits, h, decimalDigitCount_eq, if_pos rfl, UInt32.ofNat_toNat]

theorem colon_notMem_portText : ':' ∉ (portText port).toList := by
  intro h
  rw [toList_portText] at h
  have hdigit := Nat.isDigit_of_mem_toDigits (by decide) (by decide) h
  exact absurd hdigit (by decide)

theorem clusterServiceKey_eq_some_iff {clusterName name : String} {port : UInt32} :
    backendClusterServiceKey clusterName = some (name, port) ↔
      clusterName = name ++ ":" ++ portText port := by
  have htext : clusterName = name ++ ":" ++ portText port ↔
      clusterName.toList = name.toList ++ ':' :: (portText port).toList := by
    rw [← String.toList_inj, String.toList_append, String.toList_append]
    simp
  rw [htext, backendClusterServiceKey, bind_eq_some_iff]
  constructor
  · rintro ⟨⟨u, v⟩, hsplit, hparse⟩
    obtain ⟨parsed, hparsed, hpair⟩ := map_eq_some_iff.mp hparse
    obtain ⟨rfl, rfl⟩ := Prod.mk.inj hpair
    obtain ⟨hlist, -⟩ := rsplitOnce_eq_some_iff.mp hsplit
    rw [← parseDecimalPort_eq_some_iff.mp hparsed]
    exact hlist
  · intro hlist
    refine ⟨(name, portText port), rsplitOnce_eq_some_iff.mpr
      ⟨hlist, colon_notMem_portText port⟩, ?_⟩
    rw [parseDecimalPort_eq_some_iff.mpr rfl, map_some]

theorem backendClusterNameMatchesRef_eq (clusterName name : String) (port : UInt32) :
    backendClusterNameMatchesRef clusterName name port
      = decide (backendClusterServiceKey clusterName = some (name, port)) := by
  rw [backendClusterNameMatchesRef, backendClusterServiceKey]
  cases rsplitOnce ':' clusterName with
  | none => simp
  | some parts =>
    rw [any_some, bind_some]
    cases parseDecimalPort parts.2 with
    | none => simp
    | some parsed =>
      rw [any_some, map_some, Bool.beq_eq_decide_eq, ← Bool.decide_and]
      simp

theorem clusterMatchesRef_iff {cluster : BackendCluster} {«namespace» name : String}
    {port : UInt32} :
    backendClusterMatchesRef cluster «namespace» name port = true ↔
      cluster.namespace = «namespace» ∧ cluster.name = name ++ ":" ++ portText port := by
  rw [backendClusterMatchesRef, Bool.and_eq_true, beq_iff_eq, backendClusterNameMatchesRef_eq,
    decide_eq_true_eq, clusterServiceKey_eq_some_iff]

/-! ## What the service index returns -/

namespace BackendServiceBucket

def entries : BackendServiceBucket → List BackendServiceEntry
  | single entry => [entry]
  | many entries => entries

variable (bucket : BackendServiceBucket)

theorem indexFor_eq («namespace» : String) (port : UInt32) : bucket.indexFor «namespace» port
      = (bucket.entries.find? fun entry => entry.matches «namespace» port).map fun entry =>
        entry.index := by
  cases bucket with
  | single entry =>
    rw [indexFor, entries, List.find?_singleton]
    split <;> rfl
  | many entries => rfl

theorem entries_insert (entry : BackendServiceEntry) :
    (bucket.insert entry).entries = insertEntry bucket.entries entry := by
  cases bucket with
  | single existing =>
    rw [insert, entries, insertEntry]
    split <;> rfl
  | many entries => rfl

theorem find?_insertEntry (l : List BackendServiceEntry) (entry : BackendServiceEntry)
    («namespace» : String) (port : UInt32) :
    ((insertEntry l entry).find? fun e => e.matches «namespace» port).map (fun e => e.index)
      = if entry.namespace = «namespace» ∧ entry.port = port then some entry.index
        else (l.find? fun e => e.matches «namespace» port).map fun e => e.index := by
  induction l with
  | nil =>
    rw [insertEntry, List.find?_singleton]
    by_cases h : entry.namespace = «namespace» ∧ entry.port = port
    · simp [BackendServiceEntry.matches, h]
    · simp [BackendServiceEntry.matches, h]
  | cons existing l ih =>
    rw [insertEntry]
    by_cases he : existing.matches entry.namespace entry.port = true
    · rw [if_pos he]
      simp only [BackendServiceEntry.matches, Bool.and_eq_true, beq_iff_eq] at he
      by_cases h : entry.namespace = «namespace» ∧ entry.port = port
      · simp [BackendServiceEntry.matches, he, h]
      · simp [BackendServiceEntry.matches, he, h]
    · rw [if_neg he, List.find?_cons, List.find?_cons]
      by_cases hm : existing.matches «namespace» port = true
      · have hne : ¬(entry.namespace = «namespace» ∧ entry.port = port) := by
          rintro ⟨rfl, rfl⟩
          exact he hm
        simp [hm, hne]
      · simp only [hm, ih]

end BackendServiceBucket

namespace BackendServiceIndex

theorem indexFor_insert (index : BackendServiceIndex) («namespace» name «namespace'» name' : String)
    (port port' : UInt32) (position : ℕ) :
    (index.insert «namespace» name port position).indexFor «namespace'» name' port'
      = if «namespace» = «namespace'» ∧ name = name' ∧ port = port' then some position
        else index.indexFor «namespace'» name' port' := by
  simp only [indexFor, insert, Table.insert_apply]
  by_cases hname : name' = name
  · subst hname
    rw [if_pos rfl, bind_some, BackendServiceBucket.indexFor_eq]
    cases hb : index.services name' with
    | none =>
      simp only [BackendServiceBucket.entries, List.find?_singleton, bind_none]
      by_cases h : «namespace» = «namespace'» ∧ port = port'
      · simp [BackendServiceEntry.matches, h]
      · simp [BackendServiceEntry.matches, h]
    | some bucket =>
      simp only [BackendServiceBucket.entries_insert, BackendServiceBucket.find?_insertEntry,
        bind_some, BackendServiceBucket.indexFor_eq, true_and]
  · rw [if_neg hname, if_neg fun h => hname h.2.1.symm]

theorem indexFor_build (backends : List BackendCluster) («namespace» name : String)
    (port : UInt32) :
    (build backends).indexFor «namespace» name port = (backends.zipIdx.reverse.find? fun entry =>
          backendClusterMatchesRef entry.1 «namespace» name port).map Prod.snd := by
  rw [build]
  induction backends.zipIdx using List.reverseRecOn with
  | nil => rfl
  | append_singleton entries entry ih =>
    rw [foldl_append, foldl_cons, foldl_nil, reverse_append, reverse_singleton, singleton_append,
      List.find?_cons, backendClusterMatchesRef, backendClusterNameMatchesRef_eq]
    cases hkey : backendClusterServiceKey entry.1.name with
    | none => simpa using ih
    | some key =>
      rw [indexFor_insert]
      by_cases h : entry.1.namespace = «namespace» ∧ key.1 = name ∧ key.2 = port
      · obtain ⟨rfl, rfl, rfl⟩ := h
        simp
      · rw [if_neg h, ih]
        have hne : (entry.1.namespace == «namespace» && decide (some key = some (name, port)))
            = false := by
          rw [Bool.eq_false_iff]
          simp only [ne_eq, Bool.and_eq_true, beq_iff_eq, Option.some.injEq, decide_eq_true_eq]
          rintro ⟨h1, rfl⟩
          exact h ⟨h1, rfl, rfl⟩
        rw [hne]

end BackendServiceIndex

end NantianGateway
