import Mathlib.Algebra.Ring.Nat
import Mathlib.Data.List.Infix

/-!
# The server name of a ClientHello

`extract_server_name`, of which `ntgw-stream` and `ntgw-shared-tls` have a copy each.  An index or a
slice out of range is a panic, and `get` out of range is `None`; both end the parser.
-/

namespace NantianGateway.Sni

open List

inductive Stop where
  | missing
  | panic
  deriving DecidableEq

abbrev Parse := Except Stop

variable {stop : Stop} {l payload rest : List UInt8} {start finish width : ℕ}

/-- `payload[start..finish]`, or with `get`. -/
def slice (stop : Stop) (payload : List UInt8) (start finish : ℕ) : Parse (List UInt8) :=
  if start ≤ finish ∧ finish ≤ payload.length then .ok ((payload.take finish).drop start)
  else .error stop

def sliceFrom (stop : Stop) (payload : List UInt8) (start : ℕ) : Parse (List UInt8) :=
  slice stop payload start payload.length

/-- The bytes of a slice as a number, the highest byte first. -/
def number (stop : Stop) (payload : List UInt8) (start finish : ℕ) : Parse ℕ := do
  return (← slice stop payload start finish).foldl (fun n byte => n * 256 + byte.toNat) 0

def readU16 (payload : List UInt8) : Parse ℕ := number .missing payload 0 2

/-- A header of `width` bytes: the first one is a type, those from `skip` on are a length. -/
def parseFrame (type skip width : ℕ) (payload : List UInt8) : Parse (List UInt8) :=
  if payload.length < width then .error .missing
  else do
    if (← number .panic payload 0 1) ≠ type then .error .missing
    else do
      let length ← number .panic payload skip width
      if payload.length < width + length then .error .missing
      else slice .panic payload width (width + length)

def parseTlsRecord : List UInt8 → Parse (List UInt8) := parseFrame 22 3 5

def parseClientHello : List UInt8 → Parse (List UInt8) := parseFrame 1 1 4

def skipVector (payload : List UInt8) (lenBytes : ℕ) : Parse (List UInt8) :=
  if lenBytes = 1 ∨ lenBytes = 2 then do
    sliceFrom .missing payload (lenBytes + (← number .missing payload 0 lenBytes))
  else .error .missing

/-- The loops over extensions and over names: a kind of `width` bytes, a length and a payload, until
the kind is zero.  A turn takes a byte at least, so the length of the cursor bounds the turns. -/
def entryLoop (stop : Stop) (width : ℕ) (found : List UInt8 → Parse String) :
    ℕ → List UInt8 → Parse String
  | 0, _ => .error .missing
  | fuel + 1, cursor =>
    if cursor.length < width + 2 then .error .missing
    else do
      let kind ← number stop cursor 0 width
      let len ← readU16 (← sliceFrom .panic cursor width)
      let payload ← slice .missing cursor (width + 2) (width + 2 + len)
      if kind = 0 then found payload
      else entryLoop stop width found fuel (← sliceFrom .missing cursor (width + 2 + len))

def parseEntries (stop : Stop) (width : ℕ) (found : List UInt8 → Parse String)
    (payload : List UInt8) : Parse String := do
  let cursor ← slice .missing payload 2 (2 + (← readU16 payload))
  entryLoop stop width found cursor.length cursor

/-- `std::str::from_utf8`. -/
def readText (name : List UInt8) : Parse String :=
  (String.fromUTF8? ⟨name.toArray⟩).elim (.error .missing) .ok

def parseServerNameList : List UInt8 → Parse String := parseEntries .panic 1 readText

def parseServerNameExtension (payload : List UInt8) : Parse String :=
  if payload.length < 34 then .error .missing
  else do
    let cursor ← sliceFrom .panic payload 34
    let cursor ← skipVector cursor 1
    let cursor ← skipVector cursor 2
    let cursor ← skipVector cursor 1
    parseEntries .missing 2 parseServerNameList cursor

def extractServerName (payload : List UInt8) : Parse String := do
  parseServerNameExtension (← parseClientHello (← parseTlsRecord payload))

/-! ## Any input -/

def text (name : String) : List UInt8 := name.toByteArray.data.toList

/-- No panic, and what is returned is a part of the bytes. -/
def Within {α : Type} (l : List UInt8) (bytes : α → List UInt8) : Parse α → Prop
  | .ok a => bytes a <:+: l
  | .error stop => stop = .missing

theorem Within.bind {α β : Type} {bytes : α → List UInt8} {bytes' : β → List UInt8} {x : Parse α}
    {f : α → Parse β} (hx : Within l bytes x)
    (hf : ∀ a, bytes a <:+: l → Within l bytes' (f a)) : Within l bytes' (x >>= f) := by
  cases x with
  | error stop => exact hx
  | ok a => exact hf a hx

theorem within_slice (h : payload <:+: l)
    (hstop : stop = .missing ∨ start ≤ finish ∧ finish ≤ payload.length) :
    Within l id (slice stop payload start finish) := by
  rw [slice]
  split
  · have htake : payload.take finish <:+: payload := ⟨[], payload.drop finish, by simp⟩
    exact (drop_suffix start _).isInfix.trans (htake.trans h)
  · next hrange => exact hstop.resolve_right hrange

theorem within_number (hstop : stop = .missing ∨ start ≤ finish ∧ finish ≤ payload.length) :
    Within l (fun _ => []) (number stop payload start finish) := by
  have h := within_slice (infix_refl payload) hstop
  rw [number]
  generalize slice stop payload start finish = x at h ⊢
  cases x with
  | ok bytes => exact nil_infix
  | error stop => exact h

theorem within_parseFrame {type skip : ℕ} (h : payload <:+: l) (hskip : skip ≤ width)
    (hwidth : 0 < width) : Within l id (parseFrame type skip width payload) := by
  rw [parseFrame]
  split
  · rfl
  · refine (within_number (.inr (by omega))).bind fun kind _ => ?_
    split
    · rfl
    · refine (within_number (.inr (by omega))).bind fun length _ => ?_
      split
      · rfl
      · exact within_slice h (.inr (by omega))

theorem within_skipVector (h : payload <:+: l) (lenBytes : ℕ) :
    Within l id (skipVector payload lenBytes) := by
  rw [skipVector]
  split
  · exact (within_number (.inl rfl)).bind fun len _ => within_slice h (.inl rfl)
  · rfl

section

variable {found : List UInt8 → Parse String}
  (hfound : ∀ payload, payload <:+: l → Within l text (found payload))

include hfound

theorem within_entryLoop {cursor : List UInt8} (fuel : ℕ) (h : cursor <:+: l) :
    Within l text (entryLoop stop width found fuel cursor) := by
  induction fuel generalizing cursor with
  | zero => rfl
  | succ fuel ih =>
    rw [entryLoop]
    split
    · rfl
    · refine (within_number (.inr (by omega))).bind fun kind _ => ?_
      refine (within_slice h (.inr (by omega))).bind fun bytes _ => ?_
      refine (within_number (.inl rfl)).bind fun len _ => ?_
      refine (within_slice h (.inl rfl)).bind fun payload hpayload => ?_
      split
      · exact hfound payload hpayload
      · exact (within_slice h (.inl rfl)).bind fun rest hrest => ih hrest

theorem within_parseEntries (h : payload <:+: l) :
    Within l text (parseEntries stop width found payload) :=
  (within_number (.inl rfl)).bind fun _ _ => (within_slice h (.inl rfl)).bind fun _ =>
    within_entryLoop hfound _

end

theorem within_readText {name : List UInt8} (h : name <:+: l) : Within l text (readText name) := by
  rw [readText, String.fromUTF8?]
  split
  · exact h
  · rfl

theorem within_parseServerNameExtension (h : payload <:+: l) :
    Within l text (parseServerNameExtension payload) := by
  rw [parseServerNameExtension]
  split
  · rfl
  · refine (within_slice h (.inr (by omega))).bind fun cursor h => ?_
    refine (within_skipVector h 1).bind fun cursor h => ?_
    refine (within_skipVector h 2).bind fun cursor h => ?_
    refine (within_skipVector h 1).bind fun cursor h => ?_
    exact within_parseEntries (fun _ => within_parseEntries fun _ => within_readText) h

theorem within_extractServerName (payload : List UInt8) :
    Within payload text (extractServerName payload) :=
  (within_parseFrame (infix_refl _) (by decide) (by decide)).bind fun _ h =>
    (within_parseFrame h (by decide) (by decide)).bind fun _ => within_parseServerNameExtension

/-! ## A ClientHello in one record -/

def be : ℕ → ℕ → List UInt8
  | 0, _ => []
  | width + 1, n => be width (n / 256) ++ [UInt8.ofNat n]

def vector (width : ℕ) (payload : List UInt8) : List UInt8 := be width payload.length ++ payload

/-- Entries that are skipped, the one with kind zero, and any bytes. -/
def entries (width : ℕ) (skipped : List (ℕ × List UInt8)) (payload later : List UInt8) :
    List UInt8 :=
  skipped.flatMap (fun e => be width e.1 ++ vector 2 e.2)
    ++ (be width 0 ++ (vector 2 payload ++ later))

/-- What a client sends; `lead` is the version and the random, `names` and `extensions` are those
before the first host name and before its extension. -/
structure Fields where
  version : UInt8 × UInt8
  lead : List UInt8
  sessionId : List UInt8
  cipherSuites : List UInt8
  compression : List UInt8
  extensions : List (ℕ × List UInt8)
  names : List (ℕ × List UInt8)
  host : String
  laterNames : List UInt8
  laterExtensions : List UInt8

namespace Fields

variable (f : Fields)

def nameList : List UInt8 := entries 1 f.names (text f.host) f.laterNames

def extensionList : List UInt8 :=
  entries 2 f.extensions (vector 2 f.nameList) f.laterExtensions

def body : List UInt8 :=
  f.lead ++ (vector 1 f.sessionId ++ (vector 2 f.cipherSuites ++ (vector 1 f.compression
    ++ vector 2 f.extensionList)))

def handshake : List UInt8 := [1] ++ vector 3 f.body

def record : List UInt8 := [22, f.version.1, f.version.2] ++ vector 2 f.handshake

end Fields

structure ClientHello extends Fields where
  lead_length : lead.length = 34
  sessionId_length : sessionId.length < 256
  compression_length : compression.length < 256
  extensions_kind : ∀ e ∈ extensions, 0 < e.1 ∧ e.1 < 65536
  names_kind : ∀ e ∈ names, 0 < e.1 ∧ e.1 < 256
  one_record : toFields.handshake.length < 65536

instance : Inhabited ClientHello where
  default :=
    { version := (3, 1), lead := replicate 34 0, sessionId := [], cipherSuites := [19, 1]
      compression := [0], extensions := [(10, [0, 2, 0, 29])], names := [], host := "host.example"
      laterNames := [], laterExtensions := [], lead_length := rfl, sessionId_length := by decide
      compression_length := by decide, extensions_kind := by decide, names_kind := by decide
      one_record := by decide }

section

variable {a b : List UInt8} {n : ℕ}

@[simp] theorem length_be (width n : ℕ) : (be width n).length = width := by
  induction width generalizing n with
  | zero => rfl
  | succ width ih => rw [be, length_append, ih, length_singleton]

theorem foldl_be (hn : n < 256 ^ width) :
    (be width n).foldl (fun n byte => n * 256 + byte.toNat) 0 = n := by
  induction width generalizing n with
  | zero => simp_all [be]
  | succ width ih =>
    have hhigh : n / 256 < 256 ^ width := Nat.div_lt_of_lt_mul (by rwa [Nat.pow_succ'] at hn)
    rw [be, foldl_append, ih hhigh]
    simp only [foldl_cons, foldl_nil, UInt8.toNat_ofNat']
    omega

theorem slice_append (hst : a.length = start) (hfinish : start + b.length = finish) :
    slice stop (a ++ (b ++ rest)) start finish = .ok b := by
  subst hst hfinish
  rw [slice, if_pos (by simp), take_length_add_append, drop_left, take_left]

theorem number_be (hst : a.length = start) (hfinish : start + width = finish)
    (hn : n < 256 ^ width) : number stop (a ++ (be width n ++ rest)) start finish = .ok n := by
  rw [number, slice_append hst (by rwa [length_be])]
  exact congrArg Except.ok (foldl_be hn)

theorem number_append (hfinish : finish ≤ a.length) :
    number stop (a ++ rest) start finish = number stop a start finish := by
  rw [number, number, slice, slice, take_append_of_le_length hfinish]
  grind

section

variable {type skip : ℕ} (hskip : a.length = skip) (hpos : 0 < skip)
  (htype : number .panic a 0 1 = .ok type) (hfinish : skip + width = finish)

include hskip hpos htype hfinish

theorem parseFrame_be (hn : n < 256 ^ width) :
    parseFrame type skip finish (a ++ (be width n ++ rest))
      = slice .missing (a ++ (be width n ++ rest)) finish (finish + n) := by
  rw [parseFrame, if_neg (by simp; omega), number_append (by omega), htype]
  simp only [bind, Except.bind, number_be hskip hfinish hn]
  rw [if_neg (by simp), slice, slice]
  grind

theorem parseFrame_vector (hlen : payload.length < 256 ^ width) :
    parseFrame type skip finish (a ++ (vector width payload ++ rest)) = .ok payload := by
  rw [vector, append_assoc, parseFrame_be hskip hpos htype hfinish hlen, ← append_assoc]
  exact slice_append (by simp; omega) rfl

end

theorem sliceFrom_append (hst : a.length = start) :
    sliceFrom stop (a ++ rest) start = .ok rest := by
  rw [sliceFrom, slice, if_pos (by simp [← hst]), take_length, drop_left' hst]

theorem number_vector (hlen : payload.length < 256 ^ width) :
    number stop (vector width payload ++ rest) 0 width = .ok payload.length := by
  rw [vector, append_assoc]
  exact @number_be _ _ _ _ _ [] _ rfl (Nat.zero_add width) hlen

theorem skipVector_vector (hwidth : width = 1 ∨ width = 2) (hlen : payload.length < 256 ^ width) :
    skipVector (vector width payload ++ rest) width = .ok rest := by
  rw [skipVector, if_pos hwidth, number_vector hlen]
  exact sliceFrom_append (by simp [vector])

section

variable {found : List UInt8 → Parse String} {kind fuel : ℕ}

theorem entryLoop_entry (hkind : kind < 256 ^ width) (hlen : payload.length < 256 ^ 2) :
    entryLoop stop width found (fuel + 1) (be width kind ++ (vector 2 payload ++ rest))
      = if kind = 0 then found payload else entryLoop stop width found fuel rest := by
  have hnumber : number stop (be width kind ++ (vector 2 payload ++ rest)) 0 width = .ok kind :=
    @number_be _ _ _ _ _ [] _ rfl (Nat.zero_add width) hkind
  have hslice : slice .missing (be width kind ++ (vector 2 payload ++ rest)) (width + 2)
      (width + 2 + payload.length) = .ok payload := by
    rw [vector, append_assoc, ← append_assoc]
    exact slice_append (by simp) rfl
  have hrest : sliceFrom .missing (be width kind ++ (vector 2 payload ++ rest))
      (width + 2 + payload.length) = .ok rest := by
    rw [← append_assoc]
    exact sliceFrom_append (by simp [vector]; omega)
  rw [entryLoop, if_neg (by simp only [vector, length_append, length_be]; omega), hnumber,
    sliceFrom_append (length_be width kind)]
  simp only [bind, Except.bind, readU16, number_vector hlen, hslice, hrest]

variable {skipped : List (ℕ × List UInt8)} (hskip : ∀ e ∈ skipped, 0 < e.1 ∧ e.1 < 256 ^ width)
  (hlen : (entries width skipped payload rest).length < 65536)

include hskip hlen

theorem entryLoop_entries (hfuel : (entries width skipped payload rest).length ≤ fuel) :
    entryLoop stop width found fuel (entries width skipped payload rest) = found payload := by
  induction skipped generalizing fuel with
  | nil =>
    simp only [entries, flatMap_nil, nil_append, vector, length_append, length_be] at hlen hfuel
    obtain ⟨fuel, rfl⟩ : ∃ n, fuel = n + 1 := ⟨fuel - 1, by omega⟩
    exact (entryLoop_entry (Nat.pow_pos (by decide)) (by omega)).trans (if_pos rfl)
  | cons e skipped ih =>
    have hcons : entries width (e :: skipped) payload rest
        = be width e.1 ++ (vector 2 e.2 ++ entries width skipped payload rest) := by
      simp [entries]
    simp only [hcons, vector, length_append, length_be] at hlen hfuel
    obtain ⟨fuel, rfl⟩ : ∃ n, fuel = n + 1 := ⟨fuel - 1, by omega⟩
    obtain ⟨hpos, hkind⟩ := hskip e mem_cons_self
    rw [hcons, entryLoop_entry hkind (by omega), if_neg hpos.ne']
    exact ih (fun e he => hskip e (mem_cons_of_mem _ he)) (by omega) (by omega)

theorem parseEntries_entries :
    parseEntries stop width found (vector 2 (entries width skipped payload rest))
      = found payload := by
  have hloop := @entryLoop_entries stop _ _ _ found _ _ hskip hlen le_rfl
  generalize entries width skipped payload rest = cursor at hlen hloop ⊢
  have hslice : slice .missing (vector 2 cursor ++ []) 2 (2 + cursor.length) = .ok cursor := by
    rw [vector, append_assoc]
    exact slice_append (length_be 2 _) rfl
  rw [parseEntries, ← append_nil (vector 2 cursor), readU16, number_vector hlen]
  simpa only [bind, Except.bind, hslice] using hloop

end

end

namespace ClientHello

variable (hello : ClientHello)

theorem lengths : hello.nameList.length + 2 < hello.extensionList.length
    ∧ hello.cipherSuites.length + hello.extensionList.length + 4 < hello.body.length
    ∧ hello.body.length + 4 < 65536 := by
  have hrecord := hello.one_record
  refine ⟨?_, ?_, ?_⟩
  · simp [Fields.extensionList, entries, vector]
    omega
  · simp [Fields.body, vector, hello.lead_length]
    omega
  · simp [Fields.handshake, vector] at hrecord
    omega

theorem readText_text (name : String) : readText (text name) = .ok name := by
  have hbytes : (⟨(text name).toArray⟩ : ByteArray) = name.toByteArray := by simp [text]
  rw [readText, hbytes, String.fromUTF8?, dif_pos name.isValidUTF8]
  rfl

theorem parseServerNameExtension_body : parseServerNameExtension hello.body = .ok hello.host := by
  obtain ⟨hnames, hextensions, hbody⟩ := hello.lengths
  have hname : parseServerNameList (vector 2 hello.nameList) = .ok hello.host :=
    (parseEntries_entries hello.names_kind (show hello.nameList.length < 65536 by omega)).trans
      (readText_text hello.host)
  have hparsed : parseEntries .missing 2 parseServerNameList (vector 2 hello.extensionList)
      = .ok hello.host :=
    (parseEntries_entries hello.extensions_kind
      (show hello.extensionList.length < 65536 by omega)).trans hname
  have hlead : sliceFrom .panic hello.body 34 = _ := sliceFrom_append hello.lead_length
  rw [parseServerNameExtension, if_neg (by simp [Fields.body, hello.lead_length]), hlead]
  simp only [bind, Except.bind, skipVector_vector (.inl rfl) hello.sessionId_length,
    skipVector_vector (.inr rfl) (show hello.cipherSuites.length < 65536 by omega),
    skipVector_vector (.inl rfl) hello.compression_length]
  exact hparsed

theorem parseClientHello_handshake : parseClientHello hello.handshake = .ok hello.body := by
  obtain ⟨-, -, hbody⟩ := hello.lengths
  have h := @parseFrame_vector hello.body [] 4 3 [1] 1 1 rfl (by decide) rfl rfl (by omega)
  rwa [append_nil] at h

theorem parseTlsRecord_record (rest : List UInt8) :
    parseTlsRecord (hello.record ++ rest) = .ok hello.handshake := by
  rw [Fields.record, append_assoc]
  exact parseFrame_vector rfl (by decide) rfl rfl hello.one_record

theorem parseTlsRecord_take {n : ℕ} (h : n < hello.record.length) :
    parseTlsRecord (hello.record.take n) = .error .missing := by
  rcases n with _ | _ | _ | _ | _ | n
  any_goals rfl
  have hbe := @parseFrame_be (hello.handshake.take n) 5 2 [22, hello.version.1, hello.version.2] _
    22 3 rfl (by decide) rfl rfl hello.one_record
  refine hbe.trans (if_neg ?_)
  simp [Fields.record, vector] at h ⊢
  omega

end ClientHello

/-- **The server name of a ClientHello is found**, whatever follows the record, and nothing in a
part of the record; no input makes the parser panic, and what it finds is a part of the input. -/
theorem extract_server_name (hello : ClientHello) (rest payload : List UInt8) :
    extractServerName (hello.record ++ rest) = .ok hello.host
      ∧ (∀ bytes, bytes <+: hello.record → bytes ≠ hello.record →
        extractServerName bytes = .error .missing)
      ∧ extractServerName payload ≠ .error .panic
      ∧ ∀ name, extractServerName payload = .ok name → text name <:+: payload := by
  have hwithin := within_extractServerName payload
  refine ⟨?_, fun bytes hbytes hne => ?_, fun h => ?_, fun name h => ?_⟩
  · rw [extractServerName, hello.parseTlsRecord_record]
    show (parseClientHello hello.handshake).bind _ = _
    rw [hello.parseClientHello_handshake]
    exact hello.parseServerNameExtension_body
  · have hshort : bytes.length < hello.record.length :=
      lt_of_le_of_ne hbytes.length_le fun h => hne (hbytes.eq_of_length h)
    rw [prefix_iff_eq_take.mp hbytes, extractServerName, hello.parseTlsRecord_take hshort]
    rfl
  · exact nomatch (h ▸ hwithin : Within payload text (.error .panic))
  · exact (h ▸ hwithin : Within payload text (.ok name))

end NantianGateway.Sni
