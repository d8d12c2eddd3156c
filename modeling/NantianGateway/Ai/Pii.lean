import Mathlib.Data.List.Sort
import NantianGateway.Lib.Spans
import NantianGateway.Lib.Text

/-!
# Masking personal data

`PIIMasker`: the matches of all patterns are sorted by where they start, the longer one first, and
`dedup_by` drops each match that starts before the end of the last one kept.  What a dropped match
covers beyond that end is copied.

The matches that are kept are the choice from left to right among the detected spans, so what is
masked can be read off from the spans alone (`Spans.reach`).
-/

namespace NantianGateway.Ai

open Text List

/-! ## Matches -/

inductive PIIEntityType where
  | email
  | phone
  | personName
  | creditCard
  | ssn
  | idCard
  | address
  | url
  | ipAddress
  deriving DecidableEq

def PIIEntityType.asStr : PIIEntityType → String
  | email => "email"
  | phone => "phone"
  | personName => "person"
  | creditCard => "credit_card"
  | ssn => "ssn"
  | idCard => "id_card"
  | address => "address"
  | url => "url"
  | ipAddress => "ip_address"

structure PIIMatch where
  entityType : PIIEntityType
  start : ℕ
  stop : ℕ
  text : String
  deriving DecidableEq

inductive PIIMode where
  | mask
  | redact
  | anonymize
  deriving DecidableEq

/-- The crate of regular expressions: the matches of a pattern in a text, by byte positions.  A
match lies between characters. -/
structure RegexCrate where
  findIter : String → String → List (ℕ × ℕ)
  boundary : ∀ pattern text, ∀ found ∈ findIter pattern text,
    (slice text found.1 found.2).isSome = true

structure PIIMasker where
  patterns : List (PIIEntityType × String)
  mode : PIIMode
  enabled : Bool := true

namespace PIIMasker

variable (rx : RegexCrate) (masker : PIIMasker) (text : String)

/-- All matches, by start, the longer one first; the sort is stable. -/
def detect : List PIIMatch :=
  (masker.patterns.flatMap fun pattern =>
    (rx.findIter pattern.2 text).map fun found =>
      (⟨pattern.1, found.1, found.2, (slice text found.1 found.2).getD ""⟩ :
        PIIMatch)).insertionSort
    fun a b => a.start < b.start ∨ (a.start = b.start ∧ b.stop ≤ a.stop)

def replacement (m : PIIMatch) : String :=
  match masker.mode with
  | .mask => "[" ++ m.entityType.asStr ++ "]"
  | .redact => "[REDACTED]"
  | .anonymize => "<" ++ m.entityType.asStr ++ ">"

def maskLoop (lastEnd : ℕ) : List PIIMatch → Option (String × List (String × String))
  | [] => (slice text lastEnd (len text)).map fun tail => (tail, [])
  | m :: rest =>
    (slice text lastEnd m.start).bind fun head =>
      (maskLoop m.stop rest).map fun out =>
        (head ++ masker.replacement m ++ out.1, (m.text, masker.replacement m) :: out.2)

def kept : List PIIMatch :=
  Spans.dedupBy (fun m last => decide (m.start < last.stop)) (masker.detect rx text)

def mask : Option (String × ℕ × List (String × String)) :=
  if masker.enabled = false then some (text, 0, [])
  else if masker.detect rx text = [] then some (text, 0, [])
  else
    (masker.maskLoop text 0 (masker.kept rx text)).map fun out =>
      (out.1, (masker.kept rx text).length, out.2)

/-! ## What is copied -/

def replaced : List PIIMatch := if masker.enabled then masker.kept rx text else []

def copied : List (ℕ × ℕ) :=
  Spans.gaps PIIMatch.start PIIMatch.stop 0 (len text) (masker.replaced rx text)

end PIIMasker

def interleave : List String → List String → String
  | [], _ => ""
  | piece :: _, [] => piece
  | piece :: pieces, replacement :: replacements =>
    piece ++ replacement ++ interleave pieces replacements

def PIIMatch.covers (p : ℕ) (m : PIIMatch) : Bool := Spans.covers PIIMatch.start PIIMatch.stop p m

section

variable {rx : RegexCrate} {masker : PIIMasker} {text : String}

theorem slice_of_mem_detect {m : PIIMatch} (h : m ∈ masker.detect rx text) :
    (slice text m.start m.stop).isSome = true := by
  rw [PIIMasker.detect, (perm_insertionSort _ _).mem_iff] at h
  obtain ⟨pattern, -, hm⟩ := mem_flatMap.mp h
  obtain ⟨found, hfound, rfl⟩ := mem_map.mp hm
  exact rx.boundary pattern.2 text found hfound

theorem mem_detect_of_mem_kept {m : PIIMatch} (h : m ∈ masker.kept rx text) :
    m ∈ masker.detect rx text :=
  (Spans.dedupBy_sublist _ _).subset h

theorem le_len_of_boundary {n : ℕ} (h : Boundary text n) : n ≤ len text := by
  obtain ⟨u, v, hs, rfl⟩ := h
  rw [len, hs, byteLen_append]
  omega

theorem span_of_mem_detect {m : PIIMatch} (h : m ∈ masker.detect rx text) :
    m.start ≤ m.stop ∧ m.stop ≤ len text := by
  obtain ⟨hle, -, hstop⟩ := slice_isSome_iff.mp (slice_of_mem_detect h)
  exact ⟨hle, le_len_of_boundary hstop⟩

theorem separated_kept :
    Spans.Separated PIIMatch.start PIIMatch.stop 0 (len text) (masker.kept rx text) :=
  Spans.separated_dedupBy fun _ hm => span_of_mem_detect hm

/-- **The loop does not panic**, and it puts out the gaps with the replacements between them. -/
theorem maskLoop_eq {l : List PIIMatch} {lastEnd : ℕ}
    (hsep : Spans.Separated PIIMatch.start PIIMatch.stop lastEnd (len text) l)
    (hlast : Boundary text lastEnd) (hl : ∀ m ∈ l, (slice text m.start m.stop).isSome = true) :
    ∃ pieces, (Spans.gaps PIIMatch.start PIIMatch.stop lastEnd (len text) l).map
        (fun range => slice text range.1 range.2) = pieces.map some ∧
      masker.maskLoop text lastEnd l = some (interleave pieces (l.map masker.replacement),
            l.map fun m => (m.text, masker.replacement m)) := by
  induction l generalizing lastEnd with
  | nil =>
    obtain ⟨tail, htail⟩ := Option.isSome_iff_exists.mp
      (slice_isSome_iff.mpr ⟨hsep, hlast, boundary_len text⟩)
    refine ⟨[tail], by simp [Spans.gaps, htail], ?_⟩
    rw [PIIMasker.maskLoop, htail]
    rfl
  | cons m l ih =>
    obtain ⟨hst, -, hrest⟩ := hsep
    obtain ⟨-, hbstart, hbstop⟩ := slice_isSome_iff.mp (hl m mem_cons_self)
    obtain ⟨head, hhead⟩ := Option.isSome_iff_exists.mp (slice_isSome_iff.mpr ⟨hst, hlast, hbstart⟩)
    obtain ⟨pieces, hpieces, hloop⟩ := ih hrest hbstop fun m' hm' => hl m' (mem_cons_of_mem _ hm')
    refine ⟨head :: pieces, by simp [Spans.gaps, hhead, hpieces], ?_⟩
    rw [PIIMasker.maskLoop, hhead, Option.bind_some, hloop, Option.map_some]
    rfl

theorem mask_eq (rx : RegexCrate) (masker : PIIMasker) (text : String) :
    ∃ out pieces, masker.mask rx text = some out ∧
      (masker.copied rx text).map (fun range => slice text range.1 range.2) = pieces.map some ∧
      out.1 = interleave pieces ((masker.replaced rx text).map masker.replacement) := by
  have hwhole : slice text 0 (len text) = some text := by
    simp [slice, cutBytes, cutBytes_eq_some_iff.mpr ⟨(append_nil text.toList).symm, rfl⟩, len]
  have hidle : masker.replaced rx text = [] → masker.mask rx text = some (text, 0, []) →
      ∃ out pieces, masker.mask rx text = some out ∧
        (masker.copied rx text).map (fun range => slice text range.1 range.2) = pieces.map some ∧
        out.1 = interleave pieces ((masker.replaced rx text).map masker.replacement) := by
    intro hnone hmask
    refine ⟨_, [text], hmask, ?_, ?_⟩
    · rw [PIIMasker.copied, hnone]
      simp [Spans.gaps, hwhole]
    · rw [hnone]
      rfl
  by_cases hon : masker.enabled = true
  · by_cases hnil : masker.detect rx text = []
    · refine hidle ?_ ?_
      · rw [PIIMasker.replaced, if_pos hon, PIIMasker.kept, hnil]
        rfl
      · rw [PIIMasker.mask, if_neg (by simp [hon]), if_pos hnil]
    · obtain ⟨pieces, hpieces, hloop⟩ := @maskLoop_eq masker text (masker.kept rx text) 0
        separated_kept (boundary_zero text) fun m hm =>
          slice_of_mem_detect (mem_detect_of_mem_kept hm)
      have hmask : masker.mask rx text
          = some (interleave pieces ((masker.kept rx text).map masker.replacement),
            (masker.kept rx text).length,
            (masker.kept rx text).map fun m => (m.text, masker.replacement m)) := by
        rw [PIIMasker.mask, if_neg (by simp [hon]), if_neg hnil, hloop, Option.map_some]
      refine ⟨_, pieces, hmask, ?_, ?_⟩
      · rw [PIIMasker.copied, PIIMasker.replaced, if_pos hon]
        exact hpieces
      · rw [PIIMasker.replaced, if_pos hon]
  · rw [Bool.not_eq_true] at hon
    refine hidle ?_ ?_
    · rw [PIIMasker.replaced, hon]
      rfl
    · rw [PIIMasker.mask, if_pos hon]

/-- **The positions that are copied** are those that no replaced match covers. -/
theorem positions_copied (rx : RegexCrate) (masker : PIIMasker) (text : String) :
    Spans.positions (masker.copied rx text) = (List.range (len text)).filter fun p =>
          !(masker.replaced rx text).any (PIIMatch.covers p) := by
  have hsep : Spans.Separated PIIMatch.start PIIMatch.stop 0 (len text)
      (masker.replaced rx text) := by
    rw [PIIMasker.replaced]
    split
    · exact separated_kept
    · exact Nat.zero_le _
  rw [PIIMasker.copied, Spans.positions_gaps hsep, range_eq_range', Nat.sub_zero]
  rfl

theorem sorted_detect (rx : RegexCrate) (masker : PIIMasker) (text : String) :
    (masker.detect rx text).Pairwise fun a b =>
      a.start < b.start ∨ (a.start = b.start ∧ b.stop ≤ a.stop) := by
  have : IsTrans PIIMatch fun a b => a.start < b.start ∨ (a.start = b.start ∧ b.stop ≤ a.stop) :=
    ⟨fun a b c hab hbc => by omega⟩
  have : Std.Total fun a b : PIIMatch =>
      a.start < b.start ∨ (a.start = b.start ∧ b.stop ≤ a.stop) := ⟨fun a b => by omega⟩
  exact pairwise_insertionSort _ _

variable (rx masker text) in
/-- Nothing panics, and what is copied into the output is what lies outside of all detected
spans, in order. -/
def MasksAll : Prop :=
  (∃ out pieces, masker.mask rx text = some out ∧
      (masker.copied rx text).map (fun range => slice text range.1 range.2) = pieces.map some ∧
      out.1 = interleave pieces ((masker.replaced rx text).map masker.replacement)) ∧
    Spans.positions (masker.copied rx text) = (List.range (len text)).filter fun p =>
      !(masker.detect rx text).any (PIIMatch.covers p)

variable (rx masker text) in
/-- The choice from left to right among the detected spans reaches beyond a position. -/
def Reached (p : ℕ) : Prop :=
  p < Spans.reach PIIMatch.start PIIMatch.stop (masker.detect rx text) (p + 1)

theorem any_covers_replaced {p : ℕ} :
    (masker.replaced rx text).any (PIIMatch.covers p) = true ↔
      masker.enabled = true ∧ Reached rx masker text p := by
  rw [PIIMasker.replaced]
  split
  · next hon =>
    rw [and_iff_right hon]
    exact Spans.any_covers_dedupBy (fun m hm => span_of_mem_detect hm)
      (sorted_detect rx masker text) p
  · next hoff => exact iff_of_false Bool.false_ne_true fun h => hoff h.1

theorem masksAll_iff : MasksAll rx masker text ↔
      ∀ m ∈ masker.detect rx text, ∀ p, m.covers p = true →
        masker.enabled = true ∧ Reached rx masker text p := by
  rw [MasksAll, and_iff_right (mask_eq rx masker text), positions_copied]
  constructor
  · intro hsame m hm p hp
    have hlt : p < len text := by
      have hspan := span_of_mem_detect hm
      simp only [PIIMatch.covers, Spans.covers, Bool.and_eq_true, decide_eq_true_eq] at hp
      omega
    have hdetected : (masker.detect rx text).any (PIIMatch.covers p) = true :=
      any_eq_true.mpr ⟨m, hm, hp⟩
    have hout : p ∉ (List.range (len text)).filter fun p =>
        !(masker.replaced rx text).any (PIIMatch.covers p) := by
      rw [hsame]
      simp [hdetected]
    exact any_covers_replaced.mp (by simpa [hlt] using hout)
  · intro hcover
    refine filter_congr fun p _ => congrArg (!·) ?_
    rw [Bool.eq_iff_iff]
    constructor
    · intro hreplaced
      obtain ⟨m, hm, hp⟩ := any_eq_true.mp hreplaced
      rw [PIIMasker.replaced] at hm
      split at hm
      · exact any_eq_true.mpr ⟨m, mem_detect_of_mem_kept hm, hp⟩
      · cases hm
    · intro hdetected
      obtain ⟨m, hm, hp⟩ := any_eq_true.mp hdetected
      exact any_covers_replaced.mpr (hcover m hm p hp)

end

/-- **Masking covers what was found exactly if the masker is enabled and the choice from left to
right reaches every position of every detected span**, as it does if every two of them are apart or
one is inside the other. -/
theorem piiMask_covers_iff (rx : RegexCrate) (masker : PIIMasker) (text : String) :
    (MasksAll rx masker text ↔
      ∀ m ∈ masker.detect rx text, ∀ p, m.covers p = true →
        masker.enabled = true ∧ Reached rx masker text p) ∧
    (masker.enabled = true → (∀ m ∈ masker.detect rx text, ∀ m' ∈ masker.detect rx text,
        m.start ≤ m'.start → m.stop ≤ m'.start ∨ m'.stop ≤ m.stop) →
      MasksAll rx masker text) := by
  refine ⟨masksAll_iff, fun hon hnested => masksAll_iff.mpr fun m hm p hp => ⟨hon, ?_⟩⟩
  simp only [PIIMatch.covers, Spans.covers, Bool.and_eq_true, decide_eq_true_eq] at hp
  exact Spans.lt_reach_of_nested hnested hm hp

def overlappingText : String := "123-45-13812345678"

def overlappingPatterns : List (PIIEntityType × String) :=
  [(.phone, "(\\+?86)?1[3-9]\\d\x7b9\x7d"), (.ssn, "\\d\x7b3\x7d-\\d\x7b2\x7d-\\d\x7b4\x7d")]

def overlappingCrate : RegexCrate where
  findIter pattern text :=
    if text = overlappingText then
      if pattern = "(\\+?86)?1[3-9]\\d\x7b9\x7d" then [(7, 18)]
      else if pattern = "\\d\x7b3\x7d-\\d\x7b2\x7d-\\d\x7b4\x7d" then [(0, 11)]
      else []
    else []
  boundary := by
    intro pattern text found hfound
    split at hfound
    · next htext =>
      subst htext
      split at hfound
      · obtain rfl := List.mem_singleton.mp hfound
        decide +kernel
      · split at hfound
        · obtain rfl := List.mem_singleton.mp hfound
          decide +kernel
        · cases hfound
    · cases hfound

/-- **The end of the phone number is copied**: the match of the phone number starts inside the match
that is kept, and is dropped. -/
theorem piiMask_leaks_overlap :
    (PIIMasker.detect overlappingCrate ⟨overlappingPatterns, .mask, true⟩ overlappingText).map
        (fun m => (m.entityType, m.start, m.stop)) = [(.ssn, 0, 11), (.phone, 7, 18)] ∧
    PIIMasker.mask overlappingCrate ⟨overlappingPatterns, .mask, true⟩ overlappingText
      = some ("[ssn]2345678", 1, [("123-45-1381", "[ssn]")]) ∧
    (PIIMasker.copied overlappingCrate ⟨overlappingPatterns, .mask, true⟩ overlappingText)
      = [(0, 0), (11, 18)] := by
  decide +kernel

end NantianGateway.Ai
