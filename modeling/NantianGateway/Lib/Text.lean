import Mathlib.Data.List.DropRight
import Mathlib.Data.List.Infix
import Mathlib.Data.Nat.Digits.Defs
import Mathlib.Data.String.Basic

/-!
# Byte-string operations of the standard library

The operations on `str` that a routing program uses.  Every one of them cuts at ASCII characters
only, so working on the list of characters and on the UTF-8 bytes are the same thing; the
definitions take the list.  `slice` is by byte positions, and panics inside a character.
-/

namespace NantianGateway.Text

open String List Option

/-! ## Cutting -/

def cutFirst (c : Char) : List Char → Option (List Char × List Char)
  | [] => none
  | a :: l => if a = c then some ([], l) else (cutFirst c l).map fun p => (a :: p.1, p.2)

def cutLast (c : Char) : List Char → Option (List Char × List Char)
  | [] => none
  | a :: l =>
    match cutLast c l with
    | some p => some (a :: p.1, p.2)
    | none => if a = c then some ([], l) else none

/-- The text before and after the first occurrence of a list of characters. -/
def cutAt (p : List Char) : List Char → Option (List Char × List Char)
  | [] => if p = [] then some ([], []) else none
  | a :: l =>
    if p.isPrefixOf (a :: l) then some ([], (a :: l).drop p.length)
    else (cutAt p l).map fun parts => (a :: parts.1, parts.2)

/-- `str::split_once`: the text before and after the first `c`. -/
def splitOnce (c : Char) (s : String) : Option (String × String) :=
  (cutFirst c s.toList).map fun p => (String.ofList p.1, String.ofList p.2)

variable (p s : String)

/-- `str::split_once` at a longer pattern. -/
def splitOnceText : Option (String × String) :=
  (cutAt p.toList s.toList).map fun parts => (String.ofList parts.1, String.ofList parts.2)

/-- `str::rsplit_once`: the text before and after the last `c`. -/
def rsplitOnce (c : Char) (s : String) : Option (String × String) :=
  (cutLast c s.toList).map fun p => (String.ofList p.1, String.ofList p.2)

/-- `str::strip_prefix`. -/
def stripFront : Option String :=
  if p.toList.isPrefixOf s.toList then some (String.ofList (s.toList.drop p.toList.length))
  else none

/-- `str::strip_suffix`. -/
def stripBack : Option String :=
  if p.toList.isSuffixOf s.toList then
    some (String.ofList (s.toList.take (s.toList.length - p.toList.length)))
  else none

def contains (s p : String) : Bool := decide (p.toList <:+: s.toList)

def startsWith (s p : String) : Bool := p.toList.isPrefixOf s.toList

def endsWith (s p : String) : Bool := p.toList.isSuffixOf s.toList

/-- `str::ends_with` at one character. -/
def endsWithChar (s : String) (c : Char) : Bool := s.toList.getLast? == some c

def splitHead (c : Char) (s : String) : String := String.ofList (s.toList.takeWhile (· ≠ c))

variable {c d : Char} {l u v : List Char} {s : String} {n parsed : ℕ}

theorem cons_eq_append_cons_iff :
    d :: l = u ++ c :: v ↔ (u = [] ∧ d = c ∧ l = v) ∨ ∃ u', u = d :: u' ∧ l = u' ++ c :: v := by
  rw [cons_eq_append_iff, List.cons.injEq, @eq_comm _ c, @eq_comm _ v]

theorem cutFirst_eq_some_iff : cutFirst c l = some (u, v) ↔ l = u ++ c :: v ∧ c ∉ u := by
  induction l generalizing u with
  | nil => simp [cutFirst]
  | cons a l ih =>
    rw [cutFirst, cons_eq_append_cons_iff]
    by_cases hac : a = c
    · rw [if_pos hac]
      constructor
      · intro h
        obtain ⟨rfl, rfl⟩ := Prod.mk.inj (Option.some.inj h)
        exact ⟨.inl ⟨rfl, hac, rfl⟩, not_mem_nil⟩
      · rintro ⟨⟨rfl, -, rfl⟩ | ⟨u', rfl, -⟩, hu⟩
        · rfl
        · exact absurd (hac ▸ mem_cons_self) hu
    · rw [if_neg hac, map_eq_some_iff]
      constructor
      · rintro ⟨⟨u', v'⟩, h, he⟩
        obtain ⟨rfl, rfl⟩ := Prod.mk.inj he
        obtain ⟨hl, hu⟩ := ih.mp h
        exact ⟨.inr ⟨u', rfl, hl⟩, not_mem_cons_of_ne_of_not_mem (Ne.symm hac) hu⟩
      · rintro ⟨⟨-, h, -⟩ | ⟨u', rfl, hl⟩, hu⟩
        · exact absurd h hac
        · exact ⟨(u', v), ih.mpr ⟨hl, not_mem_of_not_mem_cons hu⟩, rfl⟩

theorem cutFirst_eq_none_iff : cutFirst c l = none ↔ c ∉ l := by
  induction l with
  | nil => simp [cutFirst]
  | cons a l ih =>
    rw [cutFirst]
    by_cases hac : a = c
    · simp [hac]
    · rw [if_neg hac, map_eq_none_iff, ih, mem_cons, not_or]
      exact ⟨fun h => ⟨fun e => hac e.symm, h⟩, fun h => h.2⟩

theorem cutLast_eq_none_iff : cutLast c l = none ↔ c ∉ l := by
  induction l with
  | nil => simp [cutLast]
  | cons a l ih =>
    rw [cutLast]
    cases h : cutLast c l with
    | some p =>
      have hmem : c ∈ l := by
        by_contra hc
        rw [ih.mpr hc] at h
        cases h
      simp [hmem]
    | none =>
      have hmem := ih.mp h
      by_cases hac : a = c
      · simp [hac]
      · simp [hac, hmem, Ne.symm hac]

theorem cutLast_eq_some_iff : cutLast c l = some (u, v) ↔ l = u ++ c :: v ∧ c ∉ v := by
  induction l generalizing u with
  | nil => simp [cutLast]
  | cons a l ih =>
    rw [cutLast, cons_eq_append_cons_iff]
    cases h : cutLast c l with
    | some p =>
      have hmem : c ∈ l := by
        by_contra hc
        rw [cutLast_eq_none_iff.mpr hc] at h
        cases h
      rw [h] at ih
      constructor
      · intro he
        obtain ⟨rfl, rfl⟩ := Prod.mk.inj (Option.some.inj he)
        obtain ⟨hl, hv⟩ := ih.mp rfl
        exact ⟨.inr ⟨p.1, rfl, hl⟩, hv⟩
      · rintro ⟨⟨-, -, rfl⟩ | ⟨u', rfl, hl⟩, hv⟩
        · exact absurd hmem hv
        · rw [Option.some.inj (ih.mpr ⟨hl, hv⟩)]
    | none =>
      have hmem := cutLast_eq_none_iff.mp h
      simp only
      constructor
      · intro he
        split at he
        · next hac =>
          obtain ⟨rfl, rfl⟩ := Prod.mk.inj (Option.some.inj he)
          exact ⟨.inl ⟨rfl, hac, rfl⟩, hmem⟩
        · cases he
      · rintro ⟨⟨rfl, hac, rfl⟩ | ⟨u', rfl, rfl⟩, -⟩
        · rw [if_pos hac]
        · exact absurd (mem_append_right _ mem_cons_self) hmem

theorem map_ofList_eq_some_iff {o : Option (List Char × List Char)} {u v : String} :
    (o.map fun p => (String.ofList p.1, String.ofList p.2)) = some (u, v) ↔
      o = some (u.toList, v.toList) := by
  rw [map_eq_some_iff]
  constructor
  · rintro ⟨⟨x, y⟩, h, he⟩
    obtain ⟨rfl, rfl⟩ := Prod.mk.inj he
    simpa only [toList_ofList] using h
  · intro h
    exact ⟨_, h, by simp only [ofList_toList]⟩

theorem splitOnce_eq_some_iff {u v : String} :
    splitOnce c s = some (u, v) ↔ s.toList = u.toList ++ c :: v.toList ∧ c ∉ u.toList := by
  rw [splitOnce, map_ofList_eq_some_iff, cutFirst_eq_some_iff]

theorem rsplitOnce_eq_some_iff {u v : String} :
    rsplitOnce c s = some (u, v) ↔ s.toList = u.toList ++ c :: v.toList ∧ c ∉ v.toList := by
  rw [rsplitOnce, map_ofList_eq_some_iff, cutLast_eq_some_iff]

theorem stripFront_eq_some_iff {p t : String} :
    stripFront p s = some t ↔ s.toList = p.toList ++ t.toList := by
  rw [stripFront]
  by_cases h : p.toList.isPrefixOf s.toList = true
  · rw [if_pos h]
    obtain ⟨r, hr⟩ := isPrefixOf_iff_prefix.mp h
    rw [← hr, drop_left]
    constructor
    · intro he
      rw [← Option.some.inj he, toList_ofList]
    · intro he
      rw [append_cancel_left he, ofList_toList]
  · rw [if_neg h]
    constructor
    · intro he
      cases he
    · intro he
      refine absurd ?_ h
      exact isPrefixOf_iff_prefix.mpr ⟨t.toList, he.symm⟩

theorem stripBack_eq_some_iff {p t : String} :
    stripBack p s = some t ↔ s.toList = t.toList ++ p.toList := by
  rw [stripBack, ite_eq_iff, isSuffixOf_iff_suffix]
  constructor
  · rintro (⟨⟨r, hr⟩, h⟩ | ⟨-, h⟩)
    · rw [← Option.some.inj h, toList_ofList, ← hr]
      simp
    · cases h
  · intro h
    refine .inl ⟨⟨t.toList, h.symm⟩, ?_⟩
    rw [h]
    simp

/-! ## Byte length -/

def byteLen (l : List Char) : ℕ := (l.map Char.utf8Size).sum

@[simp] theorem byteLen_cons (c : Char) (l : List Char) :
    byteLen (c :: l) = c.utf8Size + byteLen l := by
  rw [byteLen, map_cons, sum_cons, byteLen]

@[simp] theorem byteLen_append (l m : List Char) : byteLen (l ++ m) = byteLen l + byteLen m := by
  rw [byteLen, map_append, sum_append, byteLen, byteLen]

def len (s : String) : ℕ := byteLen s.toList

theorem beginning_of_byteLen_le (hu : u <+: l) (hv : v <+: l) (hle : byteLen u ≤ byteLen v) :
    u <+: v := by
  rcases prefix_or_prefix_of_prefix hu hv with h | ⟨w, rfl⟩
  · exact h
  · cases w with
    | nil => simp
    | cons c w =>
      have hpos := c.utf8Size_pos
      rw [byteLen_append, byteLen_cons] at hle
      omega

/-- Cut after a number of bytes, unless that cuts through a character. -/
def cutBytes : ℕ → List Char → Option (List Char × List Char)
  | 0, l => some ([], l)
  | _ + 1, [] => none
  | n + 1, c :: l =>
    if c.utf8Size ≤ n + 1 then
      (cutBytes (n + 1 - c.utf8Size) l).map fun parts => (c :: parts.1, parts.2)
    else none

theorem cutBytes_eq_some_iff : cutBytes n l = some (u, v) ↔ l = u ++ v ∧ byteLen u = n := by
  have hzero {l u : List Char} : cutBytes 0 l = some (u, v) ↔ l = u ++ v ∧ byteLen u = 0 := by
    simp only [cutBytes, Option.some.injEq, Prod.mk.injEq]
    constructor
    · rintro ⟨rfl, rfl⟩
      exact ⟨rfl, rfl⟩
    · rintro ⟨hl, hu⟩
      cases u with
      | nil => exact ⟨rfl, hl⟩
      | cons d u =>
        have hpos := d.utf8Size_pos
        rw [byteLen_cons] at hu
        omega
  induction l generalizing n u with
  | nil =>
    cases n with
    | zero => exact hzero
    | succ n =>
      simp only [cutBytes, nil_eq, append_eq_nil_iff, reduceCtorEq, false_iff, not_and]
      rintro ⟨rfl, -⟩ h
      cases h
  | cons c l ih =>
    have hpos := c.utf8Size_pos
    cases n with
    | zero => exact hzero
    | succ n =>
      rw [cutBytes]
      constructor
      · intro h
        split at h
        next hle =>
          obtain ⟨⟨u', v'⟩, hcut, hparts⟩ := map_eq_some_iff.mp h
          obtain ⟨rfl, rfl⟩ := Prod.mk.inj hparts
          obtain ⟨rfl, hu⟩ := ih.mp hcut
          refine ⟨rfl, ?_⟩
          rw [byteLen_cons, hu]
          omega
        next => cases h
      · rintro ⟨hl, hu⟩
        cases u with
        | nil => cases hu
        | cons d u =>
          rw [cons_append, List.cons.injEq] at hl
          obtain ⟨rfl, hl⟩ := hl
          rw [byteLen_cons] at hu
          rw [if_pos (by omega), ih.mpr ⟨hl, (by omega : byteLen u = n + 1 - c.utf8Size)⟩, map_some]

/-- `&s[a..b]`, where indexing does not panic. -/
def slice (s : String) (a b : ℕ) : Option String :=
  if b < a then none
  else
    (cutBytes a s.toList).bind fun front =>
      (cutBytes (b - a) front.2).map fun middle => String.ofList middle.1

/-- A position between two characters, or at an end. -/
def Boundary (s : String) (n : ℕ) : Prop := ∃ u v, s.toList = u ++ v ∧ byteLen u = n

theorem boundary_zero (s : String) : Boundary s 0 := ⟨[], s.toList, rfl, rfl⟩

theorem boundary_len (s : String) : Boundary s (len s) := ⟨s.toList, [], by simp, rfl⟩

theorem slice_isSome_iff {a b : ℕ} :
    (slice s a b).isSome = true ↔ a ≤ b ∧ Boundary s a ∧ Boundary s b := by
  rw [slice, isSome_iff_exists]
  constructor
  · rintro ⟨t, ht⟩
    split at ht
    · cases ht
    next hle =>
      obtain ⟨⟨u, v⟩, hfront, hmiddle⟩ := bind_eq_some_iff.mp ht
      obtain ⟨⟨w, r⟩, hmiddle, -⟩ := map_eq_some_iff.mp hmiddle
      obtain ⟨hs, hu⟩ := cutBytes_eq_some_iff.mp hfront
      obtain ⟨hv, hw⟩ := cutBytes_eq_some_iff.mp hmiddle
      rw [not_lt] at hle
      simp only at hv
      refine ⟨hle, ⟨u, v, hs, hu⟩, ⟨u ++ w, r, by rw [hs, hv, List.append_assoc], ?_⟩⟩
      rw [byteLen_append, hu, hw]
      omega
  · rintro ⟨hle, ⟨u, v, hs, hu⟩, ⟨u', v', hs', hu'⟩⟩
    rw [if_neg (not_lt.mpr hle)]
    obtain ⟨w, rfl⟩ : u <+: u' :=
      beginning_of_byteLen_le ⟨v, hs.symm⟩ ⟨v', hs'.symm⟩ (by rw [hu, hu']; exact hle)
    have hv : v = w ++ v' := by
      rw [hs, List.append_assoc] at hs'
      exact append_cancel_left hs'
    have hw : byteLen w = b - a := by
      rw [byteLen_append] at hu'
      omega
    refine ⟨String.ofList w, ?_⟩
    rw [cutBytes_eq_some_iff.mpr ⟨hs, hu⟩, bind_some, cutBytes_eq_some_iff.mpr ⟨hv, hw⟩, map_some]

/-! ## White space -/

/-- The characters with the Unicode property `White_Space`. -/
def isWhiteSpace (c : Char) : Bool :=
  (9 ≤ c.toNat && c.toNat ≤ 13) || c.toNat == 0x20 || c.toNat == 0x85 || c.toNat == 0xA0
    || c.toNat == 0x1680 || (0x2000 ≤ c.toNat && c.toNat ≤ 0x200A) || c.toNat == 0x2028
    || c.toNat == 0x2029 || c.toNat == 0x202F || c.toNat == 0x205F || c.toNat == 0x3000

def trim (s : String) : String :=
  String.ofList ((s.toList.dropWhile isWhiteSpace).rdropWhile isWhiteSpace)

/-- `str::trim_end_matches` at one character. -/
def trimEndMatches (c : Char) (s : String) : String := String.ofList (s.toList.rdropWhile (· = c))

@[simp] theorem trim_trim (s : String) : trim (trim s) = trim s := by
  rw [trim, trim, toList_ofList]
  refine congrArg String.ofList ?_
  generalize s.toList = l
  -- what is left after trimming on the right begins where the trimmed text begins
  have hleft : ((l.dropWhile isWhiteSpace).rdropWhile isWhiteSpace).dropWhile isWhiteSpace
      = (l.dropWhile isWhiteSpace).rdropWhile isWhiteSpace := by
    rw [dropWhile_eq_self_iff]
    intro hlen
    obtain ⟨r, hr⟩ := rdropWhile_prefix isWhiteSpace (l.dropWhile isWhiteSpace)
    have hlen' : 0 < (l.dropWhile isWhiteSpace).length := by
      rw [← hr, List.length_append]
      omega
    have hhead : (l.dropWhile isWhiteSpace)[0]?
        = ((l.dropWhile isWhiteSpace).rdropWhile isWhiteSpace)[0]? := by
      conv_lhs => rw [← hr]
      exact List.getElem?_append_left hlen
    rw [List.getElem?_eq_getElem hlen', List.getElem?_eq_getElem hlen, Option.some.injEq] at hhead
    rw [← hhead]
    exact dropWhile_get_zero_not isWhiteSpace l hlen'
  rw [hleft, rdropWhile_idempotent]

/-- The words of a text that begins with the open word `carry`. -/
def wordsFrom (carry : List Char) : List Char → List (List Char)
  | [] => if carry = [] then [] else [carry]
  | c :: l =>
    if isWhiteSpace c then if carry = [] then wordsFrom [] l else carry :: wordsFrom [] l
    else wordsFrom (carry ++ [c]) l

def splitWhitespace (s : String) : List String := (wordsFrom [] s.toList).map String.ofList

theorem white_of_wordsFrom_eq_nil (h : wordsFrom [] l = []) :
    ∀ c ∈ l, isWhiteSpace c = true := by
  -- an open word is never lost
  have hopen (l carry : List Char) (hcarry : carry ≠ []) : wordsFrom carry l ≠ [] := by
    induction l generalizing carry with
    | nil => rw [wordsFrom, if_neg hcarry]; exact cons_ne_nil _ _
    | cons c l ih =>
      rw [wordsFrom]
      split
      · exact cons_ne_nil _ _
      · exact ih _ (append_ne_nil_of_right_ne_nil _ (cons_ne_nil _ _))
  induction l with
  | nil => exact fun c hc => absurd hc not_mem_nil
  | cons c l ih =>
    rw [wordsFrom] at h
    split at h
    next hc =>
      rw [if_pos rfl] at h
      exact forall_mem_cons.mpr ⟨hc, ih h⟩
    next => exact absurd h (hopen l _ (cons_ne_nil _ _))

/-- **The first word of a text.**  Before it there is nothing but white space, and after it the
text ends or goes on with white space and the other words. -/
theorem exists_of_wordsFrom_eq_cons {carry w : List Char} {ws : List (List Char)}
    (h : wordsFrom carry l = w :: ws) :
    ∃ before after, carry ++ l = before ++ w ++ after ∧ (∀ c ∈ before, isWhiteSpace c = true) ∧
      (after = [] ∧ ws = [] ∨
        ∃ d rest, after = d :: rest ∧ isWhiteSpace d = true ∧ wordsFrom [] rest = ws) := by
  induction l generalizing carry with
  | nil =>
    rw [wordsFrom] at h
    split at h
    next => exact absurd h (cons_ne_nil _ _).symm
    next =>
      obtain ⟨rfl, rfl⟩ := List.cons.inj h
      exact ⟨[], [], by simp, by simp, .inl ⟨rfl, rfl⟩⟩
  | cons c l ih =>
    rw [wordsFrom] at h
    split at h
    next hc =>
      split at h
      next hcarry =>
        obtain ⟨before, after, htext, hbefore, hafter⟩ := ih h
        refine ⟨c :: before, after, ?_, forall_mem_cons.mpr ⟨hc, hbefore⟩, hafter⟩
        rw [hcarry, nil_append] at *
        rw [htext]
        rfl
      next =>
        obtain ⟨rfl, rfl⟩ := List.cons.inj h
        exact ⟨[], c :: l, rfl, by simp, .inr ⟨c, l, rfl, hc, rfl⟩⟩
    next =>
      obtain ⟨before, after, htext, hrest⟩ := ih h
      exact ⟨before, after, by rw [← htext, List.append_assoc]; rfl, hrest⟩

theorem exists_of_splitWhitespace_eq_pair {u v : String} (h : splitWhitespace s = [u, v]) :
    ∃ before between after, s.toList = before ++ u.toList ++ between ++ v.toList ++ after ∧
      between ≠ [] ∧ ∀ c ∈ before ++ between ++ after, isWhiteSpace c = true := by
  obtain ⟨first, others, hwords, rfl, hothers⟩ := map_eq_cons_iff.mp h
  obtain ⟨second, none, rfl, rfl, hnone⟩ := map_eq_cons_iff.mp hothers
  obtain rfl := map_eq_nil_iff.mp hnone
  obtain ⟨before, rest, htext, hbefore, hend | ⟨d, rest', rfl, hd, hrest⟩⟩ :=
    exists_of_wordsFrom_eq_cons hwords
  · exact absurd hend.2 (cons_ne_nil _ _)
  obtain ⟨gap, after, htext', hgap, hafter⟩ := exists_of_wordsFrom_eq_cons hrest
  have hwhite : ∀ c ∈ after, isWhiteSpace c = true := by
    rcases hafter with ⟨rfl, -⟩ | ⟨e, rest'', rfl, he, hlast⟩
    · simp
    · exact forall_mem_cons.mpr ⟨he, white_of_wordsFrom_eq_nil hlast⟩
  refine ⟨before, d :: gap, after, ?_, cons_ne_nil _ _, ?_⟩
  · rw [nil_append] at htext htext'
    rw [htext, htext', toList_ofList, toList_ofList]
    simp
  · simp only [forall_mem_append, forall_mem_cons]
    exact ⟨⟨hbefore, hd, hgap⟩, hwhite⟩

/-! ## ASCII case -/

/-- `str::to_ascii_lowercase`. -/
def asciiLower (s : String) : String := String.ofList (s.toList.map Char.toLower)

/-- `str::to_ascii_uppercase`. -/
def asciiUpper (s : String) : String := String.ofList (s.toList.map Char.toUpper)

def eqIgnoreAsciiCase (s t : String) : Bool := asciiLower s == asciiLower t

@[simp] theorem toList_asciiLower (s : String) :
    (asciiLower s).toList = s.toList.map Char.toLower := by
  rw [asciiLower, toList_ofList]

theorem toNat_toLower_of_capital (h1 : 65 ≤ c.toNat) (h2 : c.toNat ≤ 90) :
    c.toLower.toNat = c.toNat + 32 := by
  have h : c.val ≥ 'A'.val ∧ c.val ≤ 'Z'.val :=
    ⟨UInt32.le_iff_toNat_le.mpr h1, UInt32.le_iff_toNat_le.mpr h2⟩
  have hv : c.toLower.val = c.val + ('a'.val - 'A'.val) := congrArg Char.val (dif_pos h)
  have h3 : c.val.toNat ≤ 90 := h2
  have h4 : ('a'.val - 'A'.val).toNat = 32 := by decide
  show c.toLower.val.toNat = c.val.toNat + 32
  rw [hv, UInt32.toNat_add, h4]
  omega

theorem toLower_eq_self_or (c : Char) :
    c.toLower = c ∨ (65 ≤ c.toNat ∧ c.toNat ≤ 90 ∧ c.toLower.toNat = c.toNat + 32) := by
  by_cases h : c.val ≥ 'A'.val ∧ c.val ≤ 'Z'.val
  · have h1 : 65 ≤ c.toNat := UInt32.le_iff_toNat_le.mp h.1
    have h2 : c.toNat ≤ 90 := UInt32.le_iff_toNat_le.mp h.2
    exact Or.inr ⟨h1, h2, toNat_toLower_of_capital h1 h2⟩
  · exact Or.inl (dif_neg h)

theorem toLower_of_not_isUpper (h : c.isUpper = false) : c.toLower = c := by
  rcases toLower_eq_self_or c with hc | ⟨h1, h2, -⟩
  · exact hc
  · have hcapital : c.val ≥ 'A'.val ∧ c.val ≤ 'Z'.val :=
      ⟨UInt32.le_iff_toNat_le.mpr h1, UInt32.le_iff_toNat_le.mpr h2⟩
    have hup : c.isUpper = true := decide_eq_true hcapital
    rw [h] at hup
    cases hup

theorem asciiLower_eq_self (h : s.toList.any Char.isUpper = false) : asciiLower s = s := by
  rw [← toList_inj, toList_asciiLower]
  refine (map_congr_left fun c hc => toLower_of_not_isUpper ?_).trans (List.map_id _)
  exact Bool.eq_false_iff.mpr (List.any_eq_false.mp h c hc)

@[simp] theorem toLower_toLower (c : Char) : c.toLower.toLower = c.toLower := by
  rcases toLower_eq_self_or c with h | ⟨h1, h2, h3⟩
  · rw [h, h]
  · rcases toLower_eq_self_or c.toLower with h | ⟨h4, h5, -⟩
    · exact h
    · omega

@[simp] theorem asciiLower_asciiLower (s : String) : asciiLower (asciiLower s) = asciiLower s := by
  rw [← toList_inj, toList_asciiLower, toList_asciiLower, List.map_map]
  exact map_congr_left fun c _ => toLower_toLower c

theorem toLower_toUpper (c : Char) : c.toUpper.toLower = c.toLower := by
  by_cases h : c.val ≥ 'a'.val ∧ c.val ≤ 'z'.val
  · have h1 : 97 ≤ c.toNat := UInt32.le_iff_toNat_le.mp h.1
    have h2 : c.toNat ≤ 122 := UInt32.le_iff_toNat_le.mp h.2
    have hup : c.toUpper.toNat = c.toNat - 32 := by
      have hv : c.toUpper.val = c.val + ('A'.val - 'a'.val) := by
        delta Char.toUpper
        rw [dif_pos h]
      have h3 : 97 ≤ c.val.toNat ∧ c.val.toNat ≤ 122 := ⟨h1, h2⟩
      have h4 : ('A'.val - 'a'.val).toNat = 4294967264 := by decide
      show c.toUpper.val.toNat = c.val.toNat - 32
      rw [hv, UInt32.toNat_add, h4]
      omega
    have hlow : c.toLower = c := by
      rcases toLower_eq_self_or c with h5 | ⟨-, h5, -⟩
      · exact h5
      · omega
    have hback : c.toUpper.toLower.toNat = c.toNat := by
      rw [toNat_toLower_of_capital (by omega) (by omega)]
      omega
    rw [hlow]
    exact Char.toNat_inj.mp hback
  · have hup : c.toUpper = c := dif_neg h
    rw [hup]

@[simp] theorem asciiLower_asciiUpper (s : String) : asciiLower (asciiUpper s) = asciiLower s := by
  rw [← toList_inj, toList_asciiLower, toList_asciiLower, asciiUpper, toList_ofList, List.map_map]
  exact map_congr_left fun c _ => toLower_toUpper c

theorem utf8Size_toLower (c : Char) : c.toLower.utf8Size = c.utf8Size := by
  rcases toLower_eq_self_or c with h | ⟨h1, h2, h3⟩
  · rw [h]
  · have hc : c.utf8Size = 1 := Char.utf8Size_eq_one_iff.mpr
      (UInt32.le_iff_toNat_le.mpr (show c.toNat ≤ 127 by omega))
    have hl : c.toLower.utf8Size = 1 := Char.utf8Size_eq_one_iff.mpr
      (UInt32.le_iff_toNat_le.mpr (show c.toLower.toNat ≤ 127 by omega))
    rw [hc, hl]

@[simp] theorem byteLen_map_toLower (l : List Char) : byteLen (l.map Char.toLower) = byteLen l := by
  induction l with
  | nil => rfl
  | cons c l ih => rw [map_cons, byteLen_cons, byteLen_cons, ih, utf8Size_toLower]

theorem eqIgnoreAsciiCase_iff {t : String} :
    eqIgnoreAsciiCase s t = true ↔ asciiLower s = asciiLower t := by
  rw [eqIgnoreAsciiCase, beq_iff_eq]

/-! ## The tails after the dots -/

/-- The tails of a list after each of its dots, longest first:
`str::match_indices('.')` followed by the slice one past the match. -/
def dotSuffixes : List Char → List (List Char)
  | [] => []
  | c :: l => if c = '.' then l :: dotSuffixes l else dotSuffixes l

theorem mem_dotSuffixes_iff {t : List Char} : t ∈ dotSuffixes l ↔ ∃ u, l = u ++ '.' :: t := by
  induction l with
  | nil => simp [dotSuffixes]
  | cons c l ih =>
    simp only [cons_eq_append_cons_iff, exists_or, exists_and_right, exists_eq, true_and,
      @exists_comm (List Char), ← ih]
    rw [dotSuffixes]
    by_cases hc : c = '.'
    · rw [if_pos hc, mem_cons]
      simp [hc, eq_comm]
    · rw [if_neg hc]
      simp [hc]

/-- The last `n` bytes of a list, when the byte before them is a dot. -/
def afterDot (n : ℕ) : List Char → Option (List Char)
  | [] => none
  | c :: l => if byteLen l = n then (if c = '.' then some l else none) else afterDot n l

theorem afterDot_eq_some_iff {t : List Char} :
    afterDot n l = some t ↔ byteLen t = n ∧ ∃ u, l = u ++ '.' :: t := by
  induction l with
  | nil => simp [afterDot]
  | cons c l ih =>
    rw [afterDot]
    simp only [cons_eq_append_cons_iff, exists_or, exists_and_right, exists_eq, true_and,
      @exists_comm (List Char)]
    by_cases hn : byteLen l = n
    · -- the byte position is here: a later dot would leave fewer than `n` bytes
      rw [if_pos hn]
      constructor
      · intro h
        split at h
        · next hc =>
          obtain rfl := Option.some.inj h
          exact ⟨hn, .inl ⟨hc, rfl⟩⟩
        · cases h
      · rintro ⟨ht, ⟨hc, rfl⟩ | ⟨u, rfl⟩⟩
        · rw [if_pos hc]
        · rw [byteLen_append, byteLen_cons] at hn
          have := Char.utf8Size_pos '.'
          omega
    · rw [if_neg hn, ih]
      constructor
      · exact fun ⟨ht, hu⟩ => ⟨ht, .inr hu⟩
      · rintro ⟨ht, ⟨-, rfl⟩ | hu⟩
        · exact absurd ht hn
        · exact ⟨ht, hu⟩

/-! ## Decimal numerals -/

def pushDigit (parsed : ℕ) (c : Char) : Option ℕ :=
  if c.isDigit then
    if parsed * 10 < 2 ^ 32 then
      if parsed * 10 + (c.toNat - 48) < 2 ^ 32 then some (parsed * 10 + (c.toNat - 48)) else none
    else none
  else none

def readDigits (l : List Char) (parsed : ℕ) : Option ℕ := l.foldlM pushDigit parsed

/-- `str::parse::<u32>`: an optional plus sign and at least one digit. -/
def parseU32 (s : String) : Option UInt32 :=
  let digits := if s.toList.head? = some '+' then s.toList.tail else s.toList
  if digits = [] then none else (readDigits digits 0).map UInt32.ofNat

theorem pushDigit_eq_some_iff :
    pushDigit parsed c = some n ↔
      c.isDigit = true ∧ n = parsed * 10 + (c.toNat - 48) ∧ n < 2 ^ 32 := by
  rw [pushDigit]
  split_ifs with hc hm ha
  · rw [Option.some.injEq]
    exact ⟨fun h => ⟨hc, h.symm, h ▸ ha⟩, fun h => h.2.1.symm⟩
  · exact ⟨nofun, fun h => absurd (h.2.1 ▸ h.2.2) ha⟩
  · exact ⟨nofun, fun h => absurd h.2.2 (by omega)⟩
  · exact ⟨nofun, fun h => absurd h.1 hc⟩

theorem readDigits_eq_some (h : readDigits l parsed = some n) :
    (∀ c ∈ l, c.isDigit = true) ∧ n = Nat.ofDigitChars 10 l parsed ∧
      (parsed < 2 ^ 32 → n < 2 ^ 32) := by
  induction l generalizing parsed with
  | nil =>
    obtain rfl : parsed = n := Option.some.inj h
    exact ⟨fun c hc => absurd hc not_mem_nil, by rw [Nat.ofDigitChars_nil], id⟩
  | cons c l ih =>
    rw [readDigits, foldlM_cons] at h
    obtain ⟨m, hm, h'⟩ := bind_eq_some_iff.mp h
    obtain ⟨hc, rfl, hlt⟩ := pushDigit_eq_some_iff.mp hm
    obtain ⟨hd, hn, hb⟩ := ih h'
    refine ⟨forall_mem_cons.mpr ⟨hc, hd⟩, ?_, fun _ => hb hlt⟩
    rw [hn, Nat.ofDigitChars_cons, Nat.mul_comm 10]
    rfl

theorem readDigits_of_lt (hl : ∀ c ∈ l, c.isDigit = true)
    (h : Nat.ofDigitChars 10 l parsed < 2 ^ 32) :
    readDigits l parsed = some (Nat.ofDigitChars 10 l parsed) := by
  induction l generalizing parsed with
  | nil => rfl
  | cons c l ih =>
    have hstep : Nat.ofDigitChars 10 (c :: l) parsed
        = Nat.ofDigitChars 10 l (parsed * 10 + (c.toNat - 48)) := by
      rw [Nat.ofDigitChars_cons, Nat.mul_comm 10]
      rfl
    have hle : parsed * 10 + (c.toNat - 48) ≤ Nat.ofDigitChars 10 (c :: l) parsed := by
      rw [hstep, Nat.ofDigitChars_eq_ofDigitChars_zero]
      have hpos : 0 < 10 ^ l.length := Nat.pow_pos (by decide)
      exact Nat.le_trans (Nat.le_mul_of_pos_left _ hpos) (Nat.le_add_right _ _)
    have hpush : pushDigit parsed c = some (parsed * 10 + (c.toNat - 48)) :=
      pushDigit_eq_some_iff.mpr ⟨hl c mem_cons_self, rfl, Nat.lt_of_le_of_lt hle h⟩
    rw [readDigits, foldlM_cons, hpush, hstep]
    exact ih (fun d hd => hl d (mem_cons_of_mem _ hd)) (by rwa [hstep] at h)

theorem eq_of_ofDigitChars_eq {m : List Char} (hl : ∀ c ∈ l, c.isDigit = true)
    (hm : ∀ c ∈ m, c.isDigit = true) (hlen : l.length = m.length)
    (h : Nat.ofDigitChars 10 l 0 = Nat.ofDigitChars 10 m 0) : l = m := by
  induction l using List.reverseRecOn generalizing m with
  | nil => exact (List.length_eq_zero_iff.mp hlen.symm).symm
  | append_singleton l c ih =>
    rcases eq_nil_or_concat m with rfl | ⟨m, d, rfl⟩
    · simp at hlen
    · rw [concat_eq_append] at *
      rw [Nat.ofDigitChars_append, Nat.ofDigitChars_append, Nat.ofDigitChars_cons,
        Nat.ofDigitChars_cons, Nat.ofDigitChars_nil, Nat.ofDigitChars_nil] at h
      have hc := hl c (by simp)
      have hd := hm d (by simp)
      have hdigit : ∀ e : Char, e.isDigit = true → 48 ≤ e.toNat ∧ e.toNat ≤ 57 := by
        intro e he
        rw [Char.isDigit, Bool.and_eq_true, decide_eq_true_eq, decide_eq_true_eq] at he
        exact ⟨UInt32.le_iff_toNat_le.mp he.1, UInt32.le_iff_toNat_le.mp he.2⟩
      have hc' := hdigit c hc
      have hd' := hdigit d hd
      have h0 : '0'.toNat = 48 := rfl
      rw [h0] at h
      have hlm : Nat.ofDigitChars 10 l 0 = Nat.ofDigitChars 10 m 0 := by omega
      have hcd : c.toNat = d.toNat := by omega
      rw [ih (fun e he => hl e (by simp [he])) (fun e he => hm e (by simp [he]))
        (by simpa using hlen) hlm, Char.toNat_inj.mp hcd]

end NantianGateway.Text
