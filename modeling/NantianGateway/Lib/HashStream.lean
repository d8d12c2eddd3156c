import Mathlib.Data.String.Basic

/-!
# What is fed to a hasher

A hasher that works byte by byte sees only the concatenation of what was written.  A value is
*delimited* if a stream that begins with its bytes determines the value and the rest of the stream;
`DelimitedAt key` says so among values with equal keys.
-/

namespace NantianGateway.HashStream

open List

variable {α κ : Type*}

/-- Among values with equal keys, a stream that begins with the bytes of a value determines the
value and the rest of the stream. -/
def DelimitedAt (key : α → κ) (enc : α → List UInt8) : Prop :=
  ∀ ⦃a b : α⦄, key a = key b → ∀ ⦃r s : List UInt8⦄, enc a ++ r = enc b ++ s → a = b ∧ r = s

/-- A stream that begins with the bytes of a value determines the value and the rest. -/
def Delimited (enc : α → List UInt8) : Prop :=
  ∀ ⦃a b : α⦄ ⦃r s : List UInt8⦄, enc a ++ r = enc b ++ s → a = b ∧ r = s

variable {enc : α → List UInt8} {m n : ℕ}

/-- **A list of values, one after the other, among the lists with equal keys.**  The keys also say
how many values there are. -/
theorem delimitedAt_flatMap {key : α → κ} (h : DelimitedAt key enc) :
    DelimitedAt (List.map key) (List.flatMap enc) := by
  intro as
  induction as with
  | nil =>
    intro bs hkey r s hstream
    obtain rfl : bs = [] := map_eq_nil_iff.mp hkey.symm
    exact ⟨rfl, hstream⟩
  | cons a as ih =>
    intro bs hkey r s hstream
    cases bs with
    | nil => exact absurd hkey (by simp)
    | cons b bs =>
      rw [map_cons, map_cons, List.cons.injEq] at hkey
      rw [flatMap_cons, flatMap_cons, append_assoc, append_assoc] at hstream
      obtain ⟨rfl, hrest⟩ := h hkey.1 hstream
      obtain ⟨rfl, rfl⟩ := ih hkey.2 hrest
      exact ⟨rfl, rfl⟩

/-! ## Numbers -/

/-- A number in a fixed number of bytes, the lowest first. -/
def leBytes : ℕ → ℕ → List UInt8
  | 0, _ => []
  | width + 1, n => UInt8.ofNat n :: leBytes width (n / 256)

theorem length_leBytes (width n : ℕ) : (leBytes width n).length = width := by
  induction width generalizing n with
  | zero => rfl
  | succ width ih => rw [leBytes, length_cons, ih]

theorem leBytes_inj {width : ℕ} (hm : m < 256 ^ width) (hn : n < 256 ^ width)
    (h : leBytes width m = leBytes width n) : m = n := by
  induction width generalizing m n with
  | zero => omega
  | succ width ih =>
    rw [leBytes, leBytes, List.cons.injEq] at h
    have hlow : m % 256 = n % 256 := by simpa using congrArg UInt8.toNat h.1
    have hhigh : m / 256 = n / 256 := by
      refine ih ?_ ?_ h.2
      · exact Nat.div_lt_of_lt_mul (by rwa [pow_succ'] at hm)
      · exact Nat.div_lt_of_lt_mul (by rwa [pow_succ'] at hn)
    omega

theorem leBytes_append_inj {width : ℕ} (hm : m < 256 ^ width) (hn : n < 256 ^ width)
    {r s : List UInt8} (h : leBytes width m ++ r = leBytes width n ++ s) : m = n ∧ r = s := by
  obtain ⟨hbytes, hrest⟩ := append_inj h (by rw [length_leBytes, length_leBytes])
  exact ⟨leBytes_inj hm hn hbytes, hrest⟩

/-- `write_u8` of a boolean. -/
def bool (b : Bool) : List UInt8 := [if b then 1 else 0]

def u32 (n : UInt32) : List UInt8 := leBytes 4 n.toNat

/-- `write_usize`, and `write_isize` of a discriminant. -/
def usize (n : ℕ) : List UInt8 := leBytes 8 n

theorem delimited_bool : Delimited bool := by
  intro a b r s h
  cases a <;> cases b <;> simp_all [bool]

theorem delimited_u32 : Delimited u32 := by
  intro a b r s h
  obtain ⟨hnat, hrest⟩ := leBytes_append_inj a.toNat_lt b.toNat_lt h
  exact ⟨UInt32.toNat_inj.mp hnat, hrest⟩

theorem usize_append_inj (hm : m < 2 ^ 64) (hn : n < 2 ^ 64) {r s : List UInt8}
    (h : usize m ++ r = usize n ++ s) : m = n ∧ r = s :=
  leBytes_append_inj (by simpa using hm) (by simpa using hn) h

/-! ## Texts -/

/-- `str::hash`: the bytes of the text, and one that is in no text. -/
def str (text : String) : List UInt8 := text.toList.flatMap String.utf8EncodeChar ++ [0xff]

theorem not_mem_utf8EncodeChar (c : Char) : (0xff : UInt8) ∉ String.utf8EncodeChar c := by
  -- a leading byte is below `0xf8`, and a continuation byte below `0xc0`
  have hbyte (n : ℕ) (hn : n < 255) : (0xff : UInt8) ≠ UInt8.ofNat n := by
    intro heq
    have hnat : (255 : ℕ) = n % 256 := by simpa using congrArg UInt8.toNat heq
    omega
  rw [String.utf8EncodeChar]
  intro hmem
  split_ifs at hmem with h1 h2 h3
  all_goals
    simp only [mem_cons, not_mem_nil, or_false] at hmem
  · exact hbyte _ (by omega) hmem
  · rcases hmem with h | h <;> exact hbyte _ (by omega) h
  · rcases hmem with h | h | h <;> exact hbyte _ (by omega) h
  · rcases hmem with h | h | h | h <;> exact hbyte _ (by omega) h

theorem utf8_injective {s t : String}
    (h : s.toList.flatMap String.utf8EncodeChar = t.toList.flatMap String.utf8EncodeChar) :
    s = t := by
  apply String.toByteArray_inj.mp
  rw [← String.utf8Encode_toList, ← String.utf8Encode_toList, List.utf8Encode, List.utf8Encode, h]

theorem append_mark_inj {β : Type*} {mark : β} {l m r s : List β} (hl : mark ∉ l) (hm : mark ∉ m)
    (h : l ++ mark :: r = m ++ mark :: s) : l = m ∧ r = s := by
  induction l generalizing m with
  | nil =>
    cases m with
    | nil => exact ⟨rfl, (List.cons.inj h).2⟩
    | cons y m => exact (hm ((List.cons.inj h).1 ▸ mem_cons_self)).elim
  | cons x l ih =>
    cases m with
    | nil => exact (hl ((List.cons.inj h).1 ▸ mem_cons_self)).elim
    | cons y m =>
      obtain ⟨rfl, hrest⟩ := List.cons.inj h
      obtain ⟨rfl, rfl⟩ := ih (fun hmem => hl (mem_cons_of_mem _ hmem))
        (fun hmem => hm (mem_cons_of_mem _ hmem)) hrest
      exact ⟨rfl, rfl⟩

theorem delimited_str : Delimited str := by
  intro a b r s h
  have hno (t : String) : (0xff : UInt8) ∉ t.toList.flatMap String.utf8EncodeChar := by
    intro hmem
    obtain ⟨c, -, hc⟩ := mem_flatMap.mp hmem
    exact not_mem_utf8EncodeChar c hc
  rw [str, str, append_assoc, append_assoc] at h
  obtain ⟨htext, hrest⟩ := append_mark_inj (hno a) (hno b) h
  exact ⟨utf8_injective htext, hrest⟩

/-! ## Options and vectors -/

/-- `Option::hash`: the discriminant, and the value if there is one. -/
def option (enc : α → List UInt8) : Option α → List UInt8
  | none => usize 0
  | some a => usize 1 ++ enc a

theorem delimited_option (h : Delimited enc) : Delimited (option enc) := by
  intro a b r s hstream
  cases a with
  | none =>
    cases b with
    | none => exact ⟨rfl, append_cancel_left hstream⟩
    | some b =>
      rw [option, option, append_assoc] at hstream
      exact absurd (usize_append_inj (by decide) (by decide) hstream).1 (by decide)
  | some a =>
    cases b with
    | none =>
      rw [option, option, append_assoc] at hstream
      exact absurd (usize_append_inj (by decide) (by decide) hstream).1 (by decide)
    | some b =>
      rw [option, option, append_assoc, append_assoc] at hstream
      obtain ⟨rfl, rfl⟩ := h (append_cancel_left hstream)
      exact ⟨rfl, rfl⟩

/-- A vector.  Its length is a `usize`. -/
abbrev Vec (α : Type*) := { items : List α // items.length < 2 ^ 64 }

def Vec.nil : Vec α := ⟨[], Nat.two_pow_pos 64⟩

/-- `Vec::hash`: the length, and the elements. -/
def slice (enc : α → List UInt8) (v : Vec α) : List UInt8 :=
  usize v.val.length ++ v.val.flatMap enc

theorem delimitedAt_slice {key : α → κ} (h : DelimitedAt key enc) :
    DelimitedAt (fun v : Vec α => v.val.map key) (slice enc) := by
  intro a b hkey r s hstream
  have hlen : a.val.length = b.val.length := by simpa using congrArg List.length hkey
  rw [slice, slice, hlen, append_assoc, append_assoc] at hstream
  obtain ⟨hitems, hrest⟩ := delimitedAt_flatMap h hkey (append_cancel_left hstream)
  exact ⟨Subtype.ext hitems, hrest⟩

theorem delimited_slice (h : Delimited enc) : Delimited (slice enc) := by
  intro a b r s hstream
  have hlen : a.val.length = b.val.length := by
    rw [slice, slice, append_assoc, append_assoc] at hstream
    exact (usize_append_inj a.property b.property hstream).1
  have hkeys : a.val.map (fun _ => ()) = b.val.map fun _ => () := by
    rw [map_const', map_const', hlen]
  exact delimitedAt_slice (fun _ _ _ _ _ => @h _ _ _ _) hkeys hstream

end NantianGateway.HashStream
