import NantianGateway.Ai.Stages

/-!
# Substituting prompt variables

`resolve` replaces one variable after the other, in the order of a hash map, and so reads again what
a value brought in.  A text is a list of pieces, literals and placeholders, in which braces may
stand anywhere.  **All variables are substituted at once if, when the turn of a variable comes, its
placeholders in the text as it then is are those of the text as it was** (`Undisturbed`).
-/

namespace NantianGateway.Ai

open List

/-- A part of a text, as it is or between braces. -/
inductive Piece where
  | literal (chars : List Char)
  | placeholder (key : String)
  deriving DecidableEq

namespace Piece

def render : Piece → List Char
  | literal chars => chars
  | placeholder key => '\x7b' :: (key.toList ++ ['\x7d'])

def substitute (vars : String → Option String) : Piece → List Char
  | literal chars => chars
  | placeholder key => ((vars key).map String.toList).getD (render (placeholder key))

def replaced (key value : String) (piece : Piece) : Piece :=
  if piece = placeholder key then literal value.toList else piece

/-- No placeholder of the key begins in the piece, whatever the text that follows it makes of it. -/
abbrev Silent (key : String) (piece : Piece) (rest : List Char) : Prop :=
  ∀ tail ∈ piece.render.tails, tail ≠ [] → ¬ (placeholder key).render <+: tail ++ rest

/-- What looks like a placeholder of the key in the text is one of its pieces. -/
def Clear (key : String) : List Piece → Prop
  | [] => True
  | piece :: pieces =>
    (piece = placeholder key ∨ Silent key piece (pieces.flatMap render)) ∧ Clear key pieces

/-- No variable finds, when its turn comes, a placeholder that was not there at first. -/
def Undisturbed : List (String × String) → List Piece → Prop
  | [], _ => True
  | (key, value) :: vars, pieces =>
    Clear key pieces ∧ Undisturbed vars (pieces.map (replaced key value))

end Piece

open Piece

variable {pattern value text chars : List Char} {fuel : ℕ}

theorem replaceLoop_cons {c : Char} (h : ¬ pattern <+: c :: text) :
    replaceLoop pattern value fuel (c :: text) = c :: replaceLoop pattern value fuel text := by
  cases fuel with
  | zero => rfl
  | succ fuel =>
    rw [replaceLoop, replaceLoop, Text.cutAt, if_neg (by simpa using h)]
    cases Text.cutAt pattern text <;> rfl

theorem replaceLoop_append (h : ∀ tail ∈ chars.tails, tail ≠ [] → ¬ pattern <+: tail ++ text) :
    replaceLoop pattern value fuel (chars ++ text)
      = chars ++ replaceLoop pattern value fuel text := by
  induction chars with
  | nil => rfl
  | cons c chars ih =>
    rw [tails_cons, forall_mem_cons] at h
    have hskip : ¬ pattern <+: c :: (chars ++ text) := h.1 (cons_ne_nil _ _)
    rw [cons_append, replaceLoop_cons hskip, ih h.2, cons_append]

theorem replaceLoop_self (h : pattern ≠ []) :
    replaceLoop pattern value (fuel + 1) (pattern ++ text)
      = value ++ replaceLoop pattern value fuel text := by
  have hcut : Text.cutAt pattern (pattern ++ text) = some ([], text) := by
    obtain ⟨c, chars, rfl⟩ := exists_cons_of_ne_nil h
    rw [cons_append, Text.cutAt, if_pos (by simp), ← cons_append,
      drop_left]
  rw [replaceLoop, hcut]
  rfl

/-- One variable in a text of pieces. -/
theorem replaceLoop_pieces {key replacement : String} {pieces : List Piece}
    (h : Clear key pieces) (hfuel : (pieces.flatMap render).length ≤ fuel) :
    replaceLoop (render (placeholder key)) replacement.toList fuel (pieces.flatMap render)
      = (pieces.map (replaced key replacement)).flatMap render := by
  induction pieces generalizing fuel with
  | nil => cases fuel <;> rfl
  | cons piece pieces ih =>
    obtain ⟨hpiece, hpieces⟩ := h
    rw [flatMap_cons, length_append] at hfuel
    rw [map_cons, flatMap_cons, flatMap_cons, replaced]
    by_cases hkey : piece = placeholder key
    · subst hkey
      obtain ⟨fuel, rfl⟩ := Nat.exists_eq_add_one_of_ne_zero (n := fuel) (by
        rintro rfl
        simp [render] at hfuel)
      rw [replaceLoop_self (by simp [render]), if_pos rfl, ih hpieces]
      · rfl
      · simp only [render, length_cons] at hfuel
        omega
    · rw [if_neg hkey, ← @ih fuel hpieces (by omega)]
      exact replaceLoop_append (hpiece.resolve_left hkey)

theorem foldl_pieces {vars : List (String × String)} {pieces : List Piece}
    (h : Undisturbed vars pieces) :
    (vars.foldl (fun resolved entry =>
        replaceText resolved ("\x7b" ++ entry.1 ++ "\x7d") entry.2)
      (String.ofList (pieces.flatMap render))).toList
        = pieces.flatMap (substitute fun key => lookup key vars) := by
  induction vars generalizing pieces with
  | nil =>
    rw [foldl_nil, String.toList_ofList]
    exact flatMap_congr fun piece _ => by cases piece <;> rfl
  | cons entry vars ih =>
    obtain ⟨key, value⟩ := entry
    have hpattern : ("\x7b" ++ key ++ "\x7d").toList = render (placeholder key) := by
      simp [render]
    rw [foldl_cons, replaceText, hpattern, String.toList_ofList, replaceLoop_pieces h.1 le_rfl,
      ih h.2, flatMap_map]
    refine flatMap_congr fun piece _ => ?_
    cases piece with
    | literal chars => rfl
    | placeholder name =>
      rw [substitute, lookup_cons, replaced]
      by_cases hname : name = key
      · simp [hname, substitute]
      · simp [hname, substitute, beq_eq_false_iff_ne.mpr hname]

end NantianGateway.Ai
