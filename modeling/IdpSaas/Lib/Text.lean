import Mathlib.Data.List.DropRight

/-!
Texts as lists of characters: white space and how scripts trim it, and texts cut at a
separator, into lines for one.
-/

namespace Text

/-- White space and line ends, in Unicode's sense. -/
def isSpace (c : Char) : Bool :=
  decide (9 ≤ c.toNat ∧ c.toNat ≤ 13) || decide (0x2000 ≤ c.toNat ∧ c.toNat ≤ 0x200A) ||
    [0x20, 0xA0, 0x1680, 0x2028, 0x2029, 0x202F, 0x205F, 0x3000, 0xFEFF].contains c.toNat

def trimStart (s : List Char) : List Char := s.dropWhile isSpace

def trim (s : List Char) : List Char := (trimStart s).rdropWhile isSpace

theorem trimStart_eq (s : List Char) :
    ∃ spaces, trimStart s = trim s ++ spaces ∧ ∀ c ∈ spaces, isSpace c = true :=
  ⟨(trimStart s).rtakeWhile isSpace, List.rdropWhile_append_rtakeWhile.symm,
    fun _ => List.mem_rtakeWhile_imp⟩

theorem trim_sublist (s : List Char) : (trim s).Sublist s :=
  (List.rdropWhile_prefix _ _).sublist.trans (List.dropWhile_sublist _)

theorem trim_of_no_space {s : List Char} (h : ∀ c ∈ s, isSpace c = false) : trim s = s := by
  have start : trimStart s = s := by
    cases s with
    | nil => rfl
    | cons c cs =>
        have other := h c List.mem_cons_self
        rw [trimStart, List.dropWhile_cons_of_neg (by simp [other])]
  rw [trim, start, List.rdropWhile_eq_self_iff]
  intro nonempty space
  rw [h _ (List.getLast_mem nonempty)] at space
  cases space

theorem trim_concat_space (s : List Char) {c : Char} (space : isSpace c = true) :
    trim (s ++ [c]) = trim s := by
  rw [trim, trim, trimStart, trimStart, List.dropWhile_append]
  split
  · next blank =>
      rw [List.isEmpty_iff.mp blank, List.dropWhile_cons_of_pos space]
      rfl
  · rw [List.rdropWhile_concat_pos _ _ _ space]

def lines (s : List Char) : List (List Char) := s.splitOn '\n'

/-- The text with a carriage return before each line feed. -/
def crlf (s : List Char) : List Char := s.flatMap fun c => if c = '\n' then ['\r', '\n'] else [c]

/-- A character that does not separate goes to the last piece. -/
theorem splitOn_concat {sep c : Char} (other : c ≠ sep) (s : List Char) :
    ∃ init last, s.splitOn sep = init ++ [last] ∧ (s ++ [c]).splitOn sep = init ++ [last ++ [c]] := by
  induction s with
  | nil =>
      refine ⟨[], [], List.splitOn_nil sep, ?_⟩
      rw [List.nil_append, List.splitOn_eq_singleton]
      · rfl
      · simpa using other.symm
  | cons d s ih =>
      obtain ⟨init, last, before, after⟩ := ih
      rw [List.cons_append, List.splitOn_cons_eq_if_modifyHead, List.splitOn_cons_eq_if_modifyHead,
        before, after]
      split
      · exact ⟨[] :: init, last, rfl, rfl⟩
      · cases init with
        | nil => exact ⟨[], d :: last, rfl, rfl⟩
        | cons first rest => exact ⟨(d :: first) :: rest, last, rfl, rfl⟩

/-- Carriage returns before the line feeds end up at the ends of lines. -/
theorem lines_crlf (s : List Char) :
    List.Forall₂ (fun line line' => line' = line ∨ line' = line ++ ['\r']) (lines s)
      (lines (crlf s)) := by
  induction s with
  | nil => exact .cons (Or.inl rfl) .nil
  | cons c s ih =>
      rw [lines, List.splitOn_cons_eq_if_modifyHead]
      by_cases feed : c = '\n'
      · have ends : lines (crlf (c :: s)) = ['\r'] :: lines (crlf s) := by
          rw [crlf, List.flatMap_cons, if_pos feed]
          rfl
        rw [ends, if_pos (by rw [feed, beq_self_eq_true])]
        exact .cons (Or.inr rfl) ih
      · have goes : lines (crlf (c :: s)) = (lines (crlf s)).modifyHead (c :: ·) := by
          rw [crlf, List.flatMap_cons, if_neg feed, List.singleton_append, lines,
            List.splitOn_cons_eq_if_modifyHead, if_neg (by simpa using feed)]
          rfl
        rw [goes, if_neg (by simpa using feed)]
        revert ih
        rw [lines]
        generalize s.splitOn '\n' = before, lines (crlf s) = after
        intro ih
        cases ih with
        | nil => exact .nil
        | cons head rest =>
            refine .cons (head.imp ?_ ?_) rest
            · rintro rfl
              rfl
            · rintro rfl
              rfl

end Text
