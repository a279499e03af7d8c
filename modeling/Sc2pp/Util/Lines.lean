import Mathlib.Data.List.Basic

/-!
This module contains texts that consist of lines, each of them ended by a newline. What `lines` makes of
the characters after the last newline is nothing.
-/

abbrev Text := List Char

namespace Text

def unlines (rows : List Text) : Text :=
  rows.flatMap (· ++ ['\n'])

def linesFrom (row : Text) : Text → List Text
  | [] => []
  | c :: text => if c = '\n' then row :: linesFrom [] text else linesFrom (row ++ [c]) text

def lines (text : Text) : List Text :=
  linesFrom [] text

theorem linesFrom_append {row row' : Text} (h : '\n' ∉ row') (text : Text)
    : linesFrom row (row' ++ text) = linesFrom (row ++ row') text := by
  induction row' generalizing row with
  | nil => rw [List.nil_append, List.append_nil]
  | cons c row' ih =>
    rw [List.mem_cons, not_or] at h
    rw [List.cons_append, linesFrom, if_neg (Ne.symm h.1), ih h.2, List.append_assoc]
    rfl

theorem lines_unlines {rows : List Text} (h : ∀ row ∈ rows, '\n' ∉ row)
    : lines (unlines rows) = rows := by
  induction rows with
  | nil => rfl
  | cons row rows ih =>
    rw [List.forall_mem_cons] at h
    have hrest : linesFrom [] (unlines rows) = rows := ih h.2
    unfold lines unlines
    rw [List.flatMap_cons, List.append_assoc, linesFrom_append h.1, List.nil_append,
      List.singleton_append, linesFrom, if_pos rfl]
    exact congrArg (row :: ·) hrest

end Text
