import ClusterNode.Proofs.Node.Run

/-!
Input that arrives in pieces: it is cut into the same lines wherever the pieces end, and a line is
taken in as what it is read as.
-/

set_option autoImplicit false

namespace ClusterNode

namespace Input

variable {bytes line rest : List UInt8}

private theorem cut_cons_newline (bytes : List UInt8) :
    cut (newline :: bytes) = ([newline] :: (cut bytes).1, (cut bytes).2) := by
  simp only [cut, if_true]

private theorem cut_cons_of_nil {b : UInt8} (hb : b ≠ newline) (hlines : (cut bytes).1 = []) :
    cut (b :: bytes) = ([], b :: (cut bytes).2) := by
  simp only [cut, if_neg hb, hlines]

private theorem cut_cons_of_cons {b : UInt8} {lines : List (List UInt8)} (hb : b ≠ newline)
    (hlines : (cut bytes).1 = line :: lines) :
    cut (b :: bytes) = ((b :: line) :: lines, (cut bytes).2) := by
  simp only [cut, if_neg hb, hlines]

private theorem cut_append (front back : List UInt8) :
    cut (front ++ back) = ((cut front).1 ++ (cut ((cut front).2 ++ back)).1,
      (cut ((cut front).2 ++ back)).2) := by
  induction front with
  | nil => simp [cut]
  | cons b front ih =>
    rw [List.cons_append]
    by_cases hb : b = newline
    · subst hb
      rw [cut_cons_newline, cut_cons_newline, ih, List.cons_append]
    · cases hfront : (cut front).1 with
      | nil =>
        have hkept : cut (front ++ back) = cut ((cut front).2 ++ back) := by
          rw [ih, hfront, List.nil_append]
        rw [cut_cons_of_nil hb hfront, List.nil_append, List.cons_append, cut, hkept, ← cut]
      | cons line lines =>
        have hlines : (cut (front ++ back)).1 = line ::
            (lines ++ (cut ((cut front).2 ++ back)).1) := by
          rw [ih, hfront, List.cons_append]
        rw [cut_cons_of_cons hb hlines, cut_cons_of_cons hb hfront, ih, List.cons_append]

private theorem cut_of_not_mem (h : newline ∉ rest) : cut rest = ([], rest) := by
  induction rest with
  | nil => rfl
  | cons b rest ih =>
    obtain ⟨hb, hrest⟩ : newline ≠ b ∧ newline ∉ rest := by simpa using h
    have hcut : cut rest = ([], rest) := ih hrest
    rw [cut_cons_of_nil (Ne.symm hb) (by rw [hcut]), hcut]

private theorem newline_not_mem_cut (bytes : List UInt8) : newline ∉ (cut bytes).2 := by
  induction bytes with
  | nil => exact List.not_mem_nil
  | cons b bytes ih =>
    by_cases hb : b = newline
    · subst hb
      rw [cut_cons_newline]
      exact ih
    · cases hlines : (cut bytes).1 with
      | nil =>
        rw [cut_cons_of_nil hb hlines]
        exact List.not_mem_cons_of_ne_of_not_mem (Ne.symm hb) ih
      | cons line lines =>
        rw [cut_cons_of_cons hb hlines]
        exact ih

theorem cut_lines {lines : List (List UInt8)} (h : ∀ line ∈ lines, newline ∉ line) :
    cut (lines.flatMap (· ++ [newline])) = (lines.map (· ++ [newline]), []) := by
  induction lines with
  | nil => rfl
  | cons line lines ih =>
    obtain ⟨hline, hlines⟩ := List.forall_mem_cons.mp h
    have hend : cut (line ++ [newline]) = ([line ++ [newline]], []) := by
      induction line with
      | nil => rfl
      | cons b line ihline =>
        obtain ⟨hb, hrest⟩ : newline ≠ b ∧ newline ∉ line := by simpa using hline
        have hcut := ihline (List.forall_mem_cons.mpr ⟨hrest, hlines⟩) hrest
        rw [List.cons_append, cut_cons_of_cons (Ne.symm hb) (by rw [hcut]), hcut]
    rw [List.flatMap_cons, cut_append, hend, List.nil_append, ih hlines]
    rfl

/-- The lines of input that arrives in pieces after what was kept, with their ends. What is left
when the input ends is a line too. -/
def linesFrom (rest : List UInt8) : List (List UInt8) → List (List UInt8)
  | [] => if rest.isEmpty then [] else [rest]
  | piece :: pieces => (cut (rest ++ piece)).1 ++ linesFrom (cut (rest ++ piece)).2 pieces

def lines (pieces : List (List UInt8)) : List (List UInt8) :=
  linesFrom [] pieces

private theorem linesFrom_eq (pieces : List (List UInt8)) (h : newline ∉ rest) :
    linesFrom rest pieces = linesFrom rest [pieces.flatten] := by
  induction pieces generalizing rest with
  | nil =>
    simp only [linesFrom, List.flatten_nil, List.append_nil, cut_of_not_mem h, List.nil_append]
  | cons piece pieces ih =>
    rw [linesFrom, ih (newline_not_mem_cut _), List.flatten_cons]
    simp only [linesFrom]
    rw [← List.append_assoc rest, cut_append (rest ++ piece), List.append_assoc]

theorem lines_eq (pieces : List (List UInt8)) : lines pieces = lines [pieces.flatten] :=
  linesFrom_eq pieces List.not_mem_nil

end Input

def Reading.ofInput (pieces : List (List UInt8)) : List Reading :=
  ((Input.lines pieces).map ofBytes).filter fun
    | .blank => false
    | _ => true

namespace Node

variable {w : Workload}

def hear (n : Node w) (r : Reading) : Node w :=
  if n.verdict.isSome then n else n.take r

/-- A node takes in what its input is read as, and nothing else. -/
theorem receiveLines_eq (n : Node w) (pieces : List (List UInt8)) :
    n.receiveLines (Input.lines pieces) = (Reading.ofInput pieces).foldl hear n := by
  rw [Reading.ofInput, receiveLines]
  generalize Input.lines pieces = lines
  induction lines generalizing n with
  | nil => rfl
  | cons line lines ih =>
    have hline : n.receiveBytes line = n.hear (.ofBytes line) := receiveBytes_eq_take n line
    rw [List.foldl_cons, ih, List.map_cons, hline]
    cases Reading.ofBytes line with
    | blank =>
      have hblank : n.hear .blank = n := by
        rw [hear]
        split <;> rfl
      rw [hblank]
      rfl
    | refused e => rfl
    | message m text => rfl

end Node

end ClusterNode
