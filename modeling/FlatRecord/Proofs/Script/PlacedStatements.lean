import FlatRecord.Proofs.Script.PrintedExpressions
import FlatRecord.Script.Printer

/-!
# Statements as they are read back

A statement that is printed and read again is the same one, except that it knows the line on which it
stands now, and that a negative number has become a sign before a number.
-/

namespace FlatRecord.Script

open FlatRecord.Text

/-- A parameter as it is read back on a line. -/
def Param.placed (line : Nat) : Param → Param
  | .mk _ name hint => .mk line name (hint.map (Expr.placed line))

/-- Parameters that are read back keep their names. -/
theorem map_name_placed (line : Nat) (params : List Param) :
    (params.map (Param.placed line)).map Param.name = params.map Param.name := by
  rw [List.map_map]
  exact List.map_congr_left fun p _ => by cases p; rfl

/-- Parameters as they are read back on a line. -/
def Params.placed (line : Nat) : Params → Params
  | .mk positional args rest named namedDefaults mapping defaults =>
    .mk (positional.map (Param.placed line)) (args.map (Param.placed line))
      (rest.map (Param.placed line)) (named.map (Param.placed line))
      (namedDefaults.map (Option.map (Expr.placed line))) (mapping.map (Param.placed line))
      (defaults.map (Expr.placed line))

/-- The text of a statement that is the first one of its body. -/
def Stmt.printFirst (depth : Nat) : Stmt → List Char
  | .expr _ (.constant (.datum (.text s))) => indentation depth ++ (quoteDoc s.toList ++ ['\n'])
  | s => s.print depth

mutual

/-- A statement as it is read back, in a block of some depth, when its text begins on some line. -/
@[simp]
def Stmt.placed (depth line : Nat) : Stmt → Stmt
  | .expr _ value => .expr line (value.placed line)
  | .assign _ targets value => .assign line (Expr.placedEach line targets) (value.placed line)
  | .annotated _ target hint value simple =>
    .annotated line (target.placed line) (hint.placed line) (value.map (Expr.placed line)) simple
  | .importModules _ names => .importModules line names
  | .importFrom _ module names level => .importFrom line module names level
  | .classDef _ name bases keywords body decorators =>
    .classDef (line + 1) name (Expr.placedEach (line + 1) bases)
      (Expr.placedKeywords (line + 1) keywords) (Stmt.placedBody (depth + 1) (line + 2) body)
      (Expr.placedEach line decorators)
  | .functionDef _ name params body decorators returns =>
    .functionDef (line + 1) name (params.placed (line + 1))
      (Stmt.placedBody (depth + 1) (line + 2) body) (Expr.placedEach line decorators)
      (returns.map (Expr.placed (line + 1)))
  | .ret _ value => .ret line (value.map (Expr.placed line))
  | .branch _ test body otherwise =>
    .branch line (test.placed line) (Stmt.placedAll (depth + 1) (line + 1) body) otherwise
  | .foreign _ construct => .foreign line construct

/-- Statements one after the other as they are read back. -/
def Stmt.placedAll (depth line : Nat) : List Stmt → List Stmt
  | [] => []
  | s :: rest =>
    s.placed depth line :: Stmt.placedAll depth (line + (s.print depth).count '\n') rest

/-- The statements of a body as they are read back. -/
def Stmt.placedBody (depth line : Nat) : List Stmt → List Stmt
  | [] => []
  | s :: rest =>
    s.placed depth line :: Stmt.placedAll depth (line + (s.printFirst depth).count '\n') rest

end

theorem Stmt.printBody_cons (depth : Nat) (s : Stmt) (rest : List Stmt) :
    Stmt.printBody depth (s :: rest) = s.printFirst depth ++ Stmt.printAll depth rest := by
  unfold printBody printFirst
  split <;> simp_all

theorem Stmt.printAll_append (depth : Nat) (ss rest : List Stmt) :
    Stmt.printAll depth (ss ++ rest) = Stmt.printAll depth ss ++ Stmt.printAll depth rest := by
  induction ss with
  | nil => rfl
  | cons s ss ih => rw [List.cons_append, printAll, printAll, ih, List.append_assoc]

theorem Stmt.printBody_append (depth : Nat) {ss : List Stmt} (nonempty : ss ≠ []) (rest : List Stmt) :
    Stmt.printBody depth (ss ++ rest) = Stmt.printBody depth ss ++ Stmt.printAll depth rest := by
  obtain ⟨s, ss, rfl⟩ := List.exists_cons_of_ne_nil nonempty
  rw [List.cons_append, printBody_cons, printBody_cons, printAll_append, List.append_assoc]

theorem Stmt.placedAll_ne_nil (depth line : Nat) {ss : List Stmt} (nonempty : ss ≠ []) :
    Stmt.placedAll depth line ss ≠ [] := by
  obtain ⟨s, ss, rfl⟩ := List.exists_cons_of_ne_nil nonempty
  simp [placedAll]

theorem Stmt.placedBody_ne_nil (depth line : Nat) {ss : List Stmt} (nonempty : ss ≠ []) :
    Stmt.placedBody depth line ss ≠ [] := by
  obtain ⟨s, ss, rfl⟩ := List.exists_cons_of_ne_nil nonempty
  simp [placedBody]

/-- Statements that follow others are read back further down. -/
theorem Stmt.placedAll_append (depth line : Nat) (ss rest : List Stmt) :
    Stmt.placedAll depth line (ss ++ rest) = Stmt.placedAll depth line ss ++
      Stmt.placedAll depth (line + (Stmt.printAll depth ss).count '\n') rest := by
  induction ss generalizing line with
  | nil => simp [placedAll, printAll]
  | cons s ss ih =>
    rw [List.cons_append, placedAll, ih, placedAll, printAll, List.count_append, Nat.add_assoc]
    rfl

/-- Every statement that is read back comes from one of those that are printed. -/
theorem Stmt.mem_placedAll {depth line : Nat} {ss : List Stmt} {t : Stmt}
    (mem : t ∈ Stmt.placedAll depth line ss) : ∃ s ∈ ss, ∃ at_line, t = s.placed depth at_line := by
  induction ss generalizing line with
  | nil => simp [placedAll] at mem
  | cons s ss ih =>
    obtain rfl | mem := List.mem_cons.1 mem
    · exact ⟨s, .head _, line, rfl⟩
    · obtain ⟨s', among, at_line, same⟩ := ih mem
      exact ⟨s', .tail _ among, at_line, same⟩

/-- The same for a body. -/
theorem Stmt.mem_placedBody {depth line : Nat} {ss : List Stmt} {t : Stmt}
    (mem : t ∈ Stmt.placedBody depth line ss) : ∃ s ∈ ss, ∃ at_line, t = s.placed depth at_line := by
  cases ss with
  | nil => simp [placedBody] at mem
  | cons s ss =>
    obtain rfl | mem := List.mem_cons.1 mem
    · exact ⟨s, .head _, line, rfl⟩
    · obtain ⟨s', among, at_line, same⟩ := mem_placedAll mem
      exact ⟨s', .tail _ among, at_line, same⟩

theorem Stmt.exists_mem_placedAll {depth line : Nat} {ss : List Stmt} {s : Stmt} (mem : s ∈ ss) :
    ∃ at_line, s.placed depth at_line ∈ Stmt.placedAll depth line ss := by
  induction ss generalizing line with
  | nil => cases mem
  | cons first rest ih =>
    obtain rfl | mem := List.mem_cons.1 mem
    · exact ⟨line, .head _⟩
    · obtain ⟨at_line, among⟩ := ih mem
      exact ⟨at_line, .tail _ among⟩

/-- Every statement of a body is read back. -/
theorem Stmt.exists_mem_placedBody {depth line : Nat} {ss : List Stmt} {s : Stmt} (mem : s ∈ ss) :
    ∃ at_line, s.placed depth at_line ∈ Stmt.placedBody depth line ss := by
  cases ss with
  | nil => cases mem
  | cons first rest =>
    obtain rfl | mem := List.mem_cons.1 mem
    · exact ⟨line, .head _⟩
    · obtain ⟨at_line, among⟩ := exists_mem_placedAll mem
      exact ⟨at_line, .tail _ among⟩

/-- A module as it is read back. -/
def Module.placed (m : Module) : Module := ⟨Stmt.placedBody 0 1 m.body⟩

end FlatRecord.Script
