import FlatRecord.Admission.Method
import FlatRecord.Proofs.Generation.Printed
import FlatRecord.Proofs.Outcome

/-!
# What generated methods do

The body of each generated method, as it is read back, is recognised as what the method is meant to
do: the constructor, reading or storing one attribute, the text form, equality or the hash code.
-/

namespace FlatRecord.Generation

open FlatRecord.Script FlatRecord.Behaviour

variable {c : String} {depth line : Nat} {f : FieldPlan} {fields : List FieldPlan}

/-- The values of all fields stand in the text as they are. -/
theorem placed_attributeTuple (owner : String) (fields : List FieldPlan) :
    (attributeTuple owner fields).placed line = attributeTuple owner fields := by
  simp only [attributeTuple, Expr.placed, Expr.placedEach_eq, List.map_map]
  rfl

/-- The values of all fields are the members of these names. -/
theorem membersOf?_attributeTuple (owner : String) (fields : List FieldPlan) :
    membersOf? owner (attributeTuple owner fields) = some (fields.map FieldPlan.attributeName) := by
  refine mapM_map_eq_pure fun f _ => ?_
  simp [memberOf?, attributeOf, read, isName, FieldPlan.attributeName]

/-- The parts of a text form: every field with its name, each after the given beginning. -/
def textParts : String → List FieldPlan → List TextPart
  | _, [] => []
  | beginning, f :: rest =>
    .text (beginning ++ f.name ++ "=") :: .attribute f.attributeName :: textParts ", " rest

/-- The pieces of a text form are its parts. -/
theorem mapM_textPart?_textPieces (beginning : String) (fields : List FieldPlan) :
    ((textPieces beginning fields).map (Expr.placed line)).mapM textPart? =
      some (textParts beginning fields) := by
  induction fields generalizing beginning with
  | nil => rfl
  | cons f rest ih =>
    have text : textPart? ((textLiteral (beginning ++ f.name ++ "=")).placed line) =
        some (.text (beginning ++ f.name ++ "=")) := rfl
    have member : textPart? ((callName "str" [attributeOf "self" (Naming.attributeName f.name)]
        []).placed line) = some (.attribute f.attributeName) := rfl
    simp only [textPieces, List.map_cons, List.mapM_cons, text, member, ih]
    rfl

/-- The parts of pieces that are joined from left to right. -/
theorem textParts?_joined {first : Expr} {rest : List Expr} {parts : List TextPart}
    (single : textParts? (first.placed line) = (textPart? (first.placed line)).map fun p => [p])
    (h : ((first :: rest).map (Expr.placed line)).mapM textPart? = some parts) :
    textParts? ((joined (first :: rest)).placed line) = some parts.reverse := by
  have foldl (rest : List Expr) : ∀ (e : Expr) (known parts : List TextPart),
      textParts? (e.placed line) = some known →
      (rest.map (Expr.placed line)).mapM textPart? = some parts →
      textParts? ((rest.foldl (fun left right => Expr.binary left .add right) e).placed line) =
        some (parts.reverse ++ known) := by
    induction rest with
    | nil =>
      rintro e known parts here none
      obtain rfl : [] = parts := by simpa using none
      simpa using here
    | cons next rest ih =>
      intro e known parts here others
      simp only [List.map_cons, List.mapM_cons, Option.bind_eq_bind, Option.bind_eq_some_iff] at others
      obtain ⟨part, next_part, more, behind, equal⟩ := others
      obtain rfl : part :: more = parts := by simpa using equal
      rw [List.foldl_cons, ih (.binary e .add next) (part :: known) more ?_ behind]
      · simp
      · simp [Expr.placed, textParts?, next_part, here]
  simp only [List.map_cons, List.mapM_cons, Option.bind_eq_bind, Option.bind_eq_some_iff] at h
  obtain ⟨part, first_part, more, behind, equal⟩ := h
  obtain rfl : part :: more = parts := by simpa using equal
  have whole := foldl rest first [part] more (by rw [single, first_part]; rfl) behind
  rw [List.reverse_cons]
  exact whole

section Forms

variable {name : String} (shown : name.toList.head? ≠ some '_')

include shown

/-- A method with a shown name and no parameters returns an attribute. -/
private theorem ofBody?_read (e : Expr) (at_line : Nat) :
    ofBody? c name [] [.ret at_line (some e)] = (memberOf? "self" e).map .read := by
  simp only [ofBody?, isDocumentation, Bool.false_eq_true, if_false]
  split <;> first | exact absurd rfl shown | rfl | simp_all

/-- A method with a shown name and one parameter stores it in an attribute. -/
private theorem ofBody?_store (parameter : String) (target value : Expr) (at_line : Nat)
    (same : isName parameter value) :
    ofBody? c name [parameter] [.assign at_line [target] value] =
      (memberOf? "self" target).map .store := by
  simp only [ofBody?, isDocumentation, Bool.false_eq_true, if_false]
  split <;> first | exact absurd rfl shown | simp_all [store?]

end Forms

/-- The body of the constructor constructs an instance. -/
theorem ofBody?_constructor : ofBody? c "__init__" [] (Stmt.placedBody depth line
    [.expr 0 (.call (.member (.call (read "super") [] []) "__init__" .load) [] [])]) =
      some .construct := rfl

/-- The body of a getter reads the attribute of the field. -/
theorem ofBody?_getter (sound : f.IsSound) : ofBody? c f.getterName [] (Stmt.placedBody depth line
    [.ret 0 (some (attributeOf "self" (Naming.attributeName f.name)))]) =
      some (.read f.attributeName) :=
  ofBody?_read sound.getterName.shown (attributeOf "self" (Naming.attributeName f.name)) line

/-- The body of a setter stores its argument in the attribute of the field. -/
theorem ofBody?_setter (sound : f.IsSound) : ofBody? c f.setterName ["value"]
    (Stmt.placedBody depth line
      [.assign 0 [.member (read "self") (Naming.attributeName f.name) .store] (read "value")]) =
        some (.store f.attributeName) :=
  ofBody?_store sound.setterName.shown "value"
    (.member (read "self") (Naming.attributeName f.name) .store) (read "value") line (by decide)

/-- The sum that the text form's method returns has the parts of the text form. -/
theorem textParts?_textForm (beginning : String) (fields : List FieldPlan) :
    textParts? ((joined (textPieces beginning fields ++ [textLiteral "\x7d"])).placed line) =
      some (textParts beginning fields ++ [TextPart.text "\x7d"]).reverse := by
  have last : ([textLiteral "\x7d"].map (Expr.placed line)).mapM textPart? =
      some [.text "\x7d"] := rfl
  have all : ((textPieces beginning fields ++ [textLiteral "\x7d"]).map (Expr.placed line)).mapM
      textPart? = some (textParts beginning fields ++ [.text "\x7d"]) := by
    rw [List.map_append, List.mapM_append, mapM_textPart?_textPieces, last]
    rfl
  cases fields with
  | nil => rfl
  | cons f rest => exact textParts?_joined rfl all

/-- The body of the text form's method joins the parts of the text form. -/
theorem ofBody?_textMethod (beginning : String) (fields : List FieldPlan) :
    ofBody? c "__str__" [] (Stmt.placedBody depth line
      [.ret 0 (some (joined (textPieces beginning fields ++ [textLiteral "\x7d"])))]) =
        some (.spell (textParts beginning fields ++ [.text "\x7d"])) := by
  show (textParts? _).map (fun parts => Behaviour.spell parts.reverse) = _
  rw [textParts?_textForm, Option.map_some, List.reverse_reverse]

/-- The body of equality compares the attributes of all fields. -/
theorem ofBody?_equalityMethod (fields : List FieldPlan) :
    ofBody? c "__eq__" ["other"] (Stmt.placedBody depth line
      [.branch 0 (.compare (read "self") [.same] [read "other"])
        [.ret 0 (some (literal (.bool true)))] [],
       .branch 0 (.unary .not (callName "isinstance" [read "other", read c] []))
        [.ret 0 (some (literal (.bool false)))] [],
       .ret 0 (some (.compare (attributeTuple "self" fields) [.equal]
        [attributeTuple "other" fields]))]) =
      some (.equal (fields.map FieldPlan.attributeName) (fields.map FieldPlan.attributeName)) := by
  simp only [Stmt.placedBody, Stmt.placedAll, Stmt.placed, Option.map_some, Expr.placed,
    Expr.placedEach, placed_attributeTuple, ofBody?, isDocumentation, Bool.false_eq_true, if_false]
  have truth (b : Bool) (at_line at_line' : Nat) :
      returnsTruth b [.ret at_line (some ((literal (.bool b)).placed at_line'))] := by
    cases b <;> rfl
  have same (at_line : Nat) : asksIdentity "other"
      (.compare ((read "self").placed at_line) [.same] [(read "other").placed at_line]) := rfl
  have foreign (at_line : Nat) : asksForeignness "other" c (.unary .not
      ((callName "isinstance" [read "other", read c] []).placed at_line)) := by
    show (isName "isinstance" (read "isinstance") && isName "other" (read "other") &&
      isName c (read c)) = true
    simp [read, isName]
  simp only [equal?, truth, same, foreign, Bool.and_self, if_true, membersOf?_attributeTuple]
  rfl

/-- The body of the hash code's method is about the attributes of all fields. -/
theorem ofBody?_hashMethod (fields : List FieldPlan) :
    ofBody? c "__hash__" [] (Stmt.placedBody depth line
      [.ret 0 (some (callName "hash" [attributeTuple "self" fields] []))]) =
        some (.digest (fields.map FieldPlan.attributeName)) := by
  show (membersOf? "self" ((attributeTuple "self" fields).placed line)).map Behaviour.digest = _
  rw [placed_attributeTuple, membersOf?_attributeTuple]
  rfl

end FlatRecord.Generation
