import FlatRecord.Proofs.Generation.Executed

/-!
# Setters of generated classes

A generated class has one setter for each field of its plan, in the order of the fields, and no
other method of it is a setter.
-/

namespace FlatRecord.Generation

open FlatRecord.Execution FlatRecord.Script

variable {plan : RecordPlan} {f : FieldPlan}

/-- The getter of a field, as a method of the class. -/
def getterMethod (f : FieldPlan) : Method :=
  ⟨f.getterName, ["self"], [(resultHint, fieldType f)], .read f.attributeName⟩

/-- The setter of a field, as a method of the class. -/
def setterMethod (f : FieldPlan) : Method :=
  ⟨f.setterName, ["self", "value"], [("value", fieldType f), (resultHint, .null)],
    .store f.attributeName⟩

/-- The setter of a field. -/
def setterOf (f : FieldPlan) : Setter :=
  ⟨f.setterName, f.kind.carrier, !f.required, setterMethod f⟩

/-- The method that a member is. -/
private def asMethod? (m : Member) : Option Method :=
  match m.value with
  | .method _ parameters hints behaviour => some ⟨m.name, parameters, hints, behaviour⟩
  | _ => none

/-- The constructor, as a method of the class. -/
def constructorMethod : Method := ⟨"__init__", ["self"], [(resultHint, .null)], .construct⟩

/-- The text form, as a method of the class. -/
def textFormMethod (plan : RecordPlan) : Method :=
  ⟨"__str__", ["self"], [(resultHint, .type .text)],
    .spell (textParts (plan.typeName ++ "\x7b") plan.fields ++ [.text "\x7d"])⟩

/-- Equality, as a method of the class. -/
def equalMethod (plan : RecordPlan) : Method :=
  ⟨"__eq__", ["self", "other"], [("other", .type .object), (resultHint, .type .boolean)],
    .equal (plan.fields.map FieldPlan.attributeName) (plan.fields.map FieldPlan.attributeName)⟩

/-- The hash code, as a method of the class. -/
def digestMethod (plan : RecordPlan) : Method :=
  ⟨"__hash__", ["self"], [(resultHint, .type .integer)],
    .digest (plan.fields.map FieldPlan.attributeName)⟩

/-- The methods of the class: those of the fields between others with hidden names. -/
def methodsOf (plan : RecordPlan) : List Method :=
  constructorMethod :: (plan.fields.flatMap (fun f => [getterMethod f, setterMethod f]) ++
    [textFormMethod plan, equalMethod plan, digestMethod plan])

theorem methods_classBodyOf (plan : RecordPlan) : (classBodyOf plan).methods = methodsOf plan := by
  have all : (classBodyOf plan).methods = (members plan).filterMap asMethod? :=
    List.filterMap_map
  have declared : (plan.fields.map fun f => (⟨fieldStatement f, f.attributeName,
      .field (declaredSettings f), some (fieldType f)⟩ : Member)).filterMap asMethod? = [] := by
    refine List.filterMap_eq_nil_iff.2 fun m mem => ?_
    obtain ⟨f, -, rfl⟩ := List.mem_map.1 mem
    rfl
  have accessors : (plan.fields.flatMap fun f => [getterMember f, setterMember f]).filterMap
      asMethod? = plan.fields.flatMap fun f => [getterMethod f, setterMethod f] := by
    rw [List.filterMap_flatMap]
    rfl
  rw [all, members, List.filterMap_cons, List.filterMap_append, declared, List.filterMap_cons,
    List.filterMap_append, accessors]
  rfl

/-- The names of the methods follow those of the fields among the names of the members. -/
private theorem map_name_members_eq (plan : RecordPlan) : (members plan).map Member.name =
    "model_config" :: (plan.fields.map FieldPlan.attributeName ++
      (methodsOf plan).map Method.name) := by
  rw [map_name_members, methodsOf, List.map_cons, List.map_append, List.map_flatMap]
  rfl

section Known

variable (sound : plan.IsSound)
include sound

/-- The class knows its methods by their names. -/
theorem method?_recordOf {m : Method} (mem : m ∈ methodsOf plan) (space : String) :
    (recordOf plan space).method? m.name = some m := by
  have distinct := nodup_members sound
  rw [map_name_members_eq, List.nodup_cons, List.nodup_append] at distinct
  show (classBodyOf plan).methods.find? (fun n => n.name = m.name) = some m
  rw [methods_classBodyOf]
  exact find?_eq_some distinct.2.2.1 mem

/-- No method has the name of an attribute. -/
theorem name_ne_attributeName {m : Method} (mem : m ∈ methodsOf plan) (among : f ∈ plan.fields) :
    f.attributeName ≠ m.name := by
  have distinct := nodup_members sound
  rw [map_name_members_eq, List.nodup_cons, List.nodup_append] at distinct
  exact distinct.2.2.2 _ (List.mem_map_of_mem among) _ (List.mem_map_of_mem mem)

end Known

section Collected

variable {globals : Bindings}

/-- The annotations of a setter give its types, whatever the names of the module mean. -/
private theorem hintTypes_setterMethod (globals : Bindings) (f : FieldPlan) :
    Setter.hintTypes globals (setterMethod f).hints =
      .ok (some [("value", bareType f), (resultHint, .type .null)]) := by
  have result : bareTypeOfHint (.module globals) .null = .ok (.type .null) := rfl
  simp only [setterMethod, Setter.hintTypes, bareTypeOfHint_fieldType, result]
  rfl

/-- A method with a hidden name is no setter. -/
private theorem ofMethod?_of_isHidden {m : Method} (hidden : RecordClass.isHidden m.name = true) :
    Setter.ofMethod? globals m = .ok none := by
  rw [Setter.ofMethod?, hidden]
  rfl

/-- A getter is no setter. -/
private theorem ofMethod?_getterMethod (f : FieldPlan) :
    Setter.ofMethod? globals (getterMethod f) = .ok none := by
  rw [Setter.ofMethod?, if_pos]
  simp [getterMethod]

/-- The setter of a field is one. -/
private theorem ofMethod?_setterMethod (sound : f.IsSound) :
    Setter.ofMethod? globals (setterMethod f) = .ok (some (setterOf f)) := by
  have shown : RecordClass.isHidden (setterMethod f).name = false :=
    decide_eq_false sound.setterName.shown
  have carrier : Setter.parameterCarrier? (setterMethod f)
      [("value", bareType f), (resultHint, .type .null)] =
        some (f.kind.carrier, !f.required) := carrierOf?_bareType f
  rw [Setter.ofMethod?, shown, if_neg (by simp [setterMethod]), hintTypes_setterMethod]
  show Except.ok ((Setter.parameterCarrier? (setterMethod f) _).map _) = _
  rw [carrier]
  rfl

/-- The setters of the class are those of the fields. -/
theorem collect_recordOf (sound : plan.IsSound) (globals : Bindings) (space : String) :
    Setter.collect globals (recordOf plan space) = .ok (plan.fields.map setterOf) := by
  have first : Setter.ofMethod? globals constructorMethod = .ok none :=
    ofMethod?_of_isHidden (by decide)
  have last : [textFormMethod plan, equalMethod plan, digestMethod plan].mapM
      (Setter.ofMethod? globals) = .ok [none, none, none] :=
    mapM_eq_pure (g := fun _ => none) fun m mem => ofMethod?_of_isHidden (by
      simp only [List.mem_cons, List.not_mem_nil, or_false] at mem
      obtain rfl | rfl | rfl := mem <;>
        simp [RecordClass.isHidden, textFormMethod, equalMethod, digestMethod])
  have accessors : ∀ fields : List FieldPlan, (∀ f ∈ fields, f.IsSound) →
      (fields.flatMap fun f => [getterMethod f, setterMethod f]).mapM (Setter.ofMethod? globals) =
        .ok (fields.flatMap fun f => [none, some (setterOf f)]) := by
    intro fields sound
    induction fields with
    | nil => rfl
    | cons f fields ih =>
      obtain ⟨here, others⟩ := List.forall_mem_cons.1 sound
      show (getterMethod f :: setterMethod f :: fields.flatMap _).mapM _ = _
      rw [List.mapM_cons, List.mapM_cons, ofMethod?_getterMethod, ofMethod?_setterMethod here,
        ih others]
      rfl
  have collected : (plan.fields.flatMap fun f => [none, some (setterOf f)]).filterMap id =
      plan.fields.map setterOf := by
    rw [List.filterMap_flatMap, List.map_eq_flatMap]
    rfl
  rw [Setter.collect, recordOf, methods_classBodyOf, methodsOf, List.mapM_cons, List.mapM_append,
    first, accessors _ sound.fields, last]
  show Except.ok (List.filterMap id (none :: ((plan.fields.flatMap fun f =>
    [none, some (setterOf f)]) ++ [none, none, none]))) = _
  rw [List.filterMap_cons, List.filterMap_append, collected]
  simp

end Collected

end FlatRecord.Generation
