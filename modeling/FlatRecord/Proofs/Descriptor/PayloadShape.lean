import FlatRecord.CommandLine.Input
import FlatRecord.Proofs.Json.ReadValues
import Mathlib.Data.List.Forall2
import Mathlib.Data.List.Nodup
import Mathlib.Data.List.Pairwise
import Mathlib.Data.List.Perm.Basic

/-!
# The shape of payloads

What a payload declares, stated by the members of its objects: each part of a declaration is said by one
member, under one of the keys of the part, or by none if it may be left out, and there is no member
besides. A payload is read exactly if it declares a descriptor, and as that descriptor.
-/

namespace FlatRecord

namespace Datum

/-- How a default is spelled: null stays null, and a scalar becomes the text that it is written as. -/
inductive SpelledAs : Datum → Datum → Prop where
  | null : SpelledAs .null .null
  | text (s : String) : SpelledAs (.text s) (.text s)
  | bool (b : Bool) : SpelledAs (.bool b) (.text (if b then "true" else "false"))
  | int (n : Int) : SpelledAs (.int n) (.text (Number.integerString n))
  | float (x : Number.Binary64) : SpelledAs (.float x) (.text (Number.floatString x))

end Datum

namespace Payload

open Datum (memberEntries)

variable {α : Type}

/-- The members of an object that say what a part is: one member under one of the keys of the part, or none
if the part may be left out. -/
inductive Tells (keys : List String) (means : Datum → α → Prop) (absent : Option α) :
    List (String × Datum) → α → Prop where
  | member {key : String} {v : Datum} {a : α} (known : key ∈ keys) (meant : means v a) :
      Tells keys means absent [(key, v)] a
  | silence {a : α} (optional : absent = some a) : Tells keys means absent [] a

/-- What a field declaration declares, where `spelled` tells what a default stands for. -/
inductive DeclaresField (spelled : Datum → Datum → Prop) : Datum → FieldSpec → Prop where
  | object {members name typeName required default : List (String × Datum)} {f : FieldSpec}
      (parts : members.Perm (name ++ (typeName ++ (required ++ default))))
      (ofName : Tells ["name"] (fun v s => v = .text s) none name f.name)
      (ofType : Tells ["type"] (fun v s => v = .text s) none typeName f.typeName)
      (ofRequired : Tells ["required"] (fun v b => v = .bool b) (some false) required f.required)
      (ofDefault : Tells defaultKeys spelled (some .null) default f.default) :
      DeclaresField spelled (.object members) f

/-- What a list of field declarations declares. -/
def DeclaresFields (spelled : Datum → Datum → Prop) (v : Datum) (fields : List FieldSpec) : Prop :=
  ∃ items, v = .list items ∧ List.Forall₂ (DeclaresField spelled) items fields

/-- What a payload declares, where `spelled` tells what a default stands for. -/
inductive Declares (spelled : Datum → Datum → Prop) : Datum → Descriptor → Prop where
  | object {members typeName space fields description : List (String × Datum)} {d : Descriptor}
      (parts : members.Perm (typeName ++ (space ++ (fields ++ description))))
      (ofType : Tells typeNameKeys (fun v s => v = .text s) none typeName d.typeName)
      (ofSpace : Tells spaceKeys (fun v s => v = .text s) none space d.space)
      (ofFields : Tells ["fields"] (DeclaresFields spelled) none fields d.fields)
      (ofDescription : Tells ["description"] (fun v t => v = Datum.ofText? t) (some none)
        description d.description) :
      Declares spelled (.object members) d

section Parts

variable {members part : List (String × Datum)} {keys : List String} {means : Datum → α → Prop}
  {absent : Option α} {a : α}

/-- What tells of a part is one member at most, and has one of its keys. -/
def Fits (keys : List String) (part : List (String × Datum)) : Prop :=
  (∀ m ∈ part, m.1 ∈ keys) ∧ part.length ≤ 1

theorem Tells.fits (told : Tells keys means absent part a) : Fits keys part := by
  cases told with
  | member known meant => exact ⟨List.forall_mem_singleton.2 known, Nat.le_refl 1⟩
  | silence optional => exact ⟨List.forall_mem_nil _, Nat.zero_le 1⟩

/-- The member that a part is read from. -/
def readMember (members : List (String × Datum)) (keys : List String) : List (String × Datum) :=
  (findKey? (memberEntries members) keys).toList

/-- A part is read from a member under one of its keys. -/
theorem mem_of_findKey? (distinct : (members.map Prod.fst).Nodup) {key : String} {v : Datum}
    (found : findKey? (memberEntries members) keys = some (key, v)) :
    key ∈ keys ∧ (key, v) ∈ members := by
  induction keys with
  | nil => cases found
  | cons first keys ih =>
    rw [findKey?] at found
    split at found
    · rename_i w here
      obtain ⟨rfl, rfl⟩ := Prod.mk.inj (Option.some.inj found)
      exact ⟨.head _, (Datum.field?_memberEntries distinct).1 here⟩
    · exact (ih found).imp_left (.tail _)

/-- No member is read exactly if none has one of the keys. -/
theorem findKey?_eq_none_iff (distinct : (members.map Prod.fst).Nodup) :
    findKey? (memberEntries members) keys = none ↔ ∀ m ∈ members, m.1 ∉ keys := by
  induction keys with
  | nil => simp [findKey?]
  | cons first keys ih =>
    rw [findKey?]
    split
    · rename_i v here
      have mem := (Datum.field?_memberEntries distinct).1 here
      simp only [reduceCtorEq, false_iff, not_forall]
      exact ⟨_, mem, not_not.2 (.head _)⟩
    · rename_i absent
      have fresh : ∀ m ∈ members, m.1 ≠ first := by
        rintro ⟨key, v⟩ mem rfl
        exact Option.some_ne_none _ (((Datum.field?_memberEntries distinct).2 mem).symm.trans absent)
      rw [ih]
      refine forall₂_congr fun m mem => ?_
      simp [fresh m mem]

theorem mem_readMember (distinct : (members.map Prod.fst).Nodup) {m : String × Datum}
    (mem : m ∈ readMember members keys) : m.1 ∈ keys ∧ m ∈ members :=
  mem_of_findKey? distinct (Option.mem_toList.1 mem)

/-- If one member at most has a key of a part, the part is read from it. -/
theorem readMember_eq (distinct : (members.map Prod.fst).Nodup)
    (own : ∀ m ∈ members, m.1 ∈ keys ↔ m ∈ part) (within : part ⊆ members)
    (short : part.length ≤ 1) :
    readMember members keys = part := by
  unfold readMember
  cases found : findKey? (memberEntries members) keys with
  | none =>
    have none := (findKey?_eq_none_iff distinct).1 found
    obtain rfl : part = [] := List.eq_nil_iff_forall_not_mem.2 fun m mem =>
      none m (within mem) ((own m (within mem)).2 mem)
    rfl
  | some m =>
    obtain ⟨known, mem⟩ := mem_of_findKey? distinct found
    have among := (own m mem).1 known
    match part, short with
    | [_], _ => rw [List.mem_singleton.1 among]; rfl

/-- What the member of a part tells, or its absence. -/
theorem tells_readMember_iff (distinct : (members.map Prod.fst).Nodup) :
    Tells keys means absent (readMember members keys) a ↔
      match findKey? (memberEntries members) keys with
      | some m => means m.2 a
      | none => absent = some a := by
  unfold readMember
  cases found : findKey? (memberEntries members) keys with
  | none =>
    refine ⟨fun told => ?_, .silence⟩
    cases told with
    | silence optional => exact optional
  | some m =>
    refine ⟨fun told => ?_, .member (mem_of_findKey? distinct found).1⟩
    cases told with
    | member known meant => exact meant

/-- A part that must be there is read as what its member tells. -/
theorem requiredPart_eq_ok_iff (distinct : (members.map Prod.fst).Nodup) (means : Datum → α → Prop)
    {check : List String → Datum → Checked α} {path : List String}
    (meant : ∀ path, ∀ m ∈ members, check path m.2 = .ok a ↔ means m.2 a) :
    requiredPart path (memberEntries members) keys check = .ok a ↔
      Tells keys means none (readMember members keys) a := by
  rw [tells_readMember_iff distinct, requiredPart]
  cases found : findKey? (memberEntries members) keys with
  | none => simp
  | some m => exact meant _ m (mem_of_findKey? distinct found).2

/-- A part that may be left out is read as what its member tells, or as what its absence means. -/
theorem optionalPart_eq_ok_iff (distinct : (members.map Prod.fst).Nodup) (means : Datum → α → Prop)
    {check : List String → Datum → Checked α} {path : List String} {unsaid : α}
    (meant : ∀ path, ∀ m ∈ members, check path m.2 = .ok a ↔ means m.2 a) :
    optionalPart path (memberEntries members) keys unsaid check = .ok a ↔
      Tells keys means (some unsaid) (readMember members keys) a := by
  rw [tells_readMember_iff distinct, optionalPart]
  cases found : findKey? (memberEntries members) keys with
  | none => simp
  | some m => exact meant _ m (mem_of_findKey? distinct found).2

/-- There is a complaint about no key exactly if every member is read for some part. -/
theorem extraKeys_eq_nil_iff {path used : List String} :
    extraKeys path (memberEntries members) used = [] ↔ ∀ m ∈ members, m.1 ∈ used := by
  rw [extraKeys, List.map_eq_nil_iff, List.filter_eq_nil_iff, memberEntries, List.forall_mem_map]
  simp

end Parts

section Groups

variable {members : List (String × Datum)} {groups : List (List String)}

/-- No key is left over exactly if the members are those that the parts are read from. -/
theorem extraKeys_usedKeys_eq_nil_iff (distinct : (members.map Prod.fst).Nodup)
    (apart : groups.Pairwise List.Disjoint) {path : List String} :
    extraKeys path (memberEntries members) (usedKeys (memberEntries members) groups) = [] ↔
      members.Perm (groups.flatMap (readMember members)) := by
  have used (key : String) : key ∈ usedKeys (memberEntries members) groups ↔
      ∃ keys ∈ groups, ∃ v, (key, v) ∈ readMember members keys := by
    simp [usedKeys, readMember, Option.mem_toList]
  rw [extraKeys_eq_nil_iff]
  constructor
  · intro none
    have unique : (groups.flatMap (readMember members)).Nodup := by
      refine List.nodup_flatMap.2 ⟨fun keys _ => Option.toList_nodup _, apart.imp fun apart => ?_⟩
      intro m first second
      exact apart (mem_readMember distinct first).1 (mem_readMember distinct second).1
    refine (List.perm_ext_iff_of_nodup distinct.of_map unique).2 fun m => ?_
    rw [List.mem_flatMap]
    constructor
    · intro mem
      obtain ⟨keys, group, v, read⟩ := (used m.1).1 (none m mem)
      have same : (m.1, v) = m :=
        List.inj_on_of_nodup_map distinct (mem_readMember distinct read).2 mem rfl
      exact ⟨keys, group, same ▸ read⟩
    · rintro ⟨keys, -, read⟩
      exact (mem_readMember distinct read).2
  · intro parts m mem
    obtain ⟨keys, group, read⟩ := List.mem_flatMap.1 (parts.mem_iff.1 mem)
    exact (used m.1).2 ⟨keys, group, m.2, read⟩

/-- If parts make up an object, each under keys of its own, they are the members that are read for them. -/
theorem readMember_eq_of_perm (distinct : (members.map Prod.fst).Nodup)
    {parts : List (List String × List (String × Datum))}
    (apart : (parts.map Prod.fst).Pairwise List.Disjoint)
    (fits : ∀ p ∈ parts, Fits p.1 p.2)
    (whole : members.Perm (parts.flatMap Prod.snd)) : ∀ p ∈ parts, readMember members p.1 = p.2 := by
  intro p among
  obtain ⟨known, short⟩ := fits p among
  refine readMember_eq distinct (fun m mem => ⟨fun own => ?_, known m⟩)
    (fun m mem => whole.mem_iff.2 (List.mem_flatMap.2 ⟨p, among, mem⟩)) short
  obtain ⟨q, there, inside⟩ := List.mem_flatMap.1 (whole.mem_iff.1 mem)
  have : Std.Symm fun p q : List String × List (String × Datum) => p.1.Disjoint q.1 :=
    ⟨fun _ _ disjoint _ first second => disjoint second first⟩
  by_cases same : p = q
  · exact same ▸ inside
  · exact absurd ((fits q there).1 m inside) ((List.pairwise_map.1 apart).forall among there same own)

/-- The four parts that make up a declaration are the members that are read for them. -/
theorem readMember_eq_of_perm_four (distinct : (members.map Prod.fst).Nodup)
    {keys₁ keys₂ keys₃ keys₄ : List String} {part₁ part₂ part₃ part₄ : List (String × Datum)}
    (apart : [keys₁, keys₂, keys₃, keys₄].Pairwise List.Disjoint) (fits₁ : Fits keys₁ part₁)
    (fits₂ : Fits keys₂ part₂) (fits₃ : Fits keys₃ part₃) (fits₄ : Fits keys₄ part₄)
    (whole : members.Perm (part₁ ++ (part₂ ++ (part₃ ++ part₄)))) :
    readMember members keys₁ = part₁ ∧ readMember members keys₂ = part₂ ∧
      readMember members keys₃ = part₃ ∧ readMember members keys₄ = part₄ := by
  have each : ∀ p ∈ [(keys₁, part₁), (keys₂, part₂), (keys₃, part₃), (keys₄, part₄)],
      readMember members p.1 = p.2 := by
    refine readMember_eq_of_perm distinct apart ?_ (by simpa using whole)
    simp only [List.forall_mem_cons]
    exact ⟨fits₁, fits₂, fits₃, fits₄, List.forall_mem_nil _⟩
  simp only [List.forall_mem_cons] at each
  exact ⟨each.1, each.2.1, each.2.2.1, each.2.2.2.1⟩

end Groups

theorem checkText_eq_ok_iff {path : List String} {v : Datum} {s : String} :
    checkText path v = .ok s ↔ v = .text s := by
  cases v <;> simp [checkText]

theorem checkOptionalText_eq_ok_iff {path : List String} {v : Datum} {t : Option String} :
    checkOptionalText path v = .ok t ↔ v = Datum.ofText? t := by
  cases v <;> cases t <;> simp [checkOptionalText, Datum.ofText?]

theorem checkBoolean_eq_ok_iff {path : List String} {v : Datum} {b : Bool} :
    checkBoolean path v = .ok b ↔ v = .bool b := by
  cases v <;> simp [checkBoolean]

theorem checkDefault_eq_ok_iff {path : List String} {v w : Datum} :
    checkDefault path v = .ok w ↔ v.SpelledAs w := by
  constructor
  · intro read
    cases v with
    | null | text | bool | int | float => cases read; constructor
    | _ => cases read
  · rintro (_ | _) <;> rfl

/-- A field declaration is read if all its parts are and no key is left over. -/
theorem checkField_map_eq_ok_iff {path : List String} {entries : List (Datum × Datum)} {f : FieldSpec} :
    checkField path (.map entries) = .ok f ↔
      requiredPart path entries ["name"] checkText = .ok f.name ∧
      requiredPart path entries ["type"] checkText = .ok f.typeName ∧
      optionalPart path entries ["required"] false checkBoolean = .ok f.required ∧
      optionalPart path entries defaultKeys .null checkDefault = .ok f.default ∧
      extraKeys path entries
        (usedKeys entries [["name"], ["type"], ["required"], defaultKeys]) = [] := by
  unfold checkField
  constructor
  · intro read
    dsimp only at read
    split at read
    · rename_i name typeName required default extra
      cases read
      exact ⟨name, typeName, required, default, extra⟩
    · cases read
  · rintro ⟨name, typeName, required, default, extra⟩
    simp only [name, typeName, required, default, extra]

/-- A payload is read if all its parts are and no key is left over. -/
theorem read_map_eq_ok_iff {entries : List (Datum × Datum)} {d : Descriptor} :
    read (.map entries) = .ok d ↔
      requiredPart [] entries typeNameKeys checkText = .ok d.typeName ∧
      requiredPart [] entries spaceKeys checkText = .ok d.space ∧
      requiredPart [] entries ["fields"] checkFields = .ok d.fields ∧
      optionalPart [] entries ["description"] none checkOptionalText = .ok d.description ∧
      extraKeys [] entries
        (usedKeys entries [typeNameKeys, spaceKeys, ["fields"], ["description"]]) = [] := by
  unfold read
  constructor
  · intro read
    dsimp only at read
    split at read
    · rename_i typeName space fields description extra
      cases read
      exact ⟨typeName, space, fields, description, extra⟩
    · cases read
  · rintro ⟨typeName, space, fields, description, extra⟩
    simp only [typeName, space, fields, description, extra]

section Shapes

variable {among : Int → Prop} {members : List (String × Datum)}

theorem apart_fieldKeys : [["name"], ["type"], ["required"], defaultKeys].Pairwise List.Disjoint := by
  simp [defaultKeys]

theorem apart_payloadKeys :
    [typeNameKeys, spaceKeys, ["fields"], ["description"]].Pairwise List.Disjoint := by
  simp [typeNameKeys, spaceKeys]

/-- The declaration of a field by an object, as its members are read. -/
theorem declaresField_object_iff {spelled : Datum → Datum → Prop}
    (distinct : (members.map Prod.fst).Nodup) {f : FieldSpec} :
    DeclaresField spelled (.object members) f ↔
      Tells ["name"] (fun v s => v = .text s) none (readMember members ["name"]) f.name ∧
      Tells ["type"] (fun v s => v = .text s) none (readMember members ["type"]) f.typeName ∧
      Tells ["required"] (fun v b => v = .bool b) (some false) (readMember members ["required"])
        f.required ∧
      Tells defaultKeys spelled (some .null) (readMember members defaultKeys) f.default ∧
      members.Perm ([["name"], ["type"], ["required"], defaultKeys].flatMap (readMember members)) := by
  constructor
  · intro declared
    generalize same : Datum.object members = v at declared
    cases declared with
    | object parts ofName ofType ofRequired ofDefault =>
      obtain rfl := Datum.memberEntries_injective (Datum.map.inj same)
      obtain ⟨rfl, rfl, rfl, rfl⟩ := readMember_eq_of_perm_four distinct apart_fieldKeys ofName.fits
        ofType.fits ofRequired.fits ofDefault.fits parts
      exact ⟨ofName, ofType, ofRequired, ofDefault, by simpa using parts⟩
  · rintro ⟨ofName, ofType, ofRequired, ofDefault, parts⟩
    exact .object (by simpa using parts) ofName ofType ofRequired ofDefault

/-- The declaration of a descriptor by an object, as its members are read. -/
theorem declares_object_iff {spelled : Datum → Datum → Prop}
    (distinct : (members.map Prod.fst).Nodup) {d : Descriptor} :
    Declares spelled (.object members) d ↔
      Tells typeNameKeys (fun v s => v = .text s) none (readMember members typeNameKeys) d.typeName ∧
      Tells spaceKeys (fun v s => v = .text s) none (readMember members spaceKeys) d.space ∧
      Tells ["fields"] (DeclaresFields spelled) none (readMember members ["fields"]) d.fields ∧
      Tells ["description"] (fun v t => v = Datum.ofText? t) (some none)
        (readMember members ["description"]) d.description ∧
      members.Perm ([typeNameKeys, spaceKeys, ["fields"], ["description"]].flatMap
        (readMember members)) := by
  constructor
  · intro declared
    generalize same : Datum.object members = v at declared
    cases declared with
    | object parts ofType ofSpace ofFields ofDescription =>
      obtain rfl := Datum.memberEntries_injective (Datum.map.inj same)
      obtain ⟨rfl, rfl, rfl, rfl⟩ := readMember_eq_of_perm_four distinct apart_payloadKeys ofType.fits
        ofSpace.fits ofFields.fits ofDescription.fits parts
      exact ⟨ofType, ofSpace, ofFields, ofDescription, by simpa using parts⟩
  · rintro ⟨ofType, ofSpace, ofFields, ofDescription, parts⟩
    exact .object (by simpa using parts) ofType ofSpace ofFields ofDescription

/-- A field declaration is read as what it declares. -/
theorem checkField_eq_ok_iff {v : Datum} (json : v.IsJson among) {path : List String} {f : FieldSpec} :
    checkField path v = .ok f ↔ DeclaresField Datum.SpelledAs v f := by
  cases v with
  | map entries =>
    obtain ⟨members, rfl, distinct, -⟩ := json.object_inv
    rw [checkField_map_eq_ok_iff,
      requiredPart_eq_ok_iff distinct (fun v s => v = .text s) fun _ _ _ => checkText_eq_ok_iff,
      requiredPart_eq_ok_iff distinct (fun v s => v = .text s) fun _ _ _ => checkText_eq_ok_iff,
      optionalPart_eq_ok_iff distinct (fun v b => v = .bool b) fun _ _ _ => checkBoolean_eq_ok_iff,
      optionalPart_eq_ok_iff distinct Datum.SpelledAs fun _ _ _ => checkDefault_eq_ok_iff,
      extraKeys_usedKeys_eq_nil_iff distinct apart_fieldKeys]
    exact (declaresField_object_iff distinct).symm
  | _ => exact iff_of_false (fun read => by cases read) fun declared => by cases declared

/-- Field declarations are read as what each of them declares. -/
theorem checkFieldsFrom_eq_ok_iff {path : List String} {items : List Datum}
    (json : ∀ v ∈ items, v.IsJson among) {index : Nat} {fields : List FieldSpec} :
    checkFieldsFrom path index items = .ok fields ↔
      List.Forall₂ (DeclaresField Datum.SpelledAs) items fields := by
  induction items generalizing index fields with
  | nil =>
    rw [List.forall₂_nil_left_iff, checkFieldsFrom]
    exact ⟨fun read => (Except.ok.inj read).symm, fun none => congrArg Except.ok none.symm⟩
  | cons v items ih =>
    obtain ⟨first, others⟩ := List.forall_mem_cons.1 json
    constructor
    · intro read
      rw [checkFieldsFrom] at read
      split at read
      · rename_i f fs here behind
        cases read
        exact .cons ((checkField_eq_ok_iff first).1 here) ((ih others).1 behind)
      · cases read
    · intro declared
      cases declared with
      | cons here behind =>
        rw [checkFieldsFrom, (checkField_eq_ok_iff first).2 here, (ih others).2 behind]

theorem checkFields_eq_ok_iff {path : List String} {v : Datum} (json : v.IsJson among)
    {fields : List FieldSpec} :
    checkFields path v = .ok fields ↔ DeclaresFields Datum.SpelledAs v fields := by
  constructor
  · intro read
    unfold checkFields at read
    split at read
    · rename_i items
      exact ⟨items, rfl, (checkFieldsFrom_eq_ok_iff json.list_inv).1 read⟩
    · cases read
  · rintro ⟨items, rfl, each⟩
    exact (checkFieldsFrom_eq_ok_iff json.list_inv).2 each

/-- The value of a JSON text is read as the descriptors that it declares. -/
theorem read_eq_ok_iff {p : Datum} (json : p.IsJson among) {d : Descriptor} :
    read p = .ok d ↔ Declares Datum.SpelledAs p d := by
  cases p with
  | map entries =>
    obtain ⟨members, rfl, distinct, each⟩ := json.object_inv
    rw [read_map_eq_ok_iff,
      requiredPart_eq_ok_iff distinct (fun v s => v = .text s) fun _ _ _ => checkText_eq_ok_iff,
      requiredPart_eq_ok_iff distinct (fun v s => v = .text s) fun _ _ _ => checkText_eq_ok_iff,
      requiredPart_eq_ok_iff distinct (DeclaresFields Datum.SpelledAs) fun _ m mem =>
        checkFields_eq_ok_iff (each m mem),
      optionalPart_eq_ok_iff distinct (fun v t => v = Datum.ofText? t) fun _ _ _ =>
        checkOptionalText_eq_ok_iff,
      extraKeys_usedKeys_eq_nil_iff distinct apart_payloadKeys]
    exact (declares_object_iff distinct).symm
  | _ => exact iff_of_false (fun read => by cases read) fun declared => by cases declared

end Shapes

/-- A payload whose integers can all be written has no default that cannot. -/
theorem hasUnwritableDefault_eq_false {entries : List (Datum × Datum)}
    (json : Datum.IsJson (fun n => Number.isUnwritable n = false) (.map entries)) :
    hasUnwritableDefault entries = false := by
  obtain ⟨members, rfl, distinct, each⟩ := json.object_inv
  unfold hasUnwritableDefault
  split
  · rename_i key items found
    have listed := (each _ (mem_of_findKey? distinct found).2).list_inv
    refine List.any_eq_false.2 fun v mem => ?_
    rw [Bool.not_eq_true]
    unfold givesUnwritable
    split
    · obtain ⟨fieldMembers, rfl, distinct, each⟩ := (listed _ mem).object_inv
      split
      · rename_i key v found
        have given := each _ (mem_of_findKey? distinct found).2
        cases v with
        | int n => exact given.int_inv
        | _ => rfl
      · rfl
    · rfl
  · rfl

/-- A payload is parsed if it is read and no default is too long to be written. -/
theorem parse_map_eq_ok_iff {entries : List (Datum × Datum)} {d : Descriptor} :
    parse (.map entries) = .ok d ↔
      read (.map entries) = .ok d ∧ hasUnwritableDefault entries = false := by
  rw [parse]
  cases read (.map entries) <;> cases hasUnwritableDefault entries <;>
    simp [Except.mapError, bind, Except.bind, pure, Except.pure]

/-- A payload that is the value of a JSON text, with integers that can be written, is parsed exactly if it
declares a descriptor, and as that descriptor. Any other is refused with a fault. -/
theorem parse_eq_ok_iff {p : Datum} (json : p.IsJson fun n => Number.isUnwritable n = false) :
    (∀ d, parse p = .ok d ↔ Declares Datum.SpelledAs p d) ∧
      ((¬ ∃ d, Declares Datum.SpelledAs p d) → ∃ fault, parse p = .error (.fault fault)) := by
  cases p with
  | map entries =>
    have writable := hasUnwritableDefault_eq_false json
    refine ⟨fun d => ?_, fun none => ?_⟩
    · rw [parse_map_eq_ok_iff, and_iff_left writable, read_eq_ok_iff json]
    · cases result : read (.map entries) with
      | ok d => exact absurd ⟨d, (read_eq_ok_iff json).1 result⟩ none
      | error fault =>
        refine ⟨fault, ?_⟩
        rw [parse, result]
        rfl
  | _ =>
    refine ⟨fun d => iff_of_false (fun parsed => ?_) fun declared => ?_, fun _ => ⟨_, rfl⟩⟩
    · cases parsed
    · cases declared

section Defaults

variable {among : Int → Prop}

theorem Tells.spelled {part : List (String × Datum)} {v w : Datum}
    (told : Tells defaultKeys Eq (some .null) part v) (spelled : v.SpelledAs w) :
    Tells defaultKeys Datum.SpelledAs (some .null) part w := by
  cases told with
  | member known given =>
    subst given
    exact .member known spelled
  | silence optional =>
    obtain rfl := Option.some.inj optional
    cases spelled
    exact .silence rfl

theorem DeclaresField.spelled {v w : Datum} {f : FieldSpec} (declared : DeclaresField Eq v f)
    (spelled : f.default.SpelledAs w) : DeclaresField Datum.SpelledAs v { f with default := w } := by
  cases declared with
  | object parts ofName ofType ofRequired ofDefault =>
    exact .object parts ofName ofType ofRequired (ofDefault.spelled spelled)

/-- A payload that gives its only field a default declares the text that the default is spelled as. -/
theorem Declares.spelled {p w : Datum} {d : Descriptor} {f : FieldSpec} (declared : Declares Eq p d)
    (single : d.fields = [f]) (spelled : f.default.SpelledAs w) :
    Declares Datum.SpelledAs p { d with fields := [{ f with default := w }] } := by
  cases declared with
  | object parts ofType ofSpace ofFields ofDescription =>
    refine .object parts ofType ofSpace ?_ ofDescription
    cases ofFields with
    | member known listed =>
      obtain ⟨items, rfl, each⟩ := listed
      rw [single] at each
      cases each with
      | cons first none =>
        cases none
        exact .member known ⟨_, rfl, .cons (first.spelled spelled) .nil⟩
    | silence optional => cases optional

theorem DeclaresField.givesUnwritable_eq {v : Datum} (json : v.IsJson among) {f : FieldSpec}
    (declared : DeclaresField Eq v f) : givesUnwritable v = f.default.isUnwritable := by
  cases v with
  | map entries =>
    obtain ⟨members, rfl, distinct, -⟩ := json.object_inv
    obtain ⟨-, -, -, told, -⟩ := (declaresField_object_iff distinct).1 declared
    rw [tells_readMember_iff distinct] at told
    rw [givesUnwritable]
    cases found : findKey? (memberEntries members) defaultKeys with
    | none =>
      rw [found] at told
      exact congrArg Datum.isUnwritable (Option.some.inj told)
    | some m =>
      rw [found] at told
      exact congrArg Datum.isUnwritable told
  | _ => cases declared

/-- A payload has a default that is too long to be written if it declares one. -/
theorem Declares.hasUnwritableDefault_eq {entries : List (Datum × Datum)}
    (json : Datum.IsJson among (.map entries)) {d : Descriptor} (declared : Declares Eq (.map entries) d) :
    hasUnwritableDefault entries = d.fields.any fun f => f.default.isUnwritable := by
  obtain ⟨members, rfl, distinct, each⟩ := json.object_inv
  obtain ⟨-, -, told, -⟩ := (declares_object_iff distinct).1 declared
  rw [tells_readMember_iff distinct] at told
  unfold hasUnwritableDefault
  cases found : findKey? (memberEntries members) ["fields"] with
  | none =>
    rw [found] at told
    cases told
  | some m =>
    rw [found] at told
    obtain ⟨key, v⟩ := m
    obtain ⟨items, rfl, fields⟩ := told
    have listed := (each _ (mem_of_findKey? distinct found).2).list_inv
    clear found declared
    generalize d.fields = declared at fields
    dsimp only
    induction fields with
    | nil => rfl
    | cons first others ih =>
      obtain ⟨json, rest⟩ := List.forall_mem_cons.1 listed
      rw [List.any_cons, List.any_cons, first.givesUnwritable_eq json, ih rest]

end Defaults

/-- A payload with its parts under other keys than the first ones, and in another order than they are
read in. -/
def counterPayload : Datum :=
  .object [("description", .null),
    ("fields", .list [
      .object [("name", .text "step"), ("type", .text "long"), ("default_value", .int (-5))],
      .object [("name", .text "on"), ("type", .text "boolean"), ("required", .bool true),
        ("defaultValue", .bool true)]]),
    ("packageName", .text "a.b"), ("className", .text "Counter")]

/-- What the payload declares. -/
def counter : Descriptor where
  typeName := "Counter"
  space := "a.b"
  fields := [⟨"step", "long", false, .text "-5"⟩, ⟨"on", "boolean", true, .text "true"⟩]
  description := none

theorem isJson_counterPayload :
    counterPayload.IsJson fun n => Number.isUnwritable n = false := by
  unfold counterPayload
  refine .object (by decide) ?_
  simp only [List.forall_mem_cons]
  refine ⟨.null, .list ?_, .text _, .text _, List.forall_mem_nil _⟩
  simp only [List.forall_mem_cons]
  refine ⟨.object (by decide) ?_, .object (by decide) ?_, List.forall_mem_nil _⟩
  · simp only [List.forall_mem_cons]
    exact ⟨.text _, .text _, .int (by decide), List.forall_mem_nil _⟩
  · simp only [List.forall_mem_cons]
    exact ⟨.text _, .text _, .bool _, .bool _, List.forall_mem_nil _⟩

/-- The payload is parsed as what it declares: its defaults are spelled out. -/
theorem parse_counterPayload :
    (counterPayload.IsJson fun n => Number.isUnwritable n = false) ∧
      parse counterPayload = .ok counter := by
  have step : DeclaresField Datum.SpelledAs
      (.object [("name", .text "step"), ("type", .text "long"), ("default_value", .int (-5))])
      ⟨"step", "long", false, .text "-5"⟩ :=
    .object (.refl _) (.member (.head _) rfl) (.member (.head _) rfl) (.silence rfl)
      (.member (by decide) (.int (-5)))
  have on : DeclaresField Datum.SpelledAs
      (.object [("name", .text "on"), ("type", .text "boolean"), ("required", .bool true),
        ("defaultValue", .bool true)]) ⟨"on", "boolean", true, .text "true"⟩ :=
    .object (.refl _) (.member (.head _) rfl) (.member (.head _) rfl) (.member (.head _) rfl)
      (.member (by decide) (.bool true))
  have declared : Declares Datum.SpelledAs counterPayload counter :=
    .object (List.reverse_perm _).symm (.member (by decide) rfl) (.member (by decide) rfl)
      (.member (.head _) ⟨_, rfl, .cons step (.cons on .nil)⟩) (.member (.head _) rfl)
  exact ⟨isJson_counterPayload, ((parse_eq_ok_iff isJson_counterPayload).1 counter).2 declared⟩

end Payload

namespace CommandLine

open Storage (FileTree Path)

section Files

variable {files : FileTree} {p : Path}

/-- The descriptor in a file is what the document in it is parsed as. -/
theorem readDescriptor_eq (files : FileTree) (p : Path) :
    readDescriptor files p = readDocument files p >>= fun entries =>
      (Payload.parse (.map entries)).mapError fun refusal =>
        match refusal with
        | .fault fault => .usage fault.message
        | .unwritableInteger => .escape (.marshal .unwritableInteger) := by
  unfold readDescriptor
  refine congrArg _ (funext fun entries => ?_)
  rw [Payload.parse]
  cases Payload.read (.map entries) with
  | error fault => rfl
  | ok d => cases Payload.hasUnwritableDefault entries <;> rfl

theorem parseJson_eq_ok_iff {text : String} {v : Datum} :
    parseJson p text = .ok v ↔ Json.read text = .ok v := by
  unfold parseJson
  cases Json.read text with
  | error fault =>
    refine iff_of_false (fun parsed => ?_) fun read => by cases read
    dsimp only at parsed
    split at parsed <;> cases parsed
  | ok v => rw [Except.ok.injEq, Except.ok.injEq]

/-- A file with a JSON text holds the document that the text is read as. -/
theorem readDocument_eq_ok_iff {text : String} (json : isJsonPath p = true)
    (holds : readText files p = .ok text) {entries : Document} :
    readDocument files p = .ok entries ↔ Json.read text = .ok (.map entries) := by
  rw [← parseJson_eq_ok_iff (p := p)]
  unfold readDocument
  simp only [holds, json, if_true, Except.mapError, ok_bind, bind_eq_ok]
  constructor
  · rintro ⟨v, parsed, mapping⟩
    cases v with
    | map entries' => rw [parsed, ← Except.ok.inj mapping]
    | _ => cases mapping
  · intro parsed
    exact ⟨_, parsed, rfl⟩

/-- A file with a JSON text holds a descriptor exactly if the text is read as a payload that declares it. -/
theorem readDescriptor_eq_ok_iff {text : String} (json : isJsonPath p = true)
    (holds : readText files p = .ok text) {d : Descriptor} :
    readDescriptor files p = .ok d ↔
      ∃ v, Json.read text = .ok v ∧ Payload.Declares Datum.SpelledAs v d := by
  rw [readDescriptor_eq, bind_eq_ok]
  constructor
  · rintro ⟨entries, document, read⟩
    have parsed := (readDocument_eq_ok_iff json holds).1 document
    rw [← toOption_eq_some, toOption_mapError, toOption_eq_some] at read
    obtain ⟨read, -⟩ := Payload.parse_map_eq_ok_iff.1 read
    exact ⟨_, parsed, (Payload.read_eq_ok_iff (Json.isValue_of_read parsed)).1 read⟩
  · rintro ⟨v, parsed, declared⟩
    have value := Json.isValue_of_read parsed
    cases v with
    | map entries =>
      refine ⟨entries, (readDocument_eq_ok_iff json holds).2 parsed, ?_⟩
      have read := Payload.parse_map_eq_ok_iff.2
        ⟨(Payload.read_eq_ok_iff value).2 declared, Payload.hasUnwritableDefault_eq_false value⟩
      rw [read]
      rfl
    | _ => cases declared

end Files

end CommandLine

end FlatRecord
