import FlatRecord.Json.Writer
import FlatRecord.Proofs.Outcome

/-!
# Data with a JSON form

Nulls, truth values, numbers and texts have a JSON form, as values and as keys. Lists and mappings have one
if their parts do. Byte strings, dates, date-times, decimals and sets have none.
-/

namespace FlatRecord

namespace Datum

/-- Whether a value can be a key of JSON text. -/
def isJsonKey : Datum → Bool
  | null | bool _ | int _ | float _ | text _ => true
  | _ => false

mutual

/-- Whether a value has a JSON form. -/
def hasJsonForm : Datum → Bool
  | null | bool _ | int _ | float _ | text _ => true
  | list items => itemsHaveJsonForm items
  | map entries => entriesHaveJsonForm entries
  | _ => false

/-- Whether all of some values have a JSON form. -/
def itemsHaveJsonForm : List Datum → Bool
  | [] => true
  | x :: rest => x.hasJsonForm && itemsHaveJsonForm rest

/-- Whether all of some entries do, under keys of JSON text. -/
def entriesHaveJsonForm : List (Datum × Datum) → Bool
  | [] => true
  | (k, v) :: rest => k.isJsonKey && v.hasJsonForm && entriesHaveJsonForm rest

end

end Datum

namespace Json

/-- Items are written one after the other. -/
theorem writeItems_cons (style : Style) (depth : Nat) (x y : Datum) (ys : List Datum) :
    writeItems style depth (x :: y :: ys) = (do
      let item ← write style depth x
      let more ← writeItems style depth (y :: ys)
      return style.layout.lineBreak depth ++ item ++ ',' :: more) := by
  rw [writeItems]
  nofun

/-- Entries are written one after the other. -/
theorem writeEntries_cons (style : Style) (depth : Nat) (k v : Datum) (e : Datum × Datum)
    (es : List (Datum × Datum)) : writeEntries style depth ((k, v) :: e :: es) = (do
      let key ← keyText style k
      let item ← write style depth v
      let more ← writeEntries style depth (e :: es)
      return style.layout.lineBreak depth ++ key ++ style.layout.colon ++ item ++ ',' :: more) := by
  rw [writeEntries]
  nofun

variable (style : Style)

theorem isSome_keyText (k : Datum) : (keyText style k).toOption.isSome = k.isJsonKey := by
  cases k <;> rfl

/-- Two steps succeed if the first one does, and the second one does behind it. -/
private theorem isSome_bind {ε α β : Type} {x : Except ε α} {f : α → Except ε β} :
    (x >>= f).toOption.isSome = x.toOption.any fun a => (f a).toOption.isSome := by
  cases x <;> rfl

private theorem isSome_pure {ε α : Type} (a : α) : (pure a : Except ε α).toOption.isSome = true := rfl

private theorem any_const {α : Type} (o : Option α) (b : Bool) : (o.any fun _ => b) = (o.isSome && b) := by
  cases o <;> rfl

mutual

/-- Exactly the values with a JSON form are written, in every style and at every depth. -/
theorem isSome_write (depth : Nat) : ∀ v : Datum, (write style depth v).toOption.isSome = v.hasJsonForm
  | .null | .bool _ | .int _ | .float _ | .text _ => rfl
  | .bytes _ | .date _ | .dateTime _ | .decimal _ | .set _ => rfl
  | .list [] | .map [] => rfl
  | .list (x :: rest) => by
    rw [write, Datum.hasJsonForm, ← isSome_writeItems (depth + 1) (x :: rest), List.isEmpty_cons,
      if_neg Bool.false_ne_true]
    simp only [isSome_bind, isSome_pure, any_const, Bool.and_true]
  | .map (e :: rest) => by
    rw [write, Datum.hasJsonForm, ← isSome_writeEntries (depth + 1) (e :: rest), List.isEmpty_cons,
      if_neg Bool.false_ne_true]
    simp only [isSome_bind, isSome_pure, any_const, Bool.and_true]

theorem isSome_writeItems (depth : Nat) :
    ∀ items : List Datum, (writeItems style depth items).toOption.isSome = Datum.itemsHaveJsonForm items
  | [] => rfl
  | [x] => by
    rw [writeItems, Datum.itemsHaveJsonForm, Datum.itemsHaveJsonForm, ← isSome_write depth x]
    simp only [isSome_bind, isSome_pure, any_const, Bool.and_true]
  | x :: y :: rest => by
    rw [writeItems_cons, Datum.itemsHaveJsonForm, ← isSome_write depth x,
      ← isSome_writeItems depth (y :: rest)]
    simp only [isSome_bind, isSome_pure, any_const, Bool.and_true]

theorem isSome_writeEntries (depth : Nat) : ∀ entries : List (Datum × Datum),
    (writeEntries style depth entries).toOption.isSome = Datum.entriesHaveJsonForm entries
  | [] => rfl
  | [(k, v)] => by
    rw [writeEntries, Datum.entriesHaveJsonForm, Datum.entriesHaveJsonForm, ← isSome_write depth v,
      ← isSome_keyText style]
    simp only [isSome_bind, isSome_pure, any_const, Bool.and_true]
  | (k, v) :: e :: rest => by
    rw [writeEntries_cons, Datum.entriesHaveJsonForm, ← isSome_write depth v, ← isSome_keyText style,
      ← isSome_writeEntries depth (e :: rest)]
    simp only [isSome_bind, isSome_pure, any_const, Bool.and_true, Bool.and_assoc]

end

end Json

end FlatRecord
