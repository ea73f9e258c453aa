import FlatRecord.Script.Token

/-!
# Texts with replacement fields

The body of a text with replacement fields is plain text with fields in braces; a doubled brace
outside of fields stands for itself. A field is the source text of an expression, then an optional
equals sign, an optional conversion letter behind an exclamation mark, and an optional layout behind
a colon, in which further fields may stand, though none inside these.

`formatParts?` takes such a body apart: into the plain texts, which still have their escapes, and the
source texts of the expressions.
-/

namespace FlatRecord.Script

/-- What a body consists of, as far as it has been read: plain texts and expressions, both in
reverse. -/
structure FormatParts where
  texts : List (List Char)
  fields : List (List Char)

/-- The plain text at the head of a body, in reverse, and the text behind it. Outside of fields a
doubled brace gives the first of the two and ends the plain text, and a single closing brace is a
mistake. Escapes are kept; the braces of a character's name belong to it. -/
def plainPart (raw nested : Bool) : Nat → List Char → List Char →
    Option (Bool × List Char × List Char)
  | 0, done, rest => some (false, done, rest)
  | rounds + 1, done, rest =>
    match rest with
    | [] => some (false, done, [])
    | '\\' :: 'N' :: '{' :: after =>
      if raw then plainPart raw nested rounds ('\\' :: done) ('N' :: '{' :: after)
      else
        let (name, behind) := after.span (· ≠ '}')
        plainPart raw nested rounds ((behind.take 1).reverse ++ name.reverse ++ '{' :: 'N' :: '\\' :: done)
          (behind.drop 1)
    | '\\' :: c :: after =>
      if raw || c = '{' || c = '}' then plainPart raw nested rounds ('\\' :: done) (c :: after)
      else plainPart raw nested rounds (c :: '\\' :: done) after
    | c :: after =>
      if c = '{' ∨ c = '}' then
        if nested then some (false, done, rest)
        else if after.head? = some c then some (true, c :: done, after.tail)
        else if c = '}' then none
        else some (false, done, rest)
      else plainPart raw nested rounds (c :: done) after

/-- Where the reading of an expression stands: inside a quote, or between the brackets that are
still open. -/
inductive FieldState where
  | quoted (quote : Char) (triple : Bool) (open_ : List Char)
  | plain (open_ : List Char)

/-- The source text of an expression, in reverse, and the text behind it, which begins with the
character that ended the expression. -/
def fieldExpression : Nat → FieldState → List Char → List Char → Option (List Char × List Char)
  | 0, _, _, _ => none
  | _ + 1, _, _, [] => none
  | rounds + 1, .quoted q triple pending, done, c :: rest =>
    if c = '\\' then none
    else if c = q then
      if triple then
        match rest with
        | a :: b :: after =>
          if a = q ∧ b = q then
            fieldExpression rounds (.plain pending) (b :: a :: c :: done) after
          else fieldExpression rounds (.quoted q triple pending) (c :: done) rest
        | _ => none
      else fieldExpression rounds (.plain pending) (c :: done) rest
    else fieldExpression rounds (.quoted q triple pending) (c :: done) rest
  | rounds + 1, .plain pending, done, c :: rest =>
    if c = '\\' ∨ c = '#' then none
    else if c = '\'' ∨ c = '"' then
      match rest with
      | a :: b :: after =>
        if a = c ∧ b = c then
          fieldExpression rounds (.quoted c true pending) (b :: a :: c :: done) after
        else fieldExpression rounds (.quoted c false pending) (c :: done) rest
      | _ => fieldExpression rounds (.quoted c false pending) (c :: done) rest
    else
      match brackets.lookup c with
      | some close => fieldExpression rounds (.plain (close :: pending)) (c :: done) rest
      | none =>
        match pending with
        | close :: others =>
          if c = close then fieldExpression rounds (.plain others) (c :: done) rest
          else if c = ')' ∨ c = ']' ∨ c = '}' then none
          else fieldExpression rounds (.plain pending) (c :: done) rest
        | [] =>
          if rest.head? = some '=' ∧ (c = '!' ∨ c = '=' ∨ c = '<' ∨ c = '>') then
            fieldExpression rounds (.plain []) ('=' :: c :: done) rest.tail
          else if c = '!' ∨ c = ':' ∨ c = '}' ∨ c = '=' then some (done, c :: rest)
          else if c = ')' ∨ c = ']' then none
          else fieldExpression rounds (.plain []) (c :: done) rest

/-- The text behind an equals sign that ends an expression, with the blanks after the sign left
out. -/
def dropEcho : List Char → List Char
  | '=' :: rest => rest.dropWhile fun c => c = ' ' || ('\t' ≤ c && c ≤ '\r')
  | rest => rest

/-- The text behind a conversion, if there is one. -/
def dropConversion : List Char → Option (List Char)
  | '!' :: c :: rest => if c = 's' ∨ c = 'r' ∨ c = 'a' then some rest else none
  | ['!'] => none
  | rest => some rest

/-- Take a body apart from some place on. A layout ends before a closing brace, a whole body at the
end of the text. `depth` counts how many levels of layouts may still begin. -/
def formatPartsFrom (raw : Bool) : Nat → (depth : Nat) → (nested : Bool) → FormatParts → List Char →
    Option (FormatParts × List Char)
  | 0, _, _, _, _ => none
  | rounds + 1, depth, nested, parts, cs =>
    match plainPart raw nested cs.length [] cs with
    | none => none
    | some (again, text, rest) =>
      let parts := { parts with texts := text.reverse :: parts.texts }
      if again then formatPartsFrom raw rounds depth nested parts rest
      else
        match rest with
        | [] => if nested then none else some (parts, [])
        | '{' :: inner =>
          match depth with
          | 0 => none
          | deeper + 1 =>
            match fieldExpression inner.length (.plain []) [] inner with
            | none => none
            | some (expression, behind) =>
              if expression.all fun c => c = ' ' || c = '\t' || c = '\n' || c = '\x0c' then none
              else
                let parts := { parts with fields := expression.reverse :: parts.fields }
                match dropConversion (dropEcho behind) with
                | none => none
                | some (':' :: layout) =>
                  match formatPartsFrom raw rounds deeper true parts layout with
                  | some (parts, '}' :: after) => formatPartsFrom raw rounds depth nested parts after
                  | _ => none
                | some ('}' :: after) => formatPartsFrom raw rounds depth nested parts after
                | some _ => none
        | rest => if nested then some (parts, rest) else none

/-- The plain texts and the expressions of a body. -/
def formatParts? (raw : Bool) (body : List Char) : Option (List (List Char) × List (List Char)) :=
  (formatPartsFrom raw (body.length + 1) 2 false ⟨[], []⟩ body).map fun r =>
    (r.1.texts.reverse, r.1.fields.reverse)

end FlatRecord.Script
