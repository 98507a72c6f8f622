import Mathlib.Data.List.Basic
import AmbientPulse.Json.Lexeme
import AmbientPulse.Json.Quotation

namespace AmbientPulse.Json

/-- White space between the tokens of a document. -/
def Blank (cs : List Char) : Prop :=
  ∀ c ∈ cs, c ∈ [' ', '\t', '\n', '\r']

/-- A text with white space around it. -/
def Padded (core text : List Char) : Prop :=
  ∃ before after, Blank before ∧ Blank after ∧ text = before ++ (core ++ after)

theorem blank_nil : Blank [] := by
  simp [Blank]

theorem padded_refl (cs : List Char) : Padded cs cs :=
  ⟨[], [], blank_nil, blank_nil, by simp⟩

def inQuotes (cs : List Char) : List Char :=
  '"' :: (cs ++ ['"'])

section Strings

/-- What may stand between the quotes of a string that holds the given characters. -/
inductive Spells : List Char → List Char → Prop where
  | nil : Spells [] []
  | bare {c : Char} {text cs : List Char} : c ≠ '"' → c ≠ '\\' → isControl c = false →
      Spells text cs → Spells (c :: text) (c :: cs)
  | escape {e c : Char} {text cs : List Char} : simpleEscape? e = some c →
      Spells text cs → Spells ('\\' :: e :: text) (c :: cs)
  | unit {a b c d : Char} {u : Nat} {text cs : List Char} : hexUnit? a b c d = some u →
      isLowSurrogate u = false → isHighSurrogate u = false →
      Spells text cs → Spells ('\\' :: 'u' :: a :: b :: c :: d :: text) (Char.ofNat u :: cs)
  | pair {a b c d e f g h : Char} {u v : Nat} {text cs : List Char} :
      hexUnit? a b c d = some u → isHighSurrogate u = true →
      hexUnit? e f g h = some v → isLowSurrogate v = true → Spells text cs →
      Spells ('\\' :: 'u' :: a :: b :: c :: d :: '\\' :: 'u' :: e :: f :: g :: h :: text)
        (surrogatePair u v :: cs)

/-- What may stand between quotes at all. Its units need not make up characters. -/
inductive Literal : List Char → Prop where
  | nil : Literal []
  | bare {c : Char} {text : List Char} : c ≠ '"' → c ≠ '\\' → isControl c = false →
      Literal text → Literal (c :: text)
  | escape {e c : Char} {text : List Char} : simpleEscape? e = some c →
      Literal text → Literal ('\\' :: e :: text)
  | unit {a b c d : Char} {u : Nat} {text : List Char} : hexUnit? a b c d = some u →
      Literal text → Literal ('\\' :: 'u' :: a :: b :: c :: d :: text)

theorem ne_u_of_simple {e c : Char} (h : simpleEscape? e = some c) : e ≠ 'u' := by
  rintro rfl
  cases h

theorem Spells.literal {text cs : List Char} (h : Spells text cs) : Literal text := by
  induction h with
  | nil => exact .nil
  | bare hq hb hc _ ih => exact .bare hq hb hc ih
  | escape he _ ih => exact .escape he ih
  | unit hu _ _ _ ih => exact .unit hu ih
  | pair hu _ hv _ _ ih => exact .unit hu (.unit hv ih)

end Strings

section Numbers

def Digits (cs : List Char) : Prop :=
  ∀ c ∈ cs, c.isDigit = true

/-- The digits before the point. A zero stands by itself. -/
inductive Whole : List Char → Prop where
  | zero : Whole ['0']
  | digits {d : Char} {ds : List Char} : d ≠ '0' → Digits (d :: ds) → Whole (d :: ds)

inductive Fraction : List Char → Prop where
  | none : Fraction []
  | places {d : Char} {ds : List Char} : Digits (d :: ds) → Fraction ('.' :: d :: ds)

inductive Exponent : List Char → Prop where
  | none : Exponent []
  | power {e d : Char} {sign ds : List Char} : e ∈ ['e', 'E'] → sign ∈ [[], ['+'], ['-']] →
      Digits (d :: ds) → Exponent (e :: (sign ++ d :: ds))

inductive IsNumber : List Char → Prop where
  | parts {sign whole fraction exponent : List Char} : sign ∈ [[], ['-']] → Whole whole →
      Fraction fraction → Exponent exponent → IsNumber (sign ++ (whole ++ (fraction ++ exponent)))

end Numbers

/-- The phrases of the grammar. An item is a value with white space around it. -/
inductive Phrase where
  | value
  | item
  | items
  | member
  | members

def words : List (List Char) :=
  [['n', 'u', 'l', 'l'], ['t', 'r', 'u', 'e'], ['f', 'a', 'l', 's', 'e']]

/-- The texts that the grammar allows, nested to any depth. -/
inductive WellFormed : Phrase → List Char → Prop where
  | word {w : List Char} : w ∈ words → WellFormed .value w
  | number {cs : List Char} : IsNumber cs → WellFormed .value cs
  | string {cs : List Char} : Literal cs → WellFormed .value (inQuotes cs)
  | emptyArray {cs : List Char} : Blank cs → WellFormed .value ('[' :: (cs ++ [']']))
  | array {cs : List Char} : WellFormed .items cs → WellFormed .value ('[' :: (cs ++ [']']))
  | emptyObject {cs : List Char} : Blank cs → WellFormed .value ('\x7b' :: (cs ++ ['\x7d']))
  | object {cs : List Char} : WellFormed .members cs →
      WellFormed .value ('\x7b' :: (cs ++ ['\x7d']))
  | item {cs text : List Char} : WellFormed .value cs → Padded cs text → WellFormed .item text
  | lastItem {cs : List Char} : WellFormed .item cs → WellFormed .items cs
  | items {cs rest : List Char} : WellFormed .item cs → WellFormed .items rest →
      WellFormed .items (cs ++ ',' :: rest)
  | member {cs key value : List Char} : Literal cs → Padded (inQuotes cs) key →
      WellFormed .item value → WellFormed .member (key ++ ':' :: value)
  | lastMember {cs : List Char} : WellFormed .member cs → WellFormed .members cs
  | members {cs rest : List Char} : WellFormed .member cs → WellFormed .members rest →
      WellFormed .members (cs ++ ',' :: rest)

end AmbientPulse.Json
