/-
# Spelling names in camel case

Names are kept as the caller wrote them and spelled only when a document is
made. A style either leaves names alone or joins the words of a snake-case
name in camel case. Only underscores part words: each word has its first
character upper-cased and keeps the rest as written, so `$schema` and
`apiVersion` stay what they are; the underscores at both ends of a name
stay, and so does a name that holds nothing else. The lower style then
lower-cases the first character of the joined words.

Key definitions: `KeyStyle`, `KeyStyle.spell`, `Key`, `KeyStyle.spellKey`.
Key theorems: `KeyStyle.camelCase_of_bars`, `KeyStyle.spellKey_verbatim`.
-/
import ResourceTemplate.Text.Case

namespace ResourceTemplate

/-- The case of the first letter of a camel-case name. -/
inductive LetterCase
  | lower
  | upper
  deriving DecidableEq, Repr

/-- How names are spelled in a document: whether snake case becomes camel
case, and in which case such a name starts. -/
structure KeyStyle where
  camel : Bool := true
  initial : LetterCase := .lower
  deriving DecidableEq, Repr

/-- A name as the caller gave it: spelled by the style, or never changed. -/
inductive Key
  | styled (name : String)
  | verbatim (name : String)
  deriving DecidableEq, Repr

/-- The name as the caller gave it. -/
def Key.raw : Key → String
  | .styled name => name
  | .verbatim name => name

namespace KeyStyle

/-- The style of new templates: camel case that starts in lower case. -/
def standard : KeyStyle := {}

/-- The style that changes no name. -/
def verbatim : KeyStyle := { camel := false }

/-- Underscores part the words of a name. -/
def isBar (c : Char) : Bool := c == '_'

/-- The words of a name, put together with a capital at the start of each;
`start` says whether the next character opens a word. -/
def joinWords : Bool → List Char → List Char
  | _, [] => []
  | start, c :: cs =>
    if isBar c then joinWords true cs
    else if start then Case.upper c ++ joinWords false cs
    else c :: joinWords false cs

/-- The first character in the wanted case; it is upper case already. -/
def startIn : LetterCase → List Char → List Char
  | .upper, cs => cs
  | .lower, [] => []
  | .lower, c :: cs => Case.lower c ++ cs

/-- The underscores a name starts with. -/
def leadingBars (name : List Char) : List Char :=
  name.takeWhile isBar

/-- The underscores a name ends with, those it starts with apart. -/
def trailingBars (name : List Char) : List Char :=
  (name.dropWhile isBar).reverse.takeWhile isBar

/-- A name in camel case, with its outer underscores kept. -/
def camelCase (initial : LetterCase) (name : List Char) : List Char :=
  leadingBars name ++ startIn initial (joinWords true name) ++ trailingBars name

/-- The spelling of a name. -/
def spell (style : KeyStyle) (name : String) : String :=
  if style.camel then String.ofList (camelCase style.initial name.toList) else name

/-- The spelling of a key: a verbatim one keeps the caller's. -/
def spellKey (style : KeyStyle) : Key → String
  | .styled name => style.spell name
  | .verbatim name => name

theorem joinWords_of_bars : ∀ (start : Bool) (cs : List Char), cs.all isBar → joinWords start cs = []
  | _, [], _ => rfl
  | start, c :: cs, h => by
    simp only [List.all_cons, Bool.and_eq_true] at h
    simp only [joinWords, h.1, if_true]
    exact joinWords_of_bars true cs h.2

theorem takeWhile_of_bars : ∀ cs : List Char, cs.all isBar → cs.takeWhile isBar = cs
  | [], _ => rfl
  | c :: cs, h => by
    simp only [List.all_cons, Bool.and_eq_true] at h
    simp [h.1, takeWhile_of_bars cs h.2]

theorem dropWhile_of_bars : ∀ cs : List Char, cs.all isBar → cs.dropWhile isBar = []
  | [], _ => rfl
  | c :: cs, h => by
    simp only [List.all_cons, Bool.and_eq_true] at h
    simp [h.1, dropWhile_of_bars cs h.2]

/-- A name made of underscores alone is its own camel case. -/
theorem camelCase_of_bars (initial : LetterCase) (name : List Char) (h : name.all isBar) :
    camelCase initial name = name := by
  cases initial <;>
    simp [camelCase, leadingBars, trailingBars, startIn, joinWords_of_bars true name h,
      takeWhile_of_bars name h, dropWhile_of_bars name h]

/-- The style that keeps names spells no key. -/
theorem spellKey_verbatim (key : Key) : verbatim.spellKey key = key.raw := by
  cases key with
  | styled name => rfl
  | verbatim name => rfl

end KeyStyle
end ResourceTemplate
