/-!
SQL text as a list of characters, and the few operations on it that every other module uses:
prefixes and suffixes, literal search and replacement, lines, and joining.
-/
namespace SqlTemplate

/-- A text is the list of its characters. -/
abbrev Text := List Char

namespace Text

/-- The string with these characters. -/
def str (t : Text) : String := String.ofList t

/-- What follows `front` at the start of a text, if the text starts with it. -/
def dropFront? : Text → Text → Option Text
  | [], cs => some cs
  | _ :: _, [] => none
  | p :: ps, c :: cs => if p = c then dropFront? ps cs else none

/-- What precedes `back` at the end of a text, if the text ends with it. -/
def dropBack? (back : Text) (cs : Text) : Option Text :=
  (dropFront? back.reverse cs.reverse).map List.reverse

def startsWith (front cs : Text) : Bool := (dropFront? front cs).isSome

theorem eq_append_of_dropFront? {front cs rest : Text} (h : dropFront? front cs = some rest) :
    cs = front ++ rest := by
  induction front generalizing cs with
  | nil => simpa [dropFront?] using h
  | cons p ps ih =>
    cases cs with
    | nil => simp [dropFront?] at h
    | cons c cs =>
      by_cases hp : p = c
      · simp only [dropFront?, hp, ↓reduceIte] at h
        simp [hp, ih h]
      · simp [dropFront?, hp] at h

@[simp] theorem dropFront?_append (front rest : Text) :
    dropFront? front (front ++ rest) = some rest := by
  induction front with
  | nil => rfl
  | cons p ps ih => simp [dropFront?, ih]

/-- The text before and after the first occurrence of `c`, if there is one. -/
def cut? (c : Char) : Text → Option (Text × Text)
  | [] => none
  | d :: ds => if d = c then some ([], ds) else (cut? c ds).map fun (a, b) => (d :: a, b)

theorem eq_append_of_cut? {c : Char} {cs a b : Text} (h : cut? c cs = some (a, b)) :
    cs = a ++ c :: b := by
  induction cs generalizing a with
  | nil => simp [cut?] at h
  | cons d ds ih =>
    simp only [cut?] at h
    split at h
    · rename_i hd
      obtain ⟨rfl, rfl⟩ := Prod.mk.inj (Option.some.inj h)
      simp [hd]
    · obtain ⟨⟨a', b'⟩, hs, heq⟩ := Option.map_eq_some_iff.1 h
      obtain ⟨rfl, rfl⟩ := Prod.mk.inj heq
      simp [ih hs]

theorem length_lt_of_cut? {c : Char} {cs a b : Text} (h : cut? c cs = some (a, b)) :
    b.length < cs.length := by
  simp [eq_append_of_cut? h]
  omega

/-- The pieces between the occurrences of `c`; always at least one. -/
def splitAt (c : Char) : Text → List Text
  | [] => [[]]
  | d :: ds =>
    if d = c then [] :: splitAt c ds
    else match splitAt c ds with
      | [] => [[d]]
      | t :: ts => (d :: t) :: ts

/-- Lines end at a newline or at a carriage return with a newline directly behind it.  A final
line ending opens no further line. -/
def lines : Text → List Text
  | [] => []
  | '\r' :: '\n' :: cs => [] :: lines cs
  | c :: cs =>
    if c = '\n' then [] :: lines cs
    else match lines cs with
      | [] => [[c]]
      | l :: ls => (c :: l) :: ls

/-- Texts written one after another with `sep` between neighbours. -/
def join (sep : Text) (ts : List Text) : Text := sep.intercalate ts

def unlines (ts : List Text) : Text := join ['\n'] ts

/-- Every `mark` written twice. -/
def double (mark : Char) (cs : Text) : Text :=
  cs.flatMap fun c => if c = mark then [mark, mark] else [c]

/-- The text with its ASCII letters in lower case. -/
def asciiLower (cs : Text) : Text := cs.map Char.toLower

/-- Equality up to the case of ASCII letters. -/
def sameWord (a b : Text) : Bool := asciiLower a == asciiLower b

/-- What follows `word` at the start of a text, ASCII letters in either case. -/
def dropWord? : Text → Text → Option Text
  | [], cs => some cs
  | _ :: _, [] => none
  | p :: ps, c :: cs => if p.toLower = c.toLower then dropWord? ps cs else none

end Text

end SqlTemplate
