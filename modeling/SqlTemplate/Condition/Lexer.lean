import SqlTemplate.Condition.Token
import SqlTemplate.Name

/-!
Splitting a condition into tokens.
-/
namespace SqlTemplate.Condition

/-- The name characters at the start of a text, a dot counting as one where a name character
follows it, and what follows them. -/
def takeName : Text → Text × Text
  | [] => ([], [])
  | c :: cs =>
    if Name.isPart c || (c == '.' && (cs.head?.any Name.isPart)) then
      let (name, rest) := takeName cs
      (c :: name, rest)
    else ([], c :: cs)

/-- The text of a string behind its opening `mark`, where a doubled mark stands for itself, and
what follows the closing mark. -/
def takeString (mark : Char) : Text → Option (Text × Text)
  | [] => none
  | [c] => if c = mark then some ([], []) else none
  | c :: d :: cs =>
    if c = mark then
      if d = mark then (takeString mark cs).map fun (s, rest) => (mark :: s, rest)
      else some ([], d :: cs)
    else (takeString mark (d :: cs)).map fun (s, rest) => (c :: s, rest)

/-- The name in a braced reference: blanks around it and marks in front of it do not count. -/
def referenceName (inner : Text) : Text :=
  Text.trim ((Text.trim inner).dropWhile fun c => c == '!' || c == ':')

/-- An integer where it fits a signed word of 64 bits, and otherwise a finite double. -/
def number? (cs : Text) : Option Number :=
  let (negative, digits) := takeSign cs
  let n : Int := if negative then -(natOfDigits digits : Int) else natOfDigits digits
  if !digits.isEmpty && digits.all Char.isDigit && -Int.pow 2 63 ≤ n && n < Int.pow 2 63 then
    some (.integer n)
  else
    match Double.ofText? cs with
    | some (.finite negative m e) => some (.double (.finite negative m e))
    | _ => none

def isNumberPart (c : Char) : Bool := c.isDigit || c == '.'

/-- The token made of punctuation that a text starts with, and what follows it. -/
def punctuation? : Text → Option (Token × Text)
  | '&' :: '&' :: cs => some (.and, cs)
  | '|' :: '|' :: cs => some (.or, cs)
  | '|' :: cs => some (.pipe, cs)
  | '(' :: cs => some (.openParen, cs)
  | ')' :: cs => some (.closeParen, cs)
  | '=' :: '=' :: cs => some (.comparison .eq, cs)
  | '=' :: cs => some (.comparison .eq, cs)
  | '!' :: '=' :: cs => some (.comparison .ne, cs)
  | '!' :: '~' :: cs => some (.comparison .notFound, cs)
  | '!' :: cs => some (.bang, cs)
  | '<' :: '>' :: cs => some (.comparison .ne, cs)
  | '<' :: '=' :: cs => some (.comparison .le, cs)
  | '<' :: cs => some (.comparison .lt, cs)
  | '>' :: '=' :: cs => some (.comparison .ge, cs)
  | '>' :: cs => some (.comparison .gt, cs)
  | '~' :: cs => some (.comparison .found, cs)
  | _ => none

/-- The token that starts with `c`, with `cs` behind it, and what follows it.  `position` is where
`c` stands in the condition. -/
def token (position : Nat) (c : Char) (cs : Text) : Except Problem (Token × Text) :=
  if c = ':' ∧ cs.head?.any Name.isStart then
    let (name, rest) := takeName cs
    .ok (.argument name, rest)
  else if c = '$' ∧ cs.head? = some '{' then
    match Text.cut? '}' cs.tail with
    | none => .error .openReference
    | some (inner, rest) =>
      if (referenceName inner).isEmpty then .error .emptyReference
      else .ok (.argument (referenceName inner), rest)
  else if c = '\x27' ∨ c = '\x22' then
    match takeString c cs with
    | none => .error (.openString position)
    | some (s, rest) => .ok (.string s, rest)
  else if c.isDigit || (c == '-' && cs.head?.any Char.isDigit) then
    let digits := c :: cs.takeWhile isNumberPart
    match number? digits with
    | none => .error (.badNumber digits)
    | some n => .ok (.number n, cs.dropWhile isNumberPart)
  else
    match punctuation? (c :: cs) with
    | some found => .ok found
    | none =>
      if Name.isStart c then
        let (w, rest) := takeName cs
        .ok (.word (c :: w), rest)
      else .error (.unexpectedCharacter c)

theorem takeName_append (cs : Text) : (takeName cs).1 ++ (takeName cs).2 = cs := by
  fun_induction takeName cs <;> simp_all

theorem length_le_of_takeString {mark : Char} {cs s rest : Text}
    (h : takeString mark cs = some (s, rest)) : rest.length ≤ cs.length := by
  fun_induction takeString mark cs generalizing s rest with
  | case1 => simp at h
  | case2 => simp_all
  | case3 => simp at h
  | case4 cs ih =>
    obtain ⟨⟨s', rest'⟩, hs, heq⟩ := Option.map_eq_some_iff.1 h
    obtain ⟨-, rfl⟩ := Prod.mk.inj heq
    have := ih hs
    simp only [List.length_cons]
    omega
  | case5 d cs =>
    obtain ⟨-, rfl⟩ := Prod.mk.inj (Option.some.inj h)
    simp
  | case6 c d cs hc ih =>
    obtain ⟨⟨s', rest'⟩, hs, heq⟩ := Option.map_eq_some_iff.1 h
    obtain ⟨-, rfl⟩ := Prod.mk.inj heq
    have := ih hs
    simp only [List.length_cons] at this ⊢
    omega

theorem length_lt_of_punctuation? {cs rest : Text} {t : Token}
    (h : punctuation? cs = some (t, rest)) : rest.length < cs.length := by
  unfold punctuation? at h
  split at h <;> cases h <;> simp only [List.length_cons] <;> omega

theorem length_takeName_le (cs : Text) : (takeName cs).2.length ≤ cs.length := by
  have := congrArg List.length (takeName_append cs)
  simp only [List.length_append] at this
  omega

theorem length_le_of_token {position : Nat} {c : Char} {cs rest : Text} {t : Token}
    (h : token position c cs = .ok (t, rest)) : rest.length ≤ cs.length := by
  unfold token at h
  split at h
  · obtain ⟨-, rfl⟩ := Prod.mk.inj (Except.ok.inj h)
    exact length_takeName_le cs
  split at h
  · split at h
    · simp at h
    · rename_i hcut
      split at h
      · simp at h
      · obtain ⟨-, rfl⟩ := Prod.mk.inj (Except.ok.inj h)
        have := Text.length_lt_of_cut? hcut
        simp only [List.length_tail] at this
        omega
  split at h
  · split at h
    · simp at h
    · rename_i hs
      obtain ⟨-, rfl⟩ := Prod.mk.inj (Except.ok.inj h)
      exact length_le_of_takeString hs
  split at h
  · dsimp only at h
    split at h
    · simp at h
    · obtain ⟨-, rfl⟩ := Prod.mk.inj (Except.ok.inj h)
      exact (List.dropWhile_sublist _).length_le
  · split at h
    · rename_i hp
      rw [Except.ok.inj h] at hp
      have := length_lt_of_punctuation? hp
      simp only [List.length_cons] at this
      omega
    · split at h
      · obtain ⟨-, rfl⟩ := Prod.mk.inj (Except.ok.inj h)
        exact length_takeName_le cs
      · simp at h

/-- The tokens of a condition of `size` characters, of which `cs` is the rest. -/
def tokensFrom (size : Nat) (cs : Text) : Except Problem (List Token) :=
  match cs with
  | [] => .ok []
  | c :: cs =>
    if Unicode.isBlank c then tokensFrom size cs
    else
      match h : token (size - (cs.length + 1)) c cs with
      | .error p => .error p
      | .ok (t, rest) =>
        have := length_le_of_token h
        (tokensFrom size rest).map (t :: ·)
termination_by cs.length

def tokens (cs : Text) : Except Problem (List Token) := tokensFrom cs.length cs

end SqlTemplate.Condition
