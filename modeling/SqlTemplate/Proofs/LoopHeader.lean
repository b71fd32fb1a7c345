import SqlTemplate.Proofs.Text
import SqlTemplate.Template.Loop

/-!
What the parts of a loop header look like: the variables are words without dots, and all
characters but those of the default delimiter and of line ends and tabs are the directive's.
-/
namespace SqlTemplate

/-- What follows the keyword of a directive is a part of its line. -/
theorem Directive.read?_subset {l rest : Text} {k : Keyword} (h : read? l = some (k, rest)) :
    rest ⊆ l := by
  obtain ⟨body, hbody, h⟩ := Option.bind_eq_some_iff.1 h
  obtain ⟨keyword, -, h⟩ := Option.bind_eq_some_iff.1 h
  obtain ⟨-, rfl⟩ := Prod.mk.inj (Option.some.inj h)
  have hsub : body ⊆ Text.trim l := by
    unfold body? at hbody
    dsimp only at hbody
    split at hbody
    · rename_i rest hrest
      exact ((Text.dropFront?_suffix hbody).trans
        ((Text.skipBlanks_suffix _).trans (Text.dropFront?_suffix hrest))).subset
    · exact (Text.dropFront?_suffix hbody).subset
  have hline : body ⊆ l := List.Subset.trans hsub (Text.trim_subset l)
  refine List.Subset.trans (Text.trim_subset _) ?_
  exact List.Subset.trans (List.dropWhile_suffix _).subset hline

theorem Condition.takeString_subset {mark : Char} {cs s rest : Text}
    (h : takeString mark cs = some (s, rest)) : s ⊆ cs ∧ rest ⊆ cs := by
  induction cs using takeString.induct mark generalizing s rest with
  | case1 => cases h
  | case2 =>
    rw [takeString, if_pos rfl] at h
    obtain ⟨rfl, rfl⟩ := Prod.mk.inj (Option.some.inj h)
    simp
  | case3 c hc =>
    rw [takeString, if_neg hc] at h
    cases h
  | case4 cs ih =>
    rw [takeString, if_pos rfl, if_pos rfl] at h
    obtain ⟨⟨s', rest'⟩, hs, heq⟩ := Option.map_eq_some_iff.1 h
    obtain ⟨rfl, rfl⟩ := Prod.mk.inj heq
    obtain ⟨hs', hrest'⟩ := ih hs
    exact ⟨List.cons_subset_cons _ (List.Subset.trans hs' (by simp)),
      List.Subset.trans hrest' (by simp)⟩
  | case5 d cs hd =>
    rw [takeString, if_pos rfl, if_neg hd] at h
    obtain ⟨rfl, rfl⟩ := Prod.mk.inj (Option.some.inj h)
    simp
  | case6 c d cs hc ih =>
    rw [takeString, if_neg hc] at h
    obtain ⟨⟨s', rest'⟩, hs, heq⟩ := Option.map_eq_some_iff.1 h
    obtain ⟨rfl, rfl⟩ := Prod.mk.inj heq
    obtain ⟨hs', hrest'⟩ := ih hs
    exact ⟨List.cons_subset_cons _ hs', List.Subset.trans hrest' (by simp)⟩

namespace LoopHeader

/-- A name as headers have them: a letter or an underscore, with word characters behind it. -/
def IsName (name : Text) : Prop :=
  ∃ c cs, name = c :: cs ∧ isStart c ∧ ∀ d ∈ cs, Unicode.isWord d

theorem IsName.notMem {name : Text} (h : IsName name) {c : Char} (hstart : isStart c = false)
    (hword : Unicode.isWord c = false) : c ∉ name := by
  obtain ⟨d, ds, rfl, hd, hds⟩ := h
  intro hc
  rcases List.mem_cons.1 hc with rfl | hc
  · simp [hstart] at hd
  · simpa [hword] using hds c hc

theorem IsName.dot_notMem {name : Text} (h : IsName name) : '.' ∉ name :=
  h.notMem (by decide) (by decide)

theorem name?_eq {cs name rest : Text} (h : name? cs = some (name, rest)) :
    cs = name ++ rest ∧ IsName name := by
  cases cs with
  | nil => cases h
  | cons c cs =>
    rw [name?] at h
    split at h
    · rename_i hc
      obtain ⟨rfl, rfl⟩ := Prod.mk.inj (Option.some.inj h)
      exact ⟨by simp, c, _, rfl, hc, fun d hd => Text.mem_takeWhile hd⟩
    · cases h

theorem path_append (cs : Text) : (path cs).1 ++ (path cs).2 = cs := by
  fun_induction path cs with
  | case1 => rfl
  | case2 rest h more left hp ih =>
    rw [hp] at ih
    simp only [List.cons_append, List.append_assoc, ih, List.takeWhile_append_dropWhile]
  | case3 => rfl

theorem blanks?_suffix {cs rest : Text} (h : blanks? cs = some rest) : rest <:+ cs := by
  cases cs with
  | nil => cases h
  | cons c cs =>
    rw [blanks?] at h
    split at h
    · obtain rfl := Option.some.inj h
      exact (Text.skipBlanks_suffix cs).trans (List.suffix_cons c cs)
    · cases h

theorem word?_suffix {w : String} {cs rest : Text} (h : word? w cs = some rest) :
    rest <:+ cs := by
  obtain ⟨b, hb, h⟩ := Option.bind_eq_some_iff.1 h
  obtain ⟨a, ha, h⟩ := Option.bind_eq_some_iff.1 h
  exact (blanks?_suffix h).trans ((Text.dropWord?_suffix ha).trans (blanks?_suffix hb))

theorem readIndex_eq {cs rest : Text} {index : Option Text} (h : readIndex cs = (index, rest)) :
    rest <:+ cs ∧ ∀ name, index = some name → IsName name ∧ name ⊆ cs := by
  unfold readIndex at h
  split at h
  · rename_i rest' hrest'
    have hsuffix : rest' <:+ cs :=
      (List.suffix_cons ',' rest').trans (hrest' ▸ Text.skipBlanks_suffix cs)
    split at h
    · rename_i name tail hname
      obtain ⟨rfl, rfl⟩ := Prod.mk.inj h
      obtain ⟨heq, hn⟩ := name?_eq hname
      have hskip := (Text.skipBlanks_suffix rest').trans hsuffix
      have htail : tail <:+ Text.skipBlanks rest' := heq ▸ List.suffix_append name tail
      refine ⟨htail.trans hskip, ?_⟩
      rintro name' ⟨⟩
      exact ⟨hn, fun c hc => hskip.subset (heq ▸ List.mem_append_left _ hc)⟩
    · obtain ⟨rfl, rfl⟩ := Prod.mk.inj h
      exact ⟨List.suffix_refl _, by simp⟩
  · obtain ⟨rfl, rfl⟩ := Prod.mk.inj h
    exact ⟨List.suffix_refl _, by simp⟩

theorem unescape_subset (cs : Text) : unescape cs ⊆ '\n' :: '\t' :: cs := by
  intro c hc
  have hmono : ∀ {a b : Text}, a ⊆ b → c ∈ '\n' :: '\t' :: a → c ∈ '\n' :: '\t' :: b :=
    fun h hc => List.cons_subset_cons _ (List.cons_subset_cons _ h) hc
  induction cs using unescape.induct with
  | case1 cs ih =>
    rw [unescape] at hc
    rcases List.mem_cons.1 hc with rfl | hc
    · simp
    · exact hmono (by simp) (ih hc)
  | case2 cs ih =>
    rw [unescape] at hc
    rcases List.mem_cons.1 hc with rfl | hc
    · simp
    · exact hmono (by simp) (ih hc)
  | case3 d cs hn ht ih =>
    rw [unescape] at hc
    · rcases List.mem_cons.1 hc with rfl | hc
      · simp
      · exact hmono (by simp) (ih hc)
    · exact hn
    · exact ht
  | case4 => simp [unescape] at hc

/-- The characters that a delimiter can have besides those of the header. -/
def delimiterExtras : Text := ['\n', '\t', ',', ' ']

theorem readDelimiter_subset (cs : Text) :
    (readDelimiter cs).1 ⊆ delimiterExtras ++ cs ∧ (readDelimiter cs).2 ⊆ cs := by
  have hdefault : defaultDelimiter ⊆ delimiterExtras ++ cs := by
    intro c hc
    have : c = ',' ∨ c = ' ' := by simpa [defaultDelimiter] using hc
    rcases this with rfl | rfl <;> simp [delimiterExtras]
  unfold readDelimiter
  split
  · rename_i rest hword
    split
    · rename_i s rest' hs
      obtain ⟨hsub, hrest⟩ := Condition.takeString_subset hs
      have hcs : rest ⊆ cs := fun c hc => (word?_suffix hword).subset (List.mem_cons_of_mem _ hc)
      refine ⟨fun c hc => ?_, List.Subset.trans hrest hcs⟩
      have := unescape_subset s hc
      simp only [List.mem_cons] at this
      rcases this with rfl | rfl | hmem
      · simp [delimiterExtras]
      · simp [delimiterExtras]
      · exact List.mem_append_right _ (hcs (hsub hmem))
    · exact ⟨hdefault, fun _ hc => hc⟩
  · exact ⟨hdefault, fun _ hc => hc⟩

/-- The variables of a header that has been read are names, and its parts come from its text. -/
theorem read?_spec {cs : Text} {header : LoopHeader} {filter : Option Text}
    (h : read? cs = some (header, filter)) :
    (∀ v ∈ header.vars, IsName v ∧ v ⊆ cs) ∧ header.delimiter ⊆ delimiterExtras ++ cs := by
  obtain ⟨⟨item, cs₁⟩, hitem, h⟩ := Option.bind_eq_some_iff.1 h
  obtain ⟨heq, hname⟩ := name?_eq hitem
  have hcs₁ : cs₁ ⊆ cs := heq ▸ List.subset_append_right item cs₁
  cases hindex : readIndex cs₁ with
  | mk index cs₂ =>
    obtain ⟨hsuffix, hindexName⟩ := readIndex_eq hindex
    have hcs₂ : cs₂ ⊆ cs := List.Subset.trans hsuffix.subset hcs₁
    simp only [hindex] at h
    obtain ⟨cs₃, hof, h⟩ := Option.bind_eq_some_iff.1 h
    have hcs₃ : cs₃ ⊆ cs := List.Subset.trans (word?_suffix hof).subset hcs₂
    split at h
    · rename_i cs₄
      obtain ⟨⟨name, cs₅⟩, hsource, h⟩ := Option.bind_eq_some_iff.1 h
      have hcs₅ : (path cs₅).2 ⊆ cs := by
        have hpath : (path cs₅).2 ⊆ cs₅ := fun c hc => by
          rw [← path_append cs₅]
          exact List.mem_append_right _ hc
        have hrest : cs₅ ⊆ cs₄ := (name?_eq hsource).1 ▸ List.subset_append_right name cs₅
        have hcs₄ : cs₄ ⊆ cs := List.Subset.trans (List.subset_cons_self _ _) hcs₃
        exact List.Subset.trans hpath (List.Subset.trans hrest hcs₄)
      obtain ⟨filter', -, h⟩ := Option.bind_eq_some_iff.1 h
      obtain ⟨rfl, -⟩ := Prod.mk.inj (Option.some.inj h)
      refine ⟨fun v hv => ?_, fun c hc => ?_⟩
      · rcases List.mem_cons.1 hv with rfl | hv
        · exact ⟨hname, heq ▸ List.subset_append_left _ cs₁⟩
        · obtain ⟨hn, hsub⟩ := hindexName v (by simpa using hv)
          exact ⟨hn, List.Subset.trans hsub hcs₁⟩
      · rcases List.mem_append.1 ((readDelimiter_subset _).1 hc) with hc | hc
        · exact List.mem_append_left _ hc
        · exact List.mem_append_right _ (hcs₅ hc)
    · cases h

theorem ofText_spec {rest : Text} {n : Nat} {header : LoopHeader}
    (h : ofText rest n = .ok header) :
    (∀ v ∈ header.vars, IsName v ∧ v ⊆ rest) ∧ header.delimiter ⊆ delimiterExtras ++ rest := by
  unfold ofText at h
  split at h
  · cases h
  · rename_i header' hread
    obtain rfl := Except.ok.inj h
    exact read?_spec hread
  · rename_i header' source hread
    cases hfilter : Directive.condition source n with
    | error e => rw [hfilter] at h; cases h
    | ok filter =>
      rw [hfilter] at h
      obtain rfl := Except.ok.inj h
      have hspec := read?_spec hread
      exact hspec

end LoopHeader

end SqlTemplate
