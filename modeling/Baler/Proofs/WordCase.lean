import Baler.Text.Case

/-! The lower case of a word between other characters. Only the form of a capital sigma depends on them, and a word is
steady if each of its sigmas has the same form wherever the word stands. -/
namespace Baler.Text

/-- Whether the nearest character before a place that is not passed over is a letter, if `letter` says so of what
stands before the characters. -/
def letterBehind (letter : Bool) (cs : List Char) : Bool :=
  cs.foldl (fun l c => if isCaseIgnorable c then l else isCased c) letter

/-- The same of what comes after a place. -/
def letterNext (ahead : Bool) (cs : List Char) : Bool :=
  cs.foldr (fun c a => if isCaseIgnorable c then a else isCased c) ahead

/-- The lower-case form of a character; a capital sigma is final or not. -/
def lowerAt (final : Bool) (c : Char) : List Char :=
  if c = 'Σ' then (if final then ['ς'] else ['σ']) else lowerChar c

/-- The lower-case form of characters between others. -/
def lowerAmid (letter ahead : Bool) : List Char → List Char
  | [] => []
  | c :: rest => lowerAt (letter && !letterNext ahead rest) c ++ lowerAmid (letterBehind letter [c]) ahead rest

/-- A sigma after a letter is followed by something in the word that is not passed over, and one that nothing but
passed-over characters precede is followed by a letter in the word. -/
def Steady (word : List Char) : Prop := ∀ before after, word = before ++ 'Σ' :: after →
  (letterBehind false before = true → ∃ c ∈ after, isCaseIgnorable c = false) ∧
    ((∀ c ∈ before, isCaseIgnorable c = true) → letterAhead after = true)

@[simp] theorem letterNext_append (ahead : Bool) (xs ys : List Char) :
    letterNext ahead (xs ++ ys) = letterNext (letterNext ahead ys) xs := List.foldr_append

theorem letterNext_false (cs : List Char) : letterNext false cs = letterAhead cs := by
  induction cs with
  | nil => rfl
  | cons c cs ih => simp only [letterNext,List.foldr_cons,letterAhead] at ih ⊢; rw [ih]

theorem lowerAfter_eq (letter : Bool) (cs : List Char) : lowerAfter letter cs = lowerAmid letter false cs := by
  induction cs generalizing letter with
  | nil => rfl
  | cons c cs ih =>
    simp only [lowerAfter,lowerAmid,lowerAt,letterNext_false,ih]
    rfl

theorem lowerChars_eq (cs : List Char) : lowerChars cs = lowerAmid false false cs := lowerAfter_eq false cs

theorem lowerAmid_append (letter ahead : Bool) (xs ys : List Char) :
    lowerAmid letter ahead (xs ++ ys) =
      lowerAmid letter (letterNext ahead ys) xs ++ lowerAmid (letterBehind letter xs) ahead ys := by
  induction xs generalizing letter with
  | nil => rfl
  | cons c xs ih => simp only [List.cons_append,lowerAmid,letterNext_append,ih,List.append_assoc]; rfl

/-- The lower case of a text is made of the lower case of its parts, each in its place. -/
theorem lowerChars_amid (before word after : List Char) : lowerChars (before ++ word ++ after) =
    lowerAmid false (letterNext (letterNext false after) word) before ++
      lowerAmid (letterBehind false before) (letterNext false after) word ++
        lowerAmid (letterBehind false (before ++ word)) false after := by
  rw [lowerChars_eq,lowerAmid_append,lowerAmid_append]

section

variable {letter ahead l a : Bool} {cs : List Char}

theorem lowerAt_of_ne {c : Char} (h : c ≠ 'Σ') (final : Bool) : lowerAt final c = lowerChar c := if_neg h

/-- The lower case depends on the place only by the form of each sigma. -/
theorem lowerAmid_congr (same : ∀ before after, cs = before ++ 'Σ' :: after →
    (letterBehind letter before && !letterNext ahead after) = (letterBehind l before && !letterNext a after)) :
    lowerAmid letter ahead cs = lowerAmid l a cs := by
  induction cs generalizing letter l with
  | nil => rfl
  | cons c cs ih =>
    have head : lowerAt (letter && !letterNext ahead cs) c = lowerAt (l && !letterNext a cs) c := by
      by_cases hc : c = 'Σ'
      · subst hc
        exact congrArg (lowerAt · 'Σ') (same [] cs rfl)
      · rw [lowerAt_of_ne hc,lowerAt_of_ne hc]
    simp only [lowerAmid,head]
    congr 1
    apply ih
    intro before after hs
    exact same (c :: before) after (by rw [hs]; rfl)

theorem lowerAmid_of_no_sigma (h : 'Σ' ∉ cs) : lowerAmid letter ahead cs = lowerAmid l a cs := by
  apply lowerAmid_congr
  rintro before after rfl
  simp at h

theorem lowerAmid_ascii (ascii : ∀ c ∈ cs, c.toNat < 0x80) : lowerAmid letter ahead cs = cs.map Char.toLower := by
  induction cs generalizing letter with
  | nil => rfl
  | cons c cs ih =>
    obtain ⟨head,rest⟩ := List.forall_mem_cons.mp ascii
    have other : c ≠ 'Σ' := by
      rintro rfl
      exact absurd head (by decide)
    rw [lowerAmid,lowerAt_of_ne other,lowerChar_of_ascii head,ih rest]
    rfl

theorem sigma_cased : isCaseIgnorable 'Σ' = false ∧ isCased 'Σ' = true := by decide +kernel

/-- Characters that are passed over leave what is seen past them as it is. -/
theorem letterBehind_ignorable (h : ∀ c ∈ cs, isCaseIgnorable c = true) : letterBehind letter cs = letter := by
  induction cs with
  | nil => rfl
  | cons c cs ih =>
    obtain ⟨head,rest⟩ := List.forall_mem_cons.mp h
    simpa [letterBehind,head] using ih rest

theorem letterNext_ignorable (h : ∀ c ∈ cs, isCaseIgnorable c = true) : letterNext ahead cs = ahead := by
  induction cs with
  | nil => rfl
  | cons c cs ih =>
    obtain ⟨head,rest⟩ := List.forall_mem_cons.mp h
    simpa [letterNext,head] using ih rest

theorem no_sigma_of_ignorable (h : ∀ c ∈ cs, isCaseIgnorable c = true) : 'Σ' ∉ cs :=
  fun hs => absurd (h _ hs) (by simp [sigma_cased.1])

/-- Any other character hides what stands past it. -/
theorem letterBehind_hidden (h : ∃ c ∈ cs, isCaseIgnorable c = false) : letterBehind letter cs = letterBehind l cs := by
  obtain ⟨c,hc,hn⟩ := h
  obtain ⟨before,after,rfl⟩ := List.append_of_mem hc
  simp [letterBehind,hn]

theorem letterNext_hidden (h : ∃ c ∈ cs, isCaseIgnorable c = false) : letterNext ahead cs = letterNext a cs := by
  obtain ⟨c,hc,hn⟩ := h
  obtain ⟨before,after,rfl⟩ := List.append_of_mem hc
  simp [letterNext,hn]

theorem ignorable_or_hidden (cs : List Char) :
    (∀ c ∈ cs, isCaseIgnorable c = true) ∨ ∃ c ∈ cs, isCaseIgnorable c = false := by
  by_cases h : ∃ c ∈ cs, isCaseIgnorable c = false
  · exact .inr h
  · refine .inl fun c hc => ?_
    cases hi : isCaseIgnorable c with
    | true => rfl
    | false => exact absurd ⟨c,hc,hi⟩ h

end

/-- A steady word has one lower case. -/
theorem Steady.lowerAmid {word : List Char} (h : Steady word) (letter ahead : Bool) :
    lowerAmid letter ahead word = lowerChars word := by
  rw [lowerChars_eq]
  apply lowerAmid_congr
  intro before after hs
  obtain ⟨closed,opened⟩ := h before after hs
  rw [← letterNext_false] at opened
  rcases ignorable_or_hidden before with bare | hidden
  · have next := opened bare
    rcases ignorable_or_hidden after with open_ | shut
    · simp [letterNext_ignorable open_] at next
    · rw [letterNext_hidden shut,next,Bool.not_true,Bool.and_false,Bool.and_false]
  · rw [letterBehind_hidden hidden (l := false)]
    cases behind : letterBehind false before with
    | false => simp
    | true => rw [letterNext_hidden (closed behind)]

/-- The lower case around a sigma, which is a letter to what stands next to it. -/
theorem lowerAmid_sigma (letter ahead : Bool) (before after : List Char) :
    lowerAmid letter ahead (before ++ 'Σ' :: after) = lowerAmid letter true before ++
      (if letterBehind letter before && !letterNext ahead after then 'ς' else 'σ') :: lowerAmid true ahead after := by
  have next : letterNext ahead ('Σ' :: after) = true := by simp [letterNext,sigma_cased]
  have behind : ∀ l, letterBehind l ['Σ'] = true := fun l => by simp [letterBehind,sigma_cased]
  rw [lowerAmid_append,next]
  simp only [lowerAmid,lowerAt,behind,if_true]
  split <;> rfl

theorem not_infix_of_replaced {c d : Char} {before after left right : List Char} (other : c ≠ d) (hl : c ∉ left)
    (hr : c ∉ right) : ¬ before ++ c :: after <:+: left ++ (before ++ d :: after) ++ right := by
  intro inside
  have fewer := inside.sublist.count_le c
  have none : left.count c = 0 := List.count_eq_zero_of_not_mem hl
  have none' : right.count c = 0 := List.count_eq_zero_of_not_mem hr
  simp only [List.count_append,List.count_cons_self,List.count_cons_of_ne other.symm,none,none'] at fewer
  omega

theorem a_cased : isCaseIgnorable 'A' = false ∧ isCased 'A' = true ∧ lowerChar 'A' = ['a'] := by decide +kernel

section

variable {before after : List Char}

/-- A letter that is put behind a word takes a final sigma from it. -/
theorem shut_of_kept (behind : letterBehind false before = true)
    (kept : lowerChars (before ++ 'Σ' :: after) <:+: lowerChars (before ++ 'Σ' :: after ++ ['A'])) :
    ∃ c ∈ after, isCaseIgnorable c = false := by
  rcases ignorable_or_hidden after with bare | shut
  · exfalso
    have same : lowerAmid true false after = lowerAmid true true after :=
      lowerAmid_of_no_sigma (no_sigma_of_ignorable bare)
    have next : letterNext false ['A'] = true := by simp [letterNext,a_cased]
    rw [lowerChars_eq,lowerChars_eq,lowerAmid_append _ _ (before ++ 'Σ' :: after),next,lowerAmid_sigma,lowerAmid_sigma,
      behind,letterNext_ignorable bare,letterNext_ignorable bare,same] at kept
    refine not_infix_of_replaced (c := 'ς') (d := 'σ') (by decide) List.not_mem_nil ?_ kept
    simp [lowerAmid,lowerAt,a_cased]
  · exact shut

/-- A letter that is put before a word takes a sigma from it that is not final. -/
theorem ahead_of_kept (bare : ∀ c ∈ before, isCaseIgnorable c = true)
    (kept : lowerChars (before ++ 'Σ' :: after) <:+: lowerChars (['A'] ++ (before ++ 'Σ' :: after))) :
    letterAhead after = true := by
  cases next : letterAhead after with
  | true => rfl
  | false =>
    exfalso
    rw [← letterNext_false] at next
    have same : lowerAmid false true before = lowerAmid true true before :=
      lowerAmid_of_no_sigma (no_sigma_of_ignorable bare)
    have behind : letterBehind false ['A'] = true := by simp [letterBehind,a_cased]
    rw [lowerChars_eq,lowerChars_eq,lowerAmid_append _ _ ['A'],behind,lowerAmid_sigma,lowerAmid_sigma,next,
      letterBehind_ignorable bare,letterBehind_ignorable bare,same] at kept
    refine not_infix_of_replaced (c := 'σ') (d := 'ς') (by decide) ?_ List.not_mem_nil (by simpa using kept)
    simp [lowerAmid,lowerAt,a_cased]

end

/-- The steady words are those that every text with the word still has when both are in lower case. -/
theorem steady_iff (word : List Char) :
    Steady word ↔ ∀ text, word <:+: text → lowerChars word <:+: lowerChars text := by
  constructor
  · rintro h text ⟨before,after,rfl⟩
    rw [lowerChars_amid,h.lowerAmid]
    exact List.infix_append _ _ _
  · rintro kept before after rfl
    have behind := kept _ (List.prefix_append _ ['A']).isInfix
    have ahead := kept _ (List.suffix_append ['A'] _).isInfix
    exact ⟨fun letter => shut_of_kept letter behind,fun bare => ahead_of_kept bare ahead⟩

end Baler.Text
