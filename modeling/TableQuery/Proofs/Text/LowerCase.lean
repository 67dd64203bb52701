import TableQuery.Proofs.Text.Blank
import TableQuery.Text.LowerCase

/-!
# Lower-casing a piece of a text

All characters but one are lower-cased on their own. A capital sigma looks at the
letters on both sides, past the characters that are ignorable, so a piece of a
text may be lower-cased in another way than the text. `Settled` tells from the
piece alone when this cannot happen: the sigma sees enough of the piece on both
sides. If it does not, a letter put in front of the piece or behind it changes
the form of this one sigma, and the old form is then met too seldom in the
longer text for the lower-cased piece to be found there.
-/

namespace TableQuery.Text

namespace LowerCase

/-- Whether a character is passed over when a letter is looked for. -/
def isIgnorable (c : Char) : Bool := inRanges ignorableRanges c

/-- Lower-cases a text that stands between the characters `before`, which are given backwards, and
the characters `following`. -/
def between (before : List Char) (text following : List Char) : List Char :=
  match text with
  | [] => []
  | c :: rest => (if c = '\u03A3' then [sigma before (rest ++ following)] else ofChar c) ++
      between (c :: before) rest following

theorem between_cons_of_ne {c : Char} (h : c ≠ '\u03A3') (before rest following : List Char) :
    between before (c :: rest) following = ofChar c ++ between (c :: before) rest following := by
  rw [between, if_neg h]

theorem between_cons_sigma (before rest following : List Char) :
    between before ('\u03A3' :: rest) following =
      sigma before (rest ++ following) :: between ('\u03A3' :: before) rest following := by
  rw [between, if_pos rfl]
  rfl

theorem between_append (before text rest following : List Char) :
    between before (text ++ rest) following =
      between before text (rest ++ following) ++ between (text.reverse ++ before) rest following := by
  induction text generalizing before with
  | nil => rfl
  | cons c text ih =>
      rw [List.cons_append, between, between, ih, List.append_assoc, List.append_assoc,
        List.reverse_cons, List.append_assoc]
      rfl

theorem after_eq_between (before text : List Char) : after before text = between before text [] := by
  induction text generalizing before with
  | nil => rfl
  | cons c text ih => rw [after, between, ih, List.append_nil]

theorem lowerCase_eq_between (text : List Char) : lowerCase text = between [] text [] :=
  after_eq_between [] text

/-- A text is lower-cased in the same way wherever the capital sigmas in it take the same form. -/
theorem between_congr {text before following before' following' : List Char}
    (h : ∀ part rest, text = part ++ '\u03A3' :: rest →
      sigma (part.reverse ++ before) (rest ++ following) =
        sigma (part.reverse ++ before') (rest ++ following')) :
    between before text following = between before' text following' := by
  induction text generalizing before before' with
  | nil => rfl
  | cons c text ih =>
      have hrest : between (c :: before) text following = between (c :: before') text following' := by
        refine ih fun part rest htext => ?_
        have hsigma := h (c :: part) rest (by rw [htext]; rfl)
        rwa [List.reverse_cons, List.append_assoc, List.append_assoc] at hsigma
      by_cases hc : c = '\u03A3'
      · subst hc
        rw [between_cons_sigma, between_cons_sigma, hrest]
        congr 1
        exact h [] text rfl
      · rw [between_cons_of_ne hc, between_cons_of_ne hc, hrest]

/-! ## Which letters a sigma sees -/

theorem startsWithCased_eq (text : List Char) :
    startsWithCased text = (text.find? fun c => !isIgnorable c).any (inRanges casedRanges) := by
  have hhead : (text.find? fun c => !isIgnorable c) =
      (text.dropWhile (inRanges ignorableRanges)).head? := by
    rw [List.find?_eq_head?_dropWhile_not]
    simp only [Bool.not_not]
    rfl
  rw [hhead, startsWithCased]
  cases text.dropWhile (inRanges ignorableRanges) <;> rfl

/-- What stands behind a character that is not ignorable is not looked at. -/
theorem startsWithCased_append {text : List Char} (h : ¬text.all isIgnorable) (rest : List Char) :
    startsWithCased (text ++ rest) = startsWithCased text := by
  have hsome : (text.find? fun c => !isIgnorable c).isSome := by
    simpa [List.find?_isSome] using h
  rw [startsWithCased_eq, startsWithCased_eq, List.find?_append, Option.or_of_isSome hsome]

theorem startsWithCased_append_of_all {text : List Char} (h : text.all isIgnorable)
    (rest : List Char) : startsWithCased (text ++ rest) = startsWithCased rest := by
  have hnone : (text.find? fun c => !isIgnorable c) = none := by
    simpa [List.find?_eq_none] using h
  rw [startsWithCased_eq, startsWithCased_eq, List.find?_append, hnone, Option.none_or]

theorem not_startsWithCased_of_all {text : List Char} (h : text.all isIgnorable) :
    ¬startsWithCased text := by
  rw [← List.append_nil text, startsWithCased_append_of_all h]
  exact Bool.false_ne_true

theorem isIgnorable_sigma : isIgnorable '\u03A3' = false := by decide +kernel

theorem sigma_not_mem {text : List Char} (h : text.all isIgnorable) : '\u03A3' ∉ text := by
  intro hmem
  have hsigma := List.all_eq_true.mp h _ hmem
  rw [isIgnorable_sigma] at hsigma
  cases hsigma

theorem startsWithCased_append_sigma (text rest following : List Char) :
    startsWithCased (text ++ '\u03A3' :: (rest ++ following)) =
      startsWithCased (text ++ '\u03A3' :: rest) := by
  rw [← List.cons_append, ← List.append_assoc]
  exact startsWithCased_append (by simp [isIgnorable_sigma]) following

variable {before following : List Char}

theorem sigma_congr {before' following' : List Char}
    (hbefore : startsWithCased before = startsWithCased before')
    (hfollowing : startsWithCased following = startsWithCased following') :
    sigma before following = sigma before' following' := by
  rw [sigma, sigma, hbefore, hfollowing]

theorem sigma_eq_small (h : ¬(startsWithCased before ∧ ¬startsWithCased following)) :
    sigma before following = '\u03C3' := by
  rw [sigma, if_neg]
  simpa using h

theorem sigma_eq_final (hbefore : startsWithCased before) (hfollowing : ¬startsWithCased following) :
    sigma before following = '\u03C2' := by
  rw [sigma, if_pos]
  simp [hbefore, hfollowing]

/-- Whether a text alone, given backwards before a capital sigma, settles the form of the sigma. It
does not if a letter stands before the sigma and the text ends behind it, up to ignorable characters,
for then a letter may follow. Nor does it if the text starts with the sigma, up to ignorable
characters, and no letter follows in it, for then a letter may stand before. -/
def Settled (before following : List Char) : Prop :=
  ¬(startsWithCased before ∧ following.all isIgnorable) ∧
    ¬(before.all isIgnorable ∧ ¬startsWithCased following)

instance (before following : List Char) : Decidable (Settled before following) :=
  inferInstanceAs (Decidable (_ ∧ _))

/-- All capital sigmas of a text take their forms from the text alone. -/
def SettlesSigmas (text : List Char) : Prop :=
  ∀ part rest, text = part ++ '\u03A3' :: rest → Settled part.reverse rest

theorem settlesSigmas_iff {text : List Char} : SettlesSigmas text ↔
    ∀ i (hi : i < text.length), text[i] = '\u03A3' →
      Settled (text.take i).reverse (text.drop (i + 1)) := by
  constructor
  · intro h i hi hsigma
    refine h _ _ ?_
    rw [← hsigma, ← List.drop_eq_getElem_cons, List.take_append_drop]
  · rintro h part rest rfl
    have hpart := h part.length (by simp) (by simp)
    simpa using hpart

instance (text : List Char) : Decidable (SettlesSigmas text) :=
  decidable_of_iff _ settlesSigmas_iff.symm

theorem sigma_append_of_settled (h : Settled before following) (more others : List Char) :
    sigma (before ++ more) (following ++ others) = sigma before following := by
  by_cases hfollowing : following.all isIgnorable
  · -- Nothing is known to follow, so there must be a character before that is no letter.
    have hcased : ¬startsWithCased before := fun hcased => h.1 ⟨hcased, hfollowing⟩
    have hbefore : ¬before.all isIgnorable := fun hbefore =>
      h.2 ⟨hbefore, not_startsWithCased_of_all hfollowing⟩
    rw [sigma_eq_small fun hboth => hcased hboth.1, sigma_eq_small]
    rw [startsWithCased_append hbefore]
    exact fun hboth => hcased hboth.1
  · have hsame := startsWithCased_append hfollowing others
    by_cases hbefore : before.all isIgnorable
    · -- Nothing is known to stand before, so a letter must follow.
      have hletter : startsWithCased following := by
        by_contra hletter
        exact h.2 ⟨hbefore, hletter⟩
      rw [sigma_eq_small fun hboth => hboth.2 hletter, sigma_eq_small]
      rw [hsame]
      exact fun hboth => hboth.2 hletter
    · exact sigma_congr (startsWithCased_append hbefore more) hsame

theorem startsWithCased_append_letter {text : List Char} (h : text.all isIgnorable) :
    startsWithCased (text ++ ['a']) := by
  rw [startsWithCased_append_of_all h]
  decide +kernel

/-- A letter behind changes the form of a sigma that ends a word as far as the text goes. -/
theorem sigma_letter_ne (hbefore : startsWithCased before) (hfollowing : following.all isIgnorable) :
    sigma before (following ++ ['a']) ≠ sigma before following := by
  have hletter := startsWithCased_append_letter hfollowing
  rw [sigma_eq_small fun hboth => hboth.2 hletter,
    sigma_eq_final hbefore (not_startsWithCased_of_all hfollowing)]
  decide

/-- A letter before changes the form of a sigma that starts the text and that no letter follows. -/
theorem letter_sigma_ne (hbefore : before.all isIgnorable)
    (hfollowing : ¬startsWithCased following) :
    sigma (before ++ ['a']) following ≠ sigma before following := by
  have hnone := not_startsWithCased_of_all hbefore
  rw [sigma_eq_final (startsWithCased_append_letter hbefore) hfollowing,
    sigma_eq_small fun hboth => hnone hboth.1]
  decide

/-! ## Occurrences -/

theorem lowerCase_append (before text following : List Char) :
    lowerCase (before ++ (text ++ following)) = between [] before (text ++ following) ++
      (between before.reverse text following ++ between (text.reverse ++ before.reverse) following [])
    := by
  rw [lowerCase_eq_between, between_append, between_append, List.append_nil,
    List.append_nil, List.append_nil]

/-- Where the capital sigmas of a piece take the same form in the text as in the piece alone, the
lower-cased piece is found in the lower-cased text. -/
theorem lowerCase_infix_lowerCase {before text following : List Char}
    (h : ∀ part rest, text = part ++ '\u03A3' :: rest →
      sigma (part.reverse ++ before.reverse) (rest ++ following) = sigma part.reverse rest) :
    lowerCase text <:+: lowerCase (before ++ (text ++ following)) := by
  have hsame : between before.reverse text following = lowerCase text := by
    rw [lowerCase_eq_between]
    refine between_congr fun part rest htext => ?_
    rw [List.append_nil, List.append_nil]
    exact h part rest htext
  rw [lowerCase_append, hsame, ← List.append_assoc]
  exact List.infix_append ..

theorem between_letters {text : List Char} (h : ∀ c ∈ text, c = 'a') (before following : List Char) :
    between before text following = text := by
  induction text generalizing before with
  | nil => rfl
  | cons c text ih =>
      rw [List.forall_mem_cons] at h
      have hletter : ofChar 'a' = ['a'] := by decide
      rw [h.1, between_cons_of_ne (by decide), hletter, ih h.2]
      rfl

theorem sigma_cases (before following : List Char) :
    sigma before following = '\u03C2' ∨ sigma before following = '\u03C3' := by
  rw [sigma]
  split
  · exact .inl rfl
  · exact .inr rfl

theorem count_sigma_letters {text : List Char} (h : ∀ c ∈ text, c = 'a')
    (before following : List Char) : text.count (sigma before following) = 0 := by
  rw [List.count_eq_zero]
  intro hmem
  rcases sigma_cases before following with hform | hform <;>
    exact absurd (hform.symm.trans (h _ hmem)) (by decide)

/-- Capital sigmas that have another one behind them do not look beyond it. -/
theorem between_sigma_append {part before : List Char}
    (h : before = [] ∨ part.all isIgnorable) (rest following : List Char) :
    between before part ('\u03A3' :: (rest ++ following)) = between [] part ('\u03A3' :: rest) := by
  refine between_congr fun p r hpart => ?_
  rcases h with rfl | hall
  · exact sigma_congr rfl (startsWithCased_append_sigma r rest following)
  · exact absurd (by simp [hpart]) (sigma_not_mem hall)

/-- Capital sigmas that have another one before them do not look beyond it. -/
theorem between_append_sigma {rest following : List Char}
    (h : following = [] ∨ rest.all isIgnorable) (part before : List Char) :
    between ('\u03A3' :: (part.reverse ++ before)) rest following =
      between ('\u03A3' :: part.reverse) rest [] := by
  refine between_congr fun p r hrest => ?_
  rcases h with rfl | hall
  · exact sigma_congr (startsWithCased_append_sigma p.reverse part.reverse before) rfl
  · exact absurd (by simp [hrest]) (sigma_not_mem hall)

/-- When letters around a text change the form of one capital sigma and of no other, the old form is
met less often than in the text alone. -/
theorem count_lowerCase_lt {part rest before following : List Char}
    (hbefore : before = [] ∨ part.all isIgnorable)
    (hfollowing : following = [] ∨ rest.all isIgnorable)
    (hletters : (∀ c ∈ before, c = 'a') ∧ ∀ c ∈ following, c = 'a')
    (hne : sigma (part.reverse ++ before) (rest ++ following) ≠ sigma part.reverse rest) :
    (lowerCase (before.reverse ++ ((part ++ '\u03A3' :: rest) ++ following))).count
        (sigma part.reverse rest) <
      (lowerCase (part ++ '\u03A3' :: rest)).count (sigma part.reverse rest) := by
  have hbefore' : ∀ c ∈ before.reverse, c = 'a' := fun c hc =>
    hletters.1 c (List.mem_reverse.mp hc)
  rw [lowerCase_append, between_letters hbefore', between_letters hletters.2, List.reverse_reverse,
    between_append, List.cons_append, between_cons_sigma, between_sigma_append hbefore,
    between_append_sigma hfollowing]
  have halone : lowerCase (part ++ '\u03A3' :: rest) = between [] part ('\u03A3' :: rest) ++
      sigma part.reverse rest :: between ('\u03A3' :: part.reverse) rest [] := by
    rw [lowerCase_eq_between, between_append, between_cons_sigma, List.append_nil,
      List.append_nil, List.append_nil]
  simp [halone, List.count_append, count_sigma_letters hletters.1,
    count_sigma_letters hletters.2, hne]

theorem isBlank_sigma (before following : List Char) : isBlank (sigma before following) = false := by
  rcases sigma_cases before following with hform | hform <;>
    rw [hform] <;> decide

/-- A form that is not settled is changed by letters on one side. -/
theorem exists_not_infix {part rest : List Char} (h : ¬Settled part.reverse rest) :
    ∃ before following, ¬trim (lowerCase (part ++ '\u03A3' :: rest)) <:+:
      trim (lowerCase (before ++ ((part ++ '\u03A3' :: rest) ++ following))) := by
  have hletter : ∀ c ∈ ['a'], c = 'a' := by simp
  have hnone : ∀ c ∈ ([] : List Char), c = 'a' := by simp
  rw [Settled, not_and_or, not_not, not_not] at h
  rcases h with ⟨hcased, hall⟩ | ⟨hall, hcased⟩
  · refine ⟨_, _, not_trim_infix_trim (isBlank_sigma ..)
      (count_lowerCase_lt (.inl rfl) (.inr hall) ⟨hnone, hletter⟩ ?_)⟩
    rw [List.append_nil]
    exact sigma_letter_ne hcased hall
  · have hall' : part.all isIgnorable := List.all_reverse ▸ hall
    refine ⟨_, _, not_trim_infix_trim (isBlank_sigma ..)
      (count_lowerCase_lt (.inr hall') (.inl rfl) ⟨hletter, hnone⟩ ?_)⟩
    rw [List.append_nil]
    exact letter_sigma_ne hall hcased

end LowerCase

end TableQuery.Text
